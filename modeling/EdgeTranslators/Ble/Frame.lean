import EdgeTranslators.Ble.Resolution

/-!
# What the handlers of the BLE translator leave alone

* `WellFormed`        the list of contexts: pointers and device ids are unique, and an id is that of
                      its proxy's address;
* `Quiet`             an update of a context that no result below depends on;
* `Frame D R E t t'`  from `t` to `t'` contexts are updated quietly, only those with an id in `D` may
                      be deleted, only requests in `R` are sent, only effects in `E` are added,
                      and the rest grows or stays;
* one `_frame` lemma for each function that has a frame.
-/

namespace EdgeTranslators.Ble
open Lib Pt

/-- the fields of a context that are never written after it is linked -/
def BleDevice.key (ble : BleDevice) : Nat × String × DeviceProxy :=
  (ble.ptr, ble.deviceId, ble.proxy)

theorem key_eq_iff {d d' : BleDevice} :
    d'.key = d.key ↔ d'.ptr = d.ptr ∧ d'.deviceId = d.deviceId ∧ d'.proxy = d.proxy := by
  simp [BleDevice.key]

structure WellFormed (cfg : Config) (t : Translator) : Prop where
  ptr : (t.devices.map (·.ptr)).Nodup
  fresh : ∀ d ∈ t.devices, d.ptr < t.nextPtr
  id : (t.devices.map (·.deviceId)).Nodup
  address : ∀ d ∈ t.devices, ∃ a, d.proxy.address = some a ∧ d.deviceId = cfg.id a

/-- a context before and after an update -/
structure Quiet (d d' : BleDevice) : Prop where
  key : d'.key = d.key
  since : d'.lastConnectedTimestampSecs = d.lastConnectedTimestampSecs
  registered : d'.registered = d.registered
  servicesResolved : d'.servicesResolved = d.servicesResolved
  translations : d'.translations = d.translations
  servicePaths : servicePaths d'.services = servicePaths d.services
  char : ∀ i j, (d.char? i j).isSome → (d'.char? i j).isSome

theorem Quiet.refl (d : BleDevice) : Quiet d d := ⟨rfl, rfl, rfl, rfl, rfl, rfl, fun _ _ h => h⟩

theorem Quiet.trans {d d' d'' : BleDevice} (h : Quiet d d') (h' : Quiet d' d'') : Quiet d d'' :=
  ⟨h'.key.trans h.key, h'.since.trans h.since, h'.registered.trans h.registered,
    h'.servicesResolved.trans h.servicesResolved, h'.translations.trans h.translations,
    h'.servicePaths.trans h.servicePaths, fun i j hc => h'.char i j (h.char i j hc)⟩

theorem Quiet.ptr {d d' : BleDevice} (h : Quiet d d') : d'.ptr = d.ptr := (key_eq_iff.mp h.key).1
theorem Quiet.deviceId {d d' : BleDevice} (h : Quiet d d') : d'.deviceId = d.deviceId :=
  (key_eq_iff.mp h.key).2.1
theorem Quiet.proxy {d d' : BleDevice} (h : Quiet d d') : d'.proxy = d.proxy :=
  (key_eq_iff.mp h.key).2.2
theorem Quiet.paths {d d' : BleDevice} (h : Quiet d d') : d'.paths = d.paths := by
  unfold BleDevice.paths
  rw [h.servicePaths, h.translations]

/-! ## writing through a pointer -/

section
variable {ds : List BleDevice} {d ble ble' : BleDevice}

theorem devicesSet_keys (hnodup : (ds.map (·.ptr)).Nodup) (hble : ble ∈ ds)
    (hkey : ble'.key = ble.key) : (devicesSet ds ble').map BleDevice.key = ds.map BleDevice.key := by
  unfold devicesSet
  rw [List.map_map]
  refine List.map_congr_left fun d hd => ?_
  have hptr := (key_eq_iff.mp hkey).1
  simp only [Function.comp_apply]
  split
  · rename_i h
    rw [hkey, eq_of_ptr hnodup hd hble (h.trans hptr)]
  · rfl

end

/-- what a step told a device -/
inductive Told where
  | registered
  | unregistered (deleteContext : Bool)
  deriving DecidableEq, Repr

def Idle.told? (id : String) : Idle → Option Told
  | .deviceRegistered id' => if id' = id then some .registered else none
  | .deviceUnregistered id' deleteContext =>
    if id' = id then some (.unregistered deleteContext) else none
  | _ => none

/-- the queued callbacks for one device -/
def told (id : String) (idle : List Idle) : List Told := idle.filterMap (Idle.told? id)

theorem told_append (id : String) (a b : List Idle) : told id (a ++ b) = told id a ++ told id b :=
  List.filterMap_append ..

/-! ## frames -/

structure Frame (D : String → Prop) (R : Request → Prop) (E : Effect → Prop) (t t' : Translator) :
    Prop where
  back : ∀ d' ∈ t'.devices, ∃ d ∈ t.devices, Quiet d d'
  forth : ∀ d ∈ t.devices, ¬D d.deviceId → ∃ d' ∈ t'.devices, Quiet d d'
  keys : (t'.devices.map BleDevice.key).Sublist (t.devices.map BleDevice.key)
  nextPtr : t'.nextPtr = t.nextPtr
  now : t'.now = t.now
  links : t'.links = t.links
  client : Grows t.client t'.client
  registered : t'.registered = t.registered
  calls : t.calls ⊆ t'.calls
  reads : ∀ id i j, Call.readValue id i j ∈ t'.calls → Call.readValue id i j ∈ t.calls
  requests : t.requests ⊆ t'.requests
  sent : ∀ s ∈ t'.requests, s ∈ t.requests ∨ R s.request
  told : ∀ id, told id t'.idle = told id t.idle
  effects : ∀ e ∈ t'.effects, e ∈ t.effects ∨ E e

/-- nothing deleted, nothing sent, no effect -/
abbrev Still : Translator → Translator → Prop :=
  Frame (fun _ => False) (fun _ => False) (fun _ => False)

section
variable {cfg : Config} {D D' : String → Prop} {R R' : Request → Prop} {E E' : Effect → Prop}
  {t t' t'' : Translator}

theorem Frame.refl (t : Translator) : Frame D R E t t where
  back d hd := ⟨d, hd, .refl d⟩
  forth d hd _ := ⟨d, hd, .refl d⟩
  keys := List.Sublist.refl _
  nextPtr := rfl
  now := rfl
  links := rfl
  client := .refl _
  registered := rfl
  calls := List.Subset.refl _
  reads _ _ _ h := h
  requests := List.Subset.refl _
  sent _ h := Or.inl h
  told _ := rfl
  effects _ h := Or.inl h

theorem Frame.trans (h : Frame D R E t t') (h' : Frame D R E t' t'') : Frame D R E t t'' where
  back d'' hd'' := by
    obtain ⟨d', hd', hq'⟩ := h'.back d'' hd''
    obtain ⟨d, hd, hq⟩ := h.back d' hd'
    exact ⟨d, hd, hq.trans hq'⟩
  forth d hd hno := by
    obtain ⟨d', hd', hq⟩ := h.forth d hd hno
    obtain ⟨d'', hd'', hq'⟩ := h'.forth d' hd' (by rwa [hq.deviceId])
    exact ⟨d'', hd'', hq.trans hq'⟩
  keys := h'.keys.trans h.keys
  nextPtr := h'.nextPtr.trans h.nextPtr
  now := h'.now.trans h.now
  links := h'.links.trans h.links
  client := h.client.trans h'.client
  registered := h'.registered.trans h.registered
  calls := List.Subset.trans h.calls h'.calls
  reads id i j hr := h.reads id i j (h'.reads id i j hr)
  requests := List.Subset.trans h.requests h'.requests
  sent s hs := (h'.sent s hs).elim (h.sent s) Or.inr
  told id := (h'.told id).trans (h.told id)
  effects e he := (h'.effects e he).elim (h.effects e) Or.inr

theorem Frame.mono (h : Frame D R E t t') (hD : ∀ id, D id → D' id) (hR : ∀ r, R r → R' r)
    (hE : ∀ e, E e → E' e) : Frame D' R' E' t t' :=
  { h with
    forth := fun d hd hno => h.forth d hd fun hd' => hno (hD _ hd')
    sent := fun s hs => (h.sent s hs).imp_right (hR _)
    effects := fun e he => (h.effects e he).imp_right (hE e) }

theorem Frame.of_still (h : Still t t') : Frame D R E t t' :=
  h.mono (fun _ h => h.elim) (fun _ h => h.elim) fun _ h => h.elim

/-- a context of the end state is a context of the start -/
theorem WellFormed.of_keys (h : WellFormed cfg t)
    (hkeys : (t'.devices.map BleDevice.key).Sublist (t.devices.map BleDevice.key))
    (hnext : t'.nextPtr = t.nextPtr) : WellFormed cfg t' := by
  have hsub := fun {α : Type} (f : Nat × String × DeviceProxy → α) => hkeys.map f
  have hmem : ∀ d' ∈ t'.devices, ∃ d ∈ t.devices, d'.key = d.key := fun d' hd' => by
    obtain ⟨d, hd, hkey⟩ := List.mem_map.mp (hkeys.subset (List.mem_map_of_mem hd'))
    exact ⟨d, hd, hkey.symm⟩
  refine ⟨?_, fun d' hd' => ?_, ?_, fun d' hd' => ?_⟩
  · have hs := hsub Prod.fst
    rw [List.map_map, List.map_map] at hs
    exact h.ptr.sublist hs
  · obtain ⟨d, hd, hkey⟩ := hmem d' hd'
    rw [(key_eq_iff.mp hkey).1, hnext]
    exact h.fresh d hd
  · have hs := hsub fun k => k.2.1
    rw [List.map_map, List.map_map] at hs
    exact h.id.sublist hs
  · obtain ⟨d, hd, hkey⟩ := hmem d' hd'
    obtain ⟨-, hid, hproxy⟩ := key_eq_iff.mp hkey
    rw [hid, hproxy]
    exact h.address d hd

theorem Frame.wellFormed (h : Frame D R E t t') (hwf : WellFormed cfg t) : WellFormed cfg t' :=
  hwf.of_keys h.keys h.nextPtr

/-! ## the primitive updates -/

theorem set_frame {ble ble' : BleDevice} (hptr : (t.devices.map (·.ptr)).Nodup)
    (hble : ble ∈ t.devices) (hq : Quiet ble ble') : Still t (t.set ble') :=
  { (Frame.refl t : Still t t) with
    back := fun d' hd' => by
      rcases mem_devicesSet hd' with rfl | hd'
      · exact ⟨ble, hble, hq⟩
      · exact ⟨d', hd', .refl d'⟩
    forth := fun d hd _ => by
      by_cases hd' : d.ptr = ble'.ptr
      · obtain rfl := eq_of_ptr hptr hd hble (hd'.trans hq.ptr)
        exact ⟨ble', devicesSet_mem_of_ptr hd hd', hq⟩
      · exact ⟨d, devicesSet_mem_of_ne hd hd', .refl d⟩
    keys := by
      show ((devicesSet t.devices ble').map BleDevice.key).Sublist _
      rw [devicesSet_keys hptr hble hq.key] }

theorem send_frame (t : Translator) (r : Request) : Frame D (· = r) E t (t.send r) := by
  unfold Translator.send
  split
  · exact .refl t
  · exact { (Frame.refl t : Frame D (· = r) E t t) with
      requests := fun _ h => List.mem_append_left _ h
      sent := fun s hs => (List.mem_append.mp hs).imp_right fun h => by
        rw [List.mem_singleton.mp h] }

theorem addCall_frame (t : Translator) {c : Call} (hc : ∀ id i j, c ≠ .readValue id i j) :
    Still t (t.addCall c) :=
  { (Frame.refl t : Still t t) with
    calls := fun _ h => List.mem_append_left _ h
    reads := fun id i j h => by
      rcases List.mem_append.mp h with h | h
      · exact h
      · exact absurd (List.mem_singleton.mp h).symm (hc id i j) }

theorem addIdle_frame (t : Translator) {i : Idle} (hi : ∀ id, i.told? id = none) :
    Still t (t.addIdle i) :=
  { (Frame.refl t : Still t t) with
    told := fun id => by
      show Ble.told id (t.idle ++ [i]) = _
      rw [told_append]
      simp [Ble.told, hi id] }

theorem addEffect_frame (t : Translator) (e : Effect) :
    Frame D R (· = e) t (t.addEffect e) :=
  { (Frame.refl t : Frame D R (· = e) t t) with
    effects := fun _ he => (List.mem_append.mp he).imp_right List.mem_singleton.mp }

/-! ## the functions -/

variable {ble : BleDevice}

/-- a pointer in the list leads to the id of its device -/
theorem WellFormed.deviceId_of_ptr (hwf : WellFormed cfg t) (hble : ble ∈ t.devices) {d : BleDevice}
    (hd : d ∈ t.devices) (h : d.ptr = ble.ptr) : d.deviceId = ble.deviceId := by
  rw [eq_of_ptr hwf.ptr hd hble h]

theorem deviceStopRetryTimer_frame (hwf : WellFormed cfg t) (hble : ble ∈ t.devices) :
    Still t (deviceStopRetryTimer t ble) := by
  unfold deviceStopRetryTimer
  split
  · exact .refl t
  · have htimers : Still t
        { t with timers := t.timers.filter fun timer => timer.source ≠ ble.retryTimerSource } :=
      { (Frame.refl t : Still t t) with }
    have hq : Quiet ble { ble with retryTimerSource := 0 } :=
      ⟨rfl, rfl, rfl, rfl, rfl, rfl, fun _ _ h => h⟩
    exact htimers.trans (set_frame hwf.ptr hble hq)

theorem devicesDelDevice_frame (hwf : WellFormed cfg t) (hble : ble ∈ t.devices) :
    Frame (· = ble.deviceId) R E t (devicesDelDevice t ble) := by
  have hstop := deviceStopRetryTimer_frame hwf hble
  refine (Frame.of_still hstop).trans ?_
  unfold devicesDelDevice
  generalize deviceStopRetryTimer t ble = t₁ at hstop ⊢
  refine { (Frame.refl t₁ : Frame (· = ble.deviceId) R E t₁ t₁) with
    back := fun d hd => ⟨d, (List.mem_filter.mp hd).1, .refl d⟩
    forth := fun d hd hne => ⟨d, List.mem_filter.mpr ⟨hd, decide_eq_true fun hptr => ?_⟩, .refl d⟩
    keys := List.filter_sublist.map _ }
  obtain ⟨d₀, hd₀, hq⟩ := hstop.back d hd
  exact hne (hq.deviceId.trans (hwf.deviceId_of_ptr hble hd₀ (hq.ptr.symm.trans hptr)))

theorem ptEdgeDelDevice_frame (hwf : WellFormed cfg t) (hble : ble ∈ t.devices) :
    Frame (· = ble.deviceId) R E t (ptEdgeDelDevice t ble) := by
  unfold ptEdgeDelDevice
  have hdel : Frame (· = ble.deviceId) R E t (devicesDelDevice t ble) :=
    devicesDelDevice_frame hwf hble
  simp only
  split
  · exact hdel.trans (Frame.of_still (addIdle_frame _ fun _ => rfl))
  · exact hdel

theorem edgeRegisterDevice_frame (ans : Answers) (t : Translator) (id : String) :
    Frame D (· = .register id)
      (· = .registerDevice id (devicesFindDeviceByDeviceId t.devices id)
        (t.client.devices.lookup id)) t (edgeRegisterDevice ans t id) := by
  unfold edgeRegisterDevice
  simp only
  split
  · exact (addEffect_frame t _).trans (send_frame _ _)
  · exact addEffect_frame t _

theorem deviceRegisterDevice_frame (ans : Answers) (t : Translator) (ble : BleDevice) :
    Frame D (· = .register ble.deviceId)
      (· = .registerDevice ble.deviceId (devicesFindDeviceByDeviceId t.devices ble.deviceId)
        (t.client.devices.lookup ble.deviceId)) t (deviceRegisterDevice ans t ble) := by
  unfold deviceRegisterDevice
  split
  · exact .refl t
  · exact edgeRegisterDevice_frame ans t ble.deviceId

/-- the unregistration of a device cannot be asked for -/
def unregisterFails (ans : Answers) (t : Translator) (ble : BleDevice) : Bool :=
  !(deviceExists t.client ble.deviceId && ans.unregister ble.deviceId)

theorem edgeUnregisterDevice_eq (ans : Answers) (t : Translator) (ble : BleDevice) (rm : Bool) :
    edgeUnregisterDevice ans t ble rm =
      if unregisterFails ans t ble then (false, t)
      else (true, t.send (.unregister ble.deviceId rm)) := by
  unfold edgeUnregisterDevice unregisterFails
  cases deviceExists t.client ble.deviceId <;> cases ans.unregister ble.deviceId <;> rfl

theorem edgeUnregisterOrDelete_frame (ans : Answers) (hwf : WellFormed cfg t)
    (hble : ble ∈ t.devices) :
    Frame (fun id => id = ble.deviceId ∧ unregisterFails ans t ble)
      (· = .unregister ble.deviceId true) E t (edgeUnregisterOrDelete ans t ble) := by
  unfold edgeUnregisterOrDelete
  rw [edgeUnregisterDevice_eq]
  by_cases h : unregisterFails ans t ble = true
  · rw [if_pos h]
    have hdel : Frame (· = ble.deviceId) (· = .unregister ble.deviceId true) E t
        (ptEdgeDelDevice t ble) := ptEdgeDelDevice_frame hwf hble
    exact hdel.mono (fun _ hid => ⟨hid, h⟩) (fun _ h => h) fun _ h => h
  · rw [if_neg h]
    exact send_frame t _

theorem countRetry_quiet (ble : BleDevice) : Quiet ble (countRetry ble) := by
  unfold countRetry
  split
  · exact ⟨rfl, rfl, rfl, rfl, rfl, rfl, fun _ _ h => h⟩
  · exact .refl ble

theorem armRetryTimer_frame (hwf : WellFormed cfg t) (hble : ble ∈ t.devices) (delayMs : Nat) :
    Still t (armRetryTimer t ble delayMs) := by
  have htimers : Still t
      { t with
        timers := t.timers ++ [Timer.mk t.nextSource ble.ptr delayMs]
        nextSource := t.nextSource + 1 } := { (Frame.refl t : Still t t) with }
  have hq : Quiet ble { ble with retryTimerSource := t.nextSource } :=
    ⟨rfl, rfl, rfl, rfl, rfl, rfl, fun _ _ h => h⟩
  exact htimers.trans (set_frame hwf.ptr hble hq)

theorem countRetry_connectionRetries (ble : BleDevice) :
    (countRetry ble).connectionRetries =
      if ble.connectionRetries < bleMaxConnectionRetries then ble.connectionRetries + 1
      else ble.connectionRetries := by
  unfold countRetry
  split <;> rfl

/-- whether a device is given up depends on its retries and on the age of its timestamp -/
theorem giveUp_congr {ble' : BleDevice} (hretries : ble'.connectionRetries = ble.connectionRetries)
    (hsince : ble'.lastConnectedTimestampSecs = ble.lastConnectedTimestampSecs)
    (hnow : t'.now = t.now) :
    givesUp t' ble' = givesUp t ble ∧
      removesDeviceContext t' ble' = removesDeviceContext t ble := by
  unfold givesUp removesDeviceContext backOffExceeded devicesDurationInSecSinceLastConnection
  rw [countRetry_connectionRetries, countRetry_connectionRetries, hretries, hsince, hnow]
  exact ⟨rfl, rfl⟩

theorem givesUp_of_removesDeviceContext (h : removesDeviceContext t ble = true) :
    givesUp t ble = true := by
  unfold removesDeviceContext maxConnectionRetryTimeSeconds at h
  unfold givesUp bleMaxBackOffTimeSecs
  rw [decide_eq_true_eq] at h ⊢
  exact ⟨h.1, by omega⟩

theorem send_devices (t : Translator) (r : Request) : (t.send r).devices = t.devices := by
  unfold Translator.send
  split <;> rfl

theorem giveUpDevice_frame (ans : Answers) (hwf : WellFormed cfg t) (hble : ble ∈ t.devices)
    (rm : Bool) :
    Frame (fun id => id = ble.deviceId ∧ rm ∧ unregisterFails ans t ble)
      (· = .unregister ble.deviceId rm) (· = .gaveUp ble.deviceId rm) t
      (giveUpDevice ans t ble rm) := by
  have heffect : Frame (fun id => id = ble.deviceId ∧ rm ∧ unregisterFails ans t ble)
      (· = .unregister ble.deviceId rm) (· = .gaveUp ble.deviceId rm) t
      (t.addEffect (.gaveUp ble.deviceId rm)) := addEffect_frame t _
  have hwf₁ := heffect.wellFormed hwf
  unfold giveUpDevice
  rw [edgeUnregisterDevice_eq]
  by_cases hfails : unregisterFails ans t ble = true
  · have hfails' : unregisterFails ans (t.addEffect (.gaveUp ble.deviceId rm)) ble = true := hfails
    rw [if_pos hfails']
    by_cases hrm : rm = true
    · have hdel : Frame (· = ble.deviceId) (· = .unregister ble.deviceId rm)
          (· = .gaveUp ble.deviceId rm) (t.addEffect (.gaveUp ble.deviceId rm))
          (ptEdgeDelDevice (t.addEffect (.gaveUp ble.deviceId rm)) ble) :=
        ptEdgeDelDevice_frame hwf₁ hble
      simp only [if_pos hrm]
      exact heffect.trans (hdel.mono (fun _ hid => ⟨hid, hrm, hfails⟩) (fun _ h => h) fun _ h => h)
    · simp only [if_neg hrm]
      exact heffect
  · have hfails' : ¬unregisterFails ans (t.addEffect (.gaveUp ble.deviceId rm)) ble = true := hfails
    rw [if_neg hfails']
    exact heffect.trans (send_frame _ _)

/-- a context that is not removed stays in the list -/
theorem giveUpDevice_devices (ans : Answers) (t : Translator) (ble : BleDevice) :
    (giveUpDevice ans t ble false).devices = t.devices := by
  unfold giveUpDevice
  rw [edgeUnregisterDevice_eq]
  split
  · rename_i heq
    split at heq <;> cases heq
    exact send_devices _ _
  · rename_i heq
    split at heq <;> cases heq
    rfl

/-- **What `ble_start_reconnection_timer_or_unregister_device` may do.** -/
theorem bleStartReconnection_frame (ans : Answers) (hwf : WellFormed cfg t)
    (hble : ble ∈ t.devices) :
    Frame
      (fun id => id = ble.deviceId ∧ ble.retryTimerSource = 0 ∧ removesDeviceContext t ble ∧
        unregisterFails ans t ble)
      (fun r => r = .unregister ble.deviceId (removesDeviceContext t ble) ∧
        ble.retryTimerSource = 0 ∧ givesUp t ble)
      (fun e => e = .gaveUp ble.deviceId (removesDeviceContext t ble) ∧
        ble.retryTimerSource = 0 ∧ givesUp t ble)
      t (bleStartReconnectionTimerOrUnregisterDevice ans t ble) := by
  have hq := countRetry_quiet ble
  have hset : Still t (t.set (countRetry ble)) := set_frame hwf.ptr hble hq
  have hwf₁ := hset.wellFormed hwf
  have hmem : countRetry ble ∈ (t.set (countRetry ble)).devices :=
    devicesSet_mem_of_ptr hble hq.ptr.symm
  unfold bleStartReconnectionTimerOrUnregisterDevice
  by_cases hzero : ble.retryTimerSource = 0
  · rw [if_pos hzero]
    simp only
    have hid : (countRetry ble).deviceId = ble.deviceId := hq.deviceId
    have hfails : unregisterFails ans (t.set (countRetry ble)) (countRetry ble) =
        unregisterFails ans t ble := by
      unfold unregisterFails
      rw [hid]
      rfl
    by_cases hgives : givesUp t ble = true
    · rw [if_pos hgives]
      have hgiveUp := giveUpDevice_frame ans hwf₁ hmem (removesDeviceContext t ble)
      rw [hid, hfails] at hgiveUp
      have hframe : Frame
          (fun id => id = ble.deviceId ∧ ble.retryTimerSource = 0 ∧ removesDeviceContext t ble ∧
            unregisterFails ans t ble)
          (fun r => r = .unregister ble.deviceId (removesDeviceContext t ble) ∧
            ble.retryTimerSource = 0 ∧ givesUp t ble)
          (fun e => e = .gaveUp ble.deviceId (removesDeviceContext t ble) ∧
            ble.retryTimerSource = 0 ∧ givesUp t ble)
          t (giveUpDevice ans (t.set (countRetry ble)) (countRetry ble)
            (removesDeviceContext t ble)) :=
        (Frame.of_still hset).trans (hgiveUp.mono (fun _ h => ⟨h.1, hzero, h.2⟩)
          (fun _ h => ⟨h, hzero, hgives⟩) fun _ h => ⟨h, hzero, hgives⟩)
      by_cases hremoves : removesDeviceContext t ble = true
      · rw [if_pos hremoves]
        exact hframe
      · rw [if_neg hremoves]
        refine hframe.trans (Frame.of_still ?_)
        refine armRetryTimer_frame (hframe.wellFormed hwf) ?_ _
        rw [Bool.not_eq_true] at hremoves
        rw [hremoves, giveUpDevice_devices]
        exact hmem
    · have hno : removesDeviceContext t ble = false := by
        by_contra h
        exact hgives (givesUp_of_removesDeviceContext (by simpa using h))
      rw [if_neg hgives, hno]
      exact Frame.of_still (hset.trans (armRetryTimer_frame hwf₁ hmem _))
  · rw [if_neg hzero]
    exact .refl t

end

end EdgeTranslators.Ble
