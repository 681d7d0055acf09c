import EdgeTranslators.Ble.Contexts

/-!
# Late replies of reads

`ble_read_characteristic_callback` has only the id and the indices that its request was made with.

* `ReadsTracked`        every read in flight is for a characteristic of a tracked device;
* `deletedContext`      the context a step deletes, from the state before it;
* `KeepsReadDevices`    no step deletes the context of a device that is being read;
* `readValue_tracked`   then every read in flight finds its characteristic, in every state of a run.
-/

namespace EdgeTranslators.Ble
open Lib Pt

/-- a read in flight finds its device, and the characteristic in its tables -/
def ReadsTracked (t : Translator) : Prop :=
  ∀ id i j, Call.readValue id i j ∈ t.calls →
    ∃ d ∈ t.devices, d.deviceId = id ∧ (d.char? i j).isSome

def Call.isReadOf (id : String) : Call → Bool
  | .readValue id' _ _ => id' = id
  | _ => false

/-! ## the contexts a step deletes -/

/-- a reconnection that is taken for hopeless, of a device that cannot be unregistered -/
def deletedOnRetry (ans : Answers) (t : Translator) (ble : BleDevice) : Bool :=
  ble.retryTimerSource = 0 ∧ removesDeviceContext t ble ∧ unregisterFails ans t ble

/-- the context a step deletes -/
def deletedContext (cfg : Config) (ans : Answers) (t : Translator) : Event → Option BleDevice
  | .objectRemoved path =>
    if path = cfg.bluezHciPath then none
    else (devicesFindDeviceByDbusPath t.devices path).filter (unregisterFails ans t)
  | .removeDeviceDone k =>
    match t.calls[k]? with
    | some (.removeDevice id) =>
      (devicesFindDeviceByDeviceId t.devices id).filter (unregisterFails ans t)
    | _ => none
  | .connectDone k ok =>
    match t.calls[k]? with
    | some (.connect proxy) =>
      (bleFindDeviceFromProxy cfg t proxy).filter
        (if ok then creationRefused ans t else deletedOnRetry ans t)
    | _ => none
  | .connectedChanged proxy false =>
    (bleFindDeviceFromProxy cfg t proxy).filter (deletedOnRetry ans t)
  | .runIdle =>
    match t.idle with
    | .deviceUnregistered id true :: _ => devicesFindDeviceByDeviceId t.devices id
    | _ => none
  | _ => none

/-- no context is deleted while a characteristic of its device is being read -/
def KeepsReadDevices (cfg : Config) (t : Translator) (label : Event × Answers) : Prop :=
  ∀ ble ∈ deletedContext cfg label.2 t label.1, ∀ c ∈ t.calls, c.isReadOf ble.deviceId = false

instance (cfg : Config) (t : Translator) (label : Event × Answers) :
    Decidable (KeepsReadDevices cfg t label) := by
  unfold KeepsReadDevices
  infer_instance

section
variable {cfg : Config} {D : String → Prop} {R : Request → Prop} {E : Effect → Prop}
  {ans : Answers} {t t' : Translator} {ble : BleDevice} {proxy : DeviceProxy}

/-! ## what keeps the reads tracked -/

/-- no characteristic of the device with an id is being read -/
def NotRead (t : Translator) (id : String) : Prop := ∀ i j, Call.readValue id i j ∉ t.calls

theorem ReadsTracked.congr (h : ReadsTracked t) (hdevices : t'.devices = t.devices)
    (hcalls : ∀ id i j, Call.readValue id i j ∈ t'.calls → Call.readValue id i j ∈ t.calls) :
    ReadsTracked t' := by
  intro id i j hread
  rw [hdevices]
  exact h id i j (hcalls id i j hread)

theorem ReadsTracked.frame (h : ReadsTracked t) (hframe : Frame D R E t t')
    (hkeep : ∀ id, D id → NotRead t id) : ReadsTracked t' := by
  intro id i j hread
  have hread' := hframe.reads id i j hread
  obtain ⟨d, hd, rfl, hchar⟩ := h id i j hread'
  obtain ⟨d', hd', hq⟩ := hframe.forth d hd fun hdel => hkeep _ hdel i j hread'
  exact ⟨d', hd', hq.deviceId, hq.char i j hchar⟩

theorem ReadsTracked.still (h : ReadsTracked t) (hframe : Still t t') : ReadsTracked t' :=
  h.frame hframe fun _ hno => hno.elim

theorem ReadsTracked.set {ble' : BleDevice} (h : ReadsTracked t) (hwf : WellFormed cfg t)
    (hble : ble ∈ t.devices) (hkey : ble'.key = ble.key)
    (hchar : ∀ i j, (ble.char? i j).isSome → (ble'.char? i j).isSome) :
    ReadsTracked (t.set ble') := by
  intro id i j hread
  obtain ⟨d, hd, rfl, hd'⟩ := h id i j hread
  obtain ⟨hptr, hid, -⟩ := key_eq_iff.mp hkey
  by_cases heq : d.ptr = ble'.ptr
  · obtain rfl := eq_of_ptr hwf.ptr hd hble (heq.trans hptr)
    exact ⟨ble', devicesSet_mem_of_ptr hd heq, hid, hchar i j hd'⟩
  · exact ⟨d, devicesSet_mem_of_ne hd heq, rfl, hd'⟩

/-! ## the handlers -/

theorem bleOnServicesResolved_readsTracked (ans : Answers) (proxy : DeviceProxy)
    (hwf : WellFormed cfg t) (h : ReadsTracked t) :
    ReadsTracked (bleOnServicesResolved cfg ans t proxy) := by
  have hregister : ∀ t₁ : Translator, ∀ d, ReadsTracked t₁ →
      ReadsTracked (deviceRegisterDevice ans t₁ d) := fun t₁ d h₁ =>
    h₁.frame (D := fun _ => False) (deviceRegisterDevice_frame ans t₁ d) fun _ hno => hno.elim
  rcases bleOnServicesResolved_cases cfg ans t proxy with
    ⟨heq, -⟩ | ⟨ble, hfind, -, ⟨-, heq⟩ | ⟨-, heq⟩⟩
  · rwa [heq]
  · rw [heq]
    exact hregister t ble h
  · have hspec := resolveServices_spec cfg ans t ble
    have hclient : WellFormed cfg { t with client := (resolveServices cfg ans t ble).2 } :=
      hwf.congr rfl rfl
    have h₁ : ReadsTracked { t with client := (resolveServices cfg ans t ble).2 } :=
      h.congr rfl fun _ _ _ hread => hread
    rw [heq]
    exact hregister _ _ (h₁.set hclient (mem_of_bleFindDeviceFromProxy hwf hfind).1
      (resolveServices_key cfg ans t ble) hspec.char)

theorem bleConnected_readsTracked (ans : Answers) (proxy : DeviceProxy) (hwf : WellFormed cfg t)
    (hble : ble ∈ t.devices) (h : ReadsTracked t)
    (hkeep : creationRefused ans t ble = true → NotRead t ble.deviceId) :
    ReadsTracked (bleConnected cfg ans t proxy ble) := by
  have hset : ReadsTracked (t.set (refresh t ble)) := h.set hwf hble rfl fun _ _ hc => hc
  have hwf₁ : WellFormed cfg (t.set (refresh t ble)) := hwf.set hble rfl
  rcases bleConnected_cases cfg ans t proxy ble with
    ⟨-, heq⟩ | ⟨hconn, hmem, hcreate, heq⟩ | ⟨-, -, client, -, heq⟩
  · rwa [heq]
  · have hdel : Frame (· = ble.deviceId) (fun _ => False) (fun _ => False)
        (t.set (refresh t ble)) (devicesDelDevice (t.set (refresh t ble)) (refresh t ble)) :=
      devicesDelDevice_frame hwf₁ (refresh_mem hble)
    have hrefused : creationRefused ans t ble = true := by
      rw [creationRefused, decide_eq_true_eq]
      exact ⟨hconn, hmem, hcreate⟩
    rw [heq]
    refine hset.frame hdel fun id hid => ?_
    rw [hid]
    exact hkeep hrefused
  · have hclient : ReadsTracked { t.set (refresh t ble) with client } :=
      hset.congr rfl fun _ _ _ hread => hread
    rw [heq]
    split
    · exact bleOnServicesResolved_readsTracked ans proxy (hwf₁.congr rfl rfl) hclient
    · exact hclient

theorem ptBlePtReady_readsTracked (ans : Answers) (hwf : WellFormed cfg t) (h : ReadsTracked t) :
    ReadsTracked (ptBlePtReady cfg ans t) := by
  have hround : ∀ t₁, (WellFormed cfg t₁ ∧ ReadsTracked t₁) → ∀ ptr,
      WellFormed cfg (ptReadyDevice cfg ans t₁ ptr) ∧
        ReadsTracked (ptReadyDevice cfg ans t₁ ptr) := by
    rintro t₁ ⟨hwf₁, h₁⟩ ptr
    refine ⟨ptReadyDevice_wellFormed ans hwf₁ ptr, ?_⟩
    rcases ptReadyDevice_cases cfg ans t₁ ptr with heq | ⟨ble, -, -, -, -, client, -, heq⟩
    · rwa [heq]
    · have hclient : ReadsTracked { t₁ with client } := h₁.congr rfl fun _ _ _ hread => hread
      rw [heq]
      split
      · exact bleOnServicesResolved_readsTracked ans _ (hwf₁.congr rfl rfl) hclient
      · exact hclient
  exact (List.foldlRecOn (motive := fun t₁ => WellFormed cfg t₁ ∧ ReadsTracked t₁) _ _ ⟨hwf, h⟩
    fun t₁ h₁ ptr _ => hround t₁ h₁ ptr).2

theorem bleStartReconnection_readsTracked (ans : Answers) (hwf : WellFormed cfg t)
    (hble : ble ∈ t.devices) (h : ReadsTracked t)
    (hkeep : deletedOnRetry ans t ble = true → NotRead t ble.deviceId) :
    ReadsTracked (bleStartReconnectionTimerOrUnregisterDevice ans t ble) := by
  refine h.frame (bleStartReconnection_frame ans hwf hble) ?_
  rintro id ⟨rfl, hdel⟩
  exact hkeep (by rwa [deletedOnRetry, decide_eq_true_eq])

theorem edgeUnregisterOrDelete_readsTracked (ans : Answers) (hwf : WellFormed cfg t)
    (hble : ble ∈ t.devices) (h : ReadsTracked t)
    (hkeep : unregisterFails ans t ble = true → NotRead t ble.deviceId) :
    ReadsTracked (edgeUnregisterOrDelete ans t ble) := by
  have hframe := edgeUnregisterOrDelete_frame (E := fun _ => False) ans hwf hble
  refine h.frame hframe ?_
  rintro id ⟨rfl, hdel⟩
  exact hkeep hdel

theorem bleNewDevice_readsTracked (proxy : DeviceProxy) (h : ReadsTracked t) :
    ReadsTracked (bleNewDevice cfg t proxy) := by
  unfold bleNewDevice
  split
  · refine ReadsTracked.still ?_ (addCall_frame _ nofun)
    rcases bleCreateDeviceContext_cases cfg t proxy .persistentGattServer with
      ⟨heq, -⟩ | ⟨a, -, -, heq⟩
    · rwa [heq]
    · rw [heq]
      intro id i j hc
      obtain ⟨d, hd, hchar⟩ := h id i j hc
      exact ⟨d, List.mem_append_left _ hd, hchar⟩
  · exact h

theorem runIdle_readsTracked (ans : Answers) (i : Idle) (hwf : WellFormed cfg t)
    (h : ReadsTracked t)
    (hkeep : ∀ id ble, i = .deviceUnregistered id true →
      devicesFindDeviceByDeviceId t.devices id = some ble → NotRead t ble.deviceId) :
    ReadsTracked (runIdle cfg ans t i) := by
  cases i with
  | deviceRegistered id =>
    show ReadsTracked (deviceRegistered t id)
    unfold deviceRegistered
    cases hfind : devicesFindDeviceByDeviceId t.devices id with
    | none => exact h
    | some ble =>
      exact h.set hwf (mem_of_devicesFindDeviceByDeviceId hfind).1 rfl fun _ _ hc => hc
  | deviceUnregistered id deleteContext =>
    show ReadsTracked (deviceUnregistered t id deleteContext)
    unfold deviceUnregistered
    cases hfind : devicesFindDeviceByDeviceId t.devices id with
    | none => exact h
    | some ble =>
      have hble := (mem_of_devicesFindDeviceByDeviceId hfind).1
      cases deleteContext with
      | true =>
        refine h.frame (R := fun _ => False) (E := fun _ => False)
          (ptEdgeDelDevice_frame hwf hble) fun id' hid => ?_
        rw [hid]
        exact hkeep id ble rfl hfind
      | false => exact h.set hwf hble rfl fun _ _ hc => hc
  | ptReady => exact ptBlePtReady_readsTracked ans hwf h
  | quitLoop => exact h.still (ptBleGMainQuitLoop_frame _)
  | gracefulShutdown => exact h.still (ptBleGracefulShutdown_frame ans hwf)

/-! ## steps and runs -/

theorem handle_readsTracked {e : Event} (hwf : WellFormed cfg t) (h : ReadsTracked t)
    (hkeep : ∀ ble, deletedContext cfg ans t e = some ble → NotRead t ble.deviceId)
    (hstep : handle cfg ans t e = some t') : ReadsTracked t' := by
  -- the state of a handler that has taken the `k`-th call
  have hcalls : ∀ k, ReadsTracked { t with calls := t.calls.eraseIdx k } := fun k =>
    h.congr rfl fun _ _ _ hread => (List.eraseIdx_sublist ..).subset hread
  have hread : ∀ k id, NotRead t id → NotRead { t with calls := t.calls.eraseIdx k } id :=
    fun k id hno i j hc => hno i j ((List.eraseIdx_sublist ..).subset hc)
  have hwf₁ : ∀ k, WellFormed cfg { t with calls := t.calls.eraseIdx k } :=
    fun k => hwf.congr rfl rfl
  cases handled_of_handle hstep with
  | tick _ | linkUnknown _ _ | servicesUnresolved _ | connectionReady _ | disconnected =>
    exact h.congr rfl fun _ _ _ hc => hc
  | objectUnknown _ => exact h
  | @objectAdded proxy connected resolved links hlinks =>
    have h₁ : ReadsTracked { t with links } := h.congr rfl fun _ _ _ hc => hc
    exact bleNewDevice_readsTracked proxy h₁
  | @objectRemoved path ble hpath hfind =>
    refine edgeUnregisterOrDelete_readsTracked ans hwf (List.mem_of_find?_eq_some hfind) h ?_
    intro hfails
    refine hkeep ble ?_
    simp only [deletedContext]
    rw [if_neg hpath, hfind, Option.filter_some, if_pos hfails]
  | connectUnknown _ _ _ | removeUnknown _ => exact hcalls _
  | @connected k proxy ble hcall hfind =>
    have hble := (mem_of_bleFindDeviceFromProxy hwf hfind).1
    refine bleConnected_readsTracked ans proxy (hwf₁ k) hble (hcalls k) fun hrefused => ?_
    refine hread k _ (hkeep ble ?_)
    simp only [deletedContext, hcall, hfind, Option.filter_some]
    exact if_pos hrefused
  | @connectFailed k proxy ble hcall hfind =>
    have hble := (mem_of_bleFindDeviceFromProxy hwf hfind).1
    refine bleStartReconnection_readsTracked ans (hwf₁ k) hble (hcalls k) fun hdel => ?_
    refine hread k _ (hkeep ble ?_)
    simp only [deletedContext, hcall, hfind, Option.filter_some]
    exact if_pos hdel
  | @removeDeviceDone k ble hcall hfind =>
    have hble := (mem_of_devicesFindDeviceByDeviceId hfind).1
    refine edgeUnregisterOrDelete_readsTracked ans (hwf₁ k) hble (hcalls k) fun hfails => ?_
    refine hread k _ (hkeep ble ?_)
    simp only [deletedContext, hcall, hfind, Option.filter_some]
    exact if_pos hfails
  | readReply hcall hr =>
    have hframe := bleReadCharacteristicCallback_frame cfg.host hwf hr
    exact (h.still hframe).congr rfl fun _ _ _ hc => (List.eraseIdx_sublist ..).subset hc
  | @linkUp proxy ble links hlinks hfind =>
    have hlink : ReadsTracked { t with links } := h.congr rfl fun _ _ _ hc => hc
    have hble := (mem_of_bleFindDeviceFromProxy hwf hfind).1
    exact hlink.set (hwf.congr rfl rfl) hble rfl fun _ _ hc => hc
  | @linkDown proxy ble links hlinks hfind =>
    have hlink : ReadsTracked { t with links } := h.congr rfl fun _ _ _ hc => hc
    have hwf₁ : WellFormed cfg { t with links } := hwf.congr rfl rfl
    have hble := (mem_of_bleFindDeviceFromProxy hwf hfind).1
    have hset : ReadsTracked (Translator.set { t with links } { ble with connected := false }) :=
      hlink.set hwf₁ hble rfl fun _ _ hc => hc
    refine bleStartReconnection_readsTracked ans (hwf₁.set hble rfl)
      (devicesSet_mem_of_ptr hble rfl) hset fun hdel => ?_
    have hremoves := (@giveUp_congr t (Translator.set { t with links }
      { ble with connected := false }) ble { ble with connected := false } rfl rfl rfl).2
    have hdel' : deletedOnRetry ans t ble = true := by
      unfold deletedOnRetry at hdel
      rw [hremoves] at hdel
      exact hdel
    refine hkeep ble ?_
    simp only [deletedContext, hfind, Option.filter_some]
    exact if_pos hdel'
  | @servicesResolved proxy links hlinks =>
    have hlink : ReadsTracked { t with links } := h.congr rfl fun _ _ _ hc => hc
    exact bleOnServicesResolved_readsTracked ans proxy (hwf.congr rfl rfl) hlink
  | @retryTimer k _ _ htimer hretry =>
    have htimers : ReadsTracked { t with timers := t.timers.eraseIdx k } :=
      h.congr rfl fun _ _ _ hc => hc
    exact htimers.still (bleRetryConnect_frame (hwf.congr rfl rfl) hretry)
  | @runIdle i rest hidle =>
    have hrest : ReadsTracked { t with idle := rest } := h.congr rfl fun _ _ _ hc => hc
    have hwf₁ : WellFormed cfg { t with idle := rest } := hwf.congr rfl rfl
    refine runIdle_readsTracked ans i hwf₁ hrest fun id ble hi hfind => ?_
    subst hi
    exact hkeep ble (by simp only [deletedContext, hidle]; exact hfind)
  | readEverything =>
    obtain ⟨calls, heq, hnew⟩ := bleReadEverything_eq ans t
    rw [heq]
    intro id i j hc
    rcases List.mem_append.mp hc with hc | hc
    · exact h id i j hc
    · obtain ⟨ble, hble, i', j', hcall, hchar⟩ := hnew _ hc
      cases hcall
      exact ⟨ble, hble, rfl, hchar⟩
  | translatorRegistered =>
    exact h.frame (D := fun _ => False) (protocolTranslatorRegistrationSuccess_frame ans t)
      fun _ hno => hno.elim
  | translatorRegistrationFailed => exact h.still (protocolTranslatorRegistrationFailure_frame t)
  | connectionShutdown => exact h.still (shutdownCbHandler_frame t)
  | shutdownSignal => exact h.still (ptBleGracefulShutdown_frame ans hwf)
  | @answered k ok sent hk hlive =>
    refine h.congr (answer_same _ sent.request ok).1 fun id i j hc => ?_
    cases hr : sent.request <;> cases ok <;> rw [hr] at hc <;> exact hc
  | resourceWrite id path operation value outcome hr =>
    rw [← hr]
    exact h.still (resourceCallbackHandler_frame cfg.host id path operation value outcome hwf)

theorem run_readsTracked {now : Nat} {connection : Option Nat} {labels : List (Event × Answers)}
    (h : Run (step cfg) (KeepsReadDevices cfg) (start now connection) labels t) :
    ReadsTracked t := by
  have hwf := Run.strengthen (J := WellFormed cfg) (fun _ _ hrun => run_wellFormed hrun) h
  refine hwf.invariant nofun fun s label s' hs hok hstep => ?_
  have hclear : ReadsTracked { s with effects := [] } := hs.congr rfl fun _ _ _ hc => hc
  refine handle_readsTracked hok.2.clear hclear (fun ble hble i j hc => ?_)
    (handle_of_step hstep)
  have hno := hok.1 ble hble _ hc
  simp [Call.isReadOf] at hno

/-- **Late replies are safe in every run that deletes no device while it is being read.** -/
theorem readValue_tracked {now : Nat} {connection : Option Nat} {labels : List (Event × Answers)}
    (h : Run (step cfg) (KeepsReadDevices cfg) (start now connection) labels t) {id : String}
    {srvc ch : Nat} (hread : Call.readValue id srvc ch ∈ t.calls) :
    ∃ ble charact, devicesFindDeviceByDeviceId t.devices id = some ble ∧
      ble.char? srvc ch = some charact := by
  obtain ⟨d, hd, rfl, hchar⟩ := run_readsTracked h id srvc ch hread
  obtain ⟨charact, hcharact⟩ := Option.isSome_iff_exists.mp hchar
  exact ⟨d, charact, find?_deviceId_of_mem (run_wellFormed h) hd, hcharact⟩

end

/-- the device is being read, and nothing was deleted -/
theorem readValue_tracked_joins : ∃ labels t,
    Run (step plainConfig) (KeepsReadDevices plainConfig) (start 0 (some 0)) labels t ∧
      Call.readValue (plainConfig.id plainAddress) 0 0 ∈ t.calls ∧
      ∃ ble charact,
        devicesFindDeviceByDeviceId t.devices (plainConfig.id plainAddress) = some ble ∧
          ble.char? 0 0 = some charact := by
  have hany : (run (guarded (step plainConfig) (KeepsReadDevices plainConfig)) (start 0 (some 0))
      (plainLabels (joins ++ [Event.readEverything]))).any
        (fun t => decide (Call.readValue (plainConfig.id plainAddress) 0 0 ∈ t.calls)) = true := by
    decide +kernel
  obtain ⟨t, ht, hread⟩ := exists_of_run_any hany
  exact ⟨_, t, Run.of_guarded ht, hread, readValue_tracked (Run.of_guarded ht) hread⟩

/-- the device is back and is being read when Edge has unregistered it, and its context goes -/
def readWhileUnregistered : List Event :=
  joins ++ [.tick maxConnectionRetryTimeSeconds] ++ drops ++
    [.connectedChanged plainProxy true, .readEverything, .answered 0 true, .runIdle]

theorem not_readValue_tracked :
    ¬∀ labels t, Run (step plainConfig) (fun _ _ => True) (start 0 (some 0)) labels t →
      ∀ id srvc ch, Call.readValue id srvc ch ∈ t.calls →
        ∃ ble charact, devicesFindDeviceByDeviceId t.devices id = some ble ∧
          ble.char? srvc ch = some charact := by
  intro h
  have hany : (run (step plainConfig) (start 0 (some 0)) (plainLabels readWhileUnregistered)).any
      (fun t => decide (Call.readValue (plainConfig.id plainAddress) 0 0 ∈ t.calls ∧
        t.devices = [])) = true := by
    decide +kernel
  obtain ⟨t, ht, hread, hdevices⟩ := exists_of_run_any hany
  obtain ⟨ble, charact, hfind, -⟩ := h _ t (Run.of_run ht) _ _ _ hread
  rw [hdevices] at hfind
  cases hfind

end EdgeTranslators.Ble
