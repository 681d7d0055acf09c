import EdgeTranslators.Ble.Advance

/-!
# Devices in hand

`device_register_device` goes by a flag that idle callbacks set and clear.

* `flagAfter`            the flag after the callbacks that are queued;
* `InHand`               a `Connect` is pending, or the context is to be deleted, or the device is
                         registered or about to be, and no unregistration is requested;
* `Served`               the flag tells the truth once the callbacks have run, and every tracked
                         device that is up is in hand;
* `Served.advance`, `runIdle_served`, `answer_register_served`, `answer_unregister_served`
                         what keeps it.
-/

namespace EdgeTranslators.Ble
open Lib Pt

/-! ## the flag -/

/-- the flag of a context after the callbacks in its queue -/
def flagAfter (flag : Bool) (queue : List Told) : Bool :=
  queue.foldl (fun _ x => x = .registered) flag

theorem flagAfter_concat (flag : Bool) (queue : List Told) (x : Told) :
    flagAfter flag (queue ++ [x]) = decide (x = .registered) := by
  simp [flagAfter]

theorem flagAfter_mono {flag flag' : Bool} (h : flag = true → flag' = true) {queue : List Told}
    (hafter : flagAfter flag queue = true) : flagAfter flag' queue = true := by
  cases queue with
  | nil => exact h hafter
  | cons x queue => exact hafter

/-- a flag that is set stays set if no unregistration is queued -/
theorem flagAfter_of_forall {flag : Bool} (hflag : flag = true) {queue : List Told}
    (h : ∀ x ∈ queue, x = .registered) : flagAfter flag queue = true := by
  induction queue generalizing flag with
  | nil => exact hflag
  | cons x queue ih =>
    exact ih (decide_eq_true (h x List.mem_cons_self)) fun y hy => h y (List.mem_cons_of_mem _ hy)

/-! ## devices in hand -/

def LinkUp (t : Translator) (a : BtAddress) : Prop :=
  (t.links a).connected = true ∧ (t.links a).servicesResolved = true

def Call.connects (a : BtAddress) : Call → Bool
  | .connect proxy => proxy.address = some a
  | _ => false

def ConnectPending (t : Translator) (a : BtAddress) : Prop := ∃ c ∈ t.calls, c.connects a = true

def DeletionPending (t : Translator) (id : String) : Prop :=
  Requested t (.unregister id true) ∨ Told.unregistered true ∈ told id t.idle

def Unregistering (t : Translator) (id : String) : Prop :=
  Requested t (.unregister id false) ∨ Requested t (.unregister id true)

def InHand (t : Translator) (a : BtAddress) (id : String) : Prop :=
  ConnectPending t a ∨ DeletionPending t id ∨
    (¬Unregistering t id ∧ (id ∈ t.registered ∨ Requested t (.register id)))

instance (t : Translator) (a : BtAddress) : Decidable (LinkUp t a) := by
  unfold LinkUp
  infer_instance

instance (t : Translator) (a : BtAddress) : Decidable (ConnectPending t a) := by
  unfold ConnectPending
  infer_instance

instance (t : Translator) (id : String) : Decidable (DeletionPending t id) := by
  unfold DeletionPending Requested
  infer_instance

instance (t : Translator) (id : String) : Decidable (Unregistering t id) := by
  unfold Unregistering Requested
  infer_instance

instance (t : Translator) (a : BtAddress) (id : String) : Decidable (InHand t a id) := by
  unfold InHand Requested
  infer_instance

/-- a tracked device that is up is in hand -/
def HeldAt (cfg : Config) (t : Translator) (a : BtAddress) : Prop :=
  Tracks t a → LinkUp t a → InHand t a (cfg.id a)

/-- Edge is connected, and the flags tell the truth once the queued callbacks have run -/
structure FlagsTrue (t : Translator) : Prop where
  connected : t.edgeIsConnected = true
  flags : ∀ id flag, (flag = true → Flagged t id) → flagAfter flag (told id t.idle) = true →
    id ∈ t.registered

structure Served (cfg : Config) (t : Translator) : Prop where
  flags : FlagsTrue t
  held : ∀ a, HeldAt cfg t a

section
variable {cfg : Config} {R : Request → Prop} {ans : Answers} {t t' : Translator} {ble : BleDevice}
  {proxy : DeviceProxy} {a b : BtAddress} {id : String}

/-! ## what a handler keeps -/

theorem FlagsTrue.advance (hf : FlagsTrue t) (h : Advance R t t') : FlagsTrue t' where
  connected := h.edgeIsConnected hf.connected
  flags id flag hflag hafter := by
    rw [h.registered]
    rw [h.told] at hafter
    exact hf.flags id flag (fun hyes => h.flagged id (hflag hyes)) hafter

theorem ConnectPending.advance (h : Advance R t t') (hpending : ConnectPending t a) :
    ConnectPending t' a := by
  obtain ⟨c, hc, hconnects⟩ := hpending
  exact ⟨c, h.calls hc, hconnects⟩

theorem DeletionPending.advance (h : Advance R t t') (hpending : DeletionPending t id) :
    DeletionPending t' id := by
  rcases hpending with hreq | htold
  · exact .inl (h.requested hreq)
  · exact .inr (by rwa [h.told])

/-- a device stays in hand, unless its unregistration is requested -/
theorem InHand.advance (hin : InHand t a id) (h : Advance R t t')
    (hR : R (.unregister id false) → ConnectPending t a ∨ DeletionPending t id) :
    InHand t' a id := by
  rcases hin with hpending | hpending | ⟨hno, hreg⟩
  · exact .inl (hpending.advance h)
  · exact .inr (.inl (hpending.advance h))
  · by_cases hdel : Requested t' (.unregister id true)
    · exact .inr (.inl (.inl hdel))
    by_cases hunreg : Requested t' (.unregister id false)
    · rcases h.requested_or hunreg with hold | hnew
      · exact absurd (.inl hold) hno
      · rcases hR hnew with hpending | hpending
        · exact .inl (hpending.advance h)
        · exact .inr (.inl (hpending.advance h))
    · refine .inr (.inr ⟨fun hun => hun.elim hunreg hdel, ?_⟩)
      exact hreg.imp (fun hmem => by rwa [h.registered]) h.requested

theorem HeldAt.advance (hh : HeldAt cfg t a) (h : Advance R t t')
    (hR : LinkUp t a → R (.unregister (cfg.id a) false) →
      ConnectPending t a ∨ DeletionPending t (cfg.id a)) : HeldAt cfg t' a := by
  intro htracks hup
  have hup' : LinkUp t a := by
    unfold LinkUp
    rwa [← h.links]
  exact (hh (h.tracks a htracks) hup').advance h (hR hup')

theorem Served.advance (hs : Served cfg t) (h : Advance R t t')
    (hR : ∀ a, LinkUp t a → R (.unregister (cfg.id a) false) →
      ConnectPending t a ∨ DeletionPending t (cfg.id a)) : Served cfg t' :=
  ⟨hs.flags.advance h, fun a => (hs.held a).advance h (hR a)⟩

theorem register_ne_unregister {id : String} {del : Bool} :
    ¬Request.IsRegister (.unregister id del) := fun ⟨_, heq⟩ => nomatch heq

theorem Served.register (hs : Served cfg t) (h : Advance Request.IsRegister t t') :
    Served cfg t' :=
  hs.advance h fun _ _ hR => absurd hR register_ne_unregister

theorem Served.still (hs : Served cfg t) (h : Still t t') : Served cfg t' :=
  hs.register h.advance_of_still

/-- a link that does not change -/
theorem HeldAt.links {links : BtAddress → Link} (hh : HeldAt cfg t a)
    (hlinks : links a = t.links a) : HeldAt cfg { t with links } a := by
  intro htracks hup
  have hup' : LinkUp t a := by
    unfold LinkUp
    rwa [← hlinks]
  exact hh htracks hup'

/-- a call that ends and does not connect the device -/
theorem InHand.eraseCall {k : Nat} (hin : InHand t a id)
    (hk : ∀ c, t.calls[k]? = some c → c.connects a = false) :
    InHand { t with calls := t.calls.eraseIdx k } a id := by
  rcases hin with ⟨c, hc, hyes⟩ | hrest
  · obtain ⟨j, hj⟩ := List.mem_iff_getElem?.mp hc
    refine .inl ⟨c, List.mem_eraseIdx_iff_getElem?.mpr ⟨j, fun hjk => ?_, hj⟩, hyes⟩
    subst hjk
    exact absurd ((hk c hj).symm.trans hyes) nofun
  · exact .inr hrest

theorem HeldAt.eraseCall {k : Nat} (hh : HeldAt cfg t a)
    (hk : ∀ c, t.calls[k]? = some c → c.connects a = false) :
    HeldAt cfg { t with calls := t.calls.eraseIdx k } a :=
  fun htracks hup => (hh htracks hup).eraseCall hk

theorem FlagsTrue.congr (hf : FlagsTrue t) (hdevices : t'.devices = t.devices)
    (hconn : t'.client.connection = t.client.connection) (hregistered : t'.registered = t.registered)
    (hidle : t'.idle = t.idle) : FlagsTrue t' where
  connected := by
    rw [Translator.edgeIsConnected, hconn]
    exact hf.connected
  flags := by
    unfold Flagged
    rw [hdevices, hregistered, hidle]
    exact hf.flags

/-! ## idle callbacks -/

theorem told_cons (id : String) (i : Idle) (rest : List Idle) :
    told id (i :: rest) = (i.told? id).toList ++ told id rest := by
  unfold told
  rw [List.filterMap_cons]
  cases i.told? id <;> rfl

/-- a callback leaves the queue; when it tells of an unregistration, this has been done -/
theorem Served.pop {i : Idle} {rest : List Idle} (hs : Served cfg t) (hidle : t.idle = i :: rest)
    (hflag : ∀ id x, i.told? id = some (.unregistered x) → ¬Flagged t id)
    (htracks : ∀ a, i.told? (cfg.id a) = some (.unregistered true) → ¬Tracks t a) :
    Served cfg { t with idle := rest } := by
  refine ⟨⟨hs.flags.connected, fun id flag hyes hafter => ?_⟩, fun a htrack hup => ?_⟩
  · have htold := told_cons id i rest
    rw [← hidle] at htold
    cases hx : i.told? id with
    | none =>
      rw [hx] at htold
      exact hs.flags.flags id flag hyes (by rw [htold]; exact hafter)
    | some x =>
      rw [hx] at htold
      refine hs.flags.flags id false nofun ?_
      rw [htold]
      show flagAfter (decide (x = .registered)) (told id rest) = true
      refine flagAfter_mono (fun hset => ?_) hafter
      cases x with
      | registered => rfl
      | unregistered del => exact absurd (hyes hset) (hflag id del hx)
  · rcases hs.held a htrack hup with hpending | hpending | hrest
    · exact .inl hpending
    · refine .inr (.inl (hpending.imp (fun h => h) fun hmem => ?_))
      rw [hidle, told_cons] at hmem
      rcases List.mem_append.mp hmem with hmem | hmem
      · have hx := Option.mem_toList.mp hmem
        exact absurd htrack (htracks a hx)
      · exact hmem
    · exact .inr (.inr hrest)

theorem deviceRegistered_served {rest : List Idle} (hs : Served cfg t)
    (hidle : t.idle = .deviceRegistered id :: rest) :
    Served cfg (deviceRegistered { t with idle := rest } id) := by
  have hpop : Served cfg { t with idle := rest } := by
    refine hs.pop hidle (fun id' x hx => ?_) fun a hx => ?_ <;>
      · simp only [Idle.told?] at hx
        split at hx <;> cases hx
  unfold deviceRegistered
  cases hfind : devicesFindDeviceByDeviceId t.devices id with
  | none => exact hpop
  | some ble =>
    obtain ⟨hble, rfl⟩ := mem_of_devicesFindDeviceByDeviceId hfind
    -- the flag is what the callback said, and the registration was done before
    have htold : told ble.deviceId t.idle = .registered :: told ble.deviceId rest := by
      rw [hidle, told_cons]
      simp [Idle.told?]
    refine ⟨⟨hpop.flags.connected, fun id' flag hyes hafter => ?_⟩, fun a htrack hup => ?_⟩
    · by_cases hid : id' = ble.deviceId
      · subst hid
        refine hs.flags.flags ble.deviceId false nofun ?_
        rw [htold]
        exact flagAfter_mono (fun _ => rfl) hafter
      · refine hpop.flags.flags id' flag (fun hset => ?_) hafter
        obtain ⟨d, hd, hdid, hdflag⟩ := hyes hset
        rcases mem_devicesSet hd with rfl | hd
        · exact absurd hdid.symm hid
        · exact ⟨d, hd, hdid, hdflag⟩
    · obtain ⟨d, hd, haddr⟩ := htrack
      rcases mem_devicesSet hd with rfl | hd
      · exact hpop.held a ⟨ble, hble, haddr⟩ hup
      · exact hpop.held a ⟨d, hd, haddr⟩ hup

theorem deviceStopRetryTimer_idle (q : List Idle) :
    deviceStopRetryTimer { t with idle := q } ble =
      { deviceStopRetryTimer t ble with idle := q } := by
  unfold deviceStopRetryTimer
  split <;> rfl

/-- a deletion does not look at the callbacks that are queued -/
theorem ptEdgeDelDevice_pop (ble : BleDevice) {i : Idle} {rest : List Idle}
    (hidle : t.idle = i :: rest) :
    ∃ rest', (ptEdgeDelDevice t ble).idle = i :: rest' ∧
      ptEdgeDelDevice { t with idle := rest } ble =
        { ptEdgeDelDevice t ble with idle := rest' } := by
  have hidle' : (devicesDelDevice t ble).idle = i :: rest := by
    unfold devicesDelDevice deviceStopRetryTimer
    split <;> exact hidle
  have hpop : devicesDelDevice { t with idle := rest } ble =
      { devicesDelDevice t ble with idle := rest } := by
    unfold devicesDelDevice
    rw [deviceStopRetryTimer_idle]
  unfold ptEdgeDelDevice
  rw [hpop]
  generalize devicesDelDevice t ble = t₁ at hidle' ⊢
  by_cases hlast : t₁.unregisteringDevices = true ∧ t₁.devices = []
  · simp only [if_pos hlast]
    exact ⟨rest ++ [Idle.quitLoop], by simp [Translator.addIdle, hidle'], rfl⟩
  · simp only [if_neg hlast]
    exact ⟨rest, hidle', rfl⟩

theorem tracks_deviceId (hwf : WellFormed cfg t) (h : Tracks t a) :
    ∃ d ∈ t.devices, d.deviceId = cfg.id a := by
  obtain ⟨d, hd, haddr⟩ := h
  obtain ⟨b, haddr', hid⟩ := hwf.address d hd
  obtain rfl : a = b := Option.some.inj (haddr.symm.trans haddr')
  exact ⟨d, hd, hid⟩

theorem deviceUnregistered_served {rest : List Idle} {deleteContext : Bool}
    (hwf : WellFormed cfg t) (hs : Served cfg t)
    (hidle : t.idle = .deviceUnregistered id deleteContext :: rest) :
    Served cfg (deviceUnregistered { t with idle := rest } id deleteContext) := by
  have htold : ∀ id' x, (Idle.deviceUnregistered id deleteContext).told? id' =
      some (.unregistered x) → id = id' ∧ deleteContext = x := by
    intro id' x hx
    simp only [Idle.told?] at hx
    split at hx
    · cases hx
      exact ⟨‹_›, rfl⟩
    · cases hx
  unfold deviceUnregistered
  cases hfind : devicesFindDeviceByDeviceId t.devices id with
  | none =>
    have hnone : ∀ d ∈ t.devices, d.deviceId ≠ id := by
      intro d hd hid
      exact absurd hid (by simpa using List.find?_eq_none.mp hfind d hd)
    refine hs.pop hidle (fun id' x hx => ?_) fun a hx htrack => ?_
    · obtain ⟨rfl, -⟩ := htold _ _ hx
      rintro ⟨d, hd, hid, -⟩
      exact hnone d hd hid
    · obtain ⟨rfl, -⟩ := htold _ _ hx
      obtain ⟨d, hd, hid⟩ := tracks_deviceId hwf htrack
      exact hnone d hd hid
  | some ble =>
    obtain ⟨hble, rfl⟩ := mem_of_devicesFindDeviceByDeviceId hfind
    cases deleteContext with
    | false =>
      have hkey : BleDevice.key { ble with registered := false } = ble.key := rfl
      have hwf' : WellFormed cfg (t.set { ble with registered := false }) := hwf.set hble hkey
      have hclear : Served cfg (t.set { ble with registered := false }) :=
        hs.register (.set hble hkey nofun)
      refine hclear.pop hidle (fun id' x hx => ?_) fun a hx => ?_
      · obtain ⟨rfl, -⟩ := htold _ _ hx
        rintro ⟨d, hd, hid, hflag⟩
        have hmem : { ble with registered := false } ∈
            (t.set { ble with registered := false }).devices := devicesSet_mem_of_ptr hble rfl
        rw [List.inj_on_of_nodup_map hwf'.id hd hmem hid] at hflag
        cases hflag
      · exact absurd (htold _ _ hx).2 nofun
    | true =>
      have hframe : Frame (· = ble.deviceId) (fun _ => False) (fun _ => False) t
          (ptEdgeDelDevice t ble) := ptEdgeDelDevice_frame hwf hble
      have hgone := ptEdgeDelDevice_deviceId hwf hble
      have hdel : Served cfg (ptEdgeDelDevice t ble) :=
        hs.register (hframe.advance.mono fun _ hR => hR.elim)
      obtain ⟨rest', hidle', heq⟩ := ptEdgeDelDevice_pop ble hidle
      simp only [if_true]
      rw [heq]
      refine hdel.pop hidle' (fun id' x hx => ?_) fun a hx htrack => ?_
      · obtain ⟨rfl, -⟩ := htold _ _ hx
        rintro ⟨d, hd, hid, -⟩
        exact hgone d hd hid
      · obtain ⟨hid, -⟩ := htold _ _ hx
        obtain ⟨d, hd, hid'⟩ := tracks_deviceId (hframe.wellFormed hwf) htrack
        exact hgone d hd (hid'.trans hid.symm)

theorem runIdle_served {i : Idle} {rest : List Idle} (hwf : WellFormed cfg t) (hs : Served cfg t)
    (hidle : t.idle = i :: rest) : Served cfg (runIdle cfg ans { t with idle := rest } i) := by
  have hwf₁ : WellFormed cfg { t with idle := rest } := hwf.congr rfl rfl
  have hpop : (∀ id, i.told? id = none) → Served cfg { t with idle := rest } := by
    intro hnone
    refine hs.pop hidle (fun id x hx => ?_) fun a hx => ?_
    · rw [hnone] at hx
      cases hx
    · rw [hnone] at hx
      cases hx
  cases i with
  | deviceRegistered id => exact deviceRegistered_served hs hidle
  | deviceUnregistered id deleteContext => exact deviceUnregistered_served hwf hs hidle
  | ptReady => exact (hpop fun _ => rfl).register (ptBlePtReady_advance ans hwf₁)
  | quitLoop => exact (hpop fun _ => rfl).still (ptBleGMainQuitLoop_frame _)
  | gracefulShutdown => exact (hpop fun _ => rfl).still (ptBleGracefulShutdown_frame ans hwf₁)

/-! ## answers of Edge -/

theorem told_concat (id : String) (idle : List Idle) (i : Idle) :
    told id (idle ++ [i]) = told id idle ++ (i.told? id).toList := by
  rw [told_append, told_cons]
  exact congrArg _ (List.append_nil _)

/-- a request that is answered; the others stay -/
theorem Requested.eraseIdx {k : Nat} {r : Request} (h : Requested t r) :
    (∃ sent, t.requests[k]? = some sent ∧ sent.request = r) ∨
      Requested { t with requests := t.requests.eraseIdx k } r := by
  obtain ⟨s, hs, rfl⟩ := h
  obtain ⟨j, hj⟩ := List.mem_iff_getElem?.mp hs
  by_cases hjk : j = k
  · subst hjk
    exact .inl ⟨s, hj, rfl⟩
  · exact .inr ⟨s, List.mem_eraseIdx_iff_getElem?.mpr ⟨j, hjk, hj⟩, rfl⟩

theorem Requested.of_eraseIdx {k : Nat} {r : Request}
    (h : Requested { t with requests := t.requests.eraseIdx k } r) : Requested t r := by
  obtain ⟨s, hs, heq⟩ := h
  exact ⟨s, (List.eraseIdx_sublist ..).subset hs, heq⟩

/-- an unregistration that is not requested stays so -/
theorem not_unregistering_eraseIdx {k : Nat} (h : ¬Unregistering t id) :
    ¬Unregistering { t with requests := t.requests.eraseIdx k } id :=
  fun hun => h (hun.imp Requested.of_eraseIdx Requested.of_eraseIdx)

theorem answer_register_served {k : Nat} {sent : Sent} (hs : Served cfg t)
    (hk : t.requests[k]? = some sent) (hreq : sent.request = .register id) :
    Served cfg (Translator.answer { t with requests := t.requests.eraseIdx k } (.register id)
      true) := by
  refine ⟨⟨hs.flags.connected, fun id' flag hyes hafter => ?_⟩, fun a htrack hup => ?_⟩
  · by_cases hid : id = id'
    · subst hid
      exact List.mem_cons_self
    · have htold : told id' (t.idle ++ [Idle.deviceRegistered id]) = told id' t.idle := by
        rw [told_concat]
        simp [Idle.told?, hid]
      have hafter' : flagAfter flag (told id' (t.idle ++ [Idle.deviceRegistered id])) = true := hafter
      rw [htold] at hafter'
      exact List.mem_cons_of_mem _ (hs.flags.flags id' flag hyes hafter')
  · -- no request but the registration is gone
    have hother : ∀ r, Requested t r → r ≠ .register id →
        Requested { t with requests := t.requests.eraseIdx k } r := by
      intro r hr hne
      refine (hr.eraseIdx (k := k)).resolve_left ?_
      rintro ⟨s, hs', rfl⟩
      obtain rfl := Option.some.inj (hk.symm.trans hs')
      exact hne hreq
    rcases hs.held a htrack hup with hpending | hpending | ⟨hno, hreg⟩
    · exact .inl hpending
    · refine .inr (.inl (hpending.imp (fun hdel => hother _ hdel nofun) fun hmem => ?_))
      show _ ∈ told _ (t.idle ++ [_])
      rw [told_concat]
      exact List.mem_append_left _ hmem
    · refine .inr (.inr ⟨not_unregistering_eraseIdx hno, ?_⟩)
      by_cases hid : cfg.id a = id
      · exact .inl (List.mem_cons.mpr (.inl hid))
      · refine hreg.imp (List.mem_cons_of_mem _) fun hr => hother _ hr fun heq => ?_
        exact hid (Request.register.inj heq)

theorem answer_unregister_served {k : Nat} {sent : Sent} {deleteContext : Bool}
    (hs : Served cfg t) (hk : t.requests[k]? = some sent)
    (hreq : sent.request = .unregister id deleteContext) :
    Served cfg (Translator.answer { t with requests := t.requests.eraseIdx k }
      (.unregister id deleteContext) true) := by
  have htold : ∀ id', told id' (t.idle ++ [Idle.deviceUnregistered id deleteContext]) =
      told id' t.idle ++ if id = id' then [.unregistered deleteContext] else [] := by
    intro id'
    rw [told_concat]
    by_cases hid : id = id' <;> simp [Idle.told?, hid]
  refine ⟨⟨hs.flags.connected, fun id' flag hyes hafter => ?_⟩, fun a htrack hup => ?_⟩
  · have hafter' : flagAfter flag (told id' (t.idle ++ [Idle.deviceUnregistered id deleteContext])) =
        true := hafter
    rw [htold] at hafter'
    by_cases hid : id = id'
    · rw [if_pos hid, flagAfter_concat] at hafter'
      cases hafter'
    · rw [if_neg hid, List.append_nil] at hafter'
      refine List.mem_filter.mpr ⟨hs.flags.flags id' flag hyes hafter', ?_⟩
      exact decide_eq_true fun heq => hid heq.symm
  · rcases hs.held a htrack hup with hpending | hpending | ⟨hno, hreg⟩
    · exact .inl hpending
    · refine .inr (.inl ?_)
      have hqueued : ∀ x, x ∈ told (cfg.id a) t.idle →
          x ∈ told (cfg.id a) (t.idle ++ [Idle.deviceUnregistered id deleteContext]) := by
        intro x hx
        rw [htold]
        exact List.mem_append_left _ hx
      rcases hpending with hdel | hmem
      · rcases hdel.eraseIdx (k := k) with ⟨s, hs', heq⟩ | hdel
        · -- the deletion is what Edge answers, and the callback is queued
          obtain rfl := Option.some.inj (hk.symm.trans hs')
          obtain ⟨rfl, rfl⟩ := Request.unregister.inj (hreq.symm.trans heq)
          refine .inr ?_
          show _ ∈ told _ (t.idle ++ [_])
          rw [htold, if_pos rfl]
          exact List.mem_append_right _ (List.mem_singleton_self _)
        · exact .inl hdel
      · exact .inr (hqueued _ hmem)
    · have hid : id ≠ cfg.id a := by
        rintro rfl
        have hmem := List.mem_of_getElem? hk
        refine hno ?_
        cases deleteContext with
        | false => exact .inl ⟨sent, hmem, hreq⟩
        | true => exact .inr ⟨sent, hmem, hreq⟩
      refine .inr (.inr ⟨not_unregistering_eraseIdx hno, hreg.imp (fun hmem => ?_) fun hr => ?_⟩)
      · exact List.mem_filter.mpr ⟨hmem, decide_eq_true fun heq => hid heq.symm⟩
      · refine (hr.eraseIdx (k := k)).resolve_left ?_
        rintro ⟨s, hs', heq⟩
        obtain rfl := Option.some.inj (hk.symm.trans hs')
        cases hreq.symm.trans heq

end

end EdgeTranslators.Ble
