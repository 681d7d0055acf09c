import EdgeTranslators.Ble.InHand

/-!
# Devices at rest

* `EdgeServes`           Edge stays connected and does what it is asked;
* `KeepsInHand`          no step that brings a device up, or ends its `Connect`, leaves it in no
                         hand;
* `handle_served`        such a step keeps every device that is up in hand;
* `registered_atRest`    a device that is up is registered, in every state at rest of such a run.
-/

namespace EdgeTranslators.Ble
open Lib Pt

/-! ## conditions -/

/-- Edge stays connected, takes every registration and does what it is asked -/
def EdgeServes (t : Translator) : Event × Answers → Prop
  | (.connectionReady _, _) => False
  | (.disconnected, _) => False
  | (.answered _ ok, _) => ok = true
  | (_, ans) => ∀ ble ∈ t.devices, ans.register ble.deviceId = true

/-- no unregistration of the device is requested, and its flag is not about to be cleared -/
def Settled (t : Translator) (ble : BleDevice) : Prop :=
  ¬Unregistering t ble.deviceId ∧
    (ble.registered = true → ∀ x ∈ told ble.deviceId t.idle, x = .registered)

/-- the device is unregistered without being forgotten when its `Connect` fails -/
def unregisteredOnRetry (t : Translator) (ble : BleDevice) : Bool :=
  ble.retryTimerSource = 0 ∧ givesUp t ble ∧ removesDeviceContext t ble = false

/-- a device whose link comes up, or whose `Connect` ends while its link is up, is in hand or is
taken in hand -/
def KeepsInHand (cfg : Config) (t : Translator) : Event × Answers → Prop
  | (.connectedChanged proxy true, _) =>
    ∀ ble ∈ bleFindDeviceFromProxy cfg t proxy, ∀ a ∈ proxy.address,
      (t.links a).servicesResolved = true → InHand t a ble.deviceId
  | (.servicesResolvedChanged proxy true, _) =>
    ∀ ble ∈ bleFindDeviceFromProxy cfg t proxy, ∀ a ∈ proxy.address,
      (t.links a).connected = true →
        InHand t a ble.deviceId ∨
          (Settled t ble ∧ (ble.registered = true ∨ ble.deviceId ∈ t.client.devices))
  | (.connectDone k ok, _) =>
    match t.calls[k]? with
    | some (.connect proxy) =>
      ∀ ble ∈ bleFindDeviceFromProxy cfg t proxy, ∀ a ∈ proxy.address, LinkUp t a →
        if ok then InHand { t with calls := t.calls.eraseIdx k } a ble.deviceId ∨ Settled t ble
        else InHand { t with calls := t.calls.eraseIdx k } a ble.deviceId ∧
          (unregisteredOnRetry t ble = true →
            ConnectPending { t with calls := t.calls.eraseIdx k } a ∨
              DeletionPending t ble.deviceId)
    | _ => True
  | _ => True

instance (t : Translator) (ble : BleDevice) : Decidable (Settled t ble) := by
  unfold Settled
  infer_instance

instance (t : Translator) (label : Event × Answers) : Decidable (EdgeServes t label) := by
  unfold EdgeServes
  split <;> infer_instance

instance (cfg : Config) (t : Translator) (label : Event × Answers) :
    Decidable (KeepsInHand cfg t label) := by
  unfold KeepsInHand
  split
  · infer_instance
  · infer_instance
  · split <;> infer_instance
  · infer_instance

section
variable {cfg : Config} {R : Request → Prop} {ans : Answers} {t t' : Translator} {ble : BleDevice}
  {proxy : DeviceProxy} {a b : BtAddress} {id : String}

/-! ## links and calls -/

theorem find_of_tracks (hwf : WellFormed cfg t) (haddr : proxy.address = some a)
    (h : Tracks t a) : ∃ ble, bleFindDeviceFromProxy cfg t proxy = some ble := by
  obtain ⟨d, hd, hid⟩ := tracks_deviceId hwf h
  rw [bleFindDeviceFromProxy, haddr, Option.bind_some, ← Option.isSome_iff_exists]
  exact List.find?_isSome.mpr ⟨d, hd, by simpa using hid⟩

theorem connectedChanged_of_address (haddr : proxy.address = some a) (value : Bool) :
    ∃ links, t.connectedChanged proxy value = { t with links } ∧
      (links a).connected = value ∧ (links a).servicesResolved = (t.links a).servicesResolved ∧
      ∀ b, b ≠ a → links b = t.links b := by
  unfold Translator.connectedChanged
  rw [haddr]
  refine ⟨_, rfl, ?_, ?_, fun b hb => Function.update_of_ne hb _ _⟩ <;> rw [Function.update_self]

theorem servicesResolvedChanged_of_address (haddr : proxy.address = some a) (value : Bool) :
    ∃ links, t.servicesResolvedChanged proxy value = { t with links } ∧
      (links a).servicesResolved = value ∧ (links a).connected = (t.links a).connected ∧
      ∀ b, b ≠ a → links b = t.links b := by
  unfold Translator.servicesResolvedChanged
  rw [haddr]
  refine ⟨_, rfl, ?_, ?_, fun b hb => Function.update_of_ne hb _ _⟩ <;> rw [Function.update_self]

/-- the links of all devices but one stay -/
theorem Served.links {links : BtAddress → Link} (hs : Served cfg t)
    (hlinks : ∀ b, b ≠ a → links b = t.links b) (hheld : HeldAt cfg { t with links } a) :
    Served cfg { t with links } := by
  refine ⟨hs.flags.congr rfl rfl rfl rfl, fun b => ?_⟩
  by_cases hb : b = a
  · subst hb
    exact hheld
  · exact (hs.held b).links (hlinks b hb)

/-! ## handlers -/

theorem bleNewDevice_served (proxy : DeviceProxy) (hs : Served cfg t) :
    Served cfg (bleNewDevice cfg t proxy) := by
  unfold bleNewDevice
  split
  · rcases bleCreateDeviceContext_cases cfg t proxy .persistentGattServer with
      ⟨heq, -⟩ | ⟨a, haddr, -, heq⟩
    · rw [heq]
      exact hs.still (addCall_frame t nofun)
    · rw [heq]
      refine ⟨⟨hs.flags.connected, fun id flag hyes hafter => ?_⟩, fun b htrack hup => ?_⟩
      · refine hs.flags.flags id flag (fun hset => ?_) hafter
        obtain ⟨d, hd, hid, hflag⟩ := hyes hset
        rcases List.mem_append.mp hd with hd | hd
        · exact ⟨d, hd, hid, hflag⟩
        · rw [List.mem_singleton.mp hd] at hflag
          cases hflag
      · obtain ⟨d, hd, haddr'⟩ := htrack
        rcases List.mem_append.mp hd with hd | hd
        · rcases hs.held b ⟨d, hd, haddr'⟩ hup with ⟨c, hc, hyes⟩ | hrest
          · exact .inl ⟨c, List.mem_append_left _ hc, hyes⟩
          · exact .inr hrest
        · -- the new device is being connected
          rw [List.mem_singleton.mp hd] at haddr'
          exact .inl ⟨.connect proxy, List.mem_append_right _ (List.mem_singleton_self _),
            decide_eq_true haddr'⟩
  · exact hs

theorem edgeUnregisterOrDelete_served (ans : Answers) (hwf : WellFormed cfg t) (hs : Served cfg t)
    (hble : ble ∈ t.devices) : Served cfg (edgeUnregisterOrDelete ans t ble) :=
  hs.advance (edgeUnregisterOrDelete_frame (E := fun _ => False) ans hwf hble).advance
    fun _ _ hR => nomatch (Request.unregister.inj hR).2

/-- a device that gets no retry, or whose link is down, may be unregistered -/
theorem bleStartReconnection_served (ans : Answers) (hwf : WellFormed cfg t) (hs : Served cfg t)
    (hble : ble ∈ t.devices) (haddr : ble.proxy.address = some a)
    (hdown : LinkUp t a → unregisteredOnRetry t ble = true →
      ConnectPending t a ∨ DeletionPending t (cfg.id a)) :
    Served cfg (bleStartReconnectionTimerOrUnregisterDevice ans t ble) := by
  refine hs.advance (bleStartReconnection_frame ans hwf hble).advance fun b hup hR => ?_
  obtain ⟨heq, hzero, hgives⟩ := hR
  obtain ⟨hid, hrm⟩ := Request.unregister.inj heq
  obtain ⟨a', haddr', hid'⟩ := hwf.address ble hble
  obtain rfl : a = a' := Option.some.inj (haddr.symm.trans haddr')
  obtain rfl : b = a := bleDeviceId_inj (hid.trans hid')
  refine hdown hup ?_
  rw [unregisteredOnRetry, decide_eq_true_eq]
  exact ⟨hzero, hgives, hrm.symm⟩

/-- a settled device is taken in hand when its services are resolved -/
theorem bleOnServicesResolved_inHand (hwf : WellFormed cfg t) (hf : FlagsTrue t)
    (hfind : bleFindDeviceFromProxy cfg t proxy = some ble) (hsettled : Settled t ble)
    (hmem : ble.registered = true ∨ ble.deviceId ∈ t.client.devices)
    (hans : ans.register ble.deviceId = true) :
    InHand (bleOnServicesResolved cfg ans t proxy) a ble.deviceId := by
  have hadvance := bleOnServicesResolved_advance ans proxy hwf
  have hble := (mem_of_bleFindDeviceFromProxy hwf hfind).1
  have hno : ¬Unregistering (bleOnServicesResolved cfg ans t proxy) ble.deviceId := by
    intro hun
    refine hsettled.1 (hun.imp (fun hreq => ?_) fun hreq => ?_) <;>
      exact (hadvance.requested_or hreq).resolve_right register_ne_unregister
  refine .inr (.inr ⟨hno, ?_⟩)
  cases hflag : ble.registered with
  | true =>
    have hmem' := hf.flags ble.deviceId true (fun _ => ⟨ble, hble, rfl, hflag⟩)
      (flagAfter_of_forall rfl (hsettled.2 hflag))
    exact .inl (by rwa [hadvance.registered])
  | false =>
    have hdevice := hmem.resolve_left (by rw [hflag]; nofun)
    exact .inr (bleOnServicesResolved_requested hf.connected hfind hflag hdevice hans)

theorem bleConnected_heldAt (hwf : WellFormed cfg t) (hf : FlagsTrue t)
    (hfind : bleFindDeviceFromProxy cfg t proxy = some ble) (haddr : proxy.address = some a)
    (hin : LinkUp t a → InHand t a ble.deviceId ∨ Settled t ble)
    (hans : ans.register ble.deviceId = true) :
    HeldAt cfg (bleConnected cfg ans t proxy ble) a := by
  obtain ⟨hble, b, haddr', haddr'', hid⟩ := mem_of_bleFindDeviceFromProxy hwf hfind
  obtain rfl : a = b := Option.some.inj (haddr.symm.trans haddr')
  have hadvance := bleConnected_advance ans proxy hwf hble
  intro htrack hup
  have hup' : LinkUp t a := by
    unfold LinkUp
    rwa [← hadvance.links]
  rw [← hid]
  rcases hin hup' with hin | hsettled
  · exact hin.advance hadvance fun hR => absurd hR register_ne_unregister
  have hwf₁ : WellFormed cfg (t.set (refresh t ble)) := hwf.set hble rfl
  rcases bleConnected_cases cfg ans t proxy ble with
    ⟨hconn, -⟩ | ⟨-, -, -, heq⟩ | ⟨-, -, client, hcreated, heq⟩
  · exact absurd (hconn.symm.trans hf.connected) nofun
  · -- the context is gone
    rw [heq] at htrack
    have hdel : Frame (· = ble.deviceId) (fun _ => False) (fun _ => False)
        (t.set (refresh t ble)) (devicesDelDevice (t.set (refresh t ble)) (refresh t ble)) :=
      devicesDelDevice_frame hwf₁ (refresh_mem hble)
    obtain ⟨d, hd, hdid⟩ := tracks_deviceId (hdel.wellFormed hwf₁) htrack
    exact absurd (hdid.trans hid.symm)
      (devicesDelDevice_deviceId hwf₁ (refresh_mem hble) d hd)
  · have hclient : Advance Request.IsRegister t { t.set (refresh t ble) with client } :=
      (refresh_advance hble).trans (.client hcreated.connection)
    have hwf₂ : WellFormed cfg { t.set (refresh t ble) with client } := hwf₁.congr rfl rfl
    have hresolved : t.servicesAreResolved proxy = true := by
      rw [Translator.servicesAreResolved, haddr]
      exact hup'.2
    have hfind' : bleFindDeviceFromProxy cfg { t.set (refresh t ble) with client } proxy =
        some (refresh t ble) := by
      have hrefresh := find?_deviceId_of_mem hwf₂ (refresh_mem hble)
      rw [bleFindDeviceFromProxy, haddr, Option.bind_some, ← hid]
      exact hrefresh
    have hheld := bleOnServicesResolved_inHand (a := a) hwf₂ (hf.advance hclient) hfind' hsettled
      (.inr ((hcreated.devices _).mpr (.inl rfl))) hans
    rw [heq, if_pos hresolved]
    exact hheld

/-! ## steps -/

section
variable {k : Nat} {links : BtAddress → Link}

/-- the devices that are not of the `Connect` lose none -/
theorem Served.endConnect (hs : Served cfg t) (hcall : t.calls[k]? = some (.connect proxy))
    (hb : proxy.address ≠ some b) : HeldAt cfg { t with calls := t.calls.eraseIdx k } b := by
  refine (hs.held b).eraseCall fun c hc => ?_
  obtain rfl := Option.some.inj (hcall.symm.trans hc)
  exact decide_eq_false hb

/-- a call that connects no device ends -/
theorem Served.endCall {c : Call} (hs : Served cfg t) (hcall : t.calls[k]? = some c)
    (hconnects : ∀ a, c.connects a = false) :
    Served cfg { t with calls := t.calls.eraseIdx k } := by
  refine ⟨hs.flags.congr rfl rfl rfl rfl, fun a => (hs.held a).eraseCall fun c' hc' => ?_⟩
  obtain rfl := Option.some.inj (hcall.symm.trans hc')
  exact hconnects a

theorem connectUnknown_served (hwf : WellFormed cfg t) (hs : Served cfg t)
    (hcall : t.calls[k]? = some (.connect proxy))
    (hfind : bleFindDeviceFromProxy cfg t proxy = none) :
    Served cfg { t with calls := t.calls.eraseIdx k } := by
  have hwf₁ : WellFormed cfg { t with calls := t.calls.eraseIdx k } := hwf.congr rfl rfl
  refine ⟨hs.flags.congr rfl rfl rfl rfl, fun b => ?_⟩
  by_cases hb : proxy.address = some b
  · intro htrack
    obtain ⟨ble, hble⟩ := find_of_tracks hwf₁ hb htrack
    cases hfind.symm.trans hble
  · exact hs.endConnect hcall hb

theorem connected_served (hwf : WellFormed cfg t) (hs : Served cfg t)
    (hcall : t.calls[k]? = some (.connect proxy))
    (hfind : bleFindDeviceFromProxy cfg t proxy = some ble)
    (hserve : ∀ ble ∈ t.devices, ans.register ble.deviceId = true)
    (hkeep : KeepsInHand cfg t (.connectDone k true, ans)) :
    Served cfg (bleConnected cfg ans { t with calls := t.calls.eraseIdx k } proxy ble) := by
  have hwf₁ : WellFormed cfg { t with calls := t.calls.eraseIdx k } := hwf.congr rfl rfl
  have hflags : FlagsTrue { t with calls := t.calls.eraseIdx k } :=
    hs.flags.congr rfl rfl rfl rfl
  obtain ⟨hble, a, haddr, -, -⟩ := mem_of_bleFindDeviceFromProxy hwf hfind
  simp only [KeepsInHand, hcall] at hkeep
  have hadvance := bleConnected_advance ans proxy hwf₁ hble
  refine ⟨hflags.advance hadvance, fun b => ?_⟩
  by_cases hb : proxy.address = some b
  · obtain rfl := Option.some.inj (haddr.symm.trans hb)
    exact bleConnected_heldAt hwf₁ hflags hfind haddr (hkeep ble hfind a haddr) (hserve ble hble)
  · exact (hs.endConnect hcall hb).advance hadvance fun _ hR => absurd hR register_ne_unregister

theorem connectFailed_served (hwf : WellFormed cfg t) (hs : Served cfg t)
    (hcall : t.calls[k]? = some (.connect proxy))
    (hfind : bleFindDeviceFromProxy cfg t proxy = some ble)
    (hkeep : KeepsInHand cfg t (.connectDone k false, ans)) :
    Served cfg (bleStartReconnectionTimerOrUnregisterDevice ans
      { t with calls := t.calls.eraseIdx k } ble) := by
  have hwf₁ : WellFormed cfg { t with calls := t.calls.eraseIdx k } := hwf.congr rfl rfl
  obtain ⟨hble, a, haddr, haddr', hid⟩ := mem_of_bleFindDeviceFromProxy hwf hfind
  simp only [KeepsInHand, hcall] at hkeep
  have hkeep' := hkeep ble hfind a haddr
  have hserved : Served cfg { t with calls := t.calls.eraseIdx k } := by
    refine ⟨hs.flags.congr rfl rfl rfl rfl, fun b => ?_⟩
    by_cases hb : proxy.address = some b
    · obtain rfl := Option.some.inj (haddr.symm.trans hb)
      intro _ hup
      rw [← hid]
      exact (hkeep' hup).1
    · exact hs.endConnect hcall hb
  refine bleStartReconnection_served ans hwf₁ hserved hble haddr' fun hup hretry => ?_
  rw [← hid]
  exact (hkeep' hup).2 hretry

/-- the link of a device changes, and nothing is done yet -/
theorem connectedChanged_served {value : Bool} (hwf : WellFormed cfg t) (hs : Served cfg t)
    (hkeep : KeepsInHand cfg t (.connectedChanged proxy value, ans))
    (hlinks : t.connectedChanged proxy value = { t with links }) :
    Served cfg { t with links } := by
  rw [← hlinks]
  cases haddr : proxy.address with
  | none =>
    have hsame : t.connectedChanged proxy value = t := by
      rw [Translator.connectedChanged, haddr]
    rwa [hsame]
  | some a =>
    obtain ⟨links, hlinks, hconnected, hresolved, hother⟩ :=
      connectedChanged_of_address (t := t) haddr value
    rw [hlinks]
    refine hs.links hother fun htrack hup => ?_
    have hvalue : value = true := hconnected.symm.trans hup.1
    subst hvalue
    obtain ⟨ble, hfind⟩ := find_of_tracks hwf haddr htrack
    obtain ⟨-, b, haddr', -, hid⟩ := mem_of_bleFindDeviceFromProxy hwf hfind
    obtain rfl : a = b := Option.some.inj (haddr.symm.trans haddr')
    rw [← hid]
    exact hkeep ble hfind a haddr (hresolved.symm.trans hup.2)

theorem linkDown_served (hwf : WellFormed cfg t) (hs : Served cfg t)
    (hkeep : KeepsInHand cfg t (.connectedChanged proxy false, ans))
    (hlinks : t.connectedChanged proxy false = { t with links })
    (hfind : bleFindDeviceFromProxy cfg t proxy = some ble) :
    Served cfg (bleStartReconnectionTimerOrUnregisterDevice ans
      (Translator.set { t with links } { ble with connected := false })
      { ble with connected := false }) := by
  have hwf₁ : WellFormed cfg { t with links } := hwf.congr rfl rfl
  obtain ⟨hble, a, haddr, haddr', -⟩ := mem_of_bleFindDeviceFromProxy hwf hfind
  have hset : Served cfg (Translator.set { t with links } { ble with connected := false }) :=
    (connectedChanged_served hwf hs hkeep hlinks).register (.set hble rfl fun hflag => hflag)
  refine bleStartReconnection_served ans (hwf₁.set hble rfl) hset
    (devicesSet_mem_of_ptr hble rfl) haddr' fun hup => ?_
  -- the link is down
  obtain ⟨links', hlinks', hconnected, -⟩ := connectedChanged_of_address (t := t) haddr false
  have hsame : links = links' := congrArg Translator.links (hlinks.symm.trans hlinks')
  have hdown : (links a).connected = false := hsame ▸ hconnected
  exact absurd (hdown.symm.trans hup.1) nofun

theorem servicesUnresolved_served (hs : Served cfg t)
    (hlinks : t.servicesResolvedChanged proxy false = { t with links }) :
    Served cfg { t with links } := by
  rw [← hlinks]
  cases haddr : proxy.address with
  | none =>
    have hsame : t.servicesResolvedChanged proxy false = t := by
      rw [Translator.servicesResolvedChanged, haddr]
    rwa [hsame]
  | some a =>
    obtain ⟨links, hlinks, hresolved, -, hother⟩ :=
      servicesResolvedChanged_of_address (t := t) haddr false
    rw [hlinks]
    exact hs.links hother fun _ hup => absurd (hresolved.symm.trans hup.2) nofun

theorem servicesResolved_served (hwf : WellFormed cfg t) (hs : Served cfg t)
    (hserve : ∀ ble ∈ t.devices, ans.register ble.deviceId = true)
    (hkeep : KeepsInHand cfg t (.servicesResolvedChanged proxy true, ans))
    (hlinks : t.servicesResolvedChanged proxy true = { t with links }) :
    Served cfg (bleOnServicesResolved cfg ans { t with links } proxy) := by
  rw [← hlinks]
  cases haddr : proxy.address with
  | none =>
    have hsame : t.servicesResolvedChanged proxy true = t := by
      rw [Translator.servicesResolvedChanged, haddr]
    rw [hsame]
    exact hs.register (bleOnServicesResolved_advance ans proxy hwf)
  | some a =>
    obtain ⟨links, hlinks, -, hconnected, hother⟩ :=
      servicesResolvedChanged_of_address (t := t) haddr true
    have hwf₁ : WellFormed cfg { t with links } := hwf.congr rfl rfl
    have hflags : FlagsTrue { t with links } := hs.flags.congr rfl rfl rfl rfl
    have hadvance := bleOnServicesResolved_advance ans proxy hwf₁
    rw [hlinks]
    refine ⟨hflags.advance hadvance, fun b => ?_⟩
    by_cases hb : b = a
    · subst hb
      intro htrack hup
      obtain ⟨ble, hfind⟩ := find_of_tracks hwf₁ haddr (hadvance.tracks b htrack)
      obtain ⟨hble, c, haddr', -, hid⟩ := mem_of_bleFindDeviceFromProxy hwf₁ hfind
      obtain rfl : b = c := Option.some.inj (haddr.symm.trans haddr')
      have hup' : (t.links b).connected = true := by
        rw [← hconnected]
        have hlink := hup.1
        rw [hadvance.links] at hlink
        exact hlink
      rw [← hid]
      rcases hkeep ble hfind b haddr hup' with hin | ⟨hsettled, hmem⟩
      · have hin' : InHand { t with links } b ble.deviceId := hin
        exact hin'.advance hadvance fun hR => absurd hR register_ne_unregister
      · exact bleOnServicesResolved_inHand hwf₁ hflags hfind hsettled hmem (hserve ble hble)
    · have hheld : HeldAt cfg { t with links } b := (hs.held b).links (hother b hb)
      exact hheld.advance hadvance fun _ hR => absurd hR register_ne_unregister

end

theorem handle_served {e : Event} (hwf : WellFormed cfg t) (hs : Served cfg t)
    (hserve : EdgeServes t (e, ans)) (hkeep : KeepsInHand cfg t (e, ans))
    (hstep : handle cfg ans t e = some t') : Served cfg t' := by
  have hcalls : ∀ k, WellFormed cfg { t with calls := t.calls.eraseIdx k } :=
    fun k => hwf.congr rfl rfl
  cases handled_of_handle hstep with
  | tick seconds =>
    refine ⟨hs.flags.congr rfl rfl rfl rfl, fun a htrack hup => hs.held a htrack ?_⟩
    unfold LinkUp at hup ⊢
    simp only [Translator.tick] at hup
    split at hup <;> exact hup
  | objectUnknown _ => exact hs
  | @objectAdded proxy connected servicesResolved links hlinks =>
    refine bleNewDevice_served proxy ?_
    rw [← hlinks]
    split
    · rename_i hnew
      cases haddr : proxy.address with
      | none =>
        have hsame : (t.connectedChanged proxy connected).servicesResolvedChanged proxy
            servicesResolved = t := by
          simp only [Translator.connectedChanged, Translator.servicesResolvedChanged, haddr]
        rwa [hsame]
      | some a =>
        obtain ⟨links, hlinks, -, -, hother⟩ :=
          connectedChanged_of_address (t := t) haddr connected
        obtain ⟨links', hlinks', -, -, hother'⟩ :=
          servicesResolvedChanged_of_address (t := { t with links }) haddr servicesResolved
        rw [hlinks, hlinks']
        refine hs.links (fun b hb => (hother' b hb).trans (hother b hb)) fun htrack _ => ?_
        obtain ⟨ble, hfind⟩ := find_of_tracks hwf haddr htrack
        cases hnew.2.symm.trans hfind
    · exact hs
  | objectRemoved hpath hfind =>
    exact edgeUnregisterOrDelete_served ans hwf hs (List.mem_of_find?_eq_some hfind)
  | connectUnknown ok hcall hfind => exact connectUnknown_served hwf hs hcall hfind
  | connected hcall hfind => exact connected_served hwf hs hcall hfind hserve hkeep
  | connectFailed hcall hfind => exact connectFailed_served hwf hs hcall hfind hkeep
  | removeUnknown hcall => exact hs.endCall hcall fun _ => rfl
  | removeDeviceDone hcall hfind =>
    exact edgeUnregisterOrDelete_served ans (hcalls _) (hs.endCall hcall fun _ => rfl)
      (mem_of_devicesFindDeviceByDeviceId hfind).1
  | @readReply k id srvc ch outcome r hcall hr =>
    have hserved := hs.endCall hcall fun _ => rfl
    exact hserved.still (bleReadCharacteristicCallback_frame
      (t := { t with calls := t.calls.eraseIdx k }) cfg.host (hcalls k) hr)
  | linkUnknown hlinks hfind => exact connectedChanged_served hwf hs hkeep hlinks
  | linkUp hlinks hfind =>
    have hble := (mem_of_bleFindDeviceFromProxy hwf hfind).1
    exact (connectedChanged_served hwf hs hkeep hlinks).register (.set hble rfl fun hflag => hflag)
  | linkDown hlinks hfind => exact linkDown_served hwf hs hkeep hlinks hfind
  | servicesResolved hlinks => exact servicesResolved_served hwf hs hserve hkeep hlinks
  | servicesUnresolved hlinks => exact servicesUnresolved_served hs hlinks
  | @retryTimer k _ _ htimer hretry =>
    have htimers : Still t { t with timers := t.timers.eraseIdx k } :=
      { (Frame.refl t : Still t t) with }
    exact hs.still (htimers.trans (bleRetryConnect_frame (hwf.congr rfl rfl) hretry))
  | runIdle hidle => exact runIdle_served hwf hs hidle
  | readEverything =>
    obtain ⟨calls, heq, -⟩ := bleReadEverything_eq ans t
    have hmore : Advance Request.IsRegister t { t with calls := t.calls ++ calls } :=
      { (Advance.refl t : Advance Request.IsRegister t t) with
        calls := fun _ hc => List.mem_append_left _ hc }
    rw [heq]
    exact hs.register hmore
  | connectionReady _ | disconnected => exact hserve.elim
  | translatorRegistered =>
    have hframe := protocolTranslatorRegistrationSuccess_frame (D := fun _ => False) ans t
    refine hs.register (hframe.advance.mono ?_)
    rintro r ⟨d, -, rfl⟩
    exact ⟨_, rfl⟩
  | translatorRegistrationFailed => exact hs.still (protocolTranslatorRegistrationFailure_frame t)
  | connectionShutdown => exact hs.still (shutdownCbHandler_frame t)
  | shutdownSignal => exact hs.still (ptBleGracefulShutdown_frame ans hwf)
  | @answered k ok sent hk hlive =>
    obtain rfl : ok = true := hserve
    cases hreq : sent.request with
    | register id => exact answer_register_served hs hk hreq
    | unregister id deleteContext => exact answer_unregister_served hs hk hreq
  | resourceWrite id path operation value outcome hr =>
    rw [← hr]
    exact hs.still (resourceCallbackHandler_frame cfg.host id path operation value outcome hwf)

theorem Served.clear (hs : Served cfg t) : Served cfg { t with effects := [] } :=
  ⟨hs.flags.congr rfl rfl rfl rfl, hs.held⟩

theorem run_served {now connection : Nat} {labels : List (Event × Answers)}
    (h : Run (step cfg) (fun t label => EdgeServes t label ∧ KeepsInHand cfg t label)
      (start now (some connection)) labels t) : Served cfg t := by
  have hwf := Run.strengthen (J := WellFormed cfg) (fun _ _ hrun => run_wellFormed hrun) h
  have hstart : Served cfg (start now (some connection)) := by
    refine ⟨⟨rfl, fun id flag hyes hafter => ?_⟩, fun a htrack => ?_⟩
    · obtain ⟨d, hd, -⟩ := hyes hafter
      cases hd
    · obtain ⟨d, hd, -⟩ := htrack
      cases hd
  refine hwf.invariant hstart fun s label s' hs hok hstep => ?_
  exact handle_served hok.2.clear hs.clear hok.1.1 hok.1.2 (handle_of_step hstep)

/-- **No registration is lost: at rest every device that is up is registered, in every run in which
Edge serves and no step leaves a device that is up in no hand.** -/
theorem registered_atRest {now connection : Nat} {labels : List (Event × Answers)}
    (h : Run (step cfg) (fun t label => EdgeServes t label ∧ KeepsInHand cfg t label)
      (start now (some connection)) labels t)
    (hrequests : t.requests = []) (hcalls : t.calls = []) (hidle : t.idle = [])
    (hble : ble ∈ t.devices) (haddr : ble.proxy.address = some a)
    (hconnected : (t.links a).connected = true)
    (hresolved : (t.links a).servicesResolved = true) :
    ble.deviceId ∈ t.registered := by
  obtain ⟨b, haddr', hid⟩ := (run_wellFormed h).address ble hble
  obtain rfl : a = b := Option.some.inj (haddr.symm.trans haddr')
  rw [hid]
  rcases (run_served h).held a ⟨ble, hble, haddr⟩ ⟨hconnected, hresolved⟩ with
    ⟨c, hc, -⟩ | (⟨s, hs, -⟩ | hmem) | ⟨-, hmem | ⟨s, hs, -⟩⟩
  · rw [hcalls] at hc
    cases hc
  · rw [hrequests] at hs
    cases hs
  · rw [hidle] at hmem
    cases hmem
  · exact hmem
  · rw [hrequests] at hs
    cases hs

end

/-- the device is up and registered -/
theorem registered_atRest_joins : ∃ labels t ble,
    Run (step plainConfig) (fun t label => EdgeServes t label ∧ KeepsInHand plainConfig t label)
        (start 0 (some 0)) labels t ∧
      (t.requests = [] ∧ t.calls = [] ∧ t.idle = []) ∧
      (ble ∈ t.devices ∧ ble.proxy.address = some plainAddress ∧ LinkUp t plainAddress) ∧
      ble.deviceId ∈ t.registered := by
  have hany : (run (guarded (step plainConfig) (fun t label => EdgeServes t label ∧
      KeepsInHand plainConfig t label)) (start 0 (some 0)) (plainLabels joins)).any
        (fun t => decide ((t.requests = [] ∧ t.calls = [] ∧ t.idle = []) ∧
          (∃ ble ∈ t.devices, ble.proxy.address = some plainAddress) ∧
            LinkUp t plainAddress)) = true := by
    decide +kernel
  obtain ⟨t, ht, ⟨hrequests, hcalls, hidle⟩, ⟨ble, hble, haddr⟩, hup⟩ := exists_of_run_any hany
  exact ⟨_, t, ble, Run.of_guarded ht, ⟨hrequests, hcalls, hidle⟩, ⟨hble, haddr, hup⟩,
    registered_atRest (Run.of_guarded ht) hrequests hcalls hidle hble haddr hup.1 hup.2⟩

/-- the device comes back while Edge unregisters it, and its flag is cleared last -/
def comesBackEarly : List Event :=
  joins ++ [.tick 3600] ++ drops ++
    [.tick 324, .retryTimer 0, .connectedChanged plainProxy true,
      .servicesResolvedChanged plainProxy true, .connectDone 0 true, .answered 0 true, .runIdle]

theorem not_registered_atRest :
    ¬∀ labels t, Run (step plainConfig) EdgeServes (start 0 (some 0)) labels t →
      t.requests = [] → t.calls = [] → t.idle = [] →
        ∀ ble ∈ t.devices, ∀ a, ble.proxy.address = some a → LinkUp t a →
          ble.deviceId ∈ t.registered := by
  intro h
  have hany : (run (guarded (step plainConfig) EdgeServes) (start 0 (some 0))
      (plainLabels comesBackEarly)).any (fun t => decide
        ((t.requests = [] ∧ t.calls = [] ∧ t.idle = [] ∧ t.registered = []) ∧
          (∃ ble ∈ t.devices, ble.proxy.address = some plainAddress) ∧
            LinkUp t plainAddress)) = true := by
    decide +kernel
  obtain ⟨t, ht, ⟨hrequests, hcalls, hidle, hregistered⟩, ⟨ble, hble, haddr⟩, hup⟩ :=
    exists_of_run_any hany
  have hmem := h _ t (Run.of_guarded ht) hrequests hcalls hidle ble hble _ haddr hup
  rw [hregistered] at hmem
  cases hmem

end EdgeTranslators.Ble
