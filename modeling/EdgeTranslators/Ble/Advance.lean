import EdgeTranslators.Ble.Contexts

/-!
# What a handler adds to the requests and calls

* `Tracks`, `Flagged`, `Requested`    what is known of a device, and what was asked for it;
* `Advance R t t'`                    from `t` to `t'` no device becomes tracked or registered, calls
                                      and requests are added, and all that is requested is in `R`;
* one `_advance` lemma for each handler that has no frame;
* `bleOnServicesResolved_requested`   a device that is not flagged as registered is registered.
-/

namespace EdgeTranslators.Ble
open Lib Pt

def Tracks (t : Translator) (a : BtAddress) : Prop := ∃ d ∈ t.devices, d.proxy.address = some a

/-- a context with the id has `BLE_DEVICE_FLAG_REGISTERED` -/
def Flagged (t : Translator) (id : String) : Prop :=
  ∃ d ∈ t.devices, d.deviceId = id ∧ d.registered = true

def Requested (t : Translator) (r : Request) : Prop := ∃ s ∈ t.requests, s.request = r

def Request.IsRegister (r : Request) : Prop := ∃ id, r = .register id

structure Advance (R : Request → Prop) (t t' : Translator) : Prop where
  tracks : ∀ a, Tracks t' a → Tracks t a
  flagged : ∀ id, Flagged t' id → Flagged t id
  links : t'.links = t.links
  connection : t'.client.connection = t.client.connection
  registered : t'.registered = t.registered
  calls : t.calls ⊆ t'.calls
  requests : t.requests ⊆ t'.requests
  sent : ∀ s ∈ t'.requests, s ∈ t.requests ∨ R s.request
  told : ∀ id, told id t'.idle = told id t.idle

section
variable {cfg : Config} {D : String → Prop} {R R' : Request → Prop} {E : Effect → Prop}
  {ans : Answers} {t t' t'' : Translator} {ble : BleDevice} {proxy : DeviceProxy}

theorem Advance.refl (t : Translator) : Advance R t t :=
  ⟨fun _ h => h, fun _ h => h, rfl, rfl, rfl, List.Subset.refl _, List.Subset.refl _,
    fun _ h => .inl h, fun _ => rfl⟩

theorem Advance.trans (h : Advance R t t') (h' : Advance R t' t'') : Advance R t t'' where
  tracks a ha := h.tracks a (h'.tracks a ha)
  flagged id hid := h.flagged id (h'.flagged id hid)
  links := h'.links.trans h.links
  connection := h'.connection.trans h.connection
  registered := h'.registered.trans h.registered
  calls := List.Subset.trans h.calls h'.calls
  requests := List.Subset.trans h.requests h'.requests
  sent s hs := (h'.sent s hs).elim (h.sent s) Or.inr
  told id := (h'.told id).trans (h.told id)

theorem Advance.mono (h : Advance R t t') (hR : ∀ r, R r → R' r) : Advance R' t t' :=
  { h with sent := fun s hs => (h.sent s hs).imp_right (hR _) }

theorem Frame.advance (h : Frame D R E t t') : Advance R t t' where
  tracks := by
    rintro a ⟨d', hd', haddr⟩
    obtain ⟨d, hd, hq⟩ := h.back d' hd'
    exact ⟨d, hd, by rw [← hq.proxy, haddr]⟩
  flagged := by
    rintro id ⟨d', hd', hid, hflag⟩
    obtain ⟨d, hd, hq⟩ := h.back d' hd'
    exact ⟨d, hd, hq.deviceId.symm.trans hid, hq.registered.symm.trans hflag⟩
  links := h.links
  connection := h.client.connection
  registered := h.registered
  calls := h.calls
  requests := h.requests
  sent := h.sent
  told := h.told

theorem Frame.advance_of_still (h : Still t t') : Advance R t t' :=
  h.advance.mono fun _ hR => hR.elim

theorem Advance.set {ble' : BleDevice} (hble : ble ∈ t.devices) (hkey : ble'.key = ble.key)
    (hflag : ble'.registered = true → ble.registered = true) : Advance R t (t.set ble') := by
  obtain ⟨-, hid, hproxy⟩ := key_eq_iff.mp hkey
  refine { (Advance.refl t : Advance R t t) with tracks := ?_, flagged := ?_ }
  · rintro a ⟨d, hd, haddr⟩
    rcases mem_devicesSet hd with rfl | hd
    · exact ⟨ble, hble, by rw [← hproxy, haddr]⟩
    · exact ⟨d, hd, haddr⟩
  · rintro id ⟨d, hd, hid', hyes⟩
    rcases mem_devicesSet hd with rfl | hd
    · exact ⟨ble, hble, hid.symm.trans hid', hflag hyes⟩
    · exact ⟨d, hd, hid', hyes⟩

theorem Advance.client {client : Client} (hconn : client.connection = t.client.connection) :
    Advance R t { t with client } :=
  { (Advance.refl t : Advance R t t) with connection := hconn }

theorem Advance.requested (h : Advance R t t') {r : Request} (hr : Requested t r) :
    Requested t' r := by
  obtain ⟨s, hs, heq⟩ := hr
  exact ⟨s, h.requests hs, heq⟩

theorem Advance.requested_or (h : Advance R t t') {r : Request} (hr : Requested t' r) :
    Requested t r ∨ R r := by
  obtain ⟨s, hs, rfl⟩ := hr
  exact (h.sent s hs).imp_left fun hs => ⟨s, hs, rfl⟩

theorem Advance.edgeIsConnected (h : Advance R t t') (hconn : t.edgeIsConnected = true) :
    t'.edgeIsConnected = true := by
  rw [Translator.edgeIsConnected, h.connection]
  exact hconn

/-! ## the handlers -/

theorem deviceRegisterDevice_advance (ans : Answers) (t : Translator) (ble : BleDevice) :
    Advance Request.IsRegister t (deviceRegisterDevice ans t ble) :=
  (deviceRegisterDevice_frame (D := fun _ => False) ans t ble).advance.mono fun _ hr => ⟨_, hr⟩

theorem resolve_advance (ans : Answers) (hble : ble ∈ t.devices) :
    Advance R t (t.resolve cfg ans ble) := by
  have hspec := resolveServices_spec cfg ans t ble
  obtain ⟨services, jsonList, translations, heq⟩ := hspec.fields
  have hclient : Advance R t { t with client := (resolveServices cfg ans t ble).2 } :=
    .client hspec.grows.connection
  refine hclient.trans (.set hble (resolveServices_key cfg ans t ble) fun hflag => ?_)
  rw [heq] at hflag
  exact hflag

theorem bleOnServicesResolved_advance (ans : Answers) (proxy : DeviceProxy)
    (hwf : WellFormed cfg t) :
    Advance Request.IsRegister t (bleOnServicesResolved cfg ans t proxy) := by
  rcases bleOnServicesResolved_cases cfg ans t proxy with
    ⟨heq, -⟩ | ⟨ble, hfind, -, ⟨-, heq⟩ | ⟨-, heq⟩⟩
  · rw [heq]
    exact .refl t
  · rw [heq]
    exact deviceRegisterDevice_advance ans t ble
  · rw [heq]
    exact (resolve_advance ans (mem_of_bleFindDeviceFromProxy hwf hfind).1).trans
      (deviceRegisterDevice_advance ..)

theorem ptBlePtReady_advance (ans : Answers) (hwf : WellFormed cfg t) :
    Advance Request.IsRegister t (ptBlePtReady cfg ans t) := by
  have hfold : WellFormed cfg (ptBlePtReady cfg ans t) ∧
      Advance Request.IsRegister t (ptBlePtReady cfg ans t) := by
    refine List.foldlRecOn
      (motive := fun t₁ => WellFormed cfg t₁ ∧ Advance Request.IsRegister t t₁) _ _
      ⟨hwf, .refl t⟩ fun t₁ ⟨hwf₁, h₁⟩ ptr _ =>
        ⟨ptReadyDevice_wellFormed ans hwf₁ ptr, h₁.trans ?_⟩
    rcases ptReadyDevice_cases cfg ans t₁ ptr with heq | ⟨ble, -, -, -, -, client, hcreated, heq⟩
    · rw [heq]
      exact .refl t₁
    · have hclient : Advance Request.IsRegister t₁ { t₁ with client } :=
        .client hcreated.connection
      rw [heq]
      split
      · exact hclient.trans (bleOnServicesResolved_advance ans _ (hwf₁.congr rfl rfl))
      · exact hclient
  exact hfold.2

theorem refresh_advance (hble : ble ∈ t.devices) : Advance R t (t.set (refresh t ble)) :=
  .set hble rfl fun hflag => hflag

theorem bleConnected_advance (ans : Answers) (proxy : DeviceProxy) (hwf : WellFormed cfg t)
    (hble : ble ∈ t.devices) :
    Advance Request.IsRegister t (bleConnected cfg ans t proxy ble) := by
  have hset : Advance Request.IsRegister t (t.set (refresh t ble)) := refresh_advance hble
  have hwf₁ : WellFormed cfg (t.set (refresh t ble)) := hwf.set hble rfl
  rcases bleConnected_cases cfg ans t proxy ble with
    ⟨-, heq⟩ | ⟨-, -, -, heq⟩ | ⟨-, -, client, hcreated, heq⟩
  · rwa [heq]
  · have hdel : Frame (· = ble.deviceId) Request.IsRegister (fun _ => False)
        (t.set (refresh t ble)) (devicesDelDevice (t.set (refresh t ble)) (refresh t ble)) :=
      devicesDelDevice_frame hwf₁ (refresh_mem hble)
    rw [heq]
    exact hset.trans hdel.advance
  · have hclient : Advance Request.IsRegister t { t.set (refresh t ble) with client } :=
      hset.trans (.client hcreated.connection)
    rw [heq]
    split
    · exact hclient.trans (bleOnServicesResolved_advance ans proxy (hwf₁.congr rfl rfl))
    · exact hclient

/-! ## registrations that are requested -/

theorem deviceRegisterDevice_requested (hconn : t.edgeIsConnected = true)
    (hflag : ble.registered = false) (hmem : ble.deviceId ∈ t.client.devices)
    (hans : ans.register ble.deviceId = true) :
    Requested (deviceRegisterDevice ans t ble) (.register ble.deviceId) := by
  obtain ⟨connection, hconnection⟩ := Option.isSome_iff_exists.mp hconn
  have hexists : deviceExists t.client ble.deviceId = true :=
    (deviceExists_iff _ _).mpr ⟨hconn, hmem⟩
  have heq : deviceRegisterDevice ans t ble =
      (t.addEffect (registration t ble)).send (.register ble.deviceId) := by
    unfold deviceRegisterDevice edgeRegisterDevice
    rw [hflag, if_neg nofun]
    exact if_pos ⟨hexists, hans⟩
  have hsend : (t.addEffect (registration t ble)).client.connection = some connection := hconnection
  rw [heq, Translator.send, hsend]
  exact ⟨_, List.mem_append_right _ (List.mem_singleton_self _), rfl⟩

theorem bleOnServicesResolved_requested (hconn : t.edgeIsConnected = true)
    (hfind : bleFindDeviceFromProxy cfg t proxy = some ble) (hflag : ble.registered = false)
    (hmem : ble.deviceId ∈ t.client.devices) (hans : ans.register ble.deviceId = true) :
    Requested (bleOnServicesResolved cfg ans t proxy) (.register ble.deviceId) := by
  rcases bleOnServicesResolved_cases cfg ans t proxy with
    ⟨-, hno | hno⟩ | ⟨ble', hfind', -, ⟨-, heq⟩ | ⟨-, heq⟩⟩
  · exact absurd (hno.symm.trans hconn) nofun
  · exact absurd (hno.symm.trans hfind) nofun
  · obtain rfl := Option.some.inj (hfind.symm.trans hfind')
    rw [heq]
    exact deviceRegisterDevice_requested hconn hflag hmem hans
  · obtain rfl := Option.some.inj (hfind.symm.trans hfind')
    have hspec := resolveServices_spec cfg ans t ble
    obtain ⟨services, jsonList, translations, hfields⟩ := hspec.fields
    have hid : (resolveServices cfg ans t ble).1.deviceId = ble.deviceId := by rw [hfields]
    have hflag' : (resolveServices cfg ans t ble).1.registered = false := by rw [hfields, hflag]
    have hconn' : (t.resolve cfg ans ble).edgeIsConnected = true := by
      rw [Translator.edgeIsConnected, Translator.resolve, Translator.set, hspec.grows.connection]
      exact hconn
    have hmem' : (resolveServices cfg ans t ble).1.deviceId ∈
        (t.resolve cfg ans ble).client.devices := by
      rw [hid]
      exact (hspec.grows.devices _).mpr hmem
    have hans' : ans.register (resolveServices cfg ans t ble).1.deviceId = true := by rwa [hid]
    have hreq := deviceRegisterDevice_requested hconn' hflag' hmem' hans'
    rw [hid] at hreq
    rwa [heq]

/-! ## contexts that are deleted -/

theorem devicesDelDevice_deviceId (hwf : WellFormed cfg t) (hble : ble ∈ t.devices) :
    ∀ d ∈ (devicesDelDevice t ble).devices, d.deviceId ≠ ble.deviceId := by
  intro d hd hid
  have hframe : Frame (· = ble.deviceId) (fun _ => False) (fun _ => False) t
      (devicesDelDevice t ble) := devicesDelDevice_frame hwf hble
  obtain ⟨d₀, hd₀, hq⟩ := hframe.back d hd
  obtain rfl := List.inj_on_of_nodup_map hwf.id hd₀ hble (hq.deviceId.symm.trans hid)
  have hne : d.ptr ≠ d₀.ptr := by simpa using (List.mem_filter.mp hd).2
  exact hne hq.ptr

theorem ptEdgeDelDevice_deviceId (hwf : WellFormed cfg t) (hble : ble ∈ t.devices) :
    ∀ d ∈ (ptEdgeDelDevice t ble).devices, d.deviceId ≠ ble.deviceId := by
  have hdevices : (ptEdgeDelDevice t ble).devices = (devicesDelDevice t ble).devices := by
    unfold ptEdgeDelDevice
    simp only
    split <;> rfl
  rw [hdevices]
  exact devicesDelDevice_deviceId hwf hble

end

end EdgeTranslators.Ble
