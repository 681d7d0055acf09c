import EdgeTranslators.Ble.Contexts

/-!
# Registration with all resources

The resources of a device are created once, when its services are first resolved, while its PT
device object may go and come back.

* `Effect.Complete`         a device is registered with all its resources, or without an object;
* `Sound`                   a resolved device that has an object has its resources in it;
* `remakesObject`           an object is made for a device that was resolved before;
* `RegistersComplete`       no step does this, and Edge is told of resolved devices only;
* `registerDevice_paths`    then every registration is complete, in every run.
-/

namespace EdgeTranslators.Ble
open Lib Pt

/-- the object a device is registered with has the resources of its context -/
def Effect.Complete : Effect → Prop
  | .registerDevice _ (some ble) (some rs) => ∀ p ∈ ble.paths, p ∈ rs
  | _ => True

structure Sound (t : Translator) : Prop where
  faults : t.client.faults = []
  unresolved : ∀ d ∈ t.devices, d.servicesResolved = false → d.translations = []
  resources : ∀ d ∈ t.devices, d.servicesResolved = true → d.deviceId ∈ t.client.devices →
    ∀ p ∈ d.paths, t.client.HasPath d.deviceId p
  effects : ∀ e ∈ t.effects, e.Complete

/-- a PT device object is made for a device that had its services resolved before -/
def remakesObject (ans : Answers) (t : Translator) (ble : BleDevice) : Bool :=
  t.edgeIsConnected ∧ ble.deviceId ∉ t.client.devices ∧ ans.create ble.deviceId = true ∧
    ble.servicesResolved = true

/-- no object is made for a device that had its services resolved before, and all devices are
registered only when those that have an object are resolved -/
def RegistersComplete (cfg : Config) (t : Translator) : Event × Answers → Prop
  | (.connectDone k true, ans) =>
    match t.calls[k]? with
    | some (.connect proxy) =>
      ∀ ble ∈ bleFindDeviceFromProxy cfg t proxy, remakesObject ans t ble = false
    | _ => True
  | (.runIdle, ans) =>
    t.idle.head? = some .ptReady → ∀ ble ∈ t.devices, remakesObject ans t ble = false
  | (.translatorRegistered, _) =>
    ∀ ble ∈ t.devices, ble.deviceId ∈ t.client.devices → ble.servicesResolved = true
  | _ => True

instance (cfg : Config) (t : Translator) :
    (label : Event × Answers) → Decidable (RegistersComplete cfg t label)
  | (.connectDone k true, ans) => by
    dsimp only [RegistersComplete]
    generalize t.calls[k]? = call
    rcases call with _ | ⟨_ | _ | _⟩ <;> infer_instance
  | (.runIdle, _) | (.translatorRegistered, _) => by
    dsimp only [RegistersComplete]
    infer_instance
  | (.connectDone _ false, _) | (.tick _, _) | (.objectAdded _ _ _, _) | (.objectRemoved _, _)
  | (.removeDeviceDone _, _) | (.readReply _ _, _) | (.connectedChanged _ _, _)
  | (.servicesResolvedChanged _ _, _) | (.retryTimer _, _) | (.readEverything, _)
  | (.connectionReady _, _) | (.disconnected, _) | (.translatorRegistrationFailed, _)
  | (.connectionShutdown, _) | (.shutdownSignal, _) | (.answered _ _, _)
  | (.resourceWrite _ _ _ _ _, _) =>
    .isTrue trivial

section
variable {cfg : Config} {D : String → Prop} {R : Request → Prop} {E : Effect → Prop}
  {ans : Answers} {t t' : Translator} {ble : BleDevice} {proxy : DeviceProxy}

/-! ## what keeps the state sound -/

theorem Sound.congr (h : Sound t) (hdevices : t'.devices = t.devices)
    (hclient : t'.client = t.client) (heffects : t'.effects = t.effects) : Sound t' := by
  obtain ⟨hfaults, hunresolved, hresources, heff⟩ := h
  refine ⟨?_, ?_, ?_, ?_⟩
  · rwa [hclient]
  · rwa [hdevices]
  · rwa [hdevices, hclient]
  · rwa [heffects]

theorem Sound.frame (h : Sound t) (hframe : Frame D R E t t') (hE : ∀ e, E e → e.Complete) :
    Sound t' where
  faults := hframe.client.faults h.faults
  unresolved d' hd' hres := by
    obtain ⟨d, hd, hq⟩ := hframe.back d' hd'
    rw [hq.translations]
    exact h.unresolved d hd (hq.servicesResolved ▸ hres)
  resources d' hd' hres hmem p hp := by
    obtain ⟨d, hd, hq⟩ := hframe.back d' hd'
    rw [hq.deviceId] at hmem ⊢
    rw [hq.paths] at hp
    exact hframe.client.paths _ _ (h.resources d hd (hq.servicesResolved ▸ hres)
      ((hframe.client.devices _).mp hmem) p hp)
  effects e he := (hframe.effects e he).elim (h.effects e) (hE e)

theorem Sound.still (h : Sound t) (hframe : Still t t') : Sound t' :=
  h.frame hframe fun _ hE => hE.elim

/-- a write that neither resolves services nor names other resources -/
theorem Sound.set {ble' : BleDevice} (h : Sound t) (hble : ble ∈ t.devices)
    (hid : ble'.deviceId = ble.deviceId) (hres : ble'.servicesResolved = ble.servicesResolved)
    (htranslations : ble'.translations = ble.translations) (hpaths : ble'.paths = ble.paths) :
    Sound (t.set ble') where
  faults := h.faults
  unresolved d hd hno := by
    rcases mem_devicesSet hd with rfl | hd
    · rw [htranslations]
      exact h.unresolved ble hble (hres ▸ hno)
    · exact h.unresolved d hd hno
  resources d hd hyes hmem p hp := by
    rcases mem_devicesSet hd with rfl | hd
    · rw [hid] at hmem ⊢
      rw [hpaths] at hp
      exact h.resources ble hble (hres ▸ hyes) hmem p hp
    · exact h.resources d hd hyes hmem p hp
  effects := h.effects

/-- a resolution makes the resources of a device that has an object -/
theorem Sound.resolve (h : Sound t) (ans : Answers) (hble : ble ∈ t.devices)
    (hconn : t.edgeIsConnected = true) (hres : ble.servicesResolved = false) :
    Sound (t.resolve cfg ans ble) := by
  have hspec := resolveServices_spec cfg ans t ble
  obtain ⟨services, jsonList, translations, heq⟩ := hspec.fields
  have hgrows := hspec.grows
  refine ⟨hgrows.faults h.faults, fun d hd hno => ?_, fun d hd hyes hmem p hp => ?_, h.effects⟩
  · rcases mem_devicesSet hd with rfl | hd
    · rw [heq] at hno
      cases hno
    · exact h.unresolved d hd hno
  · have hmem' : d.deviceId ∈ t.client.devices := (hgrows.devices _).mp hmem
    rcases mem_devicesSet hd with rfl | hd
    · have hid : (resolveServices cfg ans t ble).1.deviceId = ble.deviceId := by rw [heq]
      rw [hid] at hmem' ⊢
      have hready : Ready t.client ble.deviceId :=
        ⟨h.faults, (deviceExists_iff _ _).mpr ⟨hconn, hmem'⟩⟩
      exact hspec.complete hready (h.unresolved ble hble hres) p hp
    · exact hgrows.paths _ _ (h.resources d hd hyes hmem' p hp)

/-- an object is made for devices whose services are not resolved yet -/
theorem Sound.create {id : String} {client : Client} (h : Sound t)
    (hcreated : Created id t.client client)
    (hnew : ∀ d ∈ t.devices, d.deviceId = id → id ∉ t.client.devices → d.servicesResolved = false) :
    Sound { t with client } where
  faults := hcreated.faults h.faults
  unresolved := h.unresolved
  resources d hd hyes hmem p hp := by
    refine hcreated.paths _ _ (h.resources d hd hyes ?_ p hp)
    rcases (hcreated.devices _).mp hmem with hid | hmem
    · by_contra hno
      rw [hid] at hno
      exact absurd ((hnew d hd hid hno).symm.trans hyes) nofun
    · exact hmem
  effects := h.effects

/-- a resolved device is registered with all its resources -/
theorem Sound.registration (h : Sound t) {id : String}
    (hres : ∀ d, devicesFindDeviceByDeviceId t.devices id = some d → id ∈ t.client.devices →
      d.servicesResolved = true) :
    (Effect.registerDevice id (devicesFindDeviceByDeviceId t.devices id)
      (t.client.devices.lookup id)).Complete := by
  cases hfind : devicesFindDeviceByDeviceId t.devices id with
  | none => trivial
  | some d =>
    cases hlookup : t.client.devices.lookup id with
    | none => trivial
    | some rs =>
      obtain ⟨hd, rfl⟩ := mem_of_devicesFindDeviceByDeviceId hfind
      have hmem : d.deviceId ∈ t.client.devices := by
        rw [← AList.lookup_isSome, hlookup]
        rfl
      intro p hp
      obtain ⟨rs', hrs', hp'⟩ := h.resources d hd (hres d hfind hmem) hmem p hp
      rw [hlookup] at hrs'
      obtain rfl := Option.some.inj hrs'
      exact hp'

/-! ## the handlers -/

theorem deviceRegisterDevice_sound (ans : Answers) (hwf : WellFormed cfg t) (h : Sound t)
    (hble : ble ∈ t.devices) (hres : ble.servicesResolved = true) :
    Sound (deviceRegisterDevice ans t ble) := by
  refine h.frame (D := fun _ => False) (deviceRegisterDevice_frame ans t ble) fun e he => ?_
  rw [he]
  refine h.registration fun d hfind _ => ?_
  obtain ⟨hd, hid⟩ := mem_of_devicesFindDeviceByDeviceId hfind
  obtain rfl := List.inj_on_of_nodup_map hwf.id hd hble hid
  exact hres

theorem bleOnServicesResolved_sound (ans : Answers) (proxy : DeviceProxy) (hwf : WellFormed cfg t)
    (h : Sound t) : Sound (bleOnServicesResolved cfg ans t proxy) := by
  rcases bleOnServicesResolved_cases cfg ans t proxy with
    ⟨heq, -⟩ | ⟨ble, hfind, hconn, ⟨hres, heq⟩ | ⟨hres, heq⟩⟩
  · rwa [heq]
  · rw [heq]
    exact deviceRegisterDevice_sound ans hwf h (mem_of_bleFindDeviceFromProxy hwf hfind).1 hres
  · have hble := (mem_of_bleFindDeviceFromProxy hwf hfind).1
    obtain ⟨services, jsonList, translations, hfields⟩ := (resolveServices_spec cfg ans t ble).fields
    have hptr : ble.ptr = (resolveServices cfg ans t ble).1.ptr := by rw [hfields]
    rw [heq]
    refine deviceRegisterDevice_sound ans (resolve_wellFormed ans hwf hble)
      (h.resolve ans hble hconn hres) (devicesSet_mem_of_ptr hble hptr) ?_
    rw [hfields]

theorem bleConnected_sound (ans : Answers) (proxy : DeviceProxy) (hwf : WellFormed cfg t)
    (hble : ble ∈ t.devices) (h : Sound t) (hnew : remakesObject ans t ble = false) :
    Sound (bleConnected cfg ans t proxy ble) := by
  have hset : Sound (t.set (refresh t ble)) := h.set hble rfl rfl rfl rfl
  have hwf₁ : WellFormed cfg (t.set (refresh t ble)) := hwf.set hble rfl
  rcases bleConnected_cases cfg ans t proxy ble with
    ⟨-, heq⟩ | ⟨-, -, -, heq⟩ | ⟨hconn, hyes, client, hcreated, heq⟩
  · rwa [heq]
  · have hdel : Frame (· = ble.deviceId) (fun _ => False) (fun _ => False)
        (t.set (refresh t ble)) (devicesDelDevice (t.set (refresh t ble)) (refresh t ble)) :=
      devicesDelDevice_frame hwf₁ (refresh_mem hble)
    rw [heq]
    exact hset.frame hdel fun _ hE => hE.elim
  · have hclient : Sound { t.set (refresh t ble) with client } := by
      refine hset.create hcreated fun d hd hid hmem => ?_
      obtain rfl := List.inj_on_of_nodup_map hwf₁.id hd (refresh_mem hble) hid
      have hno := decide_eq_false_iff_not.mp hnew
      exact Bool.eq_false_iff.mpr fun hres => hno ⟨hconn, hmem, hyes.resolve_left hmem, hres⟩
    rw [heq]
    split
    · exact bleOnServicesResolved_sound ans proxy (hwf₁.congr rfl rfl) hclient
    · exact hclient

/-! ## the loop of `pt_ble_pt_ready` -/

/-- no device whose object may still be made was resolved before -/
def NoneRemade (ans : Answers) (t : Translator) : Prop :=
  ∀ d ∈ t.devices, remakesObject ans t d = false

theorem remakesObject_eq_true : remakesObject ans t ble = true ↔
    t.edgeIsConnected = true ∧ ble.deviceId ∉ t.client.devices ∧
      ans.create ble.deviceId = true ∧ ble.servicesResolved = true := by
  rw [remakesObject, decide_eq_true_eq]

theorem NoneRemade.frame (h : NoneRemade ans t) (hframe : Frame D R E t t') :
    NoneRemade ans t' := by
  intro d' hd'
  obtain ⟨d, hd, hq⟩ := hframe.back d' hd'
  refine Bool.eq_false_iff.mpr fun hyes => absurd (h d hd) (Bool.eq_false_iff.not_left.mpr ?_)
  obtain ⟨hconn, hmem, hcreate, hres⟩ := remakesObject_eq_true.mp hyes
  rw [Translator.edgeIsConnected, hframe.client.connection] at hconn
  rw [hq.deviceId] at hmem hcreate
  rw [hq.servicesResolved] at hres
  exact remakesObject_eq_true.mpr
    ⟨hconn, fun hd => hmem ((hframe.client.devices _).mpr hd), hcreate, hres⟩

theorem NoneRemade.create {client : Client} (h : NoneRemade ans t) {id : String}
    (hcreated : Created id t.client client) : NoneRemade ans { t with client } := by
  intro d hd
  refine Bool.eq_false_iff.mpr fun hyes => absurd (h d hd) (Bool.eq_false_iff.not_left.mpr ?_)
  obtain ⟨hconn, hmem, hcreate, hres⟩ := remakesObject_eq_true.mp hyes
  rw [Translator.edgeIsConnected, hcreated.connection] at hconn
  exact remakesObject_eq_true.mpr
    ⟨hconn, fun hd => hmem ((hcreated.devices _).mpr (.inr hd)), hcreate, hres⟩

theorem NoneRemade.resolve (h : NoneRemade ans t) (hmem : ble.deviceId ∈ t.client.devices) :
    NoneRemade ans (t.resolve cfg ans ble) := by
  have hspec := resolveServices_spec cfg ans t ble
  obtain ⟨services, jsonList, translations, heq⟩ := hspec.fields
  intro d hd
  refine Bool.eq_false_iff.mpr fun hyes => ?_
  obtain ⟨hconn, hno, hcreate, hres⟩ := remakesObject_eq_true.mp hyes
  have hno' : d.deviceId ∉ t.client.devices := fun hd => hno ((hspec.grows.devices _).mpr hd)
  rcases mem_devicesSet hd with rfl | hd
  · rw [heq] at hno'
    exact hno' hmem
  · have hconn' : t.edgeIsConnected = true := by
      rw [Translator.edgeIsConnected, ← hspec.grows.connection]
      exact hconn
    have hyes' := remakesObject_eq_true.mpr ⟨hconn', hno', hcreate, hres⟩
    exact Bool.false_ne_true ((h d hd).symm.trans hyes')

theorem bleOnServicesResolved_noneRemade (h : NoneRemade ans t)
    (hmem : ∀ ble, bleFindDeviceFromProxy cfg t proxy = some ble →
      ble.deviceId ∈ t.client.devices) :
    NoneRemade ans (bleOnServicesResolved cfg ans t proxy) := by
  have hregister : ∀ t₁ d, NoneRemade ans t₁ → NoneRemade ans (deviceRegisterDevice ans t₁ d) :=
    fun t₁ d h₁ => h₁.frame (deviceRegisterDevice_frame (D := fun _ => False) ans t₁ d)
  rcases bleOnServicesResolved_cases cfg ans t proxy with
    ⟨heq, -⟩ | ⟨ble, hfind, -, ⟨-, heq⟩ | ⟨-, heq⟩⟩
  · rwa [heq]
  · rw [heq]
    exact hregister t ble h
  · rw [heq]
    exact hregister _ _ (h.resolve (hmem ble hfind))

theorem ptReadyDevice_sound (ptr : Nat) (hwf : WellFormed cfg t) (h : Sound t)
    (hnone : NoneRemade ans t) :
    Sound (ptReadyDevice cfg ans t ptr) ∧ NoneRemade ans (ptReadyDevice cfg ans t ptr) := by
  rcases ptReadyDevice_cases cfg ans t ptr with
    heq | ⟨ble, hble, hconn, hmem, hcreate, client, hcreated, heq⟩
  · rw [heq]
    exact ⟨h, hnone⟩
  · have hwf₁ : WellFormed cfg { t with client } := hwf.congr rfl rfl
    have hclient : Sound { t with client } := by
      refine h.create hcreated fun d hd hid _ => ?_
      obtain rfl := List.inj_on_of_nodup_map hwf.id hd hble hid
      refine Bool.eq_false_iff.mpr fun hres => ?_
      have hyes := remakesObject_eq_true.mpr ⟨hconn, hmem, hcreate, hres⟩
      exact absurd ((hnone d hd).symm.trans hyes) nofun
    have hnone₁ := hnone.create hcreated
    rw [heq]
    split
    · refine ⟨bleOnServicesResolved_sound ans _ hwf₁ hclient,
        bleOnServicesResolved_noneRemade hnone₁ fun ble' hfind => ?_⟩
      obtain ⟨a, haddr, hid⟩ := hwf.address ble hble
      obtain ⟨-, b, haddr', -, hid'⟩ := mem_of_bleFindDeviceFromProxy hwf₁ hfind
      obtain rfl : a = b := Option.some.inj (haddr.symm.trans haddr')
      exact (hcreated.devices _).mpr (.inl (hid'.trans hid.symm))
    · exact ⟨hclient, hnone₁⟩

theorem ptBlePtReady_sound (hwf : WellFormed cfg t) (h : Sound t) (hnone : NoneRemade ans t) :
    Sound (ptBlePtReady cfg ans t) := by
  have hfold : WellFormed cfg (ptBlePtReady cfg ans t) ∧ Sound (ptBlePtReady cfg ans t) ∧
      NoneRemade ans (ptBlePtReady cfg ans t) :=
    List.foldlRecOn (motive := fun t₁ => WellFormed cfg t₁ ∧ Sound t₁ ∧ NoneRemade ans t₁) _ _
      ⟨hwf, h, hnone⟩ fun t₁ ⟨hwf₁, h₁, hnone₁⟩ ptr _ =>
        ⟨ptReadyDevice_wellFormed ans hwf₁ ptr, ptReadyDevice_sound ptr hwf₁ h₁ hnone₁⟩
  exact hfold.2.1

/-! ## steps and runs -/

theorem bleNewDevice_sound (cfg : Config) (proxy : DeviceProxy) (h : Sound t) :
    Sound (bleNewDevice cfg t proxy) := by
  unfold bleNewDevice
  split
  · refine Sound.still ?_ (addCall_frame _ nofun)
    rcases bleCreateDeviceContext_cases cfg t proxy .persistentGattServer with
      ⟨heq, -⟩ | ⟨a, -, -, heq⟩
    · rwa [heq]
    · rw [heq]
      refine ⟨h.faults, fun d hd hno => ?_, fun d hd hyes hmem p hp => ?_, h.effects⟩
      · rcases List.mem_append.mp hd with hd | hd
        · exact h.unresolved d hd hno
        · rw [List.mem_singleton.mp hd]
          rfl
      · rcases List.mem_append.mp hd with hd | hd
        · exact h.resources d hd hyes hmem p hp
        · rw [List.mem_singleton.mp hd] at hyes
          cases hyes
  · exact h

theorem edgeUnregisterOrDelete_sound (ans : Answers) (hwf : WellFormed cfg t) (h : Sound t)
    (hble : ble ∈ t.devices) : Sound (edgeUnregisterOrDelete ans t ble) :=
  h.frame (E := fun _ => False) (edgeUnregisterOrDelete_frame ans hwf hble) fun _ hE => hE.elim

theorem bleStartReconnection_sound (ans : Answers) (hwf : WellFormed cfg t) (h : Sound t)
    (hble : ble ∈ t.devices) :
    Sound (bleStartReconnectionTimerOrUnregisterDevice ans t ble) := by
  refine h.frame (bleStartReconnection_frame ans hwf hble) fun e he => ?_
  rw [he.1]
  trivial

theorem runIdle_sound (i : Idle) (hwf : WellFormed cfg t) (h : Sound t)
    (hnone : i = .ptReady → NoneRemade ans t) : Sound (runIdle cfg ans t i) := by
  cases i with
  | deviceRegistered id =>
    show Sound (deviceRegistered t id)
    unfold deviceRegistered
    cases hfind : devicesFindDeviceByDeviceId t.devices id with
    | none => exact h
    | some ble => exact h.set (mem_of_devicesFindDeviceByDeviceId hfind).1 rfl rfl rfl rfl
  | deviceUnregistered id deleteContext =>
    show Sound (deviceUnregistered t id deleteContext)
    unfold deviceUnregistered
    cases hfind : devicesFindDeviceByDeviceId t.devices id with
    | none => exact h
    | some ble =>
      have hble := (mem_of_devicesFindDeviceByDeviceId hfind).1
      cases deleteContext with
      | true =>
        exact h.frame (R := fun _ => False) (E := fun _ => False) (ptEdgeDelDevice_frame hwf hble)
          fun _ hE => hE.elim
      | false => exact h.set hble rfl rfl rfl rfl
  | ptReady => exact ptBlePtReady_sound hwf h (hnone rfl)
  | quitLoop => exact h.still (ptBleGMainQuitLoop_frame t)
  | gracefulShutdown => exact h.still (ptBleGracefulShutdown_frame ans hwf)

/-- Edge's answer to an unregistration takes the object of the device -/
theorem answer_sound (request : Request) (ok : Bool) (h : Sound t) :
    Sound (t.answer request ok) := by
  cases request with
  | register id => cases ok <;> exact h.congr rfl rfl rfl
  | unregister id deleteContext =>
    cases ok with
    | false => exact h.congr rfl rfl rfl
    | true =>
      refine ⟨h.faults, h.unresolved, fun d hd hyes hmem p hp => ?_, h.effects⟩
      obtain ⟨hne, hmem'⟩ := AList.mem_erase.mp hmem
      obtain ⟨rs, hrs, hp'⟩ := h.resources d hd hyes hmem' p hp
      exact ⟨rs, (AList.lookup_erase_ne hne).trans hrs, hp'⟩

theorem handle_sound {e : Event} (hwf : WellFormed cfg t) (h : Sound t)
    (hok : RegistersComplete cfg t (e, ans)) (hstep : handle cfg ans t e = some t') :
    Sound t' := by
  have hcalls : ∀ k, WellFormed cfg { t with calls := t.calls.eraseIdx k } :=
    fun k => hwf.congr rfl rfl
  have hsound : ∀ k, Sound { t with calls := t.calls.eraseIdx k } := fun k => h.congr rfl rfl rfl
  cases handled_of_handle hstep with
  | tick _ | connectUnknown _ _ _ | removeUnknown _ | linkUnknown _ _ | servicesUnresolved _ =>
    exact h.congr rfl rfl rfl
  | objectUnknown _ => exact h
  | objectAdded proxy connected resolved hlinks =>
    exact bleNewDevice_sound cfg proxy (h.congr rfl rfl rfl)
  | objectRemoved hpath hfind =>
    exact edgeUnregisterOrDelete_sound ans hwf h (List.mem_of_find?_eq_some hfind)
  | @connected k proxy ble hcall hfind =>
    have hble := (mem_of_bleFindDeviceFromProxy hwf hfind).1
    simp only [RegistersComplete, hcall] at hok
    exact bleConnected_sound ans proxy (hcalls k) hble (hsound k) (hok ble hfind)
  | connectFailed hcall hfind =>
    exact bleStartReconnection_sound ans (hcalls _) (hsound _)
      (mem_of_bleFindDeviceFromProxy hwf hfind).1
  | removeDeviceDone hcall hfind =>
    exact edgeUnregisterOrDelete_sound ans (hcalls _) (hsound _)
      (mem_of_devicesFindDeviceByDeviceId hfind).1
  | readReply hcall hr =>
    have hframe := bleReadCharacteristicCallback_frame cfg.host hwf hr
    exact (h.still hframe).congr rfl rfl rfl
  | @linkUp _ ble links hlinks hfind =>
    have h₁ : Sound { t with links } := h.congr rfl rfl rfl
    exact h₁.set (mem_of_bleFindDeviceFromProxy hwf hfind).1 rfl rfl rfl rfl
  | @linkDown _ ble links hlinks hfind =>
    have h₁ : Sound { t with links } := h.congr rfl rfl rfl
    have hwf₁ : WellFormed cfg { t with links } := hwf.congr rfl rfl
    have hble := (mem_of_bleFindDeviceFromProxy hwf hfind).1
    exact bleStartReconnection_sound ans (hwf₁.set hble rfl) (h₁.set hble rfl rfl rfl rfl)
      (devicesSet_mem_of_ptr hble rfl)
  | @servicesResolved proxy links hlinks =>
    have h₁ : Sound { t with links } := h.congr rfl rfl rfl
    exact bleOnServicesResolved_sound ans proxy (hwf.congr rfl rfl) h₁
  | @retryTimer k _ _ htimer hretry =>
    have h₁ : Sound { t with timers := t.timers.eraseIdx k } := h.congr rfl rfl rfl
    exact h₁.still (bleRetryConnect_frame (hwf.congr rfl rfl) hretry)
  | @runIdle i rest hidle =>
    have h₁ : Sound { t with idle := rest } := h.congr rfl rfl rfl
    refine runIdle_sound i (hwf.congr rfl rfl) h₁ fun hi => ?_
    subst hi
    exact hok (by rw [hidle]; rfl)
  | readEverything =>
    obtain ⟨calls, heq, -⟩ := bleReadEverything_eq ans t
    rw [heq]
    exact h.congr rfl rfl rfl
  | connectionReady _ | disconnected => exact ⟨h.faults, h.unresolved, h.resources, h.effects⟩
  | translatorRegistered =>
    refine h.frame (D := fun _ => False) (protocolTranslatorRegistrationSuccess_frame ans t) ?_
    rintro e ⟨d, hd, rfl⟩
    refine h.registration fun d' hfind hmem => ?_
    obtain ⟨hd', hid⟩ := mem_of_devicesFindDeviceByDeviceId hfind
    rw [← hid] at hmem
    exact hok d' hd' hmem
  | translatorRegistrationFailed => exact h.still (protocolTranslatorRegistrationFailure_frame t)
  | connectionShutdown => exact h.still (shutdownCbHandler_frame t)
  | shutdownSignal => exact h.still (ptBleGracefulShutdown_frame ans hwf)
  | @answered k ok sent hk hlive =>
    have h₁ : Sound { t with requests := t.requests.eraseIdx k } := h.congr rfl rfl rfl
    exact answer_sound sent.request ok h₁
  | resourceWrite id path operation value outcome hr =>
    rw [← hr]
    exact h.still (resourceCallbackHandler_frame cfg.host id path operation value outcome hwf)

theorem Sound.clear (h : Sound t) : Sound { t with effects := [] } :=
  ⟨h.faults, h.unresolved, h.resources, List.forall_mem_nil _⟩

theorem start_sound (now : Nat) (connection : Option Nat) : Sound (start now connection) :=
  ⟨rfl, List.forall_mem_nil _, List.forall_mem_nil _, List.forall_mem_nil _⟩

theorem run_sound {now : Nat} {connection : Option Nat} {labels : List (Event × Answers)}
    (h : Run (step cfg) (RegistersComplete cfg) (start now connection) labels t) : Sound t := by
  have hwf := Run.strengthen (J := WellFormed cfg) (fun _ _ hrun => run_wellFormed hrun) h
  refine hwf.invariant (start_sound now connection) fun s label s' hs hok hstep => ?_
  exact handle_sound hok.2.clear hs.clear hok.1 (handle_of_step hstep)

end

/-- the context and the object a device is registered with, if it has both -/
def Effect.registered? (id : String) : Effect → Option (BleDevice × Resources)
  | .registerDevice id' (some ble) (some rs) => if id' = id then some (ble, rs) else none
  | _ => none

theorem mem_of_registered? {id : String} {effects : List Effect} {ble : BleDevice} {rs : Resources}
    (h : (ble, rs) ∈ effects.filterMap (Effect.registered? id)) :
    Effect.registerDevice id (some ble) (some rs) ∈ effects := by
  obtain ⟨e, he, heq⟩ := List.mem_filterMap.mp h
  unfold Effect.registered? at heq
  split at heq
  · split at heq
    · cases heq
      subst_vars
      exact he
    · cases heq
  · cases heq

/-- the device is unregistered after an hour and then comes back, and has no resource -/
def comesBack : List Event :=
  joins ++ [.tick 3600] ++ drops ++
    [.answered 0 true, .runIdle, .tick 324, .retryTimer 0, .connectedChanged plainProxy true,
      .connectDone 0 true, .servicesResolvedChanged plainProxy true]

end EdgeTranslators.Ble
