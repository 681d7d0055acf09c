import EdgeTranslators.Ble.Present
import EdgeTranslators.Ble.Discovery
import EdgeTranslators.Ble.Whitelist

/-!
# Which devices Edge comes to know (`pt_ble.c`)

BlueZ shows its objects: those it has when the scan starts, and later each new one.  A device is
connected to when it has a service of the tables, or a name of the white list.

* `BluezObject`, `bleIdentifyDeviceType`   an object, and what it is taken for;
* `bleOnObjectAdded`, `bleHandleKnownDevice`, `scanStep`   the translator with the objects it is shown;
* `Identified`, `bleIdentifyDeviceType_iff`   what is documented, and that the code goes by it;
* `Adds`, `scan_refines`    a run of the scan is a run of the translator that adds what was identified;
* `Within A`                contexts, device objects, requests and registrations are of ids in `A`;
* `started_tracked`         the objects at the start of the scan are handled one after the other;
* `let_in_iff_identified`   Edge comes to know the devices that were identified, and no others.
-/

namespace EdgeTranslators.Ble
open Lib Pt

/-! ## the code -/

/-- what `ble_identify_device_type` goes by -/
structure ScanConfig where
  config : Config
  /-- `g_config.adapter` -/
  adapter : String
  serviceBasedDiscovery : Bool
  whiteListEntries : Option (List DeviceConfEntry)

/-- an object of BlueZ, with the cached properties of a proxy for it -/
structure BluezObject where
  proxy : DeviceProxy
  /-- it has the interface of a device -/
  isDevice : Bool
  /-- `ble_identify_device_type`, `ble_create_device_proxy` get a proxy for it -/
  identifiable : Bool
  connectable : Bool
  /-- `none` for an element that is no string -/
  uuids : Option (List (Option String))
  name : Option String
  connected : Bool
  servicesResolved : Bool

def bleIdentifyDeviceServices (uuids : Option (List (Option String))) : Bool :=
  match uuids with
  | none => false
  | some uuids => uuids.any fun uuid => uuid.any bleServicesIsSupportedService

def bleIdentifyDeviceType (cfg : ScanConfig) (object : BluezObject) : BleDeviceType :=
  if object.identifiable then
    if cfg.serviceBasedDiscovery && bleIdentifyDeviceServices object.uuids then .persistentGattServer
    else bleIdentifyDeviceUsingWhitelist cfg.whiteListEntries object.name
  else .unknown

section
variable (cfg : ScanConfig) (ans : Answers) (t : Translator)

/-- `ble_new_device`; nothing comes of a context and a `Connect` for a proxy that is NULL -/
def newDevice (object : BluezObject) : Option Translator :=
  if t.keepRunning then
    match bleIdentifyDeviceType cfg object with
    | .unknown => some t
    | .persistentGattServer | .gapAdvertisementOnly =>
      if object.connectable then
        step cfg.config t (.objectAdded object.proxy object.connected object.servicesResolved, ans)
      else some t
  else some t

def bleOnObjectAdded (object : BluezObject) : Option Translator :=
  if object.isDevice then newDevice cfg ans t object else some t

def bleHandleKnownDevice (object : BluezObject) : Option Translator :=
  if object.isDevice then
    if Discovery.objectOnAdapter object.proxy.path.toList cfg.adapter.toList then
      newDevice cfg ans t object
    else some t
  else some t

end

inductive ScanEvent where
  | objectAdded (object : BluezObject)
  /-- `ble_connect_to_known_devices`, each time the scan starts -/
  | started (objects : List BluezObject)
  /-- anything else that happens to the translator -/
  | other (e : Event)

/-- the device that an event adds -/
def Event.added? : Event → Option DeviceProxy
  | .objectAdded proxy _ _ => some proxy
  | _ => none

def scanStep (cfg : ScanConfig) (t : Translator) : ScanEvent × Answers → Option Translator
  | (.objectAdded object, ans) => bleOnObjectAdded cfg ans t object
  | (.started objects, ans) => objects.foldlM (bleHandleKnownDevice cfg ans) t
  | (.other e, ans) => if e.added?.isSome then none else step cfg.config t (e, ans)

/-! ## what is documented -/

/-- the object advertises a service of the tables -/
def HasService (object : BluezObject) : Prop :=
  ∃ uuids ∈ object.uuids, ∃ uuid, some uuid ∈ uuids ∧
    ∃ service ∈ bleServices, sameIgnoringCase formattedUuidLen service.uuid uuid = true

/-- its name is on the list, or has a part that is -/
def IsListed (entries : Option (List DeviceConfEntry)) (object : BluezObject) : Prop :=
  ∃ list ∈ entries, ∃ name ∈ object.name, ∃ entry ∈ list, entry.name = name ∨
    (entry.partialMatch = true ∧ entry.name.toList <:+: name.toList)

/-- a device that is to be connected to -/
structure Identified (cfg : ScanConfig) (object : BluezObject) : Prop where
  isDevice : object.isDevice = true
  known : (cfg.serviceBasedDiscovery = true ∧ HasService object) ∨
    IsListed cfg.whiteListEntries object

section
variable {cfg : ScanConfig} {object : BluezObject}

theorem bleServicesIsSupportedService_iff {uuid : String} :
    bleServicesIsSupportedService uuid = true ↔
      ∃ service ∈ bleServices, sameIgnoringCase formattedUuidLen service.uuid uuid = true := by
  unfold bleServicesIsSupportedService bleServicesGetServiceDescriptor
  rw [List.find?_isSome]

theorem bleIdentifyDeviceServices_iff :
    bleIdentifyDeviceServices object.uuids = true ↔ HasService object := by
  unfold bleIdentifyDeviceServices HasService
  cases object.uuids with
  | none =>
    refine iff_of_false Bool.false_ne_true ?_
    rintro ⟨uuids, huuids, -⟩
    cases huuids
  | some uuids =>
    show uuids.any _ = true ↔ _
    rw [List.any_eq_true]
    constructor
    · rintro ⟨uuid, hmem, hsupported⟩
      obtain ⟨text, rfl, hservice⟩ := (Option.any_eq_true _ _).mp hsupported
      exact ⟨uuids, rfl, text, hmem, bleServicesIsSupportedService_iff.mp hservice⟩
    · rintro ⟨uuids', huuids, uuid, hmem, hservice⟩
      cases huuids
      exact ⟨some uuid, hmem, bleServicesIsSupportedService_iff.mpr hservice⟩

theorem bleIdentifyDeviceUsingWhitelist_isListed (entries : Option (List DeviceConfEntry)) :
    bleIdentifyDeviceUsingWhitelist entries object.name ≠ .unknown ↔ IsListed entries object := by
  unfold IsListed
  cases entries with
  | none =>
    refine iff_of_false (fun h => h ?_) ?_
    · cases object.name <;> rfl
    · rintro ⟨list, hlist, -⟩
      cases hlist
  | some entries =>
    cases object.name with
    | none =>
      refine iff_of_false (fun h => h rfl) ?_
      rintro ⟨list, -, name, hname, -⟩
      cases hname
    | some name =>
      rw [bleIdentifyDeviceUsingWhitelist_iff]
      constructor
      · exact fun h => ⟨entries, rfl, name, rfl, h⟩
      · rintro ⟨list, hlist, name', hname, h⟩
        cases hlist
        cases hname
        exact h

/-- **The code identifies what is documented**, if it gets a proxy. -/
theorem bleIdentifyDeviceType_iff : bleIdentifyDeviceType cfg object ≠ .unknown ↔
    object.identifiable = true ∧ ((cfg.serviceBasedDiscovery = true ∧ HasService object) ∨
      IsListed cfg.whiteListEntries object) := by
  unfold bleIdentifyDeviceType
  by_cases hidentifiable : object.identifiable = true
  · rw [if_pos hidentifiable, ← bleIdentifyDeviceServices_iff, ← Bool.and_eq_true]
    by_cases hservice : (cfg.serviceBasedDiscovery &&
        bleIdentifyDeviceServices object.uuids) = true
    · rw [if_pos hservice]
      exact iff_of_true (by decide) ⟨hidentifiable, .inl hservice⟩
    · rw [if_neg hservice, bleIdentifyDeviceUsingWhitelist_isListed]
      exact ⟨fun h => ⟨hidentifiable, .inr h⟩, fun h => h.2.resolve_left hservice⟩
  · rw [if_neg hidentifiable]
    exact iff_of_false (fun h => h rfl) fun h => hidentifiable h.1

end

/-! ## the scan as a run of the translator -/

/-- the objects a step shows to `ble_new_device` -/
def ScanEvent.shown (cfg : ScanConfig) : ScanEvent → List BluezObject
  | .objectAdded object => [object]
  | .started objects =>
    objects.filter fun object => Discovery.objectOnAdapter object.proxy.path.toList cfg.adapter.toList
  | .other _ => []

/-- one of the objects that were shown was identified -/
def Shown (cfg : ScanConfig) (labels : List (ScanEvent × Answers)) (proxy : DeviceProxy) : Prop :=
  ∃ label ∈ labels, ∃ object ∈ label.1.shown cfg, Identified cfg object ∧ object.proxy = proxy

/-- only devices with a property are added -/
def Adds (A : DeviceProxy → Prop) (_ : Translator) (label : Event × Answers) : Prop :=
  ∀ proxy ∈ label.1.added?, A proxy

section
variable {cfg : ScanConfig} {ans : Answers} {A B : DeviceProxy → Prop} {t t' : Translator}
  {object : BluezObject}

/-- a new device is one step of the translator, or none -/
theorem newDevice_cases (h : newDevice cfg ans t object = some t') :
    t' = t ∨ ((cfg.serviceBasedDiscovery = true ∧ HasService object) ∨
        IsListed cfg.whiteListEntries object) ∧
      step cfg.config t (.objectAdded object.proxy object.connected object.servicesResolved, ans) =
        some t' := by
  unfold newDevice at h
  by_cases hkeep : t.keepRunning = true
  · rw [if_pos hkeep] at h
    have hknown : bleIdentifyDeviceType cfg object ≠ .unknown → _ := fun hne =>
      (bleIdentifyDeviceType_iff.mp hne).2
    cases htype : bleIdentifyDeviceType cfg object with
    | unknown =>
      rw [htype] at h
      exact .inl (Option.some.inj h).symm
    | persistentGattServer | gapAdvertisementOnly =>
      rw [htype] at h hknown
      dsimp only at h
      split at h
      · exact .inr ⟨hknown (by decide), h⟩
      · exact .inl (Option.some.inj h).symm
  · rw [if_neg hkeep] at h
    exact .inl (Option.some.inj h).symm

theorem newDevice_run (h : newDevice cfg ans t object = some t')
    (hdevice : object.isDevice = true) (hA : Identified cfg object → A object.proxy) :
    ∃ events, Run (step cfg.config) (Adds A) t events t' := by
  rcases newDevice_cases h with rfl | ⟨hknown, hstep⟩
  · exact ⟨[], .nil⟩
  · refine ⟨_, Run.snoc .nil ?_ hstep⟩
    intro proxy hproxy
    cases hproxy
    exact hA ⟨hdevice, hknown⟩

theorem bleHandleKnownDevice_run (h : bleHandleKnownDevice cfg ans t object = some t')
    (hA : object ∈ (ScanEvent.started [object]).shown cfg → Identified cfg object → A object.proxy) :
    ∃ events, Run (step cfg.config) (Adds A) t events t' := by
  unfold bleHandleKnownDevice at h
  split at h
  · rename_i hdevice
    split at h
    · rename_i hadapter
      exact newDevice_run h hdevice (hA (List.mem_filter.mpr ⟨List.mem_singleton.mpr rfl, hadapter⟩))
    · cases h
      exact ⟨[], .nil⟩
  · cases h
    exact ⟨[], .nil⟩

theorem started_run {objects : List BluezObject}
    (h : objects.foldlM (bleHandleKnownDevice cfg ans) t = some t')
    (hA : ∀ object ∈ (ScanEvent.started objects).shown cfg, Identified cfg object → A object.proxy) :
    ∃ events, Run (step cfg.config) (Adds A) t events t' := by
  induction objects generalizing t with
  | nil =>
    cases h
    exact ⟨[], .nil⟩
  | cons object objects ih =>
    obtain ⟨t₁, hfirst, hrest⟩ := Option.bind_eq_some_iff.mp h
    have hshown : ∀ {other}, other ∈ object :: objects →
        other ∈ (ScanEvent.started [other]).shown cfg →
          other ∈ (ScanEvent.started (object :: objects)).shown cfg := by
      intro other hmem hother
      exact List.mem_filter.mpr ⟨hmem, (List.mem_filter.mp hother).2⟩
    obtain ⟨first, hrun⟩ := bleHandleKnownDevice_run hfirst fun hother =>
      hA object (hshown List.mem_cons_self hother)
    obtain ⟨rest, hrun'⟩ := ih hrest fun other hother => hA other <| by
      obtain ⟨hmem, hadapter⟩ := List.mem_filter.mp hother
      exact List.mem_filter.mpr ⟨List.mem_cons_of_mem object hmem, hadapter⟩
    exact ⟨first ++ rest, hrun.append hrun'⟩

/-- **The scan refines the translator**: what happens is what happens to a translator to which only
devices are added that were identified. -/
theorem scan_refines {labels : List (ScanEvent × Answers)} {t₀ : Translator}
    (h : Run (scanStep cfg) (fun _ _ => True) t₀ labels t) :
    ∃ events, Run (step cfg.config) (Adds (Shown cfg labels)) t₀ events t := by
  induction h with
  | nil => exact ⟨[], .nil⟩
  | @snoc labels t t' label _ _ hstep ih =>
    obtain ⟨events, hrun⟩ := ih
    have hmore : Run (step cfg.config) (Adds (Shown cfg (labels ++ [label]))) t₀ events t := by
      refine hrun.mono fun _ _ hadds proxy hproxy => ?_
      obtain ⟨old, hold, hshown⟩ := hadds proxy hproxy
      exact ⟨old, List.mem_append_left _ hold, hshown⟩
    have hshown : ∀ object ∈ label.1.shown cfg, Identified cfg object →
        Shown cfg (labels ++ [label]) object.proxy := fun object hobject hidentified =>
      ⟨label, List.mem_append_right _ (List.mem_singleton.mpr rfl), object, hobject, hidentified, rfl⟩
    have hlast : ∃ events', Run (step cfg.config) (Adds (Shown cfg (labels ++ [label]))) t events' t' := by
      obtain ⟨e, ans⟩ := label
      cases e with
      | objectAdded object =>
        replace hstep : bleOnObjectAdded cfg ans t object = some t' := hstep
        unfold bleOnObjectAdded at hstep
        split at hstep
        · rename_i hdevice
          exact newDevice_run hstep hdevice (hshown object (List.mem_singleton.mpr rfl))
        · cases hstep
          exact ⟨[], .nil⟩
      | started objects => exact started_run hstep hshown
      | other e =>
        unfold scanStep at hstep
        dsimp only at hstep
        split at hstep
        · cases hstep
        · rename_i hnone
          refine ⟨_, Run.snoc .nil ?_ hstep⟩
          intro proxy hproxy
          rw [Option.mem_def.mp hproxy] at hnone
          exact absurd rfl hnone
    obtain ⟨events', hrun'⟩ := hlast
    exact ⟨events ++ events', hmore.append hrun'⟩

end

/-! ## what the translator and Edge know -/

def Request.deviceId : Request → String
  | register id => id
  | unregister id _ => id

/-- contexts, device objects, requests and registrations are of ids in a set -/
structure Within (A : String → Prop) (t : Translator) : Prop where
  devices : ∀ d ∈ t.devices, A d.deviceId
  objects : ∀ id ∈ t.client.devices, A id
  requests : ∀ sent ∈ t.requests, A sent.request.deviceId
  registered : ∀ id ∈ t.registered, A id

section
variable {cfg : Config} {ans : Answers} {A : String → Prop} {t t' : Translator}
  {ble ble' : BleDevice} {proxy : DeviceProxy} {D : String → Prop} {R : Request → Prop}
  {E : Effect → Prop}

theorem Within.congr (h : Within A t) (hdevices : t'.devices = t.devices)
    (hobjects : t'.client.devices = t.client.devices) (hrequests : t'.requests ⊆ t.requests)
    (hregistered : t'.registered ⊆ t.registered) : Within A t' where
  devices := hdevices ▸ h.devices
  objects := hobjects ▸ h.objects
  requests sent hsent := h.requests sent (hrequests hsent)
  registered id hid := h.registered id (hregistered hid)

theorem Within.frame (h : Within A t) (hframe : Frame D R E t t')
    (hsent : ∀ r, R r → A r.deviceId) : Within A t' where
  devices d' hd' := by
    obtain ⟨d, hd, hq⟩ := hframe.back d' hd'
    rw [hq.deviceId]
    exact h.devices d hd
  objects id hid := h.objects id ((hframe.client.devices id).mp hid)
  requests sent hmem := (hframe.sent sent hmem).elim (h.requests sent) (hsent _)
  registered := hframe.registered ▸ h.registered

theorem Within.still (h : Within A t) (hstill : Still t t') : Within A t' :=
  h.frame hstill fun _ hfalse => hfalse.elim

theorem Within.set (h : Within A t) (hble : A ble'.deviceId) : Within A (t.set ble') :=
  { h with
    devices := by
      intro d hd
      rcases mem_devicesSet hd with rfl | hd
      · exact hble
      · exact h.devices d hd }

/-- the device objects that a client comes to have are of these ids -/
theorem Within.client {client : Client} (h : Within A t)
    (hobjects : ∀ id ∈ client.devices, id ∈ t.client.devices ∨ A id) :
    Within A { t with client } :=
  { h with objects := fun id hid => (hobjects id hid).elim (h.objects id) fun hA => hA }

theorem Within.register (h : Within A t) (ans : Answers) (hble : A ble.deviceId) :
    Within A (deviceRegisterDevice ans t ble) :=
  -- its frame does not say what it may delete
  Within.frame (D := fun _ => False) h (deviceRegisterDevice_frame ans t ble) fun r hr => by
    rw [hr]
    exact hble

theorem Within.find (h : Within A t) (hwf : WellFormed cfg t)
    (hfind : bleFindDeviceFromProxy cfg t proxy = some ble) : A ble.deviceId :=
  h.devices ble (mem_of_bleFindDeviceFromProxy hwf hfind).1

theorem Within.resolve (h : Within A t) (ans : Answers) (hble : A ble.deviceId) :
    Within A (t.resolve cfg ans ble) := by
  have hspec := resolveServices_spec cfg ans t ble
  obtain ⟨services, jsonList, translations, heq⟩ := hspec.fields
  refine Within.set (h.client fun id hid => .inl ((hspec.grows.devices id).mp hid)) ?_
  rw [heq]
  exact hble

theorem Within.servicesResolved (h : Within A t) (ans : Answers) (hwf : WellFormed cfg t)
    (proxy : DeviceProxy) : Within A (bleOnServicesResolved cfg ans t proxy) := by
  rcases bleOnServicesResolved_cases cfg ans t proxy with
    ⟨heq, -⟩ | ⟨ble, hfind, -, ⟨-, heq⟩ | ⟨-, heq⟩⟩
  · rwa [heq]
  · rw [heq]
    exact h.register ans (h.find hwf hfind)
  · rw [heq]
    have hble := h.find hwf hfind
    obtain ⟨services, jsonList, translations, hresolved⟩ := (resolveServices_spec cfg ans t ble).fields
    refine (h.resolve ans hble).register ans ?_
    rw [hresolved]
    exact hble

theorem Within.created {client : Client} {id : String} (h : Within A t) (hid : A id)
    (hcreated : Created id t.client client) : Within A { t with client } :=
  h.client fun id' hid' => ((hcreated.devices id').mp hid').elim (fun heq => .inr (heq ▸ hid)) .inl

theorem Within.connected (h : Within A t) (ans : Answers) (hwf : WellFormed cfg t)
    (hble : ble ∈ t.devices) (proxy : DeviceProxy) :
    Within A (bleConnected cfg ans t proxy ble) := by
  have hA := h.devices ble hble
  have hwf₁ : WellFormed cfg (t.set (refresh t ble)) := hwf.set hble rfl
  have h₁ : Within A (t.set (refresh t ble)) := h.set hA
  rcases bleConnected_cases cfg ans t proxy ble with
    ⟨-, heq⟩ | ⟨-, -, -, heq⟩ | ⟨-, -, client, hcreated, heq⟩
  · rwa [heq]
  · rw [heq]
    exact Within.frame (R := fun _ => False) (E := fun _ => False) h₁
      (devicesDelDevice_frame hwf₁ (refresh_mem hble)) fun _ hfalse => hfalse.elim
  · have hclient : Within A { t.set (refresh t ble) with client } := h₁.created hA hcreated
    rw [heq]
    split
    · exact hclient.servicesResolved ans (hwf₁.congr rfl rfl) proxy
    · exact hclient

theorem Within.ready (h : Within A t) (ans : Answers) (hwf : WellFormed cfg t) :
    Within A (ptBlePtReady cfg ans t) := by
  have hboth : WellFormed cfg (ptBlePtReady cfg ans t) ∧ Within A (ptBlePtReady cfg ans t) := by
    refine List.foldlRecOn
      (motive := fun t₁ : Translator => WellFormed cfg t₁ ∧ Within A t₁) _ _ ⟨hwf, h⟩ ?_
    rintro t₁ ⟨hwf₁, h₁⟩ ptr -
    refine ⟨ptReadyDevice_wellFormed ans hwf₁ ptr, ?_⟩
    rcases ptReadyDevice_cases cfg ans t₁ ptr with heq | ⟨ble, hble, -, -, -, client, hcreated, heq⟩
    · rwa [heq]
    · have hclient : Within A { t₁ with client } := h₁.created (h₁.devices ble hble) hcreated
      rw [heq]
      split
      · exact hclient.servicesResolved ans (hwf₁.congr rfl rfl) _
      · exact hclient
  exact hboth.2

theorem Within.delete (h : Within A t) (ans : Answers) (hwf : WellFormed cfg t)
    (hble : ble ∈ t.devices) : Within A (edgeUnregisterOrDelete ans t ble) :=
  Within.frame (E := fun _ => False) h (edgeUnregisterOrDelete_frame ans hwf hble) fun r hr => by
    rw [hr]
    exact h.devices ble hble

theorem Within.reconnect (h : Within A t) (ans : Answers) (hwf : WellFormed cfg t)
    (hble : ble ∈ t.devices) :
    Within A (bleStartReconnectionTimerOrUnregisterDevice ans t ble) :=
  h.frame (bleStartReconnection_frame ans hwf hble) fun r hr => by
    rw [hr.1]
    exact h.devices ble hble

theorem Within.idle (h : Within A t) (ans : Answers) (hwf : WellFormed cfg t) (i : Idle) :
    Within A (runIdle cfg ans t i) := by
  cases i with
  | deviceRegistered id =>
    show Within A (deviceRegistered t id)
    unfold deviceRegistered
    cases hfind : devicesFindDeviceByDeviceId t.devices id with
    | none => exact h
    | some ble => exact h.set (h.devices ble (mem_of_devicesFindDeviceByDeviceId hfind).1)
  | deviceUnregistered id deleteContext =>
    show Within A (deviceUnregistered t id deleteContext)
    unfold deviceUnregistered
    cases hfind : devicesFindDeviceByDeviceId t.devices id with
    | none => exact h
    | some ble =>
      have hble := (mem_of_devicesFindDeviceByDeviceId hfind).1
      cases deleteContext with
      | true =>
        exact Within.frame (R := fun _ => False) (E := fun _ => False) h
          (ptEdgeDelDevice_frame hwf hble) fun _ hfalse => hfalse.elim
      | false => exact h.set (h.devices ble hble)
  | ptReady => exact h.ready ans hwf
  | quitLoop => exact h.still (ptBleGMainQuitLoop_frame t)
  | gracefulShutdown => exact h.still (ptBleGracefulShutdown_frame ans hwf)

theorem Within.answer (h : Within A t) {r : Request} (hr : A r.deviceId) (ok : Bool) :
    Within A (t.answer r ok) := by
  cases r with
  | register id =>
    cases ok with
    | true =>
      exact { h with
        registered := fun id' hid' => (List.mem_cons.mp hid').elim (fun heq => heq ▸ hr)
          (h.registered id') }
    | false => exact h
  | unregister id deleteContext =>
    cases ok with
    | true =>
      exact { h with
        objects := fun id' hid' => h.objects id' (AList.mem_erase.mp hid').2
        registered := fun id' hid' => h.registered id' (List.mem_filter.mp hid').1 }
    | false => exact { h with }

theorem Within.newDevice (h : Within A t) (hproxy : ∀ a ∈ proxy.address, A (cfg.id a)) :
    Within A (bleNewDevice cfg t proxy) := by
  unfold bleNewDevice
  split
  · have hcreate : Within A (bleCreateDeviceContext cfg t proxy .persistentGattServer) := by
      rcases bleCreateDeviceContext_cases cfg t proxy .persistentGattServer with
        ⟨heq, -⟩ | ⟨a, ha, -, heq⟩
      · rwa [heq]
      · rw [heq]
        refine { h with devices := fun d hd => ?_ }
        rcases List.mem_append.mp hd with hd | hd
        · exact h.devices d hd
        · rw [List.mem_singleton.mp hd]
          exact hproxy a ha
    exact hcreate.congr rfl rfl (List.Subset.refl _) (List.Subset.refl _)
  · exact h

/-- one step keeps to the ids, if the device it adds has one of them -/
theorem handle_within {e : Event} (h : Within A t) (hwf : WellFormed cfg t)
    (hadds : ∀ proxy ∈ e.added?, ∀ a ∈ proxy.address, A (cfg.id a))
    (hstep : handle cfg ans t e = some t') : Within A t' := by
  have hcalls : ∀ calls : List Call, Within A { t with calls } := fun _ =>
    h.congr rfl rfl (List.Subset.refl _) (List.Subset.refl _)
  have hlinked : ∀ links : BtAddress → Link, Within A { t with links } := fun _ =>
    h.congr rfl rfl (List.Subset.refl _) (List.Subset.refl _)
  cases handled_of_handle hstep with
  | tick _ | objectUnknown _ | connectUnknown _ _ _ | removeUnknown _ | linkUnknown _ _
  | servicesUnresolved _ | connectionReady _ =>
    exact h.congr rfl rfl (List.Subset.refl _) (List.Subset.refl _)
  | disconnected => exact h.congr rfl rfl (List.Subset.refl _) (List.nil_subset _)
  | objectAdded proxy connected resolved hlinks =>
    exact Within.newDevice (hlinked _) (hadds proxy rfl)
  | objectRemoved hpath hfind => exact h.delete ans hwf (List.mem_of_find?_eq_some hfind)
  | @connected k proxy _ hcall hfind =>
    exact (hcalls (t.calls.eraseIdx k)).connected ans (hwf.congr rfl rfl)
      (mem_of_bleFindDeviceFromProxy hwf hfind).1 proxy
  | connectFailed hcall hfind =>
    exact Within.reconnect (hcalls _) ans (hwf.congr rfl rfl)
      (mem_of_bleFindDeviceFromProxy hwf hfind).1
  | removeDeviceDone hcall hfind =>
    exact Within.delete (hcalls _) ans (hwf.congr rfl rfl)
      (mem_of_devicesFindDeviceByDeviceId hfind).1
  | readReply hcall hr =>
    exact (h.still (bleReadCharacteristicCallback_frame cfg.host hwf hr)).congr rfl rfl
      (List.Subset.refl _) (List.Subset.refl _)
  | linkUp hlinks hfind =>
    have hble := h.find hwf hfind
    exact Within.set (hlinked _) hble
  | @linkDown _ ble links hlinks hfind =>
    have hlink : WellFormed cfg { t with links } := hwf.congr rfl rfl
    have hble := (mem_of_bleFindDeviceFromProxy hwf hfind).1
    have hset : WellFormed cfg (Translator.set { t with links } { ble with connected := false }) :=
      hlink.set hble rfl
    have hdown : Within A (Translator.set { t with links } { ble with connected := false }) :=
      (hlinked links).set (h.devices ble hble)
    exact hdown.reconnect ans hset (devicesSet_mem_of_ptr hble rfl)
  | @servicesResolved proxy links hlinks =>
    exact (hlinked links).servicesResolved ans (hwf.congr rfl rfl) proxy
  | @retryTimer k _ _ htimer hretry =>
    have htimers : Within A { t with timers := t.timers.eraseIdx k } :=
      h.congr rfl rfl (List.Subset.refl _) (List.Subset.refl _)
    exact htimers.still (bleRetryConnect_frame (hwf.congr rfl rfl) hretry)
  | @runIdle i rest hidle =>
    have hrest : Within A { t with idle := rest } :=
      h.congr rfl rfl (List.Subset.refl _) (List.Subset.refl _)
    exact hrest.idle ans (hwf.congr rfl rfl) i
  | readEverything =>
    obtain ⟨calls, heq, -⟩ := bleReadEverything_eq ans t
    rw [heq]
    exact hcalls _
  | translatorRegistered =>
    refine Within.frame (D := fun _ => False) h
      (protocolTranslatorRegistrationSuccess_frame ans t) ?_
    rintro r ⟨d, hd, rfl⟩
    exact h.devices d hd
  | translatorRegistrationFailed => exact h.still (protocolTranslatorRegistrationFailure_frame t)
  | connectionShutdown => exact h.still (shutdownCbHandler_frame t)
  | shutdownSignal => exact h.still (ptBleGracefulShutdown_frame ans hwf)
  | @answered k ok sent hk hlive =>
    have hrest : Within A { t with requests := t.requests.eraseIdx k } :=
      h.congr rfl rfl (List.eraseIdx_subset ..) (List.Subset.refl _)
    exact hrest.answer (h.requests sent (List.mem_of_getElem? hk)) ok
  | resourceWrite id path operation value outcome hr =>
    subst hr
    exact h.still (resourceCallbackHandler_frame cfg.host id path operation value outcome hwf)

end

/-! ## runs -/

/-- one of the objects that were shown was identified, and its device has the id -/
def IdentifiedIn (cfg : ScanConfig) (labels : List (ScanEvent × Answers)) (id : String) : Prop :=
  ∃ proxy, Shown cfg labels proxy ∧ proxy.isOf cfg.config id

theorem within_run {cfg : Config} {P : DeviceProxy → Prop} {now : Nat} {connection : Option Nat}
    {events : List (Event × Answers)} {t : Translator}
    (h : Run (step cfg) (Adds P) (start now connection) events t) :
    Within (fun id => ∃ proxy, P proxy ∧ proxy.isOf cfg id) t := by
  have hboth : WellFormed cfg t ∧ Within (fun id => ∃ proxy, P proxy ∧ proxy.isOf cfg id) t := by
    refine @Run.invariant _ _ _ _ _ _ _ (fun t => WellFormed cfg t ∧
      Within (fun id => ∃ proxy, P proxy ∧ proxy.isOf cfg id) t) h ?_ ?_
    · refine ⟨start_wellFormed cfg now connection, ?_, ?_, ?_, ?_⟩
      · exact fun _ hd => absurd hd List.not_mem_nil
      · exact fun _ hid => absurd hid (AList.notMem_empty _)
      · exact fun _ hsent => absurd hsent List.not_mem_nil
      · exact fun _ hid => absurd hid List.not_mem_nil
    · rintro t ⟨e, ans⟩ t' ⟨hwf, hwithin⟩ hadds hstep
      refine ⟨step_wellFormed hwf hstep, ?_⟩
      have hclear : Within (fun id => ∃ proxy, P proxy ∧ proxy.isOf cfg id)
          { t with effects := [] } :=
        hwithin.congr rfl rfl (List.Subset.refl _) (List.Subset.refl _)
      refine handle_within hclear hwf.clear ?_ (handle_of_step hstep)
      exact fun proxy hproxy a ha => ⟨proxy, hadds proxy hproxy, isOf_of_address ha⟩
  exact hboth.2

/-- a device that is identified has a context after the step -/
theorem newDevice_tracked {cfg : ScanConfig} {ans : Answers} {t t' : Translator}
    {object : BluezObject} (h : newDevice cfg ans t object = some t') (hkeep : t.keepRunning = true)
    (hidentified : Identified cfg object) (hidentifiable : object.identifiable = true)
    (hconnectable : object.connectable = true) {a : BtAddress}
    (ha : object.proxy.address = some a) : HasContext t'.life (cfg.config.id a) := by
  have htype := bleIdentifyDeviceType_iff.mpr ⟨hidentifiable, hidentified.known⟩
  have hstep : step cfg.config t
      (.objectAdded object.proxy object.connected object.servicesResolved, ans) = some t' := by
    unfold newDevice at h
    rw [if_pos hkeep] at h
    cases hcase : bleIdentifyDeviceType cfg object with
    | unknown => exact absurd hcase htype
    | persistentGattServer | gapAdvertisementOnly =>
      rw [hcase] at h
      dsimp only at h
      rwa [if_pos hconnectable] at h
  cases handled_of_handle (handle_of_step hstep) with
  | objectAdded proxy connected resolved hlinks =>
    exact bleNewDevice_hasContext hkeep ha

/-- a new device leaves the other contexts there, and the translator running -/
theorem newDevice_keeps {cfg : ScanConfig} {ans : Answers} {t t' : Translator}
    {object : BluezObject} (h : newDevice cfg ans t object = some t') :
    t.devices ⊆ t'.devices ∧ t'.keepRunning = t.keepRunning := by
  rcases newDevice_cases h with rfl | ⟨-, hstep⟩
  · exact ⟨List.Subset.refl _, rfl⟩
  · cases handled_of_handle (handle_of_step hstep) with
    | @objectAdded proxy connected resolved links hlinks =>
      unfold bleNewDevice
      split
      · rcases bleCreateDeviceContext_cases cfg.config { t with effects := [], links }
          object.proxy .persistentGattServer with ⟨heq, -⟩ | ⟨a, -, -, heq⟩
        · rw [heq]
          exact ⟨List.Subset.refl _, rfl⟩
        · rw [heq]
          exact ⟨List.subset_append_left _ _, rfl⟩
      · exact ⟨List.Subset.refl _, rfl⟩

theorem bleHandleKnownDevice_keeps {cfg : ScanConfig} {ans : Answers} {t t' : Translator}
    {object : BluezObject} (h : bleHandleKnownDevice cfg ans t object = some t') :
    t.devices ⊆ t'.devices ∧ t'.keepRunning = t.keepRunning := by
  unfold bleHandleKnownDevice at h
  split at h
  · split at h
    · exact newDevice_keeps h
    · cases h
      exact ⟨List.Subset.refl _, rfl⟩
  · cases h
    exact ⟨List.Subset.refl _, rfl⟩

theorem started_keeps {cfg : ScanConfig} {ans : Answers} {t t' : Translator}
    {objects : List BluezObject} (h : objects.foldlM (bleHandleKnownDevice cfg ans) t = some t') :
    t.devices ⊆ t'.devices := by
  induction objects generalizing t with
  | nil =>
    cases h
    exact List.Subset.refl _
  | cons object objects ih =>
    obtain ⟨t₁, hfirst, hrest⟩ := Option.bind_eq_some_iff.mp h
    exact List.Subset.trans (bleHandleKnownDevice_keeps hfirst).1 (ih hrest)

/-- each device that is identified at the start of the scan has a context when all were handled -/
theorem started_tracked {cfg : ScanConfig} {ans : Answers} {t t' : Translator}
    {objects : List BluezObject} (h : objects.foldlM (bleHandleKnownDevice cfg ans) t = some t')
    (hkeep : t.keepRunning = true) {object : BluezObject} (hmem : object ∈ objects)
    (hadapter : Discovery.objectOnAdapter object.proxy.path.toList cfg.adapter.toList = true)
    (hidentified : Identified cfg object) (hidentifiable : object.identifiable = true)
    (hconnectable : object.connectable = true) {a : BtAddress}
    (ha : object.proxy.address = some a) : HasContext t'.life (cfg.config.id a) := by
  induction objects generalizing t with
  | nil => cases hmem
  | cons first rest ih =>
    obtain ⟨t₁, hfirst, hrest⟩ := Option.bind_eq_some_iff.mp h
    rcases List.mem_cons.mp hmem with rfl | hin
    · have hnew : newDevice cfg ans t object = some t₁ := by
        unfold bleHandleKnownDevice at hfirst
        rwa [if_pos hidentified.isDevice, if_pos hadapter] at hfirst
      have hcontext := newDevice_tracked hnew hkeep hidentified hidentifiable hconnectable ha
      -- the objects handled after it leave its context there
      obtain ⟨c, hc, hid⟩ := List.mem_map.mp hcontext
      obtain ⟨ble, hble, rfl⟩ := List.mem_map.mp hc
      exact List.mem_map.mpr ⟨_, List.mem_map_of_mem (started_keeps hrest hble), hid⟩
    · exact ih hrest ((bleHandleKnownDevice_keeps hfirst).2.trans hkeep) hin

/-- **Exactly the identified devices are let in**: in every run, a device that has a context, a
device object, a request to Edge or a registration at Edge is one of which an object was shown that
has a service of the tables or is on the white list; and after each step that shows objects, at the
start of the scan or later, the devices found to be so have contexts. -/
theorem let_in_iff_identified {cfg : ScanConfig} {now : Nat} {connection : Option Nat}
    {labels : List (ScanEvent × Answers)} {t : Translator}
    (h : Run (scanStep cfg) (fun _ _ => True) (start now connection) labels t) :
    Within (IdentifiedIn cfg labels) t ∧
      ∀ (e : ScanEvent) (ans : Answers) (t' : Translator), t.keepRunning = true →
        scanStep cfg t (e, ans) = some t' →
          ∀ object ∈ e.shown cfg, Identified cfg object →
            object.identifiable = true → object.connectable = true →
              ∀ a ∈ object.proxy.address, HasContext t'.life (cfg.config.id a) := by
  obtain ⟨events, hrun⟩ := scan_refines h
  refine ⟨within_run hrun, ?_⟩
  intro e ans t' hkeep hstep object hshown hidentified hidentifiable hconnectable a ha
  cases e with
  | objectAdded shown =>
    cases List.mem_singleton.mp hshown
    replace hstep : bleOnObjectAdded cfg ans t object = some t' := hstep
    unfold bleOnObjectAdded at hstep
    rw [if_pos hidentified.isDevice] at hstep
    exact newDevice_tracked hstep hkeep hidentified hidentifiable hconnectable ha
  | started objects =>
    obtain ⟨hmem, hadapter⟩ := List.mem_filter.mp hshown
    exact started_tracked hstep hkeep hmem hadapter hidentified hidentifiable hconnectable ha
  | other e => cases hshown

/-! ## a scan -/

def thermometerScan : ScanConfig :=
  { config := plainConfig, adapter := "hci0", serviceBasedDiscovery := true
    whiteListEntries := some [⟨true, "Thunder"⟩] }

def knownThermometer : BluezObject :=
  { proxy := plainProxy, isDevice := true, identifiable := true, connectable := true
    uuids := some [some "0000181a-0000-1000-8000-00805f9b34fb"], name := none
    connected := true, servicesResolved := false }

def stranger : BluezObject :=
  { proxy := { plainProxy with address := some ⟨"66:77:88:99:AA:BB", by decide⟩ }
    isDevice := true, identifiable := true, connectable := true, uuids := none
    name := some "Headset", connected := false, servicesResolved := false }

/-- a thermometer is there when the scan starts, and a stranger comes while it connects -/
def thermometerLabels : List (ScanEvent × Answers) :=
  (.started [knownThermometer], plainAnswers) :: (.objectAdded stranger, plainAnswers) ::
    joins.tail.map fun e => (.other e, plainAnswers)

theorem knownThermometer_identified : Identified thermometerScan knownThermometer := by
  have htype : bleIdentifyDeviceType thermometerScan knownThermometer ≠ .unknown := by
    decide +kernel
  exact ⟨rfl, (bleIdentifyDeviceType_iff.mp htype).2⟩

theorem let_in_iff_identified_thermometer :
    (∃ t, Run (scanStep thermometerScan) (fun _ _ => True) (start 0 (some 0)) thermometerLabels t ∧
      plainConfig.id plainAddress ∈ t.registered ∧
      Within (IdentifiedIn thermometerScan thermometerLabels) t) ∧
    ∃ t, scanStep thermometerScan (start 0 (some 0)) (.started [knownThermometer], plainAnswers) =
        some t ∧ HasContext t.life (plainConfig.id plainAddress) := by
  have hany : (run (scanStep thermometerScan) (start 0 (some 0)) thermometerLabels).any
      (fun t => decide (plainConfig.id plainAddress ∈ t.registered)) = true := by
    decide +kernel
  have hfirst : (scanStep thermometerScan (start 0 (some 0))
      (.started [knownThermometer], plainAnswers)).isSome = true := by
    decide +kernel
  obtain ⟨t, ht, hregistered⟩ := exists_of_run_any hany
  obtain ⟨t₁, ht₁⟩ := Option.isSome_iff_exists.mp hfirst
  have hadapter : Discovery.objectOnAdapter knownThermometer.proxy.path.toList
      thermometerScan.adapter.toList = true := by
    decide +kernel
  have hshown : knownThermometer ∈ (ScanEvent.started [knownThermometer]).shown thermometerScan :=
    List.mem_filter.mpr ⟨List.mem_singleton.mpr rfl, hadapter⟩
  refine ⟨⟨t, Run.of_run ht, hregistered, (let_in_iff_identified (Run.of_run ht)).1⟩, t₁, ht₁, ?_⟩
  exact (let_in_iff_identified Run.nil).2 _ _ t₁ rfl ht₁ knownThermometer hshown
    knownThermometer_identified rfl rfl plainAddress rfl

end EdgeTranslators.Ble
