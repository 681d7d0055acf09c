import EdgeTranslators.Lib.Run
import EdgeTranslators.Ble.Handlers

/-!
# The list of contexts in a run

* `Handled`            what the handler of an event does, and what it finds; `handled_of_handle`;
* `handle_wellFormed`  every handler keeps the contexts `WellFormed`;
* `run_wellFormed`     so every state of a run has well-formed contexts.
-/

namespace EdgeTranslators.Ble
open Lib Pt

section
variable {cfg : Config} {ans : Answers} {t t' : Translator} {ble : BleDevice} {proxy : DeviceProxy}

/-! ## the handlers -/

theorem find?_deviceId_of_mem {d : BleDevice} (hwf : WellFormed cfg t) (hd : d ∈ t.devices) :
    devicesFindDeviceByDeviceId t.devices d.deviceId = some d := by
  cases hfind : devicesFindDeviceByDeviceId t.devices d.deviceId with
  | none => exact absurd (List.find?_eq_none.mp hfind d hd) (by simp)
  | some d' =>
    obtain ⟨hd', hid⟩ := mem_of_devicesFindDeviceByDeviceId hfind
    rw [List.inj_on_of_nodup_map hwf.id hd' hd hid]

theorem WellFormed.congr (hwf : WellFormed cfg t) (hdevices : t'.devices = t.devices)
    (hnext : t'.nextPtr = t.nextPtr) : WellFormed cfg t' :=
  hwf.of_keys (by rw [hdevices]) hnext

theorem WellFormed.set {ble' : BleDevice} (hwf : WellFormed cfg t) (hble : ble ∈ t.devices)
    (hkey : ble'.key = ble.key) : WellFormed cfg (t.set ble') := by
  refine hwf.of_keys ?_ rfl
  rw [Translator.set, devicesSet_keys hwf.ptr hble hkey]

theorem resolveServices_key (cfg : Config) (ans : Answers) (t : Translator) (ble : BleDevice) :
    (resolveServices cfg ans t ble).1.key = ble.key := by
  obtain ⟨services, jsonList, translations, heq⟩ := (resolveServices_spec cfg ans t ble).fields
  rw [heq]
  rfl

theorem resolve_wellFormed (ans : Answers) (hwf : WellFormed cfg t) (hble : ble ∈ t.devices) :
    WellFormed cfg (t.resolve cfg ans ble) := by
  have hclient : WellFormed cfg { t with client := (resolveServices cfg ans t ble).2 } :=
    hwf.congr rfl rfl
  exact hclient.set hble (resolveServices_key cfg ans t ble)

theorem deviceRegisterDevice_wellFormed (ans : Answers) (hwf : WellFormed cfg t) (ble : BleDevice) :
    WellFormed cfg (deviceRegisterDevice ans t ble) :=
  Frame.wellFormed (deviceRegisterDevice_frame (D := fun _ => False) ans t ble) hwf

theorem bleOnServicesResolved_wellFormed (ans : Answers) (hwf : WellFormed cfg t)
    (proxy : DeviceProxy) : WellFormed cfg (bleOnServicesResolved cfg ans t proxy) := by
  rcases bleOnServicesResolved_cases cfg ans t proxy with
    ⟨heq, -⟩ | ⟨ble, hfind, -, ⟨-, heq⟩ | ⟨-, heq⟩⟩
  · rwa [heq]
  · rw [heq]
    exact deviceRegisterDevice_wellFormed ans hwf ble
  · rw [heq]
    exact deviceRegisterDevice_wellFormed ans
      (resolve_wellFormed ans hwf (mem_of_bleFindDeviceFromProxy hwf hfind).1) _

theorem refresh_mem (hble : ble ∈ t.devices) :
    refresh t ble ∈ (t.set (refresh t ble)).devices := devicesSet_mem_of_ptr hble rfl

theorem bleConnected_wellFormed (ans : Answers) (proxy : DeviceProxy) (hwf : WellFormed cfg t)
    (hble : ble ∈ t.devices) : WellFormed cfg (bleConnected cfg ans t proxy ble) := by
  have hset : WellFormed cfg (t.set (refresh t ble)) := hwf.set hble rfl
  rcases bleConnected_cases cfg ans t proxy ble with
    ⟨-, heq⟩ | ⟨-, -, -, heq⟩ | ⟨-, -, client, -, heq⟩
  · rwa [heq]
  · have hdel : Frame (· = ble.deviceId) (fun _ => False) (fun _ => False)
        (t.set (refresh t ble)) (devicesDelDevice (t.set (refresh t ble)) (refresh t ble)) :=
      devicesDelDevice_frame hset (refresh_mem hble)
    rw [heq]
    exact hdel.wellFormed hset
  · have hclient : WellFormed cfg { t.set (refresh t ble) with client } := hset.congr rfl rfl
    rw [heq]
    split
    · exact bleOnServicesResolved_wellFormed ans hclient proxy
    · exact hclient

theorem ptReadyDevice_wellFormed (ans : Answers) (hwf : WellFormed cfg t) (ptr : Nat) :
    WellFormed cfg (ptReadyDevice cfg ans t ptr) := by
  rcases ptReadyDevice_cases cfg ans t ptr with heq | ⟨ble, -, -, -, -, client, -, heq⟩
  · rwa [heq]
  · have hclient : WellFormed cfg { t with client } := hwf.congr rfl rfl
    rw [heq]
    split
    · exact bleOnServicesResolved_wellFormed ans hclient _
    · exact hclient

theorem bleCreateDeviceContext_wellFormed (proxy : DeviceProxy) (deviceType : BleDeviceType)
    (hwf : WellFormed cfg t) : WellFormed cfg (bleCreateDeviceContext cfg t proxy deviceType) := by
  rcases bleCreateDeviceContext_cases cfg t proxy deviceType with ⟨heq, -⟩ | ⟨a, ha, hfind, heq⟩
  · rwa [heq]
  · rw [heq]
    have hnew : ∀ d ∈ t.devices, d.deviceId ≠ cfg.id a := by
      intro d hd hid
      rw [bleFindDeviceFromProxy, ha, Option.bind_some] at hfind
      have hne := List.find?_eq_none.mp hfind d hd
      exact hne (by simpa using hid)
    refine ⟨?_, fun d hd => ?_, ?_, fun d hd => ?_⟩
    · rw [List.map_append, List.nodup_append]
      refine ⟨hwf.ptr, List.nodup_singleton _, fun p hp p' hp' => ?_⟩
      obtain ⟨d, hd, rfl⟩ := List.mem_map.mp hp
      rw [List.mem_singleton.mp hp']
      exact (hwf.fresh d hd).ne
    · rcases List.mem_append.mp hd with hd | hd
      · exact Nat.lt_succ_of_lt (hwf.fresh d hd)
      · rw [List.mem_singleton.mp hd]
        exact Nat.lt_succ_self _
    · rw [List.map_append, List.nodup_append]
      refine ⟨hwf.id, List.nodup_singleton _, fun i hi i' hi' => ?_⟩
      obtain ⟨d, hd, rfl⟩ := List.mem_map.mp hi
      rw [List.mem_singleton.mp hi']
      exact hnew d hd
    · rcases List.mem_append.mp hd with hd | hd
      · exact hwf.address d hd
      · rw [List.mem_singleton.mp hd]
        exact ⟨a, ha, rfl⟩

theorem bleNewDevice_wellFormed (proxy : DeviceProxy) (hwf : WellFormed cfg t) :
    WellFormed cfg (bleNewDevice cfg t proxy) := by
  unfold bleNewDevice
  split
  · exact (bleCreateDeviceContext_wellFormed proxy _ hwf).congr rfl rfl
  · exact hwf

theorem edgeUnregisterOrDelete_wellFormed (ans : Answers) (hwf : WellFormed cfg t)
    (hble : ble ∈ t.devices) : WellFormed cfg (edgeUnregisterOrDelete ans t ble) :=
  Frame.wellFormed (E := fun _ => False) (edgeUnregisterOrDelete_frame ans hwf hble) hwf

theorem ptBlePtReady_wellFormed (ans : Answers) (hwf : WellFormed cfg t) :
    WellFormed cfg (ptBlePtReady cfg ans t) :=
  List.foldlRecOn (motive := WellFormed cfg) _ _ hwf fun _ h ptr _ =>
    ptReadyDevice_wellFormed ans h ptr

theorem runIdle_wellFormed (ans : Answers) (i : Idle) (hwf : WellFormed cfg t) :
    WellFormed cfg (runIdle cfg ans t i) := by
  cases i with
  | deviceRegistered id =>
    show WellFormed cfg (deviceRegistered t id)
    unfold deviceRegistered
    cases hfind : devicesFindDeviceByDeviceId t.devices id with
    | none => exact hwf
    | some ble => exact hwf.set (mem_of_devicesFindDeviceByDeviceId hfind).1 rfl
  | deviceUnregistered id deleteContext =>
    show WellFormed cfg (deviceUnregistered t id deleteContext)
    unfold deviceUnregistered
    cases hfind : devicesFindDeviceByDeviceId t.devices id with
    | none => exact hwf
    | some ble =>
      have hble := (mem_of_devicesFindDeviceByDeviceId hfind).1
      cases deleteContext with
      | true =>
        exact Frame.wellFormed (R := fun _ => False) (E := fun _ => False)
          (ptEdgeDelDevice_frame hwf hble) hwf
      | false => exact hwf.set hble rfl
  | ptReady => exact ptBlePtReady_wellFormed ans hwf
  | quitLoop => exact (ptBleGMainQuitLoop_frame t).wellFormed hwf
  | gracefulShutdown => exact (ptBleGracefulShutdown_frame ans hwf).wellFormed hwf

/-! ## steps -/

theorem connectedChanged_eq (t : Translator) (proxy : DeviceProxy) (value : Bool) :
    ∃ links, t.connectedChanged proxy value = { t with links } := by
  unfold Translator.connectedChanged
  cases proxy.address with
  | none => exact ⟨t.links, rfl⟩
  | some a => exact ⟨_, rfl⟩

theorem servicesResolvedChanged_eq (t : Translator) (proxy : DeviceProxy) (value : Bool) :
    ∃ links, t.servicesResolvedChanged proxy value = { t with links } := by
  unfold Translator.servicesResolvedChanged
  cases proxy.address with
  | none => exact ⟨t.links, rfl⟩
  | some a => exact ⟨_, rfl⟩

theorem answer_same (t : Translator) (request : Request) (ok : Bool) :
    (t.answer request ok).devices = t.devices ∧ (t.answer request ok).nextPtr = t.nextPtr := by
  cases request <;> cases ok <;> exact ⟨rfl, rfl⟩

/-- the state an event leads to, and what its handler finds -/
inductive Handled (cfg : Config) (ans : Answers) (t : Translator) : Event → Translator → Prop where
  | tick (seconds : Nat) : Handled cfg ans t (.tick seconds) (t.tick seconds)
  | objectAdded (proxy : DeviceProxy) (connected resolved : Bool) {links : BtAddress → Link}
      (hlinks : (if t.keepRunning ∧ bleFindDeviceFromProxy cfg t proxy = none then
        (t.connectedChanged proxy connected).servicesResolvedChanged proxy resolved
        else t) = { t with links }) :
      Handled cfg ans t (.objectAdded proxy connected resolved)
        (bleNewDevice cfg { t with links } proxy)
  | objectUnknown (path : String) : Handled cfg ans t (.objectRemoved path) t
  | objectRemoved {path : String} {ble : BleDevice} (hpath : path ≠ cfg.bluezHciPath)
      (hfind : devicesFindDeviceByDbusPath t.devices path = some ble) :
      Handled cfg ans t (.objectRemoved path) (edgeUnregisterOrDelete ans t ble)
  | connectUnknown {k : Nat} {proxy : DeviceProxy} (ok : Bool)
      (hcall : t.calls[k]? = some (.connect proxy))
      (hfind : bleFindDeviceFromProxy cfg t proxy = none) :
      Handled cfg ans t (.connectDone k ok) { t with calls := t.calls.eraseIdx k }
  | connected {k : Nat} {proxy : DeviceProxy} {ble : BleDevice}
      (hcall : t.calls[k]? = some (.connect proxy))
      (hfind : bleFindDeviceFromProxy cfg t proxy = some ble) :
      Handled cfg ans t (.connectDone k true)
        (bleConnected cfg ans { t with calls := t.calls.eraseIdx k } proxy ble)
  | connectFailed {k : Nat} {proxy : DeviceProxy} {ble : BleDevice}
      (hcall : t.calls[k]? = some (.connect proxy))
      (hfind : bleFindDeviceFromProxy cfg t proxy = some ble) :
      Handled cfg ans t (.connectDone k false) (bleStartReconnectionTimerOrUnregisterDevice ans
        { t with calls := t.calls.eraseIdx k } ble)
  | removeUnknown {k : Nat} {id : String} (hcall : t.calls[k]? = some (.removeDevice id)) :
      Handled cfg ans t (.removeDeviceDone k) { t with calls := t.calls.eraseIdx k }
  | removeDeviceDone {k : Nat} {ble : BleDevice}
      (hcall : t.calls[k]? = some (.removeDevice ble.deviceId))
      (hfind : devicesFindDeviceByDeviceId t.devices ble.deviceId = some ble) :
      Handled cfg ans t (.removeDeviceDone k)
        (edgeUnregisterOrDelete ans { t with calls := t.calls.eraseIdx k } ble)
  | readReply {k : Nat} {id : String} {srvc ch : Nat} {outcome : ReadOutcome}
      {r : List BleDevice × Client} (hcall : t.calls[k]? = some (.readValue id srvc ch))
      (hr : bleReadCharacteristicCallback cfg.host t.client t.devices id srvc ch outcome = some r) :
      Handled cfg ans t (.readReply k outcome)
        { t with calls := t.calls.eraseIdx k, devices := r.1, client := r.2 }
  | linkUnknown {proxy : DeviceProxy} {value : Bool} {links : BtAddress → Link}
      (hlinks : t.connectedChanged proxy value = { t with links })
      (hfind : bleFindDeviceFromProxy cfg t proxy = none) :
      Handled cfg ans t (.connectedChanged proxy value) { t with links }
  | linkUp {proxy : DeviceProxy} {ble : BleDevice} {links : BtAddress → Link}
      (hlinks : t.connectedChanged proxy true = { t with links })
      (hfind : bleFindDeviceFromProxy cfg t proxy = some ble) :
      Handled cfg ans t (.connectedChanged proxy true)
        (Translator.set { t with links } { ble with connected := true })
  | linkDown {proxy : DeviceProxy} {ble : BleDevice} {links : BtAddress → Link}
      (hlinks : t.connectedChanged proxy false = { t with links })
      (hfind : bleFindDeviceFromProxy cfg t proxy = some ble) :
      Handled cfg ans t (.connectedChanged proxy false)
        (bleStartReconnectionTimerOrUnregisterDevice ans
          (Translator.set { t with links } { ble with connected := false })
          { ble with connected := false })
  | servicesResolved {proxy : DeviceProxy} {links : BtAddress → Link}
      (hlinks : t.servicesResolvedChanged proxy true = { t with links }) :
      Handled cfg ans t (.servicesResolvedChanged proxy true)
        (bleOnServicesResolved cfg ans { t with links } proxy)
  | servicesUnresolved {proxy : DeviceProxy} {links : BtAddress → Link}
      (hlinks : t.servicesResolvedChanged proxy false = { t with links }) :
      Handled cfg ans t (.servicesResolvedChanged proxy false) { t with links }
  | retryTimer {k : Nat} {timer : Timer} {t' : Translator} (htimer : t.timers[k]? = some timer)
      (hretry : bleRetryConnect { t with timers := t.timers.eraseIdx k } timer.ptr = some t') :
      Handled cfg ans t (.retryTimer k) t'
  | runIdle {i : Idle} {rest : List Idle} (hidle : t.idle = i :: rest) :
      Handled cfg ans t .runIdle (runIdle cfg ans { t with idle := rest } i)
  | readEverything : Handled cfg ans t .readEverything (bleReadEverything ans t)
  | connectionReady (connection : Nat) : Handled cfg ans t (.connectionReady connection)
      (Translator.addIdle { t with client := { t.client with connection := some connection } }
        .ptReady)
  | disconnected : Handled cfg ans t .disconnected
      { t with client := { t.client with connection := none }, registered := [] }
  | translatorRegistered :
      Handled cfg ans t .translatorRegistered (protocolTranslatorRegistrationSuccess ans t)
  | translatorRegistrationFailed :
      Handled cfg ans t .translatorRegistrationFailed (protocolTranslatorRegistrationFailure t)
  | connectionShutdown : Handled cfg ans t .connectionShutdown (shutdownCbHandler t)
  | shutdownSignal : Handled cfg ans t .shutdownSignal (ptBleGracefulShutdown ans t)
  | answered {k : Nat} {ok : Bool} {sent : Sent} (hk : t.requests[k]? = some sent)
      (hlive : ok = true → t.client.connection = some sent.connection) :
      Handled cfg ans t (.answered k ok)
        (Translator.answer { t with requests := t.requests.eraseIdx k } sent.request ok)
  | resourceWrite (id : String) (path : Path) (operation : UInt8) (value : Bytes)
      (outcome : WriteOutcome) {r : Status × List BleDevice × Client}
      (hr : resourceCallbackHandler cfg.host t.keepRunning t.devices t.client id path operation
        value outcome = r) :
      Handled cfg ans t (.resourceWrite id path operation value outcome)
        { t with devices := r.2.1, client := r.2.2 }

/-- **What a handler does.** -/
theorem handled_of_handle {e : Event} (h : handle cfg ans t e = some t') :
    Handled cfg ans t e t' := by
  cases e with
  | tick seconds => cases h; exact .tick seconds
  | objectAdded proxy connected resolved =>
    obtain ⟨links, hlinks⟩ : ∃ links, (if t.keepRunning ∧ bleFindDeviceFromProxy cfg t proxy = none
        then (t.connectedChanged proxy connected).servicesResolvedChanged proxy resolved
        else t) = { t with links } := by
      split
      · obtain ⟨links, hlinks⟩ := connectedChanged_eq t proxy connected
        obtain ⟨links', hlinks'⟩ := servicesResolvedChanged_eq { t with links } proxy resolved
        exact ⟨links', by rw [hlinks, hlinks']⟩
      · exact ⟨t.links, rfl⟩
    cases h
    rw [hlinks]
    exact .objectAdded proxy connected resolved hlinks
  | objectRemoved path =>
    cases h
    unfold bleOnObjectRemoved
    split
    · exact .objectUnknown path
    · rename_i hpath
      cases hfind : devicesFindDeviceByDbusPath t.devices path with
      | none => exact .objectUnknown path
      | some ble => exact .objectRemoved hpath hfind
  | connectDone k ok =>
    simp only [handle] at h
    split at h
    · rename_i proxy hcall
      cases h
      unfold bleConnectDone
      cases hfind : bleFindDeviceFromProxy cfg { t with calls := t.calls.eraseIdx k } proxy with
      | none => exact .connectUnknown ok hcall hfind
      | some ble =>
        cases ok with
        | true => exact .connected hcall hfind
        | false => exact .connectFailed hcall hfind
    · cases h
  | removeDeviceDone k =>
    simp only [handle] at h
    split at h
    · rename_i id hcall
      cases h
      unfold bleRemoveDeviceDone
      cases hfind : devicesFindDeviceByDeviceId t.devices id with
      | none => exact .removeUnknown hcall
      | some ble =>
        obtain ⟨-, rfl⟩ := mem_of_devicesFindDeviceByDeviceId hfind
        exact .removeDeviceDone hcall hfind
    · cases h
  | readReply k outcome =>
    simp only [handle] at h
    split at h
    · rename_i hcall
      obtain ⟨r, hr, rfl⟩ := Option.map_eq_some_iff.mp h
      exact .readReply hcall hr
    · cases h
  | connectedChanged proxy value =>
    cases h
    obtain ⟨links, hlinks⟩ := connectedChanged_eq t proxy value
    simp only [hlinks, bleOnConnect, bleOnDisconnect]
    cases hfind : bleFindDeviceFromProxy cfg { t with links } proxy with
    | none =>
      have hsame : Handled cfg ans t (.connectedChanged proxy value) { t with links } :=
        .linkUnknown hlinks hfind
      cases value <;> exact hsame
    | some ble =>
      cases value with
      | true => exact .linkUp hlinks hfind
      | false => exact .linkDown hlinks hfind
  | servicesResolvedChanged proxy value =>
    cases h
    obtain ⟨links, hlinks⟩ := servicesResolvedChanged_eq t proxy value
    simp only [hlinks]
    cases value with
    | true => exact .servicesResolved hlinks
    | false => exact .servicesUnresolved hlinks
  | retryTimer k =>
    simp only [handle] at h
    split at h
    · rename_i htimer
      exact .retryTimer htimer h
    · cases h
  | runIdle =>
    simp only [handle] at h
    split at h
    · cases h
    · rename_i hidle
      cases h
      exact .runIdle hidle
  | readEverything => cases h; exact .readEverything
  | connectionReady connection => cases h; exact .connectionReady connection
  | disconnected => cases h; exact .disconnected
  | translatorRegistered => cases h; exact .translatorRegistered
  | translatorRegistrationFailed => cases h; exact .translatorRegistrationFailed
  | connectionShutdown => cases h; exact .connectionShutdown
  | shutdownSignal => cases h; exact .shutdownSignal
  | answered k ok =>
    simp only [handle] at h
    split at h
    · cases h
    · rename_i sent hk
      split at h
      · cases h
      · rename_i hlive
        cases h
        exact .answered hk fun hok => not_not.mp fun hno => hlive ⟨hok, hno⟩
  | resourceWrite id path operation value outcome =>
    cases h
    exact .resourceWrite id path operation value outcome rfl

theorem handle_wellFormed {e : Event} (hwf : WellFormed cfg t)
    (h : handle cfg ans t e = some t') : WellFormed cfg t' := by
  have hcalls : ∀ k, WellFormed cfg { t with calls := t.calls.eraseIdx k } :=
    fun k => hwf.congr rfl rfl
  cases handled_of_handle h with
  | tick _ | objectUnknown _ | connectUnknown _ _ _ | removeUnknown _ | linkUnknown _ _
  | servicesUnresolved _ | connectionReady _ | disconnected => exact hwf.congr rfl rfl
  | objectAdded proxy connected resolved hlinks =>
    exact bleNewDevice_wellFormed proxy (hwf.congr rfl rfl)
  | objectRemoved hpath hfind =>
    exact edgeUnregisterOrDelete_wellFormed ans hwf (List.mem_of_find?_eq_some hfind)
  | connected hcall hfind =>
    exact bleConnected_wellFormed ans _ (hcalls _) (mem_of_bleFindDeviceFromProxy hwf hfind).1
  | connectFailed hcall hfind =>
    have hble := (mem_of_bleFindDeviceFromProxy hwf hfind).1
    exact (bleStartReconnection_frame ans (hcalls _) hble).wellFormed (hcalls _)
  | removeDeviceDone hcall hfind =>
    exact edgeUnregisterOrDelete_wellFormed ans (hcalls _)
      (mem_of_devicesFindDeviceByDeviceId hfind).1
  | readReply hcall hr =>
    have hframe := bleReadCharacteristicCallback_frame cfg.host hwf hr
    exact (hframe.wellFormed hwf).congr rfl rfl
  | @linkUp _ ble links hlinks hfind =>
    have hlink : WellFormed cfg { t with links } := hwf.congr rfl rfl
    exact hlink.set (mem_of_bleFindDeviceFromProxy hwf hfind).1 rfl
  | @linkDown _ ble links hlinks hfind =>
    have hlink : WellFormed cfg { t with links } := hwf.congr rfl rfl
    have hble := (mem_of_bleFindDeviceFromProxy hwf hfind).1
    have hset : WellFormed cfg (Translator.set { t with links } { ble with connected := false }) :=
      hlink.set hble rfl
    exact (bleStartReconnection_frame ans hset (devicesSet_mem_of_ptr hble rfl)).wellFormed hset
  | @servicesResolved _ links hlinks =>
    have hlink : WellFormed cfg { t with links } := hwf.congr rfl rfl
    exact bleOnServicesResolved_wellFormed ans hlink _
  | @retryTimer k _ _ htimer hretry =>
    have htimers : WellFormed cfg { t with timers := t.timers.eraseIdx k } := hwf.congr rfl rfl
    exact (bleRetryConnect_frame htimers hretry).wellFormed htimers
  | runIdle hidle => exact runIdle_wellFormed ans _ (hwf.congr rfl rfl)
  | readEverything =>
    obtain ⟨calls, heq, -⟩ := bleReadEverything_eq ans t
    rw [heq]
    exact hwf.congr rfl rfl
  | translatorRegistered =>
    exact Frame.wellFormed (protocolTranslatorRegistrationSuccess_frame (D := fun _ => False) ans t)
      hwf
  | translatorRegistrationFailed =>
    exact (protocolTranslatorRegistrationFailure_frame t).wellFormed hwf
  | connectionShutdown => exact (shutdownCbHandler_frame t).wellFormed hwf
  | shutdownSignal => exact (ptBleGracefulShutdown_frame ans hwf).wellFormed hwf
  | answered hk hlive => exact hwf.congr (answer_same ..).1 (answer_same ..).2
  | resourceWrite id path operation value outcome hr =>
    rw [← hr]
    exact (resourceCallbackHandler_frame cfg.host id path operation value outcome hwf).wellFormed
      hwf

/-- a step that is possible is a handler that runs with no effect yet -/
theorem handle_of_step {label : Event × Answers} (h : step cfg t label = some t') :
    handle cfg label.2 { t with effects := [] } label.1 = some t' := by
  unfold step at h
  split at h
  · cases h
  · exact h

theorem WellFormed.clear (hwf : WellFormed cfg t) : WellFormed cfg { t with effects := [] } :=
  hwf.congr rfl rfl

theorem step_wellFormed {label : Event × Answers} (hwf : WellFormed cfg t)
    (h : step cfg t label = some t') : WellFormed cfg t' :=
  handle_wellFormed hwf.clear (handle_of_step h)

theorem start_wellFormed (cfg : Config) (now : Nat) (connection : Option Nat) :
    WellFormed cfg (start now connection) :=
  ⟨List.nodup_nil, nofun, List.nodup_nil, nofun⟩

/-- **Every state of a run has well-formed contexts.** -/
theorem run_wellFormed {ok : Translator → Event × Answers → Prop} {now : Nat}
    {connection : Option Nat} {labels : List (Event × Answers)}
    (h : Run (step cfg) ok (start now connection) labels t) : WellFormed cfg t :=
  h.invariant (start_wellFormed cfg now connection) fun _ _ _ hwf _ hstep =>
    step_wellFormed hwf hstep

end

/-! ## one device on a plain host -/

def plainConfig : Config :=
  { endpointPostfix := "0", bluezHciPath := "/org/bluez/hci0", host := plainHost }

def plainAddress : BtAddress := ⟨"00:11:22:33:44:55", by decide⟩

def plainProxy : DeviceProxy :=
  { path := "/org/bluez/hci0/dev_00_11_22_33_44_55", address := some plainAddress }

/-- nothing is refused, and the device has one readable characteristic -/
def plainAnswers : Answers :=
  { create := fun _ => true, register := fun _ => true, unregister := fun _ => true,
    adapter := true, charProxy := fun _ => true,
    found := fun _ =>
      [{ srvcUuid := "0000ed00-0000-1000-8000-00805f9b34fb", srvcDbusPath := "/service0001",
         charUuid := "0000ed01-0000-1000-8000-00805f9b34fb",
         charDbusPath := "/service0001/char0002", properties := bleGattPropPermRead }],
    dis := { stack := fun _ => [], outcome := fun _ _ => .failed 0 } }

def plainLabels (events : List Event) : List (Event × Answers) :=
  events.map fun e => (e, plainAnswers)

/-- the device is found, connects and is registered -/
def joins : List Event :=
  [.objectAdded plainProxy true false, .connectedChanged plainProxy true, .connectDone 0 true,
    .servicesResolvedChanged plainProxy true, .answered 0 true, .runIdle]

/-- a `Connect` that is tried again and fails -/
def failsAfter (seconds : Nat) : List Event := [.tick seconds, .retryTimer 0, .connectDone 0 false]

/-- the link drops, and four tries to get it back fail -/
def drops : List Event :=
  [.connectedChanged plainProxy false, .servicesResolvedChanged plainProxy false] ++
    failsAfter 4 ++ failsAfter 12 ++ failsAfter 36 ++ failsAfter 108

end EdgeTranslators.Ble
