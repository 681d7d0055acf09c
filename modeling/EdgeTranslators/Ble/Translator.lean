import EdgeTranslators.Ble.Characteristic

/-!
# The BLE translator as a state machine (`pt_ble.c`, `pt_edge.c`, `devices.c`)

The functions below run in the GLib main loop or in a callback of the PT client, under the devices
mutex; each is one step.  What they hand to others is part of the state: requests to Edge that have
no answer, D-Bus calls that have no reply, armed timers and queued idle callbacks.

* `Translator`                     the state, with the links as BlueZ reports them and the devices
                                   Edge has registered;
* `Answers`                        what the synchronous calls of a step find;
* `bleOnServicesResolved`, `bleConnectDone`,
  `bleStartReconnectionTimerOrUnregisterDevice`, `deviceUnregistered`, `ptBlePtReady`, …
                                   the functions under the source's names.
-/

namespace EdgeTranslators.Ble
open Lib Pt

/-! ## the state -/

structure Config where
  /-- `g_config.postfix` -/
  endpointPostfix : String
  /-- `g_config.bluez_hci_path` -/
  bluezHciPath : String
  host : Host

/-- the id of the device with an address -/
def Config.id (cfg : Config) (a : BtAddress) : String := bleDeviceId cfg.endpointPostfix a

/-- a link as the cached properties of its proxies show it, and when it was last up -/
structure Link where
  connected : Bool
  servicesResolved : Bool
  lastUp : Nat
  deriving DecidableEq, Repr

inductive Request where
  | register (deviceId : String)
  | unregister (deviceId : String) (deleteContext : Bool)
  deriving DecidableEq, Repr

/-- a request and the connection it was sent on -/
structure Sent where
  request : Request
  connection : Nat
  deriving DecidableEq, Repr

/-- the callbacks `g_idle_add` queues -/
inductive Idle where
  | deviceRegistered (deviceId : String)
  | deviceUnregistered (deviceId : String) (deleteContext : Bool)
  | ptReady
  | quitLoop
  | gracefulShutdown
  deriving DecidableEq, Repr

/-- D-Bus calls with an asynchronous reply -/
inductive Call where
  | connect (proxy : DeviceProxy)
  | removeDevice (deviceId : String)
  | readValue (deviceId : String) (srvc ch : Nat)
  deriving DecidableEq

/-- an armed `ble_retry_connect` and the context it was given -/
structure Timer where
  source : Nat
  ptr : Nat
  delayMs : Nat
  deriving DecidableEq, Repr

/-- what a step did that is not seen in the state it ends in -/
inductive Effect where
  /-- `edge_register_device`, with the context and the PT device object of that id -/
  | registerDevice (deviceId : String) (context : Option BleDevice) (object : Option Resources)
  /-- `ble_start_reconnection_timer_or_unregister_device` unregisters the device -/
  | gaveUp (deviceId : String) (removeContext : Bool)
  deriving DecidableEq

structure Translator where
  /-- `global_keep_running` -/
  keepRunning : Bool
  unregisteringDevices : Bool
  /-- the main loop has been left for good -/
  stopped : Bool
  /-- `seconds_since_epoch` -/
  now : Nat
  devices : List BleDevice
  client : Client
  /-- the devices registered with Edge on the current connection -/
  registered : List String
  requests : List Sent
  calls : List Call
  timers : List Timer
  idle : List Idle
  links : BtAddress → Link
  nextPtr : Nat
  nextSource : Nat
  /-- of the last step -/
  effects : List Effect

/-- a characteristic BlueZ has for a device -/
structure FoundChar where
  srvcUuid : String
  srvcDbusPath : String
  charUuid : String
  charDbusPath : String
  properties : Nat
  deriving DecidableEq, Repr

/-- what the calls of one step find -/
structure Answers where
  /-- the PT client lets the device object be created, takes the request -/
  create : String → Bool
  register : String → Bool
  unregister : String → Bool
  /-- a proxy for the adapter, for a characteristic -/
  adapter : Bool
  charProxy : String → Bool
  /-- the characteristics of the device with an address -/
  found : String → List FoundChar
  dis : DisReads

namespace Translator

/-- what was written through the pointer of a device -/
def set (t : Translator) (ble : BleDevice) : Translator :=
  { t with devices := devicesSet t.devices ble }

def addIdle (t : Translator) (i : Idle) : Translator := { t with idle := t.idle ++ [i] }

def addCall (t : Translator) (c : Call) : Translator := { t with calls := t.calls ++ [c] }

def addEffect (t : Translator) (e : Effect) : Translator := { t with effects := t.effects ++ [e] }

/-- a request goes to Edge, if there is a connection -/
def send (t : Translator) (r : Request) : Translator :=
  match t.client.connection with
  | none => t
  | some connection => { t with requests := t.requests ++ [⟨r, connection⟩] }

/-- `edge_is_connected` -/
def edgeIsConnected (t : Translator) : Bool := t.client.connection.isSome

/-- `ble_services_are_resolved` -/
def servicesAreResolved (t : Translator) (proxy : DeviceProxy) : Bool :=
  proxy.address.any fun a => (t.links a).servicesResolved

/-- `ble_device_is_connected` -/
def deviceIsConnected (t : Translator) (proxy : DeviceProxy) : Bool :=
  proxy.address.any fun a => (t.links a).connected

end Translator

section
variable (cfg : Config) (ans : Answers) (t : Translator)

/-- `ble_find_device_from_proxy` -/
def bleFindDeviceFromProxy (proxy : DeviceProxy) : Option BleDevice :=
  proxy.address.bind fun a => devicesFindDeviceByDeviceId t.devices (cfg.id a)

/-! ## `devices.c` -/

/-- `device_stop_retry_timer` -/
def deviceStopRetryTimer (ble : BleDevice) : Translator :=
  if ble.retryTimerSource = 0 then t
  else
    { t with timers := t.timers.filter fun timer => timer.source ≠ ble.retryTimerSource }.set
      { ble with retryTimerSource := 0 }

/-- `devices_del_device` -/
def devicesDelDevice (ble : BleDevice) : Translator :=
  let t := deviceStopRetryTimer t ble
  { t with devices := t.devices.filter fun d => d.ptr ≠ ble.ptr }

/-! ## `pt_edge.c` -/

/-- `pt_edge_del_device` -/
def ptEdgeDelDevice (ble : BleDevice) : Translator :=
  let t := devicesDelDevice t ble
  if t.unregisteringDevices ∧ t.devices = [] then t.addIdle .quitLoop else t

/-- `edge_register_device` -/
def edgeRegisterDevice (deviceId : String) : Translator :=
  let t := t.addEffect (.registerDevice deviceId (devicesFindDeviceByDeviceId t.devices deviceId)
    (t.client.devices.lookup deviceId))
  if deviceExists t.client deviceId ∧ ans.register deviceId then t.send (.register deviceId) else t

/-- `device_register_device` -/
def deviceRegisterDevice (ble : BleDevice) : Translator :=
  if ble.registered then t else edgeRegisterDevice ans t ble.deviceId

/-- `edge_unregister_device`: whether the call succeeded -/
def edgeUnregisterDevice (ble : BleDevice) (removeDeviceContext : Bool) : Bool × Translator :=
  if deviceExists t.client ble.deviceId ∧ ans.unregister ble.deviceId then
    (true, t.send (.unregister ble.deviceId removeDeviceContext))
  else (false, t)

/-- `edge_unregister_device`, and the context is deleted at once if the call fails -/
def edgeUnregisterOrDelete (ble : BleDevice) : Translator :=
  match edgeUnregisterDevice ans t ble true with
  | (true, t) => t
  | (false, t) => ptEdgeDelDevice t ble

/-- `device_registered` -/
def deviceRegistered (deviceId : String) : Translator :=
  match devicesFindDeviceByDeviceId t.devices deviceId with
  | none => t
  | some ble => t.set { ble with registered := true }

/-- `device_unregistered` -/
def deviceUnregistered (deviceId : String) (deleteContext : Bool) : Translator :=
  match devicesFindDeviceByDeviceId t.devices deviceId with
  | none => t
  | some ble =>
    if deleteContext then ptEdgeDelDevice t ble else t.set { ble with registered := false }

/-- `protocol_translator_registration_success` -/
def protocolTranslatorRegistrationSuccess : Translator :=
  t.devices.foldl (fun t dev => edgeRegisterDevice ans t dev.deviceId) t

/-- `protocol_translator_registration_failure` -/
def protocolTranslatorRegistrationFailure : Translator :=
  { t with keepRunning := false }.addIdle .gracefulShutdown

/-- `shutdown_cb_handler` -/
def shutdownCbHandler : Translator :=
  if t.keepRunning then { t with keepRunning := false }.addIdle .gracefulShutdown else t

/-! ## reconnecting -/

def bleRetrySleepTimeInitialSecs : Nat := 4
def bleMaxBackOffTimeSecs : Nat := 300
def bleSleepTimeMultiplier : Nat := 2
def maxConnectionRetryTimeSeconds : Nat := 3600 * 24
def bleMaxConnectionRetries : Nat := 10000

/-- the loop of `ble_back_off_time_in_ms`, `retries` rounds before its index is 1 -/
def backOffLoop : (retries sleepTime : Nat) → Nat
  | 0, sleepTime => sleepTime
  | retries + 1, sleepTime =>
    if sleepTime < bleMaxBackOffTimeSecs then
      backOffLoop retries (sleepTime + sleepTime * bleSleepTimeMultiplier)
    else sleepTime

/-- `ble_back_off_time_in_ms` -/
def bleBackOffTimeInMs (retryIndex : Nat) : Nat :=
  backOffLoop (retryIndex - 1) bleRetrySleepTimeInitialSecs * 1000

/-- `devices_duration_in_sec_since_last_connection` -/
def devicesDurationInSecSinceLastConnection (ble : BleDevice) : Nat :=
  t.now - ble.lastConnectedTimestampSecs

/-- `g_timeout_add_full` with `ble_retry_connect` -/
def armRetryTimer (ble : BleDevice) (delayMs : Nat) : Translator :=
  { t with
    timers := t.timers ++ [Timer.mk t.nextSource ble.ptr delayMs]
    nextSource := t.nextSource + 1 }.set { ble with retryTimerSource := t.nextSource }

/-- the context after one more retry was counted -/
def countRetry (ble : BleDevice) : BleDevice :=
  if ble.connectionRetries < bleMaxConnectionRetries then
    { ble with connectionRetries := ble.connectionRetries + 1 }
  else ble

/-- the back-off of the next retry is past its maximum -/
def backOffExceeded (ble : BleDevice) : Bool :=
  bleBackOffTimeInMs (countRetry ble).connectionRetries > bleMaxBackOffTimeSecs * 1000

/-- `remove_device_context` -/
def removesDeviceContext (ble : BleDevice) : Bool :=
  backOffExceeded ble ∧
    devicesDurationInSecSinceLastConnection t ble ≥ maxConnectionRetryTimeSeconds

/-- the device is taken for unreachable -/
def givesUp (ble : BleDevice) : Bool :=
  backOffExceeded ble ∧ devicesDurationInSecSinceLastConnection t ble ≥ bleMaxBackOffTimeSecs

/-- what `ble_start_reconnection_timer_or_unregister_device` does to a device that it takes for
unreachable -/
def giveUpDevice (ble : BleDevice) (removeDeviceContext : Bool) : Translator :=
  match edgeUnregisterDevice ans (t.addEffect (.gaveUp ble.deviceId removeDeviceContext)) ble
    removeDeviceContext with
  | (true, t) => t
  | (false, t) => if removeDeviceContext then ptEdgeDelDevice t ble else t

/-- `ble_start_reconnection_timer_or_unregister_device` -/
def bleStartReconnectionTimerOrUnregisterDevice (ble : BleDevice) : Translator :=
  if ble.retryTimerSource = 0 then
    let removeDeviceContext := removesDeviceContext t ble
    let unregisters := givesUp t ble
    let ble := countRetry ble
    let t := t.set ble
    let t := if unregisters then giveUpDevice ans t ble removeDeviceContext else t
    if removeDeviceContext then t
    else armRetryTimer t ble (bleBackOffTimeInMs ble.connectionRetries)
  else t

/-! ## the BLE side -/

/-- `ble_proxy_connect` -/
def bleProxyConnect (proxy : DeviceProxy) : Translator := t.addCall (.connect proxy)

/-- `ble_retry_connect`; `none` if the context is gone -/
def bleRetryConnect (ptr : Nat) : Option Translator :=
  (t.devices.find? fun d => d.ptr = ptr).map fun ble =>
    (bleProxyConnect t ble.proxy).set { ble with retryTimerSource := 0 }

/-- `ble_discover_characteristics` -/
def bleDiscoverCharacteristics (ble : BleDevice) : BleDevice :=
  (ans.found ble.addr).foldl (fun ble f =>
    deviceAddGattCharacteristic ble f.srvcUuid f.srvcDbusPath f.charUuid f.charDbusPath
      f.properties) ble

/-- a device with its resources, and the client that has them -/
def resolveServices (ble : BleDevice) : BleDevice × Client :=
  let ble := bleDiscoverCharacteristics ans ble
  let (ble, c) := deviceAddResourcesFromGatt t.client ble
  let (ble, c) := deviceAddKnownTranslationsFromGatt cfg.host ans.dis c ble
  ({ ble with servicesResolved := true }, c)

/-- `ble_on_services_resolved` -/
def bleOnServicesResolved (proxy : DeviceProxy) : Translator :=
  if t.edgeIsConnected then
    match bleFindDeviceFromProxy cfg t proxy with
    | none => t
    | some ble =>
      if ble.servicesResolved then deviceRegisterDevice ans t ble
      else
        let (ble, client) := resolveServices cfg ans t ble
        deviceRegisterDevice ans ({ t with client }.set ble) ble
  else t

/-- `devices_create_pt_device` with the arguments all its callers give it -/
def devicesCreatePtDevice (ble : BleDevice) : Bool × Translator :=
  match edgeCreateDevice cfg.host t.client ble.deviceId "ARM" "mept-ble" ble.addr "mept-ble"
    (ans.create ble.deviceId) with
  | (created, client) => (created, { t with client })

/-- `ble_connect_done` after a success -/
def bleConnected (proxy : DeviceProxy) (ble : BleDevice) : Translator :=
  let ble := { ble with lastConnectedTimestampSecs := t.now, connectionRetries := 0 }
  let t := t.set ble
  if t.edgeIsConnected then
    match devicesCreatePtDevice cfg ans t ble with
    | (false, t) => devicesDelDevice t ble
    | (true, t) =>
      if t.servicesAreResolved proxy then bleOnServicesResolved cfg ans t proxy else t
  else t

/-- `ble_connect_done` -/
def bleConnectDone (proxy : DeviceProxy) (ok : Bool) : Translator :=
  match bleFindDeviceFromProxy cfg t proxy with
  | none => t
  | some ble =>
    if ok then bleConnected cfg ans t proxy ble
    else bleStartReconnectionTimerOrUnregisterDevice ans t ble

/-- `ble_on_connect` -/
def bleOnConnect (proxy : DeviceProxy) : Translator :=
  match bleFindDeviceFromProxy cfg t proxy with
  | none => t
  | some ble => t.set { ble with connected := true }

/-- `ble_on_disconnect` -/
def bleOnDisconnect (proxy : DeviceProxy) : Translator :=
  match bleFindDeviceFromProxy cfg t proxy with
  | none => t
  | some ble =>
    let ble := { ble with connected := false }
    bleStartReconnectionTimerOrUnregisterDevice ans (t.set ble) ble

/-- `ble_create_device_context` -/
def bleCreateDeviceContext (proxy : DeviceProxy) (deviceType : BleDeviceType) : Translator :=
  match proxy.address with
  | none => t
  | some a =>
    match devicesFindDeviceByDeviceId t.devices (cfg.id a) with
    | some _ => t
    | none =>
      { t with
        devices := t.devices ++
          [{ deviceCreate t.nextPtr t.now a.1 with
             proxy, dbusPath := proxy.path, deviceType, deviceId := cfg.id a }]
        nextPtr := t.nextPtr + 1 }

/-- `ble_new_device` for a device that was identified -/
def bleNewDevice (proxy : DeviceProxy) : Translator :=
  if t.keepRunning then
    bleProxyConnect (bleCreateDeviceContext cfg t proxy .persistentGattServer) proxy
  else t

/-- `ble_remove_device` -/
def bleRemoveDevice (ble : BleDevice) : Translator :=
  let t := deviceStopRetryTimer t ble
  if ans.adapter then t.addCall (.removeDevice ble.deviceId) else t

/-- `ble_remove_device_done` -/
def bleRemoveDeviceDone (deviceId : String) : Translator :=
  match devicesFindDeviceByDeviceId t.devices deviceId with
  | none => t
  | some ble => edgeUnregisterOrDelete ans t ble

/-- `ble_on_object_removed`; the loop is started again when the adapter goes -/
def bleOnObjectRemoved (objectPath : String) : Translator :=
  if objectPath = cfg.bluezHciPath then t
  else
    match devicesFindDeviceByDbusPath t.devices objectPath with
    | none => t
    | some ble => edgeUnregisterOrDelete ans t ble

/-- the readable characteristics of a device -/
def readableChars (ble : BleDevice) : List (Nat × Nat × GattChar) :=
  ble.services.zipIdx.flatMap fun (s, srvc) =>
    (s.chars.zipIdx.filter fun (gattchar, _) =>
      gattchar.properties &&& bleGattPropPermRead ≠ 0 ∧ ans.charProxy gattchar.dbusPath).map
        fun (gattchar, ch) => (srvc, ch, gattchar)

/-- `ble_read_all_characteristics_for_device` -/
def bleReadAllCharacteristicsForDevice (ble : BleDevice) : Translator :=
  if t.deviceIsConnected ble.proxy then
    (readableChars ans ble).foldl
      (fun t (srvc, ch, _) => t.addCall (.readValue ble.deviceId srvc ch)) t
  else t

/-- `ble_read_everything` -/
def bleReadEverything : Translator :=
  if t.keepRunning then
    t.devices.foldl (fun t ble =>
      if ble.registered ∧ ble.connected then bleReadAllCharacteristicsForDevice ans t ble else t) t
  else t

/-- one round of the loop of `pt_ble_pt_ready` -/
def ptReadyDevice (ptr : Nat) : Translator :=
  match t.devices.find? fun d => d.ptr = ptr with
  | none => t
  | some ble =>
    if deviceExists t.client ble.deviceId then t
    else
      match devicesCreatePtDevice cfg ans t ble with
      | (false, t) => t
      | (true, t) =>
        if t.edgeIsConnected ∧ t.servicesAreResolved ble.proxy then
          bleOnServicesResolved cfg ans t ble.proxy
        else t

/-- `pt_ble_pt_ready` -/
def ptBlePtReady : Translator :=
  (t.devices.map (·.ptr)).foldl (ptReadyDevice cfg ans) t

/-- `pt_ble_g_main_quit_loop` -/
def ptBleGMainQuitLoop : Translator := if t.keepRunning then t else { t with stopped := true }

/-- `unregister_devices` -/
def unregisterDevices : Translator :=
  if t.unregisteringDevices then t
  else
    let t := { t with unregisteringDevices := true }
    if t.devices = [] then t.addIdle .quitLoop else t.devices.foldl (bleRemoveDevice ans) t

/-- `pt_ble_graceful_shutdown` -/
def ptBleGracefulShutdown : Translator :=
  unregisterDevices ans
    (if t.keepRunning then { t with keepRunning := false } else t.addIdle .quitLoop)

end

/-! ## steps -/

inductive Event where
  /-- the clock goes on -/
  | tick (seconds : Nat)
  /-- BlueZ has an object for a device that is to be connected to; `connected` and
  `servicesResolved` are the cached properties of its new proxy -/
  | objectAdded (proxy : DeviceProxy) (connected servicesResolved : Bool)
  | objectRemoved (path : String)
  /-- the `k`-th D-Bus call is a `Connect`, a `RemoveDevice`, a `ReadValue`, and ends -/
  | connectDone (k : Nat) (ok : Bool)
  | removeDeviceDone (k : Nat)
  | readReply (k : Nat) (outcome : ReadOutcome)
  /-- the property changes on a proxy -/
  | connectedChanged (proxy : DeviceProxy) (value : Bool)
  | servicesResolvedChanged (proxy : DeviceProxy) (value : Bool)
  /-- the `k`-th timer fires -/
  | retryTimer (k : Nat)
  /-- the first idle callback runs -/
  | runIdle
  | readEverything
  /-- callbacks of the PT client -/
  | connectionReady (connection : Nat)
  | disconnected
  | translatorRegistered
  | translatorRegistrationFailed
  | connectionShutdown
  /-- `SIGTERM`, `SIGINT` or `SIGUSR2` -/
  | shutdownSignal
  /-- Edge answers the `k`-th request -/
  | answered (k : Nat) (ok : Bool)
  /-- Edge writes a resource -/
  | resourceWrite (deviceId : String) (path : Path) (operation : UInt8) (value : Bytes)
      (outcome : WriteOutcome)

/-- the property of a link changes; an established link is up at that time -/
def Translator.setLink (t : Translator) (a : BtAddress) (link : Link) : Translator :=
  { t with links := Function.update t.links a link }

/-- `Connected` of a proxy changes -/
def Translator.connectedChanged (t : Translator) (proxy : DeviceProxy) (value : Bool) :
    Translator :=
  match proxy.address with
  | none => t
  | some a =>
    t.setLink a { t.links a with
      connected := value
      lastUp := if value then t.now else (t.links a).lastUp }

/-- `ServicesResolved` of a proxy changes -/
def Translator.servicesResolvedChanged (t : Translator) (proxy : DeviceProxy) (value : Bool) :
    Translator :=
  match proxy.address with
  | none => t
  | some a => t.setLink a { t.links a with servicesResolved := value }

/-- time passes, and the links that are up stay up -/
def Translator.tick (t : Translator) (seconds : Nat) : Translator :=
  { t with
    now := t.now + seconds
    links := fun a =>
      if (t.links a).connected then { t.links a with lastUp := t.now + seconds } else t.links a }

/-- Edge has done what a request asks for, or has not, and the PT client tells of it -/
def Translator.answer (t : Translator) (request : Request) (ok : Bool) : Translator :=
  match request, ok with
  | .register id, true => { t with registered := id :: t.registered }.addIdle (.deviceRegistered id)
  | .register _, false => t
  | .unregister id deleteContext, true =>
    { t with
      registered := t.registered.filter fun r => r ≠ id
      client := { t.client with devices := t.client.devices.erase id } }.addIdle
        (.deviceUnregistered id deleteContext)
  | .unregister id deleteContext, false => t.addIdle (.deviceUnregistered id deleteContext)

section
variable (cfg : Config) (ans : Answers) (t : Translator)

def runIdle : Idle → Translator
  | .deviceRegistered id => deviceRegistered t id
  | .deviceUnregistered id deleteContext => deviceUnregistered t id deleteContext
  | .ptReady => ptBlePtReady cfg ans t
  | .quitLoop => ptBleGMainQuitLoop t
  | .gracefulShutdown => ptBleGracefulShutdown ans t

/-- the handler of an event -/
def handle : Event → Option Translator
  | .tick seconds => some (t.tick seconds)
  | .objectAdded proxy connected servicesResolved =>
    -- the properties of a device that is tracked already are in its cache
    some (bleNewDevice cfg
      (if t.keepRunning ∧ bleFindDeviceFromProxy cfg t proxy = none then
        (t.connectedChanged proxy connected).servicesResolvedChanged proxy servicesResolved
      else t) proxy)
  | .objectRemoved path => some (bleOnObjectRemoved cfg ans t path)
  | .connectDone k ok =>
    match t.calls[k]? with
    | some (.connect proxy) =>
      some (bleConnectDone cfg ans { t with calls := t.calls.eraseIdx k } proxy ok)
    | _ => none
  | .removeDeviceDone k =>
    match t.calls[k]? with
    | some (.removeDevice id) =>
      some (bleRemoveDeviceDone ans { t with calls := t.calls.eraseIdx k } id)
    | _ => none
  | .readReply k outcome =>
    match t.calls[k]? with
    | some (.readValue id srvc ch) =>
      -- a callback that follows a NULL device or leaves the tables has no next state
      (bleReadCharacteristicCallback cfg.host t.client t.devices id srvc ch outcome).map
        fun (devices, client) => { t with calls := t.calls.eraseIdx k, devices, client }
    | _ => none
  | .connectedChanged proxy value =>
    let t := t.connectedChanged proxy value
    some (if value then bleOnConnect cfg t proxy else bleOnDisconnect cfg ans t proxy)
  | .servicesResolvedChanged proxy value =>
    let t := t.servicesResolvedChanged proxy value
    some (if value then bleOnServicesResolved cfg ans t proxy else t)
  | .retryTimer k =>
    match t.timers[k]? with
    | some timer => bleRetryConnect { t with timers := t.timers.eraseIdx k } timer.ptr
    | none => none
  | .runIdle =>
    match t.idle with
    | [] => none
    | i :: rest => some (runIdle cfg ans { t with idle := rest } i)
  | .readEverything => some (bleReadEverything ans t)
  | .connectionReady connection =>
    some ({ t with client := { t.client with connection := some connection } }.addIdle .ptReady)
  | .disconnected =>
    some { t with client := { t.client with connection := none }, registered := [] }
  | .translatorRegistered => some (protocolTranslatorRegistrationSuccess ans t)
  | .translatorRegistrationFailed => some (protocolTranslatorRegistrationFailure t)
  | .connectionShutdown => some (shutdownCbHandler t)
  | .shutdownSignal => some (ptBleGracefulShutdown ans t)
  | .answered k ok =>
    match t.requests[k]? with
    | none => none
    | some sent =>
      -- a request of a lost connection is never done
      if ok ∧ t.client.connection ≠ some sent.connection then none
      else some ({ t with requests := t.requests.eraseIdx k }.answer sent.request ok)
  | .resourceWrite id path operation value outcome =>
    let (_, devices, client) :=
      resourceCallbackHandler cfg.host t.keepRunning t.devices t.client id path operation value
        outcome
    some { t with devices, client }

/-- one step: an event, and what the calls its handler makes find -/
def step (t : Translator) (label : Event × Answers) : Option Translator :=
  if t.stopped then none else handle cfg label.2 { t with effects := [] } label.1

end

/-- the translator before it knows any device -/
def start (now : Nat) (connection : Option Nat) : Translator :=
  { keepRunning := true, unregisteringDevices := false, stopped := false, now, devices := [],
    client := { connection, devices := ∅, faults := [], setCalls := [] },
    registered := [], requests := [], calls := [], timers := [], idle := [],
    links := fun _ => { connected := false, servicesResolved := false, lastUp := 0 },
    nextPtr := 0, nextSource := 1, effects := [] }

end EdgeTranslators.Ble
