import EdgeTranslators.Lib.Base64
import EdgeTranslators.Lib.Json

/-!
# The devices of the dummy device app (`dummy-device-app/src/main.rs`)

* `Device`                         a row of the `devices` table, with its JSON state;
* `ProtocolTranslator.createDeviceParams`   what a device looks like to Edge Core, with
  `mapDeviceTypeToLwm2m`, `encodeValue` and the sanitised device id;
* `WriteEvent`, `applyWriteEvent`  a write call of Edge Core, and the consumer's `UPDATE`
  (`Device.written` for one row).

Numbers of JSON are of a type `ν`; what the code takes from the Rust library is in `Rust`.
-/

namespace EdgeTranslators.Kaas
open Lib

/-- the library functions on characters, numbers and JSON text -/
structure Rust (ν : Type) where
  /-- `char::is_alphanumeric` -/
  isAlphanumeric : Char → Bool
  /-- `Number::from_f64` of a whole number -/
  fromF64 : Nat → ν
  /-- `as_f64` and `f64::to_be_bytes` -/
  toBeBytes : ν → Bytes
  /-- `Value::to_string` -/
  toText : Json ν → String
  underscore : isAlphanumeric '_' = false
  space : isAlphanumeric ' ' = false

inductive DeviceType where
  | lightBulb
  | switch
  | temperatureSensor
  | humiditySensor
  deriving DecidableEq, Repr

structure Device (ν : Type) where
  id : Nat
  name : String
  deviceType : DeviceType
  state : Json ν
  createdAt : Nat
  updatedAt : Nat

/-- the library on ASCII characters and a single number -/
def ascii : Rust Unit where
  isAlphanumeric := Char.isAlphanum
  fromF64 _ := ()
  toBeBytes _ := []
  toText _ := ""
  underscore := rfl
  space := rfl

/-! ## object and resource ids -/

def opRead : UInt8 := 0x01
def opWrite : UInt8 := 0x02

def temperatureSensor : UInt16 := 3303
def humiditySensor : UInt16 := 3304
def lightControl : UInt16 := 3311

def sensorValue : UInt16 := 5700
def sensorUnits : UInt16 := 5701
def onOffValue : UInt16 := 5850

/-! ## what Edge Core is told -/

structure LwM2MResourceData where
  resourceId : UInt16
  operations : UInt8
  resourceType : String
  value : String
  deriving DecidableEq, Repr

structure LwM2MObjectInstance where
  objectInstanceId : UInt16
  resources : List LwM2MResourceData
  deriving DecidableEq, Repr

structure LwM2MObjectData where
  objectId : UInt16
  objectInstances : List LwM2MObjectInstance
  deriving DecidableEq, Repr

structure DeviceRegistrationParams where
  deviceId : String
  objects : List LwM2MObjectData
  deriving DecidableEq, Repr

section
variable {ν : Type} (r : Rust ν)

/-- `encode_value` -/
def encodeValue : Json ν → String
  | .bool b => base64Encode [if b then 1 else 0]
  | .number n => base64Encode (r.toBeBytes n)
  | .string s => base64Encode s.toUTF8.toList
  | value => base64Encode (r.toText value).toUTF8.toList

/-- `map_device_type_to_lwm2m` -/
def mapDeviceTypeToLwm2m (state : Json ν) :
    DeviceType → UInt16 × List (UInt16 × UInt8 × String × Json ν)
  | .lightBulb | .switch =>
    (lightControl,
      [(onOffValue, opRead ||| opWrite, "boolean", (state.get "on").getD (.bool false))])
  | .temperatureSensor =>
    (temperatureSensor,
      [ (sensorValue, opRead, "float", (state.get "temperature").getD (.number (r.fromF64 22))),
        (sensorUnits, opRead, "string", .string "Celsius") ])
  | .humiditySensor =>
    (humiditySensor,
      [ (sensorValue, opRead, "float", (state.get "humidity").getD (.number (r.fromF64 50))),
        (sensorUnits, opRead, "string", .string "%") ])

/-- the `device_id` of a name: what is not alphanumeric becomes an underscore -/
def deviceId (name : String) : String :=
  String.ofList (name.toList.map fun c => if r.isAlphanumeric c then c else '_')

/-- `create_device_params` -/
def createDeviceParams (device : Device ν) : DeviceRegistrationParams :=
  let (objectId, resources) := mapDeviceTypeToLwm2m r device.state device.deviceType
  { deviceId := deviceId r device.name,
    objects := [{
      objectId,
      objectInstances := [{
        objectInstanceId := 0,
        resources := resources.map fun (resourceId, operations, resourceType, value) =>
          { resourceId, operations, resourceType, value := encodeValue r value } }] }] }

end

/-! ## what Edge Core writes -/

structure WriteEvent where
  deviceId : String
  objectId : UInt16
  objectInstanceId : UInt16
  resourceId : UInt16
  valueBase64 : String
  operation : UInt8
  deriving DecidableEq, Repr

/-- `bytes.get(0).copied().unwrap_or(0) != 0` -/
def isOn (bytes : Bytes) : Bool := bytes.headD 0 ≠ 0

/-- `name_exact.replace('_', " ")` -/
def nameSpaces (nameExact : String) : String :=
  String.ofList (nameExact.toList.map fun c => if c = '_' then ' ' else c)

/-- `WHERE name = $3 OR name = $4` for the device id of an event -/
def nameMatches (deviceId name : String) : Bool := name = deviceId ∨ name = nameSpaces deviceId

section
variable {ν : Type}

/-- `SET state = $1, updated_at = $2` -/
def Device.switched (now : Nat) (on : Bool) (device : Device ν) : Device ν :=
  { device with state := .object [("on", .bool on)], updatedAt := now }

/-- what the consumer's `UPDATE` for a write event does to a row -/
def Device.written (now : Nat) (event : WriteEvent) (device : Device ν) : Device ν :=
  if event.objectId = lightControl ∧ event.resourceId = onOffValue then
    match base64Decode event.valueBase64 with
    | none => device
    | some bytes =>
      if nameMatches event.deviceId device.name then device.switched now (isOn bytes) else device
  else device

/-- what the consumer of write events does to the table -/
def applyWriteEvent (now : Nat) (event : WriteEvent) (devices : List (Device ν)) :
    List (Device ν) :=
  devices.map (Device.written now event)

/-- a well-formed write of an on/off value -/
def WriteEvent.OnOff (event : WriteEvent) (bytes : Bytes) : Prop :=
  event.objectId = lightControl ∧ event.resourceId = onOffValue ∧
    base64Decode event.valueBase64 = some bytes

theorem Device.written_onOff {event : WriteEvent} {bytes : Bytes} (hevent : event.OnOff bytes)
    (now : Nat) (device : Device ν) :
    device.written now event =
      if nameMatches event.deviceId device.name then device.switched now (isOn bytes)
      else device := by
  obtain ⟨hobj, hres, hbytes⟩ := hevent
  unfold Device.written
  rw [if_pos ⟨hobj, hres⟩, hbytes]

end

end EdgeTranslators.Kaas
