import EdgeTranslators.Pt.Ipso
import EdgeTranslators.Pt.V1.Device

/-!
# IPSO objects of the first client (`examples-common/ipso_objects.c`)

The same objects as for the other client, on a device of the program's own.  What a constructor
adds comes to a new instance of its object, the least that is free; the instance id that some of
them are given is only for the traces.
-/

namespace EdgeTranslators.Pt.V1
open Lib

/-- `ipso_get_next_free_object_instance_id` -/
def ipsoGetNextFreeObjectInstanceId (object : Object) : Int :=
  leastFree (fun i => UInt16.ofNat i ∈ object) 65535 0

/-- `ipso_add_resource` -/
def ipsoAddResource (d : Device) (inst : Option InstanceId) (resourceId : UInt16)
    (type : Lwm2mResourceType) (operations : UInt8) (value : Bytes) : Device :=
  (objectInstanceAddResource d inst resourceId ⟨type, operations, value⟩).2

/-- `strdup`; the NULL of a copy that there is no memory for is passed on as a value without
bytes -/
def strdup (d : Device) (s : String) : Bytes × Device :=
  match d.takeFault with
  | (true, d) => ([], d)
  | (false, d) => (cBytes s, d)

/-- the first half of `ipso_create_next_free_object_instance`: an object that is not there yet is
added -/
def findOrAddObject (d : Device) (objectId : UInt16) : Option Object × Device :=
  match d.findObject objectId with
  | some object => (some object, d)
  | none =>
    match deviceAddObject d objectId with
    | (.success, d) => (d.findObject objectId, d)
    | (_, d) => (none, d)

/-- `ipso_create_next_free_object_instance` -/
def ipsoCreateNextFreeObjectInstance (d : Device) (objectId : UInt16) :
    Option InstanceId × Device :=
  match findOrAddObject d objectId with
  | (none, d) => (none, d)
  | (some object, d) =>
    let id := ipsoGetNextFreeObjectInstanceId object
    if id < 0 ∨ 65535 < id then (none, d)
    else
      let instanceId := UInt16.ofNat id.toNat
      match objectAddObjectInstance d objectId instanceId with
      | (.success, d) => (some ⟨objectId, instanceId⟩, d)
      | (_, d) => (none, d)

/-- `ipso_add_min_max_fields`; `none` when the trace of a failed call reads the id of a NULL
instance -/
def ipsoAddMinMaxFields (o : ByteOrder) (d : Device) (inst : Option InstanceId) : Option Device :=
  match d.takeFault with
  | (true, d) => some d
  | (false, d) =>
    match d.takeFault with
    | (true, d) => some d
    | (false, d) =>
      if inst.isNone then none
      else
        let d := ipsoAddResource d inst minMeasuredValue .float operationRead
          (convertFloatValueToNetworkByteOrder o fltMax)
        let d := ipsoAddResource d inst maxMeasuredValue .float operationRead
          (convertFloatValueToNetworkByteOrder o negFltMax)
        some (ipsoAddResource d inst resetMinMaxMeasuredValues .opaqueBytes operationExecute [])

/-- `ipso_create_thermometer`; `none` when it uses a NULL pointer, of the temperature or of the
instance -/
def ipsoCreateThermometer (o : ByteOrder) (d : Device) (temperature : UInt32)
    (optionalFields : Bool) : Option Device :=
  match ipsoCreateNextFreeObjectInstance d temperatureSensor with
  | (inst, d) =>
    match d.takeFault with
    | (true, _) => none
    | (false, d) =>
      let d := ipsoAddResource d inst sensorValue .float operationRead
        (convertFloatValueToNetworkByteOrder o temperature)
      let (units, d) := strdup d "Cel"
      let d := ipsoAddResource d inst sensorUnits .string operationRead units
      if optionalFields then ipsoAddMinMaxFields o d inst else some d

/-- `ipso_create_sensor_object`; units and type may be NULL -/
def ipsoCreateSensorObject (o : ByteOrder) (d : Device) (sensorId : UInt16)
    (units type : Option String) : Option InstanceId × Device :=
  match ipsoCreateNextFreeObjectInstance d sensorId with
  | (none, d) => (none, d)
  | (some inst, d) =>
    match d.takeFault with
    | (true, d) => (none, d)
    | (false, d) =>
      let d := ipsoAddResource d inst sensorValue .float operationRead
        (convertFloatValueToNetworkByteOrder o 0)
      let d := match units with
        | some units =>
          let (units, d) := strdup d units
          ipsoAddResource d inst sensorUnits .string operationRead units
        | none => d
      let d := match type with
        | some type =>
          let (type, d) := strdup d type
          ipsoAddResource d inst sensorType .string operationRead type
        | none => d
      (some inst, d)

/-- `ipso_create_set_point`; the target is copied as it is in memory -/
def ipsoCreateSetPoint (o : ByteOrder) (d : Device) (targetTemperature : UInt32) : Device :=
  match ipsoCreateNextFreeObjectInstance d setPoint with
  | (inst, d) =>
    match d.takeFault with
    | (true, d) => d
    | (false, d) =>
      let d := ipsoAddResource d inst setPointValue .float (operationRead ||| operationWrite)
        (o.storeWord 4 targetTemperature.toNat)
      let (units, d) := strdup d "Cel"
      ipsoAddResource d inst sensorUnits .string operationRead units

/-- half a reset: the result is false when there is no memory for the default -/
def resetBound (d : Device) (p : Path) (data : Bytes) : Bool × Device :=
  match d.value p with
  | none => (true, d)
  | some value =>
    match d.takeFault with
    | (true, d) => (false, d)
    | (false, d) => (true, d.store p (memcpy value data 4))

/-- `ipso_reset_min_max_object`, of a resource of the instance -/
def ipsoResetMinMaxObject (o : ByteOrder) (d : Device) (inst : InstanceId) : Device :=
  match resetBound d (inst.path minMeasuredValue)
      (convertFloatValueToNetworkByteOrder o fltMax) with
  | (false, d) => d
  | (true, d) =>
    (resetBound d (inst.path maxMeasuredValue)
      (convertFloatValueToNetworkByteOrder o negFltMax)).2

theorem strdup_eq (d : Device) (s : String) :
    strdup d s = (if d.fault 0 then [] else cBytes s, d.afterFault) := by
  unfold strdup
  rw [takeFault_eq]
  cases d.fault 0 <;> rfl

theorem strdup_faults {d : Device} (h : d.faults = []) (s : String) :
    strdup d s = (cBytes s, d) := by
  unfold strdup
  rw [takeFault_faults h]

end EdgeTranslators.Pt.V1
