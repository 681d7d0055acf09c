import Mathlib.Data.Rat.Defs
import EdgeTranslators.Pt.Client

/-!
# IPSO objects (`examples-common-2/ipso_objects.c`, `byte-order/byte_order.c`)

* `ipsoCreateSensorObject`   a sensor instance: value, units, type;
* `ipsoCreateThermometer`, `ipsoCreateSetPoint`   a temperature sensor and a set point;
* `ipsoAddMinMaxFields`      the minimum, maximum and reset resources of a sensor;
* `ipsoUpdateMinMaxFields`   moves the minimum and the maximum to a new value;
* `ipsoResetMinMaxObject`    moves them back to where they were set up.

A `float` is its 32-bit pattern; `floatLt` compares two of them.
-/

namespace EdgeTranslators.Pt
open Lib

/-! ## object and resource ids -/

def temperatureSensor : UInt16 := 3303
def humiditySensor : UInt16 := 3304
def setPoint : UInt16 := 3308
def lightControl : UInt16 := 3311
def barometerSensor : UInt16 := 3315
def pushButton : UInt16 := 3347

def digitalInputState : UInt16 := 5500
def minMeasuredValue : UInt16 := 5601
def maxMeasuredValue : UInt16 := 5602
def resetMinMaxMeasuredValues : UInt16 := 5605
def sensorValue : UInt16 := 5700
def sensorUnits : UInt16 := 5701
def sensorType : UInt16 := 5751
def onOffValue : UInt16 := 5850
def setPointValue : UInt16 := 5900

/-! ## floats -/

/-- `FLT_MAX` -/
def fltMax : UInt32 := 0x7F7FFFFF
/-- `-FLT_MAX` -/
def negFltMax : UInt32 := 0xFF7FFFFF

def floatIsNaN (f : UInt32) : Bool := 0x7F800000 < f.toNat % 2 ^ 31

/-- sign and magnitude: the order of the numbers that are not NaN, with `-0 = 0` -/
def floatKey (f : UInt32) : Int :=
  if f.toNat < 2 ^ 31 then f.toNat else -((f.toNat % 2 ^ 31 : Nat) : Int)

/-- `a == b` -/
def floatEq (a b : UInt32) : Bool := !floatIsNaN a && !floatIsNaN b && floatKey a = floatKey b

/-- neither an infinity nor NaN -/
def floatIsFinite (f : UInt32) : Bool := f.toNat % 2 ^ 31 < 0x7F800000

/-- `a < b` -/
def floatLt (a b : UInt32) : Bool := !floatIsNaN a && !floatIsNaN b && floatKey a < floatKey b

/-- `convert_float_value_to_network_byte_order` -/
def convertFloatValueToNetworkByteOrder (o : ByteOrder) (f : UInt32) : Bytes :=
  o.storeWord 4 (o.netOrder 4 f.toNat)

/-- `convert_value_to_host_order_float` -/
def convertValueToHostOrderFloat (o : ByteOrder) (value : Bytes) : UInt32 :=
  UInt32.ofNat (o.netOrder 4 (o.loadWord (value.take 4)))

theorem length_convertFloatValueToNetworkByteOrder (o : ByteOrder) (f : UInt32) :
    (convertFloatValueToNetworkByteOrder o f).length = 4 := o.length_storeWord 4 _

/-- reading a converted float gives the float back, whatever the host -/
theorem convertValueToHostOrderFloat_convert (o : ByteOrder) (f : UInt32) :
    convertValueToHostOrderFloat o (convertFloatValueToNetworkByteOrder o f) = f := by
  have hf : f.toNat < 256 ^ 4 := f.toNat_lt
  have hload : o.loadWord (convertFloatValueToNetworkByteOrder o f)
      = o.netOrder 4 f.toNat % 256 ^ 4 := o.loadWord_storeWord 4 _
  have hlt : o.netOrder 4 f.toNat % 256 ^ 4 = o.netOrder 4 f.toNat := by
    have h := o.netOrder_netOrder 4 (o.netOrder 4 f.toNat)
    rw [o.netOrder_netOrder 4 f.toNat, Nat.mod_eq_of_lt hf] at h
    exact h.symm
  unfold convertValueToHostOrderFloat
  rw [List.take_of_length_le (length_convertFloatValueToNetworkByteOrder o f).le, hload, hlt,
    o.netOrder_netOrder, Nat.mod_eq_of_lt hf, UInt32.ofNat_toNat]

theorem convertFloatValueToNetworkByteOrder_inj {o : ByteOrder} {f g : UInt32}
    (h : convertFloatValueToNetworkByteOrder o f = convertFloatValueToNetworkByteOrder o g) :
    f = g := by
  have hback := congrArg (convertValueToHostOrderFloat o) h
  rwa [convertValueToHostOrderFloat_convert, convertValueToHostOrderFloat_convert] at hback

/-! ## the objects -/

/-- the bytes of a C string, without the terminating zero -/
def cBytes (s : String) : Bytes := s.toUTF8.toList

/-- `ipso_add_resource` -/
def ipsoAddResource (c : Client) (id : String) (p : Path) (type : Lwm2mResourceType)
    (operations : UInt8) (value : Bytes) : Client :=
  (deviceAddResource c id p ⟨type, operations, value⟩).2

/-- `strdup`; the NULL of a copy that there is no memory for is passed on as a value without
bytes -/
def strdup (c : Client) (s : String) : Bytes × Client :=
  match c.takeFault with
  | (true, c) => ([], c)
  | (false, c) => (cBytes s, c)

/-- `ipso_create_sensor_object`; units and type may be NULL -/
def ipsoCreateSensorObjectWith (o : ByteOrder) (c : Client) (id : String) (sensorId inst : UInt16)
    (units type : Option String) : Client :=
  match c.takeFault with
  | (true, c) => c
  | (false, c) =>
    let c := ipsoAddResource c id ⟨sensorId, inst, sensorValue⟩ .float operationRead
      (convertFloatValueToNetworkByteOrder o 0)
    let c := match units with
      | some units =>
        let (units, c) := strdup c units
        ipsoAddResource c id ⟨sensorId, inst, sensorUnits⟩ .string operationRead units
      | none => c
    match type with
    | some type =>
      let (type, c) := strdup c type
      ipsoAddResource c id ⟨sensorId, inst, sensorType⟩ .string operationRead type
    | none => c

/-- `ipso_create_sensor_object` with units and a type -/
def ipsoCreateSensorObject (o : ByteOrder) (c : Client) (id : String) (sensorId inst : UInt16)
    (units type : String) : Client :=
  ipsoCreateSensorObjectWith o c id sensorId inst (some units) (some type)

/-- `ipso_add_min_max_fields` -/
def ipsoAddMinMaxFields (o : ByteOrder) (c : Client) (id : String) (objectId inst : UInt16) :
    Client :=
  match c.takeFault with
  | (true, c) => c
  | (false, c) =>
    match c.takeFault with
    | (true, c) => c
    | (false, c) =>
      let c := ipsoAddResource c id ⟨objectId, inst, minMeasuredValue⟩ .float operationRead
        (convertFloatValueToNetworkByteOrder o fltMax)
      let c := ipsoAddResource c id ⟨objectId, inst, maxMeasuredValue⟩ .float operationRead
        (convertFloatValueToNetworkByteOrder o negFltMax)
      ipsoAddResource c id ⟨objectId, inst, resetMinMaxMeasuredValues⟩ .opaqueBytes
        operationExecute []

/-- a half of `ipso_update_min_max_fields`: store the new bound if the value is `beyond` the old
one; the result is false when there is no memory for it -/
def updateBound (c : Client) (id : String) (p : Path) (beyond : Bool) (data : Bytes) :
    Bool × Client :=
  if beyond then
    match c.takeFault with
    | (true, c) => (false, c)
    | (false, c) => (true, (deviceSetResourceValue c id p data).2)
  else (true, c)

/-- `ipso_update_min_max_fields` -/
def ipsoUpdateMinMaxFields (o : ByteOrder) (c : Client) (id : String) (objectId inst : UInt16)
    (newValue : UInt32) : Status × Client :=
  let minPath : Path := ⟨objectId, inst, minMeasuredValue⟩
  let maxPath : Path := ⟨objectId, inst, maxMeasuredValue⟩
  match deviceGetResourceValue c id minPath with
  | (status, minCurrent, c) =>
    -- a resource without a value has a NULL value
    if status ≠ .success ∨ minCurrent.getD [] = [] then (status, c)
    else
      match deviceGetResourceValue c id maxPath with
      | (status, maxCurrent, c) =>
        if status ≠ .success ∨ maxCurrent.getD [] = [] then (status, c)
        else
          let data := convertFloatValueToNetworkByteOrder o newValue
          let temp := convertValueToHostOrderFloat o (minCurrent.getD [])
          match updateBound c id minPath (floatLt newValue temp) data with
          | (false, c) => (.allocationFail, c)
          | (true, c) =>
            let temp := convertValueToHostOrderFloat o (maxCurrent.getD [])
            match updateBound c id maxPath (floatLt temp newValue) data with
            | (false, c) => (.allocationFail, c)
            | (true, c) => (.success, c)

/-- `ipso_reset_min_max_object`; the statuses of the two calls are not looked at -/
def ipsoResetMinMaxObject (o : ByteOrder) (c : Client) (id : String) (objectId inst : UInt16) :
    Status × Client :=
  match c.takeFault with
  | (true, c) => (.allocationFail, c)
  | (false, c) =>
    let c := (deviceSetResourceValue c id ⟨objectId, inst, minMeasuredValue⟩
      (convertFloatValueToNetworkByteOrder o fltMax)).2
    match c.takeFault with
    | (true, c) => (.allocationFail, c)
    | (false, c) =>
      (.success, (deviceSetResourceValue c id ⟨objectId, inst, maxMeasuredValue⟩
        (convertFloatValueToNetworkByteOrder o negFltMax)).2)

/-- `ipso_create_thermometer`; `none` when it writes through the NULL pointer of a failed
allocation -/
def ipsoCreateThermometer (o : ByteOrder) (c : Client) (id : String) (inst : UInt16)
    (temperature : UInt32) (optionalFields : Bool) : Option Client :=
  match c.takeFault with
  | (true, _) => none
  | (false, c) =>
    let c := ipsoAddResource c id ⟨temperatureSensor, inst, sensorValue⟩ .float operationRead
      (convertFloatValueToNetworkByteOrder o temperature)
    let c := ipsoAddResource c id ⟨temperatureSensor, inst, sensorUnits⟩ .string operationRead
      (cBytes "Cel")
    some (if optionalFields then ipsoAddMinMaxFields o c id temperatureSensor inst else c)

/-- `ipso_create_set_point`; the target is copied as it is in memory -/
def ipsoCreateSetPoint (o : ByteOrder) (c : Client) (id : String) (inst : UInt16)
    (targetTemperature : UInt32) : Client :=
  match c.takeFault with
  | (true, c) => c
  | (false, c) =>
    match deviceAddResource c id ⟨setPoint, inst, sensorValue⟩
        ⟨.float, operationRead ||| operationWrite, o.storeWord 4 targetTemperature.toNat⟩ with
    | (.success, c) =>
      ipsoAddResource c id ⟨setPoint, inst, sensorUnits⟩ .string operationRead (cBytes "Cel")
    | (_, c) => c

/-! ## what they do to the client -/

theorem ipsoAddResource_grows (c : Client) (id : String) (p : Path) (type : Lwm2mResourceType)
    (operations : UInt8) (value : Bytes) :
    Grows c (ipsoAddResource c id p type operations value) :=
  deviceAddResource_grows c id p _

theorem ipsoAddResource_hasPath {c : Client} {id : String} (p : Path) (type : Lwm2mResourceType)
    (operations : UInt8) (value : Bytes) (h : Ready c id) :
    (ipsoAddResource c id p type operations value).HasPath id p := by
  obtain ⟨rs, hrs⟩ := h.find
  exact deviceAddResource_hasPath p _ h.1 hrs

theorem strdup_eq (c : Client) (s : String) :
    strdup c s = (if c.fault 0 then [] else cBytes s, c.afterFault) := by
  unfold strdup
  rw [takeFault_eq]
  cases c.fault 0 <;> rfl

theorem strdup_grows (c : Client) (s : String) : Grows c (strdup c s).2 := by
  have h0 := takeFault_grows c
  rw [takeFault_eq] at h0
  rw [strdup_eq]
  exact h0

theorem ipsoCreateSensorObject_grows (o : ByteOrder) (c : Client) (id : String)
    (sensorId inst : UInt16) (units type : String) :
    Grows c (ipsoCreateSensorObject o c id sensorId inst units type) := by
  have h0 := takeFault_grows c
  unfold ipsoCreateSensorObject ipsoCreateSensorObjectWith
  rcases hf : c.takeFault with ⟨_ | _, c₁⟩ <;> rw [hf] at h0 <;> simp only
  · exact h0.trans ((ipsoAddResource_grows ..).trans ((strdup_grows ..).trans
      ((ipsoAddResource_grows ..).trans ((strdup_grows ..).trans (ipsoAddResource_grows ..)))))
  · exact h0

/-- when nothing fails, the sensor's value resource is there -/
theorem ipsoCreateSensorObject_hasPath (o : ByteOrder) {c : Client} {id : String}
    (sensorId inst : UInt16) (units type : String) (h : Ready c id) :
    (ipsoCreateSensorObject o c id sensorId inst units type).HasPath id
      ⟨sensorId, inst, sensorValue⟩ := by
  unfold ipsoCreateSensorObject ipsoCreateSensorObjectWith
  rw [takeFault_of_nil h.1]
  simp only
  apply (ipsoAddResource_grows ..).paths
  apply (strdup_grows ..).paths
  apply (ipsoAddResource_grows ..).paths
  apply (strdup_grows ..).paths
  exact ipsoAddResource_hasPath _ _ _ _ h

theorem ipsoAddMinMaxFields_grows (o : ByteOrder) (c : Client) (id : String)
    (objectId inst : UInt16) : Grows c (ipsoAddMinMaxFields o c id objectId inst) := by
  have h0 := takeFault_grows c
  unfold ipsoAddMinMaxFields
  rcases hf : c.takeFault with ⟨_ | _, c₁⟩ <;> rw [hf] at h0 <;> simp only
  · have h1 := h0.trans (takeFault_grows c₁)
    rcases hf1 : c₁.takeFault with ⟨_ | _, c₂⟩ <;> rw [hf1] at h1 <;> simp only
    · exact h1.trans ((ipsoAddResource_grows ..).trans
        ((ipsoAddResource_grows ..).trans (ipsoAddResource_grows ..)))
    · exact h1
  · exact h0

theorem updateBound_grows (c : Client) (id : String) (p : Path) (beyond : Bool) (data : Bytes) :
    Grows c (updateBound c id p beyond data).2 := by
  have h0 := takeFault_grows c
  unfold updateBound
  cases beyond with
  | false => exact .refl c
  | true =>
    rw [if_pos rfl]
    rcases hf : c.takeFault with ⟨_ | _, c₁⟩ <;> rw [hf] at h0 <;> simp only
    · exact h0.trans (deviceSetResourceValue_grows ..)
    · exact h0

theorem updateBound_sameExcept (c : Client) (id : String) (p : Path) (beyond : Bool)
    (data : Bytes) :
    SameExcept (fun id' p' => id' = id ∧ p' = p) c (updateBound c id p beyond data).2 := by
  have h0 := takeFault_sameExcept (fun id' p' => id' = id ∧ p' = p) c
  unfold updateBound
  cases beyond with
  | false => exact .refl _ c
  | true =>
    rw [if_pos rfl]
    rcases hf : c.takeFault with ⟨_ | _, c₁⟩ <;> rw [hf] at h0 <;> simp only
    · exact h0.trans (deviceSetResourceValue_sameExcept c₁ id p data)
    · exact h0

/-- the minimum and the maximum of an object instance -/
def IsBound (id : String) (objectId inst : UInt16) (id' : String) (p : Path) : Prop :=
  id' = id ∧ (p = ⟨objectId, inst, minMeasuredValue⟩ ∨ p = ⟨objectId, inst, maxMeasuredValue⟩)

/-- the update reads two resources and then may write the one and the other -/
theorem ipsoUpdateMinMaxFields_cases (o : ByteOrder) (c : Client) (id : String)
    (objectId inst : UInt16) (newValue : UInt32) :
    let c' := (ipsoUpdateMinMaxFields o c id objectId inst newValue).2
    Grows c c' ∧ SameExcept (IsBound id objectId inst) c c' := by
  have hmin : ∀ id' p, (id' = id ∧ p = ⟨objectId, inst, minMeasuredValue⟩) →
      IsBound id objectId inst id' p := fun _ _ h => ⟨h.1, .inl h.2⟩
  have hmax : ∀ id' p, (id' = id ∧ p = ⟨objectId, inst, maxMeasuredValue⟩) →
      IsBound id objectId inst id' p := fun _ _ h => ⟨h.1, .inr h.2⟩
  have hg1 := deviceGetResourceValue_grows c id ⟨objectId, inst, minMeasuredValue⟩
  have hs1 := deviceGetResourceValue_sameExcept (IsBound id objectId inst) c id
    ⟨objectId, inst, minMeasuredValue⟩
  simp only [ipsoUpdateMinMaxFields]
  generalize deviceGetResourceValue c id ⟨objectId, inst, minMeasuredValue⟩ = r at hg1 hs1 ⊢
  obtain ⟨st, v, c₁⟩ := r
  simp only at hg1 hs1 ⊢
  split
  · exact ⟨hg1, hs1⟩
  · have hg2 := hg1.trans (deviceGetResourceValue_grows c₁ id ⟨objectId, inst, maxMeasuredValue⟩)
    have hs2 := hs1.trans (deviceGetResourceValue_sameExcept (IsBound id objectId inst) c₁ id
      ⟨objectId, inst, maxMeasuredValue⟩)
    generalize deviceGetResourceValue c₁ id ⟨objectId, inst, maxMeasuredValue⟩ = r at hg2 hs2 ⊢
    obtain ⟨st', v', c₂⟩ := r
    simp only at hg2 hs2 ⊢
    split
    · exact ⟨hg2, hs2⟩
    · generalize convertFloatValueToNetworkByteOrder o newValue = data
      generalize floatLt newValue (convertValueToHostOrderFloat o (v.getD [])) = below
      generalize floatLt (convertValueToHostOrderFloat o (v'.getD [])) newValue = above
      have hg3 := hg2.trans
        (updateBound_grows c₂ id ⟨objectId, inst, minMeasuredValue⟩ below data)
      have hs3 := hs2.trans
        ((updateBound_sameExcept c₂ id ⟨objectId, inst, minMeasuredValue⟩ below data).mono hmin)
      generalize updateBound c₂ id ⟨objectId, inst, minMeasuredValue⟩ below data = r at hg3 hs3 ⊢
      rcases r with ⟨_ | _, c₃⟩
      · exact ⟨hg3, hs3⟩
      · simp only at hg3 hs3 ⊢
        have hg4 := hg3.trans
          (updateBound_grows c₃ id ⟨objectId, inst, maxMeasuredValue⟩ above data)
        have hs4 := hs3.trans
          ((updateBound_sameExcept c₃ id ⟨objectId, inst, maxMeasuredValue⟩ above data).mono hmax)
        generalize updateBound c₃ id ⟨objectId, inst, maxMeasuredValue⟩ above data = r at hg4 hs4 ⊢
        rcases r with ⟨_ | _, c₄⟩
        · exact ⟨hg4, hs4⟩
        · exact ⟨hg4, hs4⟩

end EdgeTranslators.Pt
