import EdgeTranslators.Kaas.Device

/-!
# The values of the resources and their declared types

`update_device_state` stores any JSON value as the state of a device, and `create_device_params`
encodes a member of it under the type that belongs to the kind of device.

* `Encodes`                 the encodings of a declared type;
* `StateMember`             the member of the state that a kind of device shows;
* `Declared`                every resource has an encoding of its type, and the member its own;
* `StateFits`               the member is of that type, or its text has the form of an encoding;
* `declared_iff`            the first exactly when the second.
-/

namespace EdgeTranslators.Kaas
open Lib

/-- the encodings of a declared type; eight bytes of any value are a big-endian double -/
def Encodes : (resourceType : String) → Bytes → Prop
  | "boolean", bytes => bytes = [0] ∨ bytes = [1]
  | "float", bytes => bytes.length = 8
  | "string", bytes => ∃ s : String, bytes = s.toUTF8.toList
  | _, _ => False

/-- the name of the member that is shown, and the declared type of its resource -/
def DeviceType.stateMember : DeviceType → String × String
  | .lightBulb | .switch => ("on", "boolean")
  | .temperatureSensor => ("temperature", "float")
  | .humiditySensor => ("humidity", "float")

/-- the id of the resource that shows the member -/
def DeviceType.stateResource : DeviceType → UInt16
  | .lightBulb | .switch => onOffValue
  | .temperatureSensor | .humiditySensor => sensorValue

def DeviceRegistrationParams.resources (params : DeviceRegistrationParams) :
    List LwM2MResourceData :=
  params.objects.flatMap fun object => object.objectInstances.flatMap (·.resources)

section
variable {ν : Type} (r : Rust ν)

/-- the bytes of a value of the type that is declared for a member -/
def memberBytes : (resourceType : String) → Json ν → Option Bytes
  | "boolean", .bool b => some [if b then 1 else 0]
  | "float", .number n => some (r.toBeBytes n)
  | _, _ => none

/-- the values of the resources are what their types declare -/
structure Declared (device : Device ν) : Prop where
  encodes : ∀ res ∈ (createDeviceParams r device).resources,
    ∃ bytes, res.value = base64Encode bytes ∧ Encodes res.resourceType bytes
  member : ∀ value bytes, device.state.get device.deviceType.stateMember.1 = some value →
    memberBytes r device.deviceType.stateMember.2 value = some bytes →
      ∃ res ∈ (createDeviceParams r device).resources,
        res.resourceId = device.deviceType.stateResource ∧ res.value = base64Encode bytes

/-- the text of a value that is neither a Boolean nor a number -/
def textBytes : Json ν → Option Bytes
  | .bool _ | .number _ => none
  | .string s => some s.toUTF8.toList
  | value => some (r.toText value).toUTF8.toList

/-- the member that is shown is of the declared type or is not there; a text of the form of an
encoding passes for it -/
def StateFits (deviceType : DeviceType) (state : Json ν) : Prop :=
  ∀ value, state.get deviceType.stateMember.1 = some value →
    (memberBytes r deviceType.stateMember.2 value).isSome ∨
      ∃ text, textBytes r value = some text ∧ Encodes deviceType.stateMember.2 text

/-! ## one value -/

/-- the bytes that `encode_value` puts into base64 -/
def encodedBytes : Json ν → Bytes
  | .bool b => [if b then 1 else 0]
  | .number n => r.toBeBytes n
  | value => (textBytes r value).getD []

theorem encodeValue_eq (value : Json ν) :
    encodeValue r value = base64Encode (encodedBytes r value) := by
  cases value <;> rfl

theorem encodes_boolean (bytes : Bytes) : Encodes "boolean" bytes ↔ bytes = [0] ∨ bytes = [1] :=
  Iff.rfl

/-- a value is encoded as the type declares it if it is of that type, or by its text -/
theorem encodes_encodedBytes (hbytes : ∀ n, (r.toBeBytes n).length = 8) {resourceType : String}
    (htype : resourceType = "boolean" ∨ resourceType = "float") (value : Json ν) :
    Encodes resourceType (encodedBytes r value) ↔
      (memberBytes r resourceType value).isSome ∨
        ∃ text, textBytes r value = some text ∧ Encodes resourceType text := by
  -- what is neither a Boolean nor a number goes by its text
  have htext : ∀ text, textBytes r value = some text → memberBytes r resourceType value = none →
      encodedBytes r value = text →
        (Encodes resourceType (encodedBytes r value) ↔
          (memberBytes r resourceType value).isSome ∨
            ∃ text, textBytes r value = some text ∧ Encodes resourceType text) := by
    intro text hsome hnone heq
    rw [hsome, hnone, heq]
    simp
  cases value with
  | bool b =>
    rcases htype with rfl | rfl
    · refine iff_of_true ?_ (.inl rfl)
      cases b
      · exact .inl rfl
      · exact .inr rfl
    · refine iff_of_false ?_ ?_
      · intro hlength
        cases hlength
      · rintro (hsome | ⟨text, hsome, -⟩)
        · cases hsome
        · cases hsome
  | number n =>
    rcases htype with rfl | rfl
    · refine iff_of_false ?_ ?_
      · intro hone
        have hlength := hbytes n
        have heq : encodedBytes r (.number n) = r.toBeBytes n := rfl
        rw [encodes_boolean, heq] at hone
        rcases hone with hone | hone <;> rw [hone] at hlength <;> cases hlength
      · rintro (hsome | ⟨text, hsome, -⟩)
        · cases hsome
        · cases hsome
    · exact iff_of_true (hbytes n) (.inl rfl)
  | string s => rcases htype with rfl | rfl <;> exact htext _ rfl rfl rfl
  | null => rcases htype with rfl | rfl <;> exact htext _ rfl rfl rfl
  | array items => rcases htype with rfl | rfl <;> exact htext _ rfl rfl rfl
  | object members => rcases htype with rfl | rfl <;> exact htext _ rfl rfl rfl

theorem DeviceType.stateMember_type (deviceType : DeviceType) :
    deviceType.stateMember.2 = "boolean" ∨ deviceType.stateMember.2 = "float" := by
  cases deviceType with
  | lightBulb | switch => exact .inl rfl
  | temperatureSensor | humiditySensor => exact .inr rfl

theorem encodedBytes_of_member {resourceType : String} {value : Json ν} {bytes : Bytes}
    (h : memberBytes r resourceType value = some bytes) : encodedBytes r value = bytes := by
  unfold memberBytes at h
  split at h
  · exact Option.some.inj h
  · exact Option.some.inj h
  · cases h

/-! ## a device -/

/-- the value of the member that is shown, with the default of the kind of device -/
def shownValue (device : Device ν) : Json ν :=
  (device.state.get device.deviceType.stateMember.1).getD
    (match device.deviceType with
      | .lightBulb | .switch => .bool false
      | .temperatureSensor => .number (r.fromF64 22)
      | .humiditySensor => .number (r.fromF64 50))

/-- **The resources of a device**: the one that shows its state, and the units of a sensor. -/
theorem resources_createDeviceParams (device : Device ν) :
    ∃ state ∈ (createDeviceParams r device).resources,
      state.resourceId = device.deviceType.stateResource ∧
      state.resourceType = device.deviceType.stateMember.2 ∧
      state.value = encodeValue r (shownValue r device) ∧
      ∀ res ∈ (createDeviceParams r device).resources, res = state ∨
        (res.resourceType = "string" ∧ ∃ units, res.value = encodeValue r (.string units)) := by
  obtain ⟨id, name, deviceType, deviceState, createdAt, updatedAt⟩ := device
  cases deviceType with
  | lightBulb | switch =>
    refine ⟨_, List.mem_cons_self, rfl, rfl, rfl, ?_⟩
    intro res hres
    exact .inl (List.mem_singleton.mp hres)
  | temperatureSensor | humiditySensor =>
    refine ⟨_, List.mem_cons_self, rfl, rfl, rfl, ?_⟩
    intro res hres
    rcases List.mem_cons.mp hres with rfl | hres
    · exact .inl rfl
    · rw [List.mem_singleton.mp hres]
      exact .inr ⟨rfl, _, rfl⟩

/-- the default fits, and so the value that is shown does exactly when the state does -/
theorem stateFits_iff (hbytes : ∀ n, (r.toBeBytes n).length = 8) (device : Device ν) :
    Encodes device.deviceType.stateMember.2 (encodedBytes r (shownValue r device)) ↔
      StateFits r device.deviceType device.state := by
  rw [encodes_encodedBytes r hbytes device.deviceType.stateMember_type]
  unfold StateFits shownValue
  cases hget : device.state.get device.deviceType.stateMember.1 with
  | none =>
    refine iff_of_true ?_ nofun
    rw [Option.getD_none]
    cases device.deviceType with
    | lightBulb | switch => exact .inl rfl
    | temperatureSensor | humiditySensor => exact .inl rfl
  | some value => simp

/-- **The resources of a device have values of their declared types exactly when the member of its
state that is shown is of its type, or a text that has the form of an encoding.** -/
theorem declared_iff (hbytes : ∀ n, (r.toBeBytes n).length = 8) (device : Device ν) :
    Declared r device ↔ StateFits r device.deviceType device.state := by
  obtain ⟨state, hmem, hid, htype, hvalue, hother⟩ := resources_createDeviceParams r device
  rw [encodeValue_eq] at hvalue
  rw [← stateFits_iff r hbytes]
  constructor
  · intro hdeclared
    obtain ⟨bytes, heq, hencodes⟩ := hdeclared.encodes state hmem
    rw [base64Encode_inj (hvalue.symm.trans heq), ← htype]
    exact hencodes
  · intro hfits
    refine ⟨?_, ?_⟩
    · intro res hres
      rcases hother res hres with rfl | ⟨hstring, units, hunits⟩
      · exact ⟨_, hvalue, htype ▸ hfits⟩
      · rw [hstring]
        exact ⟨_, hunits, units, rfl⟩
    · intro value bytes hget hmember
      refine ⟨state, hmem, hid, ?_⟩
      have hshown : shownValue r device = value := by
        unfold shownValue
        rw [hget, Option.getD_some]
      rw [hvalue, hshown, encodedBytes_of_member r hmember]

end

/-- numbers are the bits of a double; `fromF64` is that of a number below 2^53 -/
def doubles : Rust UInt64 where
  isAlphanumeric := Char.isAlphanum
  fromF64 n :=
    if n = 0 then 0 else UInt64.ofNat ((1022 + n.log2) * 2 ^ 52 + n * 2 ^ (52 - n.log2))
  toBeBytes bits := (List.range 8).map fun i => (bits >>> UInt64.ofNat (56 - 8 * i)).toUInt8
  toText
    | .null => "null"
    | _ => ""
  underscore := ascii.underscore
  space := ascii.space

/-- a device as it is made, in a state -/
def deviceIn (deviceType : DeviceType) (state : Json UInt64) : Device UInt64 :=
  { id := 0, name := "kitchen", deviceType, state, createdAt := 0, updatedAt := 0 }

theorem declared_iff_on : Declared doubles (deviceIn .lightBulb (.object [("on", .bool true)])) ↔
    StateFits doubles .lightBulb (.object [("on", .bool true)]) :=
  declared_iff doubles (fun _ => rfl) (deviceIn .lightBulb (.object [("on", .bool true)]))

/-- a light that is switched on with the number 1 shows eight bytes -/
theorem not_declared : ¬∀ deviceType state, Declared doubles (deviceIn deviceType state) := by
  intro h
  have hdeclared := h .lightBulb (.object [("on", .number (doubles.fromF64 1))])
  obtain ⟨bytes, hvalue, hone⟩ := hdeclared.encodes _ List.mem_cons_self
  have hbytes : bytes = [63, 240, 0, 0, 0, 0, 0, 0] := by
    apply base64Encode_inj
    rw [← hvalue]
    decide +kernel
  rw [hbytes] at hone
  rcases hone with hone | hone <;> cases hone

end EdgeTranslators.Kaas
