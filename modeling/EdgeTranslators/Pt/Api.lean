import Mathlib.Logic.Function.Basic
import EdgeTranslators.Lib.Bytes

/-!
# The calls on the resources of the protocol translator client

The PT client API (`pt-client-2/pt_api.h`, `pt_device_object.h`) is not part of the repository.
What the translators rely on is stated here, as laws over any store of resources; `Pt.Client` is a
store that has them.

* `ResourceApi`              the calls, and what can be seen of a store;
* `ResourceApi.Passes`       what every call leaves as it is, for its device and the others;
* `ResourceApi.Lawful`       **the laws**: which outcome each call has and what it does then;
* `ResourceApi.Lawful.create_keeps_value`   a new device has the values it had before;
* `ResourceApi.Lawful.set_value_of`, `add_value_of`, `get_value_of`   a call that does not fail,
                             on the values of its device.
-/

namespace EdgeTranslators.Pt
open Lib

/-- `pt_status_t` -/
inductive Status where
  | success
  | error
  | allocationFail
  | itemExists
  | notFound
  | notConnected
  | invalidParameters
  deriving DecidableEq, Repr

/-- `Lwm2mResourceType` -/
inductive Lwm2mResourceType where
  | string
  | integer
  | float
  | boolean
  | opaqueBytes
  | time
  | objlink
  deriving DecidableEq, Repr

def operationRead : UInt8 := 0x01
def operationWrite : UInt8 := 0x02
def operationExecute : UInt8 := 0x04

/-- `/object/instance/resource` -/
structure Path where
  objectId : UInt16
  instanceId : UInt16
  resourceId : UInt16
  deriving DecidableEq, Repr

/-- resources of one instance are told apart by their ids -/
theorem Path.ne_of_resourceId {r r' : UInt16} (h : r ≠ r') (objectId inst : UInt16) :
    (⟨objectId, inst, r⟩ : Path) ≠ ⟨objectId, inst, r'⟩ := by
  intro heq
  exact h (Path.mk.inj heq).2.2

structure Resource where
  type : Lwm2mResourceType
  operations : UInt8
  value : Bytes
  deriving DecidableEq, Repr

/-! ## values -/

/-- adding a resource, on the values of a device -/
def addValue (p : Path) (v : Bytes) (f : Path → Option Bytes) : Path → Option Bytes :=
  if (f p).isSome then f else Function.update f p (some v)

/-- setting a value, on the values of a device -/
def setValue (p : Path) (v : Bytes) (f : Path → Option Bytes) : Path → Option Bytes :=
  if (f p).isSome then Function.update f p (some v) else f

theorem addValue_of_ne {p q : Path} (h : q ≠ p) (v : Bytes) (f : Path → Option Bytes) :
    addValue p v f q = f q := by
  unfold addValue
  split
  · rfl
  · exact Function.update_of_ne h _ _

/-! ## the calls -/

/-- the calls of the PT client on its devices and their resources, over a store of any kind; `fault`
says whether the `i`-th of the coming allocations and calls fails, and the last argument of
`createDevice` whether the client agrees to create the device -/
structure ResourceApi (σ : Type) where
  connected : σ → Bool
  fault : σ → Nat → Bool
  deviceExists : σ → String → Bool
  resourceExists : σ → String → Path → Bool
  value : σ → String → Path → Option Bytes
  createDevice : σ → String → Bool → Status × σ
  addResource : σ → String → Path → Resource → Status × σ
  setResourceValue : σ → String → Path → Bytes → Status × σ
  getResourceValue : σ → String → Path → Status × Option Bytes × σ

namespace ResourceApi
variable {σ : Type} (api : ResourceApi σ)

/-- a call on a resource goes well -/
def applies (c : σ) (id : String) (p : Path) : Bool := !api.fault c 0 && api.resourceExists c id p

/-- a call that adds a resource goes well -/
def adds (c : σ) (id : String) (p : Path) : Bool :=
  !api.fault c 0 && (api.deviceExists c id && !api.resourceExists c id p)

/-- from `c` to `c'` one outcome is used up; the devices, and what the others than `id` hold, are
as before -/
structure Passes (id : String) (c c' : σ) : Prop where
  fault : ∀ i, api.fault c' i = api.fault c (i + 1)
  device : ∀ id', api.deviceExists c' id' = api.deviceExists c id'
  other : ∀ id', id' ≠ id → api.value c' id' = api.value c id'

/-- **The laws of the calls**:

* a resource that exists has a value, on a device that exists, and there is no other value;
* creating a device succeeds exactly when the client is connected, has no such device and agrees;
  it makes the device without resources then, and nothing otherwise;
* setting a value succeeds exactly for a resource that exists when the call does not fail; it
  writes the value then, and nothing otherwise, and makes no resource;
* getting a value succeeds exactly then too, gives the value, and writes nothing;
* adding a resource succeeds exactly on a device that exists, for a resource that does not; it
  makes the resource with its value then, and nothing otherwise. -/
structure Lawful : Prop where
  exists_device : ∀ c id p, api.resourceExists c id p = true → api.deviceExists c id = true
  exists_value : ∀ c id p, api.deviceExists c id = true →
    api.resourceExists c id p = (api.value c id p).isSome
  missing_value : ∀ c id, api.connected c = true → api.deviceExists c id = false →
    api.value c id = fun _ => none
  create_success : ∀ c id agrees, (api.createDevice c id agrees).1 = .success ↔
    api.connected c = true ∧ api.deviceExists c id = false ∧ agrees = true
  create_exists : ∀ c id agrees, (api.createDevice c id agrees).1 = .success →
    api.deviceExists (api.createDevice c id agrees).2 id = true
  create_value : ∀ c id agrees, (api.createDevice c id agrees).1 = .success →
    api.value (api.createDevice c id agrees).2 id = fun _ => none
  create_other : ∀ c id agrees id', id' ≠ id →
    api.value (api.createDevice c id agrees).2 id' = api.value c id'
  create_fault : ∀ c id agrees i,
    api.fault (api.createDevice c id agrees).2 i = api.fault c i
  create_failed : ∀ c id agrees, (api.createDevice c id agrees).1 ≠ .success →
    (api.createDevice c id agrees).2 = c
  set_passes : ∀ c id p v, api.Passes id c (api.setResourceValue c id p v).2
  set_exists : ∀ c id p v id' q,
    api.resourceExists (api.setResourceValue c id p v).2 id' q = api.resourceExists c id' q
  set_success : ∀ c id p v,
    (api.setResourceValue c id p v).1 = .success ↔ api.applies c id p = true
  set_value : ∀ c id p v, api.value (api.setResourceValue c id p v).2 id =
    if api.applies c id p then Function.update (api.value c id) p (some v) else api.value c id
  get_passes : ∀ c id p, api.Passes id c (api.getResourceValue c id p).2.2
  get_exists : ∀ c id p id' q,
    api.resourceExists (api.getResourceValue c id p).2.2 id' q = api.resourceExists c id' q
  get_success : ∀ c id p, (api.getResourceValue c id p).1 = .success ↔ api.applies c id p = true
  get_reads : ∀ c id p, api.applies c id p = true →
    (api.getResourceValue c id p).2.1 = api.value c id p
  get_value : ∀ c id p, api.value (api.getResourceValue c id p).2.2 id = api.value c id
  add_passes : ∀ c id p r, api.Passes id c (api.addResource c id p r).2
  add_exists : ∀ c id p r id' q, api.resourceExists (api.addResource c id p r).2 id' q =
    (api.resourceExists c id' q || (api.adds c id p && decide (id' = id ∧ q = p)))
  add_success : ∀ c id p r, (api.addResource c id p r).1 = .success ↔ api.adds c id p = true
  add_value : ∀ c id p r, api.value (api.addResource c id p r).2 id =
    if api.adds c id p then Function.update (api.value c id) p (some r.value) else api.value c id

namespace Lawful
variable {api} {c : σ} {id : String} {p : Path}

/-- a device that is created where there is none has the values it had: none -/
theorem create_keeps_value (laws : api.Lawful) (hc : api.connected c = true)
    (hid : api.deviceExists c id = false) :
    (api.createDevice c id true).1 = .success ∧
      api.deviceExists (api.createDevice c id true).2 id = true ∧
      api.value (api.createDevice c id true).2 id = api.value c id := by
  have hsuccess := (laws.create_success c id true).mpr ⟨hc, hid, rfl⟩
  refine ⟨hsuccess, laws.create_exists c id true hsuccess, ?_⟩
  rw [laws.create_value c id true hsuccess, laws.missing_value c id hc hid]

/-- on a device that exists, with no failure, exactly a call on a resource with a value goes well -/
theorem applies_eq (laws : api.Lawful) (hf : api.fault c 0 = false)
    (hid : api.deviceExists c id = true) (p : Path) :
    api.applies c id p = (api.value c id p).isSome := by
  unfold applies
  rw [hf, laws.exists_value c id p hid, Bool.not_false, Bool.true_and]

theorem adds_eq (laws : api.Lawful) (hf : api.fault c 0 = false)
    (hid : api.deviceExists c id = true) (p : Path) :
    api.adds c id p = !(api.value c id p).isSome := by
  unfold adds
  rw [hf, hid, laws.exists_value c id p hid, Bool.not_false, Bool.true_and, Bool.true_and]

/-- a call of `pt_device_get_resource_value` that does not fail, on a resource with a value -/
theorem get_value_of (laws : api.Lawful) (hf : api.fault c 0 = false)
    (hid : api.deviceExists c id = true) {v : Bytes} (hv : api.value c id p = some v) :
    (api.getResourceValue c id p).1 = .success ∧
      (api.getResourceValue c id p).2.1 = some v := by
  have happlies : api.applies c id p = true := by
    rw [laws.applies_eq hf hid, hv]
    rfl
  exact ⟨(laws.get_success c id p).mpr happlies, (laws.get_reads c id p happlies).trans hv⟩

/-- the values of a device after a call of `pt_device_set_resource_value` that does not fail -/
theorem set_value_of (laws : api.Lawful) (hf : api.fault c 0 = false)
    (hid : api.deviceExists c id = true) (p : Path) (v : Bytes) :
    api.value (api.setResourceValue c id p v).2 id = setValue p v (api.value c id) ∧
      ((api.setResourceValue c id p v).1 = .success ↔ (api.value c id p).isSome) := by
  rw [laws.set_value, laws.set_success, laws.applies_eq hf hid]
  exact ⟨rfl, Iff.rfl⟩

/-- the values of a device after a call of `pt_device_add_resource` that does not fail -/
theorem add_value_of (laws : api.Lawful) (hf : api.fault c 0 = false)
    (hid : api.deviceExists c id = true) (p : Path) (r : Resource) :
    api.value (api.addResource c id p r).2 id = addValue p r.value (api.value c id) ∧
      ((api.addResource c id p r).1 = .success ↔ api.value c id p = none) := by
  rw [laws.add_value, laws.add_success, laws.adds_eq hf hid]
  unfold addValue
  cases api.value c id p with
  | none => exact ⟨rfl, iff_of_true rfl rfl⟩
  | some b => exact ⟨rfl, iff_of_false Bool.false_ne_true fun h => by cases h⟩

end Lawful

end ResourceApi

end EdgeTranslators.Pt
