import Mathlib.Data.List.AList
import EdgeTranslators.Pt.Api

/-!
# Devices of the first protocol translator client

The first PT client API (`pt-client/pt_api.h`) is not part of the repository either.  Its device is
a structure the program owns, and works on itself:

* a device has objects by their ids, an object has instances and an instance has resources;
* what is added is empty, or has the value it is added with; adding what is there already fails
  without effect, and so does adding to a NULL instance;
* finding something gives a pointer to it, NULL if it is not there or if it is looked for in NULL;
  a value is changed through that pointer.

`Device.faults` lists the outcomes of the coming allocations and calls, as for the other client.
A pointer into a device is the ids it was found by.

`DeviceApi.Lawful` states the laws of the calls that work on the resources of a device, and
`Device.api_lawful` that this device has them.
-/

namespace EdgeTranslators.Pt.V1
open Lib

/-- `pt_object_instance_t`, `pt_object_t` -/
abbrev ObjectInstance := AList fun _ : UInt16 => Resource
abbrev Object := AList fun _ : UInt16 => ObjectInstance

/-- `pt_device_t` -/
structure Device where
  objects : AList fun _ : UInt16 => Object
  faults : List Bool
  deriving DecidableEq

namespace Device

/-- the outcome of the next allocation or call -/
def takeFault (d : Device) : Bool × Device :=
  match d.faults with
  | [] => (false, d)
  | f :: fs => (f, { d with faults := fs })

/-- `pt_device_find_object` -/
def findObject (d : Device) (objectId : UInt16) : Option Object := d.objects.lookup objectId

/-- `pt_object_find_object_instance`, in what `pt_device_find_object` gives -/
def findObjectInstance (d : Device) (objectId inst : UInt16) : Option ObjectInstance :=
  (d.findObject objectId).bind (·.lookup inst)

/-- `pt_object_instance_find_resource`, in what `pt_object_find_object_instance` gives -/
def findResource (d : Device) (p : Path) : Option Resource :=
  (d.findObjectInstance p.objectId p.instanceId).bind (·.lookup p.resourceId)

def value (d : Device) (p : Path) : Option Bytes := (d.findResource p).map (·.value)

/-- an instance of an object of the device becomes another -/
def setInstance (d : Device) (objectId inst : UInt16) (i : ObjectInstance) : Device :=
  match d.findObject objectId with
  | none => d
  | some object => { d with objects := d.objects.insert objectId (object.insert inst i) }

/-- a store through the value pointer of a resource -/
def store (d : Device) (p : Path) (v : Bytes) : Device :=
  match d.findObjectInstance p.objectId p.instanceId with
  | none => d
  | some i =>
    match i.lookup p.resourceId with
    | none => d
    | some r => d.setInstance p.objectId p.instanceId (i.insert p.resourceId { r with value := v })

end Device

/-- `memcpy`, for buffers that hold the `n` bytes -/
def memcpy (dst src : Bytes) (n : Nat) : Bytes := src.take n ++ dst.drop n

/-! ## the calls -/

/-- `pt_device_add_object` -/
def deviceAddObject (d : Device) (objectId : UInt16) : Status × Device :=
  match d.takeFault with
  | (true, d) => (.allocationFail, d)
  | (false, d) =>
    if objectId ∈ d.objects then (.itemExists, d)
    else (.success, { d with objects := d.objects.insert objectId ∅ })

/-- `pt_object_add_object_instance`, for an object of the device -/
def objectAddObjectInstance (d : Device) (objectId inst : UInt16) : Status × Device :=
  match d.takeFault with
  | (true, d) => (.allocationFail, d)
  | (false, d) =>
    if (d.findObjectInstance objectId inst).isSome then (.itemExists, d)
    else (.success, d.setInstance objectId inst ∅)

/-- an instance of an object: a `pt_object_instance_t *` that is not NULL -/
structure InstanceId where
  objectId : UInt16
  instanceId : UInt16
  deriving DecidableEq, Repr

def InstanceId.path (i : InstanceId) (resourceId : UInt16) : Path :=
  ⟨i.objectId, i.instanceId, resourceId⟩

/-- `pt_object_instance_add_resource`, `pt_object_instance_add_resource_with_callback` -/
def objectInstanceAddResource (d : Device) (inst : Option InstanceId) (resourceId : UInt16)
    (r : Resource) : Status × Device :=
  match d.takeFault with
  | (true, d) => (.allocationFail, d)
  | (false, d) =>
    match inst with
    | none => (.invalidParameters, d)
    | some at_ =>
      match d.findObjectInstance at_.objectId at_.instanceId with
      | none => (.notFound, d)
      | some i =>
        if resourceId ∈ i then (.itemExists, d)
        else (.success, d.setInstance at_.objectId at_.instanceId (i.insert resourceId r))

/-! ## the laws of the calls -/

/-- the calls of the first client on the resources of a device, for devices of any kind: adding a
resource, and storing a value through the pointer of the resource that has it; `fault` says whether
the `i`-th of the coming allocations and calls fails -/
structure DeviceApi (δ : Type) where
  fault : δ → Nat → Bool
  hasInstance : δ → InstanceId → Bool
  resource : δ → Path → Option Resource
  addResource : δ → Option InstanceId → UInt16 → Resource → Status × δ
  store : δ → Path → Bytes → δ

namespace DeviceApi
variable {δ : Type} (api : DeviceApi δ)

/-- a call that adds a resource goes well -/
def adds (d : δ) (inst : InstanceId) (resourceId : UInt16) : Bool :=
  !api.fault d 0 && (api.hasInstance d inst && (api.resource d (inst.path resourceId)).isNone)

/-- the value of a resource -/
def value (d : δ) (p : Path) : Option Bytes := (api.resource d p).map (·.value)

/-- **The laws of the calls**:

* adding a resource succeeds exactly on an instance that the device has, for a resource that it
  does not have; it makes the resource then, and nothing otherwise, and never succeeds on NULL;
* storing a value changes the resource that has it, and nothing else. -/
structure Lawful : Prop where
  add_null : ∀ d resourceId r, (api.addResource d none resourceId r).1 ≠ .success ∧
    api.resource (api.addResource d none resourceId r).2 = api.resource d
  add_instance : ∀ (d : δ) (inst : InstanceId) resourceId r inst',
    api.hasInstance (api.addResource d inst resourceId r).2 inst' = api.hasInstance d inst'
  add_success : ∀ (d : δ) (inst : InstanceId) resourceId r,
    (api.addResource d inst resourceId r).1 = .success ↔ api.adds d inst resourceId = true
  add_resource : ∀ (d : δ) (inst : InstanceId) resourceId r,
    api.resource (api.addResource d inst resourceId r).2 =
      if api.adds d inst resourceId then
        Function.update (api.resource d) (inst.path resourceId) (some r)
      else api.resource d
  store_missing : ∀ d p v, api.resource d p = none → api.store d p v = d
  store_resource : ∀ d p r v, api.resource d p = some r →
    api.resource (api.store d p v)
      = Function.update (api.resource d) p (some { r with value := v })

namespace Lawful
variable {api} {d : δ} {inst : InstanceId} {resourceId : UInt16} {p : Path}

/-- adding a resource that is not there yet, in a call that does not fail -/
theorem add_new (laws : api.Lawful) (hf : api.fault d 0 = false)
    (hinst : api.hasInstance d inst = true)
    (hnew : api.resource d (inst.path resourceId) = none) (r : Resource) :
    api.hasInstance (api.addResource d inst resourceId r).2 inst = true ∧
      api.resource (api.addResource d inst resourceId r).2
        = Function.update (api.resource d) (inst.path resourceId) (some r) := by
  have hadds : api.adds d inst resourceId = true := by
    unfold adds
    rw [hf, hinst, hnew]
    rfl
  rw [laws.add_instance, laws.add_resource, hadds]
  exact ⟨hinst, rfl⟩

/-- a store changes the one value -/
theorem store_value (laws : api.Lawful) (h : (api.value d p).isSome) (v : Bytes) :
    api.value (api.store d p v) = Function.update (api.value d) p (some v) := by
  obtain ⟨w, hw⟩ := Option.isSome_iff_exists.mp h
  obtain ⟨r, hr, -⟩ := Option.map_eq_some_iff.mp hw
  funext q
  unfold value
  rw [laws.store_resource d p r v hr]
  by_cases hq : q = p
  · rw [hq, Function.update_self, Function.update_self, Option.map_some]
  · rw [Function.update_of_ne hq, Function.update_of_ne hq]

end Lawful

end DeviceApi

/-! ## what they do to the resources -/

/-- whether the `i`-th of the coming allocations and calls fails -/
def Device.fault (d : Device) (i : Nat) : Bool := d.faults.getD i false

/-- the device after an allocation -/
def Device.afterFault (d : Device) : Device := { d with faults := d.faults.tail }

/-- the device as one the calls of the first client work on -/
def Device.api : DeviceApi Device where
  fault := Device.fault
  hasInstance := fun d inst => (d.findObjectInstance inst.objectId inst.instanceId).isSome
  resource := Device.findResource
  addResource := objectInstanceAddResource
  store := Device.store

theorem takeFault_eq (d : Device) : d.takeFault = (d.fault 0, d.afterFault) := by
  obtain ⟨objects, faults⟩ := d
  cases faults with
  | nil => rfl
  | cons f fs => rfl

section
variable {d : Device}

theorem takeFault_faults (h : d.faults = []) : d.takeFault = (false, d) := by
  unfold Device.takeFault
  rw [h]

/-- the next call goes well if none of the coming ones fails -/
theorem takeFault_succeeds (h : true ∉ d.faults) : d.takeFault = (false, d.afterFault) := by
  obtain ⟨objects, faults⟩ := d
  cases faults with
  | nil => rfl
  | cons f fs =>
    cases f with
    | true => exact absurd (List.mem_cons_self ..) h
    | false => rfl

theorem afterFault_suffix (d : Device) : d.afterFault.faults <:+ d.faults := List.tail_suffix d.faults

theorem Device.findObjectInstance_isSome {objectId inst : UInt16}
    (h : (d.findObjectInstance objectId inst).isSome) : ∃ o, d.findObject objectId = some o := by
  obtain ⟨i, hi⟩ := Option.isSome_iff_exists.mp h
  obtain ⟨o, ho, -⟩ := Option.bind_eq_some_iff.mp hi
  exact ⟨o, ho⟩

theorem setInstance_faults (d : Device) (objectId inst : UInt16) (i : ObjectInstance) :
    (d.setInstance objectId inst i).faults = d.faults := by
  unfold Device.setInstance
  split <;> rfl

/-- the instances of a device after one of an object that it has is replaced -/
theorem setInstance_findObjectInstance {o : UInt16} {object : Object}
    (hobject : d.findObject o = some object) (inst : UInt16) (i : ObjectInstance)
    (o' inst' : UInt16) :
    (d.setInstance o inst i).findObjectInstance o' inst' =
      if o' = o ∧ inst' = inst then some i else d.findObjectInstance o' inst' := by
  have hset : d.setInstance o inst i
      = { d with objects := d.objects.insert o (object.insert inst i) } := by
    unfold Device.setInstance
    rw [hobject]
  rw [hset]
  show ((d.objects.insert o (object.insert inst i)).lookup o').bind (·.lookup inst') = _
  by_cases ho : o' = o
  · subst ho
    rw [AList.lookup_insert, Option.bind_some]
    by_cases hinst : inst' = inst
    · rw [hinst, AList.lookup_insert, if_pos ⟨rfl, rfl⟩]
    · rw [AList.lookup_insert_ne hinst, if_neg fun h => hinst h.2]
      unfold Device.findObjectInstance
      rw [hobject, Option.bind_some]
  · rw [AList.lookup_insert_ne ho, if_neg fun h => ho h.1]
    rfl

/-- a resource of an instance that is there is replaced, or added -/
theorem setInstance_insert_findResource {p : Path} {i : ObjectInstance}
    (hi : d.findObjectInstance p.objectId p.instanceId = some i) (r : Resource) :
    (d.setInstance p.objectId p.instanceId (i.insert p.resourceId r)).findResource
      = Function.update d.findResource p (some r) := by
  obtain ⟨object, hobject⟩ := Device.findObjectInstance_isSome
    (show (d.findObjectInstance p.objectId p.instanceId).isSome from by rw [hi]; rfl)
  funext q
  unfold Device.findResource
  rw [setInstance_findObjectInstance hobject]
  by_cases hq : q = p
  · subst hq
    rw [if_pos ⟨rfl, rfl⟩, Option.bind_some, AList.lookup_insert, Function.update_self]
  · rw [Function.update_of_ne hq]
    by_cases hinst : q.objectId = p.objectId ∧ q.instanceId = p.instanceId
    · have hne : q.resourceId ≠ p.resourceId := by
        intro h
        apply hq
        obtain ⟨qo, qi, qr⟩ := q
        obtain ⟨po, pi, pr⟩ := p
        obtain ⟨rfl, rfl⟩ := hinst
        exact congrArg (Path.mk qo qi) h
      rw [if_pos hinst, Option.bind_some, AList.lookup_insert_ne hne, hinst.1, hinst.2, hi,
        Option.bind_some]
    · rw [if_neg hinst]

/-- **What a call of `pt_object_instance_add_resource` does** -/
theorem objectInstanceAddResource_cases (d : Device) (inst : InstanceId) (resourceId : UInt16)
    (r : Resource) :
    (Device.api.adds d inst resourceId = true ∧
        ∃ i, d.findObjectInstance inst.objectId inst.instanceId = some i ∧
          objectInstanceAddResource d inst resourceId r = (.success, d.afterFault.setInstance
            inst.objectId inst.instanceId (i.insert resourceId r))) ∨
      (Device.api.adds d inst resourceId = false ∧ ∃ st, st ≠ .success ∧
        objectInstanceAddResource d inst resourceId r = (st, d.afterFault)) := by
  have hadds : Device.api.adds d inst resourceId = (!d.fault 0 &&
      ((d.findObjectInstance inst.objectId inst.instanceId).isSome &&
        (d.findResource (inst.path resourceId)).isNone)) := rfl
  have hfind : d.afterFault.findObjectInstance inst.objectId inst.instanceId
      = d.findObjectInstance inst.objectId inst.instanceId := rfl
  have hresource : d.findResource (inst.path resourceId)
      = (d.findObjectInstance inst.objectId inst.instanceId).bind (·.lookup resourceId) := rfl
  rw [hadds, hresource]
  unfold objectInstanceAddResource
  rw [takeFault_eq]
  cases d.fault 0 with
  | true => exact .inr ⟨rfl, .allocationFail, by decide, rfl⟩
  | false =>
    simp only [hfind, Bool.not_false, Bool.true_and]
    cases hi : d.findObjectInstance inst.objectId inst.instanceId with
    | none => exact .inr ⟨rfl, .notFound, by decide, rfl⟩
    | some i =>
      rw [Option.isSome_some, Bool.true_and, Option.bind_some]
      by_cases hmem : resourceId ∈ i
      · obtain ⟨r', hr'⟩ := Option.isSome_iff_exists.mp (AList.lookup_isSome.mpr hmem)
        exact .inr ⟨by rw [hr']; rfl, .itemExists, by decide, if_pos hmem⟩
      · exact .inl ⟨by rw [AList.lookup_eq_none.mpr hmem]; rfl, i, rfl, if_neg hmem⟩

theorem store_eq {p : Path} {r : Resource} (hr : d.findResource p = some r) (v : Bytes) :
    ∃ i, d.findObjectInstance p.objectId p.instanceId = some i ∧
      d.store p v
        = d.setInstance p.objectId p.instanceId (i.insert p.resourceId { r with value := v }) := by
  obtain ⟨i, hi, hlookup⟩ := Option.bind_eq_some_iff.mp hr
  refine ⟨i, hi, ?_⟩
  unfold Device.store
  rw [hi]
  simp only
  rw [hlookup]

theorem store_of_none {p : Path} (hr : d.findResource p = none) (v : Bytes) : d.store p v = d := by
  unfold Device.findResource at hr
  unfold Device.store
  cases hi : d.findObjectInstance p.objectId p.instanceId with
  | none => rfl
  | some i =>
    rw [hi, Option.bind_some] at hr
    simp only [hr]

/-- **The calls of the device have the laws of the first client** -/
theorem Device.api_lawful : Device.api.Lawful where
  add_null := fun d resourceId r => by
    show (objectInstanceAddResource d none resourceId r).1 ≠ .success ∧
      (objectInstanceAddResource d none resourceId r).2.findResource = d.findResource
    unfold objectInstanceAddResource
    rw [takeFault_eq]
    cases d.fault 0 with
    | true => exact ⟨(by decide : Status.allocationFail ≠ .success), rfl⟩
    | false => exact ⟨(by decide : Status.invalidParameters ≠ .success), rfl⟩
  add_instance := fun d inst resourceId r inst' => by
    show ((objectInstanceAddResource d inst resourceId r).2.findObjectInstance _ _).isSome
      = (d.findObjectInstance _ _).isSome
    rcases objectInstanceAddResource_cases d inst resourceId r with
      ⟨-, i, hi, heq⟩ | ⟨-, st, -, heq⟩ <;> rw [heq]
    · obtain ⟨object, hobject⟩ := Device.findObjectInstance_isSome
        (show (d.findObjectInstance inst.objectId inst.instanceId).isSome from by rw [hi]; rfl)
      rw [setInstance_findObjectInstance (d := d.afterFault) hobject]
      by_cases hat : inst'.objectId = inst.objectId ∧ inst'.instanceId = inst.instanceId
      · rw [if_pos hat, hat.1, hat.2, hi]
        rfl
      · rw [if_neg hat]
        rfl
    · rfl
  add_success := fun d inst resourceId r => by
    show (objectInstanceAddResource d inst resourceId r).1 = .success ↔ _
    rcases objectInstanceAddResource_cases d inst resourceId r with
      ⟨hadds, i, -, heq⟩ | ⟨hadds, st, hst, heq⟩ <;> rw [heq, hadds]
    · exact iff_of_true rfl rfl
    · exact iff_of_false hst Bool.false_ne_true
  add_resource := fun d inst resourceId r => by
    show (objectInstanceAddResource d inst resourceId r).2.findResource
      = if _ then Function.update d.findResource (inst.path resourceId) (some r)
        else d.findResource
    rcases objectInstanceAddResource_cases d inst resourceId r with
      ⟨hadds, i, hi, heq⟩ | ⟨hadds, st, -, heq⟩ <;> rw [heq, hadds]
    · exact setInstance_insert_findResource (d := d.afterFault) (p := inst.path resourceId) hi r
    · rfl
  store_missing := fun d p v hr => store_of_none hr v
  store_resource := fun d p r v hr => by
    obtain ⟨i, hi, heq⟩ := store_eq hr v
    show (d.store p v).findResource = _
    rw [heq]
    exact setInstance_insert_findResource hi _

/-- nothing fails in a call on a device of which nothing fails -/
theorem objectInstanceAddResource_faults (inst : InstanceId) (resourceId : UInt16) (r : Resource)
    (hd : d.faults = []) : (objectInstanceAddResource d inst resourceId r).2.faults = [] := by
  have hafter : d.afterFault.faults = [] := congrArg List.tail hd
  rcases objectInstanceAddResource_cases d inst resourceId r with
    ⟨-, i, -, heq⟩ | ⟨-, st, -, heq⟩ <;> rw [heq]
  · exact (setInstance_faults ..).trans hafter
  · exact hafter

/-- adding a resource that is not there yet, to an instance that is, when nothing fails -/
theorem objectInstanceAddResource_ready {inst : InstanceId} {resourceId : UInt16} (r : Resource)
    (hd : d.faults = []) (hi : (d.findObjectInstance inst.objectId inst.instanceId).isSome)
    (hnew : d.findResource (inst.path resourceId) = none) :
    let d' := (objectInstanceAddResource d inst resourceId r).2
    d'.faults = [] ∧ (d'.findObjectInstance inst.objectId inst.instanceId).isSome ∧
      d'.findResource = Function.update d.findResource (inst.path resourceId) (some r) := by
  have hfault : d.fault 0 = false := by
    unfold Device.fault
    rw [hd]
    rfl
  obtain ⟨hinstance, hresource⟩ := Device.api_lawful.add_new hfault hi hnew r
  exact ⟨objectInstanceAddResource_faults inst resourceId r hd, hinstance, hresource⟩

theorem store_faults (p : Path) (v : Bytes) : (d.store p v).faults = d.faults := by
  cases hr : d.findResource p with
  | none => rw [store_of_none hr]
  | some r =>
    obtain ⟨i, -, heq⟩ := store_eq hr v
    rw [heq]
    exact setInstance_faults ..

/-- a store changes the one value -/
theorem store_value {p : Path} (h : (d.value p).isSome) (v : Bytes) :
    (d.store p v).faults = d.faults ∧
      (d.store p v).value = Function.update d.value p (some v) :=
  ⟨store_faults p v, Device.api_lawful.store_value h v⟩

theorem memcpy_eq {dst src : Bytes} {n : Nat} (hdst : dst.length = n) (hsrc : src.length = n) :
    memcpy dst src n = src := by
  unfold memcpy
  rw [List.take_of_length_le hsrc.le, List.drop_of_length_le hdst.le, List.append_nil]

end

end EdgeTranslators.Pt.V1
