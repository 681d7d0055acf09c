import Mathlib.Data.List.AList
import EdgeTranslators.Pt.Api

/-!
# The protocol translator client the translators talk to

A store of device objects with the calls of the PT client API, as `Pt.Api` states their laws:

* a client holds PT device objects by device id, and a device object holds resources by
  `/object/instance/resource` path; both survive a lost connection, but every call names the
  connection it is made on and fails when that is `PT_API_CONNECTION_ID_INVALID`;
* creating a device makes one without resources, and fails if it exists;
* adding a resource creates exactly the named one with the given value, and fails without effect
  if it exists; setting a value overwrites an existing resource, and fails without effect
  otherwise;
* the next free instance of an object is the least instance id not in use, `-1` if there is none.

`Client.faults` lists the outcomes of the coming allocations and resource calls (`true`: it fails);
an empty list means that no allocation and no call fails.  `Client.setCalls` records the calls of
`pt_device_set_resource_value`, newest first.

`Client.api_lawful` shows that the calls of this store have the laws of `ResourceApi.Lawful`.
-/

namespace EdgeTranslators.Pt
open Lib

abbrev Resources := AList fun _ : Path => Resource

structure Client where
  /-- `g_connection_id`, `none` for `PT_API_CONNECTION_ID_INVALID` -/
  connection : Option Nat
  devices : AList fun _ : String => Resources
  faults : List Bool
  setCalls : List (String × Path × Bytes)
  deriving DecidableEq

namespace Client

/-- the outcome of the next allocation or resource call -/
def takeFault (c : Client) : Bool × Client :=
  match c.faults with
  | [] => (false, c)
  | f :: fs => (f, { c with faults := fs })

/-- the device object a call on `g_connection_id` works on -/
def find (c : Client) (id : String) : Option Resources :=
  if c.connection.isSome then c.devices.lookup id else none

def setResources (c : Client) (id : String) (rs : Resources) : Client :=
  { c with devices := c.devices.insert id rs }

/-- the value of a resource, if it exists -/
def value (c : Client) (id : String) (p : Path) : Option Bytes :=
  ((c.devices.lookup id).bind (·.lookup p)).map (·.value)

/-- a call of `pt_device_set_resource_value` goes on record -/
def logSet (c : Client) (id : String) (p : Path) (v : Bytes) : Client :=
  { c with setCalls := (id, p, v) :: c.setCalls }

/-- the last value handed to `pt_device_set_resource_value` for a resource -/
def lastSet (c : Client) (id : String) (p : Path) : Option Bytes :=
  (c.setCalls.find? fun s => s.1 = id ∧ s.2.1 = p).map (·.2.2)

def HasPath (c : Client) (id : String) (p : Path) : Prop :=
  ∃ rs, c.devices.lookup id = some rs ∧ p ∈ rs

end Client

/-! ## the calls -/

/-- `pt_device_exists` -/
def deviceExists (c : Client) (id : String) : Bool := (c.find id).isSome

/-- `pt_device_create`; `ok` is false when the client refuses for a reason of its own -/
def deviceCreate (c : Client) (id : String) (ok : Bool) : Status × Client :=
  if c.connection.isNone then (.notConnected, c)
  else if id ∈ c.devices then (.itemExists, c)
  else if ok then (.success, c.setResources id ∅)
  else (.error, c)

/-- `pt_device_resource_exists` -/
def deviceResourceExists (c : Client) (id : String) (p : Path) : Bool :=
  match c.find id with
  | some rs => p ∈ rs
  | none => false

/-- `pt_device_add_resource`, `pt_device_add_resource_with_callback` -/
def deviceAddResource (c : Client) (id : String) (p : Path) (r : Resource) : Status × Client :=
  match c.takeFault with
  | (true, c) => (.error, c)
  | (false, c) =>
    match c.find id with
    | none => (.notFound, c)
    | some rs => if p ∈ rs then (.itemExists, c) else (.success, c.setResources id (rs.insert p r))

/-- `pt_device_set_resource_value` -/
def deviceSetResourceValue (c : Client) (id : String) (p : Path) (v : Bytes) : Status × Client :=
  match (c.logSet id p v).takeFault with
  | (true, c) => (.error, c)
  | (false, c) =>
    match c.find id with
    | none => (.notFound, c)
    | some rs =>
      match rs.lookup p with
      | none => (.notFound, c)
      | some r => (.success, c.setResources id (rs.insert p { r with value := v }))

/-- `pt_device_get_resource_value`; the value is present when the status is a success -/
def deviceGetResourceValue (c : Client) (id : String) (p : Path) :
    Status × Option Bytes × Client :=
  match c.takeFault with
  | (true, c) => (.error, none, c)
  | (false, c) =>
    match (c.find id).bind (·.lookup p) with
    | none => (.notFound, none, c)
    | some r => (.success, some r.value, c)

def instanceUsed (rs : Resources) (objectId : UInt16) (i : Nat) : Bool :=
  rs.keys.any fun p => p.objectId = objectId ∧ p.instanceId.toNat = i

/-- the least unused id among the `n` ids from `i` on, `-1` if all are used -/
def leastFree (used : Nat → Bool) : Nat → Nat → Int
  | 0, _ => -1
  | n + 1, i => if used i then leastFree used n (i + 1) else i

/-- the least instance id an object does not use; 65535 is reserved in LwM2M -/
def leastFreeInstance (rs : Resources) (objectId : UInt16) : Int :=
  leastFree (instanceUsed rs objectId) 65535 0

/-- `pt_device_get_next_free_object_instance_id`; `next` is the instance the client finds -/
def deviceGetNextFreeObjectInstanceId (next : Resources → UInt16 → Int) (c : Client) (id : String)
    (objectId : UInt16) : Int × Client :=
  match c.takeFault with
  | (true, c) => (-1, c)
  | (false, c) =>
    match c.find id with
    | none => (-1, c)
    | some rs => (next rs objectId, c)

/-! ## the outcomes of the coming calls -/

/-- whether the `i`-th of the coming allocations and calls fails -/
def Client.fault (c : Client) (i : Nat) : Bool := c.faults.getD i false

/-- the client after an allocation -/
def Client.afterFault (c : Client) : Client := { c with faults := c.faults.tail }

/-- a call on a resource goes well -/
def Client.applies (c : Client) (id : String) (p : Path) : Bool :=
  !c.fault 0 && deviceResourceExists c id p

/-- the store as one the calls of the PT client work on -/
def Client.api : ResourceApi Client where
  connected := fun c => c.connection.isSome
  createDevice := deviceCreate
  fault := Client.fault
  deviceExists := deviceExists
  resourceExists := deviceResourceExists
  value := Client.value
  addResource := deviceAddResource
  setResourceValue := deviceSetResourceValue
  getResourceValue := deviceGetResourceValue

theorem takeFault_eq (c : Client) : c.takeFault = (c.fault 0, c.afterFault) := by
  obtain ⟨connection, devices, faults, setCalls⟩ := c
  cases faults with
  | nil => rfl
  | cons f fs => rfl

theorem takeFault_of_nil {c : Client} (h : c.faults = []) : c.takeFault = (false, c) := by
  unfold Client.takeFault; rw [h]

theorem afterFault_of_nil {c : Client} (h : c.faults = []) : c.afterFault = c :=
  (congrArg Prod.snd (takeFault_eq c)).symm.trans (congrArg Prod.snd (takeFault_of_nil h))

theorem takeFault_devices (c : Client) : c.takeFault.2.devices = c.devices := by
  rw [takeFault_eq]; rfl

theorem takeFault_setCalls (c : Client) : c.takeFault.2.setCalls = c.setCalls := by
  rw [takeFault_eq]; rfl

theorem fault_of_nil {c : Client} (h : c.faults = []) (i : Nat) : c.fault i = false := by
  unfold Client.fault
  rw [h]
  rfl

@[simp] theorem afterFault_fault (c : Client) (i : Nat) :
    c.afterFault.fault i = c.fault (i + 1) := by
  unfold Client.fault Client.afterFault
  cases c.faults with
  | nil => rfl
  | cons f fs => rfl

@[simp] theorem afterFault_value (c : Client) : c.afterFault.value = c.value := rfl

@[simp] theorem afterFault_resourceExists (c : Client) (id : String) (p : Path) :
    deviceResourceExists c.afterFault id p = deviceResourceExists c id p := rfl

/-! ## the resources of a device -/

theorem find_eq_some {c : Client} {id : String} {rs : Resources} (h : c.find id = some rs) :
    c.connection.isSome ∧ c.devices.lookup id = some rs := by
  unfold Client.find at h
  split at h
  · exact ⟨‹_›, h⟩
  · cases h

theorem deviceExists_iff (c : Client) (id : String) :
    deviceExists c id = true ↔ c.connection.isSome ∧ id ∈ c.devices := by
  unfold deviceExists Client.find
  split
  · rw [AList.lookup_isSome]
    exact ⟨fun h => ⟨‹_›, h⟩, And.right⟩
  · simp_all

theorem resourceExists_of_find {c : Client} {id : String} {rs : Resources}
    (h : c.find id = some rs) (p : Path) : deviceResourceExists c id p = decide (p ∈ rs) := by
  unfold deviceResourceExists
  rw [h]

theorem resourceExists_of_none {c : Client} {id : String} (h : c.find id = none) (p : Path) :
    deviceResourceExists c id p = false := by
  unfold deviceResourceExists
  rw [h]

theorem find_setResources {c : Client} {id : String} {rs₀ : Resources} (h : c.find id = some rs₀)
    (rs : Resources) (id' : String) :
    (c.setResources id rs).find id' = if id' = id then some rs else c.find id' := by
  obtain ⟨hcon, -⟩ := find_eq_some h
  have hset : (c.setResources id rs).find id' = AList.lookup id' (c.devices.insert id rs) :=
    if_pos hcon
  rw [hset]
  by_cases hid : id' = id
  · rw [if_pos hid, hid]
    exact AList.lookup_insert _
  · rw [if_neg hid, AList.lookup_insert_ne hid]
    exact (if_pos hcon).symm

/-- the resources there are after one of an existing device has been written -/
theorem resourceExists_insert {c : Client} {id : String} {rs : Resources}
    (h : c.find id = some rs) (p : Path) (r : Resource) (id' : String) (q : Path) :
    deviceResourceExists (c.setResources id (rs.insert p r)) id' q
      = (deviceResourceExists c id' q || decide (id' = id ∧ q = p)) := by
  unfold deviceResourceExists
  rw [find_setResources h]
  by_cases hid : id' = id
  · subst hid
    rw [if_pos rfl, h]
    simp [AList.mem_insert, Bool.or_comm]
  · rw [if_neg hid]
    simp [hid]

theorem value_setResources_ne {c : Client} {id id' : String} {rs : Resources} {p : Path}
    (h : id' ≠ id) : (c.setResources id rs).value id' p = c.value id' p := by
  show ((AList.lookup id' (c.devices.insert id rs)).bind _).map _ = _
  rw [AList.lookup_insert_ne h]
  rfl

theorem value_setResources_self (c : Client) (id : String) (rs : Resources) (p : Path) :
    (c.setResources id rs).value id p = (rs.lookup p).map (·.value) := by
  show ((AList.lookup id (c.devices.insert id rs)).bind _).map _ = _
  rw [AList.lookup_insert]
  rfl

theorem Client.value_of_find {c : Client} {id : String} {rs : Resources} (h : c.find id = some rs) :
    c.value id = fun p => (rs.lookup p).map (·.value) := by
  funext p
  unfold Client.value
  rw [(find_eq_some h).2, Option.bind_some]

theorem Client.value_insert {c : Client} {id : String} {rs : Resources} (h : c.find id = some rs)
    (p : Path) (r : Resource) :
    (c.setResources id (rs.insert p r)).value id =
      Function.update (c.value id) p (some r.value) := by
  rw [Client.value_of_find h]
  funext q
  rw [value_setResources_self]
  by_cases hq : q = p
  · subst hq
    rw [AList.lookup_insert, Function.update_self, Option.map_some]
  · rw [AList.lookup_insert_ne hq, Function.update_of_ne hq]

/-! ## the two ends of each call -/

section
variable (c : Client) (id : String) (p : Path)

/-- **What a call of `pt_device_create` does** -/
theorem deviceCreate_cases (ok : Bool) :
    (c.connection.isSome = true ∧ id ∉ c.devices ∧ ok = true ∧
        deviceCreate c id ok = (.success, c.setResources id ∅)) ∨
      ((c.connection.isSome = false ∨ id ∈ c.devices ∨ ok = false) ∧
        ∃ st, st ≠ .success ∧ deviceCreate c id ok = (st, c)) := by
  unfold deviceCreate
  cases hc : c.connection with
  | none => exact .inr ⟨.inl rfl, .notConnected, by decide, rfl⟩
  | some connection =>
    simp only [Option.isNone_some, Bool.false_eq_true, if_false]
    by_cases hid : id ∈ c.devices
    · exact .inr ⟨.inr (.inl hid), .itemExists, by decide, if_pos hid⟩
    · rw [if_neg hid]
      cases ok with
      | true => exact .inl ⟨rfl, hid, rfl, rfl⟩
      | false => exact .inr ⟨.inr (.inr rfl), .error, by decide, rfl⟩

/-- **What a call of `pt_device_set_resource_value` does** -/
theorem deviceSetResourceValue_cases (v : Bytes) :
    (c.applies id p = true ∧ ∃ rs r, c.find id = some rs ∧ rs.lookup p = some r ∧
        deviceSetResourceValue c id p v = (.success, (c.logSet id p v).afterFault.setResources id
          (rs.insert p { r with value := v }))) ∨
      (c.applies id p = false ∧ ∃ st, st ≠ .success ∧
        deviceSetResourceValue c id p v = (st, (c.logSet id p v).afterFault)) := by
  have hfind : (c.logSet id p v).afterFault.find id = c.find id := rfl
  have hfault : (c.logSet id p v).fault 0 = c.fault 0 := rfl
  unfold deviceSetResourceValue Client.applies
  rw [takeFault_eq, hfault]
  cases c.fault 0 with
  | true => exact .inr ⟨rfl, .error, by decide, rfl⟩
  | false =>
    simp only [hfind, Bool.not_false, Bool.true_and]
    cases hrs : c.find id with
    | none => exact .inr ⟨resourceExists_of_none hrs p, .notFound, by decide, rfl⟩
    | some rs =>
      rw [resourceExists_of_find hrs]
      cases hr : rs.lookup p with
      | none =>
        refine .inr ⟨decide_eq_false (AList.lookup_eq_none.mp hr), .notFound, by decide, ?_⟩
        simp only [hr]
      | some r =>
        have hmem : p ∈ rs := AList.lookup_isSome.mp (by rw [hr]; rfl)
        refine .inl ⟨decide_eq_true hmem, rs, r, rfl, hr, ?_⟩
        simp only [hr]

/-- **What a call of `pt_device_get_resource_value` gives** -/
theorem deviceGetResourceValue_cases :
    (c.applies id p = true ∧ ∃ b, c.value id p = some b ∧
        deviceGetResourceValue c id p = (.success, some b, c.afterFault)) ∨
      (c.applies id p = false ∧ ∃ st, st ≠ .success ∧
        deviceGetResourceValue c id p = (st, none, c.afterFault)) := by
  have hfind : c.afterFault.find id = c.find id := rfl
  unfold deviceGetResourceValue Client.applies
  rw [takeFault_eq]
  cases c.fault 0 with
  | true => exact .inr ⟨rfl, .error, by decide, rfl⟩
  | false =>
    simp only [hfind, Bool.not_false, Bool.true_and]
    cases hrs : c.find id with
    | none => exact .inr ⟨resourceExists_of_none hrs p, .notFound, by decide, rfl⟩
    | some rs =>
      rw [resourceExists_of_find hrs, Client.value_of_find hrs]
      simp only [Option.bind_some]
      cases hr : rs.lookup p with
      | none => exact .inr ⟨decide_eq_false (AList.lookup_eq_none.mp hr), .notFound, by decide, rfl⟩
      | some r =>
        have hmem : p ∈ rs := AList.lookup_isSome.mp (by rw [hr]; rfl)
        exact .inl ⟨decide_eq_true hmem, r.value, rfl, rfl⟩

/-- **What a call of `pt_device_add_resource` does** -/
theorem deviceAddResource_cases (r : Resource) :
    (Client.api.adds c id p = true ∧ ∃ rs, c.find id = some rs ∧
        deviceAddResource c id p r
          = (.success, c.afterFault.setResources id (rs.insert p r))) ∨
      (Client.api.adds c id p = false ∧ ∃ st, st ≠ .success ∧
        deviceAddResource c id p r = (st, c.afterFault)) := by
  have hadds : Client.api.adds c id p
      = (!c.fault 0 && (deviceExists c id && !deviceResourceExists c id p)) := rfl
  have hfind : c.afterFault.find id = c.find id := rfl
  rw [hadds]
  unfold deviceAddResource deviceExists
  rw [takeFault_eq]
  cases c.fault 0 with
  | true => exact .inr ⟨rfl, .error, by decide, rfl⟩
  | false =>
    simp only [hfind, Bool.not_false, Bool.true_and]
    cases hrs : c.find id with
    | none => exact .inr ⟨rfl, .notFound, by decide, rfl⟩
    | some rs =>
      rw [resourceExists_of_find hrs, Option.isSome_some, Bool.true_and]
      by_cases hp : p ∈ rs
      · exact .inr ⟨by rw [decide_eq_true hp]; rfl, .itemExists, by decide, if_pos hp⟩
      · exact .inl ⟨by rw [decide_eq_false hp]; rfl, rs, rfl, if_neg hp⟩

end

/-! ## what the calls do not touch -/

/-- `c'` has every device and every resource of `c`, and no further device -/
structure Grows (c c' : Client) : Prop where
  connection : c'.connection = c.connection
  faults : c.faults = [] → c'.faults = []
  devices : ∀ id, id ∈ c'.devices ↔ id ∈ c.devices
  paths : ∀ id p, c.HasPath id p → c'.HasPath id p

theorem Grows.refl (c : Client) : Grows c c := ⟨rfl, id, fun _ => Iff.rfl, fun _ _ h => h⟩

theorem Grows.trans {c c' c'' : Client} (h : Grows c c') (h' : Grows c' c'') : Grows c c'' :=
  ⟨h'.connection.trans h.connection, fun e => h'.faults (h.faults e),
    fun id => (h'.devices id).trans (h.devices id), fun id p hp => h'.paths id p (h.paths id p hp)⟩

/-- the resource values of `c` and `c'` differ at most at the resources in `D` -/
def SameExcept (D : String → Path → Prop) (c c' : Client) : Prop :=
  ∀ id p, ¬ D id p → c'.value id p = c.value id p

section
variable {D D' : String → Path → Prop} {c c' c'' : Client}

theorem SameExcept.refl (D : String → Path → Prop) (c : Client) : SameExcept D c c :=
  fun _ _ _ => rfl

theorem SameExcept.trans (h : SameExcept D c c') (h' : SameExcept D c' c'') :
    SameExcept D c c'' := fun id p hp => (h' id p hp).trans (h id p hp)

theorem SameExcept.mono (h : SameExcept D c c') (hD : ∀ id p, D id p → D' id p) :
    SameExcept D' c c' := fun id p hp => h id p fun hd => hp (hD id p hd)

end

theorem afterFault_grows (c : Client) : Grows c c.afterFault :=
  ⟨rfl, fun h => congrArg List.tail h, fun _ => Iff.rfl, fun _ _ h => h⟩

theorem takeFault_grows (c : Client) : Grows c c.takeFault.2 := by
  rw [takeFault_eq]
  exact afterFault_grows c

theorem takeFault_sameExcept (D : String → Path → Prop) (c : Client) :
    SameExcept D c c.takeFault.2 := by
  rw [takeFault_eq]
  exact fun _ _ _ => rfl

/-- writing one resource of an existing device -/
theorem setResources_grows {c : Client} {id : String} {rs : Resources} (h : c.find id = some rs)
    (p : Path) (r : Resource) : Grows c (c.setResources id (rs.insert p r)) := by
  have hlookup := (find_eq_some h).2
  have hid : id ∈ c.devices := AList.lookup_isSome.mp (by rw [hlookup]; rfl)
  refine ⟨rfl, fun e => e, fun id' => ?_, ?_⟩
  · show id' ∈ c.devices.insert id _ ↔ _
    rw [AList.mem_insert]
    constructor
    · rintro (rfl | h')
      · exact hid
      · exact h'
    · exact Or.inr
  · rintro id' q ⟨rs₀, h₀, hq⟩
    by_cases e : id' = id
    · subst e
      rw [hlookup] at h₀
      cases h₀
      exact ⟨_, AList.lookup_insert _, (AList.mem_insert rs).mpr (.inr hq)⟩
    · exact ⟨rs₀, (AList.lookup_insert_ne e).trans h₀, hq⟩

/-- writing one resource of an existing device changes no other value -/
theorem setResources_insert_sameExcept {c : Client} {id : String} {rs : Resources}
    (h : c.find id = some rs) (p : Path) (r : Resource) :
    SameExcept (fun id' p' => id' = id ∧ p' = p) c (c.setResources id (rs.insert p r)) := by
  intro id' p' hne
  by_cases e : id' = id
  · subst e
    have hp : p' ≠ p := fun hp => hne ⟨rfl, hp⟩
    rw [Client.value_insert h, Function.update_of_ne hp]
  · exact value_setResources_ne e

theorem deviceCreate_faults (c : Client) (id : String) (ok : Bool) :
    (deviceCreate c id ok).2.faults = c.faults := by
  rcases deviceCreate_cases c id ok with ⟨-, -, -, heq⟩ | ⟨-, st, -, heq⟩ <;> rw [heq]
  rfl

theorem deviceAddResource_grows (c : Client) (id : String) (p : Path) (r : Resource) :
    Grows c (deviceAddResource c id p r).2 := by
  rcases deviceAddResource_cases c id p r with ⟨-, rs, hrs, heq⟩ | ⟨-, st, -, heq⟩ <;> rw [heq]
  · exact (afterFault_grows c).trans (setResources_grows (c := c.afterFault) hrs p r)
  · exact afterFault_grows c

/-- when nothing fails, the resource is there after the call -/
theorem deviceAddResource_hasPath {c : Client} {id : String} {rs : Resources} (p : Path)
    (r : Resource) (hf : c.faults = []) (h : c.find id = some rs) :
    (deviceAddResource c id p r).2.HasPath id p := by
  unfold deviceAddResource
  rw [takeFault_of_nil hf]
  simp only [h]
  split
  · exact ⟨rs, (find_eq_some h).2, ‹_›⟩
  · exact ⟨_, AList.lookup_insert _, (AList.mem_insert rs).mpr (.inl rfl)⟩

theorem Client.logSet_grows (c : Client) (id : String) (p : Path) (v : Bytes) :
    Grows c (c.logSet id p v) := ⟨rfl, fun h => h, fun _ => Iff.rfl, fun _ _ h => h⟩

theorem deviceSetResourceValue_grows (c : Client) (id : String) (p : Path) (v : Bytes) :
    Grows c (deviceSetResourceValue c id p v).2 := by
  have h0 := (c.logSet_grows id p v).trans (afterFault_grows _)
  rcases deviceSetResourceValue_cases c id p v with ⟨-, rs, r, hrs, -, heq⟩ | ⟨-, st, -, heq⟩ <;>
    rw [heq]
  · exact h0.trans (setResources_grows (c := (c.logSet id p v).afterFault) hrs p _)
  · exact h0

theorem deviceSetResourceValue_sameExcept (c : Client) (id : String) (p : Path) (v : Bytes) :
    SameExcept (fun id' p' => id' = id ∧ p' = p) c (deviceSetResourceValue c id p v).2 := by
  rcases deviceSetResourceValue_cases c id p v with ⟨-, rs, r, hrs, -, heq⟩ | ⟨-, st, -, heq⟩ <;>
    rw [heq]
  · exact setResources_insert_sameExcept (c := (c.logSet id p v).afterFault) hrs p _
  · exact fun _ _ _ => rfl

theorem deviceSetResourceValue_setCalls (c : Client) (id : String) (p : Path) (v : Bytes) :
    (deviceSetResourceValue c id p v).2.setCalls = (id, p, v) :: c.setCalls := by
  rcases deviceSetResourceValue_cases c id p v with ⟨-, rs, r, -, -, heq⟩ | ⟨-, st, -, heq⟩ <;>
    rw [heq] <;> rfl

/-- a call of `pt_device_set_resource_value` is the last one for its resource -/
theorem deviceSetResourceValue_lastSet (c : Client) (id : String) (p : Path) (v : Bytes) :
    (deviceSetResourceValue c id p v).2.lastSet id p = some v := by
  unfold Client.lastSet
  rw [deviceSetResourceValue_setCalls]
  simp

theorem deviceGetResourceValue_client (c : Client) (id : String) (p : Path) :
    (deviceGetResourceValue c id p).2.2 = c.afterFault := by
  rcases deviceGetResourceValue_cases c id p with ⟨-, b, -, heq⟩ | ⟨-, st, -, heq⟩ <;> rw [heq]

theorem deviceGetResourceValue_grows (c : Client) (id : String) (p : Path) :
    Grows c (deviceGetResourceValue c id p).2.2 := by
  rw [deviceGetResourceValue_client]
  exact afterFault_grows c

theorem deviceGetResourceValue_sameExcept (D : String → Path → Prop) (c : Client) (id : String)
    (p : Path) : SameExcept D c (deviceGetResourceValue c id p).2.2 := by
  rw [deviceGetResourceValue_client]
  exact fun _ _ _ => rfl

theorem deviceGetNextFreeObjectInstanceId_grows (next : Resources → UInt16 → Int) (c : Client)
    (id : String) (objectId : UInt16) :
    Grows c (deviceGetNextFreeObjectInstanceId next c id objectId).2 := by
  have h0 := afterFault_grows c
  unfold deviceGetNextFreeObjectInstanceId
  rw [takeFault_eq]
  cases c.fault 0 with
  | true => exact h0
  | false =>
    simp only
    cases c.afterFault.find id with
    | none => exact h0
    | some rs => exact h0

/-! ## the laws of the calls -/

theorem afterFault_passes (c : Client) (id : String) : Client.api.Passes id c c.afterFault :=
  ⟨afterFault_fault c, fun _ => rfl, fun _ _ => rfl⟩

theorem setResources_passes {c : Client} {id : String} {rs₀ : Resources}
    (h : c.find id = some rs₀) (rs : Resources) :
    Client.api.Passes id c (c.afterFault.setResources id rs) := by
  refine ⟨afterFault_fault c, fun id' => ?_, fun id' hne => funext fun p => ?_⟩
  · have hfind := find_setResources (c := c.afterFault) h rs id'
    show ((c.afterFault.setResources id rs).find id').isSome = (c.find id').isSome
    rw [hfind]
    by_cases hid : id' = id
    · rw [if_pos hid, hid, h]
      rfl
    · rw [if_neg hid]
      rfl
  · exact value_setResources_ne hne

/-- a device that a connected client does not have has no values -/
theorem Client.value_of_missing {c : Client} {id : String} (hc : c.connection.isSome = true)
    (hid : deviceExists c id = false) : c.value id = fun _ => none := by
  have hmem : id ∉ c.devices := fun h =>
    absurd (hid.symm.trans ((deviceExists_iff c id).mpr ⟨hc, h⟩)) Bool.false_ne_true
  funext p
  show ((c.devices.lookup id).bind _).map _ = none
  rw [AList.lookup_eq_none.mpr hmem]
  rfl

theorem deviceCreate_success_iff (c : Client) (id : String) (ok : Bool) :
    (deviceCreate c id ok).1 = .success ↔
      c.connection.isSome = true ∧ deviceExists c id = false ∧ ok = true := by
  have hexists := deviceExists_iff c id
  rcases deviceCreate_cases c id ok with ⟨hc, hid, hok, heq⟩ | ⟨hno, st, hst, heq⟩ <;> rw [heq]
  · refine iff_of_true rfl ⟨hc, Bool.not_eq_true _ ▸ fun h => hid (hexists.mp h).2, hok⟩
  · refine iff_of_false hst fun ⟨hc, hid, hok⟩ => ?_
    rcases hno with hc' | hid' | hok'
    · exact Bool.false_ne_true (hc'.symm.trans hc)
    · exact Bool.false_ne_true (hid.symm.trans (hexists.mpr ⟨hc, hid'⟩))
    · exact Bool.false_ne_true (hok'.symm.trans hok)

theorem deviceSetResourceValue_passes (c : Client) (id : String) (p : Path) (v : Bytes) :
    Client.api.Passes id c (deviceSetResourceValue c id p v).2 := by
  rcases deviceSetResourceValue_cases c id p v with ⟨-, rs, r, hrs, -, heq⟩ | ⟨-, st, -, heq⟩ <;>
    rw [heq]
  · have hpasses := setResources_passes (c := c.logSet id p v) hrs
      (rs.insert p { r with value := v })
    exact ⟨hpasses.fault, hpasses.device, hpasses.other⟩
  · have hpasses := afterFault_passes (c.logSet id p v) id
    exact ⟨hpasses.fault, hpasses.device, hpasses.other⟩

/-- a call that sets a value makes no resource -/
theorem deviceSetResourceValue_exists (c : Client) (id : String) (p : Path) (v : Bytes)
    (id' : String) (q : Path) :
    deviceResourceExists (deviceSetResourceValue c id p v).2 id' q
      = deviceResourceExists c id' q := by
  rcases deviceSetResourceValue_cases c id p v with ⟨-, rs, r, hrs, hr, heq⟩ | ⟨-, st, -, heq⟩ <;>
    rw [heq]
  · have hmem : p ∈ rs := AList.lookup_isSome.mp (by rw [hr]; rfl)
    have hold : id' = id ∧ q = p → deviceResourceExists c id' q = true := by
      rintro ⟨rfl, rfl⟩
      rw [resourceExists_of_find hrs]
      exact decide_eq_true hmem
    refine (resourceExists_insert (c := (c.logSet id p v).afterFault) hrs p _ id' q).trans ?_
    show (deviceResourceExists c id' q || _) = deviceResourceExists c id' q
    by_cases hq : id' = id ∧ q = p
    · rw [hold hq, Bool.true_or]
    · rw [decide_eq_false hq, Bool.or_false]
  · rfl

/-- **The calls of the store have the laws of the PT client API** -/
theorem Client.api_lawful : Client.api.Lawful where
  exists_device := fun c id p h => by
    cases hrs : c.find id with
    | none => exact absurd ((resourceExists_of_none hrs p).symm.trans h) Bool.false_ne_true
    | some rs =>
      show (c.find id).isSome = true
      rw [hrs]
      rfl
  exists_value := fun c id p h => by
    obtain ⟨rs, hrs⟩ := Option.isSome_iff_exists.mp (show (c.find id).isSome = true from h)
    show deviceResourceExists c id p = (c.value id p).isSome
    rw [resourceExists_of_find hrs, Client.value_of_find hrs, Bool.eq_iff_iff, Option.isSome_map,
      AList.lookup_isSome, decide_eq_true_eq]
  missing_value _ _ hc hid := Client.value_of_missing hc hid
  create_success := deviceCreate_success_iff
  create_exists := fun c id ok h => by
    show deviceExists (deviceCreate c id ok).2 id = true
    rcases deviceCreate_cases c id ok with ⟨hc, -, -, heq⟩ | ⟨-, st, hst, heq⟩
    · rw [heq]
      exact (deviceExists_iff _ id).mpr ⟨hc, (AList.mem_insert _).mpr (.inl rfl)⟩
    · exact absurd ((congrArg Prod.fst heq).symm.trans h) hst
  create_value := fun c id ok h => by
    show (deviceCreate c id ok).2.value id = _
    rcases deviceCreate_cases c id ok with ⟨-, -, -, heq⟩ | ⟨-, st, hst, heq⟩
    · rw [heq]
      exact funext fun p => value_setResources_self c id ∅ p
    · exact absurd ((congrArg Prod.fst heq).symm.trans h) hst
  create_other := fun c id ok id' hne => by
    show (deviceCreate c id ok).2.value id' = _
    rcases deviceCreate_cases c id ok with ⟨-, -, -, heq⟩ | ⟨-, st, -, heq⟩ <;> rw [heq]
    · exact funext fun p => value_setResources_ne hne
    · rfl
  create_fault := fun c id ok i => by
    show (deviceCreate c id ok).2.faults.getD i false = _
    rw [deviceCreate_faults]
    rfl
  create_failed := fun c id ok h => by
    show (deviceCreate c id ok).2 = c
    rcases deviceCreate_cases c id ok with ⟨-, -, -, heq⟩ | ⟨-, st, -, heq⟩
    · exact absurd (congrArg Prod.fst heq) h
    · rw [heq]
  set_passes := deviceSetResourceValue_passes
  set_exists := deviceSetResourceValue_exists
  set_success := fun c id p v => by
    show (deviceSetResourceValue c id p v).1 = .success ↔ c.applies id p = true
    rcases deviceSetResourceValue_cases c id p v with
      ⟨happ, rs, r, -, -, heq⟩ | ⟨happ, st, hst, heq⟩ <;> rw [heq, happ]
    · exact iff_of_true rfl rfl
    · exact iff_of_false hst Bool.false_ne_true
  set_value := fun c id p v => by
    show (deviceSetResourceValue c id p v).2.value id
      = if c.applies id p then Function.update (c.value id) p (some v) else c.value id
    rcases deviceSetResourceValue_cases c id p v with
      ⟨happ, rs, r, hrs, -, heq⟩ | ⟨happ, st, -, heq⟩ <;> rw [heq, happ]
    · exact Client.value_insert (c := (c.logSet id p v).afterFault) hrs p _
    · rfl
  get_passes := fun c id p => by
    show Client.api.Passes id c (deviceGetResourceValue c id p).2.2
    rw [deviceGetResourceValue_client]
    exact afterFault_passes c id
  get_exists := fun c id p id' q => by
    show deviceResourceExists (deviceGetResourceValue c id p).2.2 id' q = _
    rw [deviceGetResourceValue_client]
    rfl
  get_success := fun c id p => by
    show (deviceGetResourceValue c id p).1 = .success ↔ c.applies id p = true
    rcases deviceGetResourceValue_cases c id p with
      ⟨happ, b, -, heq⟩ | ⟨happ, st, hst, heq⟩ <;> rw [heq, happ]
    · exact iff_of_true rfl rfl
    · exact iff_of_false hst Bool.false_ne_true
  get_reads := fun c id p h => by
    show (deviceGetResourceValue c id p).2.1 = c.value id p
    rcases deviceGetResourceValue_cases c id p with ⟨-, b, hb, heq⟩ | ⟨happ, -⟩
    · rw [heq, hb]
    · exact absurd (happ.symm.trans h) Bool.false_ne_true
  get_value := fun c id p => by
    show (deviceGetResourceValue c id p).2.2.value id = c.value id
    rw [deviceGetResourceValue_client]
    rfl
  add_passes := fun c id p r => by
    show Client.api.Passes id c (deviceAddResource c id p r).2
    rcases deviceAddResource_cases c id p r with ⟨-, rs, hrs, heq⟩ | ⟨-, st, -, heq⟩ <;> rw [heq]
    · exact setResources_passes hrs _
    · exact afterFault_passes c id
  add_exists := fun c id p r id' q => by
    show deviceResourceExists (deviceAddResource c id p r).2 id' q
      = (deviceResourceExists c id' q || _)
    rcases deviceAddResource_cases c id p r with ⟨hadds, rs, hrs, heq⟩ | ⟨hadds, st, -, heq⟩ <;>
      rw [heq, hadds]
    · exact resourceExists_insert (c := c.afterFault) hrs p r id' q
    · rw [Bool.false_and, Bool.or_false]
      rfl
  add_success := fun c id p r => by
    show (deviceAddResource c id p r).1 = .success ↔ _
    rcases deviceAddResource_cases c id p r with ⟨hadds, rs, -, heq⟩ | ⟨hadds, st, hst, heq⟩ <;>
      rw [heq, hadds]
    · exact iff_of_true rfl rfl
    · exact iff_of_false hst Bool.false_ne_true
  add_value := fun c id p r => by
    show (deviceAddResource c id p r).2.value id
      = if _ then Function.update (c.value id) p (some r.value) else c.value id
    rcases deviceAddResource_cases c id p r with ⟨hadds, rs, hrs, heq⟩ | ⟨hadds, st, -, heq⟩ <;>
      rw [heq, hadds]
    · exact Client.value_insert (c := c.afterFault) hrs p r
    · rfl

/-- the laws of a call that sets a value, in the words of the store -/
theorem deviceSetResourceValue_spec (c : Client) (id : String) (p : Path) (v : Bytes) :
    let c' := (deviceSetResourceValue c id p v).2
    (∀ i, c'.fault i = c.fault (i + 1)) ∧
      (∀ id' q, deviceResourceExists c' id' q = deviceResourceExists c id' q) ∧
      c'.value id = if c.applies id p then Function.update (c.value id) p (some v)
        else c.value id :=
  ⟨(Client.api_lawful.set_passes c id p v).fault, Client.api_lawful.set_exists c id p v,
    Client.api_lawful.set_value c id p v⟩

/-! ## when nothing fails -/

/-- nothing fails, and the device exists on the current connection -/
def Ready (c : Client) (id : String) : Prop := c.faults = [] ∧ deviceExists c id = true

theorem Ready.find {c : Client} {id : String} (h : Ready c id) : ∃ rs, c.find id = some rs :=
  Option.isSome_iff_exists.mp h.2

theorem Grows.ready {c c' : Client} {id : String} (h : Grows c c') (hr : Ready c id) :
    Ready c' id := by
  refine ⟨h.faults hr.1, (deviceExists_iff c' id).mpr ?_⟩
  obtain ⟨hc, hd⟩ := (deviceExists_iff c id).mp hr.2
  exact ⟨by rw [h.connection]; exact hc, (h.devices id).mpr hd⟩

section
variable {c : Client} {id : String}

theorem deviceAddResource_value (hr : Ready c id) (p : Path) (r : Resource) :
    (deviceAddResource c id p r).2.value id = addValue p r.value (c.value id) ∧
      ((deviceAddResource c id p r).1 = .success ↔ c.value id p = none) :=
  Client.api_lawful.add_value_of (fault_of_nil hr.1 0) hr.2 p r

theorem deviceSetResourceValue_value (hr : Ready c id) (p : Path) (v : Bytes) :
    (deviceSetResourceValue c id p v).2.value id = setValue p v (c.value id) ∧
      ((deviceSetResourceValue c id p v).1 = .success ↔ (c.value id p).isSome) :=
  Client.api_lawful.set_value_of (fault_of_nil hr.1 0) hr.2 p v

theorem deviceResourceExists_eq (hr : Ready c id) (p : Path) :
    deviceResourceExists c id p = (c.value id p).isSome :=
  Client.api_lawful.exists_value c id p hr.2

end

theorem leastFree_cases (used : Nat → Bool) (n i : Nat) :
    leastFree used n i = -1 ∨
      ∃ j : Nat, leastFree used n i = j ∧ i ≤ j ∧ j < i + n ∧ used j = false := by
  induction n generalizing i with
  | zero => exact .inl rfl
  | succ n ih =>
    unfold leastFree
    cases hi : used i with
    | true =>
      rw [if_pos rfl]
      rcases ih (i + 1) with h | ⟨j, hj, hle, hlt, hu⟩
      · exact .inl h
      · exact .inr ⟨j, hj, by omega, by omega, hu⟩
    | false =>
      rw [if_neg (by decide)]
      exact .inr ⟨i, rfl, le_refl i, by omega, hi⟩

end EdgeTranslators.Pt
