import Mathlib.Data.List.ReduceOption
import EdgeTranslators.Pt.V1.Ipso

/-!
# The next free instance of an object

`ipso_get_next_free_object_instance_id` counts a `uint16_t` up to its last value, and
`ipso_create_next_free_object_instance` adds the instance it finds.

* `leastFree_eq_neg_one_iff`, `leastFree_eq_iff`   the least id that is not used;
* `nextFreeObjectInstanceIdLoop`   the loop with its counter of 16 bits;
* `LeastFreeId`                    the least free id of an object, or that none is free;
* `CreatesInstance`                a call adds this instance, and fails only when none is free;
* `createInstances`                a sequence of calls, which gives no instance twice;
* `instances_leastFree`            the search, and the calls of every sequence.
-/

namespace EdgeTranslators.Pt
open Lib

/-! ## the least id -/

theorem leastFree_eq_neg_one_iff (used : Nat → Bool) (n i : Nat) :
    leastFree used n i = -1 ↔ ∀ j, i ≤ j → j < i + n → used j = true := by
  induction n generalizing i with
  | zero => exact iff_of_true rfl fun j hle hlt => by omega
  | succ n ih =>
    unfold leastFree
    cases hi : used i with
    | true =>
      rw [if_pos rfl, ih (i + 1)]
      constructor
      · intro hall j hle hlt
        rcases Nat.eq_or_lt_of_le hle with rfl | hlt'
        · exact hi
        · exact hall j hlt' (by omega)
      · exact fun hall j hle hlt => hall j (by omega) (by omega)
    | false =>
      rw [if_neg Bool.false_ne_true]
      refine iff_of_false (by omega) fun hall => ?_
      have hused := hall i (Nat.le_refl i) (by omega)
      rw [hi] at hused
      cases hused

theorem leastFree_eq_iff (used : Nat → Bool) (n i j : Nat) :
    leastFree used n i = (j : Int) ↔
      i ≤ j ∧ j < i + n ∧ used j = false ∧ ∀ m, i ≤ m → m < j → used m = true := by
  induction n generalizing i with
  | zero =>
    refine iff_of_false (fun heq => ?_) fun h => by omega
    have hneg : (-1 : Int) = j := heq
    omega
  | succ n ih =>
    unfold leastFree
    cases hi : used i with
    | true =>
      rw [if_pos rfl, ih (i + 1)]
      constructor
      · rintro ⟨hle, hlt, hfree, hleast⟩
        refine ⟨by omega, by omega, hfree, fun m hm hmj => ?_⟩
        rcases Nat.eq_or_lt_of_le hm with rfl | hm'
        · exact hi
        · exact hleast m hm' hmj
      · rintro ⟨hle, hlt, hfree, hleast⟩
        have hne : i ≠ j := by
          rintro rfl
          rw [hi] at hfree
          cases hfree
        exact ⟨by omega, by omega, hfree, fun m hm hmj => hleast m (by omega) hmj⟩
    | false =>
      rw [if_neg Bool.false_ne_true]
      constructor
      · intro heq
        obtain rfl : i = j := by omega
        exact ⟨Nat.le_refl i, by omega, hi, fun m hm hmj => by omega⟩
      · rintro ⟨hle, hlt, hfree, hleast⟩
        rcases Nat.eq_or_lt_of_le hle with rfl | hlt'
        · rfl
        · have hused := hleast i (Nat.le_refl i) hlt'
          rw [hi] at hused
          cases hused

end EdgeTranslators.Pt

namespace EdgeTranslators.Pt.V1
open Lib

/-! ## the search -/

/-- the loop of `ipso_get_next_free_object_instance_id` from an id on, of which `fuel` rounds are
run -/
def nextFreeObjectInstanceIdLoop (object : Object) : (fuel : Nat) → (id : UInt16) → Option Int
  | 0, _ => none
  | fuel + 1, id =>
    if id < 65535 then
      if (object.lookup id).isNone then some id.toNat
      else nextFreeObjectInstanceIdLoop object fuel (id + 1)
    else some (-1)

/-- the counter does not wrap around, since the loop ends at the last value -/
theorem nextFreeObjectInstanceIdLoop_eq (object : Object) {fuel : Nat} {id : UInt16}
    (hfuel : 65536 ≤ fuel + id.toNat) :
    nextFreeObjectInstanceIdLoop object fuel id =
      some (leastFree (fun i => UInt16.ofNat i ∈ object) (65535 - id.toNat) id.toNat) := by
  have hid : id.toNat < 65536 := id.toNat_lt
  induction fuel generalizing id with
  | zero => omega
  | succ fuel ih =>
    unfold nextFreeObjectInstanceIdLoop
    by_cases hlt : id < 65535
    · have hnat : id.toNat < 65535 := UInt16.lt_iff_toNat_lt.mp hlt
      have hnext : (id + 1).toNat = id.toNat + 1 := by
        have hone : (1 : UInt16).toNat = 1 := rfl
        rw [UInt16.toNat_add, hone]
        exact Nat.mod_eq_of_lt (by omega)
      have hsplit : 65535 - id.toNat = 65535 - (id + 1).toNat + 1 := by omega
      rw [if_pos hlt, hsplit]
      unfold leastFree
      rw [UInt16.ofNat_toNat]
      cases hlookup : object.lookup id with
      | none =>
        rw [Option.isNone_none, if_pos rfl, decide_eq_false (AList.lookup_eq_none.mp hlookup),
          if_neg Bool.false_ne_true]
      | some i =>
        have hmem : id ∈ object := AList.lookup_isSome.mp (by rw [hlookup]; rfl)
        rw [Option.isNone_some, if_neg Bool.false_ne_true, decide_eq_true hmem, if_pos rfl,
          ih (by omega) (id + 1).toNat_lt, hnext]
    · have hnat : ¬id.toNat < 65535 := fun h => hlt (UInt16.lt_iff_toNat_lt.mpr h)
      have hnone : 65535 - id.toNat = 0 := by omega
      rw [if_neg hlt, hnone]
      rfl

/-- the least id below 65535 that an object does not have, or -1 when it has them all -/
def LeastFreeId (object : Object) (result : Int) : Prop :=
  (result = -1 ∧ ∀ id : UInt16, id < 65535 → id ∈ object) ∨
    ∃ id : UInt16, result = id.toNat ∧ id < 65535 ∧ id ∉ object ∧ ∀ id' < id, id' ∈ object

theorem ipsoGetNextFreeObjectInstanceId_least (object : Object) :
    LeastFreeId object (ipsoGetNextFreeObjectInstanceId object) := by
  unfold ipsoGetNextFreeObjectInstanceId
  rcases leastFree_cases (fun i => decide (UInt16.ofNat i ∈ object)) 65535 0 with
    hnone | ⟨j, hj, -, hlt, -⟩
  · refine .inl ⟨hnone, fun id hid => ?_⟩
    have hall := (leastFree_eq_neg_one_iff _ 65535 0).mp hnone id.toNat (Nat.zero_le _)
      (by have hnat := UInt16.lt_iff_toNat_lt.mp hid; exact (Nat.zero_add _).symm ▸ hnat)
    rw [UInt16.ofNat_toNat] at hall
    exact of_decide_eq_true hall
  · obtain ⟨-, -, hfree, hleast⟩ := (leastFree_eq_iff _ 65535 0 j).mp hj
    have hnat : (UInt16.ofNat j).toNat = j := UInt16.toNat_ofNat_of_lt' (by
      show j < 65536
      omega)
    refine .inr ⟨UInt16.ofNat j, ?_, ?_, of_decide_eq_false hfree, fun id hid => ?_⟩
    · rw [hj, hnat]
    · rw [UInt16.lt_iff_toNat_lt, hnat]
      show j < 65535
      omega
    · have hlt' := UInt16.lt_iff_toNat_lt.mp hid
      rw [hnat] at hlt'
      have hused := hleast id.toNat (Nat.zero_le _) hlt'
      rw [UInt16.ofNat_toNat] at hused
      exact of_decide_eq_true hused

theorem ipsoGetNextFreeObjectInstanceId_empty : ipsoGetNextFreeObjectInstanceId ∅ = 0 := by
  unfold ipsoGetNextFreeObjectInstanceId
  rw [show 65535 = 65534 + 1 from rfl, leastFree]
  have hfree : (decide ((UInt16.ofNat 0) ∈ (∅ : Object))) = false :=
    decide_eq_false (AList.notMem_empty _)
  rw [hfree, if_neg Bool.false_ne_true]
  rfl

/-! ## a call -/

section
variable {d : Device}

/-- what goes well goes on going well -/
theorem succeeds_of_suffix {faults : List Bool} (h : true ∉ d.faults) (hs : faults <:+ d.faults) :
    true ∉ faults :=
  fun hmem => h (hs.mem hmem)

/-- the object is there after the first half, with the instances that it had -/
theorem findOrAddObject_succeeds (h : true ∉ d.faults) (objectId : UInt16) :
    ∃ object d₁, findOrAddObject d objectId = (some object, d₁) ∧ d₁.faults <:+ d.faults ∧
      d₁.findObject objectId = some object ∧ d₁.findObjectInstance = d.findObjectInstance := by
  unfold findOrAddObject
  cases hobject : d.findObject objectId with
  | some object => exact ⟨object, d, rfl, List.suffix_refl _, hobject, rfl⟩
  | none =>
    have hadd : deviceAddObject d objectId =
        (.success, { d.afterFault with objects := d.objects.insert objectId ∅ }) := by
      unfold deviceAddObject
      rw [takeFault_succeeds h]
      exact if_neg (AList.lookup_eq_none.mp hobject)
    have hfound : ({ d.afterFault with objects := d.objects.insert objectId ∅ }
        : Device).findObject objectId = some ∅ := AList.lookup_insert _
    refine ⟨∅, { d.afterFault with objects := d.objects.insert objectId ∅ }, ?_,
      afterFault_suffix d, hfound, ?_⟩
    · simp only [hadd, hfound]
    · funext o inst
      unfold Device.findObjectInstance
      by_cases ho : o = objectId
      · rw [ho, hfound, hobject]
        rfl
      · have hother : ({ d.afterFault with objects := d.objects.insert objectId ∅ }
            : Device).findObject o = d.findObject o := AList.lookup_insert_ne ho
        rw [hother]

/-- the call adds the instance with the least id that the object does not have, and nothing else;
it fails when the object has them all, and adds nothing -/
def CreatesInstance (d : Device) (objectId : UInt16) : Option InstanceId × Device → Prop
  | (some inst, d') =>
    inst.objectId = objectId ∧ inst.instanceId < 65535 ∧
      d.findObjectInstance objectId inst.instanceId = none ∧
      (∀ id < inst.instanceId, (d.findObjectInstance objectId id).isSome) ∧
      ∀ o id, d'.findObjectInstance o id =
        if o = objectId ∧ id = inst.instanceId then some ∅ else d.findObjectInstance o id
  | (none, d') =>
    (∀ id < (65535 : UInt16), (d.findObjectInstance objectId id).isSome) ∧
      d'.findObjectInstance = d.findObjectInstance

theorem ipsoCreateNextFreeObjectInstance_creates (h : true ∉ d.faults) (objectId : UInt16) :
    CreatesInstance d objectId (ipsoCreateNextFreeObjectInstance d objectId) ∧
      (ipsoCreateNextFreeObjectInstance d objectId).2.faults <:+ d.faults := by
  obtain ⟨object, d₁, hfind, hsuffix, hobject, hsame⟩ := findOrAddObject_succeeds h objectId
  have hd₁ : true ∉ d₁.faults := succeeds_of_suffix h hsuffix
  have hlookup : ∀ id, d.findObjectInstance objectId id = object.lookup id := by
    intro id
    rw [← hsame]
    unfold Device.findObjectInstance
    rw [hobject, Option.bind_some]
  unfold ipsoCreateNextFreeObjectInstance
  rw [hfind]
  simp only
  rcases ipsoGetNextFreeObjectInstanceId_least object with
    ⟨hid, hall⟩ | ⟨id, hid, hlt, hfree, hleast⟩
  · rw [hid, if_pos (.inl (by decide))]
    refine ⟨⟨fun id hlt => ?_, hsame⟩, hsuffix⟩
    rw [hlookup]
    exact AList.lookup_isSome.mpr (hall id hlt)
  · have hnat : id.toNat < 65536 := id.toNat_lt
    have hnone : d₁.afterFault.findObjectInstance objectId id = none := by
      show d₁.findObjectInstance objectId id = none
      rw [hsame, hlookup]
      exact AList.lookup_eq_none.mpr hfree
    have hadd : objectAddObjectInstance d₁ objectId id =
        (.success, d₁.afterFault.setInstance objectId id ∅) := by
      unfold objectAddObjectInstance
      rw [takeFault_succeeds hd₁]
      simp only
      rw [hnone]
      rfl
    have hset := setInstance_findObjectInstance
      (show d₁.afterFault.findObject objectId = some object from hobject) id ∅
    rw [hid, if_neg (by omega), Int.toNat_natCast, UInt16.ofNat_toNat, hadd]
    have hfaults : (d₁.afterFault.setInstance objectId id ∅).faults <:+ d.faults := by
      rw [setInstance_faults]
      exact (afterFault_suffix d₁).trans hsuffix
    refine ⟨⟨rfl, hlt, ?_, fun id' hlt' => ?_, fun o id' => ?_⟩, hfaults⟩
    · rw [hlookup]
      exact AList.lookup_eq_none.mpr hfree
    · rw [hlookup]
      exact AList.lookup_isSome.mpr (hleast id' hlt')
    · rw [← hsame]
      exact hset o id'

/-- the first instance of an object that a device does not have yet, when nothing fails -/
theorem ipsoCreateNextFreeObjectInstance_first {objectId : UInt16} (hd : d.faults = [])
    (hobject : d.findObject objectId = none) :
    let r := ipsoCreateNextFreeObjectInstance d objectId
    r.1 = some ⟨objectId, 0⟩ ∧ r.2.faults = [] ∧
      (r.2.findObjectInstance objectId 0).isSome ∧ ∀ p, p.objectId = objectId →
        r.2.findResource p = none := by
  have hnone : ∀ id, d.findObjectInstance objectId id = none := by
    intro id
    unfold Device.findObjectInstance
    rw [hobject]
    rfl
  have hsucceeds : true ∉ d.faults := by
    rw [hd]
    exact List.not_mem_nil
  obtain ⟨hcreates, hsuffix⟩ := ipsoCreateNextFreeObjectInstance_creates hsucceeds objectId
  rw [hd, List.suffix_nil] at hsuffix
  generalize ipsoCreateNextFreeObjectInstance d objectId = r at hcreates hsuffix ⊢
  obtain ⟨created, d'⟩ := r
  cases created with
  | none =>
    have hused := hcreates.1 0 (by decide)
    rw [hnone] at hused
    cases hused
  | some inst =>
    obtain ⟨rfl, -, -, hleast, hfind⟩ := hcreates
    obtain ⟨objectId, instanceId⟩ := inst
    have hzero : instanceId = 0 := by
      by_contra hne
      have hused := hleast 0 (UInt16.pos_iff_ne_zero.mpr hne)
      rw [hnone] at hused
      cases hused
    subst hzero
    refine ⟨rfl, hsuffix, ?_, fun p hp => ?_⟩
    · rw [hfind, if_pos ⟨rfl, rfl⟩]
      rfl
    · unfold Device.findResource
      rw [hp, hfind]
      split
      · rfl
      · rw [hnone]
        rfl

end

/-! ## sequences of calls -/

/-- calls for one object after another: the instances they give, and the device -/
def createInstances (d : Device) : List UInt16 → List (Option InstanceId) × Device
  | [] => ([], d)
  | objectId :: objectIds =>
    let r := ipsoCreateNextFreeObjectInstance d objectId
    let rest := createInstances r.2 objectIds
    (r.1 :: rest.1, rest.2)

theorem createInstances_succeeds {d : Device} (h : true ∉ d.faults) (objectIds : List UInt16) :
    true ∉ (createInstances d objectIds).2.faults := by
  induction objectIds generalizing d with
  | nil => exact h
  | cons objectId objectIds ih =>
    exact ih (succeeds_of_suffix h (ipsoCreateNextFreeObjectInstance_creates h objectId).2)

/-- no instance is given twice, none was on the device before -/
theorem createInstances_fresh {d : Device} (h : true ∉ d.faults) (objectIds : List UInt16) :
    (createInstances d objectIds).1.reduceOption.Nodup ∧
      ∀ inst ∈ (createInstances d objectIds).1.reduceOption,
        d.findObjectInstance inst.objectId inst.instanceId = none := by
  induction objectIds generalizing d with
  | nil => exact ⟨List.nodup_nil, fun inst hmem => nomatch hmem⟩
  | cons objectId objectIds ih =>
    obtain ⟨hcreates, hsuffix⟩ := ipsoCreateNextFreeObjectInstance_creates h objectId
    obtain ⟨hnodup, hfresh⟩ := ih (succeeds_of_suffix h hsuffix)
    unfold createInstances
    generalize ipsoCreateNextFreeObjectInstance d objectId = r at hcreates hnodup hfresh ⊢
    obtain ⟨created, d₁⟩ := r
    cases created with
    | none =>
      obtain ⟨-, hsame⟩ := hcreates
      rw [hsame] at hfresh
      exact ⟨hnodup, hfresh⟩
    | some inst =>
      obtain ⟨rfl, -, hfree, -, hfind⟩ := hcreates
      rw [List.reduceOption_cons_of_some]
      -- the instance of this call is on the device that the others start from
      have hnew : inst ∉ (createInstances d₁ objectIds).1.reduceOption := by
        intro hmem
        have hnone := hfresh inst hmem
        rw [hfind, if_pos ⟨rfl, rfl⟩] at hnone
        cases hnone
      refine ⟨List.nodup_cons.mpr ⟨hnew, hnodup⟩, fun other hmem => ?_⟩
      rcases List.mem_cons.mp hmem with rfl | hmem
      · exact hfree
      · have hnone := hfresh other hmem
        rw [hfind] at hnone
        split at hnone
        · cases hnone
        · exact hnone

/-- **Instance allocation.**  The search ends with the least id that is free; each call of a
sequence adds the instance with that id, a new one, and fails only when none is free. -/
theorem instances_leastFree :
    (∀ (object : Object) (fuel : Nat), 65536 ≤ fuel →
      nextFreeObjectInstanceIdLoop object fuel 0 = some (ipsoGetNextFreeObjectInstanceId object) ∧
        LeastFreeId object (ipsoGetNextFreeObjectInstanceId object)) ∧
    ∀ (d₀ : Device) (objectIds : List UInt16), true ∉ d₀.faults →
      (createInstances d₀ objectIds).1.reduceOption.Nodup ∧
      let d := (createInstances d₀ objectIds).2
      ∀ objectId, CreatesInstance d objectId (ipsoCreateNextFreeObjectInstance d objectId) := by
  refine ⟨fun object fuel hfuel => ⟨?_, ipsoGetNextFreeObjectInstanceId_least object⟩,
    fun d₀ objectIds h => ⟨(createInstances_fresh h objectIds).1, fun objectId => ?_⟩⟩
  · exact nextFreeObjectInstanceIdLoop_eq object hfuel
  · exact (ipsoCreateNextFreeObjectInstance_creates (createInstances_succeeds h objectIds)
      objectId).1

/-- three calls on a device that has nothing -/
theorem instances_leastFree_three :
    65536 ≤ 65536 ∧ nextFreeObjectInstanceIdLoop ∅ 65536 0 = some 0 ∧
    (createInstances ⟨∅, []⟩ [temperatureSensor, temperatureSensor, setPoint]).1 =
        [some ⟨temperatureSensor, 0⟩, some ⟨temperatureSensor, 1⟩, some ⟨setPoint, 0⟩] ∧
      let d := (createInstances ⟨∅, []⟩ [temperatureSensor, temperatureSensor, setPoint]).2
      CreatesInstance d setPoint (ipsoCreateNextFreeObjectInstance d setPoint) :=
  ⟨by decide, (instances_leastFree.1 ∅ 65536 (by decide)).1.trans
      (congrArg some ipsoGetNextFreeObjectInstanceId_empty), by decide,
    (instances_leastFree.2 ⟨∅, []⟩ [temperatureSensor, temperatureSensor, setPoint]
      (List.not_mem_nil)).2 setPoint⟩

end EdgeTranslators.Pt.V1
