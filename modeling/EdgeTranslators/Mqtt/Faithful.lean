import EdgeTranslators.Mqtt.Values

/-!
# Which values end up in which resources

The effect of an entry on the values of its device, as a function (`entered`), and what it means for
a whole message.

* `Faithful`                          every named resource has the value of the last entry naming it,
                                      and none has taken the value of another resource's entry;
* `Placed`                            the condition on the entries and the device;
* `valueMessage_faithful_iff`         the two are the same, for every well-formed message.
-/

namespace EdgeTranslators.Mqtt
open Lib Pt

/-! ## ids in range -/

def Entry.InRange (e : Entry) : Prop :=
  (0 ≤ e.objectId ∧ e.objectId < 65536) ∧ (0 ≤ e.objectInstance ∧ e.objectInstance < 65536) ∧
    0 ≤ e.resourceId ∧ e.resourceId < 65536

/-- a resource of a temperature or humidity sensor -/
def IsSensor (p : Path) : Prop := p.objectId = 3304 ∨ p.objectId = 3303

instance (p : Path) : Decidable (IsSensor p) := inferInstanceAs (Decidable (_ ∨ _))

/-- the value of the sensor a resource belongs to -/
def sensorValueOf (p : Path) : Path := { p with resourceId := 5700 }

/-- the resource that resets its minimum and maximum -/
def resetOf (p : Path) : Path := { p with resourceId := 5605 }

theorem toNat_ofInt {i : Int} (h : 0 ≤ i ∧ i < 65536) : (UInt16.ofInt i).toNat = i.toNat := by
  unfold UInt16.ofInt
  rw [UInt16.toNat_ofNat']
  omega

theorem Entry.InRange.isSensor_iff {e : Entry} (he : e.InRange) :
    IsSensor e.path ↔
      e.objectId = humiditySensorObject ∨ e.objectId = temperatureSensorObject := by
  have hobj := toNat_ofInt he.1
  have hlt := he.1
  have hval : ∀ n : UInt16, e.path.objectId = n ↔ e.objectId.toNat = n.toNat := fun n => by
    rw [← UInt16.toNat_inj]
    exact ⟨fun h => hobj.symm.trans h, fun h => hobj.trans h⟩
  unfold IsSensor humiditySensorObject temperatureSensorObject
  rw [hval, hval]
  have h4 : (3304 : UInt16).toNat = 3304 := rfl
  have h3 : (3303 : UInt16).toNat = 3303 := rfl
  omega

theorem idPath_sensorValue (e : Entry) :
    idPath e.objectId e.objectInstance 5700 = sensorValueOf e.path := rfl

theorem idPath_reset (e : Entry) :
    idPath e.objectId e.objectInstance 5605 = resetOf e.path := rfl

theorem sensorValueOf_ne_resetOf (p q : Path) : sensorValueOf p ≠ resetOf q := fun h =>
  absurd (congrArg Path.resourceId h) (show (5700 : UInt16) ≠ 5605 by decide)

theorem resetOf_eq_iff {p q : Path} : resetOf p = resetOf q ↔ sensorValueOf p = sensorValueOf q := by
  simp [resetOf, sensorValueOf]

/-! ## the effect of one entry -/

/-- the values after the creation of what an entry names -/
def created (p : Path) (v : Bytes) (f : Path → Option Bytes) : Path → Option Bytes :=
  if (f p).isSome then f
  else if IsSensor p then addValue (resetOf p) [] (addValue (sensorValueOf p) v f)
  else addValue p v f

/-- the values after an entry with value `v` for the resource `p` -/
def entered (p : Path) (v : Bytes) (f : Path → Option Bytes) : Path → Option Bytes :=
  setValue p v (created p v f)

/-- the resource is there, or its entry creates it -/
def Placeable (f : Path → Option Bytes) (p : Path) : Prop :=
  IsSensor p → p = sensorValueOf p ∨ p = resetOf p ∨ (f p).isSome

instance (f : Path → Option Bytes) (p : Path) : Decidable (Placeable f p) :=
  inferInstanceAs (Decidable (_ → _))

/-- the resources an entry for `p` creates besides -/
def Beside (p q : Path) (f : Path → Option Bytes) : Prop :=
  IsSensor p ∧ f p = none ∧ (q = sensorValueOf p ∨ q = resetOf p)

section
variable {p q : Path} {v : Bytes} {f : Path → Option Bytes}

theorem addValue_of_isSome (h : (f q).isSome) : addValue p v f q = f q := by
  unfold addValue
  split
  · rfl
  · refine Function.update_of_ne (fun hq => ?_) _ _
    subst hq
    contradiction

theorem addValue_self (hq : q = p) (h : f q = none) : addValue p v f q = some v := by
  subst hq
  unfold addValue
  rw [h, if_neg (by simp), Function.update_self]

theorem addValue_of_ne (h : q ≠ p) : addValue p v f q = f q := by
  unfold addValue
  split
  · rfl
  · exact Function.update_of_ne h _ _

theorem setValue_of_ne (h : q ≠ p) : setValue p v f q = f q := by
  unfold setValue
  split
  · exact Function.update_of_ne h _ _
  · rfl

theorem setValue_self : setValue p v f p = if (f p).isSome then some v else none := by
  unfold setValue
  split
  · exact Function.update_self _ _ _
  · rename_i h
    exact Option.not_isSome_iff_eq_none.mp h

/-- no entry removes or changes a resource when it creates -/
theorem created_of_isSome (h : (f q).isSome) : created p v f q = f q := by
  unfold created
  split
  · rfl
  split
  · have hq : addValue (sensorValueOf p) v f q = f q := addValue_of_isSome h
    rw [addValue_of_isSome (by rw [hq]; exact h), hq]
  · exact addValue_of_isSome h

theorem created_of_none (hq : f q = none) (hne : q ≠ p) (hb : ¬Beside p q f) :
    created p v f q = none := by
  unfold created
  split
  · exact hq
  rename_i hp
  split
  · rename_i hs
    have hside : ¬(q = sensorValueOf p ∨ q = resetOf p) := fun h =>
      hb ⟨hs, Option.not_isSome_iff_eq_none.mp hp, h⟩
    rw [not_or] at hside
    rw [addValue_of_ne hside.2, addValue_of_ne hside.1, hq]
  · rw [addValue_of_ne hne, hq]

theorem created_self_isSome_iff : (created p v f p).isSome ↔ Placeable f p := by
  unfold created Placeable
  split
  · rename_i hp
    exact ⟨fun _ _ => Or.inr (Or.inr hp), fun _ => hp⟩
  rename_i hp
  have hnone : f p = none := Option.not_isSome_iff_eq_none.mp hp
  split
  · rename_i hs
    by_cases hv : p = sensorValueOf p
    · have hsome : addValue (sensorValueOf p) v f p = some v := addValue_self hv hnone
      rw [addValue_of_isSome (by rw [hsome]; rfl), hsome]
      exact ⟨fun _ _ => Or.inl hv, fun _ => rfl⟩
    · have hsame : addValue (sensorValueOf p) v f p = none := by rw [addValue_of_ne hv, hnone]
      by_cases hr : p = resetOf p
      · rw [addValue_self hr hsame]
        exact ⟨fun _ _ => Or.inr (Or.inl hr), fun _ => rfl⟩
      · rw [addValue_of_ne hr, hsame]
        exact ⟨fun h => absurd h (by simp), fun h => absurd (h hs) (by simp [hv, hr, hnone])⟩
  · rename_i hs
    rw [addValue_self rfl hnone]
    exact ⟨fun _ h => absurd h hs, fun _ => rfl⟩

theorem entered_self : entered p v f p = if Placeable f p then some v else none := by
  unfold entered
  rw [setValue_self]
  by_cases h : Placeable f p
  · rw [if_pos h, if_pos (created_self_isSome_iff.mpr h)]
  · rw [if_neg h, if_neg (mt created_self_isSome_iff.mp h)]

theorem entered_of_isSome (h : (f q).isSome) (hne : q ≠ p) : entered p v f q = f q := by
  unfold entered
  rw [setValue_of_ne hne, created_of_isSome h]

theorem entered_isSome (h : (f q).isSome) : (entered p v f q).isSome := by
  by_cases hq : q = p
  · subst hq
    have hplace : Placeable f q := fun _ => Or.inr (Or.inr h)
    rw [entered_self, if_pos hplace]
    rfl
  · rw [entered_of_isSome h hq]
    exact h

theorem entered_of_none (hq : f q = none) (hne : q ≠ p) (hb : ¬Beside p q f) :
    entered p v f q = none := by
  unfold entered
  rw [setValue_of_ne hne, created_of_none hq hne hb]

end

/-- an entry for `p` puts its value into another resource, `q` -/
def Strays (p q : Path) (f : Path → Option Bytes) : Prop :=
  IsSensor p ∧ f p = none ∧ q = sensorValueOf p ∧ f q = none

theorem mem_ite_singleton {α : Type} {c : Prop} [Decidable c] {a b : α} :
    a ∈ (if c then [b] else []) ↔ c ∧ a = b := by
  split <;> simp [*]

section
variable {c : Client} {id : String} {e : Entry}

theorem createForEntry_spec (hr : Ready c id) (he : e.InRange) :
    Ready (createForEntry id c e).2.2 id ∧
      (createForEntry id c e).2.2.value id = created e.path (cBytes e.value) (c.value id) ∧
      ∀ q, q ≠ e.path → (q ∈ (createForEntry id c e).2.1 ↔ Strays e.path q (c.value id)) := by
  unfold createForEntry created Strays
  rw [deviceResourceExists_eq hr]
  by_cases hp : (c.value id e.path).isSome
  · rw [if_pos hp, if_pos hp]
    exact ⟨hr, rfl, fun q _ => by simp [Option.isSome_iff_ne_none.mp hp]⟩
  have hnone : c.value id e.path = none := Option.not_isSome_iff_eq_none.mp hp
  rw [if_neg hp, if_neg hp]
  by_cases hs : IsSensor e.path
  · rw [if_pos hs, if_pos (he.isSensor_iff.mp hs)]
    unfold mqttptCreateSensorObject
    rw [takeFault_of_nil hr.1]
    simp only [idPath_sensorValue, idPath_reset]
    have hr₁ := (deviceAddResource_grows c id (sensorValueOf e.path)
      ⟨.opaqueBytes, operationRead, cBytes e.value⟩).ready hr
    obtain ⟨hv₁, hs₁⟩ := deviceAddResource_value hr (sensorValueOf e.path)
      ⟨.opaqueBytes, operationRead, cBytes e.value⟩
    obtain ⟨hv₂, -⟩ := deviceAddResource_value hr₁ (resetOf e.path)
      ⟨.opaqueBytes, operationExecute, []⟩
    refine ⟨(deviceAddResource_grows _ id _ _).ready hr₁, by rw [hv₂, hv₁], fun q hq => ?_⟩
    refine mem_ite_singleton.trans ?_
    rw [hs₁]
    constructor
    · rintro ⟨hfree, rfl⟩
      exact ⟨hs, hnone, rfl, hfree⟩
    · rintro ⟨-, -, rfl, hfree⟩
      exact ⟨hfree, rfl⟩
  · rw [if_neg hs, if_neg (mt he.isSensor_iff.mpr hs)]
    unfold mqttptCreateObject
    rw [takeFault_of_nil hr.1]
    refine ⟨(deviceAddResource_grows _ id _ _).ready hr, (deviceAddResource_value hr _ _).1,
      fun q hq => ?_⟩
    refine mem_ite_singleton.trans ?_
    exact ⟨fun h => absurd h.2 hq, fun h => absurd h.1 hs⟩

theorem translateEntry_spec (hr : Ready c id) (he : e.InRange) :
    Ready (translateEntry id c e).1 id ∧
      (translateEntry id c e).1.value id = entered e.path (cBytes e.value) (c.value id) ∧
      ∀ q, q ≠ e.path → (q ∈ (translateEntry id c e).2 ↔ Strays e.path q (c.value id)) := by
  obtain ⟨hr₁, hv₁, hm₁⟩ := createForEntry_spec hr he
  unfold translateEntry entered
  refine ⟨(deviceSetResourceValue_grows _ id _ _).ready hr₁, ?_, fun q hq => ?_⟩
  · rw [← hv₁]
    exact (deviceSetResourceValue_value hr₁ _ _).1
  · rw [← hm₁ q hq]
    simp only
    split <;> simp [hq]

end

/-! ## a list of entries -/

/-- the values after a list of entries -/
def enteredAll (es : List Entry) (f : Path → Option Bytes) : Path → Option Bytes :=
  es.foldl (fun f e => entered e.path (cBytes e.value) f) f

theorem enteredAll_cons (e : Entry) (es : List Entry) (f : Path → Option Bytes) :
    enteredAll (e :: es) f = enteredAll es (entered e.path (cBytes e.value) f) := rfl

theorem translateEntries_spec {id : String} {es : List Entry} (hes : ∀ e ∈ es, e.InRange) {c : Client}
    (hr : Ready c id) :
    (translateEntries id c es).1.value id = enteredAll es (c.value id) ∧
      ∀ e q, q ≠ e.path → (⟨e, q⟩ ∈ (translateEntries id c es).2 ↔
        ∃ pre suf, es = pre ++ e :: suf ∧ Strays e.path q (enteredAll pre (c.value id))) := by
  induction es generalizing c with
  | nil => exact ⟨rfl, fun e q _ => by simp [translateEntries]⟩
  | cons e es ih =>
    obtain ⟨hr₁, hv₁, hm₁⟩ := translateEntry_spec hr (hes e List.mem_cons_self)
    obtain ⟨hv, hm⟩ := ih (fun e' he' => hes e' (List.mem_cons_of_mem _ he')) hr₁
    refine ⟨?_, fun e' q hq => ?_⟩
    · rw [enteredAll_cons, ← hv₁]
      exact hv
    · have hmem : ⟨e', q⟩ ∈ (translateEntries id c (e :: es)).2 ↔
          (e = e' ∧ q ∈ (translateEntry id c e).2) ∨
            ⟨e', q⟩ ∈ (translateEntries id (translateEntry id c e).1 es).2 := by
        simp [translateEntries, List.mem_append, and_comm]
      rw [hmem, hm e' q hq, hv₁]
      constructor
      · rintro (⟨rfl, hin⟩ | ⟨pre, suf, rfl, hstray⟩)
        · exact ⟨[], es, rfl, (hm₁ q hq).mp hin⟩
        · exact ⟨e :: pre, suf, rfl, hstray⟩
      · rintro ⟨_ | ⟨e₀, pre⟩, suf, heq, hstray⟩
        · cases heq
          exact Or.inl ⟨rfl, (hm₁ q hq).mpr hstray⟩
        · cases heq
          exact Or.inr ⟨pre, suf, rfl, hstray⟩

/-- the value of the last entry that names a resource -/
def lastValue (es : List Entry) (p : Path) : Option Bytes :=
  (es.reverse.find? fun e => e.path = p).map fun e => cBytes e.value

theorem lastValue_cons (e : Entry) (es : List Entry) (p : Path) :
    lastValue (e :: es) p =
      (lastValue es p).or (if e.path = p then some (cBytes e.value) else none) := by
  unfold lastValue
  rw [List.reverse_cons, List.find?_append, Option.map_or]
  congr 1
  by_cases h : e.path = p <;> simp [h]

theorem lastValue_isSome_iff (es : List Entry) (p : Path) :
    (lastValue es p).isSome ↔ ∃ e ∈ es, e.path = p := by
  unfold lastValue
  rw [Option.isSome_map, List.find?_isSome]
  simp

section
variable {es : List Entry} {f : Path → Option Bytes} {p : Path}

theorem enteredAll_isSome (h : (f p).isSome) : (enteredAll es f p).isSome := by
  induction es generalizing f with
  | nil => exact h
  | cons e es ih => exact ih (entered_isSome h)

theorem enteredAll_unnamed (h : (f p).isSome) (hno : ∀ e ∈ es, e.path ≠ p) :
    enteredAll es f p = f p := by
  induction es generalizing f with
  | nil => rfl
  | cons e es ih =>
    have hsame : entered e.path (cBytes e.value) f p = f p :=
      entered_of_isSome h (hno e List.mem_cons_self).symm
    rw [enteredAll_cons, ih (hsame ▸ h) fun e' he' => hno e' (List.mem_cons_of_mem _ he'), hsame]

/-- a resource that may be placed has the value of the last entry -/
theorem enteredAll_named (hplace : Placeable f p) (hnamed : ∃ e ∈ es, e.path = p) :
    enteredAll es f p = lastValue es p := by
  induction es generalizing f with
  | nil => simp at hnamed
  | cons e es ih =>
    rw [enteredAll_cons, lastValue_cons]
    by_cases htail : ∃ e' ∈ es, e'.path = p
    · have hplace' : Placeable (entered e.path (cBytes e.value) f) p := fun hs =>
        (hplace hs).imp_right (Or.imp_right entered_isSome)
      obtain ⟨v, hv⟩ := Option.isSome_iff_exists.mp ((lastValue_isSome_iff es p).mpr htail)
      rw [ih hplace' htail, hv, Option.some_or]
    · have hhead : e.path = p := by
        obtain ⟨e', he', hp⟩ := hnamed
        rcases List.mem_cons.mp he' with rfl | he'
        · exact hp
        · exact absurd ⟨e', he', hp⟩ htail
      have hnone : lastValue es p = none :=
        Option.not_isSome_iff_eq_none.mp (mt (lastValue_isSome_iff es p).mp htail)
      have hself : entered e.path (cBytes e.value) f p = some (cBytes e.value) := by
        subst hhead
        rw [entered_self, if_pos hplace]
      rw [enteredAll_unnamed (by rw [hself]; rfl) fun e' he' hp => htail ⟨e', he', hp⟩, hself, hnone,
        Option.none_or, if_pos hhead]

/-- a sensor's resource that no entry creates stays away -/
theorem not_placeable_entered {q : Path} {v : Bytes} (h : ¬Placeable f p) :
    ¬Placeable (entered q v f) p := by
  unfold Placeable at h
  rw [Classical.not_imp, not_or, not_or, Option.not_isSome_iff_eq_none] at h
  obtain ⟨hs, hv, hr, hnone⟩ := h
  have hgone : entered q v f p = none := by
    by_cases hpq : p = q
    · subst hpq
      rw [entered_self, if_neg fun h => ?_]
      rcases h hs with h | h | h
      · exact hv h
      · exact hr h
      · simp [hnone] at h
    · refine entered_of_none hnone hpq fun hb => ?_
      rcases hb.2.2 with rfl | rfl
      · exact hv rfl
      · exact hr rfl
  intro h
  rcases h hs with h | h | h
  · exact hv h
  · exact hr h
  · simp [hgone] at h

theorem enteredAll_unplaceable (h : ¬Placeable f p) : enteredAll es f p = none := by
  induction es generalizing f with
  | nil =>
    refine Option.not_isSome_iff_eq_none.mp fun hp => h fun _ => Or.inr (Or.inr hp)
  | cons e es ih => exact ih (not_placeable_entered h)

/-- **Every named resource has its last value exactly when each may be placed.** -/
theorem enteredAll_eq_lastValue_iff :
    (∀ e ∈ es, enteredAll es f e.path = lastValue es e.path) ↔ ∀ e ∈ es, Placeable f e.path := by
  refine forall₂_congr fun e he => ?_
  constructor
  · intro heq
    by_contra h
    have hsome := (lastValue_isSome_iff es e.path).mpr ⟨e, he, rfl⟩
    rw [← heq, enteredAll_unplaceable h] at hsome
    cases hsome
  · exact fun h => enteredAll_named h ⟨e, he, rfl⟩

/-- when all may be placed, a resource of a sensor is missing as long as no entry names the sensor's
value or reset -/
theorem enteredAll_eq_none_iff (hplace : ∀ e ∈ es, Placeable f e.path) :
    enteredAll es f (sensorValueOf p) = none ∧ enteredAll es f (resetOf p) = none ↔
      f (sensorValueOf p) = none ∧ f (resetOf p) = none ∧
        ∀ e ∈ es, e.path ≠ sensorValueOf p ∧ e.path ≠ resetOf p := by
  constructor
  · rintro ⟨hv, hr⟩
    have hgone : ∀ q, enteredAll es f q = none → f q = none := fun q hq =>
      Option.not_isSome_iff_eq_none.mp fun h => by
        have hsome : (enteredAll es f q).isSome := enteredAll_isSome h
        simp [hq] at hsome
    refine ⟨hgone _ hv, hgone _ hr, fun e he => ⟨fun heq => ?_, fun heq => ?_⟩⟩
    · have hlast := (lastValue_isSome_iff es (sensorValueOf p)).mpr ⟨e, he, heq⟩
      rw [← enteredAll_named (fun _ => Or.inl rfl) ⟨e, he, heq⟩, hv] at hlast
      cases hlast
    · have hlast := (lastValue_isSome_iff es (resetOf p)).mpr ⟨e, he, heq⟩
      rw [← enteredAll_named (fun _ => Or.inr (Or.inl rfl)) ⟨e, he, heq⟩, hr] at hlast
      cases hlast
  · rintro ⟨hv, hr, hno⟩
    induction es generalizing f with
    | nil => exact ⟨hv, hr⟩
    | cons e es ih =>
      obtain ⟨hnv, hnr⟩ := hno e List.mem_cons_self
      -- an entry that created one of the two would name the other or itself be missing
      have hside : ∀ q, q = sensorValueOf p ∨ q = resetOf p → ¬Beside e.path q f := by
        rintro q hq ⟨hse, hmiss, hor⟩
        have hsv : sensorValueOf p = sensorValueOf e.path := by
          rcases hq with rfl | rfl <;> rcases hor with h | h
          · exact h
          · exact absurd h (sensorValueOf_ne_resetOf p e.path)
          · exact absurd h.symm (sensorValueOf_ne_resetOf e.path p)
          · exact resetOf_eq_iff.mp h
        have hrs : resetOf p = resetOf e.path := resetOf_eq_iff.mpr hsv
        rcases hplace e List.mem_cons_self hse with h | h | h
        · exact hnv (h.trans hsv.symm)
        · exact hnr (h.trans hrs.symm)
        · simp [hmiss] at h
      refine ih (fun e' he' hs' => ?_) (entered_of_none hv hnv.symm (hside _ (Or.inl rfl)))
        (entered_of_none hr hnr.symm (hside _ (Or.inr rfl)))
        fun e' he' => hno e' (List.mem_cons_of_mem _ he')
      exact (hplace e' (List.mem_cons_of_mem _ he') hs').imp_right (Or.imp_right entered_isSome)

end

/-! ## a message -/

/-- every named resource has the value of the last entry naming it, and no resource that is named by
the message or was named `earlier` has taken the value of an entry that names another -/
structure Faithful (deveui : String) (earlier : Path → Prop) (es : List Entry) (h : Handled) :
    Prop where
  value : ∀ e ∈ es, h.translator.client.value deveui e.path = lastValue es e.path
  own : ∀ receipt ∈ h.receipts, receipt.resource ≠ receipt.entry.path →
    ¬earlier receipt.resource ∧ ∀ e ∈ es, e.path ≠ receipt.resource

/-- the entries for a sensor name its value, its reset or what it has already, and where its reset
comes first its value is not named at all -/
structure Placed (present : Path → Prop) (earlier : Path → Prop) (es : List Entry) : Prop where
  named : ∀ e ∈ es, IsSensor e.path →
    e.path = sensorValueOf e.path ∨ e.path = resetOf e.path ∨ present e.path
  first : ∀ pre e suf, es = pre ++ e :: suf → IsSensor e.path → e.path = resetOf e.path →
    ¬present (sensorValueOf e.path) → ¬present (resetOf e.path) →
    (∀ e' ∈ pre, e'.path ≠ sensorValueOf e.path ∧ e'.path ≠ resetOf e.path) →
    ¬earlier (sensorValueOf e.path) ∧ ∀ e' ∈ suf, e'.path ≠ sensorValueOf e.path

/-- the stray values of a list of entries, when all may be placed -/
theorem strays_iff {es : List Entry} {f : Path → Option Bytes} {e : Entry} {q : Path}
    (hplace : ∀ e' ∈ es, Placeable f e'.path) (he : Placeable f e.path) (hq : q ≠ e.path) :
    Strays e.path q (enteredAll es f) ↔
      IsSensor e.path ∧ e.path = resetOf e.path ∧ q = sensorValueOf e.path ∧
        f (sensorValueOf e.path) = none ∧ f (resetOf e.path) = none ∧
        ∀ e' ∈ es, e'.path ≠ sensorValueOf e.path ∧ e'.path ≠ resetOf e.path := by
  constructor
  · rintro ⟨hs, hmiss, rfl, hv⟩
    have hreset : e.path = resetOf e.path := by
      rcases he hs with h | h | h
      · exact absurd h.symm hq
      · exact h
      · have hsome : (enteredAll es f e.path).isSome := enteredAll_isSome h
        simp [hmiss] at hsome
    rw [hreset] at hmiss
    exact ⟨hs, hreset, rfl, (enteredAll_eq_none_iff hplace).mp ⟨hv, hmiss⟩⟩
  · rintro ⟨hs, hreset, rfl, hnone⟩
    obtain ⟨hv, hmiss⟩ := (enteredAll_eq_none_iff hplace).mpr hnone
    rw [← hreset] at hmiss
    exact ⟨hs, hmiss, rfl, hv⟩

theorem faithful_iff_placed {deveui : String} {earlier : Path → Prop} {es : List Entry}
    {h : Handled} {f : Path → Option Bytes}
    (hvalue : h.translator.client.value deveui = enteredAll es f)
    (hreceipts : ∀ e q, q ≠ e.path → (⟨e, q⟩ ∈ h.receipts ↔
      ∃ pre suf, es = pre ++ e :: suf ∧ Strays e.path q (enteredAll pre f))) :
    Faithful deveui earlier es h ↔ Placed (fun p => (f p).isSome) earlier es := by
  constructor
  · intro hf
    have hplace : ∀ e ∈ es, Placeable f e.path :=
      enteredAll_eq_lastValue_iff.mp fun e he => hvalue ▸ hf.value e he
    refine ⟨hplace, fun pre e suf hes hs hreset hv hr hpre => ?_⟩
    have hne : sensorValueOf e.path ≠ e.path := by
      intro heq
      exact sensorValueOf_ne_resetOf e.path e.path (heq.trans hreset)
    have hpre' : ∀ e' ∈ pre, Placeable f e'.path := fun e' he' =>
      hplace e' (hes ▸ List.mem_append_left _ he')
    have hmem := (hreceipts e (sensorValueOf e.path) hne).mpr ⟨pre, suf, hes,
      (strays_iff hpre' (hplace e (hes ▸ by simp)) hne).mpr
        ⟨hs, hreset, rfl, Option.not_isSome_iff_eq_none.mp hv,
          Option.not_isSome_iff_eq_none.mp hr, hpre⟩⟩
    obtain ⟨hearlier, hno⟩ := hf.own _ hmem hne
    exact ⟨hearlier, fun e' he' => hno e' (hes ▸ by simp [he'])⟩
  · rintro ⟨hplace, hfirst⟩
    refine ⟨fun e he => ?_, ?_⟩
    · rw [hvalue]
      exact enteredAll_eq_lastValue_iff.mpr hplace e he
    · rintro ⟨e, q⟩ hmem hne
      obtain ⟨pre, suf, hes, hstray⟩ := (hreceipts e q hne).mp hmem
      have hpre : ∀ e' ∈ pre, Placeable f e'.path := fun e' he' =>
        hplace e' (hes ▸ List.mem_append_left _ he')
      obtain ⟨hs, hreset, rfl, hv, hr, hno⟩ :=
        (strays_iff hpre (hplace e (hes ▸ by simp)) hne).mp hstray
      obtain ⟨hearlier, hsuf⟩ := hfirst pre e suf hes hs hreset (by simp [hv]) (by simp [hr]) hno
      refine ⟨hearlier, fun e' he' => ?_⟩
      rw [hes] at he'
      rcases List.mem_append.mp he' with he' | he'
      · exact (hno e' he').1
      rcases List.mem_cons.mp he' with rfl | he'
      · exact hne.symm
      · exact hsuf e' he'

/-! ## well-formed messages -/

/-- a decimal in `0..65535` -/
def IsId (s : String) : Prop :=
  s.toList ≠ [] ∧ s.toList.all Char.isDigit ∧ digitsValue s.toList < 65536

instance (s : String) : Decidable (IsId s) := inferInstanceAs (Decidable (_ ∧ _ ∧ _))

section
variable {ν : Type}

/-- an array of ten strings with ids where they belong -/
def WellFormedArray (item : Json ν) : Prop :=
  ∃ a₀ a₁ value a₃ a₄ a₅ objectId objectInstance resourceId operations : String,
    item = .array ([a₀, a₁, value, a₃, a₄, a₅, objectId, objectInstance, resourceId,
      operations].map .string) ∧
    IsId objectId ∧ IsId objectInstance ∧ IsId resourceId

theorem takeWhile_eq_self {α : Type} {p : α → Bool} {l : List α} (h : ∀ a ∈ l, p a) :
    l.takeWhile p = l := by
  induction l with
  | nil => rfl
  | cons a l ih =>
    rw [List.takeWhile_cons_of_pos (h a List.mem_cons_self),
      ih fun b hb => h b (List.mem_cons_of_mem _ hb)]

theorem isSpace_of_isDigit {ch : Char} (h : ch.isDigit) : isSpace ch = false := by
  unfold isSpace
  rw [decide_eq_false_iff_not]
  rintro (rfl | ⟨-, hle⟩)
  · exact absurd h (by decide)
  · have hge : '0'.val ≤ ch.val := (by simpa [Char.isDigit] using h : _ ∧ _).1
    exact absurd (UInt32.le_trans hge hle) (by decide)

theorem IsId.atoi {s : String} (h : IsId s) : atoi s = digitsValue s.toList := by
  obtain ⟨hne, hdigits, -⟩ := h
  unfold Mqtt.atoi digitsPrefix
  cases hs : s.toList with
  | nil => exact absurd hs hne
  | cons ch cs =>
    rw [hs, List.all_eq_true] at hdigits
    have hch := hdigits ch List.mem_cons_self
    rw [List.dropWhile_cons_of_neg (by simp [isSpace_of_isDigit hch])]
    split
    · rename_i heq
      cases heq
      exact absurd hch (by decide)
    · rename_i heq
      cases heq
      exact absurd hch (by decide)
    · rw [takeWhile_eq_self hdigits]

theorem IsId.inRange {s : String} (h : IsId s) : 0 ≤ Mqtt.atoi s ∧ Mqtt.atoi s < 65536 := by
  rw [h.atoi]
  have hlt := h.2.2
  omega

/-- the loop reads an entry in range from a well-formed array -/
theorem WellFormedArray.entry {item : Json ν} (h : WellFormedArray item) :
    item.items.length = 10 ∧ ∃ e, Entry.ofArray item.items = some e ∧ e.InRange := by
  obtain ⟨a₀, a₁, value, a₃, a₄, a₅, objectId, objectInstance, resourceId, operations, rfl, ho, hi,
    hr⟩ := h
  exact ⟨rfl, _, rfl, ho.inRange, hi.inRange, hr.inRange⟩

theorem payloadEntries_wellFormed {items : List (Json ν)} (h : ∀ item ∈ items, WellFormedArray item) :
    ∃ es, payloadEntries items = some es ∧
      (items.map fun item => Entry.ofArray item.items) = es.map some ∧ ∀ e ∈ es, e.InRange := by
  induction items with
  | nil => exact ⟨[], rfl, rfl, nofun⟩
  | cons item items ih =>
    obtain ⟨es, hes, hmap, hrange⟩ := ih fun i hi => h i (List.mem_cons_of_mem _ hi)
    obtain ⟨hlen, e, he, herange⟩ := (h item List.mem_cons_self).entry
    refine ⟨e :: es, ?_, by rw [List.map_cons, List.map_cons, he, hmap], ?_⟩
    · unfold payloadEntries
      rw [if_neg (by simp [hlen]), he, hes]
      rfl
    · rintro e' (_ | ⟨_, he'⟩)
      · exact herange
      · exact hrange e' he'

/-- the translator has started and nothing fails -/
def Translator.Running (t : Translator) : Prop :=
  t.started = true ∧ t.client.connection.isSome ∧ t.client.faults = []

/-- the device object of a message, made if it does not exist, has the values it had -/
theorem deviceObject_ready {c : Client} (deveui : String) (hc : c.connection.isSome)
    (hf : c.faults = []) :
    ∃ c', (if deviceExists c deveui then (true, c)
        else
          let (status, client) := deviceCreate c deveui true
          (decide (status = .success), client)) = (true, c') ∧
      Ready c' deveui ∧ c'.value deveui = c.value deveui := by
  by_cases hex : deviceExists c deveui = true
  · exact ⟨c, if_pos hex, ⟨hf, hex⟩, rfl⟩
  · obtain ⟨hsuccess, hexists, hvalue⟩ :=
      Client.api_lawful.create_keeps_value hc (Bool.not_eq_true _ ▸ hex)
    refine ⟨(deviceCreate c deveui true).2, ?_, ⟨(deviceCreate_faults c deveui true).trans hf,
      hexists⟩, hvalue⟩
    rw [if_neg hex]
    exact Prod.ext (decide_eq_true hsuccess) rfl

/-- **A well-formed message is translated faithfully exactly when its entries are placed.** -/
theorem valueMessage_faithful_iff {jsonLoads : String → Option (Json ν)} {t : Translator}
    (ht : t.Running) (earlier : Path → Prop) (gweui deveui payload : String) {json : Json ν}
    {items : List (Json ν)} (hjson : jsonLoads payload = some json)
    (hfield : json.get "payload_field" = some (.array items))
    (hwf : ∀ item ∈ items, WellFormedArray item) :
    ∃ es h, (items.map fun item => Entry.ofArray item.items) = es.map some ∧
      mqttptTranslateNodeValueMessage jsonLoads true t (some gweui) (some deveui) (some payload)
        = some h ∧
      (Faithful deveui earlier es h ↔
        Placed (fun p => (t.client.value deveui p).isSome) earlier es) := by
  obtain ⟨es, hes, hmap, hrange⟩ := payloadEntries_wellFormed hwf
  obtain ⟨c, hc, hready, hsame⟩ := deviceObject_ready deveui ht.2.1 ht.2.2
  obtain ⟨hvalue, hreceipts⟩ := translateEntries_spec hrange hready
  rw [hsame] at hvalue hreceipts
  have hhandled : mqttptTranslateNodeValueMessage jsonLoads true t (some gweui) (some deveui)
      (some payload) = some
        ⟨{ t with
            client := (translateEntries deveui c es).1
            requests :=
              if items = [] then t.requests
              else if deveui ∈ t.devices then t.requests ++ [.writeValues deveui]
              else t.requests ++ [.register deveui] },
          (translateEntries deveui c es).2⟩ := by
    unfold mqttptTranslateNodeValueMessage
    rw [if_neg (by simp [ht.1])]
    simp only [hjson, Option.bind_some, hfield]
    rw [hc]
    simp only [Json.items, hes]
    rfl
  exact ⟨es, _, hmap, hhandled, faithful_iff_placed hvalue hreceipts⟩

end

/-! ## two messages for a new device -/

/-- a connected translator without devices -/
def idleTranslator : Translator :=
  { started := true, client := ⟨some 1, ∅, [], []⟩, devices := [], requests := [] }

/-- the items of a message about one resource of the humidity sensor `/3304/0` -/
def humidityItems (value resourceId : String) : List (Json Unit) :=
  [.array (["VALUE", "Humidity", value, "%", "0", "100", "3304", "0", resourceId, "5"].map .string)]

/-- the message as JSON text -/
def humidityText (value resourceId : String) : String :=
  "\x7b\"payload_field\":[[\"VALUE\",\"Humidity\",\"" ++ value ++
    "\",\"%\",\"0\",\"100\",\"3304\",\"0\",\"" ++ resourceId ++ "\",\"5\"]]\x7d"

/-- the parser on that text -/
def parseHumidity (value resourceId text : String) : Option (Json Unit) :=
  if text = humidityText value resourceId then
    some (.object [("payload_field", .array (humidityItems value resourceId))])
  else none

theorem humidityItems_wellFormed (value : String) {resourceId : String} (h : IsId resourceId) :
    ∀ item ∈ humidityItems value resourceId, WellFormedArray item := fun item hitem =>
  ⟨"VALUE", "Humidity", value, "%", "0", "100", "3304", "0", resourceId, "5",
    List.mem_singleton.mp hitem, by decide +kernel, by decide +kernel, h⟩

theorem valueMessage_faithful_iff_humidity :
    ∃ es h, ((humidityItems "64.52" "5700").map fun item => Entry.ofArray item.items)
        = es.map some ∧
      mqttptTranslateNodeValueMessage (parseHumidity "64.52" "5700") true idleTranslator (some "gw")
        (some "node") (some (humidityText "64.52" "5700")) = some h ∧
      (Faithful "node" (fun _ => False) es h ↔
        Placed (fun p => (idleTranslator.client.value "node" p).isSome) (fun _ => False) es) :=
  valueMessage_faithful_iff ⟨rfl, rfl, rfl⟩ (fun _ => False) "gw" "node"
    (humidityText "64.52" "5700") (if_pos rfl) rfl
    (humidityItems_wellFormed "64.52" (by decide +kernel))

/-- the units of the sensor, resource 5701, are not created -/
theorem not_valueMessage_faithful_units :
    ¬∀ (jsonLoads : String → Option (Json Unit)) (t : Translator) (earlier : Path → Prop)
        (gweui deveui payload : String) (json : Json Unit) (items : List (Json Unit)),
        t.Running → jsonLoads payload = some json →
        json.get "payload_field" = some (.array items) → (∀ item ∈ items, WellFormedArray item) →
        ∃ es h, (items.map fun item => Entry.ofArray item.items) = es.map some ∧
          mqttptTranslateNodeValueMessage jsonLoads true t (some gweui) (some deveui)
            (some payload) = some h ∧ Faithful deveui earlier es h := by
  intro hall
  obtain ⟨es, h, hes, hh, hfaithful⟩ := hall (parseHumidity "%" "5701") idleTranslator
    (fun _ => False) "gw" "node" (humidityText "%" "5701") _ (humidityItems "%" "5701")
    ⟨rfl, rfl, rfl⟩ (if_pos rfl) rfl (humidityItems_wellFormed "%" (by decide +kernel))
  have hmissing : (mqttptTranslateNodeValueMessage (parseHumidity "%" "5701") true idleTranslator
      (some "gw") (some "node") (some (humidityText "%" "5701"))).map
        (fun h => h.translator.client.value "node" (idPath 3304 0 5701)) = some none := by
    decide +kernel
  obtain ⟨e, he, hpath⟩ : ∃ e ∈ es, e.path = idPath 3304 0 5701 := by
    refine ⟨⟨"%", 3304, 0, 5701, 5⟩, ?_, rfl⟩
    rw [← List.mem_map_of_injective (Option.some_injective Entry), ← hes]
    decide +kernel
  have hvalue := hfaithful.value e he
  rw [hh, Option.map_some, Option.some_inj] at hmissing
  rw [hpath, hmissing] at hvalue
  have hlast := (lastValue_isSome_iff es (idPath 3304 0 5701)).mpr ⟨e, he, hpath⟩
  rw [← hvalue] at hlast
  cases hlast

end EdgeTranslators.Mqtt
