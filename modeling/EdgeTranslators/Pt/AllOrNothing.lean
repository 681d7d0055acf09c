import EdgeTranslators.Pt.MinMax

/-!
# Failures while the minimum and the maximum change

Allocations and calls may fail at any point of `ipso_reset_min_max_object` and
`ipso_update_min_max_fields`.  Each of the two should either do all it is called for and say so, or
do nothing and say that.

* `…_spec`                        what an operation does, from the outcomes of what it calls;
* `ResetAtomic`, `UpdateAtomic`   the property, of one operation on one client;
* `resetAtomic_iff`               a reset has it unless the second allocation fails after the first
                                  call went well, or a call fails and is not noticed;
* `updateAtomic_iff`              an update likewise, where it moves a bound.
-/

namespace EdgeTranslators.Pt
open Lib

/-- the resource exists, and the `i`-th of the coming calls does not fail -/
def Client.settable (c : Client) (id : String) (i : Nat) (p : Path) : Bool :=
  !c.fault i && deviceResourceExists c id p

/-- the values of a device after a call that sets a resource, if it goes well -/
def settled (applied : Bool) (p : Path) (v : Bytes) (f : Path → Option Bytes) :
    Path → Option Bytes :=
  if applied then Function.update f p (some v) else f

theorem settled_self (applied : Bool) (p : Path) (v : Bytes) (f : Path → Option Bytes) :
    settled applied p v f p = if applied then some v else f p := by
  cases applied with
  | false => rfl
  | true => exact Function.update_self ..

theorem settled_other (applied : Bool) {p q : Path} (h : q ≠ p) (v : Bytes)
    (f : Path → Option Bytes) : settled applied p v f q = f q := by
  cases applied with
  | false => rfl
  | true => exact Function.update_of_ne h _ _

section
variable (o : ByteOrder) (c : Client) (id : String) (objectId inst : UInt16)

/-! ## resets -/

/-- the values after the first call of a reset, and after the second -/
def resetMin : Path → Option Bytes :=
  settled (c.settable id 1 ⟨objectId, inst, minMeasuredValue⟩) ⟨objectId, inst, minMeasuredValue⟩
    (convertFloatValueToNetworkByteOrder o fltMax) (c.value id)

def resetMax : Path → Option Bytes :=
  settled (c.settable id 3 ⟨objectId, inst, maxMeasuredValue⟩) ⟨objectId, inst, maxMeasuredValue⟩
    (convertFloatValueToNetworkByteOrder o negFltMax) (resetMin o c id objectId inst)

/-- **What a reset does**, from the outcomes of its allocations and calls. -/
theorem ipsoResetMinMaxObject_spec :
    let r := ipsoResetMinMaxObject o c id objectId inst
    (r.1, r.2.value id) =
      if c.fault 0 then (.allocationFail, c.value id)
      else if c.fault 2 then (.allocationFail, resetMin o c id objectId inst)
      else (.success, resetMax o c id objectId inst) := by
  unfold ipsoResetMinMaxObject resetMax resetMin
  rw [takeFault_eq]
  cases c.fault 0 with
  | true => rfl
  | false =>
    obtain ⟨hfault, hexists, hvalue⟩ := deviceSetResourceValue_spec c.afterFault id
      ⟨objectId, inst, minMeasuredValue⟩ (convertFloatValueToNetworkByteOrder o fltMax)
    simp only
    generalize (deviceSetResourceValue c.afterFault id ⟨objectId, inst, minMeasuredValue⟩
      (convertFloatValueToNetworkByteOrder o fltMax)).2 = c₁ at hfault hexists hvalue ⊢
    have hmin : c₁.value id = settled (c.settable id 1 ⟨objectId, inst, minMeasuredValue⟩)
        ⟨objectId, inst, minMeasuredValue⟩ (convertFloatValueToNetworkByteOrder o fltMax)
          (c.value id) := by
      rw [hvalue]
      unfold Client.applies
      rw [afterFault_fault]
      rfl
    rw [takeFault_eq, hfault 0, afterFault_fault]
    cases c.fault 2 with
    | true => exact congrArg (Prod.mk Status.allocationFail) hmin
    | false =>
      obtain ⟨-, -, hvalue₂⟩ := deviceSetResourceValue_spec c₁.afterFault id
        ⟨objectId, inst, maxMeasuredValue⟩ (convertFloatValueToNetworkByteOrder o negFltMax)
      refine congrArg (Prod.mk Status.success) (hvalue₂.trans ?_)
      unfold Client.applies
      rw [afterFault_fault, hfault 1, afterFault_fault, afterFault_resourceExists, hexists,
        afterFault_value, hmin]
      rfl

/-- a reset that succeeds has written both resources, and one that does not has changed neither -/
structure ResetAtomic : Prop where
  success : (ipsoResetMinMaxObject o c id objectId inst).1 = .success →
    (ipsoResetMinMaxObject o c id objectId inst).2.value id ⟨objectId, inst, minMeasuredValue⟩
        = some (convertFloatValueToNetworkByteOrder o fltMax) ∧
      (ipsoResetMinMaxObject o c id objectId inst).2.value id ⟨objectId, inst, maxMeasuredValue⟩
        = some (convertFloatValueToNetworkByteOrder o negFltMax)
  failure : (ipsoResetMinMaxObject o c id objectId inst).1 ≠ .success →
    (ipsoResetMinMaxObject o c id objectId inst).2.value id ⟨objectId, inst, minMeasuredValue⟩
        = c.value id ⟨objectId, inst, minMeasuredValue⟩ ∧
      (ipsoResetMinMaxObject o c id objectId inst).2.value id ⟨objectId, inst, maxMeasuredValue⟩
        = c.value id ⟨objectId, inst, maxMeasuredValue⟩

theorem resetMax_min : resetMax o c id objectId inst ⟨objectId, inst, minMeasuredValue⟩
    = resetMin o c id objectId inst ⟨objectId, inst, minMeasuredValue⟩ :=
  settled_other _ (minMeasuredValue_ne objectId inst) _ _

theorem resetMin_max : resetMin o c id objectId inst ⟨objectId, inst, maxMeasuredValue⟩
    = c.value id ⟨objectId, inst, maxMeasuredValue⟩ :=
  settled_other _ (minMeasuredValue_ne objectId inst).symm _ _

/-- the first allocation fails, or the second fails and the minimum is as before, or both
allocations and calls go well; a call that fails does no harm to a resource that has its value
already -/
def ResetSafe : Prop :=
  c.fault 0 = true ∨
    (c.fault 2 = true ∧ (c.settable id 1 ⟨objectId, inst, minMeasuredValue⟩ = true →
      c.value id ⟨objectId, inst, minMeasuredValue⟩
        = some (convertFloatValueToNetworkByteOrder o fltMax))) ∨
    (c.fault 2 = false ∧
      (c.settable id 1 ⟨objectId, inst, minMeasuredValue⟩ = true ∨
        c.value id ⟨objectId, inst, minMeasuredValue⟩
          = some (convertFloatValueToNetworkByteOrder o fltMax)) ∧
      (c.settable id 3 ⟨objectId, inst, maxMeasuredValue⟩ = true ∨
        c.value id ⟨objectId, inst, maxMeasuredValue⟩
          = some (convertFloatValueToNetworkByteOrder o negFltMax)))

theorem resetAtomic_iff : ResetAtomic o c id objectId inst ↔ ResetSafe o c id objectId inst := by
  have hspec := ipsoResetMinMaxObject_spec o c id objectId inst
  have hmin : resetMin o c id objectId inst ⟨objectId, inst, minMeasuredValue⟩
      = if c.settable id 1 ⟨objectId, inst, minMeasuredValue⟩ then
          some (convertFloatValueToNetworkByteOrder o fltMax)
        else c.value id ⟨objectId, inst, minMeasuredValue⟩ := settled_self ..
  have hmax : resetMax o c id objectId inst ⟨objectId, inst, maxMeasuredValue⟩
      = if c.settable id 3 ⟨objectId, inst, maxMeasuredValue⟩ then
          some (convertFloatValueToNetworkByteOrder o negFltMax)
        else c.value id ⟨objectId, inst, maxMeasuredValue⟩ := by
    rw [← resetMin_max o c id objectId inst]
    exact settled_self ..
  have hatomic : ResetAtomic o c id objectId inst ↔ _ ∧ _ :=
    ⟨fun h => ⟨h.success, h.failure⟩, fun h => ⟨h.1, h.2⟩⟩
  rw [hatomic]
  clear hatomic
  unfold ResetSafe
  simp only at hspec
  generalize (ipsoResetMinMaxObject o c id objectId inst).1 = st at hspec ⊢
  generalize (ipsoResetMinMaxObject o c id objectId inst).2.value id = f at hspec ⊢
  cases h0 : c.fault 0 with
  | true =>
    rw [h0, if_pos rfl] at hspec
    obtain ⟨rfl, rfl⟩ := Prod.mk.inj hspec
    exact iff_of_true ⟨nofun, fun _ => ⟨rfl, rfl⟩⟩ (.inl rfl)
  | false =>
    rw [h0, if_neg Bool.false_ne_true] at hspec
    cases h2 : c.fault 2 with
    | true =>
      -- the minimum has been written, or its call has failed
      rw [h2, if_pos rfl] at hspec
      obtain ⟨rfl, rfl⟩ := Prod.mk.inj hspec
      rw [resetMin_max, hmin]
      cases c.settable id 1 ⟨objectId, inst, minMeasuredValue⟩ with
      | true => simpa using eq_comm
      | false => simp
    | false =>
      rw [h2, if_neg Bool.false_ne_true] at hspec
      obtain ⟨rfl, rfl⟩ := Prod.mk.inj hspec
      rw [resetMax_min, hmin, hmax]
      cases c.settable id 1 ⟨objectId, inst, minMeasuredValue⟩ <;>
        cases c.settable id 3 ⟨objectId, inst, maxMeasuredValue⟩ <;> simp

/-! ## updates -/

/-- both bounds can be read, and have a value -/
structure Readable : Prop where
  min : c.settable id 0 ⟨objectId, inst, minMeasuredValue⟩ = true
  max : c.settable id 1 ⟨objectId, inst, maxMeasuredValue⟩ = true
  minValue : c.value id ⟨objectId, inst, minMeasuredValue⟩ ≠ some []
  maxValue : c.value id ⟨objectId, inst, maxMeasuredValue⟩ ≠ some []

/-- the float in a resource, 0 if there is none -/
def bound (p : Path) : UInt32 := convertValueToHostOrderFloat o ((c.value id p).getD [])

/-- the new value is below the minimum, and above the maximum -/
def isBelow (newValue : UInt32) : Bool :=
  floatLt newValue (bound o c id ⟨objectId, inst, minMeasuredValue⟩)

def isAbove (newValue : UInt32) : Bool :=
  floatLt (bound o c id ⟨objectId, inst, maxMeasuredValue⟩) newValue

/-- half an update: an allocation and a call, if the bound is to move -/
theorem updateBound_spec {c : Client} {p : Path} (hexists : deviceResourceExists c id p = true)
    (beyond : Bool) (data : Bytes) :
    let r := updateBound c id p beyond data
    r.1 = !(beyond && c.fault 0) ∧
      r.2.value id = settled (beyond && !c.fault 0 && !c.fault 1) p data (c.value id) ∧
      (r.1 = true → ∀ i, r.2.fault i = c.fault (i + if beyond then 2 else 0)) ∧
      ∀ id' q, deviceResourceExists r.2 id' q = deviceResourceExists c id' q := by
  unfold updateBound
  cases beyond with
  | false => exact ⟨rfl, rfl, fun _ _ => rfl, fun _ _ => rfl⟩
  | true =>
    rw [if_pos rfl, takeFault_eq]
    cases h0 : c.fault 0 with
    | true => exact ⟨rfl, rfl, nofun, fun _ _ => rfl⟩
    | false =>
      obtain ⟨hfault, hsame, hvalue⟩ := deviceSetResourceValue_spec c.afterFault id p data
      refine ⟨rfl, hvalue.trans ?_, fun _ i => (hfault i).trans (afterFault_fault c (i + 1)), hsame⟩
      unfold Client.applies
      rw [afterFault_fault, afterFault_resourceExists, hexists, Bool.and_true]
      rfl

/-- an update that cannot read both bounds changes nothing, and is a success only where one of them
has no value -/
theorem ipsoUpdateMinMaxFields_unreadable (newValue : UInt32)
    (hunreadable : ¬Readable c id objectId inst) :
    let r := ipsoUpdateMinMaxFields o c id objectId inst newValue
    r.2.value id = c.value id ∧
      (r.1 = .success → c.value id ⟨objectId, inst, minMeasuredValue⟩ = some [] ∨
        c.value id ⟨objectId, inst, maxMeasuredValue⟩ = some []) := by
  unfold ipsoUpdateMinMaxFields
  rcases deviceGetResourceValue_cases c id ⟨objectId, inst, minMeasuredValue⟩ with
    ⟨hmin, b, hb, hget⟩ | ⟨-, st, hst, hget⟩
  · by_cases hempty : b = []
    · simp only [hget, Option.getD_some, hempty, or_true, if_true]
      exact ⟨rfl, fun _ => .inl (by rw [hb, hempty])⟩
    · simp only [hget, Option.getD_some, hempty, ne_eq, not_true_eq_false, or_self, if_false]
      rcases deviceGetResourceValue_cases c.afterFault id ⟨objectId, inst, maxMeasuredValue⟩ with
        ⟨hmax, b', hb', hget'⟩ | ⟨-, st, hst, hget'⟩
      · by_cases hempty' : b' = []
        · simp only [hget', Option.getD_some, hempty', or_true, if_true]
          exact ⟨rfl, fun _ => .inr (hb'.trans (by rw [hempty']))⟩
        · refine absurd ⟨hmin, ?_, ?_, ?_⟩ hunreadable
          · unfold Client.applies at hmax
            unfold Client.settable
            rwa [afterFault_fault] at hmax
          · rw [hb]
            exact fun h0 => hempty (Option.some.inj h0)
          · rw [show c.value id ⟨objectId, inst, maxMeasuredValue⟩ = some b' from hb']
            exact fun h0 => hempty' (Option.some.inj h0)
      · simp only [hget', hst, not_false_eq_true, true_or, if_true]
        exact ⟨rfl, False.elim⟩
  · simp only [hget, ne_eq, hst, not_false_eq_true, true_or, if_true]
    exact ⟨rfl, False.elim⟩

/-- where the allocations and the call for the maximum come, after those for the minimum -/
def afterMin (below : Bool) : Nat := if below then 4 else 2

/-- the values after the call for the minimum, and after that for the maximum -/
def updateMin (newValue : UInt32) : Path → Option Bytes :=
  settled (isBelow o c id objectId inst newValue && !c.fault 2 && !c.fault 3)
    ⟨objectId, inst, minMeasuredValue⟩ (convertFloatValueToNetworkByteOrder o newValue) (c.value id)

def updateMax (newValue : UInt32) : Path → Option Bytes :=
  let i := afterMin (isBelow o c id objectId inst newValue)
  settled (isAbove o c id objectId inst newValue && !c.fault i && !c.fault (i + 1))
    ⟨objectId, inst, maxMeasuredValue⟩ (convertFloatValueToNetworkByteOrder o newValue)
    (updateMin o c id objectId inst newValue)

/-- **What an update does**, when it can read both bounds. -/
theorem ipsoUpdateMinMaxFields_readable (newValue : UInt32)
    (hreadable : Readable c id objectId inst) :
    let r := ipsoUpdateMinMaxFields o c id objectId inst newValue
    let below := isBelow o c id objectId inst newValue
    (r.1, r.2.value id) =
      if below && c.fault 2 then (.allocationFail, c.value id)
      else if isAbove o c id objectId inst newValue && c.fault (afterMin below) then
        (.allocationFail, updateMin o c id objectId inst newValue)
      else (.success, updateMax o c id objectId inst newValue) := by
  have hsettable : ∀ (p : Path) (i : Nat), c.settable id i p = true →
      deviceResourceExists c id p = true := by
    intro p i hs
    unfold Client.settable at hs
    exact (Bool.and_eq_true_iff.mp hs).2
  have hmax₁ : c.afterFault.settable id 0 ⟨objectId, inst, maxMeasuredValue⟩ = true := by
    have hmax := hreadable.max
    unfold Client.settable at hmax ⊢
    rwa [afterFault_fault]
  unfold ipsoUpdateMinMaxFields updateMax updateMin isBelow isAbove bound
  rcases deviceGetResourceValue_cases c id ⟨objectId, inst, minMeasuredValue⟩ with
    ⟨-, b, hb, hget⟩ | ⟨hmin, -⟩
  swap
  · exact absurd (hmin.symm.trans hreadable.min) Bool.false_ne_true
  rcases deviceGetResourceValue_cases c.afterFault id ⟨objectId, inst, maxMeasuredValue⟩ with
    ⟨-, b', hb', hget'⟩ | ⟨hmax, -⟩
  swap
  · exact absurd (hmax.symm.trans hmax₁) Bool.false_ne_true
  have hvalue' : c.value id ⟨objectId, inst, maxMeasuredValue⟩ = some b' := hb'
  have hne : b ≠ [] := fun h0 => hreadable.minValue (by rw [hb, h0])
  have hne' : b' ≠ [] := fun h0 => hreadable.maxValue (by rw [hvalue', h0])
  simp only [hget, hget', hb, hvalue', Option.getD_some, hne, hne', ne_eq, not_true_eq_false,
    or_self, if_false]
  generalize floatLt newValue (convertValueToHostOrderFloat o b) = below
  generalize floatLt (convertValueToHostOrderFloat o b') newValue = above
  generalize convertFloatValueToNetworkByteOrder o newValue = data
  obtain ⟨hok₁, hval₁, hfault₁, hsame₁⟩ := updateBound_spec id (c := c.afterFault.afterFault)
    (p := ⟨objectId, inst, minMeasuredValue⟩) (hsettable _ _ hreadable.min) below data
  generalize updateBound c.afterFault.afterFault id ⟨objectId, inst, minMeasuredValue⟩ below data
    = r₁ at hok₁ hval₁ hfault₁ hsame₁ ⊢
  simp only [afterFault_fault, afterFault_value] at hok₁ hval₁ hfault₁
  obtain ⟨ok₁, c₁⟩ := r₁
  cases h2 : below && c.fault 2 with
  | true =>
    obtain ⟨rfl, h2'⟩ := Bool.and_eq_true_iff.mp h2
    rw [h2'] at hok₁ hval₁
    obtain rfl : ok₁ = false := hok₁
    exact congrArg (Prod.mk Status.allocationFail) hval₁
  | false =>
    rw [h2] at hok₁
    obtain rfl : ok₁ = true := hok₁
    have hexists₁ : deviceResourceExists c₁ id ⟨objectId, inst, maxMeasuredValue⟩ = true :=
      (hsame₁ id _).trans (hsettable _ _ hreadable.max)
    -- the second half comes after what the first has used up
    have hafter : ∀ i, c₁.fault i = c.fault (afterMin below + i) := by
      intro i
      rw [hfault₁ rfl i]
      unfold afterMin
      congr 1
      cases below <;> simp only [if_true, if_false, Bool.false_eq_true] <;> omega
    obtain ⟨hok₂, hval₂, -, -⟩ := updateBound_spec id hexists₁ above data
    rw [hafter, Nat.add_zero] at hok₂ hval₂
    rw [hafter] at hval₂
    simp only
    generalize updateBound c₁ id ⟨objectId, inst, maxMeasuredValue⟩ above data = r₂ at hok₂ hval₂ ⊢
    obtain ⟨ok₂, c₂⟩ := r₂
    have hmin₁ : c₁.value id = settled (below && !c.fault 2 && !c.fault 3)
        ⟨objectId, inst, minMeasuredValue⟩ data (c.value id) := hval₁
    cases h4 : above && c.fault (afterMin below) with
    | true =>
      obtain ⟨rfl, h4'⟩ := Bool.and_eq_true_iff.mp h4
      rw [h4'] at hok₂ hval₂
      obtain rfl : ok₂ = false := hok₂
      exact congrArg (Prod.mk Status.allocationFail) (hval₂.trans hmin₁)
    | false =>
      rw [h4] at hok₂
      obtain rfl : ok₂ = true := hok₂
      rw [hmin₁] at hval₂
      exact congrArg (Prod.mk Status.success) hval₂

/-- an update that succeeds has moved the bounds that the value is beyond, and one that does not
has changed neither; without two values to compare with it is called for nothing -/
structure UpdateAtomic (newValue : UInt32) : Prop where
  success : (ipsoUpdateMinMaxFields o c id objectId inst newValue).1 = .success →
    c.value id ⟨objectId, inst, minMeasuredValue⟩ ≠ some [] →
    c.value id ⟨objectId, inst, maxMeasuredValue⟩ ≠ some [] →
      (isBelow o c id objectId inst newValue = true →
        (ipsoUpdateMinMaxFields o c id objectId inst newValue).2.value id
          ⟨objectId, inst, minMeasuredValue⟩
            = some (convertFloatValueToNetworkByteOrder o newValue)) ∧
      (isAbove o c id objectId inst newValue = true →
        (ipsoUpdateMinMaxFields o c id objectId inst newValue).2.value id
          ⟨objectId, inst, maxMeasuredValue⟩
            = some (convertFloatValueToNetworkByteOrder o newValue))
  failure : (ipsoUpdateMinMaxFields o c id objectId inst newValue).1 ≠ .success →
    (ipsoUpdateMinMaxFields o c id objectId inst newValue).2.value id
        ⟨objectId, inst, minMeasuredValue⟩ = c.value id ⟨objectId, inst, minMeasuredValue⟩ ∧
      (ipsoUpdateMinMaxFields o c id objectId inst newValue).2.value id
        ⟨objectId, inst, maxMeasuredValue⟩ = c.value id ⟨objectId, inst, maxMeasuredValue⟩

/-- the bounds cannot both be read, or none is to move, or one is and its allocation fails or its
call goes well, or both are and everything goes well or nothing is written -/
def UpdateSafe (newValue : UInt32) : Prop :=
  ¬Readable c id objectId inst ∨
    match isBelow o c id objectId inst newValue, isAbove o c id objectId inst newValue with
    | false, false => True
    | true, true => c.fault 2 = true ∨ (c.fault 3 = true ∧ c.fault 4 = true) ∨
        (c.fault 3 = false ∧ c.fault 4 = false ∧ c.fault 5 = false)
    | _, _ => c.fault 2 = true ∨ c.fault 3 = false

/-- a value that is beyond a bound is not the bound -/
theorem isBelow_ne (newValue : UInt32) (h : isBelow o c id objectId inst newValue = true) :
    c.value id ⟨objectId, inst, minMeasuredValue⟩
      ≠ some (convertFloatValueToNetworkByteOrder o newValue) := by
  intro hvalue
  unfold isBelow bound at h
  rw [hvalue, Option.getD_some, convertValueToHostOrderFloat_convert, floatLt_self] at h
  cases h

theorem isAbove_ne (newValue : UInt32) (h : isAbove o c id objectId inst newValue = true) :
    c.value id ⟨objectId, inst, maxMeasuredValue⟩
      ≠ some (convertFloatValueToNetworkByteOrder o newValue) := by
  intro hvalue
  unfold isAbove bound at h
  rw [hvalue, Option.getD_some, convertValueToHostOrderFloat_convert, floatLt_self] at h
  cases h

theorem updateAtomic_iff (newValue : UInt32) :
    UpdateAtomic o c id objectId inst newValue ↔ UpdateSafe o c id objectId inst newValue := by
  by_cases hreadable : Readable c id objectId inst
  swap
  · obtain ⟨hsame, hempty⟩ := ipsoUpdateMinMaxFields_unreadable o c id objectId inst newValue
      hreadable
    refine iff_of_true ⟨fun hs hmin hmax => ?_, fun _ => ?_⟩ (.inl hreadable)
    · exact ((hempty hs).elim (fun h0 => hmin h0) fun h0 => hmax h0).elim
    · rw [hsame]
      exact ⟨rfl, rfl⟩
  have hspec := ipsoUpdateMinMaxFields_readable o c id objectId inst newValue hreadable
  have hbelow := isBelow_ne o c id objectId inst newValue
  have habove := isAbove_ne o c id objectId inst newValue
  have hne := minMeasuredValue_ne objectId inst
  have hminMin : updateMin o c id objectId inst newValue ⟨objectId, inst, minMeasuredValue⟩ = _ :=
    settled_self ..
  have hminMax : updateMin o c id objectId inst newValue ⟨objectId, inst, maxMeasuredValue⟩ = _ :=
    settled_other _ hne.symm _ _
  have hmaxMax : updateMax o c id objectId inst newValue ⟨objectId, inst, maxMeasuredValue⟩ = _ :=
    settled_self ..
  have hmaxMin : updateMax o c id objectId inst newValue ⟨objectId, inst, minMeasuredValue⟩ = _ :=
    settled_other _ hne _ _
  rw [hminMin] at hmaxMin
  rw [hminMax] at hmaxMax
  have hatomic : UpdateAtomic o c id objectId inst newValue ↔ _ ∧ _ :=
    ⟨fun h => ⟨fun hs => h.success hs hreadable.minValue hreadable.maxValue, h.failure⟩,
      fun h => ⟨fun hs _ _ => h.1 hs, h.2⟩⟩
  rw [hatomic]
  clear hatomic
  unfold UpdateSafe
  rw [or_iff_right (not_not.mpr hreadable)]
  simp only at hspec
  generalize (ipsoUpdateMinMaxFields o c id objectId inst newValue).1 = st at hspec ⊢
  generalize (ipsoUpdateMinMaxFields o c id objectId inst newValue).2.value id = f at hspec ⊢
  generalize convertFloatValueToNetworkByteOrder o newValue = data at *
  generalize updateMin o c id objectId inst newValue = f₁ at *
  generalize updateMax o c id objectId inst newValue = f₂ at *
  -- where one bound is to move, the third and fourth outcome decide, and else two more
  cases hb : isBelow o c id objectId inst newValue <;>
    cases ha : isAbove o c id objectId inst newValue <;>
    simp only [hb, ha, afterMin, Bool.false_and, Bool.true_and, if_true, if_false,
      Bool.false_eq_true] at hspec hminMin hmaxMax hmaxMin hbelow habove ⊢
  · obtain ⟨rfl, rfl⟩ := Prod.mk.inj hspec
    simp
  · have hchanged := habove trivial
    cases h2 : c.fault 2 with
    | true =>
      rw [h2, if_pos rfl] at hspec
      obtain ⟨rfl, rfl⟩ := Prod.mk.inj hspec
      simp [hminMin, hminMax]
    | false =>
      rw [h2, if_neg Bool.false_ne_true] at hspec
      obtain ⟨rfl, rfl⟩ := Prod.mk.inj hspec
      rw [hmaxMax]
      cases c.fault 3 <;> simp [h2, hchanged]
  · have hchanged := hbelow trivial
    cases h2 : c.fault 2 with
    | true =>
      rw [h2, if_pos rfl] at hspec
      obtain ⟨rfl, rfl⟩ := Prod.mk.inj hspec
      simp
    | false =>
      rw [h2, if_neg Bool.false_ne_true] at hspec
      obtain ⟨rfl, rfl⟩ := Prod.mk.inj hspec
      rw [hmaxMin]
      cases c.fault 3 <;> simp [h2, hchanged]
  · have hchanged := hbelow trivial
    have hchanged' := habove trivial
    cases h2 : c.fault 2 with
    | true =>
      rw [h2, if_pos rfl] at hspec
      obtain ⟨rfl, rfl⟩ := Prod.mk.inj hspec
      simp
    | false =>
      rw [h2, if_neg Bool.false_ne_true] at hspec
      rw [h2] at hminMin hmaxMin
      cases h4 : c.fault 4 with
      | true =>
        rw [h4, if_pos rfl] at hspec
        obtain ⟨rfl, rfl⟩ := Prod.mk.inj hspec
        rw [hminMin, hminMax]
        cases c.fault 3 <;> simp [hchanged.symm]
      | false =>
        rw [h4, if_neg Bool.false_ne_true] at hspec
        obtain ⟨rfl, rfl⟩ := Prod.mk.inj hspec
        rw [hmaxMin, hmaxMax]
        cases c.fault 3 <;> cases c.fault 5 <;> simp [h4, hchanged, hchanged']

/-- **Both operations are all-or-nothing exactly** where the failures leave them no half to do. -/
theorem minMax_allOrNothing_iff (newValue : UInt32) :
    (ResetAtomic o c id objectId inst ↔ ResetSafe o c id objectId inst) ∧
      (UpdateAtomic o c id objectId inst newValue ↔ UpdateSafe o c id objectId inst newValue) :=
  ⟨resetAtomic_iff o c id objectId inst, updateAtomic_iff o c id objectId inst newValue⟩

end

/-- a sensor that has measured 1.0, before a reset with no memory for the maximum -/
def halfReset : Client :=
  { minMaxStep .little "sensor" temperatureSensor 0
      (ipsoAddMinMaxFields .little sensorClient "sensor" temperatureSensor 0)
      (.update 0x3F800000) with faults := [false, false, true] }

/-- the reset reports a failed allocation and has changed the minimum -/
theorem reset_not_atomic :
    ¬∀ (o : ByteOrder) (c : Client) (id : String) (objectId inst : UInt16) (newValue : UInt32),
      ResetAtomic o c id objectId inst ∧ UpdateAtomic o c id objectId inst newValue := by
  intro h
  have hfail : (ipsoResetMinMaxObject .little halfReset "sensor" temperatureSensor 0).1
      ≠ .success := by decide +kernel
  have hsame := ((h .little halfReset "sensor" temperatureSensor 0 0).1.failure hfail).1
  exact absurd hsame (by decide +kernel)

end EdgeTranslators.Pt
