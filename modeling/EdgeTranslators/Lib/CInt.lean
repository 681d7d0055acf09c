import Mathlib.Tactic.Common
import Mathlib.Tactic.NormNum

/-!
# Signed integers of C

Operations on signed integers of a number of bits; where the result does not fit the behaviour is
undefined, and so it is for a division by zero.

* `InInt`, `checked`        the numbers that fit;
* `addInt`, `divInt`        `+` and `/`; the division cuts off;
* `addInt_natCast`, `divInt_natCast`   what they do to numbers that are not negative.
-/

namespace EdgeTranslators.Lib

def InInt (bits : Nat) (x : Int) : Prop := -2 ^ (bits - 1) ≤ x ∧ x < 2 ^ (bits - 1)

instance (bits : Nat) (x : Int) : Decidable (InInt bits x) := inferInstanceAs (Decidable (_ ∧ _))

/-- the result of an operation; `none` if it does not fit -/
def checked (bits : Nat) (x : Int) : Option Int := if InInt bits x then some x else none

def addInt (bits : Nat) (a b : Int) : Option Int := checked bits (a + b)

def divInt (bits : Nat) (a b : Int) : Option Int :=
  if b = 0 then none else checked bits (a.tdiv b)

section
variable {bits a b : Nat}

theorem checked_natCast (bits n : Nat) :
    checked bits (n : Int) = if n < 2 ^ (bits - 1) then some (n : Int) else none := by
  have hfits : InInt bits (n : Int) ↔ n < 2 ^ (bits - 1) := by
    have hpos : (0 : Int) < 2 ^ (bits - 1) := Int.pow_pos (by decide)
    unfold InInt
    rw [and_iff_right (by omega)]
    exact_mod_cast Iff.rfl
  unfold checked
  exact if_congr hfits rfl rfl

theorem addInt_natCast (bits a b : Nat) :
    addInt bits a b = if a + b < 2 ^ (bits - 1) then some ((a + b : Nat) : Int) else none := by
  rw [← checked_natCast]
  rfl

/-- a quotient fits if what is divided does -/
theorem divInt_natCast (ha : a < 2 ^ (bits - 1)) (hb : 0 < b) :
    divInt bits a b = some ((a / b : Nat) : Int) := by
  have hfits : a / b < 2 ^ (bits - 1) := (Nat.div_le_self a b).trans_lt ha
  have hne : (b : Int) ≠ 0 := by omega
  unfold divInt
  rw [if_neg hne, ← Int.ofNat_tdiv, checked_natCast, if_pos hfits]

end

end EdgeTranslators.Lib
