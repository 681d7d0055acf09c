import Mathlib.Data.Nat.Size
import Mathlib.Tactic.Ring

/-!
# Numbers rounded to a number of binary digits

A binary floating-point format keeps so many digits of a number that is converted to it; what is
behind them is rounded to the nearest, and ties to even.

* `roundQuotient`       the quotient by a power of two, rounded;
* `roundDigits`         a number rounded to its first digits;
* `FitsDigits`          the numbers that have no others;
* `roundDigits_eq_iff`  these are the ones that are kept;
* `two_pow_le_roundDigits`   rounding does not pass a power of two.
-/

namespace EdgeTranslators.Lib

/-- `n / 2 ^ k`, rounded to the nearest, ties to even -/
def roundQuotient (n k : Nat) : Nat :=
  let q := n / 2 ^ k
  let r := n % 2 ^ k
  if 2 * r < 2 ^ k ∨ 2 * r = 2 ^ k ∧ q % 2 = 0 then q else q + 1

/-- a number rounded to its first binary digits -/
def roundDigits (digits n : Nat) : Nat :=
  roundQuotient n (n.size - digits) * 2 ^ (n.size - digits)

/-- a number of so many binary digits, with zeros behind them -/
def FitsDigits (digits n : Nat) : Prop := ∃ m k, m < 2 ^ digits ∧ n = m * 2 ^ k

section
variable {digits n k : Nat}

theorem roundQuotient_of_dvd (h : 2 ^ k ∣ n) : roundQuotient n k = n / 2 ^ k := by
  have hpos : 0 < 2 ^ k := Nat.two_pow_pos k
  unfold roundQuotient
  dsimp only
  rw [Nat.mod_eq_zero_of_dvd h]
  exact if_pos (.inl (by omega))

/-- the digits that are dropped of a number that fits are zeros -/
theorem FitsDigits.dvd (h : FitsDigits digits n) : 2 ^ (n.size - digits) ∣ n := by
  obtain ⟨m, k, hm, rfl⟩ := h
  have hlt : m * 2 ^ k < 2 ^ (digits + k) := by
    rw [pow_add]
    exact Nat.mul_lt_mul_of_pos_right hm (Nat.two_pow_pos k)
  have hsize := Nat.size_le.mpr hlt
  exact dvd_mul_of_dvd_right (pow_dvd_pow 2 (by omega)) m

/-- **A number is kept exactly when it fits.** -/
theorem roundDigits_eq_iff : roundDigits digits n = n ↔ FitsDigits digits n := by
  unfold roundDigits
  constructor
  · intro hkept
    by_cases hshort : n.size ≤ digits
    · have hlt : n < 2 ^ digits :=
        (Nat.lt_size_self n).trans_le (Nat.pow_le_pow_right (by decide) hshort)
      exact ⟨n, 0, hlt, by rw [pow_zero, mul_one]⟩
    · have hlt : n < 2 ^ digits * 2 ^ (n.size - digits) := by
        rw [← pow_add, Nat.add_sub_cancel' (by omega)]
        exact Nat.lt_size_self n
      refine ⟨roundQuotient n (n.size - digits), n.size - digits, ?_, hkept.symm⟩
      exact Nat.lt_of_mul_lt_mul_right (hkept.trans_lt hlt)
  · intro hfits
    rw [roundQuotient_of_dvd hfits.dvd, Nat.div_mul_cancel hfits.dvd]

/-- rounding does not pass a power of two downwards -/
theorem two_pow_le_roundDigits (hdigits : 0 < digits) (h : 2 ^ k ≤ n) :
    2 ^ k ≤ roundDigits digits n := by
  have hquotient : n / 2 ^ (n.size - digits) ≤ roundQuotient n (n.size - digits) := by
    unfold roundQuotient
    dsimp only
    split <;> omega
  refine le_trans ?_ (Nat.mul_le_mul_right _ hquotient)
  rcases Nat.le_total (n.size - digits) k with hle | hle
  · obtain ⟨j, rfl⟩ := Nat.exists_eq_add_of_le' hle
    rw [pow_add] at h ⊢
    exact Nat.mul_le_mul_right _ ((Nat.le_div_iff_mul_le (Nat.two_pow_pos _)).mpr h)
  · have hn : 0 < n := (Nat.two_pow_pos k).trans_le h
    have htop : 2 ^ (n.size - digits) ≤ n :=
      Nat.lt_size.mp (Nat.sub_lt (Nat.size_pos.mpr hn) hdigits)
    have hone := (Nat.le_div_iff_mul_le (Nat.two_pow_pos _)).mpr ((one_mul _).trans_le htop)
    calc 2 ^ k ≤ 1 * 2 ^ (n.size - digits) := by
          rw [one_mul]
          exact Nat.pow_le_pow_right (by decide) hle
      _ ≤ n / 2 ^ (n.size - digits) * 2 ^ (n.size - digits) := Nat.mul_le_mul_right _ hone

theorem fitsDigits_of_lt (h : n < 2 ^ digits) : FitsDigits digits n :=
  ⟨n, 0, h, by rw [pow_zero, mul_one]⟩

instance : Decidable (FitsDigits digits n) := decidable_of_iff _ roundDigits_eq_iff

end

/-- the first number that a float does not have -/
example : roundDigits 24 (2 ^ 24 + 1) = 2 ^ 24 := by decide

end EdgeTranslators.Lib
