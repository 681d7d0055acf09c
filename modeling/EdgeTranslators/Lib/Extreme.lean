import Mathlib.Order.Lattice
import Mathlib.Tactic.Common

/-!
# The least value so far

Values are compared by a key in a linear order.  A store holds the least of the values it has been
given, and `top` before the first one; with the keys turned round it holds the greatest.

* `least key m v`        the lesser of the stored value and a new one;
* `LeastSoFar key top m vs` the stored value `m` is right for the values `vs`;
* `LeastSoFar.snoc`         one more value keeps it right, if `top` is greater than all others.
-/

namespace EdgeTranslators.Lib.Extreme

section
variable {α β : Type*} [LinearOrder β] (key : α → β)

def least (m v : α) : α := if key v < key m then v else m

/-- `m` is among the values and none of them is less, or there are none and `m` is `top` -/
def LeastSoFar (top m : α) (vs : List α) : Prop :=
  (vs = [] ∧ m = top) ∨ (m ∈ vs ∧ ∀ v ∈ vs, key m ≤ key v)

variable {key} {top m v : α} {vs : List α}

theorem leastSoFar_nil : LeastSoFar key top top [] := .inl ⟨rfl, rfl⟩

theorem least_le : key (least key m v) ≤ key v ∧ key (least key m v) ≤ key m := by
  unfold least
  split
  · exact ⟨le_refl _, le_of_lt ‹_›⟩
  · exact ⟨le_of_not_gt ‹_›, le_refl _⟩

/-- **One more value.** -/
theorem LeastSoFar.snoc (h : LeastSoFar key top m vs) (htop : key v < key top ∨ v = top) :
    LeastSoFar key top (least key m v) (vs ++ [v]) := by
  refine .inr ⟨?_, fun w hw => ?_⟩
  · rcases h with ⟨rfl, rfl⟩ | ⟨hm, -⟩
    · have hleast : least key m v = v := by
        unfold least
        rcases htop with hlt | heq
        · rw [if_pos hlt]
        · rw [heq, ite_self]
      rw [hleast]
      exact List.mem_append_right _ List.mem_cons_self
    · unfold least
      split
      · exact List.mem_append_right _ List.mem_cons_self
      · exact List.mem_append_left _ hm
  · rcases List.mem_append.mp hw with hw | hw
    · rcases h with ⟨rfl, -⟩ | ⟨-, hle⟩
      · exact absurd hw List.not_mem_nil
      · exact le_trans (least_le (m := m) (v := v)).2 (hle w hw)
    · obtain rfl := List.mem_singleton.mp hw
      exact least_le.1

end

end EdgeTranslators.Lib.Extreme
