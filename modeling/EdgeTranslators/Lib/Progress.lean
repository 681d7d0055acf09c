import EdgeTranslators.Lib.Run

/-!
# Progress

Some events of a system are its own: they happen sooner or later, as long as they can.  The others
are up to its surroundings.

* `Halted`                 none of its own events can happen;
* `Descends`               its own events lower a potential, and each of the others raises it by its
                           cost at most;
* `totalCost`, `totalCost_eq_mul`   what the events of a list cost;
* `Descends.countP_le`     a run has only so many events of its own;
* `Descends.exists_halted` from every state its own events lead to one where it has halted.
-/

namespace EdgeTranslators.Lib

section
variable {σ ε : Type*} (step : σ → ε → Option σ) (own : ε → Bool)

/-- none of its own events can happen -/
def Halted (s : σ) : Prop := ∀ e, own e = true → step s e = none

/-- in the states of an invariant the potential bounds the events of its own -/
structure Descends (J : σ → Prop) (potential : σ → Nat) (cost : ε → Nat) : Prop where
  kept : ∀ s e s', J s → step s e = some s' → J s'
  lowers : ∀ s e s', J s → own e = true → step s e = some s' → potential s' < potential s
  raises : ∀ s e s', J s → own e = false → step s e = some s' →
    potential s' ≤ potential s + cost e

/-- what the events of a list cost together -/
def totalCost (cost : ε → Nat) : List ε → Nat
  | [] => 0
  | e :: es => cost e + totalCost cost es

variable {step own} {J : σ → Prop} {potential : σ → Nat} {cost : ε → Nat} {s s' : σ}

/-- where events cost the same or nothing, it is the number of those that cost -/
theorem totalCost_eq_mul {p : ε → Bool} {c : Nat} (h : ∀ e, cost e = if p e then c else 0)
    (es : List ε) : totalCost cost es = c * es.countP p := by
  induction es with
  | nil => rfl
  | cons e es ih =>
    rw [totalCost, ih, h e, List.countP_cons]
    by_cases hp : p e = true
    · rw [if_pos hp, if_pos hp, Nat.mul_add, Nat.mul_one, Nat.add_comm]
    · rw [if_neg hp, if_neg hp, Nat.zero_add, Nat.add_zero]

theorem Descends.of_run (h : Descends step own J potential cost) {es : List ε} (hJ : J s)
    (hrun : run step s es = some s') : J s' :=
  (Run.of_run hrun).invariant hJ fun _ _ _ hJ _ hstep => h.kept _ _ _ hJ hstep

/-- what the others cost is all that can be spent besides the potential there was -/
theorem Descends.countP_le (h : Descends step own J potential cost) {es : List ε} (hJ : J s)
    (hrun : run step s es = some s') :
    es.countP own + potential s' ≤ potential s + totalCost cost es := by
  induction es generalizing s with
  | nil =>
    cases hrun
    exact Nat.le_of_eq (Nat.add_comm _ _)
  | cons e es ih =>
    rw [run_cons, Option.bind_eq_some_iff] at hrun
    obtain ⟨t, ht, hes⟩ := hrun
    have hrest := ih (h.kept _ _ _ hJ ht) hes
    unfold totalCost
    cases hown : own e with
    | true =>
      have hlow := h.lowers _ _ _ hJ hown ht
      rw [List.countP_cons_of_pos hown]
      omega
    | false =>
      have hup := h.raises _ _ _ hJ hown ht
      rw [List.countP_cons_of_neg (by rw [hown]; exact Bool.false_ne_true)]
      omega

/-- its own events alone lead to a state where it has halted -/
theorem Descends.exists_halted (h : Descends step own J potential cost) (hJ : J s) :
    ∃ es t, (∀ e ∈ es, own e = true) ∧ run step s es = some t ∧ Halted step own t := by
  induction hn : potential s using Nat.strongRecOn generalizing s with
  | ind n ih =>
    by_cases hhalt : Halted step own s
    · exact ⟨[], s, fun e he => absurd he List.not_mem_nil, rfl, hhalt⟩
    · unfold Halted at hhalt
      simp only [Classical.not_forall] at hhalt
      obtain ⟨e, hown, hstep⟩ := hhalt
      obtain ⟨t, ht⟩ := Option.ne_none_iff_exists'.mp hstep
      have hlow := h.lowers _ _ _ hJ hown ht
      obtain ⟨es, u, hall, hrun, hu⟩ := ih _ (hn ▸ hlow) (h.kept _ _ _ hJ ht) rfl
      refine ⟨e :: es, u, fun e' he' => ?_, ?_, hu⟩
      · rcases List.mem_cons.mp he' with rfl | he'
        · exact hown
        · exact hall _ he'
      · rw [run_cons, ht]
        exact hrun

end

end EdgeTranslators.Lib
