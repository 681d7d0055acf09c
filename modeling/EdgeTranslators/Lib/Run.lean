import Mathlib.Tactic.TypeStar

/-!
# Runs of a partial step function

A system is a partial step function `step : σ → ε → Option σ` on states `σ` and events `ε`
(`none`: the event cannot happen in that state).

* `run step s es`          the state the events `es` lead to, computed;
* `Run step ok s₀ es s`    `es` leads from `s₀` to `s`, and every step of the way meets the
                           condition `ok` on the state it starts from and its event;
* `Run.invariant`          what holds at the start and is kept by every step that meets the
                           condition holds in every state reached;
* `run_all_iff`            a run whose condition is on its events alone;
* `Run.of_guarded`         a computed run whose steps are checked against the condition;
* `Run.strengthen`         an invariant that is already known may be used as a condition;
* `Run.invariant_iff`, `Run.invariant_iff_of`, `run_invariant_iff`   an invariant that a step keeps
                           exactly when it meets a condition;
* `Run.kept_iff`           the same for what is lost once and for all;
* `Run.simulates`          another system follows a run whose steps it can follow one by one.
-/

namespace EdgeTranslators.Lib

section
variable {σ ε : Type*} (step : σ → ε → Option σ)

/-- the state a list of events leads to, if every step of it is possible -/
def run : σ → List ε → Option σ
  | s, [] => some s
  | s, e :: es => (step s e).bind fun s' => run s' es

theorem run_cons (s : σ) (e : ε) (es : List ε) :
    run step s (e :: es) = (step s e).bind fun s' => run step s' es := rfl

theorem run_append (s : σ) (a b : List ε) :
    run step s (a ++ b) = (run step s a).bind fun s' => run step s' b := by
  induction a generalizing s with
  | nil => rfl
  | cons e es ih =>
    rw [List.cons_append, run_cons, run_cons, Option.bind_assoc]
    congr 1
    funext s'
    exact ih s'

/-- the events lead from `s₀` to the state, and every step meets the condition `ok` -/
inductive Run (ok : σ → ε → Prop) (s₀ : σ) : List ε → σ → Prop where
  | nil : Run ok s₀ [] s₀
  | snoc {es : List ε} {s s' : σ} {e : ε} (h : Run ok s₀ es s) (hok : ok s e)
      (hstep : step s e = some s') : Run ok s₀ (es ++ [e]) s'

variable {step} {ok ok' : σ → ε → Prop} {s₀ s : σ} {es : List ε}

/-- **The invariant rule.** -/
theorem Run.invariant {Inv : σ → Prop} (h : Run step ok s₀ es s) (hinit : Inv s₀)
    (hkeep : ∀ s e s', Inv s → ok s e → step s e = some s' → Inv s') : Inv s := by
  induction h with
  | nil => exact hinit
  | snoc _ hok hstep ih => exact hkeep _ _ _ ih hok hstep

theorem Run.mono (h : Run step ok s₀ es s) (himp : ∀ s e, ok s e → ok' s e) :
    Run step ok' s₀ es s := by
  induction h with
  | nil => exact .nil
  | snoc _ hok hstep ih => exact ih.snoc (himp _ _ hok) hstep

/-- a fact about every state reached may join the condition of the steps -/
theorem Run.strengthen {J : σ → Prop} (hJ : ∀ es s, Run step ok s₀ es s → J s)
    (h : Run step ok s₀ es s) : Run step (fun s e => ok s e ∧ J s) s₀ es s := by
  induction h with
  | nil => exact .nil
  | snoc h hok hstep ih => exact ih.snoc ⟨hok, hJ _ _ h⟩ hstep

theorem Run.append {a b : List ε} {t u : σ} (h : Run step ok s₀ a t) (h' : Run step ok t b u) :
    Run step ok s₀ (a ++ b) u := by
  induction h' with
  | nil => rwa [List.append_nil]
  | snoc _ hok hstep ih =>
    rw [← List.append_assoc]
    exact ih.snoc hok hstep

theorem Run.of_run (h : run step s₀ es = some s) : Run step (fun _ _ => True) s₀ es s := by
  induction es generalizing s₀ with
  | nil => cases h; exact .nil
  | cons e es ih =>
    rw [run_cons, Option.bind_eq_some_iff] at h
    obtain ⟨t, ht, hes⟩ := h
    have h₁ : Run step (fun _ _ => True) s₀ [e] t := Run.snoc .nil trivial ht
    exact h₁.append (ih hes)

theorem Run.snoc_iff {e : ε} :
    Run step ok s₀ (es ++ [e]) s ↔ ∃ t, Run step ok s₀ es t ∧ ok t e ∧ step t e = some s := by
  constructor
  · intro h
    generalize hes : es ++ [e] = l at h
    cases h with
    | nil => exact absurd hes (List.append_ne_nil_of_right_ne_nil _ (List.cons_ne_nil _ _))
    | snoc h hok hstep =>
      obtain ⟨rfl, hlast⟩ := List.append_inj' hes rfl
      cases hlast
      exact ⟨_, h, hok, hstep⟩
  · rintro ⟨t, h, hok, hstep⟩
    exact h.snoc hok hstep

/-- a run goes through a state after every prefix of its events -/
theorem Run.of_prefix {pre : List ε} (h : Run step ok s₀ es s) (hpre : pre <+: es) :
    ∃ t, Run step ok s₀ pre t := by
  induction h with
  | nil =>
    obtain rfl := List.prefix_nil.mp hpre
    exact ⟨s₀, .nil⟩
  | snoc h hok hstep ih =>
    rcases List.prefix_concat_iff.mp hpre with rfl | hpre
    · exact ⟨_, h.snoc hok hstep⟩
    · exact ih hpre

theorem Run.to_run (h : Run step ok s₀ es s) : run step s₀ es = some s := by
  induction h with
  | nil => rfl
  | snoc _ _ hstep ih => rw [run_append, ih, Option.bind_some, run_cons, hstep]; rfl

/-- a condition on the events alone -/
theorem run_all_iff {P : ε → Prop} :
    Run step (fun _ e => P e) s₀ es s ↔ run step s₀ es = some s ∧ ∀ e ∈ es, P e := by
  constructor
  · intro h
    refine ⟨h.to_run, ?_⟩
    induction h with
    | nil => exact fun e he => absurd he List.not_mem_nil
    | snoc _ hok _ ih =>
      intro e he
      rcases List.mem_append.mp he with he | he
      · exact ih e he
      · rwa [List.mem_singleton.mp he]
  · rintro ⟨h, hall⟩
    induction Run.of_run h with
    | nil => exact .nil
    | snoc hrun _ hstep ih =>
      have hlast := hall _ (List.mem_append_right _ (List.mem_singleton_self _))
      exact (ih hrun.to_run fun e he => hall e (List.mem_append_left _ he)).snoc hlast hstep

/-- the steps that meet a condition which can be decided -/
def guarded (step : σ → ε → Option σ) (ok : σ → ε → Prop) [∀ s e, Decidable (ok s e)] (s : σ)
    (e : ε) : Option σ :=
  if ok s e then step s e else none

/-- **Where a step keeps the invariant exactly when it meets the condition**, the invariant holds in
every state of a run exactly when all steps meet it. -/
theorem Run.invariant_iff {Inv : σ → Prop} (h : Run step ok s₀ es s) (hinit : Inv s₀)
    (hstep : ∀ s e s', Inv s → ok s e → step s e = some s' → (Inv s' ↔ ok' s e)) :
    (∀ pre t, pre <+: es → run step s₀ pre = some t → Inv t) ↔
      Run step (fun s e => ok s e ∧ ok' s e) s₀ es s := by
  constructor
  · intro hall
    induction h with
    | nil => exact .nil
    | snoc h hok hs ih =>
      have hpre := ih fun pre t hpre => hall pre t (hpre.trans (List.prefix_append _ _))
      have hbefore := hall _ _ (List.prefix_append _ _) h.to_run
      have hafter := hall _ _ (List.prefix_refl _) (h.snoc hok hs).to_run
      exact hpre.snoc ⟨hok, (hstep _ _ _ hbefore hok hs).mp hafter⟩ hs
  · intro hrun pre t hpre ht
    obtain ⟨t', ht'⟩ := hrun.of_prefix hpre
    obtain rfl := Option.some.inj (ht'.to_run.symm.trans ht)
    exact ht'.invariant hinit fun s e s' hinv hok hs => (hstep s e s' hinv hok.1 hs).mpr hok.2

/-- the same with a fact about every state reached -/
theorem Run.invariant_iff_of {Inv J : σ → Prop} (h : Run step ok s₀ es s)
    (hJ : ∀ es s, Run step ok s₀ es s → J s) (hinit : Inv s₀)
    (hstep : ∀ s e s', J s → Inv s → ok s e → step s e = some s' → (Inv s' ↔ ok' s e)) :
    (∀ pre t, pre <+: es → run step s₀ pre = some t → Inv t) ↔
      Run step (fun s e => ok s e ∧ ok' s e) s₀ es s := by
  rw [(h.strengthen hJ).invariant_iff hinit
    fun s e s' hinv hok hs => hstep s e s' hok.2 hinv hok.1 hs]
  constructor
  · exact fun hrun => hrun.mono fun _ _ hok => ⟨hok.1.1, hok.2⟩
  · intro hrun
    have hboth := hrun.strengthen fun es t ht => hJ es t (ht.mono fun _ _ hok => hok.1)
    exact hboth.mono fun _ _ hok => ⟨⟨hok.1.1, hok.2⟩, hok.1.2⟩

/-- the same for a computed run, with a fact that every step keeps -/
theorem run_invariant_iff {Inv J : σ → Prop} (h : run step s₀ es = some s) (hJ : J s₀)
    (hkeep : ∀ s e s', J s → step s e = some s' → J s') (hinit : Inv s₀)
    (hstep : ∀ s e s', J s → Inv s → step s e = some s' → (Inv s' ↔ ok' s e)) :
    (∀ pre t, pre <+: es → run step s₀ pre = some t → Inv t) ↔ Run step ok' s₀ es s := by
  rw [(Run.of_run h).invariant_iff_of
    (fun _ _ hrun => hrun.invariant hJ fun s e s' hJs _ hs => hkeep s e s' hJs hs) hinit
    fun s e s' hJs hinv _ hs => hstep s e s' hJs hinv hs]
  simp only [true_and]

/-- what is lost by a step that does not meet the condition, and does not come back, is there at the
end exactly when all steps have met it -/
theorem Run.kept_iff {P : σ → Prop} (h : Run step ok s₀ es s) (hinit : P s₀)
    (hstep : ∀ s e s', ok s e → step s e = some s' → (P s' ↔ P s ∧ ok' s e)) :
    P s ↔ Run step (fun s e => ok s e ∧ ok' s e) s₀ es s := by
  constructor
  · intro hP
    induction h with
    | nil => exact .nil
    | snoc _ hok hs ih =>
      obtain ⟨hbefore, hok'⟩ := (hstep _ _ _ hok hs).mp hP
      exact (ih hbefore).snoc ⟨hok, hok'⟩ hs
  · intro hrun
    exact hrun.invariant hinit fun s e s' hP hok hs => (hstep s e s' hok.1 hs).mpr ⟨hP, hok.2⟩

/-- **The simulation rule.**  Where each step is followed by some events of another system, these
events follow the run. -/
theorem Run.simulates {σ' ε' : Type*} {step' : σ' → ε' → Option σ'} {R : σ → σ' → Prop}
    {follow : ε → List ε'} {t₀ : σ'} (h : Run step ok s₀ es s) (hinit : R s₀ t₀)
    (hkeep : ∀ s e s' t, R s t → ok s e → step s e = some s' →
      ∃ t', run step' t (follow e) = some t' ∧ R s' t') :
    ∃ t, run step' t₀ (es.flatMap follow) = some t ∧ R s t := by
  induction h with
  | nil => exact ⟨t₀, rfl, hinit⟩
  | @snoc es s s' e _ hok hstep ih =>
    obtain ⟨t, hrun, hR⟩ := ih
    obtain ⟨t', hrun', hR'⟩ := hkeep s e s' t hR hok hstep
    refine ⟨t', ?_, hR'⟩
    rw [List.flatMap_append, run_append, hrun, Option.bind_some, List.flatMap_singleton]
    exact hrun'

theorem Run.of_guarded [∀ s e, Decidable (ok s e)] (h : run (guarded step ok) s₀ es = some s) :
    Run step ok s₀ es s := by
  induction es generalizing s₀ with
  | nil => cases h; exact .nil
  | cons e es ih =>
    rw [run_cons, Option.bind_eq_some_iff] at h
    obtain ⟨t, ht, hes⟩ := h
    unfold guarded at ht
    split at ht
    · rename_i hok
      have h₁ : Run step ok s₀ [e] t := Run.snoc .nil hok ht
      exact h₁.append (ih hes)
    · cases ht

/-- a property of the state a computed run ends in -/
theorem exists_of_run_any {p : σ → Prop} [DecidablePred p]
    (h : (run step s₀ es).any (fun s => decide (p s)) = true) :
    ∃ s, run step s₀ es = some s ∧ p s := by
  obtain ⟨s, hs, hp⟩ := (Option.any_eq_true _ _).mp h
  exact ⟨s, hs, of_decide_eq_true hp⟩

end

end EdgeTranslators.Lib
