import EdgeTranslators.Lib.Run
import Mathlib.Algebra.Group.Nat.Defs

/-!
# Signals and the main loop (`pt-example/client_example.c`)

`main_loop` looks every five seconds whether a signal has come.  The handler of the signals posts a
semaphore that nothing ever takes, so that its value counts the signals.

* `LoopPoint`, `MainLoop`      where the main thread is, the semaphore and the flags;
* `MainLoop.step`              the signals, the flags and the rounds of the loop;
* `Counted`                    the semaphore has counted the signals;
* `Noticed`, `OneSignal`       every poll after a signal sees it, and what that takes;
* `signals_noticed_iff`        the one holds in every state of a run exactly when the other does;
* `Blind`, `polls_after_two`   after two signals no poll sees them any more.
-/

namespace EdgeTranslators.PtExample
open Lib

/-- `SEM_VALUE_MAX`, which is also the largest `int` -/
def semValueMax : Nat := 2 ^ 31 - 1

/-- `sem_post`: the largest value stays -/
def semPost (value : Nat) : Nat := if value < semValueMax then value + 1 else value

/-- `is_shutdown_handler_called`, for the value of the semaphore -/
def isShutdownHandlerCalled (called : Nat) : Bool := called == 1

/-- where the main thread is in `main_loop` -/
inductive LoopPoint where
  /-- in `wait_until_connected` -/
  | waiting
  /-- before `get_keep_running` -/
  | checking
  /-- before `is_shutdown_handler_called` -/
  | polling
  /-- before `is_connected` -/
  | updating
  | sleeping
  | left
  deriving DecidableEq, Repr

/-- what a poll gave, and the signals that had been delivered by then -/
structure Poll where
  signals : Nat
  called : Bool
  deriving DecidableEq, Repr

structure MainLoop where
  /-- `g_shutdown_handler_called` -/
  shutdownHandlerCalled : Nat
  /-- `g_keep_running` -/
  keepRunning : Bool
  /-- `g_connected` -/
  connected : Bool
  /-- `g_protocol_translator_api_running` -/
  protocolTranslatorApiRunning : Bool
  point : LoopPoint
  /-- how often `pt_devices_update` was called -/
  updates : Nat
  /-- the signals delivered so far -/
  signals : Nat
  polls : List Poll
  deriving DecidableEq, Repr

inductive LoopEvent where
  /-- SIGINT or SIGTERM: `shutdown_handler` runs -/
  | signal
  /-- the flags, which other threads set -/
  | setKeepRunning (b : Bool)
  | setConnected (b : Bool)
  | setProtocolTranslatorApiRunning (b : Bool)
  /-- `wait_until_connected` returns, and the device id is allocated or not -/
  | connects (allocated : Bool)
  | checks
  | polls
  /-- the rest of a round, for a device that exists or does not -/
  | updates (deviceExists : Bool)
  | wakes
  deriving DecidableEq, Repr

namespace MainLoop

def start : MainLoop :=
  { shutdownHandlerCalled := 0, keepRunning := true, connected := false
    protocolTranslatorApiRunning := false, point := .waiting, updates := 0, signals := 0
    polls := [] }

def step (s : MainLoop) : LoopEvent → Option MainLoop
  | .signal =>
    some { s with
      shutdownHandlerCalled := semPost s.shutdownHandlerCalled
      signals := s.signals + 1 }
  | .setKeepRunning b => some { s with keepRunning := b }
  | .setConnected b => some { s with connected := b }
  | .setProtocolTranslatorApiRunning b => some { s with protocolTranslatorApiRunning := b }
  | .connects allocated =>
    if s.point = .waiting then
      some { s with point := if allocated then .checking else .left }
    else none
  | .checks =>
    if s.point = .checking then
      some { s with point := if s.keepRunning then .polling else .left }
    else none
  | .polls =>
    if s.point = .polling then
      let called := isShutdownHandlerCalled s.shutdownHandlerCalled
      some { s with
        point := if called then .left else .updating
        polls := s.polls ++ [⟨s.signals, called⟩] }
    else none
  | .updates deviceExists =>
    if s.point = .updating then
      if s.connected && deviceExists && s.protocolTranslatorApiRunning then
        some { s with point := .sleeping, updates := s.updates + 1 }
      else some { s with point := .sleeping }
    else none
  | .wakes => if s.point = .sleeping then some { s with point := .checking } else none

variable {s s' : MainLoop} {e : LoopEvent} {es : List LoopEvent}

/-- what a step does to the semaphore, the signals and the polls -/
theorem step_cases (h : s.step e = some s') :
    (e = .signal ∧ s'.shutdownHandlerCalled = semPost s.shutdownHandlerCalled ∧
      s'.signals = s.signals + 1 ∧ s'.polls = s.polls) ∨
    (e = .polls ∧ s'.shutdownHandlerCalled = s.shutdownHandlerCalled ∧ s'.signals = s.signals ∧
      s'.polls = s.polls ++ [⟨s.signals, isShutdownHandlerCalled s.shutdownHandlerCalled⟩]) ∨
    (e ≠ .signal ∧ e ≠ .polls ∧ s'.shutdownHandlerCalled = s.shutdownHandlerCalled ∧
      s'.signals = s.signals ∧ s'.polls = s.polls) := by
  cases e with
  | signal =>
    cases h
    exact .inl ⟨rfl, rfl, rfl, rfl⟩
  | polls =>
    obtain ⟨-, heq⟩ := Option.ite_none_right_eq_some.mp h
    cases heq
    exact .inr (.inl ⟨rfl, rfl, rfl, rfl⟩)
  | setKeepRunning b | setConnected b | setProtocolTranslatorApiRunning b =>
    cases h
    exact .inr (.inr ⟨nofun, nofun, rfl, rfl, rfl⟩)
  | connects allocated | checks | wakes =>
    obtain ⟨-, heq⟩ := Option.ite_none_right_eq_some.mp h
    cases heq
    exact .inr (.inr ⟨nofun, nofun, rfl, rfl, rfl⟩)
  | updates deviceExists =>
    obtain ⟨-, heq⟩ := Option.ite_none_right_eq_some.mp h
    split at heq
    all_goals
      cases heq
      exact .inr (.inr ⟨nofun, nofun, rfl, rfl, rfl⟩)

/-! ## the count -/

/-- the semaphore has counted the signals, up to its largest value -/
def Counted (s : MainLoop) : Prop := s.shutdownHandlerCalled = min s.signals semValueMax

theorem Counted.start : MainLoop.start.Counted := rfl

theorem semPost_min (n : Nat) : semPost (min n semValueMax) = min (n + 1) semValueMax := by
  unfold semPost
  split <;> omega

theorem Counted.step (hinv : s.Counted) (h : s.step e = some s') : s'.Counted := by
  unfold Counted at hinv ⊢
  obtain ⟨-, hsem, hsignals, -⟩ | ⟨-, hsem, hsignals, -⟩ | ⟨-, -, hsem, hsignals, -⟩ :=
    step_cases h
  · rw [hsem, hsignals, hinv, semPost_min]
  · rw [hsem, hsignals, hinv]
  · rw [hsem, hsignals, hinv]

/-- the value is compared with one, and not with zero -/
theorem Counted.isShutdownHandlerCalled (hinv : s.Counted) :
    isShutdownHandlerCalled s.shutdownHandlerCalled = true ↔ s.signals = 1 := by
  have hmax : 1 < semValueMax := by decide
  unfold Counted at hinv
  unfold PtExample.isShutdownHandlerCalled
  rw [hinv, beq_iff_eq]
  omega

/-! ## the polls -/

/-- every poll after a signal has seen it -/
def Noticed (s : MainLoop) : Prop := ∀ p ∈ s.polls, 0 < p.signals → p.called = true

/-- a poll finds no signal, or the first -/
def OneSignal (s : MainLoop) (e : LoopEvent) : Prop := e = .polls → s.signals ≤ 1

instance (s : MainLoop) (e : LoopEvent) : Decidable (s.OneSignal e) :=
  inferInstanceAs (Decidable (e = .polls → s.signals ≤ 1))

instance (s : MainLoop) : Decidable s.Noticed :=
  inferInstanceAs (Decidable (∀ p ∈ s.polls, 0 < p.signals → p.called = true))

theorem noticed_step (hinv : s.Counted) (hnoticed : s.Noticed) (h : s.step e = some s') :
    s'.Noticed ↔ s.OneSignal e := by
  obtain ⟨rfl, -, -, hpolls⟩ | ⟨rfl, -, -, hpolls⟩ | ⟨-, hne, -, -, hpolls⟩ := step_cases h
  · unfold Noticed
    rw [hpolls]
    exact iff_of_true hnoticed nofun
  · have hcalled := hinv.isShutdownHandlerCalled
    unfold Noticed
    rw [hpolls]
    constructor
    · intro hall _
      rcases Nat.eq_zero_or_pos s.signals with hzero | hpos
      · omega
      · have hone := hcalled.mp
          (hall _ (List.mem_append_right _ (List.mem_singleton_self _)) hpos)
        omega
    · intro hone p hp hpos
      rcases List.mem_append.mp hp with hp | hp
      · exact hnoticed p hp hpos
      · obtain rfl := List.mem_singleton.mp hp
        have hle := hone rfl
        exact hcalled.mpr (Nat.le_antisymm hle hpos)
  · unfold Noticed
    rw [hpolls]
    exact iff_of_true hnoticed fun heq => absurd heq hne

/-- **When the signals are noticed.**  In every state of a run each poll that comes after a signal
sees it, exactly when no poll of the run finds more than one. -/
theorem signals_noticed_iff (h : run step start es = some s) :
    (∀ pre t, pre <+: es → run step start pre = some t → t.Noticed) ↔
      Run step OneSignal start es s :=
  run_invariant_iff h Counted.start (fun _ _ _ hinv hstep => hinv.step hstep)
    (fun _ hp => nomatch hp) fun _ _ _ hinv hnoticed hstep => noticed_step hinv hnoticed hstep

/-- a run that one signal ends -/
theorem signals_noticed_iff_once :
    ∃ s, run step start [.connects true, .checks, .signal, .polls] = some s ∧
      s.polls = [⟨1, true⟩] ∧ s.point = .left ∧
      ((∀ pre t, pre <+: [.connects true, .checks, .signal, .polls] →
        run step start pre = some t → t.Noticed) ↔
        Run step OneSignal start [.connects true, .checks, .signal, .polls] s) :=
  ⟨_, rfl, by decide, by decide, signals_noticed_iff rfl⟩

/-- two signals before the poll -/
theorem not_signals_noticed :
    ¬∀ es s, run step start es = some s → s.Noticed := by
  intro hall
  have hmany : ∃ s, run step start [.connects true, .checks, .signal, .signal, .polls] = some s ∧
      ¬s.Noticed := exists_of_run_any (by decide)
  obtain ⟨s, hs, hmissed⟩ := hmany
  exact hmissed (hall _ s hs)

/-- two signals have come, and no poll since has seen them -/
structure Blind (polls : List Poll) (s : MainLoop) : Prop where
  counted : s.Counted
  two : 2 ≤ s.signals
  unseen : ∀ p ∈ s.polls, p ∈ polls ∨ p.called = false

theorem Blind.step {polls : List Poll} (hinv : s.Blind polls) (h : s.step e = some s') :
    s'.Blind polls := by
  have hcounted := hinv.counted.step h
  obtain ⟨-, -, hsignals, hpolls⟩ | ⟨-, -, hsignals, hpolls⟩ | ⟨-, -, -, hsignals, hpolls⟩ :=
    step_cases h
  · exact ⟨hcounted, hsignals ▸ Nat.le_succ_of_le hinv.two, hpolls ▸ hinv.unseen⟩
  · refine ⟨hcounted, hsignals ▸ hinv.two, fun p hp => ?_⟩
    rw [hpolls] at hp
    rcases List.mem_append.mp hp with hp | hp
    · exact hinv.unseen p hp
    · obtain rfl := List.mem_singleton.mp hp
      refine .inr (Bool.eq_false_iff.mpr fun hcalled => ?_)
      have hone := hinv.counted.isShutdownHandlerCalled.mp hcalled
      have htwo := hinv.two
      omega
  · exact ⟨hcounted, hsignals ▸ hinv.two, hpolls ▸ hinv.unseen⟩

/-- after two signals the polls go on and see nothing -/
theorem polls_after_two {s₀ : MainLoop} (h : Run step (fun _ _ => True) s₀ es s)
    (hcounted : s₀.Counted) (htwo : 2 ≤ s₀.signals) :
    ∀ p ∈ s.polls, p ∈ s₀.polls ∨ p.called = false := by
  have hblind : s.Blind s₀.polls := h.invariant ⟨hcounted, htwo, fun _ hp => .inl hp⟩
    fun _ _ _ hinv _ hstep => hinv.step hstep
  exact hblind.unseen

end MainLoop

end EdgeTranslators.PtExample
