import EdgeTranslators.Lib.Monitor
import EdgeTranslators.Lib.Run

/-!
# Waiting for the connection (`pt-example/client_example.c`)

The main thread starts the PT thread and waits for `g_connected_cond` under `state_data_mutex`.
Callbacks on the PT thread set `g_connected` under the same mutex, and signal.

* `Action`, `PtPoint`, `MainPoint`, `Connect`   where the two threads are, the mutex and the flag;
* `Connect.step`                                the steps of the two threads;
* `Connect.Missed`                              the main thread has missed its signal;
* `Connect.Keeps`                               it does not start to wait when the flag is set;
* `signal_not_missed`, `missed_step_iff`        then it misses none, and only then.
-/

namespace EdgeTranslators.PtExample
open Lib

inductive ExampleThread where
  | main
  | pt
  deriving DecidableEq, Repr

/-- what the PT thread does under `state_data_mutex` -/
inductive Action where
  | setConnected
  | setDisconnected
  /-- one of the functions that use the other flags -/
  | other
  deriving DecidableEq, Repr

inductive PtPoint where
  | notStarted
  /-- not in any of the functions -/
  | idle
  | locked (action : Action)
  /-- `set_connected` has set the flag and will signal -/
  | signalling
  | unlocking
  deriving DecidableEq, Repr

/-- where the main thread is in `main` and `wait_until_connected` -/
inductive MainPoint where
  /-- before `start_protocol_translator_api` -/
  | starting
  /-- before it locks the mutex -/
  | locking
  /-- before `pthread_cond_wait` -/
  | locked
  | waiting
  /-- before it unlocks the mutex -/
  | unlocking
  | passed
  deriving DecidableEq, Repr

def PtPoint.holds : PtPoint → Bool
  | .locked _ | .signalling | .unlocking => true
  | .notStarted | .idle => false

def MainPoint.holds : MainPoint → Bool
  | .locked | .unlocking => true
  | .starting | .locking | .waiting | .passed => false

structure Connect where
  monitor : Monitor ExampleThread
  /-- `g_connected` -/
  connected : Bool
  main : MainPoint
  pt : PtPoint

inductive ConnectEvent where
  | startProtocolTranslatorApi
  | mainLocks
  | mainWaits
  /-- the main thread wakes without a signal -/
  | mainWakes
  /-- the main thread has the mutex back -/
  | mainResumes
  | mainUnlocks
  | ptLocks (action : Action)
  /-- the PT thread sets the flag, or does what it is there for -/
  | ptStores
  | ptSignals
  | ptUnlocks
  deriving DecidableEq, Repr

namespace Connect

def start : Connect :=
  { monitor := Monitor.new, connected := false, main := .starting, pt := .notStarted }

/-- the assignment of `set_connected` or `set_disconnected` -/
def store (s : Connect) : Action → Connect
  | .setConnected => { s with connected := true, pt := .signalling }
  | .setDisconnected => { s with connected := false, pt := .unlocking }
  | .other => { s with pt := .unlocking }

def step (s : Connect) : ConnectEvent → Option Connect
  | .startProtocolTranslatorApi =>
    if s.main = .starting then some { s with main := .locking, pt := .idle } else none
  | .mainLocks =>
    if s.main = .locking then
      (s.monitor.lock .main).map fun monitor => { s with monitor, main := .locked }
    else none
  | .mainWaits =>
    if s.main = .locked then
      -- the flag is not looked at
      some { s with monitor := s.monitor.wait .main, main := .waiting }
    else none
  | .mainWakes => (s.monitor.wake .main).map fun monitor => { s with monitor }
  | .mainResumes =>
    if s.main = .waiting then
      (s.monitor.resume .main).map fun monitor => { s with monitor, main := .unlocking }
    else none
  | .mainUnlocks =>
    if s.main = .unlocking then
      some { s with monitor := s.monitor.unlock .main, main := .passed }
    else none
  | .ptLocks action =>
    if s.pt = .idle then
      (s.monitor.lock .pt).map fun monitor => { s with monitor, pt := .locked action }
    else none
  | .ptStores =>
    match s.pt with
    | .locked action => some (s.store action)
    | _ => none
  | .ptSignals =>
    if s.pt = .signalling then some { s with monitor := s.monitor.signal, pt := .unlocking }
    else none
  | .ptUnlocks =>
    if s.pt = .unlocking then some { s with monitor := s.monitor.unlock .pt, pt := .idle }
    else none

/-- the main thread is blocked on the condition, the flag is set and no signal is in flight -/
def Missed (s : Connect) : Prop :=
  .main ∈ s.monitor.waiting ∧ s.connected = true ∧ s.pt ≠ .signalling

/-- the flag is not set when the main thread starts to wait -/
def Keeps (s : Connect) : ConnectEvent → Prop
  | .mainWaits => s.connected = false
  | _ => True

instance (s : Connect) : (e : ConnectEvent) → Decidable (s.Keeps e)
  | .mainWaits => inferInstanceAs (Decidable (s.connected = false))
  | .startProtocolTranslatorApi | .mainLocks | .mainWakes | .mainResumes | .mainUnlocks
  | .ptLocks _ | .ptStores | .ptSignals | .ptUnlocks => .isTrue trivial

variable {s s' : Connect} {e : ConnectEvent}

/-! ## what a step does -/

inductive Taken (s : Connect) : ConnectEvent → Connect → Prop where
  | starts (hmain : s.main = .starting) :
      Taken s .startProtocolTranslatorApi { s with main := .locking, pt := .idle }
  | mainLocks {monitor : Monitor ExampleThread} (hmain : s.main = .locking)
      (hlock : s.monitor.lock .main = some monitor) :
      Taken s .mainLocks { s with monitor, main := .locked }
  | mainWaits (hmain : s.main = .locked) :
      Taken s .mainWaits { s with monitor := s.monitor.wait .main, main := .waiting }
  | mainWakes {monitor : Monitor ExampleThread} (hwake : s.monitor.wake .main = some monitor) :
      Taken s .mainWakes { s with monitor }
  | mainResumes {monitor : Monitor ExampleThread} (hmain : s.main = .waiting)
      (hresume : s.monitor.resume .main = some monitor) :
      Taken s .mainResumes { s with monitor, main := .unlocking }
  | mainUnlocks (hmain : s.main = .unlocking) :
      Taken s .mainUnlocks { s with monitor := s.monitor.unlock .main, main := .passed }
  | ptLocks {action : Action} {monitor : Monitor ExampleThread} (hpt : s.pt = .idle)
      (hlock : s.monitor.lock .pt = some monitor) :
      Taken s (.ptLocks action) { s with monitor, pt := .locked action }
  | ptStores {action : Action} (hpt : s.pt = .locked action) : Taken s .ptStores (s.store action)
  | ptSignals (hpt : s.pt = .signalling) :
      Taken s .ptSignals { s with monitor := s.monitor.signal, pt := .unlocking }
  | ptUnlocks (hpt : s.pt = .unlocking) :
      Taken s .ptUnlocks { s with monitor := s.monitor.unlock .pt, pt := .idle }

theorem taken_of_step (h : s.step e = some s') : Taken s e s' := by
  cases e with
  | startProtocolTranslatorApi =>
    obtain ⟨hmain, h⟩ := Option.ite_none_right_eq_some.mp h
    cases h
    exact .starts hmain
  | mainLocks =>
    obtain ⟨hmain, h⟩ := Option.ite_none_right_eq_some.mp h
    obtain ⟨monitor, hlock, rfl⟩ := Option.map_eq_some_iff.mp h
    exact .mainLocks hmain hlock
  | mainWaits =>
    obtain ⟨hmain, h⟩ := Option.ite_none_right_eq_some.mp h
    cases h
    exact .mainWaits hmain
  | mainWakes =>
    obtain ⟨monitor, hwake, rfl⟩ := Option.map_eq_some_iff.mp h
    exact .mainWakes hwake
  | mainResumes =>
    obtain ⟨hmain, h⟩ := Option.ite_none_right_eq_some.mp h
    obtain ⟨monitor, hresume, rfl⟩ := Option.map_eq_some_iff.mp h
    exact .mainResumes hmain hresume
  | mainUnlocks =>
    obtain ⟨hmain, h⟩ := Option.ite_none_right_eq_some.mp h
    cases h
    exact .mainUnlocks hmain
  | ptLocks action =>
    obtain ⟨hpt, h⟩ := Option.ite_none_right_eq_some.mp h
    obtain ⟨monitor, hlock, rfl⟩ := Option.map_eq_some_iff.mp h
    exact .ptLocks hpt hlock
  | ptStores =>
    unfold step at h
    simp only at h
    split at h
    · rename_i action hpt
      cases h
      exact .ptStores hpt
    · cases h
  | ptSignals =>
    obtain ⟨hpt, h⟩ := Option.ite_none_right_eq_some.mp h
    cases h
    exact .ptSignals hpt
  | ptUnlocks =>
    obtain ⟨hpt, h⟩ := Option.ite_none_right_eq_some.mp h
    cases h
    exact .ptUnlocks hpt

/-! ## the mutex -/

/-- what holds in every run: the mutex is used soundly, and only the main thread waits -/
structure Inv (s : Connect) : Prop where
  unlocks : s.monitor.Sound
  main : s.monitor.owner = some .main ↔ s.main.holds = true
  pt : s.monitor.owner = some .pt ↔ s.pt.holds = true
  parked : s.monitor.Parked .main (decide (s.main = .waiting))
  notStarted : s.main = .starting → s.pt = .notStarted

theorem inv_start : start.Inv :=
  ⟨Monitor.sound_new, iff_of_false nofun nofun, iff_of_false nofun nofun, Monitor.parked_new,
    fun _ => rfl⟩

theorem Inv.parked_false (h : s.Inv) (hmain : s.main ≠ .waiting) :
    s.monitor.Parked .main false := by
  have hparked := h.parked
  rwa [decide_eq_false hmain] at hparked

/-- the PT thread goes on under the mutex -/
theorem Inv.ptMoves (h : s.Inv) {pt : PtPoint} {connected : Bool} (hpt : s.pt.holds = true)
    (hpt' : pt.holds = true) : ({ s with pt, connected } : Connect).Inv := by
  refine ⟨h.unlocks, h.main, ?_, h.parked, ?_⟩
  · exact iff_of_true (h.pt.mpr hpt) hpt'
  · intro hmain
    rw [h.notStarted hmain] at hpt
    cases hpt

theorem inv_step (h : s.Inv) (hstep : s.step e = some s') : s'.Inv := by
  cases taken_of_step hstep with
  | starts hmain =>
    have hpt := h.pt
    rw [h.notStarted hmain] at hpt
    have howner := h.main
    rw [hmain] at howner
    exact ⟨h.unlocks, howner, hpt, h.parked_false (by rw [hmain]; nofun), nofun⟩
  | mainLocks hmain hlock =>
    obtain ⟨hfree, howner⟩ := Monitor.lock_owner hlock
    obtain ⟨hparked, -⟩ := (h.parked_false (by rw [hmain]; nofun)).lock hlock
    refine ⟨h.unlocks.lock hlock, iff_of_true howner rfl, ?_, hparked, nofun⟩
    refine iff_of_false (fun hpt => nomatch howner.symm.trans hpt) fun hholds => ?_
    cases hfree.symm.trans (h.pt.mpr hholds)
  | mainWaits hmain =>
    have howner : s.monitor.owner = some .main := h.main.mpr (by rw [hmain]; rfl)
    obtain ⟨hparked, -⟩ := (h.parked_false (by rw [hmain]; nofun)).wait
    refine ⟨Monitor.sound_wait_iff.mpr ⟨h.unlocks, howner⟩, iff_of_false nofun nofun, ?_, hparked,
      nofun⟩
    refine iff_of_false nofun fun hholds => ?_
    cases howner.symm.trans (h.pt.mpr hholds)
  | mainWakes hwake =>
    obtain ⟨hparked, -⟩ := h.parked.wake hwake
    have howner := Monitor.wake_owner hwake
    exact ⟨h.unlocks.wake hwake, howner ▸ h.main, howner ▸ h.pt, hparked, h.notStarted⟩
  | mainResumes hmain hresume =>
    obtain ⟨hfree, howner⟩ := Monitor.resume_owner hresume
    have hparked := h.parked
    rw [decide_eq_true hmain] at hparked
    refine ⟨h.unlocks.resume hresume, iff_of_true howner rfl, ?_, (hparked.resume hresume).1, nofun⟩
    refine iff_of_false (fun hpt => nomatch howner.symm.trans hpt) fun hholds => ?_
    cases hfree.symm.trans (h.pt.mpr hholds)
  | mainUnlocks hmain =>
    have howner : s.monitor.owner = some .main := h.main.mpr (by rw [hmain]; rfl)
    refine ⟨Monitor.sound_unlock_iff.mpr ⟨h.unlocks, howner⟩, iff_of_false nofun nofun, ?_,
      h.parked_false (by rw [hmain]; nofun), nofun⟩
    refine iff_of_false nofun fun hholds => ?_
    cases howner.symm.trans (h.pt.mpr hholds)
  | ptLocks hpt hlock =>
    obtain ⟨hfree, howner⟩ := Monitor.lock_owner hlock
    obtain ⟨hparked, -⟩ := h.parked.lock hlock
    refine ⟨h.unlocks.lock hlock, ?_, iff_of_true howner rfl, hparked, ?_⟩
    · refine iff_of_false (fun hmain => nomatch howner.symm.trans hmain) fun hholds => ?_
      cases hfree.symm.trans (h.main.mpr hholds)
    · intro hmain
      cases hpt.symm.trans (h.notStarted hmain)
  | @ptStores action hpt =>
    have hholds : s.pt.holds = true := by rw [hpt]; rfl
    cases action with
    | setConnected => exact h.ptMoves hholds rfl
    | setDisconnected => exact h.ptMoves hholds rfl
    | other => exact h.ptMoves hholds rfl
  | ptSignals hpt =>
    have howner : s.monitor.owner = some .pt := h.pt.mpr (by rw [hpt]; rfl)
    refine ⟨?_, ?_, iff_of_true (Monitor.signal_owner.trans howner) rfl, h.parked.signal.1, ?_⟩
    · unfold Monitor.Sound
      rw [Monitor.signal_unlocks]
      exact h.unlocks
    · rw [Monitor.signal_owner]
      exact h.main
    · intro hmain
      cases hpt.symm.trans (h.notStarted hmain)
  | ptUnlocks hpt =>
    have howner : s.monitor.owner = some .pt := h.pt.mpr (by rw [hpt]; rfl)
    refine ⟨Monitor.sound_unlock_iff.mpr ⟨h.unlocks, howner⟩, ?_, iff_of_false nofun nofun, h.parked,
      ?_⟩
    · refine iff_of_false nofun fun hholds => ?_
      cases howner.symm.trans (h.main.mpr hholds)
    · intro hmain
      cases hpt.symm.trans (h.notStarted hmain)

/-! ## the signal -/

/-- a state whose waiting thread, flag and signal in flight are those of another -/
theorem Missed.of_eq (h : s'.Missed) (hwaiting : s'.monitor.waiting = s.monitor.waiting)
    (hconnected : s'.connected = s.connected) (hpt : s.pt ≠ .signalling) : s.Missed :=
  ⟨hwaiting ▸ h.1, hconnected.symm.trans h.2.1, hpt⟩

/-- the main thread misses its signal when it starts to wait too late, and only then -/
theorem missed_step_iff (h : s.Inv) (hmissed : ¬ s.Missed) (hstep : s.step e = some s') :
    ¬ s'.Missed ↔ s.Keeps e := by
  cases taken_of_step hstep with
  | starts hmain =>
    refine iff_of_true (fun h' => hmissed (h'.of_eq rfl rfl ?_)) trivial
    rw [h.notStarted hmain]
    nofun
  | mainLocks hmain hlock =>
    refine iff_of_true (fun h' => hmissed ⟨?_, h'.2⟩) trivial
    exact (h.parked.lock hlock).2 ▸ h'.1
  | mainWaits hmain =>
    have howner : s.monitor.owner = some .main := h.main.mpr (by rw [hmain]; rfl)
    obtain ⟨-, hwaiting⟩ := (h.parked_false (by rw [hmain]; nofun)).wait
    -- the main thread holds the mutex, so no signal is in flight
    have hpt : s.pt ≠ .signalling := by
      intro hpt
      cases howner.symm.trans (h.pt.mpr (by rw [hpt]; rfl))
    have hmem : .main ∈ (s.monitor.wait .main).waiting := by
      rw [hwaiting]
      exact List.mem_singleton_self _
    refine ⟨fun hnot => ?_, fun hkeeps h' => ?_⟩
    · exact Bool.eq_false_iff.mpr fun hconnected => hnot ⟨hmem, hconnected, hpt⟩
    · cases (hkeeps : s.connected = false).symm.trans h'.2.1
  | mainWakes hwake =>
    refine iff_of_true (fun h' => ?_) trivial
    have hmem := h'.1
    rw [(h.parked.wake hwake).2] at hmem
    cases hmem
  | mainResumes hmain hresume =>
    have hparked := h.parked
    rw [decide_eq_true hmain] at hparked
    refine iff_of_true (fun h' => hmissed ⟨?_, h'.2⟩) trivial
    exact (hparked.resume hresume).2 ▸ h'.1
  | mainUnlocks hmain => exact iff_of_true (fun h' => hmissed ⟨h'.1, h'.2⟩) trivial
  | ptLocks hpt hlock =>
    refine iff_of_true (fun h' => hmissed (h'.of_eq (h.parked.lock hlock).2 rfl ?_)) trivial
    rw [hpt]
    nofun
  | @ptStores action hpt =>
    refine iff_of_true (fun h' => ?_) trivial
    cases action with
    | setConnected => exact h'.2.2 rfl
    | setDisconnected => cases h'.2.1
    | other =>
      refine hmissed (h'.of_eq rfl rfl ?_)
      rw [hpt]
      nofun
  | ptSignals hpt =>
    refine iff_of_true (fun h' => ?_) trivial
    have hmem := h'.1
    rw [h.parked.signal.2] at hmem
    cases hmem
  | ptUnlocks hpt =>
    refine iff_of_true (fun h' => hmissed (h'.of_eq rfl rfl ?_)) trivial
    rw [hpt]
    nofun

/-- **The main thread misses no signal** in a run in which the flag is not set when it starts to
wait. -/
theorem signal_not_missed {es : List ConnectEvent} (h : Run step Keeps start es s) :
    ¬ s.Missed := by
  have hinv : ∀ es s, Run step Keeps start es s → s.Inv := fun es s h =>
    h.invariant inv_start fun _ _ _ hinv _ hstep => inv_step hinv hstep
  have hstart : ¬ start.Missed := fun h => nomatch h.1
  apply (h.strengthen hinv).invariant hstart
  intro s e s' hmissed ⟨hkeeps, hinv⟩ hstep
  exact (missed_step_iff hinv hmissed hstep).mpr hkeeps

/-- the main thread starts to wait, and then the devices are registered -/
def waitsFirst : List ConnectEvent :=
  [.startProtocolTranslatorApi, .mainLocks, .mainWaits, .ptLocks .setConnected, .ptStores,
    .ptSignals, .ptUnlocks]

theorem signal_not_missed_waitsFirst :
    ∃ s, Run step Keeps start waitsFirst s ∧ s.main = .waiting ∧ s.connected = true ∧
      ¬ s.Missed := by
  have hrun : ∃ s, run (guarded step Keeps) start waitsFirst = some s ∧
      (s.main = .waiting ∧ s.connected = true) := exists_of_run_any (by decide +kernel)
  obtain ⟨s, hs, hmain, hconnected⟩ := hrun
  exact ⟨s, Run.of_guarded hs, hmain, hconnected, signal_not_missed (Run.of_guarded hs)⟩

/-- the devices are registered before the main thread has the mutex -/
theorem signal_not_missed_fails :
    ∃ s, run step start [.startProtocolTranslatorApi, .ptLocks .setConnected, .ptStores, .ptSignals,
      .ptUnlocks, .mainLocks, .mainWaits] = some s ∧ s.pt = .idle ∧ s.Missed :=
  ⟨_, rfl, rfl, by decide, rfl, nofun⟩

end Connect

end EdgeTranslators.PtExample
