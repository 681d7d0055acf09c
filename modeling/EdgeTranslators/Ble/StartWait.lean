import EdgeTranslators.Lib.Monitor
import EdgeTranslators.Lib.Run

/-!
# The mutex the shutdown waits under (`blept-example/pt_edge.c`)

The PT thread takes `pt_api_start_wait_mutex` before it creates its client, and callbacks of the
client, which run on that thread, signal `pt_api_start_wait_cond` and unlock the mutex.  The main
thread takes the mutex in `stop_protocol_translator_api`, and waits if there is no client.

* `PtPoint`, `MainPoint`, `StartWait`   where the two threads are, and the mutex;
* `StartWait.step`                      the steps of the two threads;
* `StartWait.Sound`                     the mutex is used soundly;
* `StartWait.Keeps`                     the steps that keep it so;
* `startWait_sound`, `sound_iff_keeps`  they do, and no others.
-/

namespace EdgeTranslators.Ble
open Lib

inductive ApiThread where
  | pt
  | main
  deriving DecidableEq, Repr

/-- where the PT thread is in `protocol_translator_api_start_func` -/
inductive PtPoint where
  /-- before it locks the mutex -/
  | starting
  /-- before `pt_client_create` -/
  | creating
  /-- in `pt_client_start` -/
  | running
  /-- in a callback that has signalled and will unlock; `answer` tells whether it answers the PT
  registration -/
  | unlocking (answer : Bool)
  | returned
  deriving DecidableEq, Repr

/-- where the main thread is in `stop_protocol_translator_api` -/
inductive MainPoint where
  /-- not yet in it -/
  | working
  /-- before it locks the mutex -/
  | locking
  /-- before it looks at `g_client` -/
  | checking
  | waiting
  /-- before it unlocks the mutex -/
  | unlocking
  /-- at `pt_client_shutdown` or after it -/
  | stopped
  deriving DecidableEq, Repr

/-- the main thread is between its lock and its unlock, and not blocked -/
def MainPoint.holds : MainPoint → Bool
  | .checking | .unlocking => true
  | _ => false

structure StartWait where
  monitor : Monitor ApiThread
  /-- `g_client` is not null -/
  client : Bool
  pt : PtPoint
  main : MainPoint
  /-- a PT registration was answered, and the answer was handled -/
  answered : Bool
  /-- a callback has unlocked the mutex -/
  released : Bool

inductive StartWaitEvent where
  | ptLocks
  /-- `pt_client_create` -/
  | creates (ok : Bool)
  | protocolTranslatorRegistrationSuccess
  | protocolTranslatorRegistrationFailure
  | deviceRegistrationFailure
  /-- the callback unlocks -/
  | ptUnlocks
  /-- `pt_client_start` returns -/
  | startReturns
  /-- the main thread calls `stop_protocol_translator_api` -/
  | stop
  | mainLocks
  | mainChecks
  /-- the main thread wakes without a signal -/
  | mainWakes
  /-- the main thread has the mutex back -/
  | mainResumes
  | mainUnlocks
  deriving DecidableEq, Repr

namespace StartWait

def start : StartWait :=
  { monitor := Monitor.new, client := false, pt := .starting, main := .working, answered := false,
    released := false }

/-- `pthread_cond_signal` and then `pthread_mutex_unlock` -/
def signalAndUnlock (s : StartWait) (answer : Bool) : StartWait :=
  { s with monitor := s.monitor.signal, pt := .unlocking answer }

def step (s : StartWait) : StartWaitEvent → Option StartWait
  | .ptLocks =>
    if s.pt = .starting then
      (s.monitor.lock .pt).map fun monitor => { s with monitor, pt := .creating }
    else none
  | .creates ok =>
    if s.pt = .creating then
      some { s with client := ok, pt := if ok then .running else .returned }
    else none
  | .protocolTranslatorRegistrationSuccess =>
    if s.pt = .running then some (s.signalAndUnlock true) else none
  | .protocolTranslatorRegistrationFailure =>
    -- the mutex is left as it is
    if s.pt = .running then some { s with answered := true } else none
  | .deviceRegistrationFailure =>
    if s.pt = .running then some (s.signalAndUnlock false) else none
  | .ptUnlocks =>
    match s.pt with
    | .unlocking answer =>
      some { s with
        monitor := s.monitor.unlock .pt
        pt := .running
        answered := s.answered || answer
        released := true }
    | _ => none
  | .startReturns => if s.pt = .running then some { s with pt := .returned } else none
  | .stop => if s.main = .working then some { s with main := .locking } else none
  | .mainLocks =>
    if s.main = .locking then
      (s.monitor.lock .main).map fun monitor => { s with monitor, main := .checking }
    else none
  | .mainChecks =>
    if s.main = .checking then
      if s.client then some { s with main := .unlocking }
      else some { s with monitor := s.monitor.wait .main, main := .waiting }
    else none
  | .mainWakes => (s.monitor.wake .main).map fun monitor => { s with monitor }
  | .mainResumes =>
    if s.main = .waiting then
      (s.monitor.resume .main).map fun monitor => { s with monitor, main := .unlocking }
    else none
  | .mainUnlocks =>
    if s.main = .unlocking then
      some { s with monitor := s.monitor.unlock .main, main := .stopped }
    else none

/-- every unlock is made by the thread that holds the mutex, and once the PT thread has returned or
a PT registration was answered nobody holds it outside `stop_protocol_translator_api` -/
structure Sound (s : StartWait) : Prop where
  unlocks : s.monitor.Sound
  free : s.pt = .returned ∨ s.answered = true → ∀ t, s.monitor.owner = some t →
    t = .main ∧ s.main.holds = true

/-- The client is created, one callback unlocks the mutex and no further one does, and it does so
before a PT registration fails and before `pt_client_start` returns. -/
def Keeps (s : StartWait) : StartWaitEvent → Prop
  | .creates ok => ok = true
  | .ptUnlocks => s.released = false
  | .protocolTranslatorRegistrationFailure | .startReturns => s.released = true
  | _ => True

instance (s : StartWait) : (e : StartWaitEvent) → Decidable (s.Keeps e)
  | .creates ok => inferInstanceAs (Decidable (ok = true))
  | .ptUnlocks => inferInstanceAs (Decidable (s.released = false))
  | .protocolTranslatorRegistrationFailure | .startReturns =>
    inferInstanceAs (Decidable (s.released = true))
  | .ptLocks | .protocolTranslatorRegistrationSuccess | .deviceRegistrationFailure | .stop
  | .mainLocks | .mainChecks | .mainWakes | .mainResumes | .mainUnlocks => .isTrue trivial

variable {s s' : StartWait} {e : StartWaitEvent}

/-! ## what a step does -/

inductive Taken (s : StartWait) : StartWaitEvent → StartWait → Prop where
  | ptLocks {monitor : Monitor ApiThread} (hpt : s.pt = .starting)
      (hlock : s.monitor.lock .pt = some monitor) :
      Taken s .ptLocks { s with monitor, pt := .creating }
  | creates {ok : Bool} (hpt : s.pt = .creating) :
      Taken s (.creates ok) { s with client := ok, pt := if ok then .running else .returned }
  | signals {e : StartWaitEvent} {answer : Bool} (hpt : s.pt = .running)
      (he : e = .protocolTranslatorRegistrationSuccess ∨ e = .deviceRegistrationFailure) :
      Taken s e (s.signalAndUnlock answer)
  | failure (hpt : s.pt = .running) :
      Taken s .protocolTranslatorRegistrationFailure { s with answered := true }
  | ptUnlocks {answer : Bool} (hpt : s.pt = .unlocking answer) :
      Taken s .ptUnlocks
        { s with
          monitor := s.monitor.unlock .pt
          pt := .running
          answered := s.answered || answer
          released := true }
  | startReturns (hpt : s.pt = .running) : Taken s .startReturns { s with pt := .returned }
  | stop (hmain : s.main = .working) : Taken s .stop { s with main := .locking }
  | mainLocks {monitor : Monitor ApiThread} (hmain : s.main = .locking)
      (hlock : s.monitor.lock .main = some monitor) :
      Taken s .mainLocks { s with monitor, main := .checking }
  | mainFinds (hmain : s.main = .checking) (hclient : s.client = true) :
      Taken s .mainChecks { s with main := .unlocking }
  | mainWaits (hmain : s.main = .checking) (hclient : s.client = false) :
      Taken s .mainChecks { s with monitor := s.monitor.wait .main, main := .waiting }
  | mainWakes {monitor : Monitor ApiThread} (hwake : s.monitor.wake .main = some monitor) :
      Taken s .mainWakes { s with monitor }
  | mainResumes {monitor : Monitor ApiThread} (hmain : s.main = .waiting)
      (hresume : s.monitor.resume .main = some monitor) :
      Taken s .mainResumes { s with monitor, main := .unlocking }
  | mainUnlocks (hmain : s.main = .unlocking) :
      Taken s .mainUnlocks { s with monitor := s.monitor.unlock .main, main := .stopped }

theorem taken_of_step (h : s.step e = some s') : Taken s e s' := by
  cases e with
  | ptLocks =>
    obtain ⟨hpt, h⟩ := Option.ite_none_right_eq_some.mp h
    obtain ⟨monitor, hlock, rfl⟩ := Option.map_eq_some_iff.mp h
    exact .ptLocks hpt hlock
  | creates ok =>
    obtain ⟨hpt, h⟩ := Option.ite_none_right_eq_some.mp h
    cases h
    exact .creates hpt
  | protocolTranslatorRegistrationSuccess =>
    obtain ⟨hpt, h⟩ := Option.ite_none_right_eq_some.mp h
    cases h
    exact .signals hpt (.inl rfl)
  | protocolTranslatorRegistrationFailure =>
    obtain ⟨hpt, h⟩ := Option.ite_none_right_eq_some.mp h
    cases h
    exact .failure hpt
  | deviceRegistrationFailure =>
    obtain ⟨hpt, h⟩ := Option.ite_none_right_eq_some.mp h
    cases h
    exact .signals hpt (.inr rfl)
  | ptUnlocks =>
    unfold step at h
    simp only at h
    split at h
    · rename_i answer hpt
      cases h
      exact .ptUnlocks hpt
    · cases h
  | startReturns =>
    obtain ⟨hpt, h⟩ := Option.ite_none_right_eq_some.mp h
    cases h
    exact .startReturns hpt
  | stop =>
    obtain ⟨hmain, h⟩ := Option.ite_none_right_eq_some.mp h
    cases h
    exact .stop hmain
  | mainLocks =>
    obtain ⟨hmain, h⟩ := Option.ite_none_right_eq_some.mp h
    obtain ⟨monitor, hlock, rfl⟩ := Option.map_eq_some_iff.mp h
    exact .mainLocks hmain hlock
  | mainChecks =>
    obtain ⟨hmain, h⟩ := Option.ite_none_right_eq_some.mp h
    by_cases hclient : s.client = true
    · rw [if_pos hclient] at h
      cases h
      exact .mainFinds hmain hclient
    · rw [if_neg hclient] at h
      cases h
      exact .mainWaits hmain (Bool.eq_false_iff.mpr hclient)
  | mainWakes =>
    obtain ⟨monitor, hwake, rfl⟩ := Option.map_eq_some_iff.mp h
    exact .mainWakes hwake
  | mainResumes =>
    obtain ⟨hmain, h⟩ := Option.ite_none_right_eq_some.mp h
    obtain ⟨monitor, hresume, rfl⟩ := Option.map_eq_some_iff.mp h
    exact .mainResumes hmain hresume
  | mainUnlocks =>
    obtain ⟨hmain, h⟩ := Option.ite_none_right_eq_some.mp h
    cases h
    exact .mainUnlocks hmain

/-! ## the steps that use the mutex soundly -/

/-- the PT thread holds the mutex from its lock to the first unlock in a callback -/
def ptHolds : PtPoint → Bool → Bool
  | .creating, _ => true
  | .running, released | .unlocking _, released => !released
  | .starting, _ | .returned, _ => false

/-- the PT thread has not signalled yet -/
def silent : PtPoint → Bool → Bool
  | .starting, _ | .creating, _ => true
  | .running, released => !released
  | .unlocking _, _ | .returned, _ => false

/-- what holds in every run of steps that keep the use sound -/
structure Inv (s : StartWait) : Prop where
  unlocks : s.monitor.Sound
  pt : s.monitor.owner = some .pt ↔ ptHolds s.pt s.released = true
  main : s.monitor.owner = some .main ↔ s.main.holds = true
  client : s.client = false ↔ s.pt = .starting ∨ s.pt = .creating
  released : s.client = false → s.released = false
  returned : s.pt = .returned → s.released = true
  answered : s.answered = true → s.released = true
  parked : s.monitor.Parked .main (decide (s.main = .waiting))
  /-- whoever still waits will be signalled -/
  waiting : s.monitor.waiting = [] ∨ silent s.pt s.released = true

theorem inv_start : start.Inv :=
  ⟨Monitor.sound_new, iff_of_false nofun nofun, iff_of_false nofun nofun, iff_of_true rfl (.inl rfl),
    fun _ => rfl, nofun, nofun, Monitor.parked_new, .inl rfl⟩

theorem Inv.client_of_released (h : s.Inv) (hreleased : s.released = true) : s.client = true := by
  cases hclient : s.client with
  | true => rfl
  | false => cases hreleased.symm.trans (h.released hclient)

theorem Inv.not_pt_of_released (h : s.Inv) (hreleased : s.released = true) :
    s.monitor.owner ≠ some .pt := by
  intro howner
  have hholds := h.pt.mp howner
  have hclient := h.client_of_released hreleased
  rw [hreleased] at hholds
  cases hpt : s.pt with
  | creating => cases hclient.symm.trans (h.client.mpr (.inr hpt))
  | _ =>
    rw [hpt] at hholds
    cases hholds

theorem Inv.released_of_done (h : s.Inv) (hdone : s.pt = .returned ∨ s.answered = true) :
    s.released = true :=
  hdone.elim h.returned h.answered

theorem Inv.sound (h : s.Inv) : s.Sound := by
  refine ⟨h.unlocks, ?_⟩
  intro hdone t howner
  cases t with
  | main => exact ⟨rfl, h.main.mp howner⟩
  | pt => exact absurd howner (h.not_pt_of_released (h.released_of_done hdone))

/-- a step of the PT thread that leaves the monitor and the main thread as they are -/
theorem Inv.ptMoves (h : s.Inv) {pt : PtPoint} {client answered : Bool} (hclient : client = true)
    (hpt : pt = .running ∨ pt = .returned)
    (hholds : ptHolds pt s.released = ptHolds s.pt s.released)
    (hsilent : silent pt s.released = silent s.pt s.released)
    (hreturned : pt = .returned → s.released = true)
    (hanswered : answered = true → s.released = true) :
    ({ s with pt, client, answered } : StartWait).Inv := by
  subst hclient
  refine ⟨h.unlocks, ?_, h.main, ?_, nofun, hreturned, hanswered, h.parked, ?_⟩
  · rw [hholds]
    exact h.pt
  · rcases hpt with rfl | rfl <;> simp
  · rw [hsilent]
    exact h.waiting

/-- a step of the main thread that leaves the monitor as it is -/
theorem Inv.mainMoves (h : s.Inv) {main : MainPoint} (hholds : main.holds = s.main.holds)
    (hwaiting : main = .waiting ↔ s.main = .waiting) : ({ s with main } : StartWait).Inv := by
  refine ⟨h.unlocks, h.pt, ?_, h.client, h.released, h.returned, h.answered, ?_, h.waiting⟩
  · rw [hholds]
    exact h.main
  · simp only [hwaiting]
    exact h.parked

/-- the main thread does not wait before it waits, and not after it -/
theorem Inv.parked_false (h : s.Inv) (hmain : s.main ≠ .waiting) :
    s.monitor.Parked .main false := by
  have hparked := h.parked
  rwa [decide_eq_false hmain] at hparked

theorem Inv.running (h : s.Inv) (hpt : s.pt ≠ .starting) (hpt' : s.pt ≠ .creating) :
    s.client ≠ false :=
  fun hclient => (h.client.mp hclient).elim hpt hpt'

theorem inv_step (h : s.Inv) (hkeeps : s.Keeps e) (hstep : s.step e = some s') : s'.Inv := by
  cases taken_of_step hstep with
  | ptLocks hpt hlock =>
    obtain ⟨hfree, howner⟩ := Monitor.lock_owner hlock
    obtain ⟨hparked, hwaiting⟩ := h.parked.lock hlock
    refine ⟨h.unlocks.lock hlock, iff_of_true howner rfl, ?_, ?_, h.released, nofun, h.answered,
      hparked, .inr rfl⟩
    · refine iff_of_false (fun hmain => nomatch howner.symm.trans hmain) fun hholds => ?_
      cases hfree.symm.trans (h.main.mpr hholds)
    · exact iff_of_true (h.client.mpr (.inl hpt)) (.inr rfl)
  | @creates ok hpt =>
    cases (hkeeps : ok = true)
    have hreleased := h.released (h.client.mpr (.inr hpt))
    refine h.ptMoves rfl (.inl rfl) ?_ ?_ nofun h.answered <;> rw [hpt, hreleased] <;> rfl
  | signals hpt he =>
    have hclient := h.running (by rw [hpt]; nofun) (by rw [hpt]; nofun)
    obtain ⟨hparked, hwaiting⟩ := h.parked.signal
    refine ⟨?_, ?_, ?_, iff_of_false hclient nofun, h.released, nofun, h.answered, hparked,
      .inl hwaiting⟩
    · unfold Monitor.Sound
      rw [signalAndUnlock, Monitor.signal_unlocks]
      exact h.unlocks
    · have howner := h.pt
      rw [hpt] at howner
      rw [signalAndUnlock, Monitor.signal_owner]
      exact howner
    · rw [signalAndUnlock, Monitor.signal_owner]
      exact h.main
  | failure hpt =>
    have hclient := h.client_of_released hkeeps
    exact h.ptMoves hclient (.inl hpt) rfl rfl (fun _ => hkeeps) fun _ => hkeeps
  | @ptUnlocks answer hpt =>
    have hreleased : s.released = false := hkeeps
    have howner : s.monitor.owner = some .pt := h.pt.mpr (by rw [hpt, hreleased]; rfl)
    have hclient := h.running (by rw [hpt]; nofun) (by rw [hpt]; nofun)
    refine ⟨?_, iff_of_false nofun nofun, ?_, iff_of_false hclient nofun, ?_, nofun, fun _ => rfl,
      h.parked, .inl ?_⟩
    · exact Monitor.sound_unlock_iff.mpr ⟨h.unlocks, howner⟩
    · refine iff_of_false nofun fun hholds => ?_
      cases howner.symm.trans (h.main.mpr hholds)
    · exact fun hclient' => absurd hclient' hclient
    · rcases h.waiting with hwaiting | hsilent
      · exact hwaiting
      · rw [hpt] at hsilent
        cases hsilent
  | startReturns hpt =>
    have hreleased : s.released = true := hkeeps
    have hclient := h.client_of_released hreleased
    refine h.ptMoves hclient (.inr rfl) ?_ ?_ (fun _ => hreleased) h.answered <;>
      rw [hpt, hreleased] <;> rfl
  | stop hmain => exact h.mainMoves (by rw [hmain]; rfl) (by simp [hmain])
  | mainLocks hmain hlock =>
    obtain ⟨hfree, howner⟩ := Monitor.lock_owner hlock
    obtain ⟨hparked, hwaiting⟩ := (h.parked_false (by rw [hmain]; nofun)).lock hlock
    refine ⟨h.unlocks.lock hlock, ?_, iff_of_true howner rfl, h.client, h.released, h.returned,
      h.answered, hparked, hwaiting ▸ h.waiting⟩
    refine iff_of_false (fun hpt => nomatch howner.symm.trans hpt) fun hholds => ?_
    cases hfree.symm.trans (h.pt.mpr hholds)
  | mainFinds hmain hclient => exact h.mainMoves (by rw [hmain]; rfl) (by simp [hmain])
  | mainWaits hmain hclient =>
    have howner : s.monitor.owner = some .main := h.main.mpr (by rw [hmain]; rfl)
    obtain ⟨hparked, -⟩ := (h.parked_false (by rw [hmain]; nofun)).wait
    refine ⟨?_, ?_, iff_of_false nofun nofun, h.client, h.released, h.returned, h.answered,
      hparked, .inr ?_⟩
    · exact Monitor.sound_wait_iff.mpr ⟨h.unlocks, howner⟩
    · refine iff_of_false nofun fun hholds => ?_
      cases howner.symm.trans (h.pt.mpr hholds)
    · rcases h.client.mp hclient with hpt | hpt <;> rw [hpt] <;> rfl
  | mainWakes hwake =>
    obtain ⟨hparked, hwaiting⟩ := h.parked.wake hwake
    have howner := Monitor.wake_owner hwake
    exact ⟨h.unlocks.wake hwake, howner ▸ h.pt, howner ▸ h.main, h.client, h.released, h.returned,
      h.answered, hparked, .inl hwaiting⟩
  | mainResumes hmain hresume =>
    obtain ⟨hfree, howner⟩ := Monitor.resume_owner hresume
    have hparked := h.parked
    rw [decide_eq_true hmain] at hparked
    obtain ⟨hparked', hwaiting⟩ := hparked.resume hresume
    refine ⟨h.unlocks.resume hresume, ?_, iff_of_true howner rfl, h.client, h.released, h.returned,
      h.answered, hparked', hwaiting ▸ h.waiting⟩
    refine iff_of_false (fun hpt => nomatch howner.symm.trans hpt) fun hholds => ?_
    cases hfree.symm.trans (h.pt.mpr hholds)
  | mainUnlocks hmain =>
    have howner : s.monitor.owner = some .main := h.main.mpr (by rw [hmain]; rfl)
    have hparked := h.parked_false (by rw [hmain]; nofun)
    refine ⟨?_, ?_, iff_of_false nofun nofun, h.client, h.released, h.returned, h.answered,
      hparked, h.waiting⟩
    · exact Monitor.sound_unlock_iff.mpr ⟨h.unlocks, howner⟩
    · refine iff_of_false nofun fun hholds => ?_
      cases howner.symm.trans (h.pt.mpr hholds)

/-- the condition is exact: of the steps from such a state only those that meet it are sound -/
theorem sound_iff_keeps (h : s.Inv) (hstep : s.step e = some s') : s'.Sound ↔ s.Keeps e := by
  refine ⟨fun hsound => ?_, fun hkeeps => (inv_step h hkeeps hstep).sound⟩
  cases taken_of_step hstep with
  | @creates ok hpt =>
    cases ok with
    | true => rfl
    | false =>
      have howner : s.monitor.owner = some .pt := h.pt.mpr (by rw [hpt]; rfl)
      cases (hsound.free (.inl rfl) .pt howner).1
  | failure hpt =>
    show s.released = true
    cases hreleased : s.released with
    | true => rfl
    | false =>
      have howner : s.monitor.owner = some .pt := h.pt.mpr (by rw [hpt, hreleased]; rfl)
      cases (hsound.free (.inr rfl) .pt howner).1
  | ptUnlocks hpt =>
    have hholds := h.pt.mp (Monitor.sound_unlock_iff.mp hsound.unlocks).2
    rw [hpt] at hholds
    exact Bool.not_eq_true' _ |>.mp hholds
  | startReturns hpt =>
    show s.released = true
    cases hreleased : s.released with
    | true => rfl
    | false =>
      have howner : s.monitor.owner = some .pt := h.pt.mpr (by rw [hpt, hreleased]; rfl)
      cases (hsound.free (.inl rfl) .pt howner).1
  | signals hpt he => rcases he with rfl | rfl <;> trivial
  | _ => trivial

/-! ## the shutdown -/

theorem Inv.not_silent (h : s.Inv) (hreleased : s.released = true) :
    silent s.pt s.released = false := by
  have hclient := h.client_of_released hreleased
  rw [hreleased]
  cases hpt : s.pt with
  | starting => cases hclient.symm.trans (h.client.mpr (.inl hpt))
  | creating => cases hclient.symm.trans (h.client.mpr (.inr hpt))
  | _ => rfl

/-- the mutex is free when the main thread waits for it -/
theorem Inv.free (h : s.Inv) (hreleased : s.released = true) (hmain : s.main.holds = false) :
    s.monitor.owner = none := by
  cases howner : s.monitor.owner with
  | none => rfl
  | some t =>
    cases t with
    | pt => exact absurd howner (h.not_pt_of_released hreleased)
    | main => cases hmain.symm.trans (h.main.mp howner)

/-- a main thread that waits was woken -/
theorem Inv.woken (h : s.Inv) (hreleased : s.released = true) (hmain : s.main = .waiting) :
    .main ∈ s.monitor.woken := by
  have hparked := h.parked
  rw [decide_eq_true hmain] at hparked
  rcases h.waiting with hwaiting | hsilent
  · exact hparked.woken hwaiting
  · cases (h.not_silent hreleased).symm.trans hsilent

/-- **The mutex is used soundly** in every run in which the client is created and one callback
unlocks, once, before a PT registration fails and before `pt_client_start` returns; and then the
shutdown never blocks for ever. -/
theorem startWait_sound {es : List StartWaitEvent} (h : Run step Keeps start es s) :
    s.Sound ∧ (s.pt = .returned ∨ s.answered = true →
      (s.main = .locking → (s.step .mainLocks).isSome = true) ∧
        (s.main = .waiting → (s.step .mainResumes).isSome = true)) := by
  have hinv : s.Inv :=
    h.invariant inv_start fun _ _ _ hinv hkeeps hstep => inv_step hinv hkeeps hstep
  refine ⟨hinv.sound, fun hdone => ?_⟩
  have hreleased := hinv.released_of_done hdone
  constructor
  · intro hmain
    have hfree := hinv.free hreleased (by rw [hmain]; rfl)
    simp [step, hmain, Monitor.lock, hfree]
  · intro hmain
    have hfree := hinv.free hreleased (by rw [hmain]; rfl)
    simp [step, hmain, Monitor.resume, hfree, hinv.woken hreleased hmain]

/-- the main thread is first, and waits until the registration of the PT succeeds -/
def mainFirst : List StartWaitEvent :=
  [.stop, .mainLocks, .mainChecks, .ptLocks, .creates true, .protocolTranslatorRegistrationSuccess,
    .ptUnlocks]

theorem startWait_sound_mainFirst :
    ∃ s, Run step Keeps start mainFirst s ∧ s.answered = true ∧ s.main = .waiting ∧ s.Sound ∧
      (s.step .mainResumes).isSome = true := by
  have hrun : ∃ s, run (guarded step Keeps) start mainFirst = some s ∧
      (s.answered = true ∧ s.main = .waiting) := exists_of_run_any (by decide +kernel)
  obtain ⟨s, hs, hanswered, hmain⟩ := hrun
  have hsound := startWait_sound (Run.of_guarded hs)
  exact ⟨s, Run.of_guarded hs, hanswered, hmain, hsound.1, (hsound.2 (.inr hanswered)).2 hmain⟩

theorem not_sound_of_held (hdone : s.pt = .returned ∨ s.answered = true)
    (howner : s.monitor.owner = some .pt) : ¬ s.Sound := by
  intro h
  cases (h.free hdone .pt howner).1

/-- the PT thread locks the mutex and gets its client -/
def created : List StartWaitEvent := [.ptLocks, .creates true]

/-- Without a client, or when the PT registration fails, the PT thread keeps the mutex, and the
shutdown blocks.  The second success, or a device registration that fails, unlocks a mutex that
nobody holds. -/
theorem startWait_sound_fails :
    (∃ s, run step start [.ptLocks, .creates false, .stop] = some s ∧ ¬ s.Sound ∧
      s.step .mainLocks = none) ∧
    (∃ s, run step start (created ++
        [StartWaitEvent.protocolTranslatorRegistrationFailure, .stop]) = some s ∧
      ¬ s.Sound ∧ s.step .mainLocks = none) ∧
    (∃ s, run step start (created ++
        [StartWaitEvent.protocolTranslatorRegistrationSuccess, .ptUnlocks,
          .protocolTranslatorRegistrationSuccess, .ptUnlocks]) = some s ∧ ¬ s.Sound) ∧
    ∃ s, run step start (created ++
        [StartWaitEvent.protocolTranslatorRegistrationSuccess, .ptUnlocks,
          .deviceRegistrationFailure, .ptUnlocks]) = some s ∧ ¬ s.Sound := by
  refine ⟨⟨_, rfl, ?_, rfl⟩, ⟨_, rfl, ?_, rfl⟩, ⟨_, rfl, ?_⟩, ⟨_, rfl, ?_⟩⟩
  · exact not_sound_of_held (.inl rfl) rfl
  · exact not_sound_of_held (.inr rfl) rfl
  · exact fun h => nomatch h.unlocks (.pt, none) (by decide)
  · exact fun h => nomatch h.unlocks (.pt, none) (by decide)

end StartWait

end EdgeTranslators.Ble
