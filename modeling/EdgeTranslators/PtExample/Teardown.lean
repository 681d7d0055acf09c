import EdgeTranslators.Lib.Progress
import EdgeTranslators.PtExample.Connect
import Mathlib.Data.Bool.Basic
import Mathlib.Tactic.ByContra

/-!
# Unregistering the devices at the end (`pt-example/client_example.c`)

`shutdown_and_cleanup` asks for the devices to be unregistered and waits, under
`shutdown_wait_mutex`, for the callback to signal `shutdown_wait_cond`.  The callback runs in the
PT thread and does not lock the mutex.  The main thread calls `shutdown_and_cleanup` before it joins
the PT thread, and the PT thread calls it when the translator cannot be registered.

* `CleanupPoint`, `PtDoing`, `Teardown`   where the threads are, the monitor and what is due;
* `Teardown.step`                         the steps of the two threads;
* `Hopeless`                              a thread waits, and no signal is to come for it;
* `Keeps`, `hopeless_iff`                 what does not lead there, exactly;
* `main_joins_iff`                        where nothing more can happen the main thread has joined
                                          the other, unless one waits in vain.
-/

namespace EdgeTranslators.PtExample
open Lib

/-- where a thread is in `shutdown_and_cleanup` -/
inductive CleanupPoint where
  | outside
  /-- before it locks the mutex -/
  | locking
  /-- before `pt_devices_unregister_devices` -/
  | locked
  /-- before `pthread_cond_wait` -/
  | asked
  | waiting
  /-- before it unlocks the mutex -/
  | unlocking
  | passed
  deriving DecidableEq, Repr

def CleanupPoint.holds : CleanupPoint → Bool
  | .locked | .asked | .unlocking => true
  | .outside | .locking | .waiting | .passed => false

/-- what the PT thread does in `pt_client_start` -/
inductive PtDoing where
  /-- no callback runs -/
  | looping
  /-- before the `pthread_cond_signal` of `pt_devices_unregistration_common` -/
  | answering
  /-- before its `pt_client_shutdown` -/
  | signalled
  /-- in `protocol_translator_registration_failure` -/
  | failing
  | returned
  deriving DecidableEq, Repr

structure Teardown where
  /-- `shutdown_wait_mutex` and `shutdown_wait_cond` -/
  monitor : Monitor ExampleThread
  point : ExampleThread → CleanupPoint
  pt : PtDoing
  /-- the requests that were accepted and have not been answered -/
  answers : Nat
  /-- the calls of `pt_client_shutdown` -/
  shutdowns : Nat
  /-- `wait_for_protocol_translator_api_thread` has returned -/
  joined : Bool

inductive TeardownEvent where
  /-- `main_loop` returns -/
  | leaves
  | registrationFails
  | locks (t : ExampleThread)
  /-- `pt_devices_unregister_devices` succeeds or not -/
  | unregisters (t : ExampleThread) (accepted : Bool)
  | waits (t : ExampleThread)
  /-- a wakeup without a signal -/
  | wakes (t : ExampleThread)
  /-- the thread has the mutex back -/
  | resumes (t : ExampleThread)
  | unlocks (t : ExampleThread)
  /-- `devices_unregistration_success` or `devices_unregistration_failure` is called -/
  | answers
  | signals
  | shutsDown
  /-- `pt_client_start` returns after `pt_client_shutdown`, and after the callbacks -/
  | returns
  /-- `pt_client_start` returns by itself -/
  | gives
  | joins
  deriving DecidableEq, Repr

namespace Teardown

def start : Teardown :=
  { monitor := Monitor.new, point := fun _ => .outside, pt := .looping, answers := 0, shutdowns := 0
    joined := false }

def moveTo (s : Teardown) (t : ExampleThread) (p : CleanupPoint) : Teardown :=
  { s with point := fun u => if u = t then p else s.point u }

def step (s : Teardown) : TeardownEvent → Option Teardown
  | .leaves => if s.point .main = .outside then some (s.moveTo .main .locking) else none
  | .registrationFails =>
    if s.pt = .looping ∧ s.point .pt = .outside then
      some { s.moveTo .pt .locking with pt := .failing }
    else none
  | .locks t =>
    if s.point t = .locking then
      (s.monitor.lock t).map fun monitor => { s.moveTo t .locked with monitor }
    else none
  | .unregisters t accepted =>
    if s.point t = .locked then
      if accepted then some { s.moveTo t .asked with answers := s.answers + 1 }
      else some { s.moveTo t .unlocking with shutdowns := s.shutdowns + 1 }
    else none
  | .waits t =>
    if s.point t = .asked then
      -- nothing tells whether the callback has signalled
      some { s.moveTo t .waiting with monitor := s.monitor.wait t }
    else none
  | .wakes t => (s.monitor.wake t).map fun monitor => { s with monitor }
  | .resumes t =>
    if s.point t = .waiting then
      (s.monitor.resume t).map fun monitor => { s.moveTo t .unlocking with monitor }
    else none
  | .unlocks t =>
    if s.point t = .unlocking then
      some { s.moveTo t .passed with
        monitor := s.monitor.unlock t
        pt := if t = .pt then .looping else s.pt }
    else none
  | .answers =>
    if s.pt = .looping ∧ 0 < s.answers then
      some { s with pt := .answering, answers := s.answers - 1 }
    else none
  | .signals =>
    if s.pt = .answering then some { s with monitor := s.monitor.signal, pt := .signalled }
    else none
  | .shutsDown =>
    if s.pt = .signalled then some { s with pt := .looping, shutdowns := s.shutdowns + 1 }
    else none
  | .returns =>
    if s.pt = .looping ∧ s.answers = 0 ∧ 0 < s.shutdowns then some { s with pt := .returned }
    else none
  | .gives => if s.pt = .looping then some { s with pt := .returned } else none
  | .joins =>
    if s.point .main = .passed ∧ s.pt = .returned ∧ s.joined = false then
      some { s with joined := true }
    else none

/-- a thread waits for a signal, and none is to come -/
def Hopeless (s : Teardown) : Prop :=
  .main ∈ s.monitor.waiting ∧ s.pt ≠ .answering ∧ (s.answers = 0 ∨ s.pt = .returned) ∨
    .pt ∈ s.monitor.waiting

/-- a thread does not start to wait when no signal is to come, and the PT thread does not wait at
all, nor end while the main thread waits -/
def Keeps (s : Teardown) : TeardownEvent → Prop
  | .waits .main => s.pt = .answering ∨ 0 < s.answers ∧ s.pt ≠ .returned
  | .waits .pt => False
  | .gives => .main ∉ s.monitor.waiting
  | _ => True

instance (s : Teardown) : Decidable s.Hopeless := inferInstanceAs (Decidable (_ ∨ _))

instance (s : Teardown) : (e : TeardownEvent) → Decidable (s.Keeps e)
  | .waits .main =>
    inferInstanceAs (Decidable (s.pt = .answering ∨ 0 < s.answers ∧ s.pt ≠ .returned))
  | .waits .pt => .isFalse not_false
  | .gives => inferInstanceAs (Decidable (.main ∉ s.monitor.waiting))
  | .leaves | .registrationFails | .locks _ | .unregisters _ _ | .wakes _ | .resumes _
  | .unlocks _ | .answers | .signals | .shutsDown | .returns | .joins => .isTrue trivial

variable {s s' : Teardown} {e : TeardownEvent} {es : List TeardownEvent}

/-! ## what a step does -/

inductive Taken (s : Teardown) : TeardownEvent → Teardown → Prop where
  | leaves (hmain : s.point .main = .outside) : Taken s .leaves (s.moveTo .main .locking)
  | registrationFails (hpt : s.pt = .looping) (hpoint : s.point .pt = .outside) :
      Taken s .registrationFails { s.moveTo .pt .locking with pt := .failing }
  | locks {t : ExampleThread} {monitor : Monitor ExampleThread} (hpoint : s.point t = .locking)
      (hlock : s.monitor.lock t = some monitor) :
      Taken s (.locks t) { s.moveTo t .locked with monitor }
  | accepted {t : ExampleThread} (hpoint : s.point t = .locked) :
      Taken s (.unregisters t true) { s.moveTo t .asked with answers := s.answers + 1 }
  | refused {t : ExampleThread} (hpoint : s.point t = .locked) :
      Taken s (.unregisters t false) { s.moveTo t .unlocking with shutdowns := s.shutdowns + 1 }
  | waits {t : ExampleThread} (hpoint : s.point t = .asked) :
      Taken s (.waits t) { s.moveTo t .waiting with monitor := s.monitor.wait t }
  | wakes {t : ExampleThread} {monitor : Monitor ExampleThread}
      (hwake : s.monitor.wake t = some monitor) : Taken s (.wakes t) { s with monitor }
  | resumes {t : ExampleThread} {monitor : Monitor ExampleThread} (hpoint : s.point t = .waiting)
      (hresume : s.monitor.resume t = some monitor) :
      Taken s (.resumes t) { s.moveTo t .unlocking with monitor }
  | unlocks {t : ExampleThread} (hpoint : s.point t = .unlocking) :
      Taken s (.unlocks t) { s.moveTo t .passed with
        monitor := s.monitor.unlock t
        pt := if t = .pt then .looping else s.pt }
  | answers (hpt : s.pt = .looping) (hdue : 0 < s.answers) :
      Taken s .answers { s with pt := .answering, answers := s.answers - 1 }
  | signals (hpt : s.pt = .answering) :
      Taken s .signals { s with monitor := s.monitor.signal, pt := .signalled }
  | shutsDown (hpt : s.pt = .signalled) :
      Taken s .shutsDown { s with pt := .looping, shutdowns := s.shutdowns + 1 }
  | returns (hpt : s.pt = .looping) (hnone : s.answers = 0) (hdown : 0 < s.shutdowns) :
      Taken s .returns { s with pt := .returned }
  | gives (hpt : s.pt = .looping) : Taken s .gives { s with pt := .returned }
  | joins (hmain : s.point .main = .passed) (hpt : s.pt = .returned) (hjoined : s.joined = false) :
      Taken s .joins { s with joined := true }

theorem taken_of_step (h : s.step e = some s') : Taken s e s' := by
  cases e with
  | leaves =>
    obtain ⟨hmain, h⟩ := Option.ite_none_right_eq_some.mp h
    cases h
    exact .leaves hmain
  | registrationFails =>
    obtain ⟨⟨hpt, hpoint⟩, h⟩ := Option.ite_none_right_eq_some.mp h
    cases h
    exact .registrationFails hpt hpoint
  | locks t =>
    obtain ⟨hpoint, h⟩ := Option.ite_none_right_eq_some.mp h
    obtain ⟨monitor, hlock, rfl⟩ := Option.map_eq_some_iff.mp h
    exact .locks hpoint hlock
  | unregisters t accepted =>
    obtain ⟨hpoint, h⟩ := Option.ite_none_right_eq_some.mp h
    cases accepted with
    | true => cases h; exact .accepted hpoint
    | false => cases h; exact .refused hpoint
  | waits t =>
    obtain ⟨hpoint, h⟩ := Option.ite_none_right_eq_some.mp h
    cases h
    exact .waits hpoint
  | wakes t =>
    obtain ⟨monitor, hwake, rfl⟩ := Option.map_eq_some_iff.mp h
    exact .wakes hwake
  | resumes t =>
    obtain ⟨hpoint, h⟩ := Option.ite_none_right_eq_some.mp h
    obtain ⟨monitor, hresume, rfl⟩ := Option.map_eq_some_iff.mp h
    exact .resumes hpoint hresume
  | unlocks t =>
    obtain ⟨hpoint, h⟩ := Option.ite_none_right_eq_some.mp h
    cases h
    exact .unlocks hpoint
  | answers =>
    obtain ⟨⟨hpt, hdue⟩, h⟩ := Option.ite_none_right_eq_some.mp h
    cases h
    exact .answers hpt hdue
  | signals =>
    obtain ⟨hpt, h⟩ := Option.ite_none_right_eq_some.mp h
    cases h
    exact .signals hpt
  | shutsDown =>
    obtain ⟨hpt, h⟩ := Option.ite_none_right_eq_some.mp h
    cases h
    exact .shutsDown hpt
  | returns =>
    obtain ⟨⟨hpt, hnone, hdown⟩, h⟩ := Option.ite_none_right_eq_some.mp h
    cases h
    exact .returns hpt hnone hdown
  | gives =>
    obtain ⟨hpt, h⟩ := Option.ite_none_right_eq_some.mp h
    cases h
    exact .gives hpt
  | joins =>
    obtain ⟨⟨hmain, hpt, hjoined⟩, h⟩ := Option.ite_none_right_eq_some.mp h
    cases h
    exact .joins hmain hpt hjoined

/-! ## what goes together -/

/-- whether the request was made -/
def requested : CleanupPoint → Nat
  | .asked | .waiting | .unlocking | .passed => 1
  | .outside | .locking | .locked => 0

/-- whether a callback is on the way from the answer to `pt_client_shutdown` -/
def underway : PtDoing → Nat
  | .answering | .signalled => 1
  | .looping | .failing | .returned => 0

structure Inv (s : Teardown) : Prop where
  owner : ∀ t, s.monitor.owner = some t ↔ (s.point t).holds = true
  parks : s.monitor.Parks fun t => s.point t = .waiting
  failing : s.pt = .failing ↔ s.point .pt ≠ .outside ∧ s.point .pt ≠ .passed
  /-- each request is followed by one call of `pt_client_shutdown` -/
  due : s.answers + s.shutdowns + underway s.pt =
    requested (s.point .main) + requested (s.point .pt)
  joined : s.joined = true → s.pt = .returned ∧ s.point .main = .passed

theorem inv_start : start.Inv where
  owner t := iff_of_false (fun h => by cases h) (fun h => by cases h)
  parks := Monitor.parks_new.congr fun t => iff_of_false not_false (fun h => by cases h)
  failing := iff_of_false (fun h => by cases h) (fun h => h.1 rfl)
  due := rfl
  joined h := by cases h

theorem moveTo_point (t u : ExampleThread) (p : CleanupPoint) :
    (s.moveTo t p).point u = if u = t then p else s.point u := rfl

theorem moveTo_self (t : ExampleThread) (p : CleanupPoint) : (s.moveTo t p).point t = p :=
  if_pos rfl

theorem moveTo_of_ne {t u : ExampleThread} (h : u ≠ t) (p : CleanupPoint) :
    (s.moveTo t p).point u = s.point u :=
  if_neg h

/-- a sum over the points of both threads changes with the point of one -/
theorem sum_moveTo (f : CleanupPoint → Nat) (t : ExampleThread) (p : CleanupPoint) :
    f ((s.moveTo t p).point .main) + f ((s.moveTo t p).point .pt) + f (s.point t) =
      f (s.point .main) + f (s.point .pt) + f p := by
  cases t with
  | main =>
    rw [moveTo_self, moveTo_of_ne (by decide)]
    omega
  | pt =>
    rw [moveTo_self, moveTo_of_ne (by decide)]
    omega

/-! ## what a step keeps -/

/-- a thread that neither takes the mutex nor gives it back -/
theorem Inv.owner_moveTo (h : s.Inv) {t : ExampleThread} {p : CleanupPoint}
    (hholds : p.holds = (s.point t).holds) (u : ExampleThread) :
    s.monitor.owner = some u ↔ ((s.moveTo t p).point u).holds = true := by
  rw [h.owner, moveTo_point]
  split
  · rename_i hu
    rw [hholds, hu]
  · exact Iff.rfl

/-- a thread that takes the mutex -/
theorem Inv.owner_taken (h : s.Inv) {t : ExampleThread} {p : CleanupPoint}
    (hfree : s.monitor.owner = none) (hp : p.holds = true) (u : ExampleThread) :
    some t = some u ↔ ((s.moveTo t p).point u).holds = true := by
  have hnobody : ¬(s.point u).holds = true := by
    rw [← h.owner, hfree]
    exact fun howner => by cases howner
  rw [Option.some.injEq, moveTo_point]
  split
  · rename_i hu
    exact iff_of_true hu.symm hp
  · rename_i hu
    exact iff_of_false (fun heq => hu heq.symm) hnobody

/-- a thread that gives the mutex back -/
theorem Inv.owner_given (h : s.Inv) {t : ExampleThread} {p : CleanupPoint}
    (hholds : (s.point t).holds = true) (hp : p.holds = false) (u : ExampleThread) :
    none = some u ↔ ((s.moveTo t p).point u).holds = true := by
  refine iff_of_false (fun howner => by cases howner) ?_
  rw [moveTo_point]
  split
  · rw [hp]
    exact Bool.false_ne_true
  · rename_i hu
    rw [← h.owner, (h.owner t).mpr hholds]
    exact fun howner => hu (Option.some.inj howner).symm

/-- a thread that neither begins nor ends to wait -/
theorem Inv.parks_moveTo (h : s.Inv) {t : ExampleThread} {p : CleanupPoint}
    (hpoint : s.point t ≠ .waiting) (hp : p ≠ .waiting) :
    s.monitor.Parks fun u => (s.moveTo t p).point u = .waiting := by
  refine h.parks.congr fun u => ?_
  rw [moveTo_point]
  split
  · rename_i hu
    rw [hu]
    exact iff_of_false hpoint hp
  · exact Iff.rfl

/-- in `shutdown_and_cleanup` -/
def Within (p : CleanupPoint) : Prop := p ≠ .outside ∧ p ≠ .passed

instance (p : CleanupPoint) : Decidable (Within p) := inferInstanceAs (Decidable (_ ∧ _))

/-- a thread that stays in `shutdown_and_cleanup` -/
theorem Inv.failing_moveTo (h : s.Inv) {t : ExampleThread} {p : CleanupPoint}
    (hpoint : Within (s.point t)) (hp : Within p) :
    s.pt = .failing ↔ Within ((s.moveTo t p).point .pt) := by
  refine h.failing.trans ?_
  rw [moveTo_point]
  split
  · rename_i ht
    rw [← ht] at hpoint
    exact iff_of_true hpoint hp
  · exact Iff.rfl

/-- the requests are those of before, and one more where a thread has made it -/
theorem Inv.due_moveTo (h : s.Inv) {t : ExampleThread} {p : CleanupPoint} {n : Nat}
    (hn : n + requested (s.point t) =
      s.answers + s.shutdowns + underway s.pt + requested p) :
    n = requested ((s.moveTo t p).point .main) + requested ((s.moveTo t p).point .pt) := by
  have hdue := h.due
  have hsum := sum_moveTo (s := s) requested t p
  omega

/-- a thread on its way is not joined -/
theorem Inv.joined_moveTo (h : s.Inv) {t : ExampleThread} {p : CleanupPoint}
    (hpoint : s.point t ≠ .passed) (hjoined : s.joined = true) :
    s.pt = .returned ∧ (s.moveTo t p).point .main = .passed := by
  obtain ⟨hreturned, hpassed⟩ := h.joined hjoined
  refine ⟨hreturned, ?_⟩
  cases t with
  | main => exact absurd hpassed hpoint
  | pt => rwa [moveTo_of_ne (by decide)]

/-- the PT thread does not call `shutdown_and_cleanup` again after it has returned -/
theorem Inv.not_joined (h : s.Inv) (hpt : s.pt ≠ .returned) : s.joined ≠ true :=
  fun hjoined => hpt (h.joined hjoined).1

theorem Inv.leaves (h : s.Inv) (hmain : s.point .main = .outside) :
    (s.moveTo .main .locking).Inv where
  owner := h.owner_moveTo (by rw [hmain]; rfl)
  parks := h.parks_moveTo (by rw [hmain]; decide) (by decide)
  failing := by
    rw [moveTo_of_ne (by decide)]
    exact h.failing
  due := h.due_moveTo (by rw [hmain]; rfl)
  joined := h.joined_moveTo (by rw [hmain]; decide)

theorem Inv.registrationFails (h : s.Inv) (hpt : s.pt = .looping)
    (hpoint : s.point .pt = .outside) :
    ({ s.moveTo .pt .locking with pt := .failing } : Teardown).Inv where
  owner := h.owner_moveTo (by rw [hpoint]; rfl)
  parks := h.parks_moveTo (by rw [hpoint]; decide) (by decide)
  failing := by
    show _ ↔ Within ((s.moveTo .pt .locking).point .pt)
    rw [moveTo_self]
    exact iff_of_true rfl (by decide)
  due := h.due_moveTo (t := .pt) (p := .locking) (by
    show s.answers + s.shutdowns + underway .failing + requested (s.point .pt) = _
    rw [hpoint, hpt, requested, requested, underway, underway])
  joined hjoined := absurd hjoined (h.not_joined (by rw [hpt]; decide))

theorem Inv.locks (h : s.Inv) {t : ExampleThread} {monitor : Monitor ExampleThread}
    (hpoint : s.point t = .locking) (hlock : s.monitor.lock t = some monitor) :
    ({ s.moveTo t .locked with monitor } : Teardown).Inv := by
  obtain ⟨hfree, howner⟩ := Monitor.lock_owner hlock
  have hparks := h.parks_moveTo (t := t) (p := .locked) (by rw [hpoint]; decide) (by decide)
  exact {
    owner := fun u => by
      rw [howner]
      exact h.owner_taken hfree rfl u
    parks := (hparks.lock hlock).1
    failing := h.failing_moveTo (by rw [hpoint]; decide) (by decide)
    due := h.due_moveTo (by rw [hpoint]; rfl)
    joined := h.joined_moveTo (by rw [hpoint]; decide) }

theorem Inv.accepted (h : s.Inv) {t : ExampleThread} (hpoint : s.point t = .locked) :
    ({ s.moveTo t .asked with answers := s.answers + 1 } : Teardown).Inv where
  owner := h.owner_moveTo (by rw [hpoint]; rfl)
  parks := h.parks_moveTo (by rw [hpoint]; decide) (by decide)
  failing := h.failing_moveTo (by rw [hpoint]; decide) (by decide)
  due := h.due_moveTo (by
    show s.answers + 1 + s.shutdowns + underway s.pt + requested (s.point t) = _
    rw [hpoint, requested, requested]
    omega)
  joined := h.joined_moveTo (by rw [hpoint]; decide)

theorem Inv.refused (h : s.Inv) {t : ExampleThread} (hpoint : s.point t = .locked) :
    ({ s.moveTo t .unlocking with shutdowns := s.shutdowns + 1 } : Teardown).Inv where
  owner := h.owner_moveTo (by rw [hpoint]; rfl)
  parks := h.parks_moveTo (by rw [hpoint]; decide) (by decide)
  failing := h.failing_moveTo (by rw [hpoint]; decide) (by decide)
  due := h.due_moveTo (by
    show s.answers + (s.shutdowns + 1) + underway s.pt + requested (s.point t) = _
    rw [hpoint, requested, requested]
    omega)
  joined := h.joined_moveTo (by rw [hpoint]; decide)

theorem Inv.waits (h : s.Inv) {t : ExampleThread} (hpoint : s.point t = .asked) :
    ({ s.moveTo t .waiting with monitor := s.monitor.wait t } : Teardown).Inv where
  owner := h.owner_given (by rw [hpoint]; rfl) rfl
  parks := by
    have hnot : ¬s.point t = .waiting := by rw [hpoint]; decide
    refine (h.parks.wait hnot).congr fun u => ?_
    rw [moveTo_point]
    split
    · rename_i hu
      exact iff_of_true (.inl hu) rfl
    · rename_i hu
      exact or_iff_right hu
  failing := h.failing_moveTo (by rw [hpoint]; decide) (by decide)
  due := h.due_moveTo (by rw [hpoint]; rfl)
  joined := h.joined_moveTo (by rw [hpoint]; decide)

theorem Inv.resumes (h : s.Inv) {t : ExampleThread} {monitor : Monitor ExampleThread}
    (hpoint : s.point t = .waiting) (hresume : s.monitor.resume t = some monitor) :
    ({ s.moveTo t .unlocking with monitor } : Teardown).Inv := by
  obtain ⟨hfree, howner⟩ := Monitor.resume_owner hresume
  exact {
    owner := fun u => by
      rw [howner]
      exact h.owner_taken hfree rfl u
    parks := (h.parks.resume hresume).1.congr fun u => by
      rw [moveTo_point]
      split
      · rename_i hu
        exact iff_of_false (fun hother => hother.1 hu) (by decide)
      · rename_i hu
        exact and_iff_right hu
    failing := h.failing_moveTo (by rw [hpoint]; decide) (by decide)
    due := h.due_moveTo (by rw [hpoint]; rfl)
    joined := h.joined_moveTo (by rw [hpoint]; decide) }

theorem Inv.unlocks (h : s.Inv) {t : ExampleThread} (hpoint : s.point t = .unlocking) :
    ({ s.moveTo t .passed with
      monitor := s.monitor.unlock t
      pt := if t = .pt then .looping else s.pt } : Teardown).Inv := by
  have hparks := h.parks_moveTo (t := t) (p := .passed) (by rw [hpoint]; decide) (by decide)
  have howner := h.owner_given (t := t) (p := .passed) (by rw [hpoint]; rfl) rfl
  cases t with
  | main => exact {
      owner := howner
      parks := ⟨hparks.nodup, hparks.mem_iff⟩
      failing := by
        rw [moveTo_of_ne (by decide)]
        exact h.failing
      due := h.due_moveTo (by
        show s.answers + s.shutdowns + underway s.pt + requested (s.point .main) = _
        rw [hpoint, requested, requested])
      joined := fun hjoined => by
        cases hpoint.symm.trans (h.joined hjoined).2 }
  | pt =>
    -- the PT thread goes back to its loop
    have hfailing : s.pt = .failing := by
      rw [h.failing, hpoint]
      exact ⟨by decide, by decide⟩
    exact {
      owner := howner
      parks := ⟨hparks.nodup, hparks.mem_iff⟩
      failing := iff_of_false (fun hlooping => by cases hlooping) fun hwithin => hwithin.2 rfl
      due := h.due_moveTo (by
        show s.answers + s.shutdowns + underway .looping + requested (s.point .pt) = _
        rw [hpoint, hfailing, requested, requested, underway, underway])
      joined := fun hjoined => absurd hjoined (h.not_joined (by rw [hfailing]; decide)) }

/-- the PT thread goes on with its callbacks, or returns -/
theorem Inv.goes (h : s.Inv) {d : PtDoing} {n m : Nat} (hpt : s.pt ≠ .failing) (hd : d ≠ .failing)
    (hreturned : s.pt ≠ .returned)
    (hcount : n + m + underway d = s.answers + s.shutdowns + underway s.pt) :
    ({ s with pt := d, answers := n, shutdowns := m } : Teardown).Inv where
  owner := h.owner
  parks := h.parks
  failing := iff_of_false hd fun hwithin => hpt (h.failing.mpr hwithin)
  due := hcount.trans h.due
  joined hjoined := absurd hjoined (h.not_joined hreturned)

theorem inv_step (h : s.Inv) (hstep : s.step e = some s') : s'.Inv := by
  cases taken_of_step hstep with
  | leaves hmain => exact h.leaves hmain
  | registrationFails hpt hpoint => exact h.registrationFails hpt hpoint
  | locks hpoint hlock => exact h.locks hpoint hlock
  | accepted hpoint => exact h.accepted hpoint
  | refused hpoint => exact h.refused hpoint
  | waits hpoint => exact h.waits hpoint
  | @wakes t monitor hwake =>
    have howner := Monitor.wake_owner hwake
    exact ⟨fun u => howner ▸ h.owner u, (h.parks.wake hwake).1, h.failing, h.due, h.joined⟩
  | resumes hpoint hresume => exact h.resumes hpoint hresume
  | unlocks hpoint => exact h.unlocks hpoint
  | answers hpt hdue =>
    refine h.goes (by rw [hpt]; decide) (by decide) (by rw [hpt]; decide) ?_
    rw [hpt, underway, underway]
    omega
  | signals hpt =>
    have howner : s.monitor.signal.owner = s.monitor.owner := Monitor.signal_owner
    have hgoes : ({ s with pt := .signalled } : Teardown).Inv :=
      h.goes (by rw [hpt]; decide) (by decide) (by rw [hpt]; decide) (by rw [hpt]; rfl)
    exact ⟨fun t => howner ▸ hgoes.owner t, hgoes.parks.signal, hgoes.failing, hgoes.due,
      hgoes.joined⟩
  | shutsDown hpt =>
    refine h.goes (by rw [hpt]; decide) (by decide) (by rw [hpt]; decide) ?_
    rw [hpt, underway, underway]
    omega
  | returns hpt _ _ | gives hpt =>
    exact h.goes (by rw [hpt]; decide) (by decide) (by rw [hpt]; decide) (by rw [hpt]; rfl)
  | joins hmain hpt _ => exact ⟨h.owner, h.parks, h.failing, h.due, fun _ => ⟨hpt, hmain⟩⟩

theorem Inv.of_run (h : run step start es = some s) : s.Inv :=
  (Run.of_run h).invariant inv_start fun _ _ _ hinv _ hstep => inv_step hinv hstep

/-! ## waiting for no signal -/

theorem Inv.main_waiting (h : s.Inv) (hmem : .main ∈ s.monitor.waiting) :
    s.point .main = .waiting := h.parks.mem_waiting hmem

theorem Inv.pt_waiting (h : s.Inv) (hmem : .pt ∈ s.monitor.waiting) : s.pt = .failing := by
  have hpoint : s.point .pt = .waiting := h.parks.mem_waiting hmem
  rw [h.failing, hpoint]
  exact ⟨by decide, by decide⟩

/-- a signal is for the main thread, if it waits -/
theorem Inv.signal_waiting (h : s.Inv) (hpt : s.pt = .answering) :
    s.monitor.signal.waiting = [] := by
  have hnodup := (List.nodup_append.mp h.parks.nodup).1
  have hnot : .pt ∉ s.monitor.waiting := by
    intro hmem
    cases hpt.symm.trans (h.pt_waiting hmem)
  rw [Monitor.signal_waiting]
  cases hwaiting : s.monitor.waiting with
  | nil => rfl
  | cons u us =>
    rw [hwaiting] at hnodup hnot
    have hmain : ∀ w ∈ u :: us, w = .main := by
      intro w hw
      cases w with
      | main => rfl
      | pt => exact absurd hw hnot
    cases us with
    | nil => rfl
    | cons v vs =>
      -- the main thread would wait twice
      rw [hmain u List.mem_cons_self, hmain v (List.mem_cons_of_mem _ List.mem_cons_self)] at hnodup
      exact absurd List.mem_cons_self (List.nodup_cons.mp hnodup).1

/-- a step that leaves the waiting threads alone, and what can still be signalled -/
theorem Hopeless.of_waiting (h : s'.Hopeless) (hwaiting : s'.monitor.waiting ⊆ s.monitor.waiting)
    (hcome : s'.pt ≠ .answering → s'.answers = 0 ∨ s'.pt = .returned →
      s.pt ≠ .answering ∧ (s.answers = 0 ∨ s.pt = .returned)) : s.Hopeless := by
  rcases h with ⟨hmain, hpt, hnone⟩ | hpt
  · exact .inl ⟨hwaiting hmain, hcome hpt hnone⟩
  · exact .inr (hwaiting hpt)

theorem not_hopeless_step_iff (h : s.Inv) (hnot : ¬s.Hopeless) (hstep : s.step e = some s') :
    ¬s'.Hopeless ↔ s.Keeps e := by
  cases taken_of_step hstep with
  | leaves hmain | joins hmain hpt hjoined =>
    exact iff_of_true (fun h' => hnot (h'.of_waiting (fun _ hu => hu) fun hne hnone =>
      ⟨hne, hnone⟩)) trivial
  | registrationFails hpt hpoint =>
    refine iff_of_true (fun h' => hnot (h'.of_waiting (fun _ hu => hu) fun _ hnone => ?_)) trivial
    rw [hpt]
    exact ⟨by decide, .inl (hnone.resolve_right (by decide : PtDoing.failing ≠ .returned))⟩
  | @locks t monitor hpoint hlock =>
    have hwaiting := (h.parks.lock hlock).2
    exact iff_of_true (fun h' => hnot (h'.of_waiting (fun u hu => hwaiting ▸ hu) fun hne hnone =>
      ⟨hne, hnone⟩)) trivial
  | @accepted t hpoint =>
    refine iff_of_true (fun h' => hnot (h'.of_waiting (fun _ hu => hu) fun hne hnone => ?_)) trivial
    exact ⟨hne, .inr (hnone.resolve_left (Nat.succ_ne_zero _))⟩
  | @refused t hpoint =>
    exact iff_of_true (fun h' => hnot (h'.of_waiting (fun _ hu => hu) fun hne hnone =>
      ⟨hne, hnone⟩)) trivial
  | @waits t hpoint =>
    have hmem : t ∈ (s.monitor.wait t).waiting :=
      List.mem_append_right _ (List.mem_singleton_self t)
    cases t with
    | pt => exact iff_of_false (fun hnot' => hnot' (.inr hmem)) not_false
    | main =>
      have hpt : .pt ∉ (s.monitor.wait .main).waiting := by
        intro hpt
        rcases List.mem_append.mp hpt with hpt | hpt
        · exact hnot (.inr hpt)
        · cases List.mem_singleton.mp hpt
      constructor
      · intro hnot'
        by_contra hlate
        refine hnot' (.inl ⟨hmem, fun heq => hlate (.inl heq), ?_⟩)
        rcases Nat.eq_zero_or_pos s.answers with hzero | hpos
        · exact .inl hzero
        · exact .inr (by_contra fun hne => hlate (.inr ⟨hpos, hne⟩))
      · rintro hkeeps (⟨-, hne, hnone⟩ | hmem')
        · rcases hkeeps with heq | ⟨hpos, hreturned⟩
          · exact hne heq
          · rcases hnone with hzero | heq
            · exact Nat.ne_of_gt hpos hzero
            · exact hreturned heq
        · exact hpt hmem'
  | @wakes t monitor hwake =>
    have hwaiting := (h.parks.wake hwake).2
    refine iff_of_true (fun h' => hnot (h'.of_waiting ?_ fun hne hnone => ⟨hne, hnone⟩)) trivial
    show monitor.waiting ⊆ s.monitor.waiting
    rw [hwaiting]
    exact List.erase_subset
  | @resumes t monitor hpoint hresume =>
    have hwaiting := (h.parks.resume hresume).2
    exact iff_of_true (fun h' => hnot (h'.of_waiting (fun u hu => hwaiting ▸ hu) fun hne hnone =>
      ⟨hne, hnone⟩)) trivial
  | @unlocks t hpoint =>
    refine iff_of_true (fun h' => hnot (h'.of_waiting (fun _ hu => hu) fun hne hnone => ?_)) trivial
    cases t with
    | main => exact ⟨hne, hnone⟩
    | pt =>
      -- the PT thread was in the callback, and goes back to the loop
      have hfailing : s.pt = .failing := by
        rw [h.failing, hpoint]
        exact ⟨by decide, by decide⟩
      rw [hfailing]
      exact ⟨by decide, .inl (hnone.resolve_right (by decide : PtDoing.looping ≠ .returned))⟩
  | answers hpt hdue =>
    refine iff_of_true (fun h' => ?_) trivial
    rcases h' with ⟨-, hne, -⟩ | hmem
    · exact hne rfl
    · exact hnot (.inr hmem)
  | signals hpt =>
    have hwaiting := h.signal_waiting hpt
    refine iff_of_true (fun h' => ?_) trivial
    rcases h' with ⟨hmem, -⟩ | hmem
    · exact List.not_mem_nil (hwaiting ▸ hmem)
    · exact List.not_mem_nil (hwaiting ▸ hmem)
  | shutsDown hpt =>
    refine iff_of_true (fun h' => hnot (h'.of_waiting (fun _ hu => hu) fun _ hnone => ?_)) trivial
    rw [hpt]
    exact ⟨by decide, .inl (hnone.resolve_right (by decide : PtDoing.looping ≠ .returned))⟩
  | returns hpt hnone hdown =>
    refine iff_of_true (fun h' => hnot (h'.of_waiting (fun _ hu => hu) fun _ _ => ?_)) trivial
    rw [hpt]
    exact ⟨by decide, .inl hnone⟩
  | gives hpt =>
    constructor
    · exact fun hnot' hmem =>
        hnot' (.inl ⟨hmem, (by decide : PtDoing.returned ≠ .answering), .inr rfl⟩)
    · rintro hmem (⟨hmem', -⟩ | hmem')
      · exact hmem hmem'
      · exact hnot (.inr hmem')

/-- **When no thread waits in vain.**  In no state of a run a thread waits for a signal that does
not come, exactly when the main thread starts to wait before it is signalled and before the PT thread
has returned, the PT thread never starts to, and does not end while the main thread waits. -/
theorem hopeless_iff (h : run step start es = some s) :
    (∀ pre t, pre <+: es → run step start pre = some t → ¬t.Hopeless) ↔
      Run step Keeps start es s := by
  have hstart : ¬start.Hopeless := by decide
  exact run_invariant_iff h inv_start (fun _ _ _ hinv hstep => inv_step hinv hstep) hstart
    fun _ _ _ hinv hnot hstep => not_hopeless_step_iff hinv hnot hstep

/-- the callback signals before the main thread waits -/
def answeredEarly : List TeardownEvent :=
  [.leaves, .locks .main, .unregisters .main true, .answers, .signals, .waits .main]

theorem hopeless_iff_answeredEarly :
    ∃ s, run step start answeredEarly = some s ∧ s.Hopeless ∧
      ((∀ pre t, pre <+: answeredEarly → run step start pre = some t → ¬t.Hopeless) ↔
        Run step Keeps start answeredEarly s) := by
  have hany : ∃ s, run step start answeredEarly = some s ∧ s.Hopeless :=
    exists_of_run_any (by decide)
  obtain ⟨s, hs, hhopeless⟩ := hany
  exact ⟨s, hs, hhopeless, hopeless_iff hs⟩

/-! ## the end -/

/-- what happens sooner or later as long as it can -/
def own : TeardownEvent → Bool
  | .locks _ | .unregisters _ _ | .waits _ | .resumes _ | .unlocks _ | .answers | .signals
  | .shutsDown | .returns | .joins => true
  | .leaves | .registrationFails | .wakes _ | .gives => false

/-- how much a thread has still to do in `shutdown_and_cleanup`, with the answer to it -/
def pointPotential : CleanupPoint → Nat
  | .locking => 8
  | .locked => 7
  | .asked => 3
  | .waiting => 2
  | .unlocking => 1
  | .outside | .passed => 0

def ptPotential : PtDoing → Nat
  | .answering => 3
  | .signalled => 2
  | .looping | .failing => 1
  | .returned => 0

def potential (s : Teardown) : Nat :=
  pointPotential (s.point .main) + pointPotential (s.point .pt) + ptPotential s.pt +
    3 * s.answers + if s.joined then 0 else 1

def cost : TeardownEvent → Nat
  | .registrationFails => 8
  | _ => 0

/-- the main thread has called `shutdown_and_cleanup` -/
def Begun (s : Teardown) : Prop := s.Inv ∧ s.point .main ≠ .outside

theorem Begun.step (hbegun : s.Begun) (h : s.step e = some s') : s'.Begun := by
  have hmoves : ∀ t p, p ≠ .outside → (s.moveTo t p).point .main ≠ .outside := by
    intro t p hp
    rw [moveTo_point]
    split
    · exact hp
    · exact hbegun.2
  refine ⟨inv_step hbegun.1 h, ?_⟩
  cases taken_of_step h with
  | leaves _ => exact hmoves .main .locking (by decide)
  | registrationFails _ _ => exact hmoves .pt .locking (by decide)
  | locks _ _ => exact hmoves _ .locked (by decide)
  | accepted _ => exact hmoves _ .asked (by decide)
  | refused _ => exact hmoves _ .unlocking (by decide)
  | waits _ => exact hmoves _ .waiting (by decide)
  | resumes _ _ => exact hmoves _ .unlocking (by decide)
  | unlocks _ => exact hmoves _ .passed (by decide)
  | wakes _ | answers _ _ | signals _ | shutsDown _ | returns _ _ _ | gives _ | joins _ _ _ =>
    exact hbegun.2

/-- a thread goes on in `shutdown_and_cleanup`, and the rest may change as well -/
theorem potential_moveTo (t : ExampleThread) (p : CleanupPoint) :
    (s.moveTo t p).potential + pointPotential (s.point t) = s.potential + pointPotential p := by
  have hsum := sum_moveTo (s := s) pointPotential t p
  show pointPotential ((s.moveTo t p).point .main) + pointPotential ((s.moveTo t p).point .pt) +
    ptPotential s.pt + 3 * s.answers + (if s.joined then 0 else 1) + pointPotential (s.point t) = _
  unfold potential
  omega

theorem potential_lowers (hinv : s.Inv) (hown : own e = true) (h : s.step e = some s') :
    s'.potential < s.potential := by
  cases taken_of_step h with
  | @locks t monitor hpoint hlock =>
    have hsum := potential_moveTo (s := s) t .locked
    rw [hpoint, pointPotential, pointPotential] at hsum
    show (s.moveTo t .locked).potential < s.potential
    omega
  | @accepted t hpoint =>
    have hsum := potential_moveTo (s := s) t .asked
    rw [hpoint, pointPotential, pointPotential] at hsum
    have hanswers : ({ s.moveTo t .asked with answers := s.answers + 1 } : Teardown).potential =
        (s.moveTo t .asked).potential + 3 := by
      simp only [potential, moveTo]
      omega
    omega
  | @refused t hpoint =>
    have hsum := potential_moveTo (s := s) t .unlocking
    rw [hpoint, pointPotential, pointPotential] at hsum
    show (s.moveTo t .unlocking).potential < s.potential
    omega
  | @waits t hpoint =>
    have hsum := potential_moveTo (s := s) t .waiting
    rw [hpoint, pointPotential, pointPotential] at hsum
    show (s.moveTo t .waiting).potential < s.potential
    omega
  | @resumes t monitor hpoint hresume =>
    have hsum := potential_moveTo (s := s) t .unlocking
    rw [hpoint, pointPotential, pointPotential] at hsum
    show (s.moveTo t .unlocking).potential < s.potential
    omega
  | @unlocks t hpoint =>
    have hsum := potential_moveTo (s := s) t .passed
    rw [hpoint, pointPotential, pointPotential] at hsum
    cases t with
    | main =>
      show (s.moveTo .main .passed).potential < s.potential
      omega
    | pt =>
      have hfailing : s.pt = .failing := by
        rw [hinv.failing, hpoint]
        exact ⟨by decide, by decide⟩
      -- back in its loop the thread has as much to do as in the callback
      have hsame : ({ s.moveTo .pt .passed with
          monitor := s.monitor.unlock .pt, pt := .looping } : Teardown).potential =
          (s.moveTo .pt .passed).potential := by
        simp only [potential, moveTo, hfailing, ptPotential]
      show ({ s.moveTo .pt .passed with
          monitor := s.monitor.unlock .pt, pt := .looping } : Teardown).potential < s.potential
      omega
  | answers hpt hdue =>
    simp only [potential, hpt, ptPotential]
    omega
  | signals hpt | shutsDown hpt | returns hpt _ _ =>
    simp only [potential, hpt, ptPotential]
    omega
  | joins hmain hpt hjoined =>
    simp only [potential, hjoined, if_true, Bool.false_eq_true, if_false]
    omega
  | leaves hmain | registrationFails hpt hpoint | wakes hwake | gives hpt => cases hown

theorem potential_raises (hbegun : s.Begun) (hown : own e = false) (h : s.step e = some s') :
    s'.potential ≤ s.potential + cost e := by
  cases taken_of_step h with
  | leaves hmain => exact absurd hmain hbegun.2
  | registrationFails hpt hpoint =>
    have hsum := potential_moveTo (s := s) .pt .locking
    rw [hpoint, pointPotential, pointPotential] at hsum
    have hsame : ({ s.moveTo .pt .locking with pt := .failing } : Teardown).potential =
        (s.moveTo .pt .locking).potential := by
      simp only [potential, moveTo, hpt, ptPotential]
    rw [hsame, cost]
    omega
  | wakes hwake => exact Nat.le_refl _
  | gives hpt =>
    simp only [potential, hpt, ptPotential]
    omega
  | locks | accepted | refused | waits | resumes | unlocks | answers | signals | shutsDown
  | returns | joins => cases hown

theorem descends : Descends Teardown.step own Begun potential cost where
  kept _ _ _ hbegun h := hbegun.step h
  lowers _ _ _ hbegun hown h := potential_lowers hbegun.1 hown h
  raises _ _ _ hbegun hown h := potential_raises hbegun hown h

theorem pointPotential_le (p : CleanupPoint) : pointPotential p + 3 * requested p ≤ 8 := by
  cases p <;> decide

theorem ptPotential_le (d : PtDoing) : ptPotential d ≤ 1 + 2 * underway d := by
  cases d <;> decide

theorem Inv.potential_le (h : s.Inv) : s.potential ≤ 18 := by
  have hdue := h.due
  have hmain := pointPotential_le (s.point .main)
  have hpoint := pointPotential_le (s.point .pt)
  have hpt := ptPotential_le s.pt
  unfold potential
  split <;> omega

/-- the thread that holds the mutex can go on -/
theorem Inv.not_halted_of_holds (h : s.Inv) {t : ExampleThread} (ht : s.monitor.owner = some t) :
    ¬Halted Teardown.step own s := by
  intro hhalt
  have hholds := (h.owner t).mp ht
  cases hpoint : s.point t with
  | locked =>
    have hnone := hhalt (.unregisters t true) rfl
    simp only [Teardown.step, hpoint, if_true, reduceCtorEq] at hnone
  | asked =>
    have hnone := hhalt (.waits t) rfl
    simp only [Teardown.step, hpoint, if_true, reduceCtorEq] at hnone
  | unlocking =>
    have hnone := hhalt (.unlocks t) rfl
    simp only [Teardown.step, hpoint, if_true, reduceCtorEq] at hnone
  | outside | locking | waiting | passed =>
    rw [hpoint] at hholds
    cases hholds

/-- where nothing more can happen, no thread is on its way through `shutdown_and_cleanup` but one
that waits -/
theorem Inv.point_of_halted (h : s.Inv) (hhalt : Halted Teardown.step own s) (t : ExampleThread) :
    s.point t = .outside ∨ s.point t = .passed ∨ t ∈ s.monitor.waiting := by
  have hfree : s.monitor.owner = none := by
    cases howner : s.monitor.owner with
    | none => rfl
    | some u => exact absurd hhalt (h.not_halted_of_holds howner)
  cases hpoint : s.point t with
  | outside => exact .inl rfl
  | passed => exact .inr (.inl rfl)
  | locked | asked | unlocking =>
    have howner := (h.owner t).mpr (by rw [hpoint]; rfl)
    rw [hfree] at howner
    cases howner
  | locking =>
    have hnone := hhalt (.locks t) rfl
    simp only [Teardown.step, hpoint, if_true, Monitor.lock, hfree, Option.map_some,
      reduceCtorEq] at hnone
  | waiting =>
    by_contra hnot
    have hwoken := h.parks.woken hpoint fun hmem => hnot (.inr (.inr hmem))
    have hnone := hhalt (.resumes t) rfl
    simp only [Teardown.step, hpoint, if_true, Monitor.resume, hfree, hwoken, and_self,
      Option.map_some, reduceCtorEq] at hnone

/-- where nothing more can happen the PT thread is in its loop and has nothing to do, it has
returned, or it waits -/
theorem Inv.pt_of_halted (h : s.Inv) (hhalt : Halted Teardown.step own s) :
    s.pt = .looping ∧ s.answers = 0 ∧ s.shutdowns = 0 ∨ s.pt = .returned ∨
      .pt ∈ s.monitor.waiting := by
  cases hpt : s.pt with
  | returned => exact .inr (.inl rfl)
  | answering =>
    have hnone := hhalt .signals rfl
    simp only [Teardown.step, hpt, if_true, reduceCtorEq] at hnone
  | signalled =>
    have hnone := hhalt .shutsDown rfl
    simp only [Teardown.step, hpt, if_true, reduceCtorEq] at hnone
  | failing =>
    obtain ⟨hout, hpassed⟩ := h.failing.mp hpt
    rcases h.point_of_halted hhalt .pt with hpoint | hpoint | hmem
    · exact absurd hpoint hout
    · exact absurd hpoint hpassed
    · exact .inr (.inr hmem)
  | looping =>
    have hanswers := hhalt .answers rfl
    have hreturns := hhalt .returns rfl
    simp only [Teardown.step, hpt, true_and, ite_eq_right_iff, reduceCtorEq, imp_false,
      Nat.not_lt, Nat.le_zero, not_and] at hanswers hreturns
    exact .inl ⟨rfl, hanswers, hreturns hanswers⟩

theorem joined_iff_of_halted (hbegun : s.Begun) (hhalt : Halted Teardown.step own s) :
    s.joined = true ↔ ¬s.Hopeless := by
  obtain ⟨h, hout⟩ := hbegun
  constructor
  · rintro hjoined (⟨hmem, -⟩ | hmem)
    · cases (h.main_waiting hmem).symm.trans (h.joined hjoined).2
    · cases (h.pt_waiting hmem).symm.trans (h.joined hjoined).1
  · intro hnot
    by_contra hjoined
    have hpt := h.pt_of_halted hhalt
    rcases h.point_of_halted hhalt .main with hmain | hmain | hmem
    · exact hout hmain
    · rcases hpt with ⟨hpt, hnone, hdown⟩ | hpt | hmem
      · -- the request of the main thread is neither due nor done
        have hdue := h.due
        rw [hpt, hnone, hdown, hmain] at hdue
        simp only [underway, requested] at hdue
        omega
      · have hnone := hhalt .joins rfl
        have hfalse : s.joined = false := Bool.eq_false_iff.mpr hjoined
        simp only [Teardown.step, hmain, hpt, hfalse, true_and, if_true, reduceCtorEq] at hnone
      · exact hnot (.inr hmem)
    · rcases hpt with ⟨hpt, hnone, -⟩ | hpt | hmem'
      · exact hnot (.inl ⟨hmem, by rw [hpt]; decide, .inl hnone⟩)
      · exact hnot (.inl ⟨hmem, by rw [hpt]; decide, .inr hpt⟩)
      · exact hnot (.inr hmem')

theorem totalCost_eq (es : List TeardownEvent) :
    totalCost cost es = 8 * es.count .registrationFails :=
  totalCost_eq_mul (fun e => by cases e <;> rfl) es

/-- **The main thread joins the other.**  After it has called `shutdown_and_cleanup` only so much
happens.  Where nothing more can happen it has joined the PT thread, unless one of the two waits in
vain. -/
theorem main_joins_iff (h : run Teardown.step start es = some s)
    (hmain : s.point .main ≠ .outside) {es' : List TeardownEvent} {t : Teardown}
    (h' : run Teardown.step s es' = some t) :
    es'.countP own ≤ 18 + 8 * es'.count .registrationFails ∧
      (Halted Teardown.step own t → (t.joined = true ↔ ¬t.Hopeless)) := by
  have hbegun : s.Begun := ⟨Inv.of_run h, hmain⟩
  refine ⟨?_, joined_iff_of_halted (descends.of_run hbegun h')⟩
  have hcount := descends.countP_le hbegun h'
  have hle := hbegun.1.potential_le
  rw [totalCost_eq] at hcount
  omega

/-- the callback signals while the main thread waits -/
def answeredLate : List TeardownEvent :=
  [.locks .main, .unregisters .main true, .waits .main, .answers, .signals, .shutsDown,
    .resumes .main, .unlocks .main, .returns, .joins]

theorem main_joins_iff_answeredLate :
    ∃ s t, run Teardown.step start [.leaves] = some s ∧
      run Teardown.step s answeredLate = some t ∧ t.joined = true ∧
      answeredLate.countP own ≤ 18 + 8 * answeredLate.count .registrationFails ∧
      (Halted Teardown.step own t → (t.joined = true ↔ ¬t.Hopeless)) := by
  have hany : ∃ s, run Teardown.step start [.leaves] = some s ∧ s.point .main ≠ .outside ∧
      (run Teardown.step s answeredLate).any (fun t => decide (t.joined = true)) = true :=
    exists_of_run_any (by decide)
  obtain ⟨s, hs, hmain, hend⟩ := hany
  obtain ⟨t, ht, hjoined⟩ := exists_of_run_any hend
  exact ⟨s, t, hs, ht, hjoined, main_joins_iff hs hmain ht⟩

end Teardown

end EdgeTranslators.PtExample
