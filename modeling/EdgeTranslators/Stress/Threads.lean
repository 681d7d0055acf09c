import EdgeTranslators.Stress.Tester

/-!
# The threads of the stress tester

`main` starts the API threads and the test threads, joins the test threads, and then the API
threads.  Whoever calls `shutdown_and_cleanup` waits until the test threads have been joined, and then
shuts every connection down: a thread that the first signal creates, the timer thread, or an API
thread whose translator cannot be registered.

* `ApiThread`, `Caller`, `CleanupPoint`   the threads, and where each is in `shutdown_and_cleanup`;
* `StressTester`, `step`                  the tester;
* `Inv`                                   what goes together;
* `shutdown_orderly`                      no connection is shut down while a test thread has
                                          devices, and with the locks none that has been freed;
* `Stuck`, `stuck_forever`                a callback that waits for its own event loop does so for
                                          ever.

An API thread is in its event loop, in a callback that calls `shutdown_and_cleanup`, or past the
loop; the other callbacks, and what a test thread does under a mutex, are single steps.
-/

namespace EdgeTranslators.Stress
open Lib

inductive ApiPhase where
  /-- before `pt_client_start` sets the connection -/
  | starting
  /-- in the event loop -/
  | looping
  /-- in a callback that calls `shutdown_and_cleanup` -/
  | cleaning
  /-- before the connection is freed -/
  | freeing
  | returned
  | joined
  deriving DecidableEq, Repr

/-- `pt_api_thread_t` -/
structure ApiThread where
  phase : ApiPhase
  keepRunning : Bool
  /-- `connection` is not a null pointer -/
  connection : Bool
  /-- `pt_client_shutdown` was called for it -/
  shutDown : Bool
  deriving DecidableEq, Repr

/-- who calls `shutdown_and_cleanup` -/
inductive Caller (m : Nat) where
  | shutdownThread
  | timer
  | api (i : Fin m)
  deriving DecidableEq, Repr

inductive CleanupPoint (m : Nat) where
  | outside
  /-- in the loop that waits for `test_threads_exited` -/
  | waiting
  /-- before `api_data_conditionally_lock_connection`, for this index -/
  | locking (j : Nat)
  /-- after it, with the connection that it returned -/
  | locked (j : Fin m) (connection : Bool)
  /-- before `api_data_conditionally_unlock_connection` -/
  | unlocking (j : Fin m)
  | finished
  deriving DecidableEq, Repr

inductive MainPoint where
  /-- the test threads before this one are joined -/
  | joiningTests (k : Nat)
  | joiningApis (k : Nat)
  /-- the API threads are joined; the shutdown thread and the timer thread are next -/
  | joiningOthers
  deriving DecidableEq, Repr

inductive TimerPoint where
  | running
  /-- the duration is over, and `shutdown_initiated` was not set -/
  | expired
  | cleaning
  | finished
  deriving DecidableEq, Repr

/-- a tester with `n` test threads and `m` protocol translators -/
structure StressTester (n m : Nat) where
  parallelConnectionLock : Bool
  shutdownInitiated : Bool
  testThreadsExited : Bool
  /-- the signal handler has found `shutdown_initiated` not set -/
  handling : Bool
  main : MainPoint
  timer : TimerPoint
  tests : Fin n → TestThread
  apis : Fin m → ApiThread
  /-- who holds the mutex of a connection in `shutdown_and_cleanup` -/
  owner : Fin m → Option (Caller m)
  cleanup : Caller m → CleanupPoint m
  /-- the connections `pt_client_shutdown` was called with, and whether each was alive -/
  shutdownCalls : List (Fin m × Bool)

inductive StressEvent (n m : Nat) where
  /-- `pt_client_start` sets the connection -/
  | connects (i : Fin m)
  /-- `pt_client_start` returns by itself -/
  | gives (i : Fin m) (success : Bool)
  /-- `shutdown_cb_handler` -/
  | stops (i : Fin m)
  /-- `pt_client_start` returns after `pt_client_shutdown` -/
  | returns (i : Fin m)
  | frees (i : Fin m)
  /-- a callback calls `shutdown_and_cleanup`: `protocol_translator_registration_failure` if the
  registration was `answered`, or `connection_ready_handler` when it could not be sent -/
  | registrationFails (i : Fin m) (answered : Bool)
  /-- something happens to a test thread, and its API thread is the one of this index -/
  | test (i : Fin n) (api : Fin m) (e : TestEvent)
  /-- `shutdown_handler` finds `shutdown_initiated` not set -/
  | signal
  /-- `shutdown_handler` sets it, and creates the shutdown thread -/
  | initiates
  /-- the timer thread finds its time over and `shutdown_initiated` not set -/
  | expires
  | timerInitiates
  | timerFinishes
  /-- a caller finds `test_threads_exited` set -/
  | proceeds (c : Caller m)
  | locks (c : Caller m)
  | shuts (c : Caller m)
  | unlocks (c : Caller m)
  | joinsTest
  | joinsApi
  deriving DecidableEq, Repr

namespace StressTester
variable {n m : Nat}

def start (parallelConnectionLock : Bool) (testDuration : Int)
    (maxNumberOfDevices minNumberOfDevices : Int) : StressTester n m :=
  { parallelConnectionLock, shutdownInitiated := false, testThreadsExited := false
    handling := false, main := .joiningTests 0
    timer := if 0 < testDuration then .running else .finished
    tests := fun i => TestThread.start i maxNumberOfDevices minNumberOfDevices
    apis := fun _ =>
      { phase := .starting, keepRunning := true, connection := false, shutDown := false }
    owner := fun _ => none, cleanup := fun _ => .outside, shutdownCalls := [] }

variable (s : StressTester n m)

def setApi (i : Fin m) (a : ApiThread) : StressTester n m :=
  { s with apis := fun j => if j = i then a else s.apis j }

def moveTo (c : Caller m) (p : CleanupPoint m) : StressTester n m :=
  { s with cleanup := fun d => if d = c then p else s.cleanup d }

/-- the mutex of a connection is locked or unlocked, if the option says so -/
def setOwner (j : Fin m) (owner : Option (Caller m)) : StressTester n m :=
  { s with owner := fun k => if s.parallelConnectionLock = true ∧ k = j then owner else s.owner k }

/-- what the caller does when `shutdown_and_cleanup` returns -/
def finish (c : Caller m) : StressTester n m :=
  match c with
  | .api i => (s.moveTo c .finished).setApi i { s.apis i with phase := .looping }
  | .shutdownThread | .timer => s.moveTo c .finished

/-- the events of a test thread that come from the event loop of its API thread -/
def isCallback : TestEvent → Bool
  | .deviceRegistrationSuccess _ | .deviceRegistrationFailure _ | .deviceUnregistrationSuccess _
  | .deviceUnregistrationFailure _ => true
  | _ => false

/-- a test thread unregisters its devices, to stop then -/
def isDrain : TestEvent → Bool
  | .unregisterDevices _ => true
  | _ => false

/-- a test thread has changed, by an event that its API thread has a part in -/
def afterTest (i : Fin n) (api : Fin m) (e : TestEvent) (t : TestThread) : StressTester n m :=
  let s := { s with tests := fun k => if k = i then t else s.tests k }
  match e with
  | .deviceRegistrationFailure _ => s.setApi api { s.apis api with keepRunning := false }
  | _ => s

def step : StressEvent n m → Option (StressTester n m)
  | .connects i =>
    if (s.apis i).phase = .starting then
      some (s.setApi i { s.apis i with phase := .looping, connection := true })
    else none
  | .gives i success =>
    if (s.apis i).phase = .starting ∨ (s.apis i).phase = .looping then
      some (s.setApi i { s.apis i with
        phase := .freeing
        keepRunning := (s.apis i).keepRunning && success })
    else none
  | .stops i =>
    if (s.apis i).phase = .looping then some (s.setApi i { s.apis i with keepRunning := false })
    else none
  | .returns i =>
    if (s.apis i).phase = .looping ∧ (s.apis i).shutDown = true then
      some (s.setApi i { s.apis i with phase := .freeing })
    else none
  | .frees i =>
    -- the mutex is locked for it, if the option says so
    if (s.apis i).phase = .freeing ∧ s.owner i = none then
      some (s.setApi i { s.apis i with phase := .returned, connection := false })
    else none
  | .registrationFails i answered =>
    if (s.apis i).phase = .looping then
      some ((s.setApi i { s.apis i with
        phase := .cleaning
        keepRunning := (s.apis i).keepRunning && !answered }).moveTo (.api i) .waiting)
    else none
  | .test i api e =>
    if api.val = i.val % m ∧ (isCallback e = true → (s.apis api).phase = .looping) ∧
        (isDrain e = true → (s.apis api).keepRunning = false ∨ s.shutdownInitiated = true) then
      ((s.tests i).step e).map (s.afterTest i api e)
    else none
  | .signal => some { s with handling := s.handling || !s.shutdownInitiated }
  | .initiates =>
    if s.handling = true then
      let s := { s with shutdownInitiated := true, handling := false }
      some (if s.cleanup .shutdownThread = .outside then s.moveTo .shutdownThread .waiting else s)
    else none
  | .expires =>
    if s.timer = .running ∧ (∀ i : Fin m, i.val = 0 → (s.apis i).keepRunning = true) ∧
        s.shutdownInitiated = false then
      some { s with timer := .expired }
    else none
  | .timerInitiates =>
    if s.timer = .expired then
      some ({ s with shutdownInitiated := true, timer := .cleaning }.moveTo .timer .waiting)
    else none
  | .timerFinishes =>
    if (s.timer = .running ∨ s.timer = .cleaning ∧ s.cleanup .timer = .finished) ∧
        (∀ i : Fin m, i.val = 0 → (s.apis i).keepRunning = false) then
      some { s with timer := .finished }
    else none
  | .proceeds c =>
    if s.cleanup c = .waiting ∧ s.testThreadsExited = true then some (s.moveTo c (.locking 0))
    else none
  | .locks c =>
    match s.cleanup c with
    | .locking j =>
      if hj : j < m then
        if s.owner ⟨j, hj⟩ = none then
          some ((s.setOwner ⟨j, hj⟩ (some c)).moveTo c
            (.locked ⟨j, hj⟩ (s.apis ⟨j, hj⟩).connection))
        else none
      else some (s.finish c)
    | _ => none
  | .shuts c =>
    match s.cleanup c with
    | .locked j connection =>
      if connection then
        some ({ s.setApi j { s.apis j with shutDown := true } with
          shutdownCalls := s.shutdownCalls ++ [(j, (s.apis j).connection)] }.moveTo c
            (.unlocking j))
      else some (s.moveTo c (.unlocking j))
    | _ => none
  | .unlocks c =>
    match s.cleanup c with
    | .unlocking j =>
      some (((s.setOwner j none).setApi j { s.apis j with keepRunning := false }).moveTo c
        (.locking (j.val + 1)))
    | _ => none
  | .joinsTest =>
    match s.main with
    | .joiningTests k =>
      if hk : k < n then
        if (s.tests ⟨k, hk⟩).phase = .exited then some { s with main := .joiningTests (k + 1) }
        else none
      else some { s with main := .joiningApis 0, testThreadsExited := true }
    | _ => none
  | .joinsApi =>
    match s.main with
    | .joiningApis k =>
      if hk : k < m then
        if (s.apis ⟨k, hk⟩).phase = .returned then
          some { s.setApi ⟨k, hk⟩ { s.apis ⟨k, hk⟩ with phase := .joined } with
            main := .joiningApis (k + 1) }
        else none
      else some { s with main := .joiningOthers }
    | _ => none

end StressTester

/-! ## what goes together -/

/-- the test threads that `main` has joined, of `n` -/
def MainPoint.testsJoined (n : Nat) : MainPoint → Nat
  | .joiningTests k => k
  | _ => n

/-- the API threads that it has joined, of `m` -/
def MainPoint.apisJoined (m : Nat) : MainPoint → Nat
  | .joiningTests _ => 0
  | .joiningApis k => k
  | .joiningOthers => m

namespace CleanupPoint
variable {m : Nat}

/-- the test threads have been waited for -/
def Past : CleanupPoint m → Prop
  | .outside | .waiting => False
  | _ => True

/-- the caller is in `shutdown_and_cleanup` -/
def Active : CleanupPoint m → Prop
  | .outside | .finished => False
  | _ => True

/-- whose mutex the caller has, if the option says so -/
def holds : CleanupPoint m → Option (Fin m)
  | .locked j _ | .unlocking j => some j
  | _ => none

end CleanupPoint

namespace StressTester
variable {n m : Nat} {s s' : StressTester n m} {e : StressEvent n m}
  {es : List (StressEvent n m)} {lock : Bool}

structure Inv (lock : Bool) (s : StressTester n m) : Prop where
  option : s.parallelConnectionLock = lock
  tests : ∀ i : Fin n, i.val < s.main.testsJoined n → (s.tests i).phase = .exited
  empty : ∀ i, (s.tests i).phase = .exited → (s.tests i).devices = []
  apis : ∀ j : Fin m, j.val < s.main.apisJoined m → (s.apis j).phase = .joined
  exited : s.testThreadsExited = true → ∀ i, (s.tests i).phase = .exited
  past : ∀ c, (s.cleanup c).Past → s.testThreadsExited = true
  shut : ∀ j, (s.apis j).shutDown = true → s.testThreadsExited = true
  cleaning : ∀ i, (s.cleanup (.api i)).Active → (s.apis i).phase = .cleaning
  held : s.parallelConnectionLock = true → ∀ c j, (s.cleanup c).holds = some j →
    s.owner j = some c
  seen : s.parallelConnectionLock = true → ∀ c j, s.cleanup c = .locked j true →
    (s.apis j).connection = true
  alive : s.parallelConnectionLock = true → ∀ call ∈ s.shutdownCalls, call.2 = true

theorem Inv.start (duration max min : Int) :
    (start lock duration max min : StressTester n m).Inv lock where
  option := rfl
  tests _ hi := absurd hi (Nat.not_lt_zero _)
  empty _ _ := rfl
  apis _ hj := absurd hj (Nat.not_lt_zero _)
  exited h := absurd h Bool.false_ne_true
  past _ h := False.elim h
  shut _ h := h
  cleaning _ h := False.elim h
  held _ _ _ h := by cases h
  seen _ _ _ h := by cases h
  alive _ _ h := absurd h List.not_mem_nil

/-- an API thread changes: it stays joined and in its callback, and does not free what is held -/
theorem Inv.setApi (hinv : s.Inv lock) {i : Fin m} {a : ApiThread}
    (hjoined : (s.apis i).phase = .joined → a.phase = .joined)
    (hcleaning : (s.cleanup (.api i)).Active → a.phase = .cleaning)
    (hshut : a.shutDown = true → s.testThreadsExited = true)
    (hconnection : (s.apis i).connection = true → a.connection = true ∨ s.owner i = none) :
    (s.setApi i a).Inv lock where
  option := hinv.option
  tests := hinv.tests
  empty := hinv.empty
  apis j hj := by
    show (if j = i then a else s.apis j).phase = .joined
    by_cases hij : j = i
    · subst hij
      rw [if_pos rfl]
      exact hjoined (hinv.apis j hj)
    · rw [if_neg hij]
      exact hinv.apis j hj
  exited := hinv.exited
  past := hinv.past
  shut j hj := by
    replace hj : (if j = i then a else s.apis j).shutDown = true := hj
    by_cases hij : j = i
    · rw [if_pos hij] at hj
      exact hshut hj
    · rw [if_neg hij] at hj
      exact hinv.shut j hj
  cleaning j hj := by
    show (if j = i then a else s.apis j).phase = .cleaning
    by_cases hij : j = i
    · subst hij
      rw [if_pos rfl]
      exact hcleaning hj
    · rw [if_neg hij]
      exact hinv.cleaning j hj
  held := hinv.held
  seen hlock c j hc := by
    show (if j = i then a else s.apis j).connection = true
    have hlocked : s.cleanup c = .locked j true := hc
    by_cases hij : j = i
    · subst hij
      rw [if_pos rfl]
      have howner := hinv.held hlock c j (by rw [hlocked]; rfl)
      rcases hconnection (hinv.seen hlock c j hlocked) with h | h
      · exact h
      · rw [h] at howner
        cases howner
    · rw [if_neg hij]
      exact hinv.seen hlock c j hlocked
  alive := hinv.alive

theorem Inv.moveTo (hinv : s.Inv lock) {c : Caller m} {p : CleanupPoint m}
    (hpast : p.Past → s.testThreadsExited = true)
    (hcleaning : ∀ i, c = .api i → p.Active → (s.apis i).phase = .cleaning)
    (hheld : s.parallelConnectionLock = true → ∀ j, p.holds = some j → s.owner j = some c)
    (hseen : ∀ j, p = .locked j true → (s.apis j).connection = true) :
    (s.moveTo c p).Inv lock where
  option := hinv.option
  tests := hinv.tests
  empty := hinv.empty
  apis := hinv.apis
  exited := hinv.exited
  past d hd := by
    replace hd : (if d = c then p else s.cleanup d).Past := hd
    by_cases hdc : d = c
    · rw [if_pos hdc] at hd
      exact hpast hd
    · rw [if_neg hdc] at hd
      exact hinv.past d hd
  shut := hinv.shut
  cleaning i hi := by
    replace hi : (if Caller.api i = c then p else s.cleanup (.api i)).Active := hi
    by_cases hic : Caller.api i = c
    · rw [if_pos hic] at hi
      exact hcleaning i hic.symm hi
    · rw [if_neg hic] at hi
      exact hinv.cleaning i hi
  held hlock d j hd := by
    replace hd : (if d = c then p else s.cleanup d).holds = some j := hd
    by_cases hdc : d = c
    · rw [if_pos hdc] at hd
      rw [hdc]
      exact hheld hlock j hd
    · rw [if_neg hdc] at hd
      exact hinv.held hlock d j hd
  seen hlock d j hd := by
    replace hd : (if d = c then p else s.cleanup d) = .locked j true := hd
    by_cases hdc : d = c
    · rw [if_pos hdc] at hd
      exact hseen j hd
    · rw [if_neg hdc] at hd
      exact hinv.seen hlock d j hd
  alive := hinv.alive

/-- nobody has the mutex, and a caller takes it -/
theorem Inv.acquire (hinv : s.Inv lock) {j : Fin m} {c : Caller m} (hfree : s.owner j = none) :
    (s.setOwner j (some c)).Inv lock :=
  { hinv with
    held := fun hlock d k hd => by
      show (if s.parallelConnectionLock = true ∧ k = j then some c else s.owner k) = some d
      have howner := hinv.held hlock d k hd
      rw [if_neg, howner]
      rintro ⟨-, rfl⟩
      rw [hfree] at howner
      cases howner }

/-- no caller is where it has the mutex any more, and it is unlocked -/
theorem Inv.release (hinv : s.Inv lock) {j : Fin m}
    (hnone : s.parallelConnectionLock = true → ∀ c, (s.cleanup c).holds ≠ some j) :
    (s.setOwner j none).Inv lock :=
  { hinv with
    held := fun hlock d k hd => by
      show (if s.parallelConnectionLock = true ∧ k = j then none else s.owner k) = some d
      rw [if_neg, hinv.held hlock d k hd]
      rintro ⟨-, rfl⟩
      exact hnone hlock d hd }

/-! ## the API threads -/

theorem not_active (hinv : s.Inv lock) {i : Fin m} {phase : ApiPhase}
    (hphase : (s.apis i).phase = phase) (hne : phase ≠ .cleaning) :
    ¬(s.cleanup (.api i)).Active :=
  fun hactive => hne (hphase.symm.trans (hinv.cleaning i hactive))

/-- an API thread that is neither joined nor in a callback may go anywhere -/
theorem Inv.setFree (hinv : s.Inv lock) {i : Fin m} {a : ApiThread} {phase : ApiPhase}
    (hphase : (s.apis i).phase = phase) (hjoined : phase ≠ .joined) (hcleaning : phase ≠ .cleaning)
    (hshut : a.shutDown = (s.apis i).shutDown)
    (hconnection : (s.apis i).connection = true → a.connection = true ∨ s.owner i = none) :
    (s.setApi i a).Inv lock :=
  hinv.setApi (fun h => absurd (hphase.symm.trans h) hjoined)
    (fun hactive => absurd hactive (not_active hinv hphase hcleaning))
    (fun h => hinv.shut i (hshut.symm.trans h)) hconnection

theorem Inv.connects (hinv : s.Inv lock) {i : Fin m} (h : s.step (.connects i) = some s') :
    s'.Inv lock := by
  obtain ⟨hphase, heq⟩ := Option.ite_none_right_eq_some.mp h
  cases heq
  exact hinv.setFree hphase (by decide) (by decide) rfl fun _ => .inl rfl

theorem Inv.gives (hinv : s.Inv lock) {i : Fin m} {success : Bool}
    (h : s.step (.gives i success) = some s') : s'.Inv lock := by
  obtain ⟨hphase, heq⟩ := Option.ite_none_right_eq_some.mp h
  cases heq
  rcases hphase with hphase | hphase
  · exact hinv.setFree hphase (by decide) (by decide) rfl .inl
  · exact hinv.setFree hphase (by decide) (by decide) rfl .inl

theorem Inv.setKeepRunning (hinv : s.Inv lock) (i : Fin m) :
    (s.setApi i { s.apis i with keepRunning := false }).Inv lock :=
  hinv.setApi id (hinv.cleaning i) (hinv.shut i) .inl

theorem Inv.stops (hinv : s.Inv lock) {i : Fin m} (h : s.step (.stops i) = some s') :
    s'.Inv lock := by
  obtain ⟨hphase, heq⟩ := Option.ite_none_right_eq_some.mp h
  cases heq
  exact hinv.setKeepRunning i

theorem Inv.returns (hinv : s.Inv lock) {i : Fin m} (h : s.step (.returns i) = some s') :
    s'.Inv lock := by
  obtain ⟨⟨hphase, -⟩, heq⟩ := Option.ite_none_right_eq_some.mp h
  cases heq
  exact hinv.setFree hphase (by decide) (by decide) rfl .inl

/-- the mutex keeps the connection from being freed while a caller has it -/
theorem Inv.frees (hinv : s.Inv lock) {i : Fin m} (h : s.step (.frees i) = some s') :
    s'.Inv lock := by
  obtain ⟨⟨hphase, hfree⟩, heq⟩ := Option.ite_none_right_eq_some.mp h
  cases heq
  exact hinv.setFree hphase (by decide) (by decide) rfl fun _ => .inr hfree

theorem Inv.registrationFails (hinv : s.Inv lock) {i : Fin m} {answered : Bool}
    (h : s.step (.registrationFails i answered) = some s') : s'.Inv lock := by
  obtain ⟨hphase, heq⟩ := Option.ite_none_right_eq_some.mp h
  cases heq
  have hset := hinv.setApi (i := i) (a := { s.apis i with
    phase := .cleaning, keepRunning := (s.apis i).keepRunning && !answered })
    (fun hjoined => by rw [hphase] at hjoined; cases hjoined) (fun _ => rfl) (hinv.shut i) .inl
  refine hset.moveTo False.elim ?_ (fun _ _ h => by cases h) fun _ h => by cases h
  rintro j heq -
  cases heq
  show (if i = i then _ else s.apis i).phase = .cleaning
  rw [if_pos rfl]

/-! ## the test threads -/

/-- a test thread that has exited has no devices, and stays so -/
theorem exited_step {t t' : TestThread} {e : TestEvent} (h : t.step e = some t')
    (hempty : t.phase = .exited → t.devices = []) :
    (t.phase = .exited → t'.phase = .exited) ∧ (t'.phase = .exited → t'.devices = []) := by
  cases TestThread.taken_of_step h with
  | skips => exact ⟨id, hempty⟩
  | adds hphase =>
    refine ⟨id, fun hexited => ?_⟩
    rw [hphase] at hexited
    cases hexited
  | @calls _ call entry hphase =>
    have hsame : (t.unregisterDeviceEntryCommon entry call).phase = t.phase := by
      cases call <;> rfl
    rw [hsame]
    refine ⟨id, fun hexited => ?_⟩
    rw [hphase] at hexited
    cases hexited
  | drains hphase =>
    refine ⟨fun hexited => ?_, Phase.noConfusion⟩
    rw [hphase] at hexited
    cases hexited
  | registered hmem hset | unregistered hmem hset =>
    refine ⟨id, fun hexited => ?_⟩
    rw [hempty hexited] at hset
    cases hset
  | registrationFails | unregistrationFails => exact ⟨id, hempty⟩
  | exits hphase hdevices => exact ⟨fun _ => rfl, fun _ => hdevices⟩

theorem Inv.setTest (hinv : s.Inv lock) {i : Fin n} {t : TestThread}
    (hstays : (s.tests i).phase = .exited → t.phase = .exited)
    (hempty : t.phase = .exited → t.devices = []) :
    ({ s with tests := fun k => if k = i then t else s.tests k } : StressTester n m).Inv lock := by
  have hexited : ∀ k, (s.tests k).phase = .exited →
      (if k = i then t else s.tests k).phase = .exited := by
    intro k hk
    by_cases hki : k = i
    · rw [if_pos hki]
      exact hstays (hki ▸ hk)
    · rw [if_neg hki]
      exact hk
  refine { hinv with tests := fun k hk => ?_, empty := fun k hk => ?_, exited := fun h k => ?_ }
  · exact hexited k (hinv.tests k hk)
  · replace hk : (if k = i then t else s.tests k).phase = .exited := hk
    show (if k = i then t else s.tests k).devices = []
    by_cases hki : k = i
    · rw [if_pos hki] at hk ⊢
      exact hempty hk
    · rw [if_neg hki] at hk ⊢
      exact hinv.empty k hk
  · exact hexited k (hinv.exited h k)

theorem Inv.test (hinv : s.Inv lock) {i : Fin n} {api : Fin m} {e : TestEvent}
    (h : s.step (.test i api e) = some s') : s'.Inv lock := by
  obtain ⟨-, heq⟩ := Option.ite_none_right_eq_some.mp h
  obtain ⟨t, ht, rfl⟩ := Option.map_eq_some_iff.mp heq
  obtain ⟨hstays, hempty⟩ := exited_step ht (hinv.empty i)
  have hset := hinv.setTest hstays hempty
  unfold afterTest
  split
  · exact hset.setKeepRunning api
  · exact hset

/-! ## `shutdown_and_cleanup` -/

/-- a caller that is no API thread goes in -/
theorem Inv.waits (hinv : s.Inv lock) {c : Caller m} (hc : ∀ i, c ≠ .api i) :
    (s.moveTo c .waiting).Inv lock :=
  hinv.moveTo False.elim (fun i hi => absurd hi (hc i)) (fun _ _ h => by cases h)
    fun _ h => by cases h

theorem Inv.initiates (hinv : s.Inv lock) (h : s.step .initiates = some s') : s'.Inv lock := by
  obtain ⟨hhandling, heq⟩ := Option.ite_none_right_eq_some.mp h
  have hset : ({ s with shutdownInitiated := true, handling := false } :
      StressTester n m).Inv lock := { hinv with }
  cases heq
  dsimp only
  split
  · exact hset.waits fun _ h => by cases h
  · exact hset

theorem Inv.timerInitiates (hinv : s.Inv lock) (h : s.step .timerInitiates = some s') :
    s'.Inv lock := by
  obtain ⟨htimer, heq⟩ := Option.ite_none_right_eq_some.mp h
  have hset : ({ s with shutdownInitiated := true, timer := .cleaning } :
      StressTester n m).Inv lock := { hinv with }
  cases heq
  exact hset.waits fun _ h => by cases h

theorem Inv.proceeds (hinv : s.Inv lock) {c : Caller m} (h : s.step (.proceeds c) = some s') :
    s'.Inv lock := by
  obtain ⟨⟨hpoint, hexited⟩, heq⟩ := Option.ite_none_right_eq_some.mp h
  cases heq
  refine hinv.moveTo (fun _ => hexited) ?_ (fun _ _ h => by cases h)
    fun _ h => by cases h
  rintro i rfl -
  exact hinv.cleaning i (hpoint ▸ trivial)

theorem Inv.finish (hinv : s.Inv lock) {c : Caller m} {k : Nat}
    (hpoint : s.cleanup c = .locking k) : (s.finish c).Inv lock := by
  have hexited := hinv.past c (hpoint ▸ trivial)
  have hmoved : (s.moveTo c .finished).Inv lock :=
    hinv.moveTo (fun _ => hexited) (fun _ _ => False.elim) (fun _ _ h => by cases h)
      fun _ h => by cases h
  cases c with
  | shutdownThread | timer => exact hmoved
  | api i =>
    have hphase := hinv.cleaning i (hpoint ▸ trivial)
    refine hmoved.setApi (fun hjoined => ?_) (fun hactive => ?_) (hmoved.shut i) .inl
    · have hboth : ApiPhase.cleaning = .joined := hphase.symm.trans hjoined
      cases hboth
    · replace hactive : (if Caller.api i = .api i then CleanupPoint.finished
          else s.cleanup (.api i)).Active := hactive
      rw [if_pos rfl] at hactive
      exact hactive.elim

theorem Inv.locks (hinv : s.Inv lock) {c : Caller m} (h : s.step (.locks c) = some s') :
    s'.Inv lock := by
  unfold step at h
  dsimp only at h
  split at h
  · rename_i k hpoint
    have hexited := hinv.past c (hpoint ▸ trivial)
    split at h
    · rename_i hk
      obtain ⟨hfree, heq⟩ := Option.ite_none_right_eq_some.mp h
      cases heq
      have hacquired := hinv.acquire (c := c) hfree
      refine hacquired.moveTo (fun _ => hexited) ?_ ?_ ?_
      · rintro i rfl -
        exact hinv.cleaning i (hpoint ▸ trivial)
      · intro hlock j hj
        cases hj
        exact if_pos ⟨hlock, rfl⟩
      · intro j hj
        injection hj with hj hconnection
        subst hj
        exact hconnection
    · cases h
      exact hinv.finish hpoint
  · cases h

theorem Inv.shuts (hinv : s.Inv lock) {c : Caller m} (h : s.step (.shuts c) = some s') :
    s'.Inv lock := by
  unfold step at h
  dsimp only at h
  split at h
  · rename_i j connection hpoint
    have hexited := hinv.past c (hpoint ▸ trivial)
    have hheld : s.parallelConnectionLock = true → s.owner j = some c := fun hlock =>
      hinv.held hlock c j (by rw [hpoint]; rfl)
    have hcleaning : ∀ i, c = .api i → (s.apis i).phase = .cleaning := by
      rintro i rfl
      exact hinv.cleaning i (hpoint ▸ trivial)
    cases connection with
    | false =>
      cases h
      refine hinv.moveTo (fun _ => hexited) (fun i hi _ => hcleaning i hi) (fun hlock k hk => ?_)
        fun _ h => by cases h
      cases hk
      exact hheld hlock
    | true =>
      cases h
      have hset : (s.setApi j { s.apis j with shutDown := true }).Inv lock :=
        hinv.setApi id (hinv.cleaning j) (fun _ => hexited) .inl
      have hcall : ({ s.setApi j { s.apis j with shutDown := true } with
          shutdownCalls := s.shutdownCalls ++ [(j, (s.apis j).connection)] } :
            StressTester n m).Inv lock := by
        refine { hset with alive := fun hlock call hcall => ?_ }
        rcases List.mem_append.mp hcall with hcall | hcall
        · exact hinv.alive hlock call hcall
        · obtain rfl := List.mem_singleton.mp hcall
          exact hinv.seen hlock c j hpoint
      refine hcall.moveTo (fun _ => hexited) (fun i hi _ => ?_) (fun hlock k hk => ?_)
        fun _ h => by cases h
      · show (if i = j then _ else s.apis i).phase = .cleaning
        split
        · rename_i hij
          exact hij ▸ hcleaning i hi
        · exact hcleaning i hi
      · cases hk
        exact hheld hlock
  · cases h

theorem Inv.unlocks (hinv : s.Inv lock) {c : Caller m} (h : s.step (.unlocks c) = some s') :
    s'.Inv lock := by
  unfold step at h
  dsimp only at h
  split at h
  · rename_i j hpoint
    have hexited := hinv.past c (hpoint ▸ trivial)
    cases h
    -- the caller is past the mutex when it is unlocked
    have hset := hinv.setKeepRunning j
    have hmoved : ((s.setApi j { s.apis j with keepRunning := false }).moveTo c
        (.locking (j.val + 1))).Inv lock := by
      refine hset.moveTo (fun _ => hexited) (fun i hi _ => ?_) (fun _ _ h => by cases h)
        fun _ h => by cases h
      subst hi
      exact hset.cleaning i (hpoint ▸ trivial)
    refine hmoved.release fun hlock d hd => ?_
    replace hd : (if d = c then CleanupPoint.locking (j.val + 1) else s.cleanup d).holds =
      some j := hd
    by_cases hdc : d = c
    · rw [if_pos hdc] at hd
      cases hd
    · rw [if_neg hdc] at hd
      have howner := (hinv.held hlock d j hd).symm.trans
        (hinv.held hlock c j (by rw [hpoint]; rfl))
      exact hdc (Option.some.inj howner)
  · cases h

/-! ## `main` -/

theorem Inv.joinsTest (hinv : s.Inv lock) (h : s.step .joinsTest = some s') : s'.Inv lock := by
  unfold step at h
  dsimp only at h
  split at h
  · rename_i k hmain
    have hjoined : ∀ i : Fin n, i.val < k → (s.tests i).phase = .exited := by
      intro i hi
      exact hinv.tests i (by rw [hmain]; exact hi)
    split at h
    · rename_i hk
      obtain ⟨hexited, heq⟩ := Option.ite_none_right_eq_some.mp h
      cases heq
      refine { hinv with
        tests := fun i hi => ?_
        apis := fun _ hj => absurd hj (Nat.not_lt_zero _) }
      rcases Nat.lt_succ_iff_lt_or_eq.mp hi with hi | hi
      · exact hjoined i hi
      · have hi' : i = ⟨k, hk⟩ := Fin.ext hi
        rw [hi']
        exact hexited
    · rename_i hk
      cases h
      have hall : ∀ i, (s.tests i).phase = .exited := fun i => hjoined i (by omega)
      exact { hinv with
        tests := fun i _ => hall i
        apis := fun _ hj => absurd hj (Nat.not_lt_zero _)
        exited := fun _ => hall
        past := fun _ _ => rfl
        shut := fun _ _ => rfl }
  · cases h

theorem Inv.joinsApi (hinv : s.Inv lock) (h : s.step .joinsApi = some s') : s'.Inv lock := by
  unfold step at h
  dsimp only at h
  split at h
  · rename_i k hmain
    have htests : ∀ i : Fin n, (s.tests i).phase = .exited := by
      intro i
      exact hinv.tests i (by rw [hmain]; exact i.isLt)
    have hjoined : ∀ j : Fin m, j.val < k → (s.apis j).phase = .joined := by
      intro j hj
      exact hinv.apis j (by rw [hmain]; exact hj)
    split at h
    · rename_i hk
      obtain ⟨hreturned, heq⟩ := Option.ite_none_right_eq_some.mp h
      cases heq
      have hset : (s.setApi ⟨k, hk⟩ { s.apis ⟨k, hk⟩ with phase := .joined }).Inv lock :=
        hinv.setApi (fun _ => rfl)
          (fun hactive => absurd hactive (not_active hinv hreturned (by decide)))
          (hinv.shut _) .inl
      refine { hset with tests := fun i _ => htests i, apis := fun j hj => ?_ }
      show (if j = ⟨k, hk⟩ then _ else s.apis j).phase = .joined
      by_cases hjk : j = ⟨k, hk⟩
      · rw [if_pos hjk]
      · rw [if_neg hjk]
        have hne : j.val ≠ k := fun heq => hjk (Fin.ext heq)
        have hlt : j.val < k + 1 := hj
        exact hjoined j (by omega)
    · rename_i hk
      cases h
      exact { hinv with
        tests := fun i _ => htests i
        apis := fun j _ => hjoined j (by omega) }
  · cases h

theorem Inv.step (hinv : s.Inv lock) (h : s.step e = some s') : s'.Inv lock := by
  cases e with
  | connects i => exact hinv.connects h
  | gives i success => exact hinv.gives h
  | stops i => exact hinv.stops h
  | returns i => exact hinv.returns h
  | frees i => exact hinv.frees h
  | registrationFails i answered => exact hinv.registrationFails h
  | test i api e => exact hinv.test h
  | initiates => exact hinv.initiates h
  | timerInitiates => exact hinv.timerInitiates h
  | proceeds c => exact hinv.proceeds h
  | locks c => exact hinv.locks h
  | shuts c => exact hinv.shuts h
  | unlocks c => exact hinv.unlocks h
  | joinsTest => exact hinv.joinsTest h
  | joinsApi => exact hinv.joinsApi h
  | signal =>
    cases h
    exact { hinv with }
  | expires | timerFinishes =>
    obtain ⟨-, heq⟩ := Option.ite_none_right_eq_some.mp h
    cases heq
    exact { hinv with }

theorem Inv.of_run {duration max min : Int}
    (h : run StressTester.step (StressTester.start lock duration max min : StressTester n m) es =
      some s) : s.Inv lock :=
  (Run.of_run h).invariant (Inv.start duration max min) fun _ _ _ hinv _ hstep => hinv.step hstep

/-- **No connection is shut down too early or too late.**  When one is shut down all test threads
have exited, and none of their devices is left; with the locks it has not been freed; and when the
API threads have been joined all threads have ended. -/
theorem shutdown_orderly {duration max min : Int}
    (h : run step (start lock duration max min : StressTester n m) es = some s) :
    ((∃ j, (s.apis j).shutDown = true) →
      ∀ i, (s.tests i).phase = .exited ∧ (s.tests i).devices = []) ∧
    (lock = true → ∀ call ∈ s.shutdownCalls, call.2 = true) ∧
    (s.main = .joiningOthers →
      (∀ i, (s.tests i).phase = .exited) ∧ ∀ j, (s.apis j).phase = .joined) := by
  have hinv : s.Inv lock := Inv.of_run h
  refine ⟨?_, fun hlock => hinv.alive (hinv.option.trans hlock), fun hmain =>
    ⟨fun i => ?_, fun j => ?_⟩⟩
  · rintro ⟨j, hj⟩ i
    have hexited := hinv.exited (hinv.shut j hj) i
    exact ⟨hexited, hinv.empty i hexited⟩
  · exact hinv.tests i (by rw [hmain]; exact i.isLt)
  · exact hinv.apis j (by rw [hmain]; exact j.isLt)

/-- a device is registered, and a signal ends the test -/
def signalled : List (StressEvent 1 1) :=
  [.connects 0, .test 0 0 (.ready true), .test 0 0 (.registerRandomDevice 7 .accepted),
    .test 0 0 (.deviceRegistrationSuccess "rand-0-7"), .signal, .initiates,
    .test 0 0 (.unregisterDevices [.accepted]),
    .test 0 0 (.deviceUnregistrationSuccess "rand-0-7"), .test 0 0 .exits, .joinsTest, .joinsTest,
    .proceeds .shutdownThread, .locks .shutdownThread, .shuts .shutdownThread,
    .unlocks .shutdownThread, .locks .shutdownThread, .returns 0, .frees 0, .joinsApi, .joinsApi]

theorem shutdown_orderly_signalled :
    ∃ s : StressTester 1 1, run step (start true 0 5 0) signalled = some s ∧
      s.shutdownCalls = [(0, true)] ∧ (∀ i, (s.tests i).phase = .exited) ∧
      ∀ j, (s.apis j).phase = .joined := by
  have hany : (run step (start true 0 5 0) signalled).any (fun s => decide
      (s.main = .joiningOthers ∧ s.shutdownCalls = [(0, true)])) = true := by
    decide +kernel
  obtain ⟨s, hs, hmain, hcalls⟩ := exists_of_run_any hany
  exact ⟨s, hs, hcalls, (shutdown_orderly hs).2.2 hmain⟩

-- without the locks the connection may be freed after it is looked at
example : (run step (start false 0 5 0 : StressTester 1 1)
    [.connects 0, .signal, .initiates, .test 0 0 (.unregisterDevices []), .test 0 0 .exits,
      .joinsTest, .joinsTest, .proceeds .shutdownThread, .locks .shutdownThread, .gives 0 true,
      .frees 0, .shuts .shutdownThread]).any
    (fun s => decide (s.shutdownCalls = [(0, false)])) = true := by decide +kernel

/-! ## a callback that waits for its own event loop -/

/-- an API thread waits in a callback for a test thread whose last answers only it can take -/
structure Stuck (s : StressTester n m) (i : Fin n) (api : Fin m) : Prop where
  own : api.val = i.val % m
  waiting : s.cleanup (.api api) = .waiting
  draining : (s.tests i).phase = .draining
  devices : (s.tests i).devices ≠ []

variable {i : Fin n} {api : Fin m}

theorem Stuck.not_exited (hstuck : s.Stuck i api) : (s.tests i).phase ≠ .exited := by
  rw [hstuck.draining]
  decide

theorem Stuck.testThreadsExited (hinv : s.Inv lock) (hstuck : s.Stuck i api) :
    s.testThreadsExited = false :=
  Bool.eq_false_iff.mpr fun hexited => hstuck.not_exited (hinv.exited hexited i)

theorem Stuck.cleaning (hinv : s.Inv lock) (hstuck : s.Stuck i api) :
    (s.apis api).phase = .cleaning :=
  hinv.cleaning api (hstuck.waiting ▸ trivial)

theorem Stuck.moveTo (hstuck : s.Stuck i api) {c : Caller m} {p : CleanupPoint m}
    (hc : s.cleanup c ≠ .waiting) : (s.moveTo c p).Stuck i api :=
  { hstuck with
    waiting := by
      show (if Caller.api api = c then p else s.cleanup (.api api)) = .waiting
      rw [if_neg, hstuck.waiting]
      rintro rfl
      exact hc hstuck.waiting }

theorem Stuck.waits (hstuck : s.Stuck i api) (c : Caller m) : (s.moveTo c .waiting).Stuck i api :=
  { hstuck with
    waiting := by
      show (if Caller.api api = c then .waiting else s.cleanup (.api api)) = .waiting
      split
      · rfl
      · exact hstuck.waiting }

/-- what happens to the test thread while its API thread is in the callback -/
theorem draining_step {t t' : TestThread} {e : TestEvent} (h : t.step e = some t')
    (hcallback : isCallback e = false) (hdraining : t.phase = .draining)
    (hdevices : t.devices ≠ []) : t'.phase = .draining ∧ t'.devices ≠ [] := by
  cases TestThread.taken_of_step h with
  | skips => exact ⟨hdraining, hdevices⟩
  | adds hphase | calls hphase | drains hphase =>
    rw [hphase] at hdraining
    cases hdraining
  | registered | registrationFails | unregistered | unregistrationFails => cases hcallback
  | exits hphase hempty => exact absurd hempty hdevices

theorem Stuck.test (hinv : s.Inv lock) (hstuck : s.Stuck i api) {k : Fin n} {a : Fin m}
    {e : TestEvent} (h : s.step (.test k a e) = some s') : s'.Stuck i api := by
  obtain ⟨⟨hown, hcallback, -⟩, heq⟩ := Option.ite_none_right_eq_some.mp h
  obtain ⟨t, ht, rfl⟩ := Option.map_eq_some_iff.mp heq
  have hset : ({ s with tests := fun x => if x = k then t else s.tests x } :
      StressTester n m).Stuck i api := by
    have hkept : (if i = k then t else s.tests i).phase = .draining ∧
        (if i = k then t else s.tests i).devices ≠ [] := by
      by_cases hik : i = k
      · subst hik
        obtain rfl : a = api := Fin.ext (hown.trans hstuck.own.symm)
        rw [if_pos rfl]
        refine draining_step ht (Bool.eq_false_iff.mpr fun he => ?_) hstuck.draining hstuck.devices
        have hlooping := hcallback he
        rw [hstuck.cleaning hinv] at hlooping
        cases hlooping
      · rw [if_neg hik]
        exact ⟨hstuck.draining, hstuck.devices⟩
    exact { hstuck with draining := hkept.1, devices := hkept.2 }
  unfold afterTest
  split
  · exact { hset with }
  · exact hset

theorem Stuck.step (hinv : s.Inv lock) (hstuck : s.Stuck i api) (h : s.step e = some s') :
    s'.Stuck i api := by
  have hexited := hstuck.testThreadsExited hinv
  have hnot : ∀ c, ¬(s.cleanup c).Past := fun c hpast =>
    Bool.false_ne_true (hexited.symm.trans (hinv.past c hpast))
  cases e with
  | test k a e => exact hstuck.test hinv h
  | connects j | gives j success | stops j | returns j | frees j | expires | timerFinishes =>
    obtain ⟨-, heq⟩ := Option.ite_none_right_eq_some.mp h
    cases heq
    exact { hstuck with }
  | registrationFails j answered =>
    obtain ⟨-, heq⟩ := Option.ite_none_right_eq_some.mp h
    cases heq
    have hset : (s.setApi j { s.apis j with
        phase := .cleaning, keepRunning := (s.apis j).keepRunning && !answered }).Stuck i api :=
      { hstuck with }
    exact hset.waits _
  | signal =>
    cases h
    exact { hstuck with }
  | initiates =>
    obtain ⟨-, heq⟩ := Option.ite_none_right_eq_some.mp h
    have hset : ({ s with shutdownInitiated := true, handling := false } :
        StressTester n m).Stuck i api := { hstuck with }
    cases heq
    dsimp only
    split
    · exact hset.waits _
    · exact hset
  | timerInitiates =>
    obtain ⟨-, heq⟩ := Option.ite_none_right_eq_some.mp h
    have hset : ({ s with shutdownInitiated := true, timer := .cleaning } :
        StressTester n m).Stuck i api := { hstuck with }
    cases heq
    exact hset.waits _
  | proceeds c =>
    obtain ⟨⟨-, htrue⟩, heq⟩ := Option.ite_none_right_eq_some.mp h
    exact absurd (hexited.symm.trans htrue) Bool.false_ne_true
  | locks c | shuts c | unlocks c =>
    -- no caller is past the test threads
    unfold StressTester.step at h
    dsimp only at h
    split at h
    · rename_i hpoint
      exact absurd (hpoint ▸ trivial) (hnot c)
    · cases h
  | joinsTest | joinsApi =>
    unfold StressTester.step at h
    dsimp only at h
    split at h
    · split at h
      · obtain ⟨-, heq⟩ := Option.ite_none_right_eq_some.mp h
        cases heq
        exact { hstuck with }
      · cases h
        exact { hstuck with }
    · cases h

/-- **A callback that waits for its own event loop.**  Where an API thread waits in a callback for
one of its test threads, and this one for the answers about its devices, it stays so: the test
thread is never joined, and no connection is ever shut down. -/
theorem stuck_forever {duration max min : Int}
    (h : run step (start lock duration max min : StressTester n m) es = some s)
    (hstuck : s.Stuck i api) {es' : List (StressEvent n m)} (h' : run step s es' = some s') :
    s'.Stuck i api ∧ s'.testThreadsExited = false ∧ (∀ j, (s'.apis j).shutDown = false) ∧
    ∃ k ≤ i.val, s'.main = .joiningTests k := by
  have hkeep : ∀ (t : StressTester n m) (e : StressEvent n m) (t' : StressTester n m),
      t.Inv lock ∧ t.Stuck i api → True → t.step e = some t' → t'.Inv lock ∧ t'.Stuck i api :=
    fun _ _ _ hboth _ hstep => ⟨hboth.1.step hstep, hboth.2.step hboth.1 hstep⟩
  have hboth : s.Inv lock ∧ s.Stuck i api := ⟨Inv.of_run h, hstuck⟩
  obtain ⟨hinv', hstuck'⟩ := (Run.of_run h').invariant hboth hkeep
  have hexited := hstuck'.testThreadsExited hinv'
  refine ⟨hstuck', hexited, fun j => ?_, ?_⟩
  · exact Bool.eq_false_iff.mpr fun hshut =>
      Bool.false_ne_true (hexited.symm.trans (hinv'.shut j hshut))
  · have hjoins : ¬i.val < s'.main.testsJoined n := fun hi =>
      hstuck'.not_exited (hinv'.tests i hi)
    cases hmain : s'.main with
    | joiningTests k =>
      rw [hmain] at hjoins
      exact ⟨k, Nat.not_lt.mp hjoins, rfl⟩
    | joiningApis k | joiningOthers =>
      rw [hmain] at hjoins
      exact absurd i.isLt hjoins

/-- a device is registered, the connection comes back, and the translator is rejected -/
def rejected : List (StressEvent 1 1) :=
  [.connects 0, .test 0 0 (.ready true), .test 0 0 (.registerRandomDevice 7 .accepted),
    .test 0 0 (.deviceRegistrationSuccess "rand-0-7"), .registrationFails 0 true,
    .test 0 0 (.unregisterDevices [.accepted])]

theorem stuck_forever_rejected :
    ∃ s s' : StressTester 1 1, run step (start true 0 5 0) rejected = some s ∧
      run step s [.signal, .initiates] = some s' ∧ s'.testThreadsExited = false := by
  have hany : (run step (start true 0 5 0) rejected).any (fun s => decide
      ((s.cleanup (.api 0) = .waiting ∧ (s.tests 0).phase = .draining ∧ (s.tests 0).devices ≠ []) ∧
        (run step s [.signal, .initiates]).isSome = true)) = true := by
    decide +kernel
  obtain ⟨s, hs, ⟨hwaiting, hdraining, hdevices⟩, hsome⟩ := exists_of_run_any hany
  obtain ⟨s', hs'⟩ := Option.isSome_iff_exists.mp hsome
  have hstuck : s.Stuck 0 0 := ⟨rfl, hwaiting, hdraining, hdevices⟩
  exact ⟨s, s', hs, hs', (stuck_forever hs hstuck hs').2.1⟩

end StressTester

end EdgeTranslators.Stress
