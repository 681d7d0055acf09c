import EdgeTranslators.Lib.Progress
import EdgeTranslators.PtExample.Shutdown
import Mathlib.Data.Bool.Basic

/-!
# From `main` to its end (`mqttpt_example.c`)

`main` turns the loop of mosquitto until a semaphore is posted.  A message in this loop may start
the thread of the protocol translator, whose callbacks publish to mosquitto and shut the client down.
At the end `main` asks for the devices to be unregistered, waits for the thread and frees what both
have used.

* `MainPoint`, `ThreadPoint`   where the two threads are;
* `Lifecycle`, `step`          the semaphores, and what has been created, used and freed;
* `Taken`                      what a step does, case by case;
* `Inv`                        which of these go together;
* `lifecycle_orderly`          nothing is used after it is freed, and nothing is done twice;
* `Stopping`, `descends`       what is left to do once the loop is to stop;
* `main_returns`               `main` comes to its end, unless the thread could not be created.
-/

namespace EdgeTranslators.Mqtt
open Lib
open PtExample (semPost semValueMax)

/-- what both threads use and `main` frees -/
inductive Shared where
  /-- the client of the protocol translator -/
  | client
  /-- `global_pt_ctx` -/
  | context
  /-- `mosq` -/
  | mosq
  deriving DecidableEq, Repr

/-- where the main thread is -/
inductive MainPoint where
  /-- before `mosquitto_connect` -/
  | connecting
  /-- before `sem_init` -/
  | initialising
  /-- in `mosquitto_loop` -/
  | looping
  /-- at the beginning of `mqttpt_start_translator` -/
  | starting
  /-- between its `pthread_create` and its `sem_post` -/
  | posting
  /-- before the `sem_getvalue` of the loop -/
  | checking
  /-- in `shutdown_and_cleanup` -/
  | unregistering
  /-- before `pthread_join`, or in it -/
  | joining
  | freeingClient
  | freeingContext
  | destroying
  | returned
  /-- `return 1` -/
  | failed
  deriving DecidableEq, Repr

/-- where the thread of the protocol translator is -/
inductive ThreadPoint where
  | notCreated
  /-- before it reads `global_pt_ctx` -/
  | created
  /-- in `pt_client_start` -/
  | running
  | returned
  | joined
  deriving DecidableEq, Repr

structure Lifecycle where
  point : MainPoint
  thread : ThreadPoint
  /-- `mqttpt_translator_started` -/
  translatorStarted : Nat
  /-- `mosquitto_stop` -/
  mosquittoStop : Nat
  /-- a `pthread_create` has failed -/
  creationFailed : Bool
  /-- the threads created -/
  creations : Nat
  /-- the requests to unregister the devices that are not answered yet -/
  unregistrations : Nat
  /-- the calls of `pt_client_shutdown` -/
  shutdowns : Nat
  freed : List Shared
  /-- each use, and whether it was of something not freed yet -/
  uses : List (Shared × Bool)
  deriving DecidableEq, Repr

inductive LifecycleEvent where
  /-- SIGINT or SIGTERM: `shutdown_handler` -/
  | signal
  /-- `mosquitto_new` and `mosquitto_connect` succeed or not -/
  | connects (ok : Bool)
  | initialises
  /-- `mqtt_message_callback`, for a message that starts the translator if none is started -/
  | message (starts : Bool)
  /-- the look at the semaphore in `mqttpt_start_translator`, and `pthread_create` -/
  | creates (ok : Bool)
  | posts
  | loopReturns
  | checks
  /-- `pt_devices_unregister_devices` succeeds or not -/
  | unregisters (accepted : Bool)
  | joins
  | freesClient
  | freesContext
  | destroys
  /-- the thread calls `pt_client_start` -/
  | begins
  /-- `mqttpt_protocol_translator_registration_success_handler` -/
  | registrationSucceeds
  /-- `mqttpt_protocol_translator_registration_failure_handler` -/
  | registrationFails
  /-- any other callback that publishes -/
  | publishes
  /-- `mqttpt_devices_unregister_success_handler`, or the one for the failure -/
  | unregistered
  /-- `pt_client_start` returns after `pt_client_shutdown` -/
  | returns
  /-- `pt_client_start` returns by itself -/
  | gives
  deriving DecidableEq, Repr

namespace Lifecycle

def start : Lifecycle :=
  { point := .connecting, thread := .notCreated, translatorStarted := 0, mosquittoStop := 0
    creationFailed := false, creations := 0, unregistrations := 0, shutdowns := 0, freed := []
    uses := [] }

/-- something is used -/
def touch (s : Lifecycle) (xs : List Shared) : Lifecycle :=
  { s with uses := s.uses ++ xs.map fun x => (x, decide (x ∉ s.freed)) }

/-- something is used for the last time -/
def free (s : Lifecycle) (x : Shared) : Lifecycle :=
  { s.touch [x] with freed := s.freed ++ [x] }

/-- what a callback in the thread uses -/
def callback (s : Lifecycle) : Lifecycle := s.touch [.client, .mosq]

def step (s : Lifecycle) : LifecycleEvent → Option Lifecycle
  | .signal => some { s with mosquittoStop := semPost s.mosquittoStop }
  | .connects ok =>
    if s.point = .connecting then some { s with point := if ok then .initialising else .failed }
    else none
  | .initialises =>
    -- a signal that came before is forgotten
    if s.point = .initialising then some { s with mosquittoStop := 0, point := .looping } else none
  | .message starts =>
    if s.point = .looping then
      some { s.touch [.mosq] with
        point := if starts ∧ s.translatorStarted = 0 then .starting else .looping }
    else none
  | .creates ok =>
    if s.point = .starting then
      if s.translatorStarted = 0 then
        -- the result of `pthread_create` is not looked at
        if ok then
          some { s with point := .posting, thread := .created, creations := s.creations + 1 }
        else some { s with point := .posting, creationFailed := true }
      else some { s with point := .looping }
    else none
  | .posts =>
    if s.point = .posting then
      some { s with point := .looping, translatorStarted := semPost s.translatorStarted }
    else none
  | .loopReturns =>
    if s.point = .looping then some { s.touch [.mosq] with point := .checking } else none
  | .checks =>
    if s.point = .checking then
      some { s with point := if s.mosquittoStop = 0 then .looping else .unregistering }
    else none
  | .unregisters accepted =>
    if s.point = .unregistering then
      if s.translatorStarted = 0 then some { s with point := .joining }
      else if accepted then
        some { s.touch [.client] with
          point := .joining, unregistrations := s.unregistrations + 1 }
      else
        some { s.touch [.client, .context, .client] with
          point := .joining, shutdowns := s.shutdowns + 1 }
    else none
  | .joins =>
    if s.point = .joining then
      if s.translatorStarted = 0 then some { s with point := .freeingClient }
      else if s.thread = .returned then
        some { s with point := .freeingClient, thread := .joined }
      else none
    else none
  | .freesClient =>
    if s.point = .freeingClient then some { s.free .client with point := .freeingContext }
    else none
  | .freesContext =>
    if s.point = .freeingContext then some { s.free .context with point := .destroying } else none
  | .destroys =>
    if s.point = .destroying then some { s.free .mosq with point := .returned } else none
  | .begins =>
    if s.thread = .created then some { s.touch [.context, .client] with thread := .running }
    else none
  | .registrationSucceeds =>
    if s.thread = .running then
      some { s.callback with translatorStarted := semPost s.translatorStarted }
    else none
  | .registrationFails =>
    if s.thread = .running then
      some { s.callback with mosquittoStop := semPost s.mosquittoStop }
    else none
  | .publishes => if s.thread = .running then some s.callback else none
  | .unregistered =>
    if s.thread = .running ∧ 0 < s.unregistrations then
      some { s.callback.touch [.context, .client] with
        unregistrations := s.unregistrations - 1, shutdowns := s.shutdowns + 1 }
    else none
  | .returns =>
    if s.thread = .running ∧ 0 < s.shutdowns then
      some { s.touch [.client] with thread := .returned }
    else none
  | .gives =>
    if s.thread = .running then some { s.touch [.client] with thread := .returned } else none

variable {s s' : Lifecycle} {e : LifecycleEvent} {es : List LifecycleEvent}

/-! ## what a step does -/

inductive Taken (s : Lifecycle) : LifecycleEvent → Lifecycle → Prop where
  | signal : Taken s .signal { s with mosquittoStop := semPost s.mosquittoStop }
  | connected (hp : s.point = .connecting) :
      Taken s (.connects true) { s with point := .initialising }
  | notConnected (hp : s.point = .connecting) :
      Taken s (.connects false) { s with point := .failed }
  | initialises (hp : s.point = .initialising) :
      Taken s .initialises { s with mosquittoStop := 0, point := .looping }
  | starts (hp : s.point = .looping) (hnone : s.translatorStarted = 0) :
      Taken s (.message true) { s.touch [.mosq] with point := .starting }
  | message {starts : Bool} (hp : s.point = .looping) :
      Taken s (.message starts) { s.touch [.mosq] with point := .looping }
  | created (hp : s.point = .starting) :
      Taken s (.creates true)
        { s with point := .posting, thread := .created, creations := s.creations + 1 }
  | notCreated (hp : s.point = .starting) :
      Taken s (.creates false) { s with point := .posting, creationFailed := true }
  | started {ok : Bool} (hp : s.point = .starting) :
      Taken s (.creates ok) { s with point := .looping }
  | posts (hp : s.point = .posting) :
      Taken s .posts
        { s with point := .looping, translatorStarted := semPost s.translatorStarted }
  | loopReturns (hp : s.point = .looping) :
      Taken s .loopReturns { s.touch [.mosq] with point := .checking }
  | turns (hp : s.point = .checking) (hstop : s.mosquittoStop = 0) :
      Taken s .checks { s with point := .looping }
  | leaves (hp : s.point = .checking) : Taken s .checks { s with point := .unregistering }
  | nothing {accepted : Bool} (hp : s.point = .unregistering) (hnone : s.translatorStarted = 0) :
      Taken s (.unregisters accepted) { s with point := .joining }
  | accepted (hp : s.point = .unregistering) (hstarted : 0 < s.translatorStarted) :
      Taken s (.unregisters true)
        { s.touch [.client] with point := .joining, unregistrations := s.unregistrations + 1 }
  | refused (hp : s.point = .unregistering) (hstarted : 0 < s.translatorStarted) :
      Taken s (.unregisters false)
        { s.touch [.client, .context, .client] with
          point := .joining, shutdowns := s.shutdowns + 1 }
  | nobody (hp : s.point = .joining) (hnone : s.translatorStarted = 0) :
      Taken s .joins { s with point := .freeingClient }
  | joins (hp : s.point = .joining) (hthread : s.thread = .returned) :
      Taken s .joins { s with point := .freeingClient, thread := .joined }
  | freesClient (hp : s.point = .freeingClient) :
      Taken s .freesClient { s.free .client with point := .freeingContext }
  | freesContext (hp : s.point = .freeingContext) :
      Taken s .freesContext { s.free .context with point := .destroying }
  | destroys (hp : s.point = .destroying) :
      Taken s .destroys { s.free .mosq with point := .returned }
  | begins (hthread : s.thread = .created) :
      Taken s .begins { s.touch [.context, .client] with thread := .running }
  | registrationSucceeds (hthread : s.thread = .running) :
      Taken s .registrationSucceeds
        { s.callback with translatorStarted := semPost s.translatorStarted }
  | registrationFails (hthread : s.thread = .running) :
      Taken s .registrationFails { s.callback with mosquittoStop := semPost s.mosquittoStop }
  | publishes (hthread : s.thread = .running) : Taken s .publishes s.callback
  | unregistered (hthread : s.thread = .running) (hdue : 0 < s.unregistrations) :
      Taken s .unregistered { s.callback.touch [.context, .client] with
        unregistrations := s.unregistrations - 1, shutdowns := s.shutdowns + 1 }
  | returns (hthread : s.thread = .running) (hdown : 0 < s.shutdowns) :
      Taken s .returns { s.touch [.client] with thread := .returned }
  | gives (hthread : s.thread = .running) :
      Taken s .gives { s.touch [.client] with thread := .returned }

theorem taken_of_step (h : s.step e = some s') : Taken s e s' := by
  cases e with
  | signal =>
    cases h
    exact .signal
  | connects ok =>
    obtain ⟨hp, h⟩ := Option.ite_none_right_eq_some.mp h
    cases h
    cases ok with
    | true => exact .connected hp
    | false => exact .notConnected hp
  | initialises =>
    obtain ⟨hp, h⟩ := Option.ite_none_right_eq_some.mp h
    cases h
    exact .initialises hp
  | message starts =>
    obtain ⟨hp, h⟩ := Option.ite_none_right_eq_some.mp h
    cases h
    by_cases hstarts : starts ∧ s.translatorStarted = 0
    · obtain ⟨rfl, hnone⟩ := hstarts
      rw [if_pos ⟨rfl, hnone⟩]
      exact .starts hp hnone
    · rw [if_neg hstarts]
      exact .message hp
  | creates ok =>
    obtain ⟨hp, h⟩ := Option.ite_none_right_eq_some.mp h
    split at h
    · cases ok with
      | true => cases h; exact .created hp
      | false => cases h; exact .notCreated hp
    · cases h
      exact .started hp
  | posts =>
    obtain ⟨hp, h⟩ := Option.ite_none_right_eq_some.mp h
    cases h
    exact .posts hp
  | loopReturns =>
    obtain ⟨hp, h⟩ := Option.ite_none_right_eq_some.mp h
    cases h
    exact .loopReturns hp
  | checks =>
    obtain ⟨hp, h⟩ := Option.ite_none_right_eq_some.mp h
    cases h
    by_cases hstop : s.mosquittoStop = 0
    · rw [if_pos hstop]
      exact .turns hp hstop
    · rw [if_neg hstop]
      exact .leaves hp
  | unregisters accepted =>
    obtain ⟨hp, h⟩ := Option.ite_none_right_eq_some.mp h
    by_cases hnone : s.translatorStarted = 0
    · rw [if_pos hnone] at h
      cases h
      exact .nothing hp hnone
    · rw [if_neg hnone] at h
      cases accepted with
      | true => cases h; exact .accepted hp (Nat.pos_of_ne_zero hnone)
      | false => cases h; exact .refused hp (Nat.pos_of_ne_zero hnone)
  | joins =>
    obtain ⟨hp, h⟩ := Option.ite_none_right_eq_some.mp h
    by_cases hnone : s.translatorStarted = 0
    · rw [if_pos hnone] at h
      cases h
      exact .nobody hp hnone
    · rw [if_neg hnone] at h
      obtain ⟨hthread, h⟩ := Option.ite_none_right_eq_some.mp h
      cases h
      exact .joins hp hthread
  | freesClient =>
    obtain ⟨hp, h⟩ := Option.ite_none_right_eq_some.mp h
    cases h
    exact .freesClient hp
  | freesContext =>
    obtain ⟨hp, h⟩ := Option.ite_none_right_eq_some.mp h
    cases h
    exact .freesContext hp
  | destroys =>
    obtain ⟨hp, h⟩ := Option.ite_none_right_eq_some.mp h
    cases h
    exact .destroys hp
  | begins =>
    obtain ⟨hthread, h⟩ := Option.ite_none_right_eq_some.mp h
    cases h
    exact .begins hthread
  | registrationSucceeds =>
    obtain ⟨hthread, h⟩ := Option.ite_none_right_eq_some.mp h
    cases h
    exact .registrationSucceeds hthread
  | registrationFails =>
    obtain ⟨hthread, h⟩ := Option.ite_none_right_eq_some.mp h
    cases h
    exact .registrationFails hthread
  | publishes =>
    obtain ⟨hthread, h⟩ := Option.ite_none_right_eq_some.mp h
    cases h
    exact .publishes hthread
  | unregistered =>
    obtain ⟨⟨hthread, hdue⟩, h⟩ := Option.ite_none_right_eq_some.mp h
    cases h
    exact .unregistered hthread hdue
  | returns =>
    obtain ⟨⟨hthread, hdown⟩, h⟩ := Option.ite_none_right_eq_some.mp h
    cases h
    exact .returns hthread hdown
  | gives =>
    obtain ⟨hthread, h⟩ := Option.ite_none_right_eq_some.mp h
    cases h
    exact .gives hthread

/-! ## what goes together -/

/-- what `main` has freed when it is at a point -/
def freedAt : MainPoint → List Shared
  | .freeingContext => [.client]
  | .destroying => [.client, .context]
  | .returned => [.client, .context, .mosq]
  | _ => []

/-- before any message -/
def Early : MainPoint → Prop
  | .connecting | .initialising | .starting | .failed => True
  | _ => False

/-- after `shutdown_and_cleanup` -/
def Asked : MainPoint → Prop
  | .joining | .freeingClient | .freeingContext | .destroying | .returned => True
  | _ => False

/-- after `pthread_join` -/
def PastJoin : MainPoint → Prop
  | .freeingClient | .freeingContext | .destroying | .returned => True
  | _ => False

instance : DecidablePred Asked := fun p => by cases p <;> unfold Asked <;> infer_instance

theorem PastJoin.asked {p : MainPoint} (h : PastJoin p) : Asked p := by
  cases p with
  | freeingClient | freeingContext | destroying | returned => trivial
  | _ => exact h.elim

theorem PastJoin.not_early {p : MainPoint} (h : PastJoin p) : ¬Early p := by
  cases p with
  | freeingClient | freeingContext | destroying | returned => exact not_false
  | _ => exact h.elim

/-- nothing that `Inv` says of `main` tells `p` from `q` -/
structure Quiet (p q : MainPoint) : Prop where
  freed : freedAt q = freedAt p
  posting : p ≠ .posting
  posted : q ≠ .posting
  past : PastJoin q ↔ PastJoin p
  asked : Asked q ↔ Asked p

structure Inv (s : Lifecycle) : Prop where
  freed : s.freed = freedAt s.point
  uses : ∀ u ∈ s.uses, u.2 = true
  creations : s.creations = if s.thread = .notCreated then 0 else 1
  uncreated : s.creationFailed = true → s.thread = .notCreated
  early : Early s.point → s.thread = .notCreated ∧ s.creationFailed = false
  posting : s.point = .posting → s.thread ≠ .notCreated ∨ s.creationFailed = true
  started : s.point ≠ .posting →
    (0 < s.translatorStarted ↔ s.thread ≠ .notCreated ∨ s.creationFailed = true)
  joined : s.thread = .joined → PastJoin s.point
  pastJoin : PastJoin s.point →
    (s.thread = .notCreated ∨ s.thread = .joined) ∧ s.creationFailed = false
  asked : s.unregistrations + s.shutdowns =
    if Asked s.point ∧ 0 < s.translatorStarted then 1 else 0

theorem Inv.start : Lifecycle.start.Inv where
  freed := rfl
  uses _ hu := (List.not_mem_nil hu).elim
  creations := rfl
  uncreated h := by cases h
  early _ := ⟨rfl, rfl⟩
  posting h := by cases h
  started _ := by simp [Lifecycle.start]
  joined h := by cases h
  pastJoin h := h.elim
  asked := rfl

theorem semPost_pos (n : Nat) : 0 < semPost n := by
  have hmax : 0 < semValueMax := by decide
  unfold semPost
  split <;> omega

/-! ## what a step keeps -/

/-- the thread has been created, and `pt_client_start` has not returned -/
def Alive (s : Lifecycle) : Prop := s.thread = .created ∨ s.thread = .running

theorem Alive.ne_notCreated (h : s.Alive) : s.thread ≠ .notCreated := by
  rcases h with h | h
  · rw [h]; decide
  · rw [h]; decide

theorem Alive.ne_joined (h : s.Alive) : s.thread ≠ .joined := by
  rcases h with h | h
  · rw [h]; decide
  · rw [h]; decide

theorem Inv.not_pastJoin (hinv : s.Inv) (halive : s.Alive) : ¬PastJoin s.point := by
  intro hpast
  rcases (hinv.pastJoin hpast).1 with hthread | hthread
  · exact halive.ne_notCreated hthread
  · exact halive.ne_joined hthread

theorem Inv.not_early (hinv : s.Inv) (halive : s.Alive) : ¬Early s.point :=
  fun hearly => halive.ne_notCreated (hinv.early hearly).1

theorem Inv.creationFailed_of_alive (hinv : s.Inv) (halive : s.Alive) :
    s.creationFailed ≠ true :=
  fun hfailed => halive.ne_notCreated (hinv.uncreated hfailed)

/-- before `shutdown_and_cleanup` nothing is asked for -/
theorem Inv.unasked (hinv : s.Inv) (hp : ¬Asked s.point) : s.unregistrations + s.shutdowns = 0 :=
  hinv.asked.trans (if_neg fun hasked => hp hasked.1)

/-- while the thread runs nothing is freed -/
theorem Inv.freed_of_alive (hinv : s.Inv) (halive : s.Alive) : s.freed = [] := by
  have hpast := hinv.not_pastJoin halive
  rw [hinv.freed]
  cases hp : s.point with
  | freeingClient | freeingContext | destroying | returned =>
    rw [hp] at hpast
    exact (hpast trivial).elim
  | _ => rfl

theorem Inv.touch (hinv : s.Inv) {xs : List Shared} (halive : ∀ x ∈ xs, x ∉ s.freed) :
    (s.touch xs).Inv := by
  refine { hinv with uses := fun u hu => ?_ }
  rcases List.mem_append.mp hu with hu | hu
  · exact hinv.uses u hu
  · obtain ⟨x, hx, rfl⟩ := List.mem_map.mp hu
    exact decide_eq_true (halive x hx)

/-- what the thread uses is there -/
theorem Inv.touch_of_alive (hinv : s.Inv) (halive : s.Alive) (xs : List Shared) :
    (s.touch xs).Inv :=
  hinv.touch fun _ _ hx => List.not_mem_nil (hinv.freed_of_alive halive ▸ hx)

/-- what `main` uses before it frees is there -/
theorem Inv.touch_of_point (hinv : s.Inv) (hp : freedAt s.point = []) (xs : List Shared) :
    (s.touch xs).Inv :=
  hinv.touch fun _ _ hx => List.not_mem_nil (hp ▸ hinv.freed ▸ hx)

/-- the semaphore of the loop takes no part -/
theorem Inv.stop (hinv : s.Inv) (n : Nat) : ({ s with mosquittoStop := n } : Lifecycle).Inv :=
  { hinv with }

theorem Inv.moves (hinv : s.Inv) {p q : MainPoint} (hp : s.point = p) (hquiet : Quiet p q)
    (hearly : Early q → s.thread = .notCreated ∧ s.creationFailed = false) :
    ({ s with point := q } : Lifecycle).Inv := by
  subst hp
  exact {
    freed := hinv.freed.trans hquiet.freed.symm
    uses := hinv.uses
    creations := hinv.creations
    uncreated := hinv.uncreated
    early := hearly
    posting := fun hq => absurd hq hquiet.posted
    started := fun _ => hinv.started hquiet.posting
    joined := fun hthread => hquiet.past.mpr (hinv.joined hthread)
    pastJoin := fun hq => hinv.pastJoin (hquiet.past.mp hq)
    asked := hinv.asked.trans (if_congr (and_congr_left' hquiet.asked.symm) rfl rfl) }

/-- `main` frees one more thing, after `pthread_join` -/
theorem Inv.frees (hinv : s.Inv) {x : Shared} {p q : MainPoint} (hp : s.point = p)
    (hpast : PastJoin p) (hq : PastJoin q) (hthere : x ∉ freedAt p)
    (hfreed : freedAt q = freedAt p ++ [x]) :
    ({ s.free x with point := q } : Lifecycle).Inv := by
  subst hp
  have hx : x ∉ s.freed := hinv.freed ▸ hthere
  have htouch : (s.touch [x]).Inv := hinv.touch fun y hy => List.mem_singleton.mp hy ▸ hx
  exact {
    freed := by
      show s.freed ++ [x] = freedAt q
      rw [hfreed, hinv.freed]
    uses := htouch.uses
    creations := hinv.creations
    uncreated := hinv.uncreated
    early := fun hearly => (hq.not_early hearly).elim
    posting := fun hposting => by
      have hposting : q = .posting := hposting
      rw [hposting] at hq
      exact hq.elim
    started := fun _ => hinv.started fun hposting => by
      rw [hposting] at hpast
      exact hpast
    joined := fun _ => hq
    pastJoin := fun _ => hinv.pastJoin hpast
    asked := hinv.asked.trans
      (if_congr (and_congr_left' (iff_of_true hpast.asked hq.asked)) rfl rfl) }

/-- the thread begins or returns -/
theorem Inv.goes (hinv : s.Inv) (halive : s.Alive) {t : ThreadPoint}
    (ht : t = .running ∨ t = .returned) : ({ s with thread := t } : Lifecycle).Inv := by
  have hne : t ≠ .notCreated := by rcases ht with rfl | rfl <;> decide
  have hnotJoined : t ≠ .joined := by rcases ht with rfl | rfl <;> decide
  exact {
    freed := hinv.freed
    uses := hinv.uses
    creations := by
      have hcreations := hinv.creations
      rw [if_neg halive.ne_notCreated] at hcreations
      exact hcreations.trans (if_neg hne).symm
    uncreated := fun hfailed => (hinv.creationFailed_of_alive halive hfailed).elim
    early := fun hearly => (hinv.not_early halive hearly).elim
    posting := fun _ => .inl hne
    started := fun hp => (hinv.started hp).trans
      (iff_of_true (.inl halive.ne_notCreated) (.inl hne))
    joined := fun hjoined => (hnotJoined hjoined).elim
    pastJoin := fun hpast => (hinv.not_pastJoin halive hpast).elim
    asked := hinv.asked }

/-- the thread posts the semaphore that says it has been started -/
theorem Inv.registers (hinv : s.Inv) (halive : s.Alive) :
    ({ s with translatorStarted := semPost s.translatorStarted } : Lifecycle).Inv := by
  have hpos : 0 < semPost s.translatorStarted := semPost_pos _
  refine { hinv with started := fun _ => iff_of_true hpos (.inl halive.ne_notCreated), asked := ?_ }
  refine hinv.asked.trans (if_congr (and_congr_right fun hasked => ?_) rfl rfl)
  have hposting : s.point ≠ .posting := by
    intro hp
    rw [hp] at hasked
    exact hasked
  exact iff_of_true ((hinv.started hposting).mpr (.inl halive.ne_notCreated)) hpos

/-- one request is answered by one call of `pt_client_shutdown` -/
theorem Inv.answers (hinv : s.Inv) (hdue : 0 < s.unregistrations) :
    ({ s with unregistrations := s.unregistrations - 1, shutdowns := s.shutdowns + 1 } :
      Lifecycle).Inv := by
  refine { hinv with asked := ?_ }
  show s.unregistrations - 1 + (s.shutdowns + 1) = _
  rw [show s.unregistrations - 1 + (s.shutdowns + 1) = s.unregistrations + s.shutdowns by omega]
  exact hinv.asked

/-- `main` leaves `shutdown_and_cleanup`, with a request or a call where there is a thread -/
theorem Inv.asks (hinv : s.Inv) (hp : s.point = .unregistering) {u d : Nat}
    (hcount : u + d = s.unregistrations + s.shutdowns + if 0 < s.translatorStarted then 1 else 0) :
    ({ s with point := .joining, unregistrations := u, shutdowns := d } : Lifecycle).Inv := by
  have hnone := hinv.unasked (by rw [hp]; exact not_false)
  have hquiet : s.point ≠ .posting := by rw [hp]; decide
  exact {
    freed := hinv.freed.trans (by rw [hp]; rfl)
    uses := hinv.uses
    creations := hinv.creations
    uncreated := hinv.uncreated
    early := fun hearly => hearly.elim
    posting := fun h => by cases h
    started := fun _ => hinv.started hquiet
    joined := fun hthread => by
      have hpast := hinv.joined hthread
      rw [hp] at hpast
      exact hpast.elim
    pastJoin := fun hpast => hpast.elim
    asked := by
      show u + d = _
      rw [hcount, hnone, Nat.zero_add]
      exact if_congr (and_iff_right trivial).symm rfl rfl }

/-- `main` goes on from `pthread_join`, or past it -/
theorem Inv.passesJoin (hinv : s.Inv) (hp : s.point = .joining) {t : ThreadPoint}
    (ht : t = .notCreated ∨ t = .joined) (hsame : t = .notCreated ↔ s.thread = .notCreated)
    (hcreated : s.creationFailed = false) :
    ({ s with point := .freeingClient, thread := t } : Lifecycle).Inv where
  freed := hinv.freed.trans (by rw [hp]; rfl)
  uses := hinv.uses
  creations := hinv.creations.trans (if_congr hsame.symm rfl rfl)
  uncreated hfailed := by
    rw [hcreated] at hfailed
    cases hfailed
  early hearly := hearly.elim
  posting h := by cases h
  started _ := (hinv.started (by rw [hp]; decide)).trans (or_congr (not_congr hsame.symm) Iff.rfl)
  joined _ := trivial
  pastJoin _ := ⟨ht, hcreated⟩
  asked := hinv.asked.trans
    (if_congr (and_congr_left' (iff_of_true (by rw [hp]; trivial) trivial)) rfl rfl)

/-- no thread has been asked for -/
theorem Inv.never (hinv : s.Inv) (hp : s.point ≠ .posting) (hnone : s.translatorStarted = 0) :
    s.thread = .notCreated ∧ s.creationFailed = false := by
  -- a thread or a failed creation would have posted the semaphore
  have hnever : ¬(s.thread ≠ .notCreated ∨ s.creationFailed = true) := by
    rw [← hinv.started hp, hnone]
    exact Nat.lt_irrefl 0
  rw [not_or, not_not, Bool.not_eq_true] at hnever
  exact hnever

/-- the thread is created, or could not be -/
theorem Inv.creates (hinv : s.Inv) (hp : s.point = .starting) {t : ThreadPoint} {failed : Bool}
    {n : Nat} (ht : t = .created ∧ failed = false ∧ n = s.creations + 1 ∨
      t = .notCreated ∧ failed = true ∧ n = s.creations) :
    ({ s with point := .posting, thread := t, creationFailed := failed, creations := n } :
      Lifecycle).Inv := by
  have hthread := (hinv.early (hp ▸ trivial)).1
  have hfreed : s.freed = [] := hinv.freed.trans (by rw [hp]; rfl)
  have hasked := hinv.unasked (by rw [hp]; exact not_false)
  have hcreations : s.creations = 0 := by rw [hinv.creations, if_pos hthread]
  rcases ht with ⟨rfl, rfl, rfl⟩ | ⟨rfl, rfl, rfl⟩
  · exact {
      freed := hfreed
      uses := hinv.uses
      creations := congrArg (· + 1) hcreations
      uncreated := fun hfailed => by cases hfailed
      early := fun hearly => hearly.elim
      posting := fun _ => .inl fun hnone => by cases hnone
      started := fun hposting => absurd rfl hposting
      joined := fun hjoined => by cases hjoined
      pastJoin := fun hpast => hpast.elim
      asked := hasked }
  · exact {
      freed := hfreed
      uses := hinv.uses
      creations := hcreations
      uncreated := fun _ => rfl
      early := fun hearly => hearly.elim
      posting := fun _ => .inr rfl
      started := fun hposting => absurd rfl hposting
      joined := fun hjoined => by cases hjoined
      pastJoin := fun hpast => hpast.elim
      asked := hasked }

theorem Inv.posts (hinv : s.Inv) (hp : s.point = .posting) :
    ({ s with point := .looping, translatorStarted := semPost s.translatorStarted } :
      Lifecycle).Inv where
  freed := hinv.freed.trans (by rw [hp]; rfl)
  uses := hinv.uses
  creations := hinv.creations
  uncreated := hinv.uncreated
  early hearly := hearly.elim
  posting hposting := by cases hposting
  started _ := iff_of_true (semPost_pos s.translatorStarted) (hinv.posting hp)
  joined hjoined := by
    have hpast := hinv.joined hjoined
    rw [hp] at hpast
    exact hpast.elim
  pastJoin hpast := hpast.elim
  asked := hinv.unasked (by rw [hp]; exact not_false)

theorem Inv.created_of_returned (hinv : s.Inv) (hthread : s.thread = .returned) :
    s.creationFailed = false := by
  rw [← Bool.not_eq_true]
  intro hfailed
  have hnone := hinv.uncreated hfailed
  rw [hthread] at hnone
  cases hnone

theorem Inv.callback (hinv : s.Inv) (hthread : s.thread = .running) : s.callback.Inv :=
  hinv.touch_of_alive (.inr hthread) [.client, .mosq]

theorem Inv.step (hinv : s.Inv) (h : s.step e = some s') : s'.Inv := by
  cases taken_of_step h with
  | signal => exact hinv.stop (semPost s.mosquittoStop)
  | connected hp =>
    exact hinv.moves hp ⟨rfl, by decide, by decide, .rfl, .rfl⟩ fun _ => hinv.early (hp ▸ trivial)
  | notConnected hp =>
    exact hinv.moves hp ⟨rfl, by decide, by decide, .rfl, .rfl⟩ fun _ => hinv.early (hp ▸ trivial)
  | initialises hp =>
    exact (hinv.stop 0).moves hp ⟨rfl, by decide, by decide, .rfl, .rfl⟩ fun hearly => hearly.elim
  | starts hp hnone =>
    exact (hinv.touch_of_point (by rw [hp]; rfl) [.mosq]).moves hp
      ⟨rfl, by decide, by decide, .rfl, .rfl⟩ fun _ => hinv.never (by rw [hp]; decide) hnone
  | message hp =>
    exact (hinv.touch_of_point (by rw [hp]; rfl) [.mosq]).moves hp
      ⟨rfl, by decide, by decide, .rfl, .rfl⟩ fun hearly => hearly.elim
  | created hp =>
    have hfailed := (hinv.early (hp ▸ trivial)).2
    exact hinv.creates hp (.inl ⟨rfl, hfailed, rfl⟩)
  | notCreated hp =>
    have hthread := (hinv.early (hp ▸ trivial)).1
    exact hinv.creates hp (.inr ⟨hthread, rfl, rfl⟩)
  | started hp =>
    exact hinv.moves hp ⟨rfl, by decide, by decide, .rfl, .rfl⟩ fun hearly => hearly.elim
  | posts hp => exact hinv.posts hp
  | loopReturns hp =>
    exact (hinv.touch_of_point (by rw [hp]; rfl) [.mosq]).moves hp
      ⟨rfl, by decide, by decide, .rfl, .rfl⟩ fun hearly => hearly.elim
  | turns hp _ =>
    exact hinv.moves hp ⟨rfl, by decide, by decide, .rfl, .rfl⟩ fun hearly => hearly.elim
  | leaves hp =>
    exact hinv.moves hp ⟨rfl, by decide, by decide, .rfl, .rfl⟩ fun hearly => hearly.elim
  | nothing hp hnone => exact hinv.asks hp (by rw [hnone]; rfl)
  | accepted hp hstarted =>
    refine (hinv.touch_of_point (by rw [hp]; rfl) [.client]).asks hp ?_
    show s.unregistrations + 1 + s.shutdowns =
      s.unregistrations + s.shutdowns + if 0 < s.translatorStarted then 1 else 0
    rw [if_pos hstarted]
    omega
  | refused hp hstarted =>
    refine (hinv.touch_of_point (by rw [hp]; rfl) [.client, .context, .client]).asks hp ?_
    show s.unregistrations + (s.shutdowns + 1) =
      s.unregistrations + s.shutdowns + if 0 < s.translatorStarted then 1 else 0
    rw [if_pos hstarted]
    omega
  | nobody hp hnone =>
    have hnever := hinv.never (by rw [hp]; decide) hnone
    exact hinv.passesJoin hp (.inl hnever.1) Iff.rfl hnever.2
  | joins hp hthread =>
    exact hinv.passesJoin hp (.inr rfl) (iff_of_false (by decide) (by rw [hthread]; decide))
      (hinv.created_of_returned hthread)
  | freesClient hp | freesContext hp | destroys hp =>
    exact hinv.frees hp trivial trivial (by decide) rfl
  | begins hthread =>
    exact (hinv.touch_of_alive (.inl hthread) [.context, .client]).goes (.inl hthread) (.inl rfl)
  | registrationSucceeds hthread => exact (hinv.callback hthread).registers (.inr hthread)
  | registrationFails hthread => exact (hinv.callback hthread).stop (semPost s.mosquittoStop)
  | publishes hthread => exact hinv.callback hthread
  | unregistered hthread hdue =>
    exact ((hinv.callback hthread).touch_of_alive (.inr hthread) [.context, .client]).answers hdue
  | returns hthread _ | gives hthread =>
    exact (hinv.touch_of_alive (.inr hthread) [.client]).goes (.inr hthread) (.inr rfl)

theorem Inv.of_run (h : run Lifecycle.step Lifecycle.start es = some s) : s.Inv :=
  (Run.of_run h).invariant Inv.start fun _ _ _ hinv _ hstep => hinv.step hstep

/-! ## order -/

/-- nothing is used after it is freed, and nothing is done twice -/
structure Orderly (s : Lifecycle) : Prop where
  uses : ∀ u ∈ s.uses, u.2 = true
  freed : s.freed.Nodup
  creations : s.creations ≤ 1
  shutdowns : s.shutdowns ≤ 1
  /-- where `main` has returned, all is freed and no thread is left -/
  returned : s.point = .returned →
    (∀ x, x ∈ s.freed) ∧ (s.thread = .notCreated ∨ s.thread = .joined)
  /-- where it has given up before the loop, it has freed nothing and no thread was created -/
  failed : s.point = .failed → s.freed = [] ∧ s.creations = 0

theorem Inv.orderly (hinv : s.Inv) : s.Orderly where
  uses := hinv.uses
  freed := by
    rw [hinv.freed]
    cases s.point <;> decide
  creations := by
    rw [hinv.creations]
    split <;> omega
  shutdowns := by
    have hasked := hinv.asked
    split at hasked <;> omega
  returned hp := by
    refine ⟨fun x => ?_, (hinv.pastJoin (hp ▸ trivial)).1⟩
    rw [hinv.freed, hp]
    cases x <;> decide
  failed hp := by
    have hthread := (hinv.early (hp ▸ trivial)).1
    rw [hinv.freed, hinv.creations, hp, hthread]
    exact ⟨rfl, rfl⟩

/-- **The two threads are in order.**  However the messages, the signals and the callbacks come. -/
theorem lifecycle_orderly (h : run Lifecycle.step Lifecycle.start es = some s) : s.Orderly :=
  (Inv.of_run h).orderly

/-- a message starts the thread, and a signal comes -/
def onceUntilSignal : List LifecycleEvent :=
  [.connects true, .initialises, .message true, .creates true, .begins, .registrationSucceeds,
    .posts, .signal]

/-- the loop stops, the devices are unregistered and the thread returns -/
def onceAfterSignal : List LifecycleEvent :=
  [.loopReturns, .checks, .unregisters true, .unregistered, .returns, .joins, .freesClient,
    .freesContext, .destroys]

theorem lifecycle_orderly_once :
    ∃ s, run Lifecycle.step Lifecycle.start (onceUntilSignal ++ onceAfterSignal) = some s ∧
      (s.point = .returned ∧ s.shutdowns = 1) ∧ s.Orderly := by
  have hany : ∃ s, run Lifecycle.step Lifecycle.start (onceUntilSignal ++ onceAfterSignal) =
      some s ∧ s.point = .returned ∧ s.shutdowns = 1 := exists_of_run_any (by decide)
  obtain ⟨s, hs, hend⟩ := hany
  exact ⟨s, hs, hend, lifecycle_orderly hs⟩

/-! ## the end -/

/-- what happens sooner or later as long as it can: what `main` does, with a `pthread_create` that
succeeds, and what the library does in the thread -/
def own : LifecycleEvent → Bool
  | .creates ok => ok
  | .posts | .loopReturns | .checks | .unregisters _ | .joins | .freesClient | .freesContext
  | .destroys | .begins | .unregistered | .returns => true
  | _ => false

/-- `main` has called `sem_init`, and the semaphore has been posted since -/
structure Stopping (s : Lifecycle) : Prop where
  initialised : s.point ≠ .connecting ∧ s.point ≠ .initialising ∧ s.point ≠ .failed
  posted : 0 < s.mosquittoStop

theorem Stopping.of_point {q : MainPoint} (hp : s.point = q)
    (hq : q ≠ .connecting ∧ q ≠ .initialising ∧ q ≠ .failed) (hposted : 0 < s.mosquittoStop) :
    s.Stopping :=
  ⟨hp ▸ hq, hposted⟩

theorem Stopping.step (hstop : s.Stopping) (h : s.step e = some s') : s'.Stopping := by
  obtain ⟨hinit, hposted⟩ := hstop
  cases taken_of_step h with
  | signal | registrationFails _ => exact ⟨hinit, semPost_pos s.mosquittoStop⟩
  | connected hp | notConnected hp => exact absurd hp hinit.1
  | initialises hp => exact absurd hp hinit.2.1
  | starts _ _ => exact .of_point (q := .starting) rfl (by decide) hposted
  | message _ | started _ | posts _ | turns _ _ =>
    exact .of_point (q := .looping) rfl (by decide) hposted
  | created _ | notCreated _ => exact .of_point (q := .posting) rfl (by decide) hposted
  | loopReturns _ => exact .of_point (q := .checking) rfl (by decide) hposted
  | leaves _ => exact .of_point (q := .unregistering) rfl (by decide) hposted
  | nothing _ _ | accepted _ _ | refused _ _ =>
    exact .of_point (q := .joining) rfl (by decide) hposted
  | nobody _ _ | joins _ _ => exact .of_point (q := .freeingClient) rfl (by decide) hposted
  | freesClient _ => exact .of_point (q := .freeingContext) rfl (by decide) hposted
  | freesContext _ => exact .of_point (q := .destroying) rfl (by decide) hposted
  | destroys _ => exact .of_point (q := .returned) rfl (by decide) hposted
  | begins _ | registrationSucceeds _ | publishes _ | unregistered _ _ | returns _ _ | gives _ =>
    -- the thread leaves `main` where it is
    exact ⟨hinit, hposted⟩

/-- how much the main thread has still to do -/
def mainPotential : MainPoint → Nat
  | .starting => 12
  | .posting => 9
  | .looping => 8
  | .checking => 7
  | .unregistering => 6
  | .joining => 4
  | .freeingClient => 3
  | .freeingContext => 2
  | .destroying => 1
  | _ => 0

/-- how much the other thread has still to do -/
def threadPotential : ThreadPoint → Nat
  | .created => 2
  | .running => 1
  | _ => 0

def potential (s : Lifecycle) : Nat :=
  mainPotential s.point + threadPotential s.thread + s.unregistrations

/-- a message may have the thread started -/
def cost : LifecycleEvent → Nat
  | .message _ => 4
  | _ => 0

theorem potential_lowers (hinv : s.Inv) (hstop : s.Stopping) (hown : own e = true)
    (h : s.step e = some s') : s'.potential < s.potential := by
  cases taken_of_step h with
  | created hp =>
    have hthread := (hinv.early (hp ▸ trivial)).1
    simp only [potential, hp, hthread, mainPotential, threadPotential]
    omega
  | started hp | posts hp | leaves hp | nothing hp _ | nobody hp _ =>
    simp only [potential, hp, mainPotential]
    omega
  | turns hp hnone => exact absurd hnone (Nat.ne_of_gt hstop.posted)
  | loopReturns hp | accepted hp _ | refused hp _ =>
    simp only [potential, touch, hp, mainPotential]
    omega
  | joins hp hthread =>
    simp only [potential, hp, hthread, mainPotential, threadPotential]
    omega
  | freesClient hp | freesContext hp | destroys hp =>
    simp only [potential, free, touch, hp, mainPotential]
    omega
  | begins hthread | returns hthread _ =>
    simp only [potential, touch, hthread, threadPotential]
    omega
  | unregistered hthread hdue =>
    simp only [potential, callback, touch]
    omega
  | signal | connected _ | notConnected _ | initialises _ | starts _ _ | message _ | notCreated _
  | registrationSucceeds _ | registrationFails _ | publishes _ | gives _ => cases hown

theorem potential_raises (hstop : s.Stopping) (hown : own e = false) (h : s.step e = some s') :
    s'.potential ≤ s.potential + cost e := by
  obtain ⟨hinit, -⟩ := hstop
  cases taken_of_step h with
  | connected hp | notConnected hp => exact absurd hp hinit.1
  | initialises hp => exact absurd hp hinit.2.1
  | starts hp _ | message hp =>
    simp only [potential, touch, hp, mainPotential, cost]
    omega
  | notCreated hp | started hp =>
    simp only [potential, hp, mainPotential]
    omega
  | signal | registrationSucceeds _ | registrationFails _ | publishes _ => exact Nat.le_refl _
  | gives hthread =>
    simp only [potential, touch, hthread, threadPotential]
    omega
  | created _ | posts _ | loopReturns _ | turns _ _ | leaves _ | nothing _ _ | accepted _ _
  | refused _ _ | nobody _ _ | joins _ _ | freesClient _ | freesContext _ | destroys _ | begins _
  | unregistered _ _ | returns _ _ => cases hown

theorem descends : Descends Lifecycle.step own (fun s => s.Inv ∧ s.Stopping) potential cost where
  kept _ _ _ hJ h := ⟨hJ.1.step h, hJ.2.step h⟩
  lowers _ _ _ hJ hown h := potential_lowers hJ.1 hJ.2 hown h
  raises _ _ _ hJ hown h := potential_raises hJ.2 hown h

theorem mainPotential_of_asked {p : MainPoint} (h : Asked p) : mainPotential p ≤ 4 := by
  cases p with
  | joining | freeingClient | freeingContext | destroying | returned => decide
  | _ => exact h.elim

theorem mainPotential_of_not_early {p : MainPoint} (h : ¬Early p) : mainPotential p ≤ 9 := by
  cases p with
  | connecting | initialising | starting | failed => exact (h trivial).elim
  | _ => decide

theorem mainPotential_le (p : MainPoint) : mainPotential p ≤ 12 := by
  cases p <;> decide

theorem threadPotential_le (t : ThreadPoint) : threadPotential t ≤ 2 := by
  cases t <;> decide

theorem Inv.potential_le (hinv : s.Inv) : s.potential ≤ 12 := by
  have hmain := mainPotential_le s.point
  have hthread := threadPotential_le s.thread
  unfold potential
  by_cases hasked : Asked s.point
  · have hmain := mainPotential_of_asked hasked
    have hone : s.unregistrations + s.shutdowns ≤ 1 := by
      rw [hinv.asked]
      split <;> decide
    omega
  · have hnone := hinv.unasked hasked
    by_cases hearly : Early s.point
    · have hthread : threadPotential s.thread = 0 := by
        rw [(hinv.early hearly).1]
        rfl
      omega
    · have hmain := mainPotential_of_not_early hearly
      omega

/-- where `main` waits for a thread that was created, the thread can go on -/
theorem not_halted_of_joining (hinv : s.Inv) (hp : s.point = .joining)
    (hcreated : s.creationFailed = false) : ¬Halted Lifecycle.step own s := by
  intro hhalt
  have hjoins := hhalt .joins rfl
  have hbegins := hhalt .begins rfl
  have hunregistered := hhalt .unregistered rfl
  have hreturns := hhalt .returns rfl
  simp only [Lifecycle.step, hp, if_true] at hjoins
  simp only [Lifecycle.step, ite_eq_right_iff, reduceCtorEq, imp_false] at hbegins
  simp only [Lifecycle.step, ite_eq_right_iff, reduceCtorEq, imp_false] at hunregistered hreturns
  have hstarted := hinv.started (by rw [hp]; exact MainPoint.noConfusion)
  have hasked := hinv.asked
  split at hjoins
  · cases hjoins
  · rename_i hne
    have hpos : 0 < s.translatorStarted := Nat.pos_of_ne_zero hne
    rw [if_pos ⟨hp ▸ trivial, hpos⟩] at hasked
    have hthread : s.thread ≠ .notCreated := by
      rcases hstarted.mp hpos with hthread | hfailed
      · exact hthread
      · rw [hcreated] at hfailed
        cases hfailed
    cases ht : s.thread with
    | notCreated => exact absurd ht hthread
    | created => exact hbegins ht
    | running =>
      -- the request is not answered yet, or the answer has shut the client down
      have hor : 0 < s.unregistrations ∨ 0 < s.shutdowns := by omega
      rcases hor with hdue | hdown
      · exact hunregistered ⟨ht, hdue⟩
      · exact hreturns ⟨ht, hdown⟩
    | returned =>
      rw [if_pos ht] at hjoins
      cases hjoins
    | joined =>
      have hpast := hinv.joined ht
      rw [hp] at hpast
      exact hpast

theorem returned_iff_of_halted (hinv : s.Inv) (hstop : s.Stopping)
    (hhalt : Halted Lifecycle.step own s) :
    s.point = .returned ↔ s.creationFailed = false := by
  constructor
  · intro hp
    exact (hinv.pastJoin (hp ▸ trivial)).2
  · intro hcreated
    cases hp : s.point with
    | returned => rfl
    | joining => exact absurd hhalt (not_halted_of_joining hinv hp hcreated)
    | connecting => exact absurd hp hstop.initialised.1
    | initialising => exact absurd hp hstop.initialised.2.1
    | failed => exact absurd hp hstop.initialised.2.2
    | starting =>
      have hnone := hhalt (.creates true) rfl
      simp only [Lifecycle.step, hp, if_true] at hnone
      split at hnone <;> cases hnone
    | posting =>
      have hnone := hhalt .posts rfl
      simp only [Lifecycle.step, hp, if_true, reduceCtorEq] at hnone
    | looping =>
      have hnone := hhalt .loopReturns rfl
      simp only [Lifecycle.step, hp, if_true, reduceCtorEq] at hnone
    | checking =>
      have hnone := hhalt .checks rfl
      simp only [Lifecycle.step, hp, if_true, reduceCtorEq] at hnone
    | unregistering =>
      have hnone := hhalt (.unregisters true) rfl
      simp only [Lifecycle.step, hp, if_true] at hnone
      split at hnone <;> cases hnone
    | freeingClient =>
      have hnone := hhalt .freesClient rfl
      simp only [Lifecycle.step, hp, if_true, reduceCtorEq] at hnone
    | freeingContext =>
      have hnone := hhalt .freesContext rfl
      simp only [Lifecycle.step, hp, if_true, reduceCtorEq] at hnone
    | destroying =>
      have hnone := hhalt .destroys rfl
      simp only [Lifecycle.step, hp, if_true, reduceCtorEq] at hnone

/-- the messages are all that costs -/
def isMessage : LifecycleEvent → Bool
  | .message _ => true
  | _ => false

theorem totalCost_eq (es : List LifecycleEvent) :
    totalCost cost es = 4 * es.countP isMessage :=
  totalCost_eq_mul (fun e => by cases e <;> rfl) es

theorem own_creationFailed (hown : own e = true) (h : s.step e = some s') :
    s'.creationFailed = s.creationFailed := by
  cases taken_of_step h with
  | notCreated _ => cases hown
  | _ => rfl

/-- **`main` comes to its end.**  Once the loop is to stop, there is only so much that happens
besides the messages.  Where nothing more can happen `main` has returned, unless the thread could
not be created; and unless it could not, there is a way to there. -/
theorem main_returns (h : run Lifecycle.step Lifecycle.start es = some s) (hstop : s.Stopping)
    {es' : List LifecycleEvent} {t : Lifecycle} (h' : run Lifecycle.step s es' = some t) :
    es'.countP own ≤ 12 + 4 * es'.countP isMessage ∧
    (Halted Lifecycle.step own t → (t.point = .returned ↔ t.creationFailed = false)) ∧
    (t.creationFailed = false → ∃ es'' u, (∀ e ∈ es'', own e = true) ∧
      run Lifecycle.step t es'' = some u ∧ u.point = .returned) := by
  have hinv := Inv.of_run h
  have hJ := descends.of_run ⟨hinv, hstop⟩ h'
  refine ⟨?_, returned_iff_of_halted hJ.1 hJ.2, fun hcreated => ?_⟩
  · have hcount := descends.countP_le ⟨hinv, hstop⟩ h'
    have hle := hinv.potential_le
    rw [totalCost_eq] at hcount
    omega
  · obtain ⟨es'', u, hown, hrun, hhalt⟩ := descends.exists_halted hJ
    have hJu := descends.of_run hJ hrun
    have hmine : Run Lifecycle.step (fun _ e => own e = true) t es'' u :=
      run_all_iff.mpr ⟨hrun, hown⟩
    have hcreated' : u.creationFailed = false :=
      hmine.invariant hcreated fun _ _ _ hcreated hown hstep =>
        (own_creationFailed hown hstep).trans hcreated
    exact ⟨es'', u, hown, hrun, (returned_iff_of_halted hJu.1 hJu.2 hhalt).mpr hcreated'⟩

theorem main_returns_once :
    ∃ s t, run Lifecycle.step Lifecycle.start onceUntilSignal = some s ∧
      run Lifecycle.step s onceAfterSignal = some t ∧ t.point = .returned ∧
      onceAfterSignal.countP own ≤ 12 + 4 * onceAfterSignal.countP isMessage := by
  have hany : ∃ s, run Lifecycle.step Lifecycle.start onceUntilSignal = some s ∧
      (s.point = .looping ∧ 0 < s.mosquittoStop) ∧
      (run Lifecycle.step s onceAfterSignal).any (fun t => decide (t.point = .returned)) = true :=
    exists_of_run_any (by decide)
  obtain ⟨s, hs, ⟨hp, hposted⟩, hend⟩ := hany
  obtain ⟨t, ht, hreturned⟩ := exists_of_run_any hend
  have hstop : s.Stopping := ⟨by rw [hp]; decide, hposted⟩
  exact ⟨s, t, hs, ht, hreturned, (main_returns hs hstop ht).1⟩

end Lifecycle

end EdgeTranslators.Mqtt
