import EdgeTranslators.Kaas.Refusals

/-!
# The start of the app

`main` connects, registers the translator and then every device, and only then spawns the consumer
of the write events.  Until then the channel holds `channelCapacity` events, and the reader that
waits for room in it is the one that would deliver the replies `main` waits for.

* `Startup`, `Startup.step`     the translator's link, and where `main` stands;
* `Startup.Deadlocked`          `main` awaits a reply, and its reader the consumer;
* `Startup.roomy`               the channel has room for what the reader forwards, as long as `main`
                                has replies to await;
* `Startup.not_deadlocked`      runs of such steps do not deadlock;
* `Startup.Deadlocked.stuck`    a deadlock lasts.
-/

namespace EdgeTranslators.Kaas
open Lib

/-! ## what `initialize_default_devices` has to do -/

/-- a request of `initialize_default_devices` -/
inductive Task (ν : Type) where
  /-- `register_device`, and `write_device_state` after it -/
  | register (device : Device ν) (publish : Bool)
  | writeState (device : Device ν)

namespace Task
variable {ν : Type}

def operation : Task ν → Operation ν
  | .register device _ => .deviceRegister device
  | .writeState device => .write device

/-- what is left to do for the device after a success -/
def followUp : Task ν → List (Task ν)
  | .register device true => [.writeState device]
  | _ => []

end Task

/-- what the app takes from its surroundings: numbers of its source, fresh ids and the time -/
structure Surroundings (ν : Type) where
  number : String → ν
  newV4 : Nat → Nat
  now : Nat → Nat

section
variable {ν : Type}

/-- the devices of an empty table -/
def defaultDevices (env : Surroundings ν) : List (Device ν) :=
  let devices : List (String × DeviceType × Json ν) :=
    [ ("Canopy Light", .lightBulb, .object [("on", .bool false)]),
      ("Wall Pack Light", .lightBulb, .object [("on", .bool true)]),
      ("Walk-in Cooler Temperature", .temperatureSensor,
        .object [("temperature", .number (env.number "22.5"))]),
      ("Ambient Humidity Sensor", .humiditySensor,
        .object [("humidity", .number (env.number "45.2"))]) ]
  devices.mapIdx fun i (name, deviceType, state) =>
    { id := env.newV4 i, name, deviceType, state, createdAt := env.now i, updatedAt := env.now i }

/-- the devices are new, or those of the table; only the state of the latter is published -/
def initialTasks (env : Surroundings ν) (rows : List (Device ν)) : List (Task ν) :=
  if rows.isEmpty then (defaultDevices env).map (.register · false)
  else rows.map (.register · true)

end

/-! ## `main` -/

/-- where `main` stands -/
inductive Phase (ν : Type) where
  /-- in `ensure_pt_connected`, before a connection -/
  | connecting (backoffMs : Nat)
  /-- there, with the registration of the translator under way -/
  | registering (id backoffMs : Nat)
  /-- in `initialize_default_devices`, between two requests -/
  | initializing (todo : List (Task ν))
  /-- there, with a request under way -/
  | requesting (id : Nat) (task : Task ν) (todo : List (Task ν))
  | serving

structure Startup (ν : Type) where
  link : Link ν
  phase : Phase ν
  /-- what `initialize_default_devices` finds to do -/
  tasks : List (Task ν)

inductive StartupEvent (ν : Type) where
  | connectFailed
  /-- a connection, and `main` asks for the registration of the translator -/
  | connect
  /-- `main` goes on to its next request, or to serve -/
  | proceed
  /-- the request of `main` has its reply -/
  | returns
  /-- the request of `main` is not sent -/
  | sendFailed
  /-- what happens without `main` -/
  | world (e : LinkEvent ν)

/-- the steps of the sockets, the readers and the consumer -/
def LinkEvent.ofWorld {ν : Type} : LinkEvent ν → Bool
  | .sent _ | .frame _ _ | .readerEnds _ | .unblocked _ | .consume => true
  | _ => false

namespace Phase
variable {ν : Type}

/-- the request `main` awaits -/
def awaited : Phase ν → Option Nat
  | .registering id _ | .requesting id _ _ => some id
  | _ => none

/-- where `main` goes when its request has ended -/
def after (tasks : List (Task ν)) (ok : Bool) : Phase ν → Phase ν
  | .registering _ backoffMs =>
    if ok then .initializing tasks else .connecting (nextBackoff backoffMs)
  | .requesting _ task todo => .initializing (if ok then task.followUp ++ todo else todo)
  | phase => phase

end Phase

namespace Startup
section
variable {ν : Type}

def start (env : Surroundings ν) (rows : List (Device ν)) : Startup ν :=
  { link := Link.start, phase := .connecting 500, tasks := initialTasks env rows }

/-- the last operation returned `Ok` -/
def lastOk (link : Link ν) : Bool :=
  link.returned.getLast?.any fun outcome => outcome.result.isOk

variable (r : Serde ν)

/-- the request of `main` ends with the step -/
def ends (s : Startup ν) (e : Nat → LinkEvent ν) : Option (Startup ν) :=
  s.phase.awaited.bind fun id => (Link.step r s.link (e id)).map fun link =>
    { s with link, phase := s.phase.after s.tasks (lastOk link) }

def step (s : Startup ν) : StartupEvent ν → Option (Startup ν)
  | .connectFailed =>
    match s.phase with
    | .connecting backoffMs => some { s with phase := .connecting (nextBackoff backoffMs) }
    | _ => none
  | .connect =>
    match s.phase with
    | .connecting backoffMs =>
      (Link.step r s.link .connect).map fun link =>
        { s with
          link := link.sendRequest (.protocolTranslatorRegister "dummy-device-app")
          phase := .registering (link.messageId + 1) backoffMs }
    | _ => none
  | .proceed =>
    match s.phase with
    | .initializing (task :: todo) =>
      some { s with
        link := s.link.sendRequest task.operation
        phase :=
          if s.link.write.isSome then .requesting (s.link.messageId + 1) task todo
          else .initializing todo }
    | .initializing [] => some { s with link := { s.link with consumer := true }, phase := .serving }
    | _ => none
  | .returns => s.ends r .returns
  | .sendFailed => s.ends r .sendFailed
  | .world e =>
    if e.ofWorld then (Link.step r s.link e).map fun link => { s with link } else none

/-- the reader of the connection requests are sent on waits for room in the channel -/
def readerBlocked (s : Startup ν) : Bool :=
  s.link.readers.any fun reader =>
    s.link.write = some reader.connection ∧ reader.blocked.isSome

/-- a request of `main` is sent and has no reply -/
def awaitsReply (s : Startup ν) : Bool :=
  (s.phase.awaited.bind s.link.call?).any fun call => call.sent && call.awaiting

/-- the reader waits for room in the full channel, which nobody empties, and `main` for a reply, in
`initialize_default_devices` or in `ensure_pt_connected` before it -/
def Deadlocked (s : Startup ν) : Prop :=
  s.readerBlocked ∧ s.link.writeEvents.length = channelCapacity ∧ s.link.consumer = false ∧
    s.awaitsReply

instance (s : Startup ν) : Decidable s.Deadlocked := by unfold Deadlocked; infer_instance

/-- `main` is inside `initialize_default_devices` -/
def inInitialize (s : Startup ν) : Bool :=
  match s.phase with
  | .initializing _ | .requesting _ _ _ => true
  | _ => false

/-- `initialize_default_devices` has no reply to await any more -/
def done (s : Startup ν) : Bool :=
  match s.phase with
  | .initializing todo => todo.isEmpty
  | .requesting id task todo => (task.followUp ++ todo).isEmpty && !s.link.waiting.contains id
  | .serving => true
  | _ => false

/-- the frame is a write call with an event to forward -/
def forwards (value : Json ν) : Bool :=
  method? value = some "write" ∧ (writeEvent? r value).isSome

/-- the `k`-th reader is that of the connection requests are sent on -/
def reads (s : Startup ν) (k : Nat) : Bool :=
  s.link.readers[k]?.any fun reader => s.link.write = some reader.connection

/-- until `initialize_default_devices` has its last reply, the channel has room for every event its
reader forwards -/
def roomy (s : Startup ν) : StartupEvent ν → Prop
  | .world (.frame k value) =>
    forwards r value → s.reads k → s.done ∨ s.link.writeEvents.length < channelCapacity
  | _ => True

instance (s : Startup ν) (e : StartupEvent ν) : Decidable (s.roomy r e) := by
  unfold roomy
  split <;> infer_instance

end
end Startup

/-! ## readers that block -/

namespace Link
section
variable {ν : Type} {r : Serde ν} {s s' : Link ν}

/-- the reader of the connection waits for room in the channel -/
def BlockedOn (s : Link ν) (connection : Nat) : Prop :=
  ∃ reader ∈ s.readers, reader.connection = connection ∧ reader.blocked.isSome

theorem mem_modify {readers : List Reader} {k : Nat} {f : Reader → Reader} {reader : Reader}
    (h : reader ∈ readers.modify k f) :
    reader ∈ readers ∨ ∃ old, readers[k]? = some old ∧ reader = f old := by
  obtain ⟨i, hi⟩ := List.mem_iff_getElem?.mp h
  rw [List.getElem?_modify] at hi
  obtain ⟨old, hold, rfl⟩ := Option.map_eq_some_iff.mp hi
  split
  · rename_i hik
    exact Or.inr ⟨old, hik ▸ hold, rfl⟩
  · exact Or.inl (List.mem_iff_getElem?.mpr ⟨i, hold⟩)

theorem forward_full (hfull : ¬s.writeEvents.length < channelCapacity) (k : Nat) (event : WriteEvent) :
    s.forward k (some event) = { s with
      readers := s.readers.modify k fun reader => { reader with blocked := some event } } :=
  if_neg hfull

/-- the event for which the channel has no room blocks its reader -/
theorem blockedOn_forward {k connection : Nat} {event : Option WriteEvent}
    (h : (s.forward k event).BlockedOn connection) :
    s.BlockedOn connection ∨
      event.isSome ∧ ¬s.writeEvents.length < channelCapacity ∧
        s.readers[k]?.any (fun reader => reader.connection = connection) := by
  unfold forward at h
  split at h
  · split at h
    · exact Or.inl h
    · rename_i event hfull
      obtain ⟨reader, hreader, rfl, hblocked⟩ := h
      rcases mem_modify hreader with hmem | ⟨old, hold, rfl⟩
      · exact Or.inl ⟨reader, hmem, rfl, hblocked⟩
      · refine Or.inr ⟨rfl, hfull, ?_⟩
        rw [hold]
        exact decide_eq_true rfl
  · exact Or.inl h

theorem write_forward (s : Link ν) (k : Nat) (event : Option WriteEvent) :
    (s.forward k event).write = s.write ∧ (s.forward k event).consumer = s.consumer := by
  unfold forward
  split
  · split <;> exact ⟨rfl, rfl⟩
  · exact ⟨rfl, rfl⟩

theorem readers_respond (s : Link ν) (value : Json ν) :
    (s.respond value).readers = s.readers ∧ (s.respond value).write = s.write ∧
      (s.respond value).consumer = s.consumer ∧ (s.respond value).writeEvents = s.writeEvents := by
  unfold respond
  split <;> exact ⟨rfl, rfl, rfl, rfl⟩

/-- what a frame does to the connection requests are sent on, and to the readers -/
theorem receive_readers (k : Nat) (value : Json ν) :
    (s.receive r k value).write = s.write ∧ (s.receive r k value).consumer = s.consumer ∧
      ∀ connection, (s.receive r k value).BlockedOn connection → s.BlockedOn connection ∨
        Startup.forwards r value ∧ ¬s.writeEvents.length < channelCapacity ∧
          s.readers[k]?.any (fun reader => reader.connection = connection) := by
  rcases receive_cases r s k value with ⟨hmethod, h⟩ | ⟨id, -, h⟩ | h
  · rw [h]
    obtain ⟨hreaders, hw, hconsumer, hevents⟩ := readers_respond s value
    obtain ⟨hwrite', hconsumer'⟩ := write_forward (s.respond value) k (writeEvent? r value)
    refine ⟨hwrite'.trans hw, hconsumer'.trans hconsumer, fun connection hblocked => ?_⟩
    rcases blockedOn_forward hblocked with hold | ⟨hevent, hfull, hreader⟩
    · unfold BlockedOn at hold
      rw [hreaders] at hold
      exact Or.inl hold
    · rw [hevents] at hfull
      rw [hreaders] at hreader
      exact Or.inr ⟨decide_eq_true ⟨hmethod, hevent⟩, hfull, hreader⟩
  · rw [h]
    obtain ⟨-, hreaders, -, hw, hconsumer⟩ := frame_resolve s id value
    refine ⟨hw, hconsumer, fun connection hblocked => Or.inl ?_⟩
    unfold BlockedOn at hblocked
    rwa [hreaders] at hblocked
  · rw [h]
    exact ⟨rfl, rfl, fun _ h => Or.inl h⟩

/-- what happens without `main` -/
theorem step_world {e : LinkEvent ν} (hw : s.WellFormed) (hworld : e.ofWorld)
    (hstep : step r s e = some s') :
    s'.write = s.write ∧ s'.consumer = s.consumer ∧ (∀ id ∈ s'.waiting, id ∈ s.waiting) ∧
      ∀ connection, s'.BlockedOn connection → s.BlockedOn connection ∨
        ∃ k value, e = .frame k value ∧ Startup.forwards r value ∧
          ¬s.writeEvents.length < channelCapacity ∧
            s.readers[k]?.any (fun reader => reader.connection = connection) := by
  have hwaiting : ∀ id ∈ s'.waiting, id ∈ s.waiting := by
    cases change_of_step hw hstep with
    | same hsame _ => rw [hsame.waiting]; exact fun _ h => h
    | connect => cases hworld
    | request op => cases hworld
    | leaves hsame _ =>
      rw [hsame.waiting]
      exact fun _ h => (mem_waiting_remove.mp h).1
    | resolve id value _ => exact fun _ h => ((mem_waiting_resolve hw).mp h).1
    | readerEnds _ => exact fun _ h => h
  cases taken_of_step hstep with
  | sent _ _ => exact ⟨rfl, rfl, hwaiting, fun _ h => Or.inl h⟩
  | @frame k _ value _ =>
    obtain ⟨hwrite, hconsumer, hblocked⟩ := @receive_readers _ r s k value
    refine ⟨hwrite, hconsumer, hwaiting, fun connection h => ?_⟩
    exact (hblocked connection h).imp_right fun h => ⟨k, value, rfl, h⟩
  | readerEnds _ =>
    refine ⟨rfl, rfl, hwaiting, fun connection h => Or.inl ?_⟩
    obtain ⟨reader, hreader, h⟩ := h
    exact ⟨reader, (List.eraseIdx_sublist _ _).subset hreader, h⟩
  | unblocked _ _ =>
    refine ⟨rfl, rfl, hwaiting, fun connection h => Or.inl ?_⟩
    obtain ⟨reader, hreader, hconnection, hblocked⟩ := h
    rcases mem_modify hreader with hmem | ⟨old, -, rfl⟩
    · exact ⟨reader, hmem, hconnection, hblocked⟩
    · cases hblocked
  | consume _ _ => exact ⟨rfl, rfl, hwaiting, fun _ h => Or.inl h⟩
  | connect | request _ | sendFailed _ _ | dropped _ | returns _ _ _ | consumerSpawned =>
    cases hworld

/-- when every reader waits for room in the full channel, and nobody empties it, the world only
sends requests -/
theorem step_eq_none {e : LinkEvent ν} (hall : ∀ reader ∈ s.readers, reader.blocked.isSome)
    (hfull : s.writeEvents.length = channelCapacity) (hconsumer : s.consumer = false)
    (hworld : e.ofWorld) (he : ∀ id, e ≠ .sent id) : step r s e = none := by
  have hread : ∀ (k connection : Nat), s.readers[k]? ≠ some ⟨connection, none⟩ := by
    intro k connection hk
    cases hall _ (List.mem_iff_getElem?.mpr ⟨k, hk⟩)
  apply Option.eq_none_iff_forall_ne_some.mpr
  intro s' hstep
  cases taken_of_step hstep with
  | sent _ _ => exact he _ rfl
  | frame _ hreader => exact hread _ _ hreader
  | readerEnds hreader => exact hread _ _ hreader
  | unblocked _ hroom => omega
  | consume hsome _ => exact Bool.false_ne_true (hconsumer.symm.trans hsome)
  | connect | request _ | sendFailed _ _ | dropped _ | returns _ _ _ | consumerSpawned =>
    cases hworld

end
end Link

/-! ## every run -/

namespace Startup
section
variable {ν : Type} {r : Serde ν} {s s' : Startup ν}

/-- as long as there is no consumer, the reader waits for room only when no reply is awaited -/
structure Inv (s : Startup ν) : Prop where
  wellFormed : s.link.WellFormed
  done : s.link.consumer = false → ∀ connection, s.link.write = some connection →
    s.link.BlockedOn connection → s.done

theorem Inv.start (env : Surroundings ν) (rows : List (Device ν)) : Inv (start env rows) :=
  ⟨Link.WellFormed.start, nofun⟩

theorem Inv.noDeadlock (h : Inv s) : ¬s.Deadlocked := by
  rintro ⟨hblocked, -, hconsumer, hawaits⟩
  obtain ⟨reader, hreader, hread⟩ := List.any_eq_true.mp hblocked
  obtain ⟨hwrite, hblocked⟩ := of_decide_eq_true hread
  have hdone := h.done hconsumer _ hwrite ⟨reader, hreader, rfl, hblocked⟩
  obtain ⟨call, hcall, hsent⟩ := (Option.any_eq_true _ _).mp hawaits
  obtain ⟨id, hid, hcall⟩ := Option.bind_eq_some_iff.mp hcall
  obtain ⟨hmem, rfl⟩ := Link.call?_eq_some hcall
  have hwaiting : call.id ∈ s.link.waiting :=
    Link.mem_waiting.mpr ⟨call, hmem, (Bool.and_eq_true_iff.mp hsent).2, rfl⟩
  unfold Startup.done at hdone
  unfold Phase.awaited at hid
  cases hphase : s.phase with
  | registering _ _ => rw [hphase] at hdone; cases hdone
  | requesting id task todo =>
    rw [hphase] at hdone hid
    cases hid
    simp [hwaiting] at hdone
  | connecting _ | initializing _ | serving => rw [hphase] at hid; cases hid

/-- while `main` has replies to await, no reader of its connection waits for room -/
theorem Inv.not_blockedOn (h : Inv s) (hdone : s.done = false) (hconsumer : s.link.consumer = false)
    {connection : Nat} (hwrite : s.link.write = some connection) :
    ¬s.link.BlockedOn connection := by
  intro hblocked
  rw [h.done hconsumer connection hwrite hblocked] at hdone
  cases hdone

/-- the request of `main` ends, and nothing changes for the readers -/
theorem frame_ends {id : Nat} {link : Link ν} {e : LinkEvent ν} (he : e = .returns id ∨ e = .sendFailed id)
    (hstep : Link.step r s.link e = some link) :
    link.readers = s.link.readers ∧ link.write = s.link.write ∧ link.consumer = s.link.consumer := by
  rcases he with rfl | rfl
  · cases Link.taken_of_step hstep
    exact ⟨rfl, rfl, rfl⟩
  · cases Link.taken_of_step hstep
    exact ⟨rfl, rfl, rfl⟩

/-- what was done stays done when the last request has ended -/
theorem done_after {tasks : List (Task ν)} {id : Nat} {ok : Bool} {link : Link ν}
    (hawaited : s.phase.awaited = some id) (hdone : s.done) :
    ({ s with link, phase := s.phase.after tasks ok } : Startup ν).done := by
  unfold done at hdone
  unfold Phase.awaited at hawaited
  cases hphase : s.phase with
  | registering _ _ => rw [hphase] at hdone; cases hdone
  | requesting id task todo =>
    rw [hphase] at hdone
    obtain ⟨hnil, -⟩ := Bool.and_eq_true_iff.mp hdone
    show (if ok then task.followUp ++ todo else todo).isEmpty = true
    cases ok with
    | true => exact hnil
    | false =>
      rw [if_neg Bool.false_ne_true]
      exact List.isEmpty_iff.mpr (List.append_eq_nil_iff.mp (List.isEmpty_iff.mp hnil)).2
  | connecting _ | initializing _ | serving => rw [hphase] at hawaited; cases hawaited

/-- what was done stays done while no other call comes to wait -/
theorem done_world {link : Link ν} (hwaiting : ∀ id ∈ link.waiting, id ∈ s.link.waiting)
    (hdone : s.done) : ({ s with link } : Startup ν).done := by
  unfold done at hdone ⊢
  cases hphase : s.phase with
  | requesting id task todo =>
    rw [hphase] at hdone
    obtain ⟨hnil, hnot⟩ := Bool.and_eq_true_iff.mp hdone
    refine Bool.and_eq_true_iff.mpr ⟨hnil, ?_⟩
    simp only [Bool.not_eq_true', List.contains_eq_mem, decide_eq_false_iff_not] at hnot ⊢
    exact fun hmem => hnot (hwaiting id hmem)
  | initializing todo => rw [hphase] at hdone; exact hdone
  | serving => rfl
  | connecting _ | registering _ _ => rw [hphase] at hdone; cases hdone

theorem Inv.ends {e : Nat → LinkEvent ν} (h : Inv s)
    (he : ∀ id, e id = .returns id ∨ e id = .sendFailed id) (hends : s.ends r e = some s') :
    Inv s' := by
  obtain ⟨id, hawaited, hstep⟩ := Option.bind_eq_some_iff.mp hends
  obtain ⟨link, hlink, rfl⟩ := Option.map_eq_some_iff.mp hstep
  obtain ⟨hreaders, hwrite, hconsumer⟩ := frame_ends (he id) hlink
  refine ⟨h.wellFormed.step hlink, fun hnone connection hconnection hblocked => ?_⟩
  apply done_after hawaited
  refine h.done (hconsumer.symm.trans hnone) connection (hwrite.symm.trans hconnection) ?_
  have hblocked' : link.BlockedOn connection := hblocked
  unfold Link.BlockedOn at hblocked'
  rwa [hreaders] at hblocked'

theorem Inv.step {e : StartupEvent ν} (h : Inv s) (hok : s.roomy r e)
    (hstep : step r s e = some s') : Inv s' := by
  cases e with
  | connectFailed =>
    simp only [Startup.step] at hstep
    split at hstep
    · rename_i hphase
      cases hstep
      refine ⟨h.wellFormed, fun hconsumer connection hwrite hblocked => ?_⟩
      have hdone : s.done = false := by unfold Startup.done; rw [hphase]
      exact absurd hblocked (h.not_blockedOn hdone hconsumer hwrite)
    · cases hstep
  | connect =>
    -- the new connection has a reader of its own, which has read nothing
    simp only [Startup.step] at hstep
    split at hstep
    · obtain ⟨link, hlink, rfl⟩ := Option.map_eq_some_iff.mp hstep
      have hwf := h.wellFormed.step hlink
      cases hlink
      refine ⟨hwf.sendRequest _, fun hconsumer connection hwrite hblocked => ?_⟩
      obtain ⟨reader, hreader, hconnection, hblocked⟩ := hblocked
      cases hwrite
      rcases List.mem_append.mp hreader with hold | hnew
      · have hlt := h.wellFormed.connections reader hold
        omega
      · rw [List.mem_singleton.mp hnew] at hblocked
        cases hblocked
    · cases hstep
  | proceed =>
    simp only [Startup.step] at hstep
    split at hstep
    · rename_i task todo hphase
      cases hstep
      obtain ⟨hreaders, -, hwrite', hconsumer'⟩ := Link.frame_sendRequest s.link task.operation
      refine ⟨h.wellFormed.sendRequest _, fun hconsumer connection hwrite hblocked => ?_⟩
      have hdone : s.done = false := by unfold Startup.done; rw [hphase]; rfl
      have hblocked' : (s.link.sendRequest task.operation).BlockedOn connection := hblocked
      unfold Link.BlockedOn at hblocked'
      rw [hreaders] at hblocked'
      exact absurd hblocked' (h.not_blockedOn hdone (hconsumer'.symm.trans hconsumer)
        (hwrite'.symm.trans hwrite))
    · cases hstep
      exact ⟨h.wellFormed.congr ⟨rfl, rfl, rfl, rfl, rfl, rfl⟩, nofun⟩
    · cases hstep
  | returns => exact h.ends (fun _ => Or.inl rfl) hstep
  | sendFailed => exact h.ends (fun _ => Or.inr rfl) hstep
  | world e =>
    simp only [Startup.step] at hstep
    split at hstep
    · rename_i hworld
      obtain ⟨link, hlink, rfl⟩ := Option.map_eq_some_iff.mp hstep
      obtain ⟨hwrite', hconsumer', hwaiting, hblocked'⟩ :=
        Link.step_world h.wellFormed hworld hlink
      refine ⟨h.wellFormed.step hlink, fun hconsumer connection hwrite hblocked => ?_⟩
      have hold : s.link.write = some connection := hwrite'.symm.trans hwrite
      have hdone : s.done = true := by
        rcases hblocked' connection hblocked with hblocked | ⟨k, value, rfl, hforwards, hfull, hread⟩
        · exact h.done (hconsumer'.symm.trans hconsumer) connection hold hblocked
        · have hreads : s.reads k = true := by
            unfold Startup.reads
            obtain ⟨reader, hreader, heq⟩ := (Option.any_eq_true _ _).mp hread
            rw [hreader, hold, ← of_decide_eq_true heq]
            exact decide_eq_true rfl
          rcases hok hforwards hreads with hdone | hroom
          · exact hdone
          · exact absurd hroom hfull
      exact done_world hwaiting hdone
    · cases hstep

/-- **Start-up does not deadlock as long as the channel has room for what the reader forwards.** -/
theorem not_deadlocked {env : Surroundings ν} {rows : List (Device ν)} {es : List (StartupEvent ν)}
    (hrun : Run (step r) (fun s e => s.roomy r e) (start env rows) es s) : ¬s.Deadlocked := by
  have hinv : Inv s := hrun.invariant (Inv.start env rows) fun _ _ _ h hok hstep => h.step hok hstep
  exact hinv.noDeadlock

/-! ### a deadlock -/

/-- an event for which the channel has no room blocks the reader `main` depends on -/
theorem deadlocked_of_full {k : Nat} {value : Json ν} (hawaits : s.awaitsReply)
    (hconsumer : s.link.consumer = false) (hfull : s.link.writeEvents.length = channelCapacity)
    (hforwards : forwards r value) (hreads : s.reads k)
    (hstep : step r s (.world (.frame k value)) = some s') : s'.Deadlocked := by
  obtain ⟨hmethod, hevent⟩ := of_decide_eq_true hforwards
  obtain ⟨event, hevent⟩ := Option.isSome_iff_exists.mp hevent
  obtain ⟨reader, hreader, hwrite⟩ := (Option.any_eq_true _ _).mp hreads
  simp only [step, LinkEvent.ofWorld, if_true, Link.step, hreader] at hstep
  split at hstep
  · rename_i connection hsome
    cases hstep
    cases hsome
    have hreceive : s.link.receive r k value = (s.link.respond value).forward k (some event) := by
      unfold Link.receive
      rw [hmethod, ← hevent]
      rfl
    obtain ⟨hreaders, hw, hc, hevents⟩ := Link.readers_respond s.link value
    have hnoroom : ¬(s.link.respond value).writeEvents.length < channelCapacity := by
      rw [hevents, hfull]
      exact Nat.lt_irrefl _
    rw [hreceive, Link.forward_full hnoroom k event]
    refine ⟨?_, hevents.symm ▸ hfull, hc.trans hconsumer, ?_⟩
    · apply List.any_eq_true.mpr
      refine ⟨⟨connection, some event⟩, List.mem_iff_getElem?.mpr ⟨k, ?_⟩, ?_⟩
      · show ((s.link.respond value).readers.modify k _)[k]? = _
        rw [List.getElem?_modify, hreaders, hreader]
        simp
      · exact decide_eq_true ⟨hw.trans (of_decide_eq_true hwrite), rfl⟩
    · have hcall : ∀ id, (s.link.respond value).call? id = s.link.call? id :=
        fun id => Link.call?_respond s.link value id
      show (s.phase.awaited.bind (s.link.respond value).call?).any _ = true
      rw [funext hcall]
      exact hawaits
  · cases hstep

/-- **A deadlock lasts**: when every reader waits, nothing can happen any more, but that other
requests are sent. -/
theorem Deadlocked.stuck (h : s.Deadlocked) (hall : ∀ reader ∈ s.link.readers, reader.blocked.isSome)
    (e : StartupEvent ν) (he : ∀ id, e ≠ .world (.sent id)) : step r s e = none := by
  obtain ⟨-, hfull, hconsumer, hawaits⟩ := h
  obtain ⟨call, hcall, hsent⟩ := (Option.any_eq_true _ _).mp hawaits
  obtain ⟨id, hid, hcall⟩ := Option.bind_eq_some_iff.mp hcall
  obtain ⟨hsent, hawaiting⟩ := Bool.and_eq_true_iff.mp hsent
  have hreply : call.reply = none := Option.isNone_iff_eq_none.mp hawaiting
  obtain ⟨-, rfl⟩ := Link.call?_eq_some hcall
  cases e with
  | connectFailed | connect | proceed =>
    unfold Phase.awaited at hid
    cases hphase : s.phase with
    | registering _ _ | requesting _ _ _ => simp only [step, hphase]
    | connecting _ | initializing _ | serving => rw [hphase] at hid; cases hid
  | returns =>
    show s.ends r .returns = none
    unfold Startup.ends
    rw [hid, Option.bind_some, Link.step_returns_none hcall hreply, Option.map_none]
  | sendFailed =>
    show s.ends r .sendFailed = none
    unfold Startup.ends
    rw [hid, Option.bind_some]
    simp only [Link.step, hcall, hsent, if_true, Option.map_none]
  | world e =>
    show (if e.ofWorld then (Link.step r s.link e).map _ else none) = none
    split
    · rename_i hworld
      have hsent : ∀ id, e ≠ .sent id := fun id heq => he id (congrArg StartupEvent.world heq)
      rw [Link.step_eq_none hall hfull hconsumer hworld hsent, Option.map_none]
    · rfl

end

/-! ### a new table -/

def surroundings : Surroundings Nat := { number _ := 0, newV4 i := i, now _ := 0 }

/-- a write call of Edge Core for `/3311/0/5850` of a device -/
def writeCall (id : Nat) : Json Nat :=
  .object [
    ("id", .number id),
    ("method", .string "write"),
    ("params", .object [
      ("operation", .number 2),
      ("uri", .object [("deviceId", .string "Canopy_Light"), ("objectId", .number 3311),
        ("objectInstanceId", .number 0), ("resourceId", .number 5850)]),
      ("value", .string "AQ==")])]

/-- the translator is registered, and the first device waits for its registration -/
def firstDevice : List (StartupEvent Nat) :=
  [.connect, .world (.sent 2), .world (.frame 0 (Link.okReply 2)), .returns, .proceed,
    .world (.sent 3)]

/-- two write calls arrive before the reply -/
theorem not_deadlocked_firstDevice :
    ∃ s, run (step Link.ascii) (start surroundings [])
        (firstDevice ++ [.world (.frame 0 (writeCall 1)), .world (.frame 0 (writeCall 2)),
          .world (.frame 0 (Link.okReply 3)), .returns]) = some s ∧
      s.link.writeEvents.length = 2 ∧ s.inInitialize ∧ ¬s.Deadlocked := by
  have hany : (run (guarded (step Link.ascii) fun s e => s.roomy Link.ascii e)
      (start surroundings []) (firstDevice ++ [.world (.frame 0 (writeCall 1)),
        .world (.frame 0 (writeCall 2)), .world (.frame 0 (Link.okReply 3)), .returns])).any
      (fun s => decide (s.link.writeEvents.length = 2 ∧ s.inInitialize = true)) = true := by
    decide +kernel
  obtain ⟨s, hs, hlength, hinit⟩ := exists_of_run_any hany
  have hrun := Run.of_guarded hs
  exact ⟨s, hrun.to_run, hlength, hinit, not_deadlocked hrun⟩

/-- one write call more than the channel has room for -/
def burst : List (StartupEvent Nat) :=
  firstDevice ++ (List.range (channelCapacity + 1)).map fun id => .world (.frame 0 (writeCall id))

theorem deadlocked_burst :
    ¬∀ (es : List (StartupEvent Nat)) (s : Startup Nat),
        run (step Link.ascii) (start surroundings []) es = some s → s.inInitialize →
          ¬s.Deadlocked := by
  intro hall
  have hany : (run (step Link.ascii) (start surroundings []) burst).any
      (fun s => decide (s.inInitialize = true ∧ s.Deadlocked)) = true := by
    decide +kernel
  obtain ⟨s, hs, hinit, hdead⟩ := exists_of_run_any hany
  exact hall _ s hs hinit hdead

end Startup

end EdgeTranslators.Kaas
