import EdgeTranslators.Lib.Run
import Mathlib.Algebra.Group.Nat.Defs
import Mathlib.Data.List.Nodup
import Mathlib.Tactic.Common

/-!
# A test thread of the stress tester (`c-api-stress-tester/stress_tester.c`)

A test thread registers, unregisters and changes devices at random, and drains its list at the end.
The device list is its own: the callbacks of the PT client get the test thread as their user data.
All of them work under the mutex of the list, and so do the actions and the drain.

* `Call`, `Request`, `Entry`, `TestThread`      the list, and the requests the PT client has taken;
* `unregisterDeviceEntryCommon`, `unregisterDevices`   what becomes of an entry;
* `TestEvent`, `TestThread.step`                the actions, the drain and the callbacks;
* `Taken`, `taken_of_step`                      what a step does;
* `nodup_of_run`                                no id is in the list twice.

A failed registration makes the test thread drain its list; here it may do so at any time.
-/

namespace EdgeTranslators.Stress
open Lib

/-- what becomes of a call of the PT client -/
inductive Call where
  /-- the connection is null and nothing is called -/
  | noConnection
  | accepted
  | rejected
  deriving DecidableEq, Repr

inductive Operation where
  | register
  | unregister
  deriving DecidableEq, Repr

/-- a request the PT client has taken -/
structure Request where
  operation : Operation
  device : String
  deriving DecidableEq, Repr

/-- `pt_device_entry_t`, with the data of its device -/
structure Entry where
  id : String
  registered : Bool
  deriving DecidableEq, Repr

inductive Phase where
  | running
  /-- the list was drained, and the thread waits until it is empty -/
  | draining
  | exited
  deriving DecidableEq, Repr

structure TestThread where
  testThreadIndex : Nat
  maxNumberOfDevices : Int
  minNumberOfDevices : Int
  /-- `connected` and `protocol_translator_api_running` -/
  ready : Bool
  phase : Phase
  devices : List Entry
  outstanding : List Request

/-! ## the device list -/

/-- `find_device` -/
def findDevice (devices : List Entry) (id : String) : Option Entry :=
  devices.find? fun e => e.id = id

/-- `test_data_set_device_registered`: `none` if the device is a null pointer -/
def testDataSetDeviceRegistered (id : String) (value : Bool) : List Entry → Option (List Entry)
  | [] => none
  | e :: es =>
    if e.id = id then some ({ e with registered := value } :: es)
    else (testDataSetDeviceRegistered id value es).map (e :: ·)

/-- the entry leaves the list -/
def removeDevice (id : String) (devices : List Entry) : List Entry := devices.eraseP fun e => e.id = id

def testDataCountRegisteredDevices (devices : List Entry) : Nat := devices.countP Entry.registered

def getRandomDeviceId (threadIndex num : Nat) : String :=
  "rand-" ++ toString threadIndex ++ "-" ++ toString num

def randMax : Nat := 2 ^ 31 - 1

/-- `rand() / (RAND_MAX / device_count + 1)`, in natural numbers: with one device the sum overflows,
and an `int32_t` that wraps gives the same index (`chosenIndex_wraps`) -/
def chosenIndex (rand deviceCount : Nat) : Nat := rand / (randMax / deviceCount + 1)

inductive TestEvent where
  /-- the flags of the PT thread -/
  | ready (value : Bool)
  /-- `num` is the `rand()` the loop for a new id ends with -/
  | registerRandomDevice (num : Nat) (call : Call)
  | unregisterRandomDevice (rand : Nat) (call : Call)
  | setRandomValue
  /-- `unregister_devices`, with the call for each device -/
  | unregisterDevices (calls : List Call)
  | deviceRegistrationSuccess (id : String)
  | deviceRegistrationFailure (id : String)
  | deviceUnregistrationSuccess (id : String)
  | deviceUnregistrationFailure (id : String)
  /-- the final loop of `test_thread_func` ends -/
  | exits
  deriving DecidableEq, Repr

/-- the events that may leave the list and the requests as they are -/
def TestEvent.skips : TestEvent → Bool
  | .ready _ | .registerRandomDevice _ _ | .unregisterRandomDevice _ _ | .setRandomValue => true
  | _ => false

namespace TestThread

/-- the numbers of devices are the options, as `atoi` has them -/
def start (testThreadIndex : Nat) (maxNumberOfDevices minNumberOfDevices : Int) : TestThread :=
  { testThreadIndex, maxNumberOfDevices, minNumberOfDevices, ready := false, phase := .running,
    devices := [], outstanding := [] }

variable (s : TestThread)

def ids : List String := s.devices.map Entry.id

/-- `unregister_device_entry_common` -/
def unregisterDeviceEntryCommon (entry : Entry) (call : Call) : TestThread :=
  match call with
  -- the status stays a success
  | .noConnection => s
  | .accepted => { s with outstanding := s.outstanding ++ [⟨.unregister, entry.id⟩] }
  -- the device is removed forcefully
  | .rejected => { s with devices := removeDevice entry.id s.devices }

/-- `unregister_devices` -/
def unregisterDevices (calls : List Call) : TestThread :=
  (s.devices.zip calls).foldl (fun s p => s.unregisterDeviceEntryCommon p.1 p.2) s

/-- `register_random_device`: `none` if the id is in the list, and the loop goes on -/
def registerRandomDevice (num : Nat) (call : Call) : Option TestThread :=
  if s.maxNumberOfDevices ≤ s.devices.length then some s
  else
    let id := getRandomDeviceId s.testThreadIndex num
    match findDevice s.devices id with
    | some _ => none
    | none =>
      some { s with
        devices := s.devices ++ [⟨id, false⟩]
        -- the status of the call is not looked at
        outstanding :=
          if call = .accepted then s.outstanding ++ [⟨.register, id⟩] else s.outstanding }

/-- `unregister_random_device` -/
def unregisterRandomDevice (rand : Nat) (call : Call) : TestThread :=
  if s.devices.length ≤ s.minNumberOfDevices then s
  else
    match s.devices[chosenIndex rand s.devices.length]? with
    | some entry => s.unregisterDeviceEntryCommon entry call
    | none => s

/-- the entry that `unregister_random_device` makes its call for, when it is run -/
def chosen (rand : Nat) : Option Entry :=
  if s.ready ∧ s.minNumberOfDevices < s.devices.length then
    s.devices[chosenIndex rand s.devices.length]?
  else none

/-- `run_test_action` -/
def runTestAction (action : Option TestThread) : Option TestThread :=
  if s.phase = .running then if s.ready then action else some s else none

/-- a request is answered -/
def answer (operation : Operation) (id : String) : Option TestThread :=
  if ⟨operation, id⟩ ∈ s.outstanding then
    some { s with outstanding := s.outstanding.erase ⟨operation, id⟩ }
  else none

/-- `none`: the event cannot happen, or it works on a null pointer -/
def step : TestEvent → Option TestThread
  | .ready value => some { s with ready := value }
  | .registerRandomDevice num call => s.runTestAction (s.registerRandomDevice num call)
  | .unregisterRandomDevice rand call => s.runTestAction (some (s.unregisterRandomDevice rand call))
  -- `set_random_value` changes values only
  | .setRandomValue => s.runTestAction (some s)
  | .unregisterDevices calls =>
    if s.phase = .running ∧ calls.length = s.devices.length then
      some { s.unregisterDevices calls with phase := .draining }
    else none
  | .deviceRegistrationSuccess id => do
    let s ← s.answer .register id
    let devices ← testDataSetDeviceRegistered id true s.devices
    return { s with devices }
  | .deviceRegistrationFailure id => s.answer .register id
  | .deviceUnregistrationSuccess id => do
    let s ← s.answer .unregister id
    let devices ← testDataSetDeviceRegistered id false s.devices
    return { s with devices := removeDevice id devices }
  | .deviceUnregistrationFailure id => s.answer .unregister id
  | .exits =>
    if s.phase = .draining ∧ s.devices.length = 0 ∧ testDataCountRegisteredDevices s.devices = 0 then
      some { s with phase := .exited }
    else none

end TestThread

/-! ## the ids in the list -/

section
variable {id : String} {value : Bool} {devices devices' : List Entry}

theorem findDevice_eq_none : findDevice devices id = none ↔ id ∉ devices.map Entry.id := by
  unfold findDevice
  rw [List.find?_eq_none, List.mem_map]
  simp

theorem testDataSetDeviceRegistered_ids
    (h : testDataSetDeviceRegistered id value devices = some devices') :
    devices'.map Entry.id = devices.map Entry.id := by
  induction devices generalizing devices' with
  | nil => cases h
  | cons e es ih =>
    unfold testDataSetDeviceRegistered at h
    split at h
    · cases h
      rfl
    · obtain ⟨es', hes, rfl⟩ := Option.map_eq_some_iff.mp h
      exact congrArg (e.id :: ·) (ih hes)

/-- the callbacks work on a device that is in the list -/
theorem testDataSetDeviceRegistered_isSome :
    (testDataSetDeviceRegistered id value devices).isSome = true ↔ id ∈ devices.map Entry.id := by
  induction devices with
  | nil => simp [testDataSetDeviceRegistered]
  | cons e es ih =>
    unfold testDataSetDeviceRegistered
    by_cases he : e.id = id
    · simp [he]
    · rw [if_neg he, Option.isSome_map, ih, List.map_cons, List.mem_cons]
      simp [Ne.symm he]

theorem removeDevice_ids (id : String) (devices : List Entry) :
    (removeDevice id devices).map Entry.id = (devices.map Entry.id).erase id := by
  unfold removeDevice
  induction devices with
  | nil => rfl
  | cons e es ih =>
    by_cases he : e.id = id
    · simp [he]
    · simp [he, ih]

end

namespace TestThread
variable {s s' : TestThread} {e : TestEvent}

/-! ## what a step does -/

inductive Taken (s : TestThread) : TestEvent → TestThread → Prop where
  /-- the flags change, the action is not possible, or it is about values -/
  | skips {e : TestEvent} {ready : Bool} (he : e.skips = true)
      (hchosen : ∀ rand call, e = .unregisterRandomDevice rand call → s.chosen rand = none) :
      Taken s e { s with ready }
  | adds {num : Nat} {call : Call} (hphase : s.phase = .running)
      (hcount : s.devices.length < s.maxNumberOfDevices)
      (hnew : getRandomDeviceId s.testThreadIndex num ∉ s.ids) :
      Taken s (.registerRandomDevice num call)
        { s with
          devices := s.devices ++ [⟨getRandomDeviceId s.testThreadIndex num, false⟩]
          outstanding :=
            if call = .accepted then
              s.outstanding ++ [⟨.register, getRandomDeviceId s.testThreadIndex num⟩]
            else s.outstanding }
  | calls {rand : Nat} {call : Call} {entry : Entry} (hphase : s.phase = .running)
      (hchosen : s.chosen rand = some entry) :
      Taken s (.unregisterRandomDevice rand call) (s.unregisterDeviceEntryCommon entry call)
  | drains {calls : List Call} (hphase : s.phase = .running)
      (hlength : calls.length = s.devices.length) :
      Taken s (.unregisterDevices calls) { s.unregisterDevices calls with phase := .draining }
  | registered {id : String} {devices : List Entry} (hmem : ⟨.register, id⟩ ∈ s.outstanding)
      (hset : testDataSetDeviceRegistered id true s.devices = some devices) :
      Taken s (.deviceRegistrationSuccess id)
        { s with devices, outstanding := s.outstanding.erase ⟨.register, id⟩ }
  | registrationFails {id : String} (hmem : ⟨.register, id⟩ ∈ s.outstanding) :
      Taken s (.deviceRegistrationFailure id)
        { s with outstanding := s.outstanding.erase ⟨.register, id⟩ }
  | unregistered {id : String} {devices : List Entry} (hmem : ⟨.unregister, id⟩ ∈ s.outstanding)
      (hset : testDataSetDeviceRegistered id false s.devices = some devices) :
      Taken s (.deviceUnregistrationSuccess id)
        { s with
          devices := removeDevice id devices
          outstanding := s.outstanding.erase ⟨.unregister, id⟩ }
  | unregistrationFails {id : String} (hmem : ⟨.unregister, id⟩ ∈ s.outstanding) :
      Taken s (.deviceUnregistrationFailure id)
        { s with outstanding := s.outstanding.erase ⟨.unregister, id⟩ }
  | exits (hphase : s.phase = .draining) (hdevices : s.devices = []) :
      Taken s .exits { s with phase := .exited }

theorem runTestAction_eq_some {action : Option TestThread}
    (h : s.runTestAction action = some s') :
    s.phase = .running ∧ (s.ready = false ∧ s' = s ∨ s.ready = true ∧ action = some s') := by
  unfold runTestAction at h
  obtain ⟨hphase, h⟩ := Option.ite_none_right_eq_some.mp h
  by_cases hready : s.ready = true
  · rw [if_pos hready] at h
    exact ⟨hphase, .inr ⟨hready, h⟩⟩
  · rw [if_neg hready] at h
    cases h
    exact ⟨hphase, .inl ⟨Bool.eq_false_iff.mpr hready, rfl⟩⟩

theorem unregisterRandomDevice_eq (rand : Nat) (call : Call) (hready : s.ready = true) :
    s.unregisterRandomDevice rand call =
      match s.chosen rand with
      | some entry => s.unregisterDeviceEntryCommon entry call
      | none => s := by
  unfold unregisterRandomDevice chosen
  by_cases hcount : s.devices.length ≤ s.minNumberOfDevices
  · rw [if_pos hcount, if_neg fun h => absurd h.2 (Int.not_lt.mpr hcount)]
  · rw [if_neg hcount, if_pos ⟨hready, Int.not_le.mp hcount⟩]

theorem chosen_mem {rand : Nat} {entry : Entry} (h : s.chosen rand = some entry) :
    entry ∈ s.devices := by
  obtain ⟨-, h⟩ := Option.ite_none_right_eq_some.mp h
  exact List.mem_of_getElem? h

theorem answer_eq_some {operation : Operation} {id : String}
    (h : s.answer operation id = some s') :
    ⟨operation, id⟩ ∈ s.outstanding ∧
      s' = { s with outstanding := s.outstanding.erase ⟨operation, id⟩ } := by
  obtain ⟨hmem, h⟩ := Option.ite_none_right_eq_some.mp h
  cases h
  exact ⟨hmem, rfl⟩

theorem taken_of_step (h : s.step e = some s') : Taken s e s' := by
  cases e with
  | ready value =>
    cases h
    exact .skips rfl nofun
  | registerRandomDevice num call =>
    obtain ⟨hphase, ⟨-, rfl⟩ | ⟨-, h⟩⟩ := runTestAction_eq_some h
    · exact .skips rfl nofun
    · unfold registerRandomDevice at h
      split at h
      · cases h
        exact .skips rfl nofun
      · rename_i hcount
        cases hfind : findDevice s.devices (getRandomDeviceId s.testThreadIndex num) with
        | some entry =>
          simp only [hfind] at h
          cases h
        | none =>
          simp only [hfind] at h
          cases h
          exact .adds hphase (Int.not_le.mp hcount) (findDevice_eq_none.mp hfind)
  | unregisterRandomDevice rand call =>
    obtain ⟨hphase, ⟨hready, rfl⟩ | ⟨hready, h⟩⟩ := runTestAction_eq_some h
    · refine .skips rfl fun rand' call' he => ?_
      cases he
      unfold chosen
      rw [if_neg fun h => absurd (hready.symm.trans h.1) Bool.false_ne_true]
    · rw [unregisterRandomDevice_eq rand call hready] at h
      cases hchosen : s.chosen rand with
      | some entry =>
        rw [hchosen] at h
        cases h
        exact .calls hphase hchosen
      | none =>
        rw [hchosen] at h
        cases h
        refine .skips rfl fun rand' call' he => ?_
        cases he
        exact hchosen
  | setRandomValue =>
    obtain ⟨-, ⟨-, rfl⟩ | ⟨-, h⟩⟩ := runTestAction_eq_some h
    · exact .skips rfl nofun
    · cases h
      exact .skips rfl nofun
  | unregisterDevices calls =>
    obtain ⟨⟨hphase, hlength⟩, h⟩ := Option.ite_none_right_eq_some.mp h
    cases h
    exact .drains hphase hlength
  | deviceRegistrationSuccess id =>
    obtain ⟨t, ht, h⟩ := Option.bind_eq_some_iff.mp h
    obtain ⟨hmem, rfl⟩ := answer_eq_some ht
    obtain ⟨devices, hset, h⟩ := Option.bind_eq_some_iff.mp h
    cases h
    exact .registered hmem hset
  | deviceRegistrationFailure id =>
    obtain ⟨hmem, rfl⟩ := answer_eq_some h
    exact .registrationFails hmem
  | deviceUnregistrationSuccess id =>
    obtain ⟨t, ht, h⟩ := Option.bind_eq_some_iff.mp h
    obtain ⟨hmem, rfl⟩ := answer_eq_some ht
    obtain ⟨devices, hset, h⟩ := Option.bind_eq_some_iff.mp h
    cases h
    exact .unregistered hmem hset
  | deviceUnregistrationFailure id =>
    obtain ⟨hmem, rfl⟩ := answer_eq_some h
    exact .unregistrationFails hmem
  | exits =>
    obtain ⟨⟨hphase, hlength, -⟩, h⟩ := Option.ite_none_right_eq_some.mp h
    cases h
    exact .exits hphase (List.length_eq_zero_iff.mp hlength)

/-! ## the calls for the entries -/

/-- the ids that stay when the call for an entry is made -/
theorem mem_ids_unregisterDeviceEntryCommon (hnodup : s.ids.Nodup) (entry : Entry) (call : Call)
    (id : String) :
    id ∈ (s.unregisterDeviceEntryCommon entry call).ids ↔
      id ∈ s.ids ∧ (call = .rejected → entry.id ≠ id) := by
  cases call with
  | noConnection => exact (and_iff_left nofun).symm
  | accepted => exact (and_iff_left nofun).symm
  | rejected =>
    show id ∈ (removeDevice entry.id s.devices).map Entry.id ↔ _
    rw [removeDevice_ids]
    refine hnodup.mem_erase_iff.trans ?_
    rw [and_comm, forall_prop_of_true rfl]
    exact and_congr_right fun _ => ne_comm

theorem nodup_unregisterDeviceEntryCommon (hnodup : s.ids.Nodup) (entry : Entry) (call : Call) :
    (s.unregisterDeviceEntryCommon entry call).ids.Nodup := by
  cases call with
  | noConnection => exact hnodup
  | accepted => exact hnodup
  | rejected =>
    show ((removeDevice entry.id s.devices).map Entry.id).Nodup
    rw [removeDevice_ids]
    exact hnodup.erase _

/-- the request that a call adds -/
def requested (entry : Entry) : Call → List Request
  | .accepted => [⟨.unregister, entry.id⟩]
  | .noConnection | .rejected => []

theorem outstanding_unregisterDeviceEntryCommon (entry : Entry) (call : Call) :
    (s.unregisterDeviceEntryCommon entry call).outstanding =
      s.outstanding ++ requested entry call := by
  cases call with
  | accepted => rfl
  | _ => exact (List.append_nil _).symm

/-- the calls for some entries, one after the other -/
def callAll (s : TestThread) (ps : List (Entry × Call)) : TestThread :=
  ps.foldl (fun s p => s.unregisterDeviceEntryCommon p.1 p.2) s

theorem nodup_callAll (hnodup : s.ids.Nodup) (ps : List (Entry × Call)) :
    (s.callAll ps).ids.Nodup := by
  induction ps generalizing s with
  | nil => exact hnodup
  | cons p ps ih => exact ih (nodup_unregisterDeviceEntryCommon hnodup p.1 p.2)

theorem mem_ids_callAll (hnodup : s.ids.Nodup) (ps : List (Entry × Call)) (id : String) :
    id ∈ (s.callAll ps).ids ↔ id ∈ s.ids ∧ ∀ p ∈ ps, p.2 = .rejected → p.1.id ≠ id := by
  induction ps generalizing s with
  | nil => exact (and_iff_left nofun).symm
  | cons p ps ih =>
    show id ∈ ((s.unregisterDeviceEntryCommon p.1 p.2).callAll ps).ids ↔ _
    rw [ih (nodup_unregisterDeviceEntryCommon hnodup p.1 p.2),
      mem_ids_unregisterDeviceEntryCommon hnodup, List.forall_mem_cons, and_assoc]

theorem outstanding_callAll (ps : List (Entry × Call)) :
    (s.callAll ps).outstanding = s.outstanding ++ ps.flatMap fun p => requested p.1 p.2 := by
  induction ps generalizing s with
  | nil => exact (List.append_nil _).symm
  | cons p ps ih =>
    show ((s.unregisterDeviceEntryCommon p.1 p.2).callAll ps).outstanding = _
    rw [ih, outstanding_unregisterDeviceEntryCommon, List.flatMap_cons, List.append_assoc]

/-- the calls of the drain are for different devices -/
theorem nodup_zip_ids {calls : List Call} (hnodup : s.ids.Nodup)
    (hlength : calls.length = s.devices.length) :
    ((s.devices.zip calls).map fun p => p.1.id).Nodup := by
  have hfst := List.map_fst_zip (Nat.le_of_eq hlength.symm)
  show ((s.devices.zip calls).map (Entry.id ∘ Prod.fst)).Nodup
  rw [← List.map_map, hfst]
  exact hnodup

/-! ## the ids -/

theorem ids_adds {num : Nat} {outstanding : List Request} :
    ({ s with
      devices := s.devices ++ [⟨getRandomDeviceId s.testThreadIndex num, false⟩]
      outstanding } : TestThread).ids = s.ids ++ [getRandomDeviceId s.testThreadIndex num] := by
  unfold ids
  exact List.map_append

theorem nodup_step (hnodup : s.ids.Nodup) (hstep : s.step e = some s') : s'.ids.Nodup := by
  cases taken_of_step hstep with
  | skips => exact hnodup
  | adds hphase hcount hnew =>
    rw [ids_adds, List.nodup_append]
    refine ⟨hnodup, List.nodup_singleton _, ?_⟩
    intro id hid id' hid' heq
    rw [List.mem_singleton] at hid'
    exact hnew (hid' ▸ heq ▸ hid)
  | calls => exact nodup_unregisterDeviceEntryCommon hnodup _ _
  | drains => exact nodup_callAll hnodup _
  | registered hmem hset =>
    show (List.map Entry.id _).Nodup
    rw [testDataSetDeviceRegistered_ids hset]
    exact hnodup
  | registrationFails => exact hnodup
  | unregistered hmem hset =>
    show ((removeDevice _ _).map Entry.id).Nodup
    rw [removeDevice_ids, testDataSetDeviceRegistered_ids hset]
    exact hnodup.erase _
  | unregistrationFails => exact hnodup
  | exits => exact hnodup

/-- **No id is in the list twice.** -/
theorem nodup_of_run {ok : TestThread → TestEvent → Prop} {testThreadIndex : Nat}
    {maxNumberOfDevices minNumberOfDevices : Int} {es : List TestEvent}
    (h : Run step ok (start testThreadIndex maxNumberOfDevices minNumberOfDevices) es s) :
    s.ids.Nodup :=
  h.invariant List.nodup_nil fun _ _ _ hnodup _ hstep => nodup_step hnodup hstep

end TestThread

end EdgeTranslators.Stress
