import EdgeTranslators.Pt.V1.Device

/-!
# The locks of the stress tester (`c-api-stress-tester/stress_tester.c`)

`received_write_handler` goes through the device lists of all test threads, each under its own
mutex, and hands the write to the device it looks for.

* `receivedWriteHandler`            the handler, with the locks the calling thread holds;
* `Serves`                          a list has no device of that id, or one that takes the write;
* `receivedWriteHandler_locks_iff`  the locks are those of before exactly when every list serves it.
-/

namespace EdgeTranslators.Stress
open Lib Pt Pt.V1

inductive Lock where
  /-- `device_list_mutex` of the `index`-th test thread -/
  | deviceList (index : Nat)
  /-- `connection_mutex` -/
  | connection
  deriving DecidableEq, Repr

/-- `pt_device_t` with its id and the callbacks of its resources -/
structure PtDevice where
  deviceId : String
  device : Device
  callback : Path → Option (Bytes → Device → Device)

/-- `pt_api_thread_t` -/
structure ApiData where
  /-- `connection` is not NULL -/
  connection : Bool
  parallelConnectionLock : Bool

/-- the arguments of the handler -/
structure WriteMessage where
  deviceId : String
  path : Path
  operation : UInt32
  value : Bytes

/-- `OPERATION_WRITE`, `OPERATION_EXECUTE` -/
def operationWrite : UInt32 := 0x02
def operationExecute : UInt32 := 0x04

/-- what the handler has done; `held` are the locks of the calling thread -/
structure Progress where
  held : List Lock
  /-- the devices `pt_write_value` was called with -/
  writes : List (String × Device)

namespace Progress

def lock (p : Progress) (l : Lock) : Progress := { p with held := l :: p.held }

def unlock (p : Progress) (l : Lock) : Progress := { p with held := p.held.erase l }

end Progress

/-! ## the handler -/

/-- `api_data_conditionally_lock_connection`, without its result -/
def apiDataConditionallyLockConnection (api : ApiData) (p : Progress) : Progress :=
  if api.parallelConnectionLock then p.lock .connection else p

/-- `api_data_conditionally_unlock_connection` -/
def apiDataConditionallyUnlockConnection (api : ApiData) (p : Progress) : Progress :=
  if api.parallelConnectionLock then p.unlock .connection else p

/-- `test_data_conditionally_lock_device_list`, which locks in any case -/
def testDataConditionallyLockDeviceList (index : Nat) (p : Progress) : Progress :=
  p.lock (.deviceList index)

/-- `test_data_conditionally_unlock_device_list` -/
def testDataConditionallyUnlockDeviceList (index : Nat) (p : Progress) : Progress :=
  p.unlock (.deviceList index)

/-- `find_device`: the device of that id in the list of a test thread, with its place -/
def findDeviceInList (devices : List PtDevice) (deviceId : String) : Option (Nat × PtDevice) :=
  (devices.findIdx? fun cur => cur.deviceId = deviceId).bind fun i =>
    devices[i]?.map fun d => (i, d)

/-- the write or the execution, for a resource that supports it -/
def applyOperation (api : ApiData) (m : WriteMessage) (d : PtDevice) (p : Progress) :
    PtDevice × Progress :=
  match d.callback m.path with
  | none => (d, p)
  | some callback =>
    if m.operation &&& operationWrite ≠ 0 then
      ({ d with device := callback m.value d.device }, p)
    else if m.operation &&& operationExecute ≠ 0 then
      let d := { d with device := callback m.value d.device }
      let p := apiDataConditionallyLockConnection api p
      let p := if api.connection then { p with writes := p.writes ++ [(d.deviceId, d.device)] }
        else p
      (d, apiDataConditionallyUnlockConnection api p)
    else (d, p)

/-- one round of the loop of `received_write_handler`; the first component is its early return -/
def handleTestThread (api : ApiData) (m : WriteMessage) (index : Nat) (devices : List PtDevice)
    (p : Progress) : Option Nat × List PtDevice × Progress :=
  let p := testDataConditionallyLockDeviceList index p
  match findDeviceInList devices m.deviceId with
  | none => (none, devices, testDataConditionallyUnlockDeviceList index p)
  | some (i, d) =>
    match d.device.findResource m.path with
    | none => (some 1, devices, p)
    | some resource =>
      if resource.operations.toUInt32 &&& m.operation = 0 then (some 1, devices, p)
      else
        let (d, p) := applyOperation api m d p
        (none, devices.set i d, testDataConditionallyUnlockDeviceList index p)

/-- the loop of `received_write_handler` from the `index`-th test thread on -/
def handleTestThreads (api : ApiData) (m : WriteMessage) :
    (index : Nat) → List (List PtDevice) → Progress → Nat × List (List PtDevice) × Progress
  | _, [], p => (0, [], p)
  | index, devices :: threads, p =>
    match handleTestThread api m index devices p with
    | (some rc, devices, p) => (rc, devices :: threads, p)
    | (none, devices, p) =>
      let (rc, threads, p) := handleTestThreads api m (index + 1) threads p
      (rc, devices :: threads, p)

/-- `received_write_handler` for a thread that holds the locks `held`; `threads` are the device
lists of the test threads -/
def receivedWriteHandler (api : ApiData) (m : WriteMessage) (threads : List (List PtDevice))
    (held : List Lock) : Nat × List (List PtDevice) × Progress :=
  handleTestThreads api m 0 threads { held, writes := [] }

/-! ## the locks -/

/-- the device of that id in a list, if there is one, has the resource, and it supports the
operation -/
def Serves (m : WriteMessage) (devices : List PtDevice) : Prop :=
  ∀ d ∈ devices.find? fun cur => cur.deviceId = m.deviceId,
    ∃ resource ∈ d.device.findResource m.path, resource.operations.toUInt32 &&& m.operation ≠ 0

section
variable (api : ApiData) (m : WriteMessage) (index : Nat) (devices : List PtDevice)
  (threads : List (List PtDevice)) (p : Progress)

theorem findDeviceInList_snd (deviceId : String) :
    (findDeviceInList devices deviceId).map Prod.snd =
      devices.find? fun cur => cur.deviceId = deviceId := by
  have hpair : ∀ i : Nat, (devices[i]?.map fun d => (i, d)).map Prod.snd = devices[i]? := by
    intro i
    rw [Option.map_map]
    exact Option.map_id'
  unfold findDeviceInList
  rw [Option.map_bind, List.find?_eq_bind_findIdx?_getElem?]
  congr 1
  funext i
  exact hpair i

theorem applyOperation_held (d : PtDevice) : (applyOperation api m d p).2.held = p.held := by
  have hboth : ∀ writes, (apiDataConditionallyUnlockConnection api
      { apiDataConditionallyLockConnection api p with writes }).held = p.held := by
    intro writes
    unfold apiDataConditionallyUnlockConnection apiDataConditionallyLockConnection
    split
    · show (Lock.connection :: p.held).erase .connection = p.held
      exact List.erase_cons_head _ _
    · rfl
  unfold applyOperation
  cases d.callback m.path with
  | none => rfl
  | some callback =>
    simp only
    split
    · rfl
    · split
      · split
        · exact hboth _
        · exact hboth _
      · rfl

/-- **A round gives its lock back exactly when the list serves the message.** -/
theorem handleTestThread_cases :
    (Serves m devices ∧ (handleTestThread api m index devices p).1 = none ∧
      (handleTestThread api m index devices p).2.2.held = p.held) ∨
    (¬Serves m devices ∧ (handleTestThread api m index devices p).1 = some 1 ∧
      (handleTestThread api m index devices p).2.2.held = .deviceList index :: p.held) := by
  have hunlock : ∀ p' : Progress, p'.held = .deviceList index :: p.held →
      (testDataConditionallyUnlockDeviceList index p').held = p.held := by
    intro p' hheld
    show p'.held.erase (.deviceList index) = p.held
    rw [hheld]
    exact List.erase_cons_head _ _
  have hfind := findDeviceInList_snd devices m.deviceId
  unfold handleTestThread Serves
  rw [← hfind]
  cases findDeviceInList devices m.deviceId with
  | none => exact .inl ⟨nofun, rfl, hunlock _ rfl⟩
  | some found =>
    obtain ⟨i, d⟩ := found
    simp only [Option.map_some, Option.mem_def, Option.some.injEq, forall_eq']
    cases hresource : d.device.findResource m.path with
    | none =>
      refine .inr ⟨?_, rfl, rfl⟩
      intro ⟨resource, hsome, _⟩
      cases hsome
    | some resource =>
      by_cases hsupports : resource.operations.toUInt32 &&& m.operation = 0
      · simp only [if_pos hsupports]
        refine .inr ⟨?_, trivial, rfl⟩
        intro ⟨resource', hsome, hne⟩
        cases hsome
        exact hne hsupports
      · simp only [if_neg hsupports]
        exact .inl ⟨⟨resource, rfl, hsupports⟩, trivial, hunlock _ (applyOperation_held ..)⟩

theorem handleTestThreads_cases :
    ((∀ devices ∈ threads, Serves m devices) ∧
      (handleTestThreads api m index threads p).2.2.held = p.held) ∨
    ((¬∀ devices ∈ threads, Serves m devices) ∧
      ∃ i, (handleTestThreads api m index threads p).2.2.held = .deviceList i :: p.held) := by
  induction threads generalizing index p with
  | nil => exact .inl ⟨nofun, rfl⟩
  | cons devices threads ih =>
    have hround := handleTestThread_cases api m index devices p
    unfold handleTestThreads
    generalize handleTestThread api m index devices p = r at hround ⊢
    obtain ⟨rc, devices', p'⟩ := r
    rcases hround with ⟨hserves, hrc, hheld⟩ | ⟨hserves, hrc, hheld⟩
    · obtain rfl : rc = none := hrc
      have hheld' : p'.held = p.held := hheld
      rw [List.forall_mem_cons, ← hheld']
      rcases ih (index + 1) p' with ⟨hall, hrest⟩ | ⟨hall, hrest⟩
      · exact .inl ⟨⟨hserves, hall⟩, hrest⟩
      · exact .inr ⟨fun h => hall h.2, hrest⟩
    · obtain rfl : rc = some 1 := hrc
      rw [List.forall_mem_cons]
      exact .inr ⟨fun h => hserves h.1, index, hheld⟩

/-- **The handler leaves the calling thread with the locks it held exactly when every list serves
the message.** -/
theorem receivedWriteHandler_locks_iff (held : List Lock) :
    (receivedWriteHandler api m threads held).2.2.held = held ↔
      ∀ devices ∈ threads, Serves m devices := by
  rcases handleTestThreads_cases api m 0 threads { held, writes := [] } with
    ⟨hall, hheld⟩ | ⟨hall, i, hheld⟩
  · exact iff_of_true hheld hall
  · refine iff_of_false ?_ hall
    intro heq
    have hlocked : held = .deviceList i :: held := heq.symm.trans hheld
    exact absurd (congrArg List.length hlocked) (by simp)

end

/-- a device with no objects, and a write to it -/
def bareDevice : PtDevice := { deviceId := "rand-0", device := ⟨∅, []⟩, callback := fun _ => none }

def temperatureWrite : WriteMessage :=
  { deviceId := "rand-0", path := ⟨3303, 0, 5700⟩, operation := operationWrite, value := [] }

/-- the device has no such resource, and its list stays locked -/
theorem not_receivedWriteHandler_locks :
    ¬∀ api m threads held, (receivedWriteHandler api m threads held).2.2.held = held := by
  intro h
  have hleft := h ⟨true, true⟩ temperatureWrite [[bareDevice]] []
  have hlocked : (receivedWriteHandler ⟨true, true⟩ temperatureWrite [[bareDevice]] []).2.2.held =
      [.deviceList 0] := by decide
  rw [hlocked] at hleft
  cases hleft

end EdgeTranslators.Stress
