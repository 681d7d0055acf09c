import EdgeTranslators.Kaas.Agreement

/-!
# The translator's connection to Edge Core (`dummy-device-app/src/main.rs`)

`send_request` inserts a key into `pending_requests`, sends its request and waits; the reader task
of a connection removes the key when the reply comes and hands the reply over.  The same task
acknowledges the write calls of Edge Core and puts their events into a bounded channel.

* `Operation`          the requests of the translator: their method and parameters, and what they
                       return;
* `method?`, `id?`, `writeEvent?`   what the reader takes from a frame of Edge Core;
* `Link`, `Link.step`  the translator, its readers and the channel, and who may go on;
* `Link.Taken`         a step that was taken, and what made it possible.
-/

namespace EdgeTranslators.Kaas
open Lib

/-! ## requests -/

/-- the library functions, with the integers of a JSON number -/
structure Serde (ν : Type) extends Rust ν where
  asU64 : ν → Option Nat
  ofU64 : Nat → ν

/-- why `send_request` returned without a reply -/
inductive SendError where
  | notConnected
  | sendFailed
  deriving DecidableEq, Repr

/-- a request of the translator -/
inductive Operation (ν : Type) where
  | protocolTranslatorRegister (name : String)
  | deviceRegister (device : Device ν)
  | write (device : Device ν)
  | deviceUnregister (device : Device ν)

section
variable {ν : Type} (r : Serde ν)

/-! `serde_json::to_value` of the registration parameters -/

def LwM2MResourceData.toValue (res : LwM2MResourceData) : Json ν :=
  .object [
    ("resourceId", .number (r.ofU64 res.resourceId.toNat)),
    ("operations", .number (r.ofU64 res.operations.toNat)),
    ("type", .string res.resourceType),
    ("value", .string res.value)]

def LwM2MObjectInstance.toValue (inst : LwM2MObjectInstance) : Json ν :=
  .object [
    ("objectInstanceId", .number (r.ofU64 inst.objectInstanceId.toNat)),
    ("resources", .array (inst.resources.map (·.toValue r)))]

def LwM2MObjectData.toValue (obj : LwM2MObjectData) : Json ν :=
  .object [
    ("objectId", .number (r.ofU64 obj.objectId.toNat)),
    ("objectInstances", .array (obj.objectInstances.map (·.toValue r)))]

def DeviceRegistrationParams.toValue (params : DeviceRegistrationParams) : Json ν :=
  .object [
    ("deviceId", .string params.deviceId),
    ("objects", .array (params.objects.map (·.toValue r)))]

namespace Operation

def method : Operation ν → String
  | .protocolTranslatorRegister _ => "protocol_translator_register"
  | .deviceRegister _ => "device_register"
  | .write _ => "write"
  | .deviceUnregister _ => "device_unregister"

def params : Operation ν → Json ν
  | .protocolTranslatorRegister name => .object [("name", .string name)]
  | .deviceRegister device | .write device => (createDeviceParams r.toRust device).toValue r
  | .deviceUnregister device =>
    .object [("deviceId", .string (Kaas.deviceId r.toRust device.name))]

/-! The end of each operation: `let _ = self.send_request(…).await?; Ok(())`. -/

def discard (response : Except SendError (Json ν)) : Except SendError Unit := do
  let _ ← response
  return ()

def connectAndRegister (response : Except SendError (Json ν)) := discard response
def registerDevice (response : Except SendError (Json ν)) := discard response
def writeDeviceState (response : Except SendError (Json ν)) := discard response
def unregisterDevice (response : Except SendError (Json ν)) := discard response

/-- what the operation returns for the response of `send_request` -/
def result : Operation ν → Except SendError (Json ν) → Except SendError Unit
  | .protocolTranslatorRegister _ => connectAndRegister
  | .deviceRegister _ => registerDevice
  | .write _ => writeDeviceState
  | .deviceUnregister _ => unregisterDevice

/-- no operation looks at its reply -/
theorem result_ok (op : Operation ν) (value : Json ν) : op.result (.ok value) = .ok () := by
  cases op <;> rfl

/-- the text `send_request` sends -/
def request (id : Nat) (op : Operation ν) : Json ν :=
  .object [
    ("jsonrpc", .string "2.0"),
    ("id", .number (r.ofU64 id)),
    ("method", .string op.method),
    ("params", op.params r)]

end Operation

/-! ## frames of Edge Core -/

/-- `as_u64` of a JSON value -/
def u64? : Json ν → Option Nat
  | .number n => r.asU64 n
  | _ => none

/-- the method of a call -/
def method? (value : Json ν) : Option String := (value.get "method").bind Json.string?

/-- the id of a reply -/
def id? (value : Json ν) : Option Nat := (value.get "id").bind (u64? r)

/-- the event of a write call; it takes parameters with `uri`, `value` and `operation` -/
def writeEvent? (value : Json ν) : Option WriteEvent := do
  let params ← value.get "params"
  let uri ← params.get "uri"
  let valueB64 ← params.get "value"
  let op ← params.get "operation"
  return {
    deviceId := ((uri.get "deviceId").bind Json.string?).getD ""
    objectId := .ofNat (((uri.get "objectId").bind (u64? r)).getD 0)
    objectInstanceId := .ofNat (((uri.get "objectInstanceId").bind (u64? r)).getD 0)
    resourceId := .ofNat (((uri.get "resourceId").bind (u64? r)).getD 0)
    valueBase64 := valueB64.string?.getD ""
    operation := .ofNat ((u64? r op).getD 0) }

/-- the answer to a write call -/
def writeResponse (id : Json ν) : Json ν :=
  .object [("jsonrpc", .string "2.0"), ("id", id), ("result", .string "ok")]

end

/-! ## the translator, its readers and the channel -/

/-- a `send_request` call after it has inserted its key -/
structure Call (ν : Type) where
  id : Nat
  operation : Operation ν
  sent : Bool
  /-- what the reader handed over -/
  reply : Option (Json ν)

def Call.awaiting {ν : Type} (call : Call ν) : Bool := call.reply.isNone

/-- the reader task of a connection -/
structure Reader where
  connection : Nat
  /-- the event the channel had no room for -/
  blocked : Option WriteEvent
  deriving DecidableEq

/-- what an operation returned -/
structure Outcome (ν : Type) where
  id : Nat
  operation : Operation ν
  result : Except SendError Unit

/-- the `ProtocolTranslator` and what runs beside it; `&mut self` lets one call run at a time, which
nothing here relies on, and `message_id` is a natural number here (`Link.follows` is about the `u64`
it is) -/
structure Link (ν : Type) where
  messageId : Nat
  /-- the keys of `pending_requests` -/
  pending : List Nat
  calls : List (Call ν)
  returned : List (Outcome ν)
  /-- the connection requests are sent on -/
  write : Option Nat
  readers : List Reader
  /-- how many connections there have been -/
  opened : Nat
  toEdge : List (Json ν)
  writeEvents : List WriteEvent
  /-- the consumer of the write events exists -/
  consumer : Bool

inductive LinkEvent (ν : Type) where
  | connect
  /-- an operation calls `send_request` -/
  | request (op : Operation ν)
  | sent (id : Nat)
  | sendFailed (id : Nat)
  /-- whoever awaits the operation goes away -/
  | dropped (id : Nat)
  | returns (id : Nat)
  /-- the `k`-th reader reads a text frame -/
  | frame (k : Nat) (value : Json ν)
  /-- the `k`-th reader finds the socket closed, or a read error -/
  | readerEnds (k : Nat)
  /-- the channel has room for the event the `k`-th reader holds -/
  | unblocked (k : Nat)
  | consumerSpawned
  | consume

namespace Link
section
variable {ν : Type}

/-- the translator of `main`, with the sender of the channel set -/
def start : Link ν :=
  { messageId := 1, pending := [], calls := [], returned := [], write := none, readers := [],
    opened := 0, toEdge := [], writeEvents := [], consumer := false }

def call? (s : Link ν) (id : Nat) : Option (Call ν) := s.calls.find? fun c => c.id = id

def update (s : Link ν) (id : Nat) (f : Call ν → Call ν) : Link ν :=
  { s with calls := s.calls.map fun c => if c.id = id then f c else c }

/-- a call is over -/
def remove (s : Link ν) (id : Nat) : Link ν :=
  { s with calls := s.calls.filter fun c => c.id ≠ id }

def return' (s : Link ν) (call : Call ν) (result : Except SendError Unit) : Link ν :=
  { s with returned := s.returned ++ [{ id := call.id, operation := call.operation, result }] }

/-- the first part of `send_request` -/
def sendRequest (s : Link ν) (op : Operation ν) : Link ν :=
  let id := s.messageId + 1
  let call : Call ν := { id, operation := op, sent := false, reply := none }
  let s := { s with messageId := id, pending := s.pending.insert id }
  match s.write with
  | some _ => { s with calls := s.calls ++ [call] }
  | none => s.return' call (.error .notConnected)

/-! ### the reader -/

def respond (s : Link ν) (value : Json ν) : Link ν :=
  match value.get "id" with
  | some id => { s with toEdge := s.toEdge ++ [writeResponse id] }
  | none => s

/-- `tx.send(event).await` of the `k`-th reader -/
def forward (s : Link ν) (k : Nat) : Option WriteEvent → Link ν
  | some event =>
    if s.writeEvents.length < channelCapacity then
      { s with writeEvents := s.writeEvents ++ [event] }
    else
      { s with readers := s.readers.modify k fun reader => { reader with blocked := some event } }
  | none => s

/-- the key is removed and its call gets the reply -/
def resolve (s : Link ν) (id : Nat) (value : Json ν) : Link ν :=
  if id ∈ s.pending then
    { s with pending := s.pending.filter (· ≠ id) }.update id fun c =>
      { c with reply := some value }
  else s

variable (r : Serde ν)

def receive (s : Link ν) (k : Nat) (value : Json ν) : Link ν :=
  match method? value with
  | some method =>
    if method = "write" then (s.respond value).forward k (writeEvent? r value) else s
  | none =>
    match id? r value with
    | some id => s.resolve id value
    | none => s

/-- a frame is a write call, a reply, or nothing -/
theorem receive_cases (s : Link ν) (k : Nat) (value : Json ν) :
    (method? value = some "write" ∧
        s.receive r k value = (s.respond value).forward k (writeEvent? r value)) ∨
      (∃ id, id? r value = some id ∧ s.receive r k value = s.resolve id value) ∨
      s.receive r k value = s := by
  unfold receive
  split
  · rename_i method hmethod
    split
    · rename_i hwrite
      exact Or.inl ⟨hwrite ▸ hmethod, rfl⟩
    · exact Or.inr (Or.inr rfl)
  · split
    · rename_i id hid
      exact Or.inr (Or.inl ⟨id, hid, rfl⟩)
    · exact Or.inr (Or.inr rfl)

def step (s : Link ν) : LinkEvent ν → Option (Link ν)
  | .connect =>
    some { s with
      write := some s.opened
      readers := s.readers ++ [{ connection := s.opened, blocked := none }]
      opened := s.opened + 1 }
  | .request op => some (s.sendRequest op)
  | .sent id =>
    match s.call? id with
    | some call =>
      if call.sent then none
      else
        some ({ s with toEdge := s.toEdge ++ [call.operation.request r id] }.update id fun c =>
          { c with sent := true })
    | none => none
  | .sendFailed id =>
    match s.call? id with
    | some call =>
      if call.sent then none else some ((s.remove id).return' call (.error .sendFailed))
    | none => none
  | .dropped id => (s.call? id).map fun _ => s.remove id
  | .returns id =>
    match s.call? id with
    | some call =>
      match call.sent, call.reply with
      | true, some value => some ((s.remove id).return' call (call.operation.result (.ok value)))
      | _, _ => none
    | none => none
  | .frame k value =>
    match s.readers[k]? with
    | some ⟨_, none⟩ => some (s.receive r k value)
    | _ => none
  | .readerEnds k =>
    match s.readers[k]? with
    | some ⟨_, none⟩ => some { s with readers := s.readers.eraseIdx k }
    | _ => none
  | .unblocked k =>
    match s.readers[k]? with
    | some ⟨_, some event⟩ =>
      if s.writeEvents.length < channelCapacity then
        some { s with
          readers := s.readers.modify k fun reader => { reader with blocked := none }
          writeEvents := s.writeEvents ++ [event] }
      else none
    | _ => none
  | .consumerSpawned => some { s with consumer := true }
  | .consume =>
    match s.consumer, s.writeEvents with
    | true, _ :: rest => some { s with writeEvents := rest }
    | _, _ => none

variable {r}

/-- a step that was taken, and what made it possible -/
inductive Taken (r : Serde ν) (s : Link ν) : LinkEvent ν → Link ν → Prop where
  | connect : Taken r s .connect { s with
      write := some s.opened
      readers := s.readers ++ [{ connection := s.opened, blocked := none }]
      opened := s.opened + 1 }
  | request (op : Operation ν) : Taken r s (.request op) (s.sendRequest op)
  | sent {id : Nat} {call : Call ν} (hcall : s.call? id = some call) (hsent : call.sent = false) :
      Taken r s (.sent id)
        ({ s with toEdge := s.toEdge ++ [call.operation.request r id] }.update id fun c =>
          { c with sent := true })
  | sendFailed {id : Nat} {call : Call ν} (hcall : s.call? id = some call)
      (hsent : call.sent = false) :
      Taken r s (.sendFailed id) ((s.remove id).return' call (.error .sendFailed))
  | dropped {id : Nat} {call : Call ν} (hcall : s.call? id = some call) :
      Taken r s (.dropped id) (s.remove id)
  | returns {id : Nat} {call : Call ν} {value : Json ν} (hcall : s.call? id = some call)
      (hsent : call.sent = true) (hreply : call.reply = some value) :
      Taken r s (.returns id) ((s.remove id).return' call (call.operation.result (.ok value)))
  | frame {k connection : Nat} (value : Json ν) (hreader : s.readers[k]? = some ⟨connection, none⟩) :
      Taken r s (.frame k value) (s.receive r k value)
  | readerEnds {k connection : Nat} (hreader : s.readers[k]? = some ⟨connection, none⟩) :
      Taken r s (.readerEnds k) { s with readers := s.readers.eraseIdx k }
  | unblocked {k connection : Nat} {event : WriteEvent}
      (hreader : s.readers[k]? = some ⟨connection, some event⟩)
      (hroom : s.writeEvents.length < channelCapacity) :
      Taken r s (.unblocked k) { s with
        readers := s.readers.modify k fun reader => { reader with blocked := none }
        writeEvents := s.writeEvents ++ [event] }
  | consumerSpawned : Taken r s .consumerSpawned { s with consumer := true }
  | consume {event : WriteEvent} {rest : List WriteEvent} (hconsumer : s.consumer = true)
      (hevents : s.writeEvents = event :: rest) : Taken r s .consume { s with writeEvents := rest }

theorem taken_of_step {s s' : Link ν} {e : LinkEvent ν} (hstep : step r s e = some s') :
    Taken r s e s' := by
  cases e with
  | connect => cases hstep; exact .connect
  | request op => cases hstep; exact .request op
  | sent id =>
    simp only [step] at hstep
    split at hstep
    · rename_i call hcall
      split at hstep
      · cases hstep
      · rename_i hsent
        cases hstep
        exact .sent hcall (Bool.eq_false_iff.mpr hsent)
    · cases hstep
  | sendFailed id =>
    simp only [step] at hstep
    split at hstep
    · rename_i call hcall
      split at hstep
      · cases hstep
      · rename_i hsent
        cases hstep
        exact .sendFailed hcall (Bool.eq_false_iff.mpr hsent)
    · cases hstep
  | dropped id =>
    obtain ⟨call, hcall, rfl⟩ := Option.map_eq_some_iff.mp hstep
    exact .dropped hcall
  | returns id =>
    simp only [step] at hstep
    split at hstep
    · rename_i call hcall
      split at hstep
      · rename_i value hsent hreply
        cases hstep
        exact .returns hcall hsent hreply
      · cases hstep
    · cases hstep
  | frame k value =>
    simp only [step] at hstep
    split at hstep
    · rename_i hreader
      cases hstep
      exact .frame value hreader
    · cases hstep
  | readerEnds k =>
    simp only [step] at hstep
    split at hstep
    · rename_i hreader
      cases hstep
      exact .readerEnds hreader
    · cases hstep
  | unblocked k =>
    simp only [step] at hstep
    split at hstep
    · rename_i hreader
      split at hstep
      · rename_i hroom
        cases hstep
        exact .unblocked hreader hroom
      · cases hstep
    · cases hstep
  | consumerSpawned => cases hstep; exact .consumerSpawned
  | consume =>
    simp only [step] at hstep
    split at hstep
    · rename_i hconsumer hevents
      cases hstep
      exact .consume hconsumer hevents
    · cases hstep

end
end Link

end EdgeTranslators.Kaas
