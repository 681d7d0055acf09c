import EdgeTranslators.Lib.Json
import EdgeTranslators.Pt.Client

/-!
# Node values of the MQTT translator (`mqttpt-example/mqttpt_example.c`)

A gateway publishes `Val` messages: a JSON object whose `payload_field` is an array of ten-string
arrays, each naming a resource and its value.

* `mqttptCreateSensorObject`, `mqttptCreateObject`   the two ways to create a resource;
* `translateEntry`                                   one pass of the loop over `payload_field`;
* `mqttptTranslateNodeValueMessage`                  the handler of the message.

The functions that hand a copy of an entry's value to the PT client also report the resources that
took one.  `none` as the result of a handler means that it dereferences a null pointer.
-/

namespace EdgeTranslators.Mqtt
open Lib Pt

/-! ## the C library -/

def isSpace (c : Char) : Bool := c = ' ' ∨ ('\t' ≤ c ∧ c ≤ '\r')

def digitsValue (ds : List Char) : Nat := ds.foldl (fun n c => 10 * n + (c.toNat - '0'.toNat)) 0

def digitsPrefix (cs : List Char) : Int := digitsValue (cs.takeWhile Char.isDigit)

/-- `atoi`, as far as the result fits an `int` -/
def atoi (s : String) : Int :=
  match s.toList.dropWhile isSpace with
  | '-' :: cs => -digitsPrefix cs
  | '+' :: cs => digitsPrefix cs
  | cs => digitsPrefix cs

/-- the bytes of a C string -/
def cBytes (s : String) : Bytes := s.toUTF8.toList

/-! ## creating resources -/

def temperatureSensorObject : Int := 3303
def humiditySensorObject : Int := 3304

/-- the `uint16_t` ids the PT client is given for `int` ones -/
def idPath (objectId objectInstance resourceId : Int) : Path :=
  { objectId := .ofInt objectId, instanceId := .ofInt objectInstance,
    resourceId := .ofInt resourceId }

def mqttptCreateSensorObject (c : Client) (deveui : String) (objectId objectInstance : Int)
    (value : String) : Bool × List Path × Client :=
  match c.takeFault with
  | (true, c) => (false, [], c)
  | (false, c) =>
    let sensorValue := idPath objectId objectInstance 5700
    let (added, c) := deviceAddResource c deveui sensorValue
      { type := .opaqueBytes, operations := operationRead, value := cBytes value }
    let (status, c) := deviceAddResource c deveui (idPath objectId objectInstance 5605)
      { type := .opaqueBytes, operations := operationExecute, value := [] }
    (status = .success, if added = .success then [sensorValue] else [], c)

def mqttptCreateObject (c : Client) (deveui : String) (objectId objectInstance resourceId : Int)
    (value : String) (operations : Int) : Bool × List Path × Client :=
  match c.takeFault with
  | (true, c) => (false, [], c)
  | (false, c) =>
    let resource := idPath objectId objectInstance resourceId
    let granted :=
      if operations = 1 then operationRead
      else if operations = 3 then operationRead ||| operationWrite
      else UInt8.ofInt operations
    let (status, c) := deviceAddResource c deveui resource
      { type := .opaqueBytes, operations := granted, value := cBytes value }
    (status = .success, if status = .success then [resource] else [], c)

/-! ## the message -/

/-- what the loop reads of an item of `payload_field` -/
structure Entry where
  value : String
  objectId : Int
  objectInstance : Int
  resourceId : Int
  resourceOperations : Int
  deriving DecidableEq, Repr

def Entry.path (e : Entry) : Path := idPath e.objectId e.objectInstance e.resourceId

section
variable {ν : Type}

def Entry.ofArray (valueArray : List (Json ν)) : Option Entry := do
  let value ← valueArray[2]?.bind Json.string?
  let objectId ← valueArray[6]?.bind Json.string?
  let objectInstance ← valueArray[7]?.bind Json.string?
  let resourceId ← valueArray[8]?.bind Json.string?
  let resourceOperations ← valueArray[9]?.bind Json.string?
  pure {
    value, objectId := atoi objectId, objectInstance := atoi objectInstance,
    resourceId := atoi resourceId, resourceOperations := atoi resourceOperations }

/-- the creation of what an entry names, if it does not exist -/
def createForEntry (deveui : String) (c : Client) (e : Entry) : Bool × List Path × Client :=
  if deviceResourceExists c deveui e.path then (true, [], c)
  else if e.objectId = humiditySensorObject ∨ e.objectId = temperatureSensorObject then
    mqttptCreateSensorObject c deveui e.objectId e.objectInstance e.value
  else
    mqttptCreateObject c deveui e.objectId e.objectInstance e.resourceId e.value
      e.resourceOperations

/-- the client after one entry, and the resources that took its value -/
def translateEntry (deveui : String) (c : Client) (e : Entry) : Client × List Path :=
  let (_, created, c) := createForEntry deveui c e
  let (status, c) := deviceSetResourceValue c deveui e.path (cBytes e.value)
  (c, if status = .success then created ++ [e.path] else created)

/-- a resource took the value of an entry -/
structure Receipt where
  entry : Entry
  resource : Path
  deriving DecidableEq, Repr

def translateEntries (deveui : String) : Client → List Entry → Client × List Receipt
  | c, [] => (c, [])
  | c, e :: es =>
    let (c, received) := translateEntry deveui c e
    let (c, receipts) := translateEntries deveui c es
    (c, received.map (Receipt.mk e) ++ receipts)

/-- the entries the loop handles: it stops at an item that is no array of ten -/
def payloadEntries : List (Json ν) → Option (List Entry)
  | [] => some []
  | item :: rest =>
    if item.items.length ≠ 10 then some []
    else do
      let entry ← Entry.ofArray item.items
      let entries ← payloadEntries rest
      pure (entry :: entries)

inductive Request where
  | register (deveui : String)
  | writeValues (deveui : String)
  deriving DecidableEq, Repr

structure Translator where
  /-- `mqttpt_translator_started` is above zero -/
  started : Bool
  client : Client
  /-- `mqttpt_devices`, the devices registered with Edge -/
  devices : List String
  requests : List Request

/-- the outcome of handling a message -/
structure Handled where
  translator : Translator
  receipts : List Receipt

def Translator.unchanged (t : Translator) : Option Handled := some ⟨t, []⟩

/-- `jsonLoads` is the JSON parser, `created` whether the client lets a device object be created -/
def mqttptTranslateNodeValueMessage (jsonLoads : String → Option (Json ν)) (created : Bool)
    (t : Translator) (gweui deveui payload : Option String) : Option Handled :=
  if !t.started then { t with started := true }.unchanged
  else
    match gweui, deveui, payload with
    | some _, some deveui, some payload =>
      match (jsonLoads payload).bind (Json.get "payload_field") with
      | none => t.unchanged
      | some payloadField =>
        let (ok, client) :=
          if deviceExists t.client deveui then (true, t.client)
          else
            let (status, client) := deviceCreate t.client deveui created
            (decide (status = .success), client)
        if !ok then { t with client }.unchanged
        else do
          let entries ← payloadEntries payloadField.items
          let (client, receipts) := translateEntries deveui client entries
          let requests :=
            if payloadField.items = [] then t.requests
            else if deveui ∈ t.devices then t.requests ++ [.writeValues deveui]
            else t.requests ++ [.register deveui]
          pure ⟨{ t with client, requests }, receipts⟩
    | _, _, _ => t.unchanged

end

end EdgeTranslators.Mqtt
