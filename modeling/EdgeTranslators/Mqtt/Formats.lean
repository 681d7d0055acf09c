import EdgeTranslators.Mqtt.Messages

/-!
# The two formats of a value message (`mqttpt-example/mqttpt_example.c`)

A `Val` message has an array for each resource, an `EdgeVal` message objects with instances with
resources.  Here both handlers are run with a trace of the calls they make to the PT client.

* `PtCall`, `Trace`                                    a client and the calls made to it;
* `mqttptTranslateNodeValueCalls`, `mqttptTranslateNodeEdgeValueCalls`   the handlers, loop for loop;
* `valueCalls_gateway`, `edgeValueCalls_gateway`       without the trace they are the handlers of
                                                       `Messages.lean`;
* `edgeValMessage_gateway`                             and leave the gateway that `Values.lean` has;
* `NodeEntry`, `IsValPayload`, `IsEdgeValPayload`      a list of values in the two formats;
* `formats_equivalent`                                 the same list makes the same calls.
-/

namespace EdgeTranslators.Mqtt
open Lib Pt

/-! ## calls -/

inductive PtCall where
  /-- `pt_device_create`, or `pt_device_create_with_feature_flags` without flags -/
  | createDevice (deveui : String)
  /-- `pt_device_create_with_feature_flags` with the flag for certificate renewal -/
  | createDeviceWithCertificateRenewal (deveui : String)
  /-- `pt_device_add_resource`, `pt_device_add_resource_with_callback` -/
  | addResource (deveui : String) (p : Path) (r : Resource)
  | setResourceValue (deveui : String) (p : Path) (value : Bytes)
  | writeValues (deveui : String)
  | register (deveui : String)
  deriving DecidableEq

/-- a client and the calls made to it, oldest first -/
structure Trace where
  client : Client
  calls : List PtCall

namespace Trace

def addResource (t : Trace) (deveui : String) (p : Path) (r : Resource) : Trace :=
  ⟨(deviceAddResource t.client deveui p r).2, t.calls ++ [.addResource deveui p r]⟩

def setResourceValue (t : Trace) (deveui : String) (p : Path) (value : Bytes) : Trace :=
  ⟨(deviceSetResourceValue t.client deveui p value).2,
    t.calls ++ [.setResourceValue deveui p value]⟩

/-- `mqttpt_create_sensor_object` -/
def createSensorObject (t : Trace) (deveui : String) (objectId objectInstance : Int)
    (value : String) : Trace :=
  match t.client.takeFault with
  | (true, client) => { t with client }
  | (false, client) =>
    (({ t with client } : Trace).addResource deveui (idPath objectId objectInstance 5700)
      { type := .opaqueBytes, operations := operationRead, value := cBytes value }).addResource
        deveui (idPath objectId objectInstance 5605)
        { type := .opaqueBytes, operations := operationExecute, value := [] }

/-- `mqttpt_create_object` -/
def createObject (t : Trace) (deveui : String) (objectId objectInstance resourceId : Int)
    (value : String) (operations : Int) : Trace :=
  match t.client.takeFault with
  | (true, client) => { t with client }
  | (false, client) =>
    let granted :=
      if operations = 1 then operationRead
      else if operations = 3 then operationRead ||| operationWrite
      else UInt8.ofInt operations
    ({ t with client } : Trace).addResource deveui (idPath objectId objectInstance resourceId)
      { type := .opaqueBytes, operations := granted, value := cBytes value }

/-- the calls of one pass of the loops -/
def translateEntry (t : Trace) (deveui : String) (e : Entry) : Trace :=
  let t :=
    if deviceResourceExists t.client deveui e.path then t
    else if e.objectId = humiditySensorObject ∨ e.objectId = temperatureSensorObject then
      t.createSensorObject deveui e.objectId e.objectInstance e.value
    else
      t.createObject deveui e.objectId e.objectInstance e.resourceId e.value e.resourceOperations
  t.setResourceValue deveui e.path (cBytes e.value)

/-- one pass of the loops, with the strings it reads -/
def translateMembers (deveui : String) (t : Trace) (m : Members) : Checked Trace := do
  let objectId ← pass .atoi m.objectId
  let objectInstance ← pass .atoi m.objectInstance
  let resourceId ← pass .atoi m.resourceId
  let operations ← pass .atoi m.operations
  let value ← pass .strdup m.value
  let _ ← pass .strlen m.value
  return t.translateEntry deveui {
    value, objectId := atoi objectId, objectInstance := atoi objectInstance,
    resourceId := atoi resourceId, resourceOperations := atoi operations }

variable {ν : Type}

/-- the loop over the arrays of a `Val` message; it breaks at an item that is no array of ten -/
def valueLoop (deveui : String) (t : Trace) : List (Json ν) → Checked Trace
  | [] => return t
  | item :: rest =>
    if item.items.length ≠ 10 then return t
    else do
      let t ← t.translateMembers deveui (Members.ofArray item.items)
      valueLoop deveui t rest

/-- the innermost loop of an `EdgeVal` message -/
def resourceLoop (deveui : String) (object objectInstance : Json ν) (t : Trace)
    (resources : List (Json ν)) : Checked Trace :=
  resources.foldlM (fun t resource => t.translateMembers deveui
    { value := (resource.get "value").bind Json.string?
      objectId := (object.get "objectid").bind Json.string?
      objectInstance := (objectInstance.get "objectinstance").bind Json.string?
      resourceId := (resource.get "resourceid").bind Json.string?
      operations := (resource.get "operations").bind Json.string? }) t

def instanceLoop (deveui : String) (object : Json ν) (t : Trace) (instances : List (Json ν)) :
    Checked Trace :=
  instances.foldlM (fun t objectInstance =>
    t.resourceLoop deveui object objectInstance (itemsOf (objectInstance.get "resources"))) t

def objectLoop (deveui : String) (t : Trace) (objects : List (Json ν)) : Checked Trace :=
  objects.foldlM (fun t object =>
    t.instanceLoop deveui object (itemsOf (object.get "objectinstances"))) t

end Trace

/-! ## the handlers with their calls -/

/-- a gateway, and the calls a handler made to its client -/
abbrev Traced := Gateway × List PtCall

namespace Gateway
variable {ν : Type}

/-- the device object a message is for, created with the call `create` when it does not exist -/
def prepareCalls (g : Gateway) (deveui : String) (create : PtCall) (created : Bool) :
    Bool × Gateway × List PtCall :=
  if deviceExists g.client deveui then (true, g, [])
  else
    let (status, client) := deviceCreate g.client deveui created
    (decide (status = .success), { g with client }, [create])

/-- the last call: the values are written, or the device is registered with them -/
def publishCalls (g : Gateway) (deveui : String) : Checked Traced := do
  if ← mqttptDeviceExists deveui g.devices then
    return ({ g with requests := g.requests ++ [.writeValues deveui] }, [.writeValues deveui])
  else return ({ g with requests := g.requests ++ [.register deveui] }, [.register deveui])

/-- what follows when the device object is there -/
def translateCalls (g : Gateway) (deveui : String) (calls : List PtCall)
    (loop : Trace → List (Json ν) → Checked Trace) (payloadField : Json ν) : Checked Traced := do
  let t ← loop ⟨g.client, calls⟩ payloadField.items
  let g := { g with client := t.client }
  if payloadField.items = [] then return (g, t.calls)
  else
    let (g, last) ← g.publishCalls deveui
    return (g, t.calls ++ last)

/-- `mqttpt_translate_node_value_message` -/
def mqttptTranslateNodeValueCalls (created : Bool) (jsonLoads : String → Option (Json ν))
    (g : Gateway) (gweui deveui payload : Option String) : Checked Traced :=
  if !g.started then .ok ({ g with started := true }, [])
  else
    match gweui, deveui, payload with
    | some _, some deveui, some payload =>
      match jsonLoads payload with
      | none => .ok (g, [])
      | some json =>
        match json.get "payload_field" with
        | none => .ok (g, [])
        | some payloadField =>
          match g.prepareCalls deveui (.createDevice deveui) created with
          | (false, g, calls) => .ok (g, calls)
          | (true, g, calls) =>
            g.translateCalls deveui calls (fun t items => t.valueLoop deveui items) payloadField
    | _, _, _ => .ok (g, [])

/-- `mqttpt_translate_node_edge_value_message` -/
def mqttptTranslateNodeEdgeValueCalls (created : Bool → Bool)
    (jsonLoads : String → Option (Json ν)) (g : Gateway) (gweui deveui payload : Option String) :
    Checked Traced :=
  if !g.started then .ok ({ g with started := true }, [])
  else
    match gweui, deveui, payload with
    | some _, some deveui, some payload =>
      match jsonLoads payload with
      | none => .ok (g, [])
      | some json =>
        match json.get "payload_field" with
        | none => .ok (g, [])
        | some payloadField =>
          let create := if certRenewalSupport json then
              PtCall.createDeviceWithCertificateRenewal deveui
            else .createDevice deveui
          match g.prepareCalls deveui create (created (certRenewalSupport json)) with
          | (false, g, calls) => .ok (g, calls)
          | (true, g, calls) =>
            g.translateCalls deveui calls (fun t items => t.objectLoop deveui items) payloadField
    | _, _, _ => .ok (g, [])

end Gateway

/-! ## the trace only watches -/

namespace Trace

theorem createSensorObject_client (t : Trace) (deveui : String) (objectId objectInstance : Int)
    (value : String) : (t.createSensorObject deveui objectId objectInstance value).client =
      (mqttptCreateSensorObject t.client deveui objectId objectInstance value).2.2 := by
  unfold createSensorObject mqttptCreateSensorObject
  rcases t.client.takeFault with ⟨_ | _, client⟩ <;> rfl

theorem createObject_client (t : Trace) (deveui : String)
    (objectId objectInstance resourceId : Int) (value : String) (operations : Int) :
    (t.createObject deveui objectId objectInstance resourceId value operations).client =
      (mqttptCreateObject t.client deveui objectId objectInstance resourceId value operations).2.2 := by
  unfold createObject mqttptCreateObject
  rcases t.client.takeFault with ⟨_ | _, client⟩ <;> rfl

theorem translateEntry_client (t : Trace) (deveui : String) (e : Entry) :
    (t.translateEntry deveui e).client = (Mqtt.translateEntry deveui t.client e).1 := by
  unfold translateEntry Mqtt.translateEntry createForEntry
  show (deviceSetResourceValue _ deveui e.path (cBytes e.value)).2 =
    (deviceSetResourceValue _ deveui e.path (cBytes e.value)).2
  congr 2
  split
  · rfl
  · split
    · exact createSensorObject_client ..
    · exact createObject_client ..

theorem translateMembers_client (deveui : String) (t : Trace) (m : Members) :
    (t.translateMembers deveui m).map (·.client) =
      (Mqtt.translateMembers deveui t.client m).map (·.1) := by
  obtain ⟨value, objectId, objectInstance, resourceId, operations⟩ := m
  cases objectId with
  | none => rfl
  | some objectId =>
    cases objectInstance with
    | none => rfl
    | some objectInstance =>
      cases resourceId with
      | none => rfl
      | some resourceId =>
        cases operations with
        | none => rfl
        | some operations =>
          cases value with
          | none => rfl
          | some value => exact congrArg Except.ok (translateEntry_client ..)

/-- one loop over all resources of a message -/
def membersLoop (deveui : String) (t : Trace) (ms : List Members) : Checked Trace :=
  ms.foldlM (translateMembers deveui) t

theorem membersLoop_client (deveui : String) (t : Trace) (ms : List Members) :
    (t.membersLoop deveui ms).map (·.client) = (translateAll deveui t.client ms).map (·.1) := by
  unfold membersLoop
  induction ms generalizing t with
  | nil => rfl
  | cons m ms ih =>
    have hm := translateMembers_client deveui t m
    rw [List.foldlM_cons]
    show (translateMembers deveui t m >>= _).map _ =
      (Mqtt.translateMembers deveui t.client m >>= _).map _
    cases ht : translateMembers deveui t m with
    | error e =>
      rw [ht] at hm
      cases hc : Mqtt.translateMembers deveui t.client m with
      | error e' => rw [hc] at hm; exact congrArg Except.error (Except.error.inj hm)
      | ok r => rw [hc] at hm; cases hm
    | ok t' =>
      rw [ht] at hm
      cases hc : Mqtt.translateMembers deveui t.client m with
      | error e' => rw [hc] at hm; cases hm
      | ok r =>
        rw [hc] at hm
        have hclient : t'.client = r.1 := Except.ok.inj hm
        show (ms.foldlM (translateMembers deveui) t').map _ =
          (translateAll deveui r.1 ms >>= _).map _
        rw [ih t', hclient]
        cases translateAll deveui r.1 ms <;> rfl

section
variable {ν : Type}

theorem valueLoop_eq (deveui : String) (t : Trace) (payloadField : Json ν) :
    t.valueLoop deveui payloadField.items = t.membersLoop deveui (valueMembers payloadField) := by
  unfold valueMembers membersLoop
  induction payloadField.items generalizing t with
  | nil => rfl
  | cons item items ih =>
    unfold valueLoop
    by_cases hten : item.items.length = 10
    · have hkeep : ((item :: items).takeWhile fun item => item.items.length = 10) =
          item :: items.takeWhile fun item => item.items.length = 10 :=
        List.takeWhile_cons_of_pos (decide_eq_true hten)
      rw [if_neg (not_not_intro hten), hkeep, List.map_cons, List.foldlM_cons]
      congr 1
      funext t
      exact ih t
    · have hstop : ((item :: items).takeWhile fun item => item.items.length = 10) = [] :=
        List.takeWhile_cons_of_neg (by simpa using hten)
      rw [if_pos hten, hstop]
      rfl

/-- a loop in a loop is a loop over the items of all items -/
theorem foldlM_flatMap {α β σ ε : Type} (f : σ → β → Except ε σ) (g : α → List β) (l : List α)
    (s : σ) : (l.flatMap g).foldlM f s = l.foldlM (fun s a => (g a).foldlM f s) s := by
  induction l generalizing s with
  | nil => rfl
  | cons a l ih =>
    rw [List.flatMap_cons, List.foldlM_append, List.foldlM_cons]
    congr 1
    funext s
    exact ih s

theorem objectLoop_eq (deveui : String) (t : Trace) (payloadField : Json ν) :
    t.objectLoop deveui payloadField.items = t.membersLoop deveui (edgeMembers payloadField) := by
  unfold edgeMembers membersLoop objectLoop instanceLoop resourceLoop
  rw [foldlM_flatMap]
  congr 1
  funext t object
  rw [foldlM_flatMap]
  congr 1
  funext t objectInstance
  rw [List.foldlM_map]

end

end Trace

namespace Gateway
section
variable {ν : Type} (g : Gateway) (deveui : String)

theorem publishCalls_gateway : (g.publishCalls deveui).map (·.1) = g.publish deveui := by
  unfold publishCalls publish
  cases mqttptDeviceExists deveui g.devices with
  | error e => rfl
  | ok known => cases known <;> rfl

theorem translateCalls_gateway {calls : List PtCall}
    {loop : Trace → List (Json ν) → Checked Trace} {members : Json ν → List Members}
    {payloadField : Json ν}
    (hloop : ∀ t : Trace, loop t payloadField.items = t.membersLoop deveui (members payloadField)) :
    (g.translateCalls deveui calls loop payloadField).map (·.1) =
      (g.translate deveui members payloadField).map (·.1) := by
  have hclient := Trace.membersLoop_client deveui ⟨g.client, calls⟩ (members payloadField)
  unfold translateCalls translate
  rw [hloop]
  cases ht : Trace.membersLoop deveui ⟨g.client, calls⟩ (members payloadField) with
  | error e =>
    rw [ht] at hclient
    cases hall : translateAll deveui g.client (members payloadField) with
    | error e' => rw [hall] at hclient; exact congrArg Except.error (Except.error.inj hclient)
    | ok r => rw [hall] at hclient; cases hclient
  | ok t =>
    rw [ht] at hclient
    cases hall : translateAll deveui g.client (members payloadField) with
    | error e' => rw [hall] at hclient; cases hclient
    | ok r =>
      rw [hall] at hclient
      have heq : t.client = r.1 := Except.ok.inj hclient
      show (if payloadField.items = [] then _ else _ : Checked _).map _ =
        (if payloadField.items = [] then _ else _ : Checked _).map _
      by_cases hitems : payloadField.items = []
      · rw [if_pos hitems, if_pos hitems]
        show Except.ok _ = Except.ok _
        rw [heq]
      · rw [if_neg hitems, if_neg hitems, heq]
        have hpublish := publishCalls_gateway { g with client := r.1 } deveui
        show (publishCalls _ deveui >>= _).map _ = (publish _ deveui >>= _).map _
        cases hcalls : publishCalls { g with client := r.1 } deveui with
        | error e =>
          rw [hcalls] at hpublish
          rw [← hpublish]
          rfl
        | ok x =>
          rw [hcalls] at hpublish
          rw [← hpublish]
          rfl

theorem prepareCalls_eq (create : PtCall) (created : Bool) :
    g.prepareCalls deveui create created =
      ((g.prepare deveui created).1, (g.prepare deveui created).2,
        if deviceExists g.client deveui then [] else [create]) := by
  unfold prepareCalls prepare
  split <;> rfl

/-- what both handlers do once the JSON is parsed -/
def fieldCalls (g : Gateway) (deveui : String) (create : PtCall) (created : Bool)
    (loop : Trace → List (Json ν) → Checked Trace) (payloadField : Json ν) : Checked Traced :=
  match g.prepareCalls deveui create created with
  | (false, g, calls) => .ok (g, calls)
  | (true, g, calls) => g.translateCalls deveui calls loop payloadField

theorem fieldCalls_gateway (create : PtCall) (created : Bool)
    {loop : Trace → List (Json ν) → Checked Trace} {members : Json ν → List Members}
    {payloadField : Json ν}
    (hloop : ∀ t : Trace, loop t payloadField.items = t.membersLoop deveui (members payloadField)) :
    (g.fieldCalls deveui create created loop payloadField).map (·.1) =
      (match g.prepare deveui created with
        | (false, g) => .ok (g, [])
        | (true, g) => g.translate deveui members payloadField : Checked Outcome).map (·.1) := by
  unfold fieldCalls
  rw [prepareCalls_eq]
  rcases g.prepare deveui created with ⟨_ | _, g'⟩
  · rfl
  · exact g'.translateCalls_gateway deveui hloop

/-- without its calls the handler is the one of `Messages.lean` -/
theorem valueCalls_gateway (created : Bool) (jsonLoads : String → Option (Json ν))
    (gweui deveui payload : Option String) :
    (g.mqttptTranslateNodeValueCalls created jsonLoads gweui deveui payload).map (·.1) =
      (g.mqttptTranslateNodeValueMessage created jsonLoads gweui deveui payload).map (·.1) := by
  unfold mqttptTranslateNodeValueCalls mqttptTranslateNodeValueMessage handleValues
  cases g.started with
  | false => rfl
  | true =>
    cases gweui with
    | none => rfl
    | some gweui =>
      cases deveui with
      | none => rfl
      | some deveui =>
        cases payload with
        | none => rfl
        | some payload =>
          simp only [Bool.not_true, Bool.false_eq_true, if_false]
          cases jsonLoads payload with
          | none => rfl
          | some json =>
            simp only
            cases json.get "payload_field" with
            | none => rfl
            | some payloadField =>
              exact g.fieldCalls_gateway deveui _ created fun t =>
                t.valueLoop_eq deveui payloadField

theorem edgeValueCalls_gateway (created : Bool → Bool) (jsonLoads : String → Option (Json ν))
    (gweui deveui payload : Option String) :
    (g.mqttptTranslateNodeEdgeValueCalls created jsonLoads gweui deveui payload).map (·.1) =
      (g.mqttptTranslateNodeEdgeValueMessage created jsonLoads gweui deveui payload).map (·.1) := by
  unfold mqttptTranslateNodeEdgeValueCalls mqttptTranslateNodeEdgeValueMessage handleValues
  cases g.started with
  | false => rfl
  | true =>
    cases gweui with
    | none => rfl
    | some gweui =>
      cases deveui with
      | none => rfl
      | some deveui =>
        cases payload with
        | none => rfl
        | some payload =>
          simp only [Bool.not_true, Bool.false_eq_true, if_false]
          cases jsonLoads payload with
          | none => rfl
          | some json =>
            simp only
            cases json.get "payload_field" with
            | none => rfl
            | some payloadField =>
              exact g.fieldCalls_gateway deveui _ (created (certRenewalSupport json)) fun t =>
                t.objectLoop_eq deveui payloadField

end

end Gateway

/-! ## a list of values in the two formats -/

/-- a value, the ids of its resource, and the operations of the resource -/
structure NodeEntry where
  objectId : String
  objectInstance : String
  resourceId : String
  value : String
  operations : String
  deriving DecidableEq, Repr

structure ResourceEntry where
  resourceId : String
  value : String
  operations : String

structure InstanceEntry where
  objectInstance : String
  resources : List ResourceEntry

structure ObjectEntry where
  objectId : String
  instances : List InstanceEntry

def ObjectEntry.entries (o : ObjectEntry) : List NodeEntry :=
  o.instances.flatMap fun i => i.resources.map fun r =>
    ⟨o.objectId, i.objectInstance, r.resourceId, r.value, r.operations⟩

/-- the entries of an object-structured list, in order -/
def flatten (objects : List ObjectEntry) : List NodeEntry := objects.flatMap ObjectEntry.entries

section
variable {ν : Type}

/-- an array of ten with the strings of an entry -/
structure NodeEntry.IsArray (e : NodeEntry) (item : Json ν) : Prop where
  ten : item.items.length = 10
  value : item.items[2]? = some (.string e.value)
  objectId : item.items[6]? = some (.string e.objectId)
  objectInstance : item.items[7]? = some (.string e.objectInstance)
  resourceId : item.items[8]? = some (.string e.resourceId)
  operations : item.items[9]? = some (.string e.operations)

structure ResourceEntry.IsObject (r : ResourceEntry) (resource : Json ν) : Prop where
  resourceId : resource.get "resourceid" = some (.string r.resourceId)
  value : resource.get "value" = some (.string r.value)
  operations : resource.get "operations" = some (.string r.operations)

structure InstanceEntry.IsObject (i : InstanceEntry) (item : Json ν) : Prop where
  objectInstance : item.get "objectinstance" = some (.string i.objectInstance)
  resources : List.Forall₂ ResourceEntry.IsObject i.resources (itemsOf (item.get "resources"))

structure ObjectEntry.IsObject (o : ObjectEntry) (object : Json ν) : Prop where
  objectId : object.get "objectid" = some (.string o.objectId)
  instances : List.Forall₂ InstanceEntry.IsObject o.instances
    (itemsOf (object.get "objectinstances"))

/-- the `payload_field` of a `Val` message -/
def IsValPayload (entries : List NodeEntry) (payloadField : Json ν) : Prop :=
  List.Forall₂ NodeEntry.IsArray entries payloadField.items

/-- the `payload_field` of an `EdgeVal` message -/
def IsEdgeValPayload (objects : List ObjectEntry) (payloadField : Json ν) : Prop :=
  List.Forall₂ ObjectEntry.IsObject objects payloadField.items

/-- the strings of an entry, none of them missing -/
def NodeEntry.members (e : NodeEntry) : Members :=
  ⟨some e.value, some e.objectId, some e.objectInstance, some e.resourceId, some e.operations⟩

theorem IsValPayload.members {entries : List NodeEntry} {payloadField : Json ν}
    (h : IsValPayload entries payloadField) :
    valueMembers payloadField = entries.map NodeEntry.members := by
  unfold IsValPayload at h
  unfold valueMembers
  generalize payloadField.items = items at h ⊢
  induction h with
  | nil => rfl
  | @cons e item entries items hitem _ ih =>
    have hkeep : ((item :: items).takeWhile fun item => item.items.length = 10) =
        item :: items.takeWhile fun item => item.items.length = 10 :=
      List.takeWhile_cons_of_pos (decide_eq_true hitem.ten)
    rw [hkeep, List.map_cons, List.map_cons, ih]
    congr 1
    simp [Members.ofArray, NodeEntry.members, hitem.value, hitem.objectId, hitem.objectInstance,
      hitem.resourceId, hitem.operations, Json.string?]

theorem resources_members {resources : List ResourceEntry} {items : List (Json ν)}
    (h : List.Forall₂ ResourceEntry.IsObject resources items) {object objectInstance : Json ν}
    {objectId instanceId : String} (hobject : object.get "objectid" = some (.string objectId))
    (hinstance : objectInstance.get "objectinstance" = some (.string instanceId)) :
    (items.map fun resource => (
      { value := (resource.get "value").bind Json.string?
        objectId := (object.get "objectid").bind Json.string?
        objectInstance := (objectInstance.get "objectinstance").bind Json.string?
        resourceId := (resource.get "resourceid").bind Json.string?
        operations := (resource.get "operations").bind Json.string? } : Members)) =
      (resources.map fun r => (⟨objectId, instanceId, r.resourceId, r.value, r.operations⟩ :
        NodeEntry)).map NodeEntry.members := by
  induction h with
  | nil => rfl
  | cons hr _ ih =>
    rw [List.map_cons, List.map_cons, List.map_cons, ih]
    congr 1
    simp [NodeEntry.members, hr.value, hr.resourceId, hr.operations, hobject, hinstance,
      Json.string?]

/-- the induction is on the objects, and inside on the instances of one -/
theorem IsEdgeValPayload.members {objects : List ObjectEntry} {payloadField : Json ν}
    (h : IsEdgeValPayload objects payloadField) :
    edgeMembers payloadField = (flatten objects).map NodeEntry.members := by
  unfold IsEdgeValPayload at h
  unfold edgeMembers flatten
  generalize payloadField.items = items at h ⊢
  induction h with
  | nil => rfl
  | @cons o object objects items ho _ ih =>
    rw [List.flatMap_cons, List.flatMap_cons, List.map_append, ih]
    congr 1
    unfold ObjectEntry.entries
    have hinstances := ho.instances
    generalize o.instances = instances at hinstances ⊢
    generalize itemsOf (object.get "objectinstances") = items' at hinstances ⊢
    induction hinstances with
    | nil => rfl
    | cons hi _ ih' =>
      rw [List.flatMap_cons, List.flatMap_cons, List.map_append, ih']
      congr 1
      exact resources_members hi.resources ho.objectId hi.objectInstance

end

/-! ## the equivalence -/

namespace Gateway
section
variable {ν : Type} (g : Gateway) (deveui : String)

/-- what a message with the entries does, whatever its format -/
def entriesCalls (created : Bool) (entries : List NodeEntry) : Checked Traced :=
  match g.prepareCalls deveui (.createDevice deveui) created with
  | (false, g, calls) => .ok (g, calls)
  | (true, g, calls) => do
    let t ← Trace.membersLoop deveui ⟨g.client, calls⟩ (entries.map NodeEntry.members)
    let (g, last) ← ({ g with client := t.client } : Gateway).publishCalls deveui
    return (g, t.calls ++ last)

theorem fieldCalls_entries (created : Bool) {loop : Trace → List (Json ν) → Checked Trace}
    {entries : List NodeEntry} {payloadField : Json ν} (hitems : payloadField.items ≠ [])
    (hloop : ∀ t : Trace, loop t payloadField.items =
      t.membersLoop deveui (entries.map NodeEntry.members)) :
    g.fieldCalls deveui (.createDevice deveui) created loop payloadField =
      g.entriesCalls deveui created entries := by
  unfold fieldCalls entriesCalls
  rcases g.prepareCalls deveui (.createDevice deveui) created with ⟨_ | _, g', calls⟩
  · rfl
  · simp only
    unfold translateCalls
    rw [hloop]
    congr 1
    funext t
    rw [if_neg hitems]

end

end Gateway

section
variable {ν : Type} (jsonLoads : String → Option (Json ν))

/-- the text of a `Val` message with the entries -/
def IsValMessage (entries : List NodeEntry) (payload : String) : Prop :=
  ∃ json payloadField, jsonLoads payload = some json ∧
    json.get "payload_field" = some payloadField ∧ IsValPayload entries payloadField

/-- the text of an `EdgeVal` message with the objects, and without certificate renewal -/
def IsEdgeValMessage (objects : List ObjectEntry) (payload : String) : Prop :=
  ∃ json payloadField, jsonLoads payload = some json ∧ certRenewalSupport json = false ∧
    json.get "payload_field" = some payloadField ∧ IsEdgeValPayload objects payloadField

variable {jsonLoads}

theorem items_ne_nil {α : Type} {R : α → Json ν → Prop} {as : List α} {payloadField : Json ν}
    (h : List.Forall₂ R as payloadField.items) (hne : as ≠ []) : payloadField.items ≠ [] := by
  intro hnil
  rw [hnil] at h
  cases h
  exact hne rfl

theorem valueCalls_eq {g : Gateway} (hstarted : g.started = true) {entries : List NodeEntry}
    (hne : entries ≠ []) (created : Bool) {payload : String}
    (h : IsValMessage jsonLoads entries payload) (gweui deveui : String) :
    g.mqttptTranslateNodeValueCalls created jsonLoads (some gweui) (some deveui) (some payload) =
      g.entriesCalls deveui created entries := by
  obtain ⟨json, payloadField, hjson, hfield, hpayload⟩ := h
  have hloop : ∀ t : Trace, t.valueLoop deveui payloadField.items =
      t.membersLoop deveui (entries.map NodeEntry.members) := by
    intro t
    rw [Trace.valueLoop_eq, hpayload.members]
  rw [← g.fieldCalls_entries deveui created (items_ne_nil hpayload hne) hloop]
  unfold Gateway.mqttptTranslateNodeValueCalls
  simp only [hstarted, Bool.not_true, Bool.false_eq_true, if_false, hjson, hfield]
  rfl

theorem edgeValueCalls_eq {g : Gateway} (hstarted : g.started = true) {objects : List ObjectEntry}
    (hne : flatten objects ≠ []) (created : Bool → Bool) {payload : String}
    (h : IsEdgeValMessage jsonLoads objects payload) (gweui deveui : String) :
    g.mqttptTranslateNodeEdgeValueCalls created jsonLoads (some gweui) (some deveui)
        (some payload) =
      g.entriesCalls deveui (created false) (flatten objects) := by
  obtain ⟨json, payloadField, hjson, hrenewal, hfield, hpayload⟩ := h
  have hobjects : objects ≠ [] := by
    rintro rfl
    exact hne rfl
  have hloop : ∀ t : Trace, t.objectLoop deveui payloadField.items =
      t.membersLoop deveui ((flatten objects).map NodeEntry.members) := by
    intro t
    rw [Trace.objectLoop_eq, hpayload.members]
  rw [← g.fieldCalls_entries deveui (created false) (items_ne_nil hpayload hobjects) hloop]
  unfold Gateway.mqttptTranslateNodeEdgeValueCalls
  simp only [hstarted, Bool.not_true, Bool.false_eq_true, if_false, hjson, hfield, hrenewal]
  rfl

/-- **The two formats are equivalent.**  A list of values makes the same calls to the PT client, in
the same order, and leaves the same state, in either format. -/
theorem formats_equivalent {g : Gateway} (hstarted : g.started = true) {objects : List ObjectEntry}
    (hne : flatten objects ≠ []) {valPayload edgeValPayload : String}
    (hval : IsValMessage jsonLoads (flatten objects) valPayload)
    (hedge : IsEdgeValMessage jsonLoads objects edgeValPayload) (created : Bool → Bool)
    (gweui deveui : String) :
    g.mqttptTranslateNodeValueCalls (created false) jsonLoads (some gweui) (some deveui)
        (some valPayload) =
      g.mqttptTranslateNodeEdgeValueCalls created jsonLoads (some gweui) (some deveui)
        (some edgeValPayload) :=
  (valueCalls_eq hstarted hne (created false) hval gweui deveui).trans
    (edgeValueCalls_eq hstarted hne created hedge gweui deveui).symm

/-- **An `EdgeVal` message leaves the gateway that the handler of `Values.lean` leaves for the `Val`
message with its values.** -/
theorem edgeValMessage_gateway {t : Translator} (hstarted : t.started = true)
    {objects : List ObjectEntry} (hne : flatten objects ≠ [])
    {valPayload edgeValPayload : String} (hval : IsValMessage jsonLoads (flatten objects) valPayload)
    (hedge : IsEdgeValMessage jsonLoads objects edgeValPayload) (created : Bool → Bool)
    (gweui deveui : String) :
    ((t.gateway.mqttptTranslateNodeEdgeValueMessage created jsonLoads (some gweui) (some deveui)
        (some edgeValPayload)).map (·.1)).toOption =
      (mqttptTranslateNodeValueMessage jsonLoads (created false) t (some gweui) (some deveui)
        (some valPayload)).map (·.translator.gateway) := by
  have hcalls := (valueCalls_eq (g := t.gateway) hstarted hne (created false) hval gweui deveui).trans
    (edgeValueCalls_eq hstarted hne created hedge gweui deveui).symm
  have hgateway := (t.gateway.edgeValueCalls_gateway created jsonLoads (some gweui) (some deveui)
    (some edgeValPayload)).symm
  rw [← hcalls, t.gateway.valueCalls_gateway] at hgateway
  have hmessage := congrArg (Option.map (·.1)) (valueMessage_eq jsonLoads (created false) t
    (some gweui) (some deveui) (some valPayload))
  rw [Option.map_map] at hmessage
  rw [hgateway]
  refine Eq.trans ?_ hmessage
  cases t.gateway.mqttptTranslateNodeValueMessage (created false) jsonLoads (some gweui)
    (some deveui) (some valPayload) <;> rfl

end

/-- a thermometer and a set point with its unit -/
def thermostatObjects : List ObjectEntry :=
  [⟨"3303", [⟨"0", [⟨"5700", "21.5", "5"⟩]⟩]⟩,
    ⟨"3308", [⟨"0", [⟨"5900", "20", "3"⟩, ⟨"5701", "C", "1"⟩]⟩]⟩]

/-- an item of a `Val` message -/
def valItem (value objectId objectInstance resourceId operations : String) : Json Empty :=
  .array [.string "VALUE", .string "", .string value, .string "", .string "", .string "",
    .string objectId, .string objectInstance, .string resourceId, .string operations]

def thermostatVal : Json Empty :=
  .object [("payload_field", .array [valItem "21.5" "3303" "0" "5700" "5",
    valItem "20" "3308" "0" "5900" "3", valItem "C" "3308" "0" "5701" "1"])]

/-- a resource of an `EdgeVal` message -/
def edgeResource (resourceId value operations : String) : Json Empty :=
  .object [("resourceid", .string resourceId), ("value", .string value),
    ("operations", .string operations)]

/-- an object of an `EdgeVal` message, with one instance -/
def edgeObject (objectId objectInstance : String) (resources : List (Json Empty)) : Json Empty :=
  .object [("objectid", .string objectId), ("objectinstances", .array [
    .object [("objectinstance", .string objectInstance), ("resources", .array resources)]])]

def thermostatEdgeVal : Json Empty :=
  .object [("payload_field", .array [edgeObject "3303" "0" [edgeResource "5700" "21.5" "5"],
    edgeObject "3308" "0" [edgeResource "5900" "20" "3", edgeResource "5701" "C" "1"]])]

/-- `thermostatVal` and `thermostatEdgeVal` as they are sent -/
def thermostatValText : String :=
  "\x7b\"payload_field\":[" ++
    "[\"VALUE\",\"\",\"21.5\",\"\",\"\",\"\",\"3303\",\"0\",\"5700\",\"5\"]," ++
    "[\"VALUE\",\"\",\"20\",\"\",\"\",\"\",\"3308\",\"0\",\"5900\",\"3\"]," ++
    "[\"VALUE\",\"\",\"C\",\"\",\"\",\"\",\"3308\",\"0\",\"5701\",\"1\"]]\x7d"

def thermostatEdgeValText : String :=
  "\x7b\"payload_field\":[" ++
    "\x7b\"objectid\":\"3303\",\"objectinstances\":[\x7b\"objectinstance\":\"0\",\"resources\":[" ++
    "\x7b\"resourceid\":\"5700\",\"value\":\"21.5\",\"operations\":\"5\"\x7d]\x7d]\x7d," ++
    "\x7b\"objectid\":\"3308\",\"objectinstances\":[\x7b\"objectinstance\":\"0\",\"resources\":[" ++
    "\x7b\"resourceid\":\"5900\",\"value\":\"20\",\"operations\":\"3\"\x7d," ++
    "\x7b\"resourceid\":\"5701\",\"value\":\"C\",\"operations\":\"1\"\x7d]\x7d]\x7d]\x7d"

def thermostatLoads (payload : String) : Option (Json Empty) :=
  if payload = thermostatValText then some thermostatVal
  else if payload = thermostatEdgeValText then some thermostatEdgeVal
  else none

theorem thermostatLoads_edgeVal :
    thermostatLoads thermostatEdgeValText = some thermostatEdgeVal := by
  have hne : thermostatEdgeValText ≠ thermostatValText := by decide +kernel
  exact (if_neg hne).trans (if_pos rfl)

def connectedGateway : Gateway := ⟨true, ⟨some 1, ∅, [], []⟩, [], []⟩

theorem formats_equivalent_thermostat :
    connectedGateway.mqttptTranslateNodeValueCalls true thermostatLoads (some "gw")
        (some "thermostat") (some thermostatValText) =
      connectedGateway.mqttptTranslateNodeEdgeValueCalls (fun _ => true) thermostatLoads (some "gw")
        (some "thermostat") (some thermostatEdgeValText) :=
  @formats_equivalent Empty thermostatLoads connectedGateway rfl thermostatObjects nofun _ _
    ⟨thermostatVal, _, if_pos rfl, rfl,
      .cons ⟨rfl, rfl, rfl, rfl, rfl, rfl⟩ (.cons ⟨rfl, rfl, rfl, rfl, rfl, rfl⟩
        (.cons ⟨rfl, rfl, rfl, rfl, rfl, rfl⟩ .nil))⟩
    ⟨thermostatEdgeVal, _, thermostatLoads_edgeVal, rfl, rfl,
      .cons ⟨rfl, .cons ⟨rfl, .cons ⟨rfl, rfl, rfl⟩ .nil⟩ .nil⟩
        (.cons ⟨rfl, .cons ⟨rfl, .cons ⟨rfl, rfl, rfl⟩ (.cons ⟨rfl, rfl, rfl⟩ .nil)⟩ .nil⟩ .nil)⟩
    (fun _ => true) "gw" "thermostat"

end EdgeTranslators.Mqtt
