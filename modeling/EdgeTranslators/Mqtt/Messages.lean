import EdgeTranslators.Lib.Faults
import EdgeTranslators.Mqtt.Values

/-!
# Value messages with members of any type (`mqttpt-example/mqttpt_example.c`)

A member that is missing, or no string, is a null pointer to the handlers of `Val` and `EdgeVal`
messages.  Here the handlers report the function such a pointer is passed to.

* `Members`, `translateMembers`                 what both handlers do for a resource;
* `mqttptDeviceExists`                          the list of registered devices is searched;
* `handleValues`                                what both handlers do for a message;
* `Gateway.mqttptTranslateNodeValueMessage`, `Gateway.mqttptTranslateNodeEdgeValueMessage`   the two;
* `valueMessage_eq`                             the first is the handler of `EdgeTranslators.Mqtt.Values`.
-/

namespace EdgeTranslators.Mqtt
open Lib Pt

/-- the functions that do not take a null pointer -/
inductive CFunction where
  | strcmp
  | atoi
  | strdup
  | strlen
  | base64DecodeLen
  | base64DecodeBinary
  deriving DecidableEq, Repr

abbrev Checked (α : Type) := Except (Fault CFunction) α

/-- `0 == strcmp(a, b)` -/
def strcmp (a : String) (b : Option String) : Checked Bool :=
  (pass .strcmp b).map fun b => decide (a = b)

@[simp] theorem strcmp_some (a b : String) : strcmp a (some b) = .ok (decide (a = b)) := rfl

/-! ## a resource -/

/-- the strings a handler reads for a resource, `none` where it gets a null pointer -/
structure Members where
  value : Option String
  objectId : Option String
  objectInstance : Option String
  resourceId : Option String
  operations : Option String
  deriving DecidableEq, Repr

def Members.complete (m : Members) : Bool :=
  m.value.isSome && m.objectId.isSome && m.objectInstance.isSome && m.resourceId.isSome &&
    m.operations.isSome

/-- one pass of the loops over the resources -/
def translateMembers (deveui : String) (c : Client) (m : Members) :
    Checked (Client × List Receipt) := do
  let objectId ← pass .atoi m.objectId
  let objectInstance ← pass .atoi m.objectInstance
  let resourceId ← pass .atoi m.resourceId
  let operations ← pass .atoi m.operations
  -- the functions that create a resource return at once when the value is null
  let value ← pass .strdup m.value
  let _ ← pass .strlen m.value
  let entry : Entry := {
    value, objectId := atoi objectId, objectInstance := atoi objectInstance,
    resourceId := atoi resourceId, resourceOperations := atoi operations }
  let (c, received) := translateEntry deveui c entry
  return (c, received.map (Receipt.mk entry))

def translateAll (deveui : String) : Client → List Members → Checked (Client × List Receipt)
  | c, [] => return (c, [])
  | c, m :: ms => do
    let (c, received) ← translateMembers deveui c m
    let (c, receipts) ← translateAll deveui c ms
    return (c, received ++ receipts)

/-! ## a message -/

/-- the translator, with the names of the registered devices; a name is null when its copy failed -/
structure Gateway where
  started : Bool
  client : Client
  /-- `mqttpt_devices` -/
  devices : List (Option String)
  requests : List Request

/-- `mqttpt_device_exists` -/
def mqttptDeviceExists (deveui : String) : List (Option String) → Checked Bool
  | [] => return false
  | device :: devices => do
    if ← strcmp deveui device then return true
    else mqttptDeviceExists deveui devices

section
variable {ν : Type}

/-- the items of an array that may be missing -/
def itemsOf (json : Option (Json ν)) : List (Json ν) := json.elim [] Json.items

/-- a resource of a `Val` message -/
def Members.ofArray (valueArray : List (Json ν)) : Members :=
  { value := valueArray[2]?.bind Json.string?
    objectId := valueArray[6]?.bind Json.string?
    objectInstance := valueArray[7]?.bind Json.string?
    resourceId := valueArray[8]?.bind Json.string?
    operations := valueArray[9]?.bind Json.string? }

/-- the resources of a `Val` message: the loop ends at an item that is no array of ten -/
def valueMembers (payloadField : Json ν) : List Members :=
  (payloadField.items.takeWhile fun item => item.items.length = 10).map fun item =>
    Members.ofArray item.items

/-- the resources of an `EdgeVal` message -/
def edgeMembers (payloadField : Json ν) : List Members :=
  payloadField.items.flatMap fun object =>
    (itemsOf (object.get "objectinstances")).flatMap fun objectInstance =>
      (itemsOf (objectInstance.get "resources")).map fun resource =>
        { value := (resource.get "value").bind Json.string?
          objectId := (object.get "objectid").bind Json.string?
          objectInstance := (objectInstance.get "objectinstance").bind Json.string?
          resourceId := (resource.get "resourceid").bind Json.string?
          operations := (resource.get "operations").bind Json.string? }

/-- the `cert_renewal` member is true -/
def certRenewalSupport (json : Json ν) : Bool :=
  match json.get "cert_renewal" with
  | some (.bool b) => b
  | _ => false

namespace Gateway

/-- the outcome for the gateway, and the resources that took a value -/
abbrev Outcome := Gateway × List Receipt

/-- the device object a message is for; `created` is whether the client lets it be created -/
def prepare (g : Gateway) (deveui : String) (created : Bool) : Bool × Gateway :=
  if deviceExists g.client deveui then (true, g)
  else
    let (status, client) := deviceCreate g.client deveui created
    (decide (status = .success), { g with client })

/-- the values go to Edge: they are written, or the device is registered with them -/
def publish (g : Gateway) (deveui : String) : Checked Gateway := do
  if ← mqttptDeviceExists deveui g.devices then
    return { g with requests := g.requests ++ [.writeValues deveui] }
  else return { g with requests := g.requests ++ [.register deveui] }

/-- what the two handlers do for the `payload_field` of a message -/
def translate (g : Gateway) (deveui : String) (members : Json ν → List Members)
    (payloadField : Json ν) : Checked Outcome := do
  let (client, receipts) ← translateAll deveui g.client (members payloadField)
  let g := { g with client }
  if payloadField.items = [] then return (g, receipts)
  else
    let g ← g.publish deveui
    return (g, receipts)

/-- what the two handlers do, with the resources of a message and the creation of its device -/
def handleValues (members : Json ν → List Members) (created : Json ν → Bool)
    (jsonLoads : String → Option (Json ν)) (g : Gateway) (gweui deveui payload : Option String) :
    Checked Outcome :=
  if !g.started then .ok ({ g with started := true }, [])
  else
    match gweui, deveui, payload with
    | some _, some deveui, some payload =>
      match jsonLoads payload with
      | none => .ok (g, [])
      | some json =>
        match json.get "payload_field" with
        | none => .ok (g, [])
        | some payloadField =>
          match g.prepare deveui (created json) with
          | (false, g) => .ok (g, [])
          | (true, g) => g.translate deveui members payloadField
    | _, _, _ => .ok (g, [])

def mqttptTranslateNodeValueMessage (created : Bool) (jsonLoads : String → Option (Json ν))
    (g : Gateway) (gweui deveui payload : Option String) : Checked Outcome :=
  g.handleValues valueMembers (fun _ => created) jsonLoads gweui deveui payload

/-- `created` is asked with the feature flag for certificate renewal -/
def mqttptTranslateNodeEdgeValueMessage (created : Bool → Bool)
    (jsonLoads : String → Option (Json ν)) (g : Gateway) (gweui deveui payload : Option String) :
    Checked Outcome :=
  g.handleValues edgeMembers (fun json => created (certRenewalSupport json)) jsonLoads gweui deveui
    payload

end Gateway

end

/-! ## when the handlers get through -/

theorem translateMembers_isOk (deveui : String) (c : Client) (m : Members) :
    (translateMembers deveui c m).isOk = m.complete := by
  obtain ⟨value, objectId, objectInstance, resourceId, operations⟩ := m
  cases objectId with
  | none => cases value <;> rfl
  | some objectId =>
    cases objectInstance with
    | none => cases value <;> rfl
    | some objectInstance =>
      cases resourceId with
      | none => cases value <;> rfl
      | some resourceId =>
        cases operations with
        | none => cases value <;> rfl
        | some operations => cases value <;> rfl

theorem translateAll_isOk (deveui : String) (c : Client) (ms : List Members) :
    (translateAll deveui c ms).isOk = true ↔ ∀ m ∈ ms, m.complete := by
  induction ms generalizing c with
  | nil => exact iff_of_true rfl nofun
  | cons m ms ih =>
    show (translateMembers deveui c m >>= _).isOk = true ↔ _
    rw [List.forall_mem_cons, ← translateMembers_isOk deveui c m]
    apply bind_isOk_of_forall
    intro ⟨c, received⟩ _
    rw [← ih c]
    exact bind_isOk_of_isOk fun _ => rfl

/-- the names noted before the device's own are not null -/
def Named (devices : List (Option String)) (deveui : String) : Prop :=
  ∀ name ∈ devices.takeWhile fun name => name ≠ some deveui, name.isSome

theorem mqttptDeviceExists_isOk (deveui : String) (devices : List (Option String)) :
    (mqttptDeviceExists deveui devices).isOk = true ↔ Named devices deveui := by
  unfold Named
  induction devices with
  | nil => exact iff_of_true rfl nofun
  | cons device devices ih =>
    cases device with
    | none =>
      refine iff_of_false Bool.false_ne_true fun h => ?_
      cases h none (by simp)
    | some name =>
      by_cases hname : name = deveui
      · subst hname
        refine iff_of_true ?_ ?_
        · simp [mqttptDeviceExists, bind, Except.bind, pure, Except.pure, Except.isOk,
            Except.toBool]
        · simp
      · have hne : deveui ≠ name := fun h => hname h.symm
        have hstep : mqttptDeviceExists deveui (some name :: devices) =
            mqttptDeviceExists deveui devices := by
          simp [mqttptDeviceExists, bind, Except.bind, hne]
        rw [hstep, ih]
        simp [hname]

namespace Gateway
section
variable {ν : Type} (g : Gateway) (deveui : String)

theorem publish_isOk : (g.publish deveui).isOk = true ↔ Named g.devices deveui := by
  rw [← mqttptDeviceExists_isOk]
  apply bind_isOk_of_isOk
  intro known
  cases known <;> rfl

theorem translate_isOk (members : Json ν → List Members) (payloadField : Json ν) :
    (g.translate deveui members payloadField).isOk = true ↔
      (∀ m ∈ members payloadField, m.complete) ∧
        (payloadField.items ≠ [] → Named g.devices deveui) := by
  unfold translate
  rw [← translateAll_isOk deveui g.client]
  apply bind_isOk_of_forall
  intro ⟨client, receipts⟩ _
  show (if payloadField.items = [] then _ else _ : Checked Outcome).isOk = true ↔ _
  by_cases hitems : payloadField.items = []
  · rw [if_pos hitems]
    exact iff_of_true rfl fun hne => absurd hitems hne
  · rw [if_neg hitems, imp_iff_right hitems]
    refine Iff.trans ?_ (publish_isOk { g with client } deveui)
    exact bind_isOk_of_isOk fun _ => rfl

/-- the device object is there, or a connected client lets it be created -/
theorem prepare_ok (created : Bool) :
    (g.prepare deveui created).1 = true ↔
      g.client.connection.isSome ∧ (deveui ∈ g.client.devices ∨ created) := by
  unfold prepare
  by_cases hexists : deviceExists g.client deveui = true
  · rw [if_pos hexists]
    obtain ⟨hconnection, hmem⟩ := (deviceExists_iff _ _).mp hexists
    exact iff_of_true rfl ⟨hconnection, Or.inl hmem⟩
  · rw [if_neg hexists]
    rw [deviceExists_iff] at hexists
    unfold deviceCreate
    cases hconnection : g.client.connection with
    | none => simp
    | some connection =>
      have hmem : deveui ∉ g.client.devices := by
        intro hmem
        exact hexists ⟨by rw [hconnection]; rfl, hmem⟩
      cases created <;> simp [hmem]

theorem prepare_devices (created : Bool) : (g.prepare deveui created).2.devices = g.devices := by
  unfold prepare
  split <;> rfl

end

/-- a message that is translated names its resources with strings, and no null name is noted before
the name of its device -/
def ValuesComplete {ν : Type} (members : Json ν → List Members) (created : Json ν → Bool)
    (jsonLoads : String → Option (Json ν)) (g : Gateway) (gweui deveui payload : Option String) :
    Prop :=
  g.started → gweui.isSome → ∀ device, deveui = some device → ∀ text, payload = some text →
    ∀ json, jsonLoads text = some json → ∀ payloadField, json.get "payload_field" = some payloadField →
      g.client.connection.isSome ∧ (device ∈ g.client.devices ∨ created json) →
        (∀ m ∈ members payloadField, m.complete) ∧
          (payloadField.items ≠ [] → Named g.devices device)

/-- **A value message gets through if and only if the resources it names are complete.** -/
theorem handleValues_isOk {ν : Type} (members : Json ν → List Members) (created : Json ν → Bool)
    (jsonLoads : String → Option (Json ν)) (g : Gateway) (gweui deveui payload : Option String) :
    (g.handleValues members created jsonLoads gweui deveui payload).isOk = true ↔
      g.ValuesComplete members created jsonLoads gweui deveui payload := by
  unfold handleValues ValuesComplete
  cases hstarted : g.started with
  | false => exact iff_of_true rfl nofun
  | true =>
    cases gweui with
    | none => exact iff_of_true rfl nofun
    | some gweui =>
      cases deveui with
      | none => exact iff_of_true rfl nofun
      | some device =>
        cases payload with
        | none => exact iff_of_true rfl nofun
        | some text =>
          simp only [Bool.not_true, Bool.false_eq_true, if_false, Option.isSome_some, forall_true_left,
            Option.some.injEq, forall_eq']
          cases hjson : jsonLoads text with
          | none => exact iff_of_true rfl nofun
          | some json =>
            simp only [Option.some.injEq, forall_eq']
            cases hfield : json.get "payload_field" with
            | none => exact iff_of_true rfl nofun
            | some payloadField =>
              simp only [Option.some.injEq, forall_eq']
              have hok := g.prepare_ok device (created json)
              have hdevices := g.prepare_devices device (created json)
              rcases hprepare : g.prepare device (created json) with ⟨_ | _, g'⟩
              · rw [hprepare] at hok
                exact iff_of_true rfl fun h => absurd (hok.mpr h) Bool.false_ne_true
              · rw [hprepare] at hok hdevices
                rw [imp_iff_right (hok.mp rfl)]
                show (g'.translate device members payloadField).isOk = true ↔ _
                rw [translate_isOk, hdevices]

end Gateway

/-! ## the two models of a `Val` message -/

/-- what the loop reads of an item -/
def Members.entry? (m : Members) : Option Entry := do
  let value ← m.value
  let objectId ← m.objectId
  let objectInstance ← m.objectInstance
  let resourceId ← m.resourceId
  let operations ← m.operations
  pure {
    value, objectId := atoi objectId, objectInstance := atoi objectInstance,
    resourceId := atoi resourceId, resourceOperations := atoi operations }

theorem translateMembers_toOption (deveui : String) (c : Client) (m : Members) :
    (translateMembers deveui c m).toOption = m.entry?.map fun e =>
      ((translateEntry deveui c e).1, (translateEntry deveui c e).2.map (Receipt.mk e)) := by
  obtain ⟨value, objectId, objectInstance, resourceId, operations⟩ := m
  cases value with
  | none =>
    cases objectId <;> cases objectInstance <;> cases resourceId <;> cases operations <;> rfl
  | some value =>
    cases objectId <;> cases objectInstance <;> cases resourceId <;> cases operations <;> rfl

theorem translateAll_toOption (deveui : String) (c : Client) (ms : List Members) :
    (translateAll deveui c ms).toOption =
      (ms.mapM Members.entry?).map (translateEntries deveui c) := by
  induction ms generalizing c with
  | nil => rfl
  | cons m ms ih =>
    have hm := translateMembers_toOption deveui c m
    rw [List.mapM_cons]
    cases hentry : m.entry? with
    | none =>
      rw [hentry] at hm
      show (translateMembers deveui c m >>= _).toOption = none
      cases hmembers : translateMembers deveui c m with
      | error e => rfl
      | ok x => rw [hmembers] at hm; cases hm
    | some e =>
      rw [hentry] at hm
      cases hmembers : translateMembers deveui c m with
      | error e => rw [hmembers] at hm; cases hm
      | ok x =>
        rw [hmembers] at hm
        cases hm
        have hrest := ih (translateEntry deveui c e).1
        unfold translateAll
        rw [hmembers]
        show (translateAll deveui (translateEntry deveui c e).1 ms >>= _).toOption = _
        cases hall : translateAll deveui (translateEntry deveui c e).1 ms with
        | error e =>
          rw [hall] at hrest
          cases hms : ms.mapM Members.entry? with
          | none => rfl
          | some es => rw [hms] at hrest; cases hrest
        | ok y =>
          rw [hall] at hrest
          cases hms : ms.mapM Members.entry? with
          | none => rw [hms] at hrest; cases hrest
          | some es =>
            rw [hms] at hrest
            cases hrest
            rfl

section
variable {ν : Type}

theorem payloadEntries_eq (payloadField : Json ν) :
    payloadEntries payloadField.items = (valueMembers payloadField).mapM Members.entry? := by
  unfold valueMembers
  induction payloadField.items with
  | nil => rfl
  | cons item items ih =>
    unfold payloadEntries
    by_cases hten : item.items.length = 10
    · have hkeep : ((item :: items).takeWhile fun item => item.items.length = 10) =
          item :: items.takeWhile fun item => item.items.length = 10 :=
        List.takeWhile_cons_of_pos (decide_eq_true hten)
      rw [if_neg (not_not_intro hten), hkeep, List.map_cons, List.mapM_cons, ih]
      rfl
    · have hstop : ((item :: items).takeWhile fun item => item.items.length = 10) = [] :=
        List.takeWhile_cons_of_neg (by simpa using hten)
      rw [if_pos hten, hstop]
      rfl

theorem mqttptDeviceExists_some (deveui : String) (devices : List String) :
    mqttptDeviceExists deveui (devices.map some) = .ok (decide (deveui ∈ devices)) := by
  induction devices with
  | nil => rfl
  | cons device devices ih =>
    by_cases hdevice : deveui = device
    · simp [mqttptDeviceExists, bind, Except.bind, pure, Except.pure, hdevice]
    · simp only [List.map_cons, mqttptDeviceExists, ih]
      simp [bind, Except.bind, hdevice]

/-- the translator with its devices, all of whose names were copied -/
def Translator.gateway (t : Translator) : Gateway :=
  { started := t.started, client := t.client, devices := t.devices.map some, requests := t.requests }

/-- the requests after the values of a device went to Edge -/
def Translator.published (t : Translator) (deveui : String) : List Request :=
  if deveui ∈ t.devices then t.requests ++ [.writeValues deveui] else t.requests ++ [.register deveui]

theorem publish_eq (t : Translator) (deveui : String) :
    t.gateway.publish deveui = .ok ({ t with requests := t.published deveui } : Translator).gateway := by
  unfold Gateway.publish Translator.published
  show mqttptDeviceExists deveui (t.devices.map some) >>= _ = _
  rw [mqttptDeviceExists_some]
  by_cases hdevice : deveui ∈ t.devices
  · rw [if_pos hdevice, decide_eq_true hdevice]
    rfl
  · rw [if_neg hdevice, decide_eq_false hdevice]
    rfl

theorem translate_eq (t : Translator) (device : String) (payloadField : Json ν) :
    (t.gateway.translate device valueMembers payloadField).toOption =
      (payloadEntries payloadField.items).map fun entries =>
        (({ t with
            client := (translateEntries device t.client entries).1
            requests := if payloadField.items = [] then t.requests else t.published device } :
              Translator).gateway, (translateEntries device t.client entries).2) := by
  have hall := translateAll_toOption device t.client (valueMembers payloadField)
  rw [← payloadEntries_eq] at hall
  unfold Gateway.translate
  show (translateAll device t.client _ >>= _).toOption = _
  cases htranslate : translateAll device t.client (valueMembers payloadField) with
  | error e =>
    rw [htranslate] at hall
    cases hentries : payloadEntries payloadField.items with
    | none => rfl
    | some entries => rw [hentries] at hall; cases hall
  | ok result =>
    rw [htranslate] at hall
    cases hentries : payloadEntries payloadField.items with
    | none => rw [hentries] at hall; cases hall
    | some entries =>
      rw [hentries] at hall
      cases hall
      let t' : Translator := { t with client := (translateEntries device t.client entries).1 }
      by_cases hitems : payloadField.items = []
      · show (if payloadField.items = [] then _ else _ : Checked _).toOption = _
        rw [if_pos hitems, Option.map_some, if_pos hitems]
        rfl
      · show (if payloadField.items = [] then _ else _ : Checked _).toOption = _
        rw [if_neg hitems, Option.map_some, if_neg hitems]
        show (t'.gateway.publish device >>= _).toOption = _
        rw [publish_eq]
        rfl

/-- **The handler that names the null pointers is the one that stops at them.** -/
theorem valueMessage_eq (jsonLoads : String → Option (Json ν)) (created : Bool) (t : Translator)
    (gweui deveui payload : Option String) :
    (t.gateway.mqttptTranslateNodeValueMessage created jsonLoads gweui deveui payload).toOption =
      (mqttptTranslateNodeValueMessage jsonLoads created t gweui deveui payload).map fun h =>
        (h.translator.gateway, h.receipts) := by
  unfold Gateway.mqttptTranslateNodeValueMessage Gateway.handleValues
    mqttptTranslateNodeValueMessage
  rcases t with ⟨_ | _, client, devices, requests⟩
  · rfl
  · cases gweui with
    | none => rfl
    | some gweui =>
      cases deveui with
      | none => rfl
      | some device =>
        cases payload with
        | none => rfl
        | some text =>
          show (match jsonLoads text with | none => _ | some json => _ : Checked _).toOption = _
          simp only [Bool.not_true, Bool.false_eq_true, if_false]
          cases jsonLoads text with
          | none => rfl
          | some json =>
            simp only [Option.bind_some]
            cases json.get "payload_field" with
            | none => rfl
            | some payloadField =>
              let g : Gateway := ⟨true, client, devices.map some, requests⟩
              show (match g.prepare device created with
                | (false, g) => .ok (g, [])
                | (true, g) => g.translate device valueMembers payloadField : Checked _).toOption = _
              by_cases hexists : deviceExists client device = true
              · have hprepare : g.prepare device created = (true, g) := if_pos hexists
                have htranslate := translate_eq ⟨true, client, devices, requests⟩ device payloadField
                simp only [hprepare, if_pos hexists, Bool.not_true, Bool.false_eq_true, if_false]
                refine htranslate.trans ?_
                cases payloadEntries payloadField.items <;> rfl
              · let made := deviceCreate client device created
                have hprepare : g.prepare device created =
                    (decide (made.1 = .success), { g with client := made.2 }) := if_neg hexists
                have htranslate := translate_eq ⟨true, made.2, devices, requests⟩ device payloadField
                simp only [hprepare, if_neg hexists]
                by_cases hstatus : made.1 = .success
                · simp only [made, hstatus, decide_true, Bool.not_true, Bool.false_eq_true, if_false]
                  refine htranslate.trans ?_
                  cases payloadEntries payloadField.items <;> rfl
                · simp only [made, hstatus, decide_false, Bool.not_false, if_true]
                  rfl

end

end EdgeTranslators.Mqtt
