import EdgeTranslators.Lib.Base64
import EdgeTranslators.Lib.Json
import EdgeTranslators.Pt.Client

/-!
# Firmware updates of a device behind the gateway

Edge Core sends `manifest_meta_data` with the vendor and class ids of a firmware and its version.  The
translator checks the ids, answers, and downloads the firmware; then it unregisters the device and
registers it again with the new version.  There are two translators that do this.

* `manifestMetaData`          the handler of `simple-js-examples/simple-fota-example.js`, with the
                              callbacks of the calls it makes;
* `manifestMetaDataHandle`    that of `pt-example/client_example.c`;
* `Step`                      what Edge Core sees of either;
* `FollowsSequence`           the documented sequence;
* `conforms_iff`              when the first follows it, and agrees with the second.
-/

namespace EdgeTranslators.Fota
open Lib

/-! ## the JavaScript example -/

/-- `VENDORID` -/
def vendorId : Bytes :=
  [0x53, 0x55, 0x42, 0x44, 0x45, 0x56, 0x49, 0x43, 0x45, 0x2d, 0x56, 0x45, 0x4e, 0x44, 0x4f, 0x52]

/-- `CLASSID` -/
def classId : Bytes :=
  [0x53, 0x55, 0x42, 0x44, 0x45, 0x56, 0x49, 0x43, 0x45, 0x2d, 0x2d, 0x43, 0x4c, 0x41, 0x53, 0x53]

/-- `PROT_VERSION` -/
def protVersion : String := "4"

/-- `DEVICE_ID` -/
def exampleDeviceId : String := "example-fota-device"

def opRead : Nat := 0x01
def opWrite : Nat := 0x02
def opExecute : Nat := 0x04

/-- the buffers of Node.js; numbers are given by their literals -/
structure Node where
  /-- `Buffer.from(text, "base64")` -/
  fromBase64 : String → Bytes
  /-- `writeDoubleBE` -/
  doubleBE : String → Bytes
  /-- `writeInt32BE`, which throws for a number out of range -/
  int32BE : String → Option Bytes

/-- `toString("ascii")` -/
def toAscii (bytes : Bytes) : String :=
  String.ofList (bytes.map fun b => Char.ofNat (b.toNat % 128))

/-- `Buffer.from(text)` -/
def fromText (text : String) : Bytes := text.toUTF8.toList

def resource (resourceId operations : Nat) (type : String) (value : Bytes) : Json Nat :=
  .object [("resourceId", .number resourceId), ("operations", .number operations),
    ("type", .string type), ("value", .string (base64Encode value))]

def namedResource (resourceId operations : Nat) (name type : String) (value : Bytes) : Json Nat :=
  .object [("resourceId", .number resourceId), ("operations", .number operations),
    ("resourceName", .string name), ("type", .string type),
    ("value", .string (base64Encode value))]

/-- an object with one instance -/
def singleObject (objectId : Nat) (resources : List (Json Nat)) : Json Nat :=
  .object [("objectId", .number objectId),
    ("objectInstances", .array [
      .object [("objectInstanceId", .number 0), ("resources", .array resources)]])]

/-- `_createDeviceParams`, `none` when it throws -/
def createDeviceParams (node : Node) (deviceId temperatureValue setPointValue version : String) :
    Option (Json Nat) := do
  let fourvalue ← node.int32BE protVersion
  let minusone ← node.int32BE version
  let data := fromText "0"
  return .object [
    ("deviceId", .string deviceId),
    ("objects", .array [
      singleObject 14 [
        namedResource 0 opRead "Component Identity" "string" (fromText "MAIN"),
        namedResource 2 opRead "Component Version" "string" (fromText version)],
      singleObject 3303 [resource 5700 opRead "float" (node.doubleBE temperatureValue)],
      singleObject 10252 [
        resource 1 opExecute "string" data,
        resource 2 (opRead ||| opWrite) "int" minusone,
        resource 3 (opRead ||| opWrite) "int" minusone],
      singleObject 10255 [
        resource 0 (opRead ||| opWrite) "int" fourvalue,
        resource 1 (opRead ||| opWrite) "string" data,
        resource 2 (opRead ||| opWrite) "string" data,
        resource 3 (opRead ||| opWrite) "string" vendorId,
        resource 4 (opRead ||| opWrite) "string" classId],
      singleObject 3308 [
        resource 5900 (opRead ||| opWrite) "float" (node.doubleBE setPointValue)]])]

/-- what comes of a call to Edge Core -/
inductive Outcome where
  | ok
  | error
  /-- no reply in time -/
  | silent
  deriving DecidableEq, Repr

/-- what comes of the calls of a handler, should it make them -/
structure Outcomes where
  download : Outcome
  unregister : Outcome
  /-- the last call: `write`, or `device_register` -/
  last : Outcome

inductive Action where
  /-- the answer to the request, with the message of its error -/
  | answer (error : Option String)
  | call (method : String) (params : Json Nat) (outcome : Outcome)
  /-- an exception that nothing catches -/
  | crash

/-- a `manifest_meta_data` request; a field may be missing -/
structure ManifestRequest where
  deviceId : Option String
  classid : Option String
  vendorid : Option String
  componentName : Option String
  version : Option String
  size : Json Nat

section
variable (node : Node)

def unregisterExampleDevice (deviceId : String) (outcome : Outcome) : Action :=
  .call "device_unregister" (.object [("deviceId", .string deviceId)]) outcome

/-- an exception in it ends in the `catch` of the caller -/
def updateExampleManifestResources (deviceId fwVersion : String) (outcome : Outcome) : List Action :=
  match createDeviceParams node deviceId "19.5" "20.5" fwVersion with
  | some params => [.call "write" params outcome]
  | none => []

/-- the callback of `download_asset` -/
def downloaded (fwVersion : String) (outcomes : Outcomes) : List Action :=
  match outcomes.download with
  | .ok =>
    unregisterExampleDevice exampleDeviceId outcomes.unregister ::
      match outcomes.unregister with
      | .ok => updateExampleManifestResources node exampleDeviceId fwVersion outcomes.last
      | _ => []
  | .error => []
  -- the timeout refers to a `reject` that is not defined
  | .silent => [.crash]

/-- the handler of `manifest_meta_data` -/
def manifestMetaData (request : ManifestRequest) (outcomes : Outcomes) : List Action :=
  match request.deviceId, request.classid, request.vendorid, request.componentName,
    request.version with
  | some deviceId, some classid, some vendorid, some _, some version =>
    let fwVersion := toAscii (node.fromBase64 version)
    if node.fromBase64 vendorid ≠ vendorId ∧ node.fromBase64 classid ≠ classId then
      [.answer (some "wrong vendor or class ID")]
    else
      .answer none ::
        .call "download_asset" (.object [("deviceId", .string deviceId), ("size", request.size)])
          outcomes.download ::
        downloaded node fwVersion outcomes
  | _, _, _, _, _ =>
    [.answer (some "Missing any of the filed in params: classid, deviceId, vendorid, version, component name")]

end

/-! ## what Edge Core sees -/

/-- the value of a resource, as the parameters of a call have it -/
def resourceValue (params : Json Nat) (objectId objectInstanceId resourceId : Nat) :
    Option Bytes := do
  let hasId (name : String) (id : Nat) (json : Json Nat) : Bool :=
    match json.get name with
    | some (.number n) => n = id
    | _ => false
  let objects ← params.get "objects"
  let object ← objects.items.find? (hasId "objectId" objectId)
  let instances ← object.get "objectInstances"
  let inst ← instances.items.find? (hasId "objectInstanceId" objectInstanceId)
  let resources ← inst.get "resources"
  let resource ← resources.items.find? (hasId "resourceId" resourceId)
  let value ← (resource.get "value").bind Json.string?
  base64Decode value

inductive Step where
  | answer (ok : Bool)
  | download (deviceId : String) (outcome : Outcome)
  | unregister (deviceId : String) (outcome : Outcome)
  /-- with the value of the resource 14/0/2 -/
  | register (deviceId : String) (version : Option Bytes) (outcome : Outcome)
  | write (deviceId : String) (outcome : Outcome)
  deriving DecidableEq, Repr

def Action.step? : Action → Option Step
  | .answer error => some (.answer error.isNone)
  | .call method params outcome => do
    let deviceId ← (params.get "deviceId").bind Json.string?
    if method = "download_asset" then return .download deviceId outcome
    else if method = "device_unregister" then return .unregister deviceId outcome
    else if method = "device_register" then
      return .register deviceId (resourceValue params 14 0 2) outcome
    else if method = "write" then return .write deviceId outcome
    else none
  | .crash => none

def steps (actions : List Action) : List Step := actions.filterMap Action.step?

/-! ## the C example -/

/-- `MANIFEST_VENDOR_STR` and `MANIFEST_CLASS_STR` -/
structure Macros where
  vendorStr : Bytes
  classStr : Bytes

/-- the 16 bytes at the start of a zeroed buffer the text is copied to -/
def padded (text : Bytes) : Bytes := (text ++ List.replicate 16 0).take 16

/-- the handler takes the ids: the 16 bytes of memory at each of them are the expected ones -/
def idsMatch (m : Macros) (vendorMemory classMemory : Bytes) : Bool :=
  vendorMemory.take 16 = padded m.vendorStr ∧ classMemory.take 16 = padded m.classStr

/-- `asset_download_success_handler`, `unregister_success_handler` -/
def assetDownloaded (deviceId : String) (version : Bytes) (outcomes : Outcomes) : List Step :=
  match outcomes.download with
  | .ok =>
    .unregister deviceId outcomes.unregister ::
      match outcomes.unregister with
      | .ok => [.register deviceId (some version) outcomes.last]
      | _ => []
  | _ => []

/-- `manifest_meta_data_handle` with its callbacks, when `pt_download_asset` has the status; the PT
client answers with what the handler returns -/
def manifestMetaDataHandle (m : Macros) (deviceId : String) (vendorMemory classMemory version : Bytes)
    (status : Pt.Status) (outcomes : Outcomes) : List Step :=
  if idsMatch m vendorMemory classMemory then
    if status = .success then
      .answer true :: .download deviceId outcomes.download :: assetDownloaded deviceId version outcomes
    else [.answer false]
  else [.answer false]

/-! ## the documented sequence -/

def Step.answer? : Step → Option Bool
  | .answer ok => some ok
  | _ => none

/-- the device is registered after the steps, if it was before -/
def registered (deviceId : String) (steps : List Step) : Bool :=
  steps.foldl (fun known step =>
    match step with
    | .unregister d .ok => known && decide (d ≠ deviceId)
    | .register d _ .ok => known || decide (d = deviceId)
    | _ => known) true

/-- what may come after the steps: the device is unregistered once its firmware is there, registered
with the new version once it is unregistered, and written only while it is registered -/
def Allowed (deviceId : String) (version : Bytes) (before : List Step) : Step → Prop
  | .answer _ | .download _ _ => True
  | .unregister d _ => d = deviceId ∧ .download deviceId .ok ∈ before
  | .register d v _ => d = deviceId ∧ v = some version ∧ .unregister deviceId .ok ∈ before
  | .write d _ => d = deviceId → registered deviceId before

/-- the sequence of the documentation, for a device, the new version, and whether the ids are the
expected ones -/
structure FollowsSequence (deviceId : String) (version : Bytes) (accepted : Prop)
    (steps : List Step) : Prop where
  downloads : (∃ outcome, .download deviceId outcome ∈ steps) ↔ accepted
  /-- one answer, an error if nothing is downloaded -/
  answers : ∃ ok, steps.filterMap Step.answer? = [ok] ∧
    (ok = false ↔ ∀ d outcome, .download d outcome ∉ steps)
  unregisters : .download deviceId .ok ∈ steps → ∃ outcome, .unregister deviceId outcome ∈ steps
  registers : .unregister deviceId .ok ∈ steps →
    ∃ outcome, .register deviceId (some version) outcome ∈ steps
  order : ∀ before step after, steps = before ++ step :: after →
    Allowed deviceId version before step

/-- the order of a list, step by step -/
theorem order_cons {p : List Step → Step → Prop} {s : Step} {l : List Step} :
    (∀ before step after, s :: l = before ++ step :: after → p before step) ↔
      p [] s ∧ ∀ before step after, l = before ++ step :: after → p (s :: before) step := by
  constructor
  · intro h
    exact ⟨h [] s l rfl, fun before step after hl => h (s :: before) step after (by rw [hl]; rfl)⟩
  · rintro ⟨hhead, htail⟩ before step after hl
    cases before with
    | nil =>
      cases hl
      exact hhead
    | cons b before =>
      obtain ⟨rfl, hrest⟩ := List.cons.inj hl
      exact htail before step after hrest

/-! ### the C example -/

theorem padded_of_length {text : Bytes} (h : text.length = 16) : padded text = text := by
  unfold padded
  rw [List.take_append_of_le_length (by omega), List.take_of_length_le (by omega)]

theorem idsMatch_iff {m : Macros} (hvendor : m.vendorStr = vendorId) (hclass : m.classStr = classId)
    (vendorMemory classMemory : Bytes) :
    idsMatch m vendorMemory classMemory = true ↔
      vendorMemory.take 16 = vendorId ∧ classMemory.take 16 = classId := by
  unfold idsMatch
  rw [decide_eq_true_iff, hvendor, hclass, padded_of_length rfl, padded_of_length rfl]

theorem client_downloads {m : Macros} (deviceId : String) (vendorMemory classMemory version : Bytes)
    (outcomes : Outcomes) :
    (∃ outcome, .download deviceId outcome ∈
        manifestMetaDataHandle m deviceId vendorMemory classMemory version .success outcomes) ↔
      idsMatch m vendorMemory classMemory = true := by
  unfold manifestMetaDataHandle
  by_cases hids : idsMatch m vendorMemory classMemory = true
  · rw [if_pos hids, if_pos rfl]
    exact iff_of_true ⟨_, List.mem_cons_of_mem _ List.mem_cons_self⟩ hids
  · rw [if_neg hids]
    exact iff_of_false (by simp) hids

theorem take_append_of_length {id : Bytes} (h : id.length = 16) (after : Bytes) :
    (id ++ after).take 16 = id := by
  rw [List.take_append_of_le_length (by omega), List.take_of_length_le (by omega)]

/-- **The C example follows the sequence**, for ids of 16 bytes and a download that is requested. -/
theorem client_follows {m : Macros} {v c : Bytes} (hvendor : m.vendorStr = vendorId)
    (hclass : m.classStr = classId) (hv : v.length = 16) (hc : c.length = 16)
    (vendorAfter classAfter : Bytes) (deviceId : String) (version : Bytes) (outcomes : Outcomes) :
    FollowsSequence deviceId version (v = vendorId ∧ c = classId)
      (manifestMetaDataHandle m deviceId (v ++ vendorAfter) (c ++ classAfter) version .success
        outcomes) := by
  have hmatch := idsMatch_iff hvendor hclass (v ++ vendorAfter) (c ++ classAfter)
  rw [take_append_of_length hv, take_append_of_length hc] at hmatch
  unfold manifestMetaDataHandle
  by_cases hids : idsMatch m (v ++ vendorAfter) (c ++ classAfter) = true
  · rw [if_pos hids, if_pos rfl]
    rw [hmatch] at hids
    unfold assetDownloaded
    -- one case for each outcome of the download and of the unregistration
    rcases outcomes with ⟨_ | _ | _, _ | _ | _, last⟩
    all_goals
      constructor <;> simp [hids, order_cons, Allowed, Step.answer?]
  · rw [if_neg hids]
    rw [hmatch] at hids
    constructor <;> simp [hids, order_cons, Allowed, Step.answer?]

/-! ### the JavaScript example -/

section
variable (node : Node)

/-- Edge Core sees a write of the example device where the parameters can be made -/
theorem steps_update (fwVersion : String) (outcome : Outcome) :
    steps (updateExampleManifestResources node exampleDeviceId fwVersion outcome) =
      if (createDeviceParams node exampleDeviceId "19.5" "20.5" fwVersion).isSome then
        [.write exampleDeviceId outcome]
      else [] := by
  unfold updateExampleManifestResources createDeviceParams
  cases node.int32BE protVersion with
  | none => rfl
  | some fourvalue =>
    cases node.int32BE fwVersion with
    | none => rfl
    | some minusone => rfl

theorem steps_downloaded (fwVersion : String) (outcomes : Outcomes) :
    steps (downloaded node fwVersion outcomes) =
      if outcomes.download = .ok then
        .unregister exampleDeviceId outcomes.unregister ::
          if outcomes.unregister = .ok then
            if (createDeviceParams node exampleDeviceId "19.5" "20.5" fwVersion).isSome then
              [.write exampleDeviceId outcomes.last]
            else []
          else []
      else [] := by
  unfold downloaded
  rcases outcomes with ⟨_ | _ | _, _ | _ | _, last⟩
  case ok.ok =>
    show Step.unregister exampleDeviceId .ok :: steps (updateExampleManifestResources _ _ _ _) = _
    rw [steps_update]
    rfl
  all_goals rfl

/-- a request with every field -/
def fullRequest (deviceId classid vendorid componentName version : String) (size : Json Nat) :
    ManifestRequest :=
  { deviceId, classid, vendorid, componentName, version, size }

theorem steps_manifestMetaData (deviceId classid vendorid componentName version : String)
    (size : Json Nat) (outcomes : Outcomes) :
    steps (manifestMetaData node (fullRequest deviceId classid vendorid componentName version size)
        outcomes) =
      if node.fromBase64 vendorid ≠ vendorId ∧ node.fromBase64 classid ≠ classId then
        [.answer false]
      else
        .answer true :: .download deviceId outcomes.download ::
          steps (downloaded node (toAscii (node.fromBase64 version)) outcomes) := by
  show steps (if _ then _ else _) = _
  split <;> rfl

variable {node}

/-- what follows the answer and the download, in a trace of the example -/
def updates (made : Bool) (outcomes : Outcomes) : List Step :=
  if outcomes.download = .ok then
    .unregister exampleDeviceId outcomes.unregister ::
      if outcomes.unregister = .ok then
        if made then [.write exampleDeviceId outcomes.last] else []
      else []
  else []

/-- the trace of a request whose ids are accepted follows the sequence if nothing is downloaded, or
the example device is not unregistered -/
theorem follows_accepted (made : Bool) (outcomes : Outcomes) (deviceId : String) (version : Bytes) :
    FollowsSequence deviceId version True
        (.answer true :: .download deviceId outcomes.download :: updates made outcomes) ↔
      (outcomes.download = .ok → deviceId = exampleDeviceId ∧ outcomes.unregister ≠ .ok) := by
  constructor
  · intro h hdownload
    have hunregister := h.unregisters (by rw [hdownload]; simp)
    obtain ⟨outcome, hmem⟩ := hunregister
    have hdevice : deviceId = exampleDeviceId := by
      unfold updates at hmem
      rw [if_pos hdownload] at hmem
      cases made <;> by_cases hok : outcomes.unregister = .ok <;> simp_all
    refine ⟨hdevice, fun hok => ?_⟩
    -- the device is unregistered and not registered again
    have hregister := h.registers (by unfold updates; rw [if_pos hdownload, hdevice, hok]; simp)
    unfold updates at hregister
    rw [if_pos hdownload, if_pos hok] at hregister
    cases made <;> simp at hregister
  · intro h
    unfold updates
    by_cases hdownload : outcomes.download = .ok
    · obtain ⟨rfl, hok⟩ := h hdownload
      rw [if_pos hdownload, if_neg hok, hdownload]
      constructor <;> simp [order_cons, Allowed, Step.answer?, hok.symm]
    · rw [if_neg hdownload]
      have hne : Outcome.ok ≠ outcomes.download := fun heq => hdownload heq.symm
      constructor <;> simp [order_cons, Allowed, Step.answer?, hne]

/-- a request that is refused has an answer only -/
theorem follows_refused (deviceId : String) (version : Bytes) :
    FollowsSequence deviceId version False [.answer false] := by
  constructor <;> simp [order_cons, Allowed, Step.answer?]

variable (node)

/-- the documented sequence and the C example's decision, for a run of the JavaScript example -/
def Conforms (m : Macros) (deviceId : String) (v c vendorAfter classAfter version : Bytes)
    (outcomes : Outcomes) (trace : List Step) : Prop :=
  FollowsSequence deviceId version (v = vendorId ∧ c = classId) trace ∧
    ((∃ outcome, .download deviceId outcome ∈ trace) ↔
      ∃ outcome, .download deviceId outcome ∈
        manifestMetaDataHandle m deviceId (v ++ vendorAfter) (c ++ classAfter) version .success
          outcomes)

/-- **When the JavaScript example conforms**: both ids are the expected ones or neither is, the 16
bytes the C example compares do not belong to longer ids, and a downloaded firmware is for the
example device, whose unregistration then fails. -/
theorem conforms_iff {m : Macros} (hvendor : m.vendorStr = vendorId) (hclass : m.classStr = classId)
    (deviceId classid vendorid componentName version : String) (size : Json Nat)
    (outcomes : Outcomes) (vendorAfter classAfter : Bytes) :
    Conforms m deviceId (node.fromBase64 vendorid) (node.fromBase64 classid) vendorAfter classAfter
        (node.fromBase64 version) outcomes
        (steps (manifestMetaData node
          (fullRequest deviceId classid vendorid componentName version size) outcomes)) ↔
      (node.fromBase64 vendorid = vendorId ↔ node.fromBase64 classid = classId) ∧
        ((node.fromBase64 vendorid ++ vendorAfter).take 16 = vendorId →
          (node.fromBase64 classid ++ classAfter).take 16 = classId →
            node.fromBase64 vendorid = vendorId) ∧
        (node.fromBase64 vendorid = vendorId → node.fromBase64 classid = classId →
          outcomes.download = .ok → deviceId = exampleDeviceId ∧ outcomes.unregister ≠ .ok) := by
  rw [steps_manifestMetaData, steps_downloaded]
  let made := (createDeviceParams node exampleDeviceId "19.5" "20.5"
    (toAscii (node.fromBase64 version))).isSome
  unfold Conforms
  rw [client_downloads, idsMatch_iff hvendor hclass]
  by_cases hv : node.fromBase64 vendorid = vendorId
  · by_cases hc : node.fromBase64 classid = classId
    · have hfollows := follows_accepted made outcomes deviceId (node.fromBase64 version)
      rw [if_neg (fun h => h.1 hv), hv, hc, take_append_of_length rfl, take_append_of_length rfl]
      simp only [and_self, true_and, forall_true_left, iff_true, implies_true]
      rw [← hfollows]
      exact and_iff_left ⟨_, List.mem_cons_of_mem _ List.mem_cons_self⟩
    · -- only the vendor id is the expected one
      refine iff_of_false ?_ fun h => hc (h.1.mp hv)
      rw [if_neg (fun h => h.1 hv)]
      intro h
      exact hc (h.1.downloads.mp ⟨_, List.mem_cons_of_mem _ List.mem_cons_self⟩).2
  · by_cases hc : node.fromBase64 classid = classId
    · refine iff_of_false ?_ fun h => hv (h.1.mpr hc)
      rw [if_neg (fun h => h.2 hc)]
      intro h
      exact hv (h.1.downloads.mp ⟨_, List.mem_cons_of_mem _ List.mem_cons_self⟩).1
    · have hfollows := follows_refused deviceId (node.fromBase64 version)
      rw [if_pos ⟨hv, hc⟩]
      simp only [hv, hc, false_and, iff_self, true_and, hfollows, IsEmpty.forall_iff, and_true]
      simp

end

/-! ### requests for the example device -/

/-- Node.js on the texts of the requests below -/
def plainNode : Node where
  fromBase64 text := (base64Decode text).getD []
  doubleBE text :=
    if text = "19.5" then [0x40, 0x33, 0x80, 0, 0, 0, 0, 0] else [0x40, 0x34, 0x80, 0, 0, 0, 0, 0]
  int32BE text := some (if text = protVersion then [0, 0, 0, 4] else [0, 0, 0, 0])

theorem fromBase64_encode (bytes : Bytes) : plainNode.fromBase64 (base64Encode bytes) = bytes := by
  show (base64Decode (base64Encode bytes)).getD [] = bytes
  rw [base64Decode_encode, Option.getD_some]

/-- the trace of a request for the example device with the given ids -/
def exampleTrace (v c : Bytes) (outcomes : Outcomes) : List Step :=
  steps (manifestMetaData plainNode
    (fullRequest exampleDeviceId (base64Encode c) (base64Encode v) "MAIN"
      (base64Encode (fromText "0.0.1")) (.number 1024)) outcomes)

/-- a firmware that is not downloaded -/
theorem conforms_iff_notDownloaded :
    Conforms ⟨vendorId, classId⟩ exampleDeviceId vendorId classId [] [] (fromText "0.0.1")
      ⟨.error, .ok, .ok⟩ (exampleTrace vendorId classId ⟨.error, .ok, .ok⟩) := by
  have hiff := conforms_iff plainNode (rfl : (Macros.mk vendorId classId).vendorStr = vendorId) rfl
    exampleDeviceId (base64Encode classId) (base64Encode vendorId) "MAIN"
    (base64Encode (fromText "0.0.1")) (.number 1024) ⟨.error, .ok, .ok⟩ [] []
  rw [fromBase64_encode, fromBase64_encode, fromBase64_encode] at hiff
  exact hiff.mpr ⟨iff_of_true rfl rfl, fun _ _ => rfl, fun _ _ h => by cases h⟩

/-- the vendor id alone lets a firmware be downloaded -/
theorem not_conforms :
    ¬∀ (v c : Bytes) (outcomes : Outcomes),
      Conforms ⟨vendorId, classId⟩ exampleDeviceId v c [] [] (fromText "0.0.1") outcomes
        (exampleTrace v c outcomes) := by
  intro hall
  have hfollows := (hall vendorId vendorId ⟨.ok, .ok, .ok⟩).1
  have htrace : Step.download exampleDeviceId .ok ∈ exampleTrace vendorId vendorId ⟨.ok, .ok, .ok⟩ := by
    unfold exampleTrace
    rw [steps_manifestMetaData, fromBase64_encode, if_neg fun h => h.1 rfl]
    exact List.mem_cons_of_mem _ List.mem_cons_self
  have hids := hfollows.downloads.mp ⟨_, htrace⟩
  exact absurd hids.2 (by decide)

end EdgeTranslators.Fota
