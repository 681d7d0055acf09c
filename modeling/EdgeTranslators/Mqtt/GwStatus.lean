import EdgeTranslators.Mqtt.Messages

/-!
# Gateway status messages (`mqttpt-example/mqttpt_example.c`)

A status message names a method and its parameters; each method takes strings from the parameters,
and asks the PT client for something.

* `PtRequest`, `Apis`                   what the methods ask for, and what they rely on;
* `renewCertificate` … `deviceRenewCertificate`   the nine methods;
* `Method`, `gwMethods`                 the names they are called by;
* `mqttptTranslateGwStatusMessage`      the handler of the message;
* `Method.Complete`                     the parameters a method gets through with;
* `handlers_survive_iff`                the three handlers get through if and only if the messages are
                                        complete.
-/

namespace EdgeTranslators.Mqtt
open Lib Pt

/-! ## the methods -/

/-- what a method asks the PT client for -/
inductive PtRequest where
  | certificateRenewalListSet (certificates : List String)
  | certificateRenew (certificate : String)
  | cryptoGetCertificate (certificate : String)
  | cryptoGetPublicKey (publicKey : String)
  | cryptoGenerateRandom (size : Nat)
  | cryptoAsymmetricSign (privateKeyName : String) (hashDigest : Bytes)
  | cryptoAsymmetricVerify (publicKeyName : String) (hashDigest signature : Bytes)
  | cryptoEcdhKeyAgreement (privateKeyName : String) (peerPublicKey : Bytes)
  | deviceCertificateRenew (deviceName certName : String) (csr : Bytes)
  deriving DecidableEq, Repr

structure Apis (ν : Type) where
  jsonLoads : String → Option (Json ν)
  /-- `json_integer_value` of a number -/
  integerValue : ν → Int
  /-- the allocation for a variable succeeds -/
  alloc : String → Bool
  /-- the bytes of a base64 text -/
  base64Decode : String → Bytes
  /-- the answer of the PT client -/
  pt : PtRequest → Status

/-- the status of a method, and what it asked for -/
abbrev Made := Status × Option PtRequest

section
variable {ν : Type} (api : Apis ν)

/-- `json_string_value(json_object_get(params, name))` -/
def stringMember (params : Json ν) (name : String) : Option String :=
  (params.get name).bind Json.string?

/-- `json_integer_value(json_object_get(params, name))` as a `size_t` -/
def sizeMember (params : Json ν) (name : String) : Nat :=
  match params.get name with
  | some (.number n) => (api.integerValue n % 2 ^ 64).toNat
  | _ => 0

def ask (request : PtRequest) : Made := (api.pt request, some request)

/-- `calloc` for a variable -/
def calloc (name : String) : Option Unit := if api.alloc name then some () else none

/-- `apr_base64_decode_binary(destination, source)` -/
def base64DecodeBinary (destination : Option Unit) (source : Option String) : Checked Bytes := do
  let _ ← pass .base64DecodeBinary destination
  let source ← pass .base64DecodeBinary source
  return api.base64Decode source

/-- `create_pt_api_request_userdata` does not return null -/
def createPtApiRequestUserdata : Bool := api.alloc "userdata" && api.alloc "request_id_copy"

/-- the last part of the methods that fill a `pt_api_request_userdata_t` -/
def askWithUserdata (request : PtRequest) : Made :=
  if createPtApiRequestUserdata api then ask api request else (.allocationFail, none)

def setCertificatesList (params : Json ν) : Checked Made :=
  let certificates := (itemsOf (params.get "certificates")).filterMap Json.string?
  if !api.alloc "userdata" then return (.allocationFail, none)
  else if !api.alloc "request_id" then return (.allocationFail, none)
  else return ask api (.certificateRenewalListSet certificates)

def renewCertificate (params : Json ν) : Checked Made :=
  if !api.alloc "userdata" then return (.allocationFail, none)
  else do
    let certificate ← pass .strdup (stringMember params "certificate")
    if !(api.alloc "certificate" && api.alloc "request_id") then return (.allocationFail, none)
    else return ask api (.certificateRenew certificate)

def getCertificate (params : Json ν) : Checked Made :=
  match stringMember params "certificate" with
  | some certificate => return askWithUserdata api (.cryptoGetCertificate certificate)
  | none => return (.invalidParameters, none)

def getPublicKey (params : Json ν) : Checked Made :=
  match stringMember params "key" with
  | some publicKey => return askWithUserdata api (.cryptoGetPublicKey publicKey)
  | none => return (.invalidParameters, none)

def generateRandom (params : Json ν) : Checked Made :=
  let size := sizeMember api params "size"
  if size ≠ 0 then return askWithUserdata api (.cryptoGenerateRandom size)
  else return (.invalidParameters, none)

def asymmetricSign (params : Json ν) : Checked Made := do
  let hashDigest := stringMember params "hash_digest"
  let _ ← pass .base64DecodeLen hashDigest
  match calloc api "decoded_hash_digest" with
  | none => return (.allocationFail, none)
  | some decodedHashDigest => do
    let hash ← base64DecodeBinary api (some decodedHashDigest) hashDigest
    match stringMember params "private_key_name" with
    | some privateKeyName => return askWithUserdata api (.cryptoAsymmetricSign privateKeyName hash)
    | none => return (.invalidParameters, none)

def asymmetricVerify (params : Json ν) : Checked Made := do
  let hashDigest := stringMember params "hash_digest"
  let _ ← pass .base64DecodeLen hashDigest
  match calloc api "decoded_hash_digest" with
  | none => return (.allocationFail, none)
  | some decodedHashDigest => do
    let hash ← base64DecodeBinary api (some decodedHashDigest) hashDigest
    let signature := stringMember params "signature"
    let _ ← pass .base64DecodeLen signature
    -- the check after this allocation looks at `decoded_hash_digest` again
    let decodedSignature := calloc api "decoded_signature"
    let decoded ← base64DecodeBinary api decodedSignature signature
    match stringMember params "public_key_name" with
    | some publicKeyName =>
      return askWithUserdata api (.cryptoAsymmetricVerify publicKeyName hash decoded)
    | none => return (.invalidParameters, none)

def ecdhKeyAgreement (params : Json ν) : Checked Made := do
  let peerPublicKey := stringMember params "peer_public_key"
  let _ ← pass .base64DecodeLen peerPublicKey
  match calloc api "decoded_peer_public_key" with
  | none => return (.allocationFail, none)
  | some decodedPeerPublicKey => do
    let peer ← base64DecodeBinary api (some decodedPeerPublicKey) peerPublicKey
    match stringMember params "private_key_name" with
    | some privateKeyName => return askWithUserdata api (.cryptoEcdhKeyAgreement privateKeyName peer)
    | none => return (.invalidParameters, none)

/-- what follows the label `exit_device_renew_certificate`; `reqId` is `none` when the jump to it
passed over the declaration of `req_id` -/
def exitDeviceRenewCertificate (made : Made) (reqId : Option (Option String)) : Checked Made := do
  if made.1 ≠ .success then release "req_id" reqId
  return made

def deviceRenewCertificate (requestId : String) (params : Json ν) : Checked Made :=
  match stringMember params "device_name", stringMember params "certificate_name",
    stringMember params "csr" with
  | some deviceName, some certName, some csr => do
    let _ ← pass .base64DecodeLen (some csr)
    let reqId := if api.alloc "req_id" then some requestId else none
    match calloc api "decoded_csr", reqId with
    | some decodedCsr, some _ => do
      let decoded ← base64DecodeBinary api (some decodedCsr) (some csr)
      exitDeviceRenewCertificate (ask api (.deviceCertificateRenew deviceName certName decoded))
        (some reqId)
    | _, _ => exitDeviceRenewCertificate (.allocationFail, none) (some reqId)
  | _, _, _ => exitDeviceRenewCertificate (.invalidParameters, none) none

/-! ## the message -/

inductive Method where
  | renewCertificate
  | setCertificatesList
  | getCertificate
  | getPublicKey
  | generateRandom
  | asymmetricSign
  | asymmetricVerify
  | ecdhKeyAgreement
  | deviceRenewCertificate
  deriving DecidableEq, Repr

/-- the names of the methods, in the order they are compared -/
def gwMethods : List (String × Method) :=
  [ ("renew_certificate", .renewCertificate),
    ("set_certificates_list", .setCertificatesList),
    ("get_certificate", .getCertificate),
    ("get_public_key", .getPublicKey),
    ("generate_random", .generateRandom),
    ("asymmetric_sign", .asymmetricSign),
    ("asymmetric_verify", .asymmetricVerify),
    ("ecdh_key_agreement", .ecdhKeyAgreement),
    ("device_renew_certificate", .deviceRenewCertificate) ]

def Method.run (requestId : String) (params : Json ν) : Method → Checked Made
  | .renewCertificate => Mqtt.renewCertificate api params
  | .setCertificatesList => Mqtt.setCertificatesList api params
  | .getCertificate => Mqtt.getCertificate api params
  | .getPublicKey => Mqtt.getPublicKey api params
  | .generateRandom => Mqtt.generateRandom api params
  | .asymmetricSign => Mqtt.asymmetricSign api params
  | .asymmetricVerify => Mqtt.asymmetricVerify api params
  | .ecdhKeyAgreement => Mqtt.ecdhKeyAgreement api params
  | .deviceRenewCertificate => Mqtt.deviceRenewCertificate api requestId params

/-- the comparisons of the method's name -/
def findMethod (method : Option String) : List (String × Method) → Checked (Option Method)
  | [] => return none
  | (name, m) :: methods => do
    if ← strcmp name method then return some m
    else findMethod method methods

/-- a message on `MQTTPt/RequestResponse` -/
inductive Response where
  | success (requestId : Option String) (value : String)
  | failure (requestId : Option String) (status : Status)
  deriving DecidableEq, Repr

structure StatusGateway where
  started : Bool
  /-- the requests made of the PT client, with their request ids -/
  asked : List (String × PtRequest)
  responses : List Response
  deriving DecidableEq, Repr

namespace StatusGateway

def respond (g : StatusGateway) (requestId : Option String) (status : Status) : StatusGateway :=
  let response :=
    if status = .success then Response.success requestId "handled" else .failure requestId status
  { g with responses := g.responses ++ [response] }

/-- a message with a method and a request id -/
def handle (g : StatusGateway) (requestId : String) (method : Json ν) (params : Option (Json ν)) :
    Checked (Status × StatusGateway) :=
  match params with
  | some (.object members) => do
    match ← findMethod method.string? gwMethods with
    | some m =>
      let (status, asked) ← m.run api requestId (.object members)
      return (status, { g with asked := g.asked ++ asked.toList.map fun a => (requestId, a) })
    | none => return (.error, g)
  | _ => do
    if ← strcmp "start_pt" method.string? then
      if !g.started then return (.success, { g with started := true })
      else return (.error, g)
    else return (.error, g)

/-- the status for a message -/
def answer (g : StatusGateway) (json : Json ν) : Checked (Status × StatusGateway) :=
  match json.get "method", stringMember json "request_id" with
  | some method, some requestId => g.handle api requestId method (json.get "params")
  | _, _ => return (.invalidParameters, g)

def mqttptTranslateGwStatusMessage (g : StatusGateway) (payload : String) :
    Checked StatusGateway :=
  match api.jsonLoads payload with
  | none => return g
  | some json => do
    let requestId := stringMember json "request_id"
    let (status, g) ← g.answer api json
    return g.respond requestId status

end StatusGateway

/-! ## when the methods get through -/

/-- the parameters with which the method takes no string from a null pointer, and releases what it
has assigned -/
def Method.Complete (params : Json ν) : Method → Prop
  | .renewCertificate => api.alloc "userdata" → (stringMember params "certificate").isSome
  | .asymmetricSign => (stringMember params "hash_digest").isSome
  | .asymmetricVerify =>
    (stringMember params "hash_digest").isSome ∧
      (api.alloc "decoded_hash_digest" →
        (stringMember params "signature").isSome ∧ api.alloc "decoded_signature")
  | .ecdhKeyAgreement => (stringMember params "peer_public_key").isSome
  | .deviceRenewCertificate =>
    (stringMember params "device_name").isSome ∧ (stringMember params "certificate_name").isSome ∧
      (stringMember params "csr").isSome
  | .setCertificatesList | .getCertificate | .getPublicKey | .generateRandom => True

theorem renewCertificate_isOk (params : Json ν) :
    (renewCertificate api params).isOk = true ↔ Method.renewCertificate.Complete api params := by
  unfold renewCertificate Method.Complete
  cases api.alloc "userdata" with
  | false => exact iff_of_true rfl nofun
  | true =>
    rw [imp_iff_right rfl]
    cases stringMember params "certificate" with
    | none => exact iff_of_false Bool.false_ne_true Bool.false_ne_true
    | some certificate =>
      refine iff_of_true ?_ rfl
      rw [if_neg (by decide)]
      show (if (!(api.alloc "certificate" && api.alloc "request_id")) = true then _ else _ :
        Checked Made).isOk = true
      split <;> rfl

theorem asymmetricSign_isOk (params : Json ν) :
    (asymmetricSign api params).isOk = true ↔ Method.asymmetricSign.Complete api params := by
  unfold asymmetricSign Method.Complete
  cases stringMember params "hash_digest" with
  | none => exact iff_of_false Bool.false_ne_true Bool.false_ne_true
  | some hashDigest =>
    refine iff_of_true ?_ rfl
    show (match calloc api "decoded_hash_digest" with | none => _ | some d => _ : Checked Made).isOk = _
    cases calloc api "decoded_hash_digest" with
    | none => rfl
    | some decoded => cases stringMember params "private_key_name" <;> rfl

theorem asymmetricVerify_isOk (params : Json ν) :
    (asymmetricVerify api params).isOk = true ↔ Method.asymmetricVerify.Complete api params := by
  unfold asymmetricVerify Method.Complete calloc
  cases stringMember params "hash_digest" with
  | none => exact iff_of_false Bool.false_ne_true fun h => Bool.false_ne_true h.1
  | some hashDigest =>
    cases api.alloc "decoded_hash_digest" with
    | false => exact iff_of_true rfl ⟨rfl, nofun⟩
    | true =>
      cases stringMember params "signature" with
      | none => exact iff_of_false Bool.false_ne_true fun h => Bool.false_ne_true (h.2 rfl).1
      | some signature =>
        cases api.alloc "decoded_signature" with
        | false => exact iff_of_false Bool.false_ne_true fun h => Bool.false_ne_true (h.2 rfl).2
        | true =>
          refine iff_of_true ?_ ⟨rfl, fun _ => ⟨rfl, rfl⟩⟩
          cases stringMember params "public_key_name" <;> rfl

theorem ecdhKeyAgreement_isOk (params : Json ν) :
    (ecdhKeyAgreement api params).isOk = true ↔ Method.ecdhKeyAgreement.Complete api params := by
  unfold ecdhKeyAgreement Method.Complete calloc
  cases stringMember params "peer_public_key" with
  | none => exact iff_of_false Bool.false_ne_true Bool.false_ne_true
  | some peerPublicKey =>
    refine iff_of_true ?_ rfl
    cases api.alloc "decoded_peer_public_key" with
    | false => rfl
    | true => cases stringMember params "private_key_name" <;> rfl

/-- the exit gets through when `req_id` is assigned, or the request was made -/
theorem exitDeviceRenewCertificate_isOk (made : Made) (reqId : Option (Option String)) :
    (exitDeviceRenewCertificate made reqId).isOk = true ↔ made.1 = .success ∨ reqId.isSome := by
  unfold exitDeviceRenewCertificate
  by_cases hstatus : made.1 = .success
  · rw [if_neg (not_not_intro hstatus)]
    exact iff_of_true rfl (Or.inl hstatus)
  · rw [if_pos hstatus]
    cases reqId with
    | none => exact iff_of_false Bool.false_ne_true fun h => h.elim hstatus Bool.false_ne_true
    | some reqId => exact iff_of_true rfl (Or.inr rfl)

theorem deviceRenewCertificate_isOk (requestId : String) (params : Json ν) :
    (deviceRenewCertificate api requestId params).isOk = true ↔
      Method.deviceRenewCertificate.Complete api params := by
  have hjump : (exitDeviceRenewCertificate (.invalidParameters, none) none).isOk ≠ true := by
    rw [Ne, exitDeviceRenewCertificate_isOk]
    decide
  unfold deviceRenewCertificate Method.Complete
  cases stringMember params "device_name" with
  | none => exact iff_of_false hjump fun h => Bool.false_ne_true h.1
  | some deviceName =>
    cases stringMember params "certificate_name" with
    | none => exact iff_of_false hjump fun h => Bool.false_ne_true h.2.1
    | some certName =>
      cases stringMember params "csr" with
      | none => exact iff_of_false hjump fun h => Bool.false_ne_true h.2.2
      | some csr =>
        refine iff_of_true ?_ ⟨rfl, rfl, rfl⟩
        have hassigned : ∀ (made : Made) (reqId : Option String),
            (exitDeviceRenewCertificate made (some reqId)).isOk = true :=
          fun made reqId => (exitDeviceRenewCertificate_isOk made _).mpr (Or.inr rfl)
        show (match calloc api "decoded_csr", if api.alloc "req_id" then some requestId else none with
          | some decodedCsr, some _ => _
          | _, _ => _ : Checked Made).isOk = true
        split <;> exact hassigned _ _

/-- **A method gets through if and only if its parameters are complete.** -/
theorem Method.run_isOk (requestId : String) (params : Json ν) (m : Method) :
    (m.run api requestId params).isOk = true ↔ m.Complete api params := by
  cases m with
  | renewCertificate => exact renewCertificate_isOk api params
  | asymmetricSign => exact asymmetricSign_isOk api params
  | asymmetricVerify => exact asymmetricVerify_isOk api params
  | ecdhKeyAgreement => exact ecdhKeyAgreement_isOk api params
  | deviceRenewCertificate => exact deviceRenewCertificate_isOk api requestId params
  | setCertificatesList =>
    refine iff_of_true ?_ trivial
    show (Mqtt.setCertificatesList api params).isOk = true
    unfold Mqtt.setCertificatesList
    split
    · rfl
    · split <;> rfl
  | getCertificate =>
    refine iff_of_true ?_ trivial
    show (Mqtt.getCertificate api params).isOk = true
    unfold Mqtt.getCertificate
    split <;> rfl
  | getPublicKey =>
    refine iff_of_true ?_ trivial
    show (Mqtt.getPublicKey api params).isOk = true
    unfold Mqtt.getPublicKey
    split <;> rfl
  | generateRandom =>
    refine iff_of_true ?_ trivial
    show (Mqtt.generateRandom api params).isOk = true
    unfold Mqtt.generateRandom
    show (if sizeMember api params "size" ≠ 0 then _ else _ : Checked Made).isOk = true
    split <;> rfl

end

/-- the comparisons find the method of the name, and start with a null pointer if there is none -/
theorem findMethod_some (name : String) (methods : List (String × Method)) :
    findMethod (some name) methods = .ok ((methods.find? fun m => m.1 = name).map Prod.snd) := by
  induction methods with
  | nil => rfl
  | cons m methods ih =>
    obtain ⟨known, m⟩ := m
    by_cases hname : known = name
    · simp [findMethod, bind, Except.bind, pure, Except.pure, hname]
    · simp only [findMethod, ih]
      simp [bind, Except.bind, hname]

namespace StatusGateway
section
variable {ν : Type} (api : Apis ν)

/-- a status message with a method and a request id names the method with a string, and has the
parameters it needs -/
def StatusComplete (payload : String) : Prop :=
  ∀ json, api.jsonLoads payload = some json → ∀ method, json.get "method" = some method →
    (stringMember json "request_id").isSome →
      ∃ name, method.string? = some name ∧
        ∀ members, json.get "params" = some (.object members) →
          ∀ m, (gwMethods.find? fun m => m.1 = name).map Prod.snd = some m →
            m.Complete api (.object members)

theorem handle_isOk (g : StatusGateway) (requestId : String) (method : Json ν)
    (params : Option (Json ν)) :
    (g.handle api requestId method params).isOk = true ↔
      ∃ name, method.string? = some name ∧
        ∀ members, params = some (.object members) →
          ∀ m, (gwMethods.find? fun m => m.1 = name).map Prod.snd = some m →
            m.Complete api (.object members) := by
  cases hname : method.string? with
  | none =>
    refine iff_of_false ?_ (by rintro ⟨name, hnone, -⟩; cases hnone)
    unfold handle
    rw [hname]
    split <;> exact Bool.false_ne_true
  | some name =>
    simp only [Option.some.injEq, exists_eq_left']
    unfold handle
    rw [hname]
    split
    · rename_i members
      rw [findMethod_some]
      simp only [Option.some.injEq, Json.object.injEq, forall_eq']
      show (match (gwMethods.find? fun m => m.1 = name).map Prod.snd with
        | some m => _ | none => _ : Checked (Status × StatusGateway)).isOk = true ↔ _
      cases (gwMethods.find? fun m => m.1 = name).map Prod.snd with
      | none => exact iff_of_true rfl nofun
      | some m =>
        simp only [Option.some.injEq, forall_eq']
        rw [← Method.run_isOk api requestId]
        exact bind_isOk_of_isOk fun _ => rfl
    · rename_i hobject
      refine iff_of_true ?_ fun members hmembers => absurd hmembers (hobject members)
      rw [strcmp_some]
      cases decide ("start_pt" = name) with
      | false => rfl
      | true => cases hstarted : g.started <;> rfl

/-- **A status message gets through if and only if it is complete.** -/
theorem gwStatusMessage_isOk (g : StatusGateway) (payload : String) :
    (g.mqttptTranslateGwStatusMessage api payload).isOk = true ↔ StatusComplete api payload := by
  unfold mqttptTranslateGwStatusMessage StatusComplete
  cases api.jsonLoads payload with
  | none => exact iff_of_true rfl nofun
  | some json =>
    simp only [Option.some.injEq, forall_eq']
    have hanswer : (g.answer api json >>= fun (status, g) =>
        (return g.respond (stringMember json "request_id") status : Checked StatusGateway)).isOk =
          true ↔ (g.answer api json).isOk = true :=
      bind_isOk_of_isOk fun _ => rfl
    refine hanswer.trans ?_
    unfold answer
    cases json.get "method" with
    | none => exact iff_of_true rfl nofun
    | some method =>
      simp only [Option.some.injEq, forall_eq']
      cases stringMember json "request_id" with
      | none => exact iff_of_true rfl nofun
      | some requestId =>
        exact (handle_isOk api g requestId method (json.get "params")).trans (imp_iff_right rfl).symm

end
end StatusGateway

/-! ## the three handlers -/

/-- **The handlers get through if and only if the messages are complete**: no null pointer reaches a
function that does not take one, and no variable is released that nothing was assigned to. -/
theorem handlers_survive_iff {ν : Type} (api : Apis ν) (created : Bool) (createdWith : Bool → Bool)
    (g : Gateway) (s : StatusGateway) (gweui deveui payload : Option String) (text : String) :
    ((g.mqttptTranslateNodeValueMessage created api.jsonLoads gweui deveui payload).isOk = true ↔
        g.ValuesComplete valueMembers (fun _ => created) api.jsonLoads gweui deveui payload) ∧
      ((g.mqttptTranslateNodeEdgeValueMessage createdWith api.jsonLoads gweui deveui payload).isOk =
          true ↔
        g.ValuesComplete edgeMembers (fun json => createdWith (certRenewalSupport json))
          api.jsonLoads gweui deveui payload) ∧
      ((s.mqttptTranslateGwStatusMessage api text).isOk = true ↔
        StatusGateway.StatusComplete api text) :=
  ⟨g.handleValues_isOk valueMembers _ api.jsonLoads gweui deveui payload,
    g.handleValues_isOk edgeMembers _ api.jsonLoads gweui deveui payload,
    s.gwStatusMessage_isOk api text⟩

/-- every text is read as the document, and nothing else fails -/
def apisFor (json : Json Int) : Apis Int :=
  { jsonLoads _ := some json, integerValue := id, alloc _ := true, base64Decode _ := []
    pt _ := .success }

/-- a request to renew the certificate of a device, without the name of the certificate -/
def renewWithoutName : Json Int :=
  .object [
    ("method", .string "device_renew_certificate"),
    ("request_id", .string "1"),
    ("params", .object [("device_name", .string "76FE48FFFF000003"), ("csr", .string "AAAA")])]

/-- `req_id` is released before anything is assigned to it -/
theorem not_handlers_survive :
    ¬∀ (json : Json Int) (g : Gateway) (s : StatusGateway) (gweui deveui payload : String),
      (g.mqttptTranslateNodeValueMessage true (apisFor json).jsonLoads (some gweui) (some deveui)
          (some payload)).isOk = true ∧
        (g.mqttptTranslateNodeEdgeValueMessage (fun _ => true) (apisFor json).jsonLoads (some gweui)
          (some deveui) (some payload)).isOk = true ∧
        (s.mqttptTranslateGwStatusMessage (apisFor json) payload).isOk = true := by
  intro hall
  have hstatus := (hall renewWithoutName ⟨false, ⟨none, ∅, [], []⟩, [], []⟩ ⟨true, [], []⟩ "" "" "").2.2
  have hfault : StatusGateway.mqttptTranslateGwStatusMessage (apisFor renewWithoutName)
      ⟨true, [], []⟩ "" = .error (.unassigned "req_id") := by
    rfl
  rw [hfault] at hstatus
  cases hstatus

/-- a method that is no string is compared as a null pointer -/
example : StatusGateway.mqttptTranslateGwStatusMessage
    (apisFor (.object [("method", .number 1), ("request_id", .string "1")])) ⟨true, [], []⟩ "" =
      .error (.null .strcmp) := by
  rfl

end EdgeTranslators.Mqtt
