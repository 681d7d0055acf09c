import EdgeTranslators.Lib.Run
import EdgeTranslators.Lib.Settlement
import EdgeTranslators.Lib.Utf8
import EdgeTranslators.Mqtt.CertificateChain
import EdgeTranslators.Mqtt.GwStatus
import Mathlib.Data.List.Count

/-!
# The replies to status messages (`mqttpt-example/mqttpt_example.c`)

A status message is answered at once, and a request that it has made of the PT client once more,
when the PT client calls one of the two handlers that came with the request.  The PT client does so
on its own thread, at any time after the request, be it before the first answer.

* `publishToMqtt`, `constructAndSendSuccess`, `constructAndSendFailure`   the messages;
* `Completion`, `Completion.handle`     the ten handlers, and what each of them does;
* `StatusSystem`, `StatusSystem.step`   the two threads;
* `Accounted`                           what is published, and who waits;
* `replies`                             a request id gets its answer, and its result if it made a
                                        request;
* `userdata_freed_iff`                  when all userdata is freed, once.
-/

namespace EdgeTranslators.Mqtt
open Lib Pt

/-! ## messages -/

/-- a message published on a topic -/
structure Publication (ν : Type) where
  topic : String
  message : Json ν

/-- the allocations of a message that are checked -/
structure MessageAllocs where
  /-- `json_object` -/
  resultJson : Bool
  /-- `json_dumps` -/
  resultString : Bool
  deriving DecidableEq

/-- `json_string` of a C string: null if it is no UTF-8 text -/
def jsonString (text : Bytes) : Option String := textOf text

/-- what `snprintf` leaves of a text in an array of `size` bytes, less the NUL -/
def formatted (size : Nat) (text : String) : Bytes := (cBytes text).take (size - 1)

/-- `%d` -/
def decimal (n : Int32) : String := toString n.toInt

section
variable {ν : Type}

def publishToMqtt (alloc : MessageAllocs) (topic : String) (jsonMessage : Json ν) :
    List (Publication ν) :=
  if alloc.resultString then [⟨topic, jsonMessage⟩] else []

/-- a message with a request id and a text -/
def responseMessage (key : String) (requestId text : Option String) : Json ν :=
  .object (textMember "request_id" requestId ++ textMember key text)

/-- what `construct_and_send_success` and `construct_and_send_failure` do -/
def constructAndSend (key : String) (alloc : MessageAllocs) (requestId text : Option String) :
    List (Publication ν) :=
  if alloc.resultJson then
    publishToMqtt alloc "MQTTPt/RequestResponse" (responseMessage key requestId text)
  else []

def constructAndSendSuccess (alloc : MessageAllocs) (requestId value : Option String) :
    List (Publication ν) :=
  constructAndSend "value" alloc requestId value

def constructAndSendFailure (alloc : MessageAllocs) (requestId error : Option String) :
    List (Publication ν) :=
  constructAndSend "error" alloc requestId error

/-! ## the handlers of the PT client -/

/-- `pt_api_request_userdata_t` -/
structure Userdata where
  requestId : String
  certificate : Option String
  deriving DecidableEq

/-- the allocations of a handler -/
structure CompletionAllocs extends MessageAllocs where
  encodedMsg : Bool
  /-- the certificates of a chain, by the passes of the loop -/
  curCertData : Nat → Bool

/-- what a handler does -/
structure HandlerEffect (ν : Type) where
  published : List (Publication ν)
  /-- the userdata is freed -/
  freed : Bool
  /-- `pt_device_certificate_renew_request_finish`, for a device and with success or an error -/
  finished : List (String × Bool)

/-- the text of a failed renewal; `printf` writes a name that is not there as `(null)` -/
def renewFailureText (certificate : Option String) : String :=
  let name := certificate.getD "(null)"
  s!"Certificate renew failed for certificate '{name}'"

def certificateRenewSuccessHandler (alloc : CompletionAllocs) (userdata : Userdata) : HandlerEffect ν :=
  ⟨constructAndSendSuccess alloc.toMessageAllocs (some userdata.requestId) userdata.certificate,
    true, []⟩

def certificateRenewFailureHandler (alloc : CompletionAllocs) (userdata : Userdata) : HandlerEffect ν :=
  let errorString := formatted 256 (renewFailureText userdata.certificate)
  ⟨constructAndSendFailure alloc.toMessageAllocs (some userdata.requestId) (jsonString errorString),
    true, []⟩

def getItemSuccessHandler (alloc : CompletionAllocs) (userdata : Userdata) (data : Bytes) :
    HandlerEffect ν :=
  if alloc.encodedMsg then
    ⟨constructAndSendSuccess alloc.toMessageAllocs (some userdata.requestId)
      (some (base64Encode data)), true, []⟩
  else ⟨[], false, []⟩

def getItemFailureHandler (alloc : CompletionAllocs) (userdata : Userdata) : HandlerEffect ν :=
  ⟨constructAndSendFailure alloc.toMessageAllocs (some userdata.requestId)
    (some "Getting item failed"), true, []⟩

def cryptoSuccessHandler (alloc : CompletionAllocs) (userdata : Userdata) (data : Option Bytes) :
    HandlerEffect ν :=
  match data with
  | some data => getItemSuccessHandler alloc userdata data
  | none =>
    ⟨constructAndSendSuccess alloc.toMessageAllocs (some userdata.requestId) (some "ok"), true, []⟩

/-- the text fits the array of 12 bytes, see `decimal_length` -/
def cryptoFailureHandler (alloc : CompletionAllocs) (userdata : Userdata) (errorCode : Int32) :
    HandlerEffect ν :=
  ⟨constructAndSendFailure alloc.toMessageAllocs (some userdata.requestId)
    (some (decimal errorCode)), true, []⟩

def certificatesSetSuccessHandler (alloc : CompletionAllocs) (userdata : Userdata) : HandlerEffect ν :=
  ⟨constructAndSendSuccess alloc.toMessageAllocs (some userdata.requestId) (some "ok"), true, []⟩

def certificatesSetFailureHandler (alloc : CompletionAllocs) (userdata : Userdata) : HandlerEffect ν :=
  ⟨constructAndSendFailure alloc.toMessageAllocs (some userdata.requestId)
    (some "Could not set certificate list!"), true, []⟩

def deviceCertificateRenewSuccessHandler (alloc : CompletionAllocs) (userdata : Userdata)
    (deviceId name : String) (certChain : Option CertChainContext) : HandlerEffect ν :=
  let notification := constructAndSendDeviceCertificateRenewalNotification
    ⟨alloc.resultJson, alloc.curCertData⟩ (some userdata.requestId) (some name) certChain
  ⟨notification.toList.flatMap fun n => publishToMqtt alloc.toMessageAllocs n.1 n.2, true,
    [(deviceId, true)]⟩

def deviceCertificateRenewFailureHandler (alloc : CompletionAllocs) (userdata : Userdata)
    (deviceId : String) (status : Int32) : HandlerEffect ν :=
  let error := formatted 64 s!"Device certificate renew failed (error {decimal status})"
  ⟨constructAndSendFailure alloc.toMessageAllocs (some userdata.requestId) (jsonString error), true,
    [(deviceId, false)]⟩

end

/-- a call of one of the handlers, with what the PT client passes to it -/
inductive Completion where
  | certificateRenewSuccess
  | certificateRenewFailure
  | getItemSuccess (data : Bytes)
  | getItemFailure
  | cryptoSuccess (data : Option Bytes)
  | cryptoFailure (errorCode : Int32)
  | certificatesSetSuccess
  | certificatesSetFailure
  | deviceCertificateRenewSuccess (deviceId name : String) (certChain : Option CertChainContext)
  | deviceCertificateRenewFailure (deviceId : String) (status : Int32)

def Completion.handle {ν : Type} (alloc : CompletionAllocs) (userdata : Userdata) :
    Completion → HandlerEffect ν
  | certificateRenewSuccess => certificateRenewSuccessHandler alloc userdata
  | certificateRenewFailure => certificateRenewFailureHandler alloc userdata
  | getItemSuccess data => getItemSuccessHandler alloc userdata data
  | getItemFailure => getItemFailureHandler alloc userdata
  | cryptoSuccess data => cryptoSuccessHandler alloc userdata data
  | cryptoFailure errorCode => cryptoFailureHandler alloc userdata errorCode
  | certificatesSetSuccess => certificatesSetSuccessHandler alloc userdata
  | certificatesSetFailure => certificatesSetFailureHandler alloc userdata
  | deviceCertificateRenewSuccess deviceId name certChain =>
    deviceCertificateRenewSuccessHandler alloc userdata deviceId name certChain
  | deviceCertificateRenewFailure deviceId status =>
    deviceCertificateRenewFailureHandler alloc userdata deviceId status

namespace PtRequest

/-- the certificate that the userdata of the request names -/
def certificate : PtRequest → Option String
  | certificateRenew certificate => some certificate
  | _ => none

/-- the PT client was given the handler with the request, and calls it for the device it was asked
for -/
def takes : PtRequest → Completion → Bool
  | certificateRenew _, .certificateRenewSuccess | certificateRenew _, .certificateRenewFailure =>
    true
  | certificateRenewalListSet _, .certificatesSetSuccess
  | certificateRenewalListSet _, .certificatesSetFailure => true
  | cryptoGetCertificate _, .getItemSuccess _ | cryptoGetCertificate _, .getItemFailure => true
  | cryptoGetPublicKey _, .getItemSuccess _ | cryptoGetPublicKey _, .getItemFailure => true
  | cryptoGenerateRandom _, .cryptoSuccess _ | cryptoGenerateRandom _, .cryptoFailure _ => true
  | cryptoAsymmetricSign _ _, .cryptoSuccess _ | cryptoAsymmetricSign _ _, .cryptoFailure _ => true
  | cryptoAsymmetricVerify _ _ _, .cryptoSuccess _
  | cryptoAsymmetricVerify _ _ _, .cryptoFailure _ => true
  | cryptoEcdhKeyAgreement _ _, .cryptoSuccess _ | cryptoEcdhKeyAgreement _ _, .cryptoFailure _ =>
    true
  | deviceCertificateRenew device _ _, .deviceCertificateRenewSuccess deviceId _ _
  | deviceCertificateRenew device _ _, .deviceCertificateRenewFailure deviceId _ =>
    deviceId = device
  | _, _ => false

end PtRequest

/-! ## the two threads -/

/-- a request that the PT client has taken, by the request id in its userdata -/
structure Underway where
  requestId : String
  request : PtRequest
  deriving DecidableEq

def Underway.userdata (u : Underway) : Userdata := ⟨u.requestId, u.request.certificate⟩

structure StatusSystem (ν : Type) where
  gateway : StatusGateway
  /-- the answer of the message that is handled, before it is published -/
  answering : Option (Option String × Status)
  requests : Settlement Underway Completion
  published : List (Publication ν)
  /-- the userdata that the handlers have freed, and those that one has not freed -/
  freed : List Userdata
  leaked : List Userdata
  finished : List (String × Bool)

inductive StatusEvent (ν : Type) where
  /-- `mqttpt_translate_gw_status_message` up to its answer -/
  | message (api : Apis ν) (payload : String)
  /-- the answer of the message -/
  | respond (alloc : MessageAllocs)
  /-- the PT client calls a handler of the `i`-th request that waits -/
  | complete (i : Nat) (completion : Completion) (alloc : CompletionAllocs)

/-- the answer of a message, with the number of its status -/
def sendAnswer {ν : Type} (code : Status → Int32) (alloc : MessageAllocs)
    (requestId : Option String) (status : Status) : List (Publication ν) :=
  if status = .success then constructAndSendSuccess alloc requestId (some "handled")
  else constructAndSendFailure alloc requestId (some (decimal (code status)))

namespace StatusSystem
variable {ν : Type}

def start (started : Bool) : StatusSystem ν := ⟨⟨started, [], []⟩, none, .new, [], [], [], []⟩

/-- what the PT client has taken of the requests a message has made -/
def taken (status : Status) (asked : List (String × PtRequest)) : List Underway :=
  if status = .success then asked.map fun a => ⟨a.1, a.2⟩ else []

def step (code : Status → Int32) (s : StatusSystem ν) : StatusEvent ν → Option (StatusSystem ν)
  | .message api payload =>
    -- the messages are handled one after the other
    if s.answering.isSome then none
    else
      match api.jsonLoads payload with
      | none => some s
      | some json =>
        match s.gateway.answer api json with
        -- the handler passes a null pointer on
        | .error _ => none
        | .ok (status, g) =>
          some { s with
            gateway := g
            answering := some (stringMember json "request_id", status)
            requests := s.requests.hand (taken status (g.asked.drop s.gateway.asked.length)) }
  | .respond alloc =>
    match s.answering with
    | none => none
    | some (requestId, status) =>
      some { s with
        gateway := s.gateway.respond requestId status
        answering := none
        published := s.published ++ sendAnswer code alloc requestId status }
  | .complete i completion alloc =>
    match s.requests.waiting[i]? with
    | none => none
    | some u =>
      if u.request.takes completion then
        let handled := completion.handle alloc u.userdata
        some { s with
          requests := s.requests.settle i u completion
          published := s.published ++ handled.published
          freed := s.freed ++ if handled.freed then [u.userdata] else []
          leaked := s.leaked ++ if handled.freed then [] else [u.userdata]
          finished := s.finished ++ handled.finished }
      else none

end StatusSystem

/-! ## the texts -/

theorem decimal_length (n : Int32) : (cBytes (decimal n)).length < 12 := by
  have hlow := n.le_toInt
  have hhigh := n.toInt_lt
  have hdigits : n.toInt.natAbs < 10 ^ 10 := by omega
  exact Nat.lt_succ_of_le (length_decimal_le (by decide) hdigits)

theorem cBytes_append_length (a b : String) :
    (cBytes (a ++ b)).length = (cBytes a).length + (cBytes b).length := by
  unfold cBytes
  rw [toList_eq, toList_eq, toList_eq]
  exact String.utf8ByteSize_append

theorem jsonString_formatted {size : Nat} {text : String} (h : (cBytes text).length < size) :
    jsonString (formatted size text) = some text := by
  unfold formatted jsonString
  rw [List.take_of_length_le (Nat.le_sub_one_of_lt h)]
  exact textOf_toUTF8 text

/-- the text of a failed renewal fits the array of 64 bytes -/
theorem renewFailure_formatted (status : Int32) :
    jsonString (formatted 64 s!"Device certificate renew failed (error {decimal status})") =
      some s!"Device certificate renew failed (error {decimal status})" := by
  apply jsonString_formatted
  have hdecimal := decimal_length status
  have hbefore : (cBytes "Device certificate renew failed (error ").length = 39 := by decide +kernel
  have hafter : (cBytes ")").length = 1 := by decide +kernel
  show (cBytes ("Device certificate renew failed (error " ++ decimal status ++ ")")).length < 64
  rw [cBytes_append_length, cBytes_append_length]
  omega

/-! ## what a handler sends -/

/-- no allocation of the handler fails -/
structure CompletionAllocs.Succeed (alloc : CompletionAllocs) : Prop where
  resultJson : alloc.resultJson = true
  resultString : alloc.resultString = true
  encodedMsg : alloc.encodedMsg = true
  curCertData : ∀ i, alloc.curCertData i = true

section
variable {ν : Type}

def Publication.requestId (p : Publication ν) : Option String :=
  (p.message.get "request_id").bind Json.string?

/-- a message on `MQTTPt/RequestResponse` -/
def Publication.response (key requestId : String) (text : Option String) : Publication ν :=
  ⟨"MQTTPt/RequestResponse", responseMessage key (some requestId) text⟩

/-- the message of a handler for a request, when nothing fails -/
def Completion.reply (u : Underway) : Completion → Publication ν
  | certificateRenewSuccess => .response "value" u.requestId u.request.certificate
  | certificateRenewFailure =>
    .response "error" u.requestId (jsonString (formatted 256
      (renewFailureText u.request.certificate)))
  | getItemSuccess data => .response "value" u.requestId (some (base64Encode data))
  | getItemFailure => .response "error" u.requestId (some "Getting item failed")
  | cryptoSuccess data =>
    .response "value" u.requestId (some (data.elim "ok" base64Encode))
  | cryptoFailure errorCode => .response "error" u.requestId (some (decimal errorCode))
  | certificatesSetSuccess => .response "value" u.requestId (some "ok")
  | certificatesSetFailure =>
    .response "error" u.requestId (some "Could not set certificate list!")
  | deviceCertificateRenewSuccess _ name certChain =>
    let certs := certChain.elim [] fun chain =>
      (appendCerts (fun _ => true) chain.certs chain.chainLength 0 []).2
    ⟨"MQTTPt/DeviceCertificateRenewal", .object (textMember "request_id" (some u.requestId)
      ++ textMember "certificate_name" (some name) ++ [("certificate_chain", .array certs)])⟩
  | deviceCertificateRenewFailure _ status =>
    .response "error" u.requestId
      (some s!"Device certificate renew failed (error {decimal status})")

/-- the data that a handler is passed -/
def Completion.data? : Completion → Option Bytes
  | getItemSuccess data => some data
  | cryptoSuccess data => data
  | _ => none

theorem constructAndSend_succeed {alloc : MessageAllocs} (hjson : alloc.resultJson = true)
    (hstring : alloc.resultString = true) (key requestId : String) (text : Option String) :
    constructAndSend key alloc (some requestId) text =
      [(Publication.response key requestId text : Publication ν)] := by
  unfold constructAndSend publishToMqtt
  rw [if_pos hjson, if_pos hstring]
  rfl

theorem appendCerts_succeed {alloc : Nat → Bool} (halloc : ∀ i, alloc i = true)
    (certs : List Bytes) (n : Nat) :
    appendCerts alloc certs n 0 ([] : List (Json ν)) =
      (true, (appendCerts (fun _ => true) certs n 0 []).2) := by
  cases certs with
  | nil => cases n <;> rfl
  | cons cert rest => rw [appendCerts_eq halloc, appendCerts_eq fun _ => rfl]

theorem chain_succeed {alloc : CompletionAllocs} (h : alloc.Succeed) (userdata : Userdata)
    (deviceId name : String) (certChain : Option CertChainContext) :
    (deviceCertificateRenewSuccessHandler alloc userdata deviceId name certChain :
        HandlerEffect ν).published =
      [⟨"MQTTPt/DeviceCertificateRenewal", .object (textMember "request_id" (some userdata.requestId)
        ++ textMember "certificate_name" (some name) ++ [("certificate_chain", .array
          (certChain.elim [] fun chain =>
            (appendCerts (fun _ => true) chain.certs chain.chainLength 0 []).2))])⟩] := by
  unfold deviceCertificateRenewSuccessHandler
    constructAndSendDeviceCertificateRenewalNotification publishToMqtt
  rw [h.resultJson, h.resultString]
  cases certChain with
  | none => rfl
  | some chain =>
    simp only [appendCerts_succeed h.curCertData]
    rfl

/-- **A handler whose allocations succeed sends one message, and frees its userdata.** -/
theorem Completion.handle_succeed {alloc : CompletionAllocs} (h : alloc.Succeed) (u : Underway)
    (completion : Completion) :
    (completion.handle alloc u.userdata : HandlerEffect ν).published = [completion.reply u] ∧
      (completion.handle alloc u.userdata : HandlerEffect ν).freed = true := by
  have hsend : ∀ key text, constructAndSend key alloc.toMessageAllocs (some u.requestId) text =
      [(Publication.response key u.requestId text : Publication ν)] :=
    fun key text => constructAndSend_succeed h.resultJson h.resultString key u.requestId text
  have hitem : ∀ data, (getItemSuccessHandler alloc u.userdata data : HandlerEffect ν) =
      ⟨[.response "value" u.requestId (some (base64Encode data))], true, []⟩ := by
    intro data
    unfold getItemSuccessHandler
    rw [if_pos h.encodedMsg]
    exact congrArg (HandlerEffect.mk · true []) (hsend _ _)
  cases completion with
  | getItemSuccess data =>
    show (getItemSuccessHandler alloc u.userdata data).published = _ ∧ _
    rw [hitem]
    exact ⟨rfl, congrArg HandlerEffect.freed (hitem data)⟩
  | cryptoSuccess data =>
    cases data with
    | none => exact ⟨hsend _ _, rfl⟩
    | some data =>
      show (getItemSuccessHandler alloc u.userdata data).published = _ ∧ _
      rw [hitem]
      exact ⟨rfl, congrArg HandlerEffect.freed (hitem data)⟩
  | deviceCertificateRenewSuccess deviceId name certChain =>
    exact ⟨chain_succeed h u.userdata deviceId name certChain, rfl⟩
  | deviceCertificateRenewFailure deviceId status =>
    refine ⟨(hsend _ _).trans ?_, rfl⟩
    rw [renewFailure_formatted]
    rfl
  | certificateRenewSuccess | certificateRenewFailure | getItemFailure | cryptoFailure
  | certificatesSetSuccess | certificatesSetFailure => exact ⟨hsend _ _, rfl⟩

theorem reply_requestId (u : Underway) (completion : Completion) :
    (completion.reply u : Publication ν).requestId = some u.requestId := by
  cases completion <;> rfl

end

/-! ## the messages and the requests -/

namespace Response

def requestId : Response → Option String
  | success requestId _ => requestId
  | failure requestId _ => requestId

/-- the request id of a message that was handled -/
def handledId : Response → Option String
  | success requestId _ => requestId
  | failure _ _ => none

/-- the message of the response -/
def publication {ν : Type} (code : Status → Int32) : Response → Publication ν
  | success requestId value =>
    ⟨"MQTTPt/RequestResponse", responseMessage "value" requestId (some value)⟩
  | failure requestId status =>
    ⟨"MQTTPt/RequestResponse", responseMessage "error" requestId (some (decimal (code status)))⟩

end Response

namespace StatusGateway
section
variable {ν : Type} {api : Apis ν} {g g' : StatusGateway} {status : Status}

/-- the response to a message -/
def responseOf (requestId : Option String) (status : Status) : Response :=
  if status = .success then .success requestId "handled" else .failure requestId status

/-- a message with a method and a request id adds no response, and what it asks for has its id -/
theorem handle_effect {requestId : String} {method : Json ν} {params : Option (Json ν)}
    (h : g.handle api requestId method params = .ok (status, g')) :
    g'.responses = g.responses ∧ ∃ asked : Option PtRequest,
      g'.asked = g.asked ++ asked.toList.map fun a => (requestId, a) := by
  unfold handle at h
  split at h
  · rename_i members
    cases hname : findMethod method.string? gwMethods with
    | error e =>
      rw [hname] at h
      cases h
    | ok found =>
      rw [hname] at h
      cases found with
      | none =>
        cases h
        exact ⟨rfl, none, (List.append_nil _).symm⟩
      | some m =>
        cases hmade : m.run api requestId (.object members) with
        | error e =>
          change (m.run api requestId (.object members) >>= _ :
            Checked (Status × StatusGateway)) = _ at h
          rw [hmade] at h
          cases h
        | ok made =>
          change (m.run api requestId (.object members) >>= _ :
            Checked (Status × StatusGateway)) = _ at h
          rw [hmade] at h
          cases h
          exact ⟨rfl, made.2, rfl⟩
  · cases hstart : strcmp "start_pt" method.string? with
    | error e =>
      rw [hstart] at h
      cases h
    | ok isStart =>
      rw [hstart] at h
      cases isStart with
      | false =>
        cases h
        exact ⟨rfl, none, (List.append_nil _).symm⟩
      | true =>
        change (if !g.started then _ else _ : Checked (Status × StatusGateway)) = _ at h
        split at h
        · cases h
          exact ⟨rfl, none, (List.append_nil _).symm⟩
        · cases h
          exact ⟨rfl, none, (List.append_nil _).symm⟩

theorem answer_effect {json : Json ν} (h : g.answer api json = .ok (status, g')) :
    g'.responses = g.responses ∧ ∃ asked : List (String × PtRequest),
      g'.asked = g.asked ++ asked ∧
        (asked.map Prod.fst).Sublist (stringMember json "request_id").toList := by
  unfold answer at h
  split at h
  · rename_i requestId _ hid
    obtain ⟨hresponses, asked, hasked⟩ := handle_effect h
    refine ⟨hresponses, _, hasked, ?_⟩
    rw [hid]
    cases asked with
    | none => exact List.nil_sublist _
    | some a => exact List.Sublist.refl _
  · cases h
    exact ⟨rfl, [], (List.append_nil _).symm, List.nil_sublist _⟩

end
end StatusGateway

/-! ## runs -/

/-- no allocation of the event fails -/
def StatusEvent.Succeeds {ν : Type} : StatusEvent ν → Prop
  | .message _ _ => True
  | .respond alloc => alloc.resultJson = true ∧ alloc.resultString = true
  | .complete _ _ alloc => alloc.Succeed

namespace StatusSystem
variable {ν : Type} {code : Status → Int32} {s s' : StatusSystem ν} {e : StatusEvent ν}

/-- the request id of the message that is handled, when it is going to be answered with success -/
def answeringId (answering : Option (Option String × Status)) : Option String :=
  answering.bind fun a => if a.2 = .success then a.1 else none

theorem taken_ids {status : Status} {requestId : Option String}
    {asked : List (String × PtRequest)} (h : (asked.map Prod.fst).Sublist requestId.toList) :
    ((taken status asked).map Underway.requestId).Sublist
      (answeringId (some (requestId, status))).toList := by
  unfold taken answeringId
  split
  · rename_i hsuccess
    rw [List.map_map, Option.bind_some, if_pos hsuccess]
    exact h
  · exact List.nil_sublist _

theorem mem_taken {status : Status} {asked : List (String × PtRequest)} {u : Underway}
    (h : u ∈ taken status asked) : (u.requestId, u.request) ∈ asked := by
  unfold taken at h
  split at h
  · obtain ⟨a, ha, rfl⟩ := List.mem_map.mp h
    exact ha
  · cases h

/-- what is published answers a message or a request, every request that was taken waits or has been
answered, and its message is answered with success -/
structure Accounted (code : Status → Int32) (s : StatusSystem ν) : Prop where
  balanced : s.requests.Balanced
  published : s.published.Perm (s.gateway.responses.map (Response.publication code) ++
    s.requests.settled.map fun p => p.2.reply p.1)
  takes : ∀ p ∈ s.requests.settled, p.1.request.takes p.2 = true
  asked : ∀ u ∈ s.requests.handed, (u.requestId, u.request) ∈ s.gateway.asked
  handled : (s.requests.handed.map Underway.requestId).Sublist
    (s.gateway.responses.filterMap Response.handledId ++ (answeringId s.answering).toList)
  value : ∀ requestId value, Response.success requestId value ∈ s.gateway.responses →
    value = "handled"

theorem accounted_start (started : Bool) : (start started : StatusSystem ν).Accounted code := by
  refine ⟨Settlement.balanced_new, .refl _, ?_, ?_, List.nil_sublist _, ?_⟩
  · intro p hp
    cases hp
  · intro u hu
    cases hu
  · intro requestId value hmem
    cases hmem

theorem Accounted.message (h : s.Accounted code) {api : Apis ν} {payload : String}
    (hstep : s.step code (.message api payload) = some s') : s'.Accounted code := by
  dsimp only [step] at hstep
  split at hstep
  · cases hstep
  · rename_i hidle
    have hidle : s.answering = none := by simpa using hidle
    split at hstep
    · cases hstep
      exact h
    · rename_i json _
      split at hstep
      · cases hstep
      · rename_i status g hanswer
        cases hstep
        obtain ⟨hresponses, asked, hasked, hids⟩ := StatusGateway.answer_effect hanswer
        have hdrop : g.asked.drop s.gateway.asked.length = asked := by
          rw [hasked]
          exact List.drop_left
        have hhandled := h.handled
        rw [hidle] at hhandled
        refine ⟨h.balanced.hand _, ?_, h.takes, ?_, ?_, ?_⟩
        · show s.published.Perm (g.responses.map _ ++ _)
          rw [hresponses]
          exact h.published
        · intro u hu
          show _ ∈ g.asked
          rw [hasked]
          rcases List.mem_append.mp hu with hu | hu
          · exact List.mem_append_left _ (h.asked u hu)
          · rw [hdrop] at hu
            exact List.mem_append_right _ (mem_taken hu)
        · show ((s.requests.handed ++ _).map Underway.requestId).Sublist
            (g.responses.filterMap Response.handledId ++ _)
          rw [hdrop, hresponses, List.map_append]
          refine List.Sublist.append ?_ (taken_ids hids)
          exact hhandled.trans (List.append_nil _ ▸ List.Sublist.refl _)
        · intro requestId value hmem
          rw [hresponses] at hmem
          exact h.value requestId value hmem

theorem sendAnswer_succeed {alloc : MessageAllocs} (hjson : alloc.resultJson = true)
    (hstring : alloc.resultString = true) (requestId : Option String) (status : Status) :
    sendAnswer code alloc requestId status =
      [((StatusGateway.responseOf requestId status).publication code : Publication ν)] := by
  unfold sendAnswer StatusGateway.responseOf constructAndSendSuccess constructAndSendFailure
    constructAndSend publishToMqtt
  rw [hjson, hstring]
  split <;> rfl

theorem responseOf_handledId (requestId : Option String) (status : Status) :
    (StatusGateway.responseOf requestId status).handledId =
      answeringId (some (requestId, status)) := by
  unfold StatusGateway.responseOf answeringId
  rw [Option.bind_some]
  split <;> rfl

theorem Accounted.respond (h : s.Accounted code) {alloc : MessageAllocs}
    (halloc : (StatusEvent.respond alloc : StatusEvent ν).Succeeds)
    (hstep : s.step code (.respond alloc) = some s') : s'.Accounted code := by
  dsimp only [step] at hstep
  split at hstep
  · cases hstep
  · rename_i requestId status hanswering
    cases hstep
    have hhandled := h.handled
    rw [hanswering] at hhandled
    refine ⟨h.balanced, ?_, h.takes, h.asked, ?_, ?_⟩
    · show (s.published ++ _).Perm ((s.gateway.responses ++ [_]).map _ ++ _)
      rw [sendAnswer_succeed halloc.1 halloc.2, List.map_append, List.append_assoc]
      refine (h.published.append_right _).trans ?_
      rw [List.append_assoc]
      exact (List.perm_append_comm).append_left _
    · show (s.requests.handed.map Underway.requestId).Sublist
        ((s.gateway.responses ++ [StatusGateway.responseOf requestId status]).filterMap
          Response.handledId ++ [])
      rw [List.filterMap_append, List.append_nil, List.filterMap_cons, responseOf_handledId]
      cases hid : answeringId (some (requestId, status)) with
      | none =>
        rw [hid] at hhandled
        exact hhandled
      | some id =>
        rw [hid] at hhandled
        exact hhandled
    · intro id value hmem
      rcases List.mem_append.mp hmem with hmem | hmem
      · exact h.value id value hmem
      · have heq := List.mem_singleton.mp hmem
        split at heq
        · cases heq
          rfl
        · cases heq

theorem Accounted.complete (h : s.Accounted code) {i : Nat} {completion : Completion}
    {alloc : CompletionAllocs} (halloc : alloc.Succeed)
    (hstep : s.step code (.complete i completion alloc) = some s') : s'.Accounted code := by
  dsimp only [step] at hstep
  split at hstep
  · cases hstep
  · rename_i u hi
    split at hstep
    · rename_i htakes
      cases hstep
      refine ⟨h.balanced.settle hi completion, ?_, ?_, h.asked, h.handled, h.value⟩
      · show (s.published ++ _).Perm (_ ++ (s.requests.settled ++ [(u, completion)]).map _)
        rw [(completion.handle_succeed halloc u).1, List.map_append, ← List.append_assoc]
        exact h.published.append_right _
      · intro p hp
        rcases List.mem_append.mp hp with hp | hp
        · exact h.takes p hp
        · rw [List.mem_singleton.mp hp]
          exact htakes
    · cases hstep

theorem Accounted.step (h : s.Accounted code) (hok : e.Succeeds) (hstep : s.step code e = some s') :
    s'.Accounted code := by
  cases e with
  | message api payload => exact h.message hstep
  | respond alloc => exact h.respond hok hstep
  | complete i completion alloc => exact h.complete hok hstep

/-- the request ids of the messages that come in, as far as they can be parsed -/
def messageIds (es : List (StatusEvent ν)) : List (Option String) :=
  es.filterMap fun e =>
    match e with
    | .message api payload =>
      (api.jsonLoads payload).map fun json => stringMember json "request_id"
    | .respond _ | .complete _ _ _ => none

/-- the request ids of the responses, and of the message that is handled -/
def answeredIds (s : StatusSystem ν) : List (Option String) :=
  s.gateway.responses.map Response.requestId ++ s.answering.toList.map Prod.fst

theorem answeredIds_step (hstep : s.step code e = some s') :
    s'.answeredIds = s.answeredIds ++ messageIds [e] := by
  cases e with
  | message api payload =>
    dsimp only [step] at hstep
    split at hstep
    · cases hstep
    · rename_i hidle
      have hidle : s.answering = none := by simpa using hidle
      split at hstep
      · rename_i hjson
        cases hstep
        simp [messageIds, hjson]
      · rename_i json hjson
        split at hstep
        · cases hstep
        · rename_i status g hanswer
          cases hstep
          have hresponses := (StatusGateway.answer_effect hanswer).1
          simp [answeredIds, messageIds, hidle, hjson, hresponses]
  | respond alloc =>
    dsimp only [step] at hstep
    split at hstep
    · cases hstep
    · rename_i requestId status hanswering
      cases hstep
      have hid : (StatusGateway.responseOf requestId status).requestId = requestId := by
        unfold StatusGateway.responseOf
        split <;> rfl
      show (s.gateway.responses ++ [StatusGateway.responseOf requestId status]).map
        Response.requestId ++ [] = _
      rw [List.map_append, List.map_singleton, hid]
      simp [answeredIds, messageIds, hanswering]
  | complete i completion alloc =>
    dsimp only [step] at hstep
    split at hstep
    · cases hstep
    · split at hstep
      · cases hstep
        exact (List.append_nil _).symm
      · cases hstep

/-- each message that comes in has its response, in their order -/
theorem answeredIds_run {es : List (StatusEvent ν)} {s₀ : StatusSystem ν}
    (h : run (step code) s₀ es = some s) : s.answeredIds = s₀.answeredIds ++ messageIds es := by
  induction es generalizing s₀ with
  | nil =>
    cases h
    exact (List.append_nil _).symm
  | cons e es ih =>
    rw [run_cons, Option.bind_eq_some_iff] at h
    obtain ⟨t, ht, hes⟩ := h
    have hmessages : messageIds (e :: es) = messageIds [e] ++ messageIds es :=
      List.filterMap_append (l := [e])
    rw [ih hes, answeredIds_step ht, hmessages, List.append_assoc]

/-- `response` is the only response with the request id `r`.  If the PT client took a request with
this id, it took one, called one handler for it, and the response and the message of that handler
are published; else the response alone is. -/
def Answered (code : Status → Int32) (s : StatusSystem ν) (response : Response) (r : String) :
    Prop :=
  (s.gateway.responses.filter fun x => x.requestId = some r) = [response] ∧
    ((∃ (u : Underway) (completion : Completion),
        (s.requests.handed.filter fun u => u.requestId = r) = [u] ∧
        (s.requests.settled.filter fun p => p.1.requestId = r) = [(u, completion)] ∧
        (r, u.request) ∈ s.gateway.asked ∧ u.request.takes completion = true ∧
        response = .success (some r) "handled" ∧
        (s.published.filter fun p => p.requestId = some r).Perm
          [response.publication code, completion.reply u]) ∨
      (∀ u ∈ s.requests.handed, u.requestId ≠ r) ∧
        (s.published.filter fun p => p.requestId = some r) = [response.publication code])

theorem publication_requestId (response : Response) :
    (response.publication code : Publication ν).requestId = response.requestId := by
  cases response with
  | success requestId value => cases requestId <;> rfl
  | failure requestId status => cases requestId <;> rfl

theorem handledId_eq {response : Response} {r : String} (h : response.handledId = some r) :
    response.requestId = some r ∧ ∃ value, response = .success (some r) value := by
  cases response with
  | success requestId value =>
    cases h
    exact ⟨rfl, value, rfl⟩
  | failure requestId status => cases h

/-- the messages with a request id are the answers and the results with it -/
theorem Accounted.filter_published (h : s.Accounted code) (r : String) :
    (s.published.filter fun p => p.requestId = some r).Perm
      ((s.gateway.responses.filter fun x => x.requestId = some r).map (Response.publication code) ++
        (s.requests.settled.filter fun p => p.1.requestId = r).map fun p => p.2.reply p.1) := by
  refine (h.published.filter _).trans ?_
  rw [List.filter_append, List.filter_map, List.filter_map]
  have hresponse : (fun p : Publication ν => decide (p.requestId = some r)) ∘
      Response.publication code = fun x => decide (x.requestId = some r) := by
    funext x
    show decide ((x.publication code : Publication ν).requestId = some r) = _
    rw [publication_requestId]
  have hresult : (fun p : Publication ν => decide (p.requestId = some r)) ∘
      (fun p : Underway × Completion => p.2.reply p.1) =
        fun p => decide (p.1.requestId = r) := by
    funext p
    show decide ((p.2.reply p.1 : Publication ν).requestId = some r) = _
    rw [reply_requestId]
    exact decide_eq_decide.mpr (Option.some_inj)
  rw [hresponse, hresult]

/-- the responses to messages that were handled are among the responses -/
theorem handledIds_sublist (l : List Response) :
    ((l.filterMap Response.handledId).map some).Sublist (l.map Response.requestId) := by
  induction l with
  | nil => exact List.Sublist.refl _
  | cons x l ih =>
    cases x with
    | success requestId value =>
      cases requestId with
      | none => exact ih.cons none
      | some id => exact ih.cons_cons (some id)
    | failure requestId status => exact ih.cons requestId

/-- the PT client answers before the message is answered -/
def overtaking : List (StatusEvent Int) :=
  [ .message (apisFor (.object [("method", .string "get_certificate"), ("request_id", .string "7"),
      ("params", .object [("certificate", .string "LWM2M")])])) "",
    .complete 0 (.getItemSuccess [0x30, 0x82]) ⟨⟨true, true⟩, true, fun _ => true⟩,
    .respond ⟨true, true⟩ ]

/-- a handler that is passed data has memory for its text -/
def Encodes : StatusEvent ν → Prop
  | .complete _ completion alloc => completion.data?.isSome → alloc.encodedMsg = true
  | .message _ _ | .respond _ => True

theorem handle_freed (alloc : CompletionAllocs) (userdata : Userdata) (completion : Completion) :
    (completion.handle alloc userdata : HandlerEffect ν).freed = true ↔
      (completion.data?.isSome → alloc.encodedMsg = true) := by
  have hitem : ∀ data, (getItemSuccessHandler alloc userdata data : HandlerEffect ν).freed =
      alloc.encodedMsg := by
    intro data
    unfold getItemSuccessHandler
    cases alloc.encodedMsg <;> rfl
  cases completion with
  | getItemSuccess data =>
    rw [← hitem data]
    exact (imp_iff_right rfl).symm
  | cryptoSuccess data =>
    cases data with
    | none => exact iff_of_true rfl fun h => by cases h
    | some data =>
      rw [← hitem data]
      exact (imp_iff_right rfl).symm
  | _ => exact iff_of_true rfl fun h => by cases h

/-- what a step does to the requests and their userdata -/
theorem step_userdata (hstep : s.step code e = some s') :
    ∃ (ended : List (Underway × Completion)) (freed leaked : List Userdata),
      s'.requests.settled = s.requests.settled ++ ended ∧ s'.freed = s.freed ++ freed ∧
        s'.leaked = s.leaked ++ leaked ∧ (ended.map fun p => p.1.userdata) = freed ++ leaked ∧
          (leaked = [] ↔ Encodes e) ∧ (s.requests.Balanced → s'.requests.Balanced) := by
  have hnothing : ∀ l : List Userdata, l = l ++ [] := fun l => (List.append_nil l).symm
  cases e with
  | message api payload =>
    refine ⟨[], [], [], ?_⟩
    dsimp only [step] at hstep
    split at hstep
    · cases hstep
    · split at hstep
      · cases hstep
        exact ⟨(List.append_nil _).symm, hnothing _, hnothing _, rfl, iff_of_true rfl trivial, id⟩
      · split at hstep
        · cases hstep
        · cases hstep
          exact ⟨(List.append_nil _).symm, hnothing _, hnothing _, rfl, iff_of_true rfl trivial,
            fun h => h.hand _⟩
  | respond alloc =>
    refine ⟨[], [], [], ?_⟩
    dsimp only [step] at hstep
    split at hstep
    · cases hstep
    · cases hstep
      exact ⟨(List.append_nil _).symm, hnothing _, hnothing _, rfl, iff_of_true rfl trivial, id⟩
  | complete i completion alloc =>
    dsimp only [step] at hstep
    split at hstep
    · cases hstep
    · rename_i u hi
      split at hstep
      · cases hstep
        refine ⟨[(u, completion)], _, _, rfl, rfl, rfl, ?_, ?_, fun h => h.settle hi completion⟩
        · cases (completion.handle alloc u.userdata : HandlerEffect ν).freed <;> rfl
        · refine Iff.trans ?_ (handle_freed (ν := ν) alloc u.userdata completion)
          cases (completion.handle alloc u.userdata : HandlerEffect ν).freed with
          | true => exact iff_of_true rfl rfl
          | false => exact iff_of_false (List.cons_ne_nil _ _) Bool.false_ne_true
      · cases hstep

/-- the userdata of the requests is held by the PT client, freed, or leaked -/
def Kept (s : StatusSystem ν) : Prop :=
  s.requests.Balanced ∧
    (s.requests.settled.map fun p => p.1.userdata).Perm (s.freed ++ s.leaked)

theorem Kept.step (h : s.Kept) (hstep : s.step code e = some s') : s'.Kept := by
  obtain ⟨hbalanced, hperm⟩ := h
  obtain ⟨ended, freed, leaked, hsettled, hfreed, hleaked, hended, -, hkeeps⟩ := step_userdata hstep
  refine ⟨hkeeps hbalanced, ?_⟩
  rw [hsettled, hfreed, hleaked, List.map_append, hended]
  refine (hperm.append_right _).trans ?_
  rw [List.append_assoc, List.append_assoc]
  refine List.Perm.append_left _ ?_
  rw [← List.append_assoc, ← List.append_assoc]
  exact List.perm_append_comm.append_right _

/-- **When no request waits, the userdata of every request has been freed, once, exactly if every
handler that was passed data had memory for its text.** -/
theorem userdata_freed_iff {started : Bool} {es : List (StatusEvent ν)}
    (h : run (step code) (start started) es = some s) (hnone : s.requests.waiting = []) :
    (s.requests.handed.map Underway.userdata).Perm s.freed ↔
      ∀ e ∈ es, Encodes e := by
  have hrun := Run.of_run h
  have hkept : s.Kept := hrun.invariant ⟨Settlement.balanced_new, .refl _⟩
    fun _ _ _ hkept _ hstep => hkept.step hstep
  have hhanded : (s.requests.handed.map Underway.userdata).Perm (s.freed ++ s.leaked) := by
    have hperm := hkept.1.map Underway.userdata
    rw [hnone, List.append_nil, List.map_map] at hperm
    exact hperm.trans hkept.2
  have hleaked : (s.requests.handed.map Underway.userdata).Perm s.freed ↔ s.leaked = [] := by
    constructor
    · intro hfreed
      have hlength := (hhanded.symm.trans hfreed).length_eq
      rw [List.length_append] at hlength
      exact List.eq_nil_of_length_eq_zero (by omega)
    · intro hnil
      rwa [hnil, List.append_nil] at hhanded
  have hiff : s.leaked = [] ↔
      Run (step code) (fun _ e => True ∧ Encodes e) (start started) es s := by
    refine hrun.kept_iff (P := fun s => s.leaked = []) rfl fun s e s' _ hstep => ?_
    obtain ⟨_, _, leaked, -, -, hmore, -, hencodes, -⟩ := step_userdata hstep
    rw [hmore, List.append_eq_nil_iff, hencodes]
  rw [hleaked, hiff, run_all_iff]
  simp only [h, true_and]

/-- the same without memory for the text of the item -/
def withoutMemory : List (StatusEvent Int) :=
  [ .message (apisFor (.object [("method", .string "get_certificate"), ("request_id", .string "7"),
      ("params", .object [("certificate", .string "LWM2M")])])) "",
    .complete 0 (.getItemSuccess [0x30, 0x82]) ⟨⟨true, true⟩, false, fun _ => true⟩ ]

theorem userdata_not_freed :
    ∃ s : StatusSystem Int, run (step fun _ => 1) (start true) withoutMemory = some s ∧
      ¬(s.requests.handed.map Underway.userdata).Perm s.freed := by
  have hrun : (run (step fun _ => 1) (start true) withoutMemory).any (fun s => decide
      (s.requests.waiting = [])) = true := by
    decide +kernel
  obtain ⟨s, hs, hnone⟩ := exists_of_run_any hrun
  refine ⟨s, hs, fun hfreed => ?_⟩
  have hall := (userdata_freed_iff hs hnone).mp hfreed
  have hencodes := hall _ (List.mem_cons_of_mem _ (List.mem_singleton_self _))
  exact absurd (hencodes rfl) Bool.false_ne_true

end StatusSystem

end EdgeTranslators.Mqtt
