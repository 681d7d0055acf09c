import EdgeTranslators.Lib.Base64
import EdgeTranslators.Lib.Json

/-!
# The certificate chain in a renewal notification (`mqttpt-example/mqttpt_example.c`)

When the certificate of a device has been renewed, its chain is published as an array of base64
texts.  A counter drives the loop that fills the array, and a cursor is to walk the linked list of
the certificates.

* `CertChainContext`      a chain and its length;
* `appendCerts`           the loop;
* `constructAndSendDeviceCertificateRenewalNotification`   what is published;
* `PublishesChain`        the array has the certificates of the chain, in their order;
* `appendCerts_eq`        what the loop does: it appends the first certificate at each pass.

The copies of strings that Jansson makes do not fail.
-/

namespace EdgeTranslators.Mqtt
open Lib

/-- `cert_chain_context_s`, the list of its `cert_context_s` by their contents -/
structure CertChainContext where
  chainLength : Nat
  certs : List Bytes
  length_certs : certs.length = chainLength

/-- the allocations that succeed, of the message and at each pass of the loop -/
structure RenewalAllocs where
  resultJson : Bool
  curCertData : Nat → Bool

section
variable {ν : Type}

/-- the loop with `n` passes to come, the next of them the `i`-th: the result is false if an
allocation failed.  The cursor is the rest of the list from the certificate it points to. -/
def appendCerts (alloc : Nat → Bool) (curCert : List Bytes) :
    (n i : Nat) → (certArray : List (Json ν)) → Bool × List (Json ν)
  | 0, _, certArray => (true, certArray)
  | n + 1, i, certArray =>
    match curCert with
    | [] => (true, certArray)
    | cert :: _ =>
      if alloc i then
        -- the cursor stays where it is
        appendCerts alloc curCert n (i + 1) (certArray ++ [.string (base64Encode cert)])
      else (false, certArray)

/-- a member that `json_object_set_new` does not set when the string is NULL -/
def textMember (key : String) : Option String → List (String × Json ν)
  | some s => [(key, .string s)]
  | none => []

/-- `construct_and_send_device_certificate_renewal_notification`: the topic and the message that
are published -/
def constructAndSendDeviceCertificateRenewalNotification (alloc : RenewalAllocs)
    (requestId certName : Option String) (certChain : Option CertChainContext) :
    Option (String × Json ν) :=
  if !alloc.resultJson then none
  else
    let (success, certArray) := match certChain with
      | none => (true, [])
      | some chain => appendCerts alloc.curCertData chain.certs chain.chainLength 0 []
    let certArray := if success then certArray else []
    some ("MQTTPt/DeviceCertificateRenewal", .object (textMember "request_id" requestId
      ++ textMember "certificate_name" certName ++ [("certificate_chain", .array certArray)]))

/-- the array of the message is that of the chain: one entry for each certificate, in order -/
def PublishesChain (chain : CertChainContext) (published : Option (String × Json ν)) : Prop :=
  ∃ topic message entries, published = some (topic, message) ∧
    message.get "certificate_chain" = some (.array entries) ∧
      entries.length = chain.chainLength ∧
        entries = chain.certs.map fun cert => .string (base64Encode cert)

/-! ## the loop -/

/-- each pass appends the certificate the cursor points to, and it is the same at each of them -/
theorem appendCerts_eq {alloc : Nat → Bool} (halloc : ∀ i, alloc i = true) (cert : Bytes)
    (rest : List Bytes) (n i : Nat) (certArray : List (Json ν)) :
    appendCerts alloc (cert :: rest) n i certArray
      = (true, certArray ++ List.replicate n (.string (base64Encode cert))) := by
  induction n generalizing i certArray with
  | zero => exact congrArg (Prod.mk true) (List.append_nil certArray).symm
  | succ n ih =>
    show (if alloc i then _ else _) = _
    rw [if_pos (halloc i), ih, List.append_assoc, List.replicate_succ]
    rfl

/-! ## the message -/

/-- the array in the message -/
theorem get_certificateChain (requestId certName : Option String) (certArray : List (Json ν)) :
    (Json.object (textMember "request_id" requestId ++ textMember "certificate_name" certName
      ++ [("certificate_chain", .array certArray)])).get "certificate_chain"
        = some (.array certArray) := by
  cases requestId <;> cases certName <;> rfl

/-- the first certificate, over and over, is the chain if the others are the same -/
theorem replicate_eq_map_iff (cert : Bytes) (certs : List Bytes) :
    List.replicate certs.length (Json.string (base64Encode cert) : Json ν)
        = certs.map (fun cert => .string (base64Encode cert)) ↔ ∀ c ∈ certs, c = cert := by
  rw [eq_comm, List.eq_replicate_iff]
  constructor
  · intro h c hc
    have hsame := h.2 _ (List.mem_map_of_mem hc)
    exact base64Encode_inj (Json.string.inj hsame)
  · intro h
    refine ⟨List.length_map _, fun e he => ?_⟩
    obtain ⟨c, hc, rfl⟩ := List.mem_map.mp he
    rw [h c hc]

/-- every allocation succeeds -/
def RenewalAllocs.succeeding : RenewalAllocs := { resultJson := true, curCertData := fun _ => true }

/-- the message without failures -/
theorem notification_succeeding (requestId certName : Option String) (chain : CertChainContext) :
    ∃ message : Json ν, constructAndSendDeviceCertificateRenewalNotification .succeeding requestId
        certName (some chain) = some ("MQTTPt/DeviceCertificateRenewal", message) ∧
      message.get "certificate_chain" = some (.array
        (appendCerts (fun _ => true) chain.certs chain.chainLength 0 []).2) := by
  have hloop : (appendCerts (fun _ => true) chain.certs chain.chainLength 0
      ([] : List (Json ν))).1 = true := by
    cases chain.certs with
    | nil => cases chain.chainLength <;> rfl
    | cons cert rest => rw [appendCerts_eq fun _ => rfl]
  refine ⟨_, ?_, get_certificateChain requestId certName _⟩
  unfold constructAndSendDeviceCertificateRenewalNotification RenewalAllocs.succeeding
  simp only [Bool.not_true, Bool.false_eq_true, if_false, hloop, if_true]

/-- **The whole chain is published exactly** where its certificates are all the same. -/
theorem publishesChain_iff (requestId certName : Option String) (chain : CertChainContext) :
    PublishesChain chain (constructAndSendDeviceCertificateRenewalNotification .succeeding requestId
        certName (some chain) : Option (String × Json ν)) ↔
      ∀ c ∈ chain.certs, ∀ c' ∈ chain.certs, c = c' := by
  obtain ⟨message, hpublished, hget⟩ : ∃ message : Json ν, _ ∧ _ :=
    notification_succeeding requestId certName chain
  have hiff : PublishesChain chain (constructAndSendDeviceCertificateRenewalNotification .succeeding
      requestId certName (some chain) : Option (String × Json ν)) ↔
        (appendCerts (fun _ => true) chain.certs chain.chainLength 0 ([] : List (Json ν))).2
          = chain.certs.map fun cert => .string (base64Encode cert) := by
    unfold PublishesChain
    rw [hpublished]
    constructor
    · rintro ⟨topic, message', entries, heq, hget', -, hentries⟩
      obtain ⟨-, rfl⟩ := Prod.mk.inj (Option.some.inj heq)
      obtain rfl := Json.array.inj (Option.some.inj (hget.symm.trans hget'))
      exact hentries
    · intro hentries
      refine ⟨_, message, _, rfl, hget, ?_, hentries⟩
      rw [hentries, List.length_map, chain.length_certs]
  rw [hiff]
  obtain ⟨chainLength, certs, rfl⟩ := chain
  cases certs with
  | nil => exact iff_of_true rfl nofun
  | cons cert rest =>
    simp only
    rw [appendCerts_eq (fun _ => rfl), List.nil_append, replicate_eq_map_iff]
    constructor
    · intro h c hc c' hc'
      rw [h c hc, h c' hc']
    · intro h c hc
      exact h c hc cert List.mem_cons_self

end

/-- two certificates, of one byte each -/
def twoCertificates : CertChainContext :=
  { chainLength := 2, certs := [[0x30], [0x31]], length_certs := rfl }

/-- the first is published twice, and the second is not -/
theorem second_not_published :
    ¬∀ (requestId certName : Option String) (chain : CertChainContext), PublishesChain chain
      (constructAndSendDeviceCertificateRenewalNotification .succeeding requestId certName
        (some chain) : Option (String × Json Nat)) := by
  intro h
  obtain ⟨topic, message, entries, heq, hget, -, hentries⟩ := h none none twoCertificates
  obtain ⟨-, rfl⟩ := Prod.mk.inj (Option.some.inj heq)
  obtain rfl := Json.array.inj (Option.some.inj hget)
  have hsecond := congrArg (fun l : List (Json Nat) => l[1]?.bind Json.string?) hentries
  exact absurd hsecond (by decide +kernel)

end EdgeTranslators.Mqtt
