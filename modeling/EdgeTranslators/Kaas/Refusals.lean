import EdgeTranslators.Kaas.Pending

/-!
# Refusals of Edge Core

Edge Core refuses a request with a reply that has an `error` member.  The reader hands every reply
over as it is, and the operations drop it.

* `Link.ReturnsOk`         the operation of a call returns `Ok` for a frame of Edge Core;
* `Link.returnsOk_iff`     it does for every frame that is taken for the reply;
* `ensurePtConnected`      the loop around `connect_and_register`;
* `refusal_reported_iff`   when a refusal reaches the caller.
-/

namespace EdgeTranslators.Kaas
open Lib

namespace Link
section
variable {ν : Type} {r : Serde ν} {s : Link ν}

/-- once the `k`-th reader has read the frame, the operation of the call returns `Ok` -/
def ReturnsOk (r : Serde ν) (s : Link ν) (call : Call ν) (k : Nat) (value : Json ν) : Prop :=
  ∃ s', run (step r) s [.frame k value, .returns call.id] = some s' ∧
    s'.returned = s.returned ++ [{ id := call.id, operation := call.operation, result := .ok () }]

theorem WellFormed.call?_eq (h : s.WellFormed) {call : Call ν} (hcall : call ∈ s.calls) :
    s.call? call.id = some call := by
  unfold call?
  cases hfind : s.calls.find? fun c => c.id = call.id with
  | none =>
    have hnone := List.find?_eq_none.mp hfind call hcall
    simp at hnone
  | some c =>
    have hc := @call?_eq_some _ s _ _ hfind
    rw [h.eq_of_id hc.1 hcall hc.2]

theorem step_frame {k connection : Nat} {value : Json ν}
    (hreader : s.readers[k]? = some ⟨connection, none⟩) :
    step r s (.frame k value) = some (s.receive r k value) := by
  simp only [step, hreader]

theorem step_returns (r : Serde ν) {id : Nat} {call : Call ν} {value : Json ν}
    (hcall : s.call? id = some call) (hsent : call.sent = true) (hreply : call.reply = some value) :
    step r s (.returns id) = some ((s.remove id).return' call (.ok ())) := by
  simp only [step, hcall, hsent, hreply, call.operation.result_ok value]

/-- a call without its reply cannot return -/
theorem step_returns_none {call : Call ν} (hcall : s.call? call.id = some call)
    (hreply : call.reply = none) : step r s (.returns call.id) = none := by
  simp only [step, hcall, hreply]
  cases call.sent <;> rfl

theorem call?_forward (s : Link ν) (k : Nat) (event : Option WriteEvent) (id : Nat) :
    (s.forward k event).call? id = s.call? id := by
  unfold forward
  split
  · split <;> rfl
  · rfl

theorem call?_respond (s : Link ν) (value : Json ν) (id : Nat) :
    (s.respond value).call? id = s.call? id := by
  unfold respond
  split <;> rfl

/-- a frame with a method is a call of Edge Core, and resolves no request -/
theorem call?_receive_call {k : Nat} {value : Json ν} (hmethod : (method? value).isSome) (id : Nat) :
    (s.receive r k value).call? id = s.call? id := by
  obtain ⟨method, hmethod⟩ := Option.isSome_iff_exists.mp hmethod
  unfold receive
  rw [hmethod]
  show (if method = "write" then _ else s).call? id = _
  split
  · rw [call?_forward, call?_respond]
  · rfl

theorem returned_resolve (id : Nat) (value : Json ν) :
    (s.resolve id value).returned = s.returned := by
  unfold resolve
  split <;> rfl

/-- the call gets its reply -/
theorem call?_resolve {call : Call ν} {value : Json ν} (hcall : s.call? call.id = some call)
    (hkey : call.id ∈ s.pending) :
    (s.resolve call.id value).call? call.id = some { call with reply := some value } := by
  unfold resolve
  rw [if_pos hkey]
  unfold call? update
  rw [List.find?_map]
  have hcongr : ((fun c : Call ν => decide (c.id = call.id)) ∘ fun c =>
      if c.id = call.id then { c with reply := some value } else c) =
      fun c => decide (c.id = call.id) := by
    funext c
    show decide ((if c.id = call.id then { c with reply := some value } else c).id = call.id) = _
    split <;> rfl
  rw [hcongr]
  have hfind : s.calls.find? (fun c => c.id = call.id) = some call := hcall
  show (s.calls.find? _).map _ = _
  rw [hfind, Option.map_some, if_pos rfl]

/-- **An operation returns `Ok` for every frame that is taken for its reply, whatever it says.** -/
theorem returnsOk_iff (hw : s.WellFormed) {call : Call ν} (hcall : call ∈ s.calls)
    (hsent : call.sent) (hawaiting : call.awaiting) {k connection : Nat}
    (hreader : s.readers[k]? = some ⟨connection, none⟩) {value : Json ν}
    (hid : id? r value = some call.id) :
    ReturnsOk r s call k value ↔ method? value = none := by
  have hfound := hw.call?_eq hcall
  have hreply : call.reply = none := Option.isNone_iff_eq_none.mp hawaiting
  unfold ReturnsOk
  rw [run_cons, step_frame hreader, Option.bind_some, run_cons]
  cases hmethod : method? value with
  | some method =>
    have hsame : (s.receive r k value).call? call.id = some call := by
      rw [call?_receive_call (Option.isSome_iff_exists.mpr ⟨method, hmethod⟩), hfound]
    rw [step_returns_none hsame hreply]
    simp
  | none =>
    have hkey : call.id ∈ s.pending := hw.awaited _ (mem_waiting.mpr ⟨call, hcall, hawaiting, rfl⟩)
    have hreceive : s.receive r k value = s.resolve call.id value := by
      unfold receive
      rw [hmethod, hid]
    have hresolved := @call?_resolve _ s _ value hfound hkey
    have hstep := step_returns r hresolved hsent rfl
    refine iff_of_true ?_ rfl
    rw [hreceive, hstep]
    refine ⟨_, rfl, ?_⟩
    show (s.resolve call.id value).returned ++ [_] = _
    rw [returned_resolve]

end
end Link

/-! ## the connect loop -/

/-- what comes of a call of `connect_and_register` -/
inductive Attempt (ν : Type) where
  /-- no connection -/
  | notConnected
  /-- the registration request is not sent -/
  | sendFailed
  /-- the registration request gets a reply -/
  | replied (value : Json ν)

namespace Attempt
variable {ν : Type}

def reply? : Attempt ν → Option (Json ν)
  | .replied value => some value
  | _ => none

/-- `connect_and_register` -/
def result : Attempt ν → Except SendError Unit
  | .notConnected => .error .notConnected
  | .sendFailed => @Operation.connectAndRegister ν (.error .sendFailed)
  | .replied value => Operation.connectAndRegister (.ok value)

/-- Edge Core accepted the registration -/
def Accepted (a : Attempt ν) : Prop := ∃ value, a.reply? = some value ∧ value.get "error" = none

end Attempt

section
variable {ν : Type}

/-- `(backoff_ms * 2).min(10_000)` -/
def nextBackoff (backoffMs : Nat) : Nat := min (backoffMs * 2) 10000

/-- `ensure_pt_connected`: the times it sleeps, and the attempt it returns after -/
def ensurePtConnected (backoffMs : Nat) : List (Attempt ν) → List Nat × Option (Attempt ν)
  | [] => ([], none)
  | a :: attempts =>
    match a.result with
    | .ok _ => ([], some a)
    | .error _ =>
      let (sleeps, returned) := ensurePtConnected (nextBackoff backoffMs) attempts
      (backoffMs :: sleeps, returned)

/-- the loop returns after the first attempt that gets a reply -/
theorem ensurePtConnected_returns (backoffMs : Nat) (attempts : List (Attempt ν)) :
    (ensurePtConnected backoffMs attempts).2 = (attempts.findSome? Attempt.reply?).map .replied := by
  induction attempts generalizing backoffMs with
  | nil => rfl
  | cons a attempts ih =>
    cases a with
    | notConnected => exact ih _
    | sendFailed => exact ih _
    | replied value => rfl

/-- **A refusal is reported only if the frame has a method, and is not taken for the reply; the
connect loop reports only what is no reply.** -/
theorem refusal_reported_iff {r : Serde ν} {es : List (LinkEvent ν)} {s : Link ν}
    (hrun : Run (Link.step r) (fun _ _ => True) Link.start es s) {call : Call ν}
    (hcall : call ∈ s.calls) (hsent : call.sent) (hawaiting : call.awaiting) {k connection : Nat}
    (hreader : s.readers[k]? = some ⟨connection, none⟩) {value : Json ν}
    (hid : id? r value = some call.id) :
    ((Link.ReturnsOk r s call k value → value.get "error" = none) ↔
        value.get "error" = none ∨ ∃ method, method? value = some method) ∧
      ∀ (backoffMs : Nat) (attempts : List (Attempt ν)),
        (∀ a, (ensurePtConnected backoffMs attempts).2 = some a → a.Accepted) ↔
          ∀ reply, attempts.findSome? Attempt.reply? = some reply → reply.get "error" = none := by
  constructor
  · rw [Link.returnsOk_iff (Link.wellFormed_of_run hrun) hcall hsent hawaiting hreader hid]
    cases method? value with
    | none => simp
    | some method => simp
  · intro backoffMs attempts
    rw [ensurePtConnected_returns]
    constructor
    · intro h reply hreply
      obtain ⟨value, hvalue, herror⟩ := h (.replied reply) (by rw [hreply]; rfl)
      cases hvalue
      exact herror
    · intro h a ha
      obtain ⟨reply, hreply, rfl⟩ := Option.map_eq_some_iff.mp ha
      exact ⟨reply, rfl, h reply hreply⟩

end

/-! ### the registration of the translator -/

/-- the translator has asked to be registered -/
def registering : Link Nat :=
  { Link.start with
    messageId := 2
    pending := [2]
    calls := [{ id := 2, operation := .protocolTranslatorRegister "dummy-device-app", sent := true,
                reply := none }]
    write := some 0
    readers := [⟨0, none⟩]
    opened := 1
    toEdge := [(Operation.protocolTranslatorRegister "dummy-device-app").request Link.ascii 2] }

/-- Edge Core's refusal of the request `id` -/
def refusal (id : Nat) : Json Nat :=
  .object [("id", .number id), ("jsonrpc", .string "2.0"),
    ("error", .object [("code", .number 1), ("message", .string "")])]

theorem run_registering :
    run (Link.step Link.ascii) Link.start
      [.connect, .request (.protocolTranslatorRegister "dummy-device-app"), .sent 2] =
        some registering := rfl

theorem reader_registering : registering.readers[0]? = some ⟨0, none⟩ := rfl

theorem refusal_reported_iff_registering :
    ∃ call ∈ registering.calls,
      (Link.ReturnsOk Link.ascii registering call 0 (Link.okReply 2) →
        (Link.okReply 2).get "error" = none) ∧
      ∀ a, (ensurePtConnected 500 [.notConnected, .replied (Link.okReply 2)]).2 = some a →
        a.Accepted := by
  have hiff := refusal_reported_iff (Run.of_run run_registering) (List.mem_singleton.mpr rfl) rfl rfl
    reader_registering (rfl : id? Link.ascii (Link.okReply 2) = some 2)
  refine ⟨_, List.mem_singleton.mpr rfl, hiff.1.mpr (Or.inl rfl), ?_⟩
  apply (hiff.2 500 [.notConnected, .replied (Link.okReply 2)]).mpr
  intro reply hreply
  cases hreply
  rfl

/-- the refused registration returns `Ok` -/
theorem not_refusal_reported :
    ¬∀ (es : List (LinkEvent Nat)) (s : Link Nat), run (Link.step Link.ascii) Link.start es = some s →
      ∀ call ∈ s.calls, call.sent → call.awaiting → ∀ (k connection : Nat),
        s.readers[k]? = some ⟨connection, none⟩ → ∀ value, id? Link.ascii value = some call.id →
          Link.ReturnsOk Link.ascii s call k value → value.get "error" = none := by
  intro hall
  have hok := (Link.returnsOk_iff (Link.wellFormed_of_run (Run.of_run run_registering))
    (List.mem_singleton.mpr rfl) rfl rfl reader_registering
    (rfl : id? Link.ascii (refusal 2) = some 2)).mpr rfl
  have hnone := hall _ _ run_registering _ (List.mem_singleton.mpr rfl) rfl rfl 0 0 rfl _ rfl hok
  cases hnone

end EdgeTranslators.Kaas
