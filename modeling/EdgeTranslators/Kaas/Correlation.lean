import EdgeTranslators.Lib.Correlation
import EdgeTranslators.Kaas.Pending

/-!
# Replies and the requests they answer (`dummy-device-app/src/main.rs`)

`send_request` takes an id from a counter, inserts a key for it into `pending_requests`, sends its
request and waits.  The reader task parses every text frame: a frame with a string `method` is a
call, any other frame with an integer `id` is a reply, and goes to the request its id is kept for.
Calls and replies share the socket and the ids.

* `replyId?`, `IsReply`, `IsCall`      what the reader takes a text for;
* `Sending`, `Correlation`, `step`     the requests, the counter and the frames;
* `Correlation.Sound`                  what holds after any requests and frames;
* `replies_correlated`                 what a request returns.

What becomes of a write call is in `EdgeTranslators.Kaas.Connection`, and the two are connected in
`EdgeTranslators.Kaas.Requests`.
-/

namespace EdgeTranslators.Kaas
open Lib

section
variable {ν : Type} (r : Serde ν) (fromStr : String → Option (Json ν))

/-- the id of the request that a text replies to -/
def replyId? (text : String) : Option Nat :=
  (fromStr text).bind fun value => if (method? value).isSome then none else id? r value

/-- the text is JSON, has no string `method`, and its id is the integer -/
def IsReply (id : Nat) (text : String) : Prop :=
  ∃ value, fromStr text = some value ∧ method? value = none ∧ id? r value = some id

/-- the text is JSON with a string `method` -/
def IsCall (text : String) : Prop :=
  ∃ value, fromStr text = some value ∧ (method? value).isSome = true

variable {r fromStr}

theorem replyId?_eq_some {id : Nat} {text : String} :
    replyId? r fromStr text = some id ↔ IsReply r fromStr id text := by
  unfold replyId? IsReply
  cases fromStr text with
  | none => simp
  | some value => cases method? value <;> simp

theorem not_isReply_of_isCall {text : String} (h : IsCall fromStr text) (id : Nat) :
    ¬ IsReply r fromStr id text := by
  rintro ⟨value, hvalue, hmethod, -⟩
  obtain ⟨value', hvalue', hcall⟩ := h
  cases hvalue.symm.trans hvalue'
  rw [hmethod] at hcall
  cases hcall

end

/-! ## requests and frames -/

/-- why `send_request` returns no reply -/
inductive RequestError where
  | send (e : SendError)
  /-- the sender of its channel is gone -/
  | closed
  deriving DecidableEq, Repr

inductive Progress (ν : Type) where
  /-- its key is in and its text is not yet out -/
  | sending
  | awaiting
  | returned (result : Except RequestError (Json ν))
  /-- whoever awaited it went away -/
  | dropped

/-- a `send_request` call -/
structure Sending (ν : Type) where
  id : Nat
  operation : Operation ν
  progress : Progress ν

/-- the value a request returned -/
def Sending.value? {ν : Type} (request : Sending ν) : Option (Json ν) :=
  match request.progress with
  | .returned (.ok value) => some value
  | _ => none

theorem Sending.value?_eq_some {ν : Type} {request : Sending ν} {value : Json ν} :
    request.value? = some value ↔ request.progress = .returned (.ok value) := by
  unfold Sending.value?
  split
  · rename_i v hv
    rw [hv]
    constructor
    · intro h
      cases h
      rfl
    · intro h
      cases h
      rfl
  · rename_i hno
    exact iff_of_false (fun h => by cases h) fun h => hno value h

structure Correlation (ν : Type) where
  messageId : Nat
  /-- `pending_requests`, with the requests and the texts it was used for -/
  exchange : Exchange Nat String
  requests : List (Sending ν)
  /-- there has been a connection -/
  write : Bool
  toEdge : List (Json ν)

inductive Traffic (ν : Type) where
  | connect
  | request (op : Operation ν)
  | sent (n : Nat)
  | sendFailed (n : Nat)
  /-- a reader gets a text frame -/
  | text (text : String)
  /-- the receiver of the `n`-th request has its value -/
  | replied (n : Nat)
  /-- the receiver of the `n`-th request finds its sender gone -/
  | closed (n : Nat)
  | dropped (n : Nat)

namespace Correlation
section
variable {ν : Type}

/-- the translator of `main` -/
def start : Correlation ν :=
  { messageId := 1, exchange := Exchange.empty, requests := [], write := false, toEdge := [] }

/-- the first part of `send_request`; the counter is a `u64` -/
def sendRequest (s : Correlation ν) (op : Operation ν) : Correlation ν :=
  let id := (s.messageId + 1) % 2 ^ 64
  let progress : Progress ν :=
    if s.write then .sending else .returned (.error (.send .notConnected))
  { s with
    messageId := id
    exchange := s.exchange.issue id
    requests := s.requests ++ [⟨id, op, progress⟩] }

def setProgress (s : Correlation ν) (n : Nat) (progress : Progress ν) : Correlation ν :=
  { s with requests := s.requests.modify n fun request => { request with progress } }

/-- the answer to a write call that has an id -/
def responses (value : Json ν) : List (Json ν) :=
  if method? value = some "write" then ((value.get "id").map writeResponse).toList else []

variable (r : Serde ν) (fromStr : String → Option (Json ν))

def receive (s : Correlation ν) (text : String) : Correlation ν :=
  { s with
    exchange := s.exchange.receive (replyId? r fromStr) text
    toEdge := s.toEdge ++ ((fromStr text).map responses).getD [] }

/-- the value in the channel of the `n`-th request -/
def reply? (s : Correlation ν) (n : Nat) : Option (Json ν) := do
  let ticket ← s.exchange.tickets[n]?
  let i ← ticket.reply
  let text ← s.exchange.frames[i]?
  fromStr text

/-- the sender of the `n`-th request is still in `pending_requests` -/
def kept (s : Correlation ν) (n : Nat) : Bool :=
  (s.requests[n]?).any fun request => s.exchange.pending.lookup request.id = some n

def step (s : Correlation ν) : Traffic ν → Option (Correlation ν)
  | .connect => some { s with write := true }
  | .request op => some (s.sendRequest op)
  | .sent n =>
    match s.requests[n]? with
    | some ⟨id, op, .sending⟩ =>
      some ({ s with toEdge := s.toEdge ++ [op.request r id] }.setProgress n .awaiting)
    | _ => none
  | .sendFailed n =>
    match s.requests[n]? with
    | some ⟨_, _, .sending⟩ => some (s.setProgress n (.returned (.error (.send .sendFailed))))
    | _ => none
  | .text text => if s.write then some (s.receive r fromStr text) else none
  | .replied n =>
    match s.requests[n]?, s.reply? fromStr n with
    | some ⟨_, _, .awaiting⟩, some value => some (s.setProgress n (.returned (.ok value)))
    | _, _ => none
  | .closed n =>
    match s.requests[n]?, s.reply? fromStr n, s.kept n with
    | some ⟨_, _, .awaiting⟩, none, false => some (s.setProgress n (.returned (.error .closed)))
    | _, _, _ => none
  | .dropped n =>
    match s.requests[n]? with
    | some ⟨_, _, .sending⟩ | some ⟨_, _, .awaiting⟩ => some (s.setProgress n .dropped)
    | _ => none

variable {r fromStr} {s s' : Correlation ν}

/-- what a step can do; a request returns only the value in its channel -/
inductive Change (r : Serde ν) (fromStr : String → Option (Json ν)) (s : Correlation ν) :
    Correlation ν → Prop where
  | connect : Change r fromStr s { s with write := true }
  | request (op : Operation ν) : Change r fromStr s (s.sendRequest op)
  | text (text : String) : Change r fromStr s (s.receive r fromStr text)
  | progress (n : Nat) (progress : Progress ν) (toEdge : List (Json ν))
      (hreply : ∀ value, progress = .returned (.ok value) → s.reply? fromStr n = some value) :
      Change r fromStr s ({ s with toEdge }.setProgress n progress)

theorem change_of_step {e : Traffic ν} (h : s.step r fromStr e = some s') :
    Change r fromStr s s' := by
  cases e with
  | connect => cases h; exact .connect
  | request op => cases h; exact .request op
  | text text =>
    obtain ⟨-, h⟩ := Option.ite_none_right_eq_some.mp h
    cases h
    exact .text text
  | replied n =>
    simp only [step] at h
    split at h
    · rename_i value _ hvalue
      cases h
      exact .progress n _ s.toEdge fun v hv => by cases hv; exact hvalue
    · cases h
  | _ =>
    simp only [step] at h
    split at h <;> cases h <;> exact .progress _ _ _ nofun

theorem reply?_eq_some {n : Nat} {value : Json ν} (h : s.reply? fromStr n = some value) :
    ∃ i text, s.exchange.Given n i ∧ s.exchange.frames[i]? = some text ∧
      fromStr text = some value := by
  unfold reply? at h
  obtain ⟨ticket, hticket, h⟩ := Option.bind_eq_some_iff.mp h
  obtain ⟨i, hi, h⟩ := Option.bind_eq_some_iff.mp h
  obtain ⟨text, htext, hvalue⟩ := Option.bind_eq_some_iff.mp h
  exact ⟨i, text, ⟨ticket, hticket, hi⟩, htext, hvalue⟩

/-! ## what holds after any requests and frames -/

/-- the `n`-th request returned the value of a frame it was given -/
def Answered (fromStr : String → Option (Json ν)) (s : Correlation ν) (n : Nat) (value : Json ν) :
    Prop :=
  ∃ i text, s.exchange.Given n i ∧ s.exchange.frames[i]? = some text ∧ fromStr text = some value

structure Sound (r : Serde ν) (fromStr : String → Option (Json ν)) (s : Correlation ν) : Prop where
  matched : s.exchange.Matched (replyId? r fromStr)
  keys : s.exchange.tickets.map Ticket.key = s.requests.map Sending.id
  /-- the ids are counted from 2 -/
  ids : s.requests.map Sending.id =
    (List.range s.requests.length).map fun n => (n + 2) % 2 ^ 64
  messageId : s.messageId = (s.requests.length + 1) % 2 ^ 64
  returned : ∀ (n : Nat) request value, s.requests[n]? = some request →
    request.progress = .returned (.ok value) → s.Answered fromStr n value

/-- each request has put its id into the exchange -/
theorem Sound.length_tickets (h : s.Sound r fromStr) :
    s.exchange.tickets.length = s.requests.length := by
  have hlength := congrArg List.length h.keys
  rwa [List.length_map, List.length_map] at hlength

theorem sound_start : (start : Correlation ν).Sound r fromStr :=
  ⟨Exchange.matched_empty, rfl, rfl, rfl, nofun⟩

theorem Sound.request (h : s.Sound r fromStr) (op : Operation ν) :
    (s.sendRequest op).Sound r fromStr := by
  have hid : (s.messageId + 1) % 2 ^ 64 = (s.requests.length + 2) % 2 ^ 64 := by
    rw [h.messageId, Nat.mod_add_mod]
  have hlength : (s.sendRequest op).requests.length = s.requests.length + 1 := by
    unfold sendRequest
    simp
  refine ⟨h.matched.issue _, ?_, ?_, ?_, ?_⟩
  · show (s.exchange.tickets ++ [_]).map Ticket.key = (s.requests ++ [_]).map Sending.id
    rw [List.map_append, List.map_append, h.keys]
    rfl
  · rw [hlength, List.range_succ, List.map_append, ← h.ids]
    show (s.requests ++ [_]).map Sending.id = _
    rw [List.map_append]
    simp only [List.map_cons, List.map_nil, hid]
  · rw [hlength]
    exact hid
  · intro n request value hrequest hreturned
    rcases getElem?_snoc hrequest with hrequest | ⟨-, rfl⟩
    · obtain ⟨i, text, hgiven, hrest⟩ := h.returned n request value hrequest hreturned
      exact ⟨i, text, hgiven.issue _, hrest⟩
    · -- a request that was just made has returned only if there is no connection
      cases hwrite : s.write <;> simp [hwrite] at hreturned

theorem Sound.text (h : s.Sound r fromStr) (text : String) :
    (s.receive r fromStr text).Sound r fromStr := by
  refine ⟨h.matched.receive text, ?_, h.ids, h.messageId, ?_⟩
  · exact (Exchange.receive_keys text).trans h.keys
  · intro n request value hrequest hreturned
    obtain ⟨i, t, hgiven, ht, hvalue⟩ := h.returned n request value hrequest hreturned
    refine ⟨i, t, hgiven.receive h.matched text, ?_, hvalue⟩
    show (s.exchange.receive _ text).frames[i]? = some t
    rw [Exchange.receive_frames]
    exact (List.getElem?_append_left (List.getElem?_eq_some_iff.mp ht).1).trans ht

theorem setProgress_ids (n : Nat) (progress : Progress ν) :
    (s.setProgress n progress).requests.map Sending.id = s.requests.map Sending.id := by
  apply List.ext_getElem?
  intro m
  show ((s.requests.modify n _).map Sending.id)[m]? = _
  rw [List.getElem?_map, List.getElem?_modify, List.getElem?_map]
  cases s.requests[m]? with
  | none => rfl
  | some request =>
    show some (Sending.id (if _ then _ else request)) = some request.id
    split <;> rfl

theorem Sound.progress (h : s.Sound r fromStr) (n : Nat) (progress : Progress ν)
    (toEdge : List (Json ν))
    (hreply : ∀ value, progress = .returned (.ok value) → s.reply? fromStr n = some value) :
    ({ s with toEdge }.setProgress n progress : Correlation ν).Sound r fromStr := by
  have hids := setProgress_ids (s := { s with toEdge }) n progress
  have hlength : ({ s with toEdge }.setProgress n progress : Correlation ν).requests.length =
      s.requests.length := List.length_modify ..
  refine ⟨h.matched, h.keys.trans hids.symm, ?_, ?_, ?_⟩
  · rw [hids, hlength]
    exact h.ids
  · rw [hlength]
    exact h.messageId
  · intro m request value hrequest hreturned
    replace hrequest : (s.requests.modify n fun q => { q with progress })[m]? = some request :=
      hrequest
    rw [List.getElem?_modify] at hrequest
    obtain ⟨request₀, hrequest₀, rfl⟩ := Option.map_eq_some_iff.mp hrequest
    by_cases hm : n = m
    · subst hm
      rw [if_pos rfl] at hreturned
      exact reply?_eq_some (hreply value hreturned)
    · rw [if_neg hm] at hreturned
      exact h.returned m request₀ value hrequest₀ hreturned

theorem Sound.step {e : Traffic ν} (h : s.Sound r fromStr)
    (hstep : s.step r fromStr e = some s') : s'.Sound r fromStr := by
  cases change_of_step hstep with
  | connect => exact ⟨h.matched, h.keys, h.ids, h.messageId, h.returned⟩
  | request op => exact h.request op
  | text text => exact h.text text
  | progress n progress toEdge hreply => exact h.progress n progress toEdge hreply

/-- fewer than 2⁶⁴ requests have different ids -/
theorem Sound.nodup (h : s.Sound r fromStr) (hfew : s.requests.length < 2 ^ 64) :
    (s.requests.map Sending.id).Nodup := by
  rw [h.ids]
  apply List.nodup_range.map_on
  intro m hm n hn heq
  rw [List.mem_range] at hm hn
  omega

/-- the frame goes to the `n`-th request -/
def Completes (s : Correlation ν) (n i : Nat) : Prop := s.exchange.Given n i

/-- the `i`-th frame is the first reply to the `n`-th request since its key is in -/
def FirstReply (r : Serde ν) (fromStr : String → Option (Json ν)) (s : Correlation ν) (n i : Nat) :
    Prop :=
  ∃ (request : Sending ν) (ticket : Ticket Nat), s.requests[n]? = some request ∧
    s.exchange.tickets[n]? = some ticket ∧ ticket.since ≤ i ∧
    (∃ text, s.exchange.frames[i]? = some text ∧ IsReply r fromStr request.id text) ∧
    ∀ j text, ticket.since ≤ j → j < i → s.exchange.frames[j]? = some text →
      ¬ IsReply r fromStr request.id text

theorem Sound.firstReply (h : s.Sound r fromStr) {n i : Nat} (hgiven : s.Completes n i) :
    s.FirstReply r fromStr n i := by
  obtain ⟨ticket, hticket, hi⟩ := hgiven
  have hfirst := h.matched.given n ticket i hticket hi
  have hkey : (s.requests.map Sending.id)[n]? = some ticket.key := by
    rw [← h.keys, List.getElem?_map, hticket]
    rfl
  rw [List.getElem?_map] at hkey
  obtain ⟨request, hrequest, hid⟩ := Option.map_eq_some_iff.mp hkey
  refine ⟨request, ticket, hrequest, hticket, hfirst.since_le, ?_, ?_⟩
  · obtain ⟨text, htext, hreply⟩ := hfirst.has
    exact ⟨text, htext, hid ▸ replyId?_eq_some.mp hreply⟩
  · intro j text hj hji htext hreply
    exact hfirst.first j text hj hji htext (replyId?_eq_some.mpr (hid ▸ hreply))

/-- **Replies reach the requests they answer.**  A request that completes returns the first reply
with its id since its key is in; no frame completes two requests, and a call completes none. -/
theorem replies_correlated {es : List (Traffic ν)}
    (h : Run (step r fromStr) (fun _ _ => True) start es s) :
    (s.requests.length < 2 ^ 64 → (s.requests.map Sending.id).Nodup) ∧
    (∀ (n : Nat) request value, s.requests[n]? = some request →
      request.progress = .returned (.ok value) →
        ∃ i text, s.Completes n i ∧ s.exchange.frames[i]? = some text ∧ fromStr text = some value) ∧
    (∀ n i, s.Completes n i → s.FirstReply r fromStr n i) ∧
    (∀ n n' i, s.Completes n i → s.Completes n' i → n = n') ∧
    ∀ n i text, s.exchange.frames[i]? = some text → IsCall fromStr text → ¬ s.Completes n i := by
  have hsound : s.Sound r fromStr :=
    h.invariant sound_start fun _ _ _ hsound _ hstep => hsound.step hstep
  refine ⟨hsound.nodup, hsound.returned, fun n i => hsound.firstReply, ?_, ?_⟩
  · rintro n n' i ⟨t, ht, hi⟩ ⟨t', ht', hi'⟩
    exact hsound.matched.once n n' t t' i ht ht' hi hi'
  · intro n i text htext hcall hcompletes
    obtain ⟨request, ticket, -, -, -, ⟨text', htext', hreply⟩, -⟩ := hsound.firstReply hcompletes
    cases htext.symm.trans htext'
    exact not_isReply_of_isCall hcall request.id hreply

end

/-! ### a socket that mixes calls and replies -/

/-- what Edge Core sends -/
def mixedTexts : List (String × Json Nat) :=
  [("\x7b\"id\":3,\"result\":\"ok\"\x7d", .object [("id", .number 3), ("result", .string "ok")]),
    ("\x7b\"id\":2,\"method\":\"write\"\x7d",
      .object [("id", .number 2), ("method", .string "write")]),
    ("\x7b\"id\":\"2\",\"result\":\"ok\"\x7d",
      .object [("id", .string "2"), ("result", .string "ok")]),
    ("\x7b\"id\":2,\"result\":\"ok\"\x7d", .object [("id", .number 2), ("result", .string "ok")])]

/-- other texts are no JSON -/
def mixedFromStr (text : String) : Option (Json Nat) :=
  (mixedTexts.find? fun entry => entry.1 = text).map (·.2)

/-- a reply nobody asked for, and a call, half a reply and a reply with a string for an id before the
reply, which comes twice -/
def mixed : List (Traffic Nat) :=
  [Traffic.connect, .request (.protocolTranslatorRegister "dummy-device-app"), .sent 0] ++
    (mixedTexts.take 2).map (fun entry => Traffic.text entry.1) ++ [Traffic.text "\x7b\"id\":2,"] ++
    (mixedTexts.drop 2).map (fun entry => Traffic.text entry.1) ++
    [Traffic.replied 0, .request (.deviceRegister Link.canopyLight), .sent 1,
      .text "\x7b\"id\":2,\"result\":\"ok\"\x7d"]

/-- the reply with the id of the first request -/
def mixedReply : Json Nat := .object [("id", .number 2), ("result", .string "ok")]

theorem replies_correlated_mixed :
    ∃ s, run (step Link.ascii mixedFromStr) start mixed = some s ∧ s.requests.length = 2 ∧
      s.exchange.tickets = [⟨2, 0, some 4⟩, ⟨3, 5, none⟩] ∧
        s.FirstReply Link.ascii mixedFromStr 0 4 ∧
          ∃ request, s.requests[0]? = some request ∧ request.progress = .returned (.ok mixedReply) ∧
            ∃ i text, s.Completes 0 i ∧ s.exchange.frames[i]? = some text ∧
              mixedFromStr text = some mixedReply := by
  have hrun : ∃ s, run (step Link.ascii mixedFromStr) start mixed = some s ∧
      s.requests.length = 2 ∧ s.exchange.tickets = [⟨2, 0, some 4⟩, ⟨3, 5, none⟩] :=
    exists_of_run_any (by decide +kernel)
  obtain ⟨s, hs, hlength, htickets⟩ := hrun
  have hvalue : s.requests[0]?.bind Sending.value? = some mixedReply := by
    have hall : (run (step Link.ascii mixedFromStr) start mixed).bind
        (fun s => s.requests[0]?.bind Sending.value?) = some mixedReply := rfl
    rwa [hs] at hall
  have hcompletes : s.Completes 0 4 := ⟨⟨2, 0, some 4⟩, by rw [htickets]; rfl, rfl⟩
  obtain ⟨request, hrequest, hvalue⟩ := Option.bind_eq_some_iff.mp hvalue
  have hreturned := Sending.value?_eq_some.mp hvalue
  have hcorrelated := replies_correlated (Run.of_run hs)
  exact ⟨s, hs, hlength, htickets, hcorrelated.2.2.1 0 4 hcompletes, request, hrequest, hreturned,
    hcorrelated.2.1 0 request mixedReply hrequest hreturned⟩

end Correlation

end EdgeTranslators.Kaas
