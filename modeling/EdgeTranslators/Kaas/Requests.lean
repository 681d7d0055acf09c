import EdgeTranslators.Kaas.Correlation

/-!
# The two models of `send_request`

`Kaas.Connection` follows a call of `send_request` by its id, a natural number, and reads values;
`Kaas.Correlation` follows a request by its number, counts its ids in a `u64` and reads texts.  As
long as the ids fit a `u64` the two do the same, event by event.

* `LinkEvent.traffic`   what an event of the connection is for the requests and frames;
* `Sending.call?`       the call that a request under way is;
* `Follows`             the same counter, keys, calls, results and texts to Edge Core;
* `Link.follows`        **every run of the connection is a run of the requests and frames**.
-/

namespace EdgeTranslators.Kaas
open Lib

section
variable {ν : Type}

/-- the requests and frames of an event; `print` writes the text of a value -/
def LinkEvent.traffic (print : Json ν → String) : LinkEvent ν → List (Traffic ν)
  | .connect => [.connect]
  | .request op => [.request op]
  | .sent id => [.sent (id - 2)]
  | .sendFailed id => [.sendFailed (id - 2)]
  | .dropped id => [.dropped (id - 2)]
  | .returns id => [.replied (id - 2)]
  | .frame _ value => [.text (print value)]
  | .readerEnds _ | .unblocked _ | .consumerSpawned | .consume => []

/-- the call of a request that is under way, with its reply -/
def Sending.call? (reply : Option (Json ν)) (request : Sending ν) : Option (Call ν) :=
  match request.progress with
  | .sending => some ⟨request.id, request.operation, false, reply⟩
  | .awaiting => some ⟨request.id, request.operation, true, reply⟩
  | .returned _ | .dropped => none

/-- what the operation of a request returned -/
def Sending.result? (request : Sending ν) : Option (Except SendError Unit) :=
  match request.progress with
  | .returned (.ok value) => some (request.operation.result (.ok value))
  | .returned (.error (.send e)) => some (.error e)
  | _ => none

/-- a request that is a call is under way -/
theorem Sending.of_call? {request : Sending ν} {reply : Option (Json ν)} {call : Call ν}
    (h : request.call? reply = some call) :
    request.result? = none ∧ request.progress = (if call.sent then .awaiting else .sending) ∧
      call = ⟨request.id, request.operation, call.sent, reply⟩ := by
  obtain ⟨id, op, progress⟩ := request
  cases progress with
  | sending => cases h; exact ⟨rfl, rfl, rfl⟩
  | awaiting => cases h; exact ⟨rfl, rfl, rfl⟩
  | returned _ => cases h
  | dropped => cases h

/-! ## calls by their ids -/

namespace Link
variable {s : Link ν} {id : Nat}

theorem call?_update {f : Call ν → Call ν} (hf : ∀ c, (f c).id = c.id) (i : Nat) :
    (s.update id f).call? i = if i = id then (s.call? id).map f else s.call? i := by
  have hsame : ∀ c : Call ν, (if c.id = id then f c else c).id = c.id := by
    intro c
    split
    · exact hf c
    · rfl
  have hmap : (s.update id f).call? i
      = (s.call? i).map fun c => if c.id = id then f c else c := by
    unfold call? update
    rw [List.find?_map]
    congr 2
    funext c
    simp only [Function.comp_apply, hsame]
  rw [hmap]
  by_cases hi : i = id
  · subst hi
    rw [if_pos rfl]
    cases hc : s.call? i with
    | none => rfl
    | some call => exact congrArg some (if_pos (call?_eq_some hc).2)
  · rw [if_neg hi]
    cases hc : s.call? i with
    | none => rfl
    | some call => exact congrArg some (if_neg fun h => hi ((call?_eq_some hc).2.symm.trans h))

theorem call?_remove (i : Nat) : (s.remove id).call? i = if i = id then none else s.call? i := by
  unfold call? remove
  rw [List.find?_filter]
  by_cases hi : i = id
  · subst hi
    rw [if_pos rfl]
    exact List.find?_eq_none.mpr fun c _ h => by simp at h
  · rw [if_neg hi]
    congr 1
    funext c
    by_cases hc : c.id = i
    · simp [hc, hi]
    · simp [hc]

theorem call?_sendRequest (hw : s.WellFormed) (op : Operation ν) (i : Nat) :
    (s.sendRequest op).call? i =
      if i = s.messageId + 1 then
        if s.write.isSome then some ⟨s.messageId + 1, op, false, none⟩ else none
      else s.call? i := by
  have hnew : s.call? (s.messageId + 1) = none := by
    refine List.find?_eq_none.mpr fun c hc h => hw.lt_messageId ?_
    exact of_decide_eq_true h ▸ List.mem_map_of_mem hc
  unfold sendRequest
  cases hwrite : s.write with
  | none =>
    by_cases hi : i = s.messageId + 1
    · subst hi
      exact hnew.trans (if_pos rfl).symm
    · rw [if_neg hi]
      rfl
  | some connection =>
    have happend : ∀ call : Call ν, (s.calls ++ [call]).find? (fun c : Call ν => c.id = i)
        = (s.call? i).or (if call.id = i then some call else none) := by
      intro call
      rw [List.find?_append, List.find?_singleton]
      simp only [decide_eq_true_eq]
      rfl
    show (s.calls ++ [_]).find? (fun c : Call ν => c.id = i) = _
    rw [happend]
    by_cases hi : i = s.messageId + 1
    · subst hi
      rw [hnew, if_pos rfl, if_pos rfl]
      rfl
    · rw [if_neg hi, if_neg (Ne.symm hi), Option.or_none]

end Link

/-! ## the reply of a request -/

namespace Correlation
variable {r : Serde ν} {fromStr : String → Option (Json ν)} {c : Correlation ν}

theorem reply?_eq (c : Correlation ν) (n : Nat) :
    c.reply? fromStr n = (c.exchange.frame? n).bind fromStr := by
  unfold reply? Exchange.frame?
  simp only [Option.bind_eq_bind, Option.bind_assoc]

theorem reply?_sendRequest (op : Operation ν) (n : Nat) :
    (c.sendRequest op).reply? fromStr n = c.reply? fromStr n := by
  rw [reply?_eq, reply?_eq]
  exact congrArg (·.bind fromStr) (c.exchange.frame?_issue _ n)

end Correlation

/-! ## what the two have in common -/

variable (r : Serde ν) (fromStr : String → Option (Json ν))

/-- the requests and frames are those of the connection -/
structure Follows (s : Link ν) (c : Correlation ν) : Prop where
  wellFormed : s.WellFormed
  sound : c.Sound r fromStr
  counter : c.messageId = s.messageId
  counted : s.messageId = c.requests.length + 1
  ids : ∀ n request, c.requests[n]? = some request → request.id = n + 2
  write : c.write = s.write.isSome
  /-- without a connection there is no reader -/
  unread : s.write = none → s.readers = []
  toEdge : c.toEdge = s.toEdge
  keys : ∀ id, id ∈ s.pending ↔ (c.exchange.pending.lookup id).isSome
  keptFor : ∀ id n, c.exchange.pending.lookup id = some n → id = n + 2
  calls : ∀ n, s.call? (n + 2) = c.requests[n]?.bind (Sending.call? (c.reply? fromStr n))
  later : ∀ id call, s.call? id = some call → 2 ≤ id
  /-- an operation returned what its request did -/
  returned : ∀ outcome ∈ s.returned, ∃ n request, outcome.id = n + 2 ∧
    c.requests[n]? = some request ∧ outcome.operation = request.operation ∧
      request.result? = some outcome.result

variable {r fromStr} {s s' : Link ν} {c : Correlation ν}

theorem follows_start : Follows r fromStr (Link.start : Link ν) Correlation.start where
  wellFormed := .start
  sound := Correlation.sound_start
  counter := rfl
  counted := rfl
  ids n request h := by cases h
  write := rfl
  unread _ := rfl
  toEdge := rfl
  keys id := iff_of_false List.not_mem_nil Bool.false_ne_true
  keptFor id n h := by cases h
  calls _ := rfl
  later id call h := by cases h
  returned outcome h := by cases h

/-- what is read of the connection, besides the texts it has sent -/
structure Like (s s' : Link ν) : Prop where
  messageId : s'.messageId = s.messageId
  write : s'.write = s.write
  unread : s.readers = [] → s'.readers = []
  pending : s'.pending = s.pending
  calls : s'.calls = s.calls
  returned : s'.returned = s.returned

theorem Follows.congr (h : Follows r fromStr s c) (hw : s'.WellFormed) (hlike : Like s s')
    (htoEdge : s'.toEdge = s.toEdge) : Follows r fromStr s' c := by
  have hcall : ∀ id, s'.call? id = s.call? id := by
    intro id
    unfold Link.call?
    rw [hlike.calls]
  refine ⟨hw, h.sound, h.counter.trans hlike.messageId.symm, hlike.messageId.trans h.counted, h.ids,
    ?_, fun hno => hlike.unread (h.unread (hlike.write ▸ hno)), h.toEdge.trans htoEdge.symm, ?_,
    h.keptFor, fun n => (hcall _).trans (h.calls n), ?_, ?_⟩
  · rw [hlike.write]
    exact h.write
  · rw [hlike.pending]
    exact h.keys
  · intro id call hid
    exact h.later id call ((hcall id).symm.trans hid)
  · rw [hlike.returned]
    exact h.returned

/-! ## a request makes progress -/

/-- a request under way goes on: its call is another, or gone with a result -/
theorem Follows.progress (h : Follows r fromStr s c) {n : Nat} {request : Sending ν}
    (hn : c.requests[n]? = some request) (hunder : request.result? = none) {progress : Progress ν}
    (toEdge : List (Json ν))
    (hreply : ∀ value, progress = .returned (.ok value) → c.reply? fromStr n = some value)
    (hw : s'.WellFormed) (hmessageId : s'.messageId = s.messageId) (hwrite : s'.write = s.write)
    (hreaders : s'.readers = s.readers) (htoEdge : s'.toEdge = toEdge)
    (hpending : s'.pending = s.pending)
    (hcall : ∀ id, s'.call? id = if id = n + 2 then
      Sending.call? (c.reply? fromStr n) { request with progress } else s.call? id)
    (hreturned : ∀ outcome ∈ s'.returned, outcome ∈ s.returned ∨
      outcome.id = n + 2 ∧ outcome.operation = request.operation ∧
        Sending.result? { request with progress } = some outcome.result) :
    Follows r fromStr s' ({ c with toEdge }.setProgress n progress) := by
  have hset : ∀ m, ({ c with toEdge }.setProgress n progress : Correlation ν).requests[m]?
      = if m = n then some { request with progress } else c.requests[m]? := by
    intro m
    show (c.requests.modify n fun q => { q with progress })[m]? = _
    rw [List.getElem?_modify]
    by_cases hm : m = n
    · rw [hm, hn, if_pos rfl]
      exact congrArg some (if_pos rfl)
    · rw [if_neg hm]
      cases c.requests[m]? with
      | none => rfl
      | some q => exact congrArg some (if_neg (Ne.symm hm))
  have hlength : ({ c with toEdge }.setProgress n progress : Correlation ν).requests.length
      = c.requests.length := List.length_modify ..
  refine ⟨hw, h.sound.progress n progress toEdge hreply, h.counter.trans hmessageId.symm, ?_, ?_,
    ?_, ?_, htoEdge.symm, ?_, h.keptFor, ?_, ?_, ?_⟩
  · rw [hlength, hmessageId]
    exact h.counted
  · intro m q hq
    rw [hset] at hq
    split at hq
    · rename_i hm
      cases hq
      exact (h.ids n request hn).trans (by rw [hm])
    · exact h.ids m q hq
  · rw [hwrite]
    exact h.write
  · rw [hwrite, hreaders]
    exact h.unread
  · rw [hpending]
    exact h.keys
  · intro m
    have hsame : ({ c with toEdge }.setProgress n progress : Correlation ν).reply? fromStr m
        = c.reply? fromStr m := rfl
    rw [hcall, hset, hsame]
    by_cases hm : m = n
    · rw [if_pos (congrArg (· + 2) hm), if_pos hm, Option.bind_some, hm]
    · rw [if_neg fun heq => hm (Nat.add_right_cancel heq), if_neg hm]
      exact h.calls m
  · intro id call hid
    rw [hcall] at hid
    split at hid
    · rename_i hat
      exact hat ▸ Nat.le_add_left 2 n
    · exact h.later id call hid
  · intro outcome houtcome
    rcases hreturned outcome houtcome with hold | ⟨hid, hoperation, hresult⟩
    · obtain ⟨m, q, hid, hq, hrest⟩ := h.returned outcome hold
      have hm : m ≠ n := by
        rintro rfl
        cases hn.symm.trans hq
        cases hunder.symm.trans hrest.2
      exact ⟨m, q, hid, by rw [hset, if_neg hm]; exact hq, hrest⟩
    · exact ⟨n, { request with progress }, hid, by rw [hset, if_pos rfl], hoperation, hresult⟩

/-- a call is one of a request under way -/
theorem Follows.request_of_call (h : Follows r fromStr s c) {id : Nat} {call : Call ν}
    (hcall : s.call? id = some call) :
    ∃ n request, id = n + 2 ∧ c.requests[n]? = some request ∧ request.id = id ∧
      request.call? (c.reply? fromStr n) = some call := by
  obtain ⟨n, rfl⟩ : ∃ n, id = n + 2 := ⟨id - 2, (Nat.sub_add_cancel (h.later id call hcall)).symm⟩
  rw [h.calls n] at hcall
  obtain ⟨request, hn, hrequest⟩ := Option.bind_eq_some_iff.mp hcall
  exact ⟨n, request, rfl, hn, h.ids n request hn, hrequest⟩

/-! ## a request is made -/

/-- an operation that returns at once has no connection -/
theorem Link.mem_returned_sendRequest {op : Operation ν} {outcome : Outcome ν}
    (h : outcome ∈ (s.sendRequest op).returned) :
    outcome ∈ s.returned ∨
      s.write = none ∧ outcome = ⟨s.messageId + 1, op, .error .notConnected⟩ := by
  unfold Link.sendRequest at h
  cases hwrite : s.write with
  | some connection =>
    rw [hwrite] at h
    exact .inl h
  | none =>
    rw [hwrite] at h
    rcases List.mem_append.mp h with hold | hlast
    · exact .inl hold
    · exact .inr ⟨rfl, List.mem_singleton.mp hlast⟩

/-- the requests with the new one, which gets a call exactly if there is a connection -/
theorem Follows.exists_new (h : Follows r fromStr s c) (hfits : s.messageId + 1 < 2 ^ 64)
    (op : Operation ν) :
    ∃ new : Sending ν, (c.sendRequest op).requests = c.requests ++ [new] ∧
      new.id = s.messageId + 1 ∧ new.operation = op ∧
      new.call? none = (if s.write.isSome then some ⟨s.messageId + 1, op, false, none⟩
        else none) ∧
      (s.write = none → new.result? = some (.error .notConnected)) := by
  have hid : (c.messageId + 1) % 2 ^ 64 = s.messageId + 1 := by
    rw [h.counter]
    exact Nat.mod_eq_of_lt hfits
  refine ⟨_, rfl, hid, rfl, ?_, ?_⟩
  · rw [hid, h.write]
    cases s.write <;> rfl
  · intro hno
    rw [h.write, hno]
    rfl

/-- its id is kept for it -/
theorem Follows.pending_sendRequest (h : Follows r fromStr s c)
    (hfits : s.messageId + 1 < 2 ^ 64) (op : Operation ν) :
    (c.sendRequest op).exchange.pending
      = c.exchange.pending.insert (s.messageId + 1) c.requests.length := by
  rw [← Nat.mod_eq_of_lt hfits, ← h.counter, ← h.sound.length_tickets]
  rfl

/-- it has no reply yet -/
theorem Follows.reply?_new (h : Follows r fromStr s c) :
    c.reply? fromStr c.requests.length = none := by
  have hno : c.exchange.tickets[c.requests.length]? = none :=
    List.getElem?_eq_none h.sound.length_tickets.le
  unfold Correlation.reply?
  rw [hno]
  rfl

theorem Follows.request (h : Follows r fromStr s c) (hfits : s.messageId + 1 < 2 ^ 64)
    (op : Operation ν) (hw : (s.sendRequest op).WellFormed) :
    Follows r fromStr (s.sendRequest op) (c.sendRequest op) := by
  have hnext : s.messageId + 1 = c.requests.length + 2 := by rw [h.counted]
  obtain ⟨hreaders, -, hwrite, -⟩ := Link.frame_sendRequest s op
  obtain ⟨new, hnew, hnewId, hnewOp, hnewCall, hnewResult⟩ := h.exists_new hfits op
  have hat : ∀ n, (c.sendRequest op).requests[n]?
      = if n = c.requests.length then some new else c.requests[n]? := by
    intro n
    rw [hnew]
    rcases Nat.lt_trichotomy n c.requests.length with hlt | rfl | hgt
    · rw [if_neg (Nat.ne_of_lt hlt), List.getElem?_append_left hlt]
    · rw [if_pos rfl, List.getElem?_concat_length]
    · rw [if_neg (Nat.ne_of_gt hgt), List.getElem?_eq_none (Nat.le_of_lt hgt),
        List.getElem?_eq_none (by simpa using Nat.succ_le_of_lt hgt)]
  have hpending := h.pending_sendRequest hfits op
  refine ⟨hw, h.sound.request op, ?_, ?_, ?_, ?_, ?_, ?_, ?_, ?_, ?_, ?_, ?_⟩
  · rw [Link.messageId_sendRequest, ← Nat.mod_eq_of_lt hfits, ← h.counter]
    rfl
  · rw [Link.messageId_sendRequest, hnew, List.length_append, List.length_singleton, h.counted]
  · intro n request hn
    rw [hat] at hn
    split at hn
    · cases hn
      rename_i hlast
      rw [hnewId, hnext, hlast]
    · exact h.ids n request hn
  · rw [hwrite]
    exact h.write
  · rw [hwrite, hreaders]
    exact h.unread
  · have htoEdge : (s.sendRequest op).toEdge = s.toEdge := by
      unfold Link.sendRequest
      cases s.write <;> rfl
    rw [htoEdge]
    exact h.toEdge
  · intro id
    rw [Link.pending_sendRequest, List.mem_insert_iff, hpending]
    by_cases heq : id = s.messageId + 1
    · rw [heq, AList.lookup_insert]
      exact iff_of_true (.inl rfl) rfl
    · rw [AList.lookup_insert_ne heq, ← h.keys id]
      exact or_iff_right heq
  · intro id n hn
    rw [hpending] at hn
    by_cases heq : id = s.messageId + 1
    · rw [heq, AList.lookup_insert] at hn
      rw [heq, hnext, Option.some.inj hn]
    · rw [AList.lookup_insert_ne heq] at hn
      exact h.keptFor id n hn
  · intro n
    rw [Link.call?_sendRequest h.wellFormed, hat, Correlation.reply?_sendRequest]
    by_cases hn : n = c.requests.length
    · rw [if_pos (by rw [hn, hnext]), if_pos hn, hn, h.reply?_new, Option.bind_some, hnewCall]
    · rw [if_neg fun heq => hn (by omega), if_neg hn]
      exact h.calls n
  · intro id call hcall
    rw [Link.call?_sendRequest h.wellFormed] at hcall
    split at hcall
    · rename_i heq
      rw [heq, hnext]
      exact Nat.le_add_left 2 _
    · exact h.later id call hcall
  · intro outcome houtcome
    rcases Link.mem_returned_sendRequest houtcome with hold | ⟨hno, rfl⟩
    · obtain ⟨n, request, hid, hn, hrest⟩ := h.returned outcome hold
      have hne : n ≠ c.requests.length := Nat.ne_of_lt (List.getElem?_eq_some_iff.mp hn).1
      exact ⟨n, request, hid, by rw [hat, if_neg hne]; exact hn, hrest⟩
    · exact ⟨c.requests.length, new, hnext, by rw [hat, if_pos rfl], hnewOp.symm, hnewResult hno⟩

/-! ## a frame comes -/

section
variable {text : String}

/-- a text that leaves the keys and the replies as the connection has them -/
theorem Follows.received (h : Follows r fromStr s c) (hw : s'.WellFormed)
    (hmessageId : s'.messageId = s.messageId) (hwrite : s'.write = s.write)
    (hunread : s.readers = [] → s'.readers = []) (hreturned : s'.returned = s.returned)
    (htoEdge : s'.toEdge = s.toEdge ++ ((fromStr text).map Correlation.responses).getD [])
    (hkeys : ∀ id, id ∈ s'.pending ↔
      ((c.receive r fromStr text).exchange.pending.lookup id).isSome)
    (hkept : ∀ id n, (c.receive r fromStr text).exchange.pending.lookup id = some n →
      c.exchange.pending.lookup id = some n)
    (hcalls : ∀ n, s'.call? (n + 2)
      = c.requests[n]?.bind (Sending.call? ((c.receive r fromStr text).reply? fromStr n)))
    (hlater : ∀ id call, s'.call? id = some call → 2 ≤ id) :
    Follows r fromStr s' (c.receive r fromStr text) := by
  refine ⟨hw, h.sound.text text, h.counter.trans hmessageId.symm, hmessageId.trans h.counted,
    h.ids, ?_, fun hno => hunread (h.unread (hwrite ▸ hno)), ?_, hkeys,
    fun id n hn => h.keptFor id n (hkept id n hn), hcalls, hlater, ?_⟩
  · rw [hwrite]
    exact h.write
  · rw [htoEdge, ← h.toEdge]
    rfl
  · rw [hreturned]
    exact h.returned

/-- a text that completes no request -/
theorem Follows.skip (h : Follows r fromStr s c)
    (hskip : ∀ id, replyId? r fromStr text = some id → id ∉ s.pending) (hw : s'.WellFormed)
    (hlike : Like s s')
    (htoEdge : s'.toEdge = s.toEdge ++ ((fromStr text).map Correlation.responses).getD []) :
    Follows r fromStr s' (c.receive r fromStr text) := by
  have hnone : ∀ id, replyId? r fromStr text = some id → c.exchange.pending.lookup id = none := by
    intro id hid
    exact Option.not_isSome_iff_eq_none.mp fun hkept => hskip id hid ((h.keys id).mpr hkept)
  have hskipped := Exchange.frame?_receive_skip h.sound.matched hnone
  have hpending : (c.receive r fromStr text).exchange.pending = c.exchange.pending :=
    (hskipped 0).2
  have hreply : ∀ n, (c.receive r fromStr text).reply? fromStr n = c.reply? fromStr n := by
    intro n
    rw [Correlation.reply?_eq, Correlation.reply?_eq]
    exact congrArg (·.bind fromStr) (hskipped n).1
  have hcall : ∀ id, s'.call? id = s.call? id := by
    intro id
    unfold Link.call?
    rw [hlike.calls]
  refine h.received hw hlike.messageId hlike.write hlike.unread hlike.returned htoEdge ?_ ?_ ?_ ?_
  · rw [hpending, hlike.pending]
    exact h.keys
  · rw [hpending]
    exact fun _ _ hn => hn
  · intro n
    rw [hcall, hreply]
    exact h.calls n
  · intro id call hid
    exact h.later id call ((hcall id).symm.trans hid)

/-- a text that completes the request its id is kept for -/
theorem Follows.give (h : Follows r fromStr s c) {value : Json ν} {id : Nat}
    (hvalue : fromStr text = some value) (hmethod : method? value = none)
    (hid : id? r value = some id) (hpending : id ∈ s.pending) (hw : (s.resolve id value).WellFormed) :
    Follows r fromStr (s.resolve id value) (c.receive r fromStr text) := by
  have hreplyId : replyId? r fromStr text = some id :=
    replyId?_eq_some.mpr ⟨value, hvalue, hmethod, hid⟩
  obtain ⟨n, hn⟩ := Option.isSome_iff_exists.mp ((h.keys id).mp hpending)
  obtain rfl := h.keptFor id n hn
  have hgiven : ∀ m, (c.receive r fromStr text).reply? fromStr m
      = if m = n then some value else c.reply? fromStr m := by
    intro m
    rw [Correlation.reply?_eq, Correlation.reply?_eq]
    refine (congrArg (·.bind fromStr)
      (Exchange.frame?_receive_give h.sound.matched hreplyId hn m)).trans ?_
    by_cases hm : m = n
    · rw [if_pos hm, if_pos hm]
      exact hvalue
    · rw [if_neg hm, if_neg hm]
  have herased : (c.receive r fromStr text).exchange.pending = c.exchange.pending.erase (n + 2) := by
    show (c.exchange.receive (replyId? r fromStr) text).pending = _
    unfold Exchange.receive
    simp only [hreplyId, hn]
  have hresolve : s.resolve (n + 2) value = Link.update
      { s with pending := s.pending.filter (· ≠ n + 2) } (n + 2) fun call =>
        { call with reply := some value } := if_pos hpending
  have hcall : ∀ i, (s.resolve (n + 2) value).call? i = if i = n + 2 then
      (s.call? (n + 2)).map fun call => { call with reply := some value } else s.call? i := by
    intro i
    rw [hresolve]
    exact @Link.call?_update _ { s with pending := _ } (n + 2)
      (fun call => { call with reply := some value }) (fun _ => rfl) i
  obtain ⟨hmessageId, hreaders, -, hwrite, -⟩ := Link.frame_resolve s (n + 2) value
  have htoEdge : (s.resolve (n + 2) value).toEdge
      = s.toEdge ++ ((fromStr text).map Correlation.responses).getD [] := by
    have hnothing : Correlation.responses value = [] := by
      unfold Correlation.responses
      rw [hmethod]
      exact if_neg fun heq => by cases heq
    rw [hresolve, hvalue, Option.map_some, Option.getD_some, hnothing, List.append_nil]
    rfl
  refine h.received hw hmessageId hwrite (fun hno => hreaders.trans hno) (by rw [hresolve]; rfl)
    htoEdge ?_ ?_ ?_ ?_
  · intro i
    rw [Link.mem_pending_resolve, herased]
    by_cases hi : i = n + 2
    · rw [hi, AList.lookup_erase]
      exact iff_of_false (fun hmem => hmem.2 rfl) Bool.false_ne_true
    · rw [AList.lookup_erase_ne hi, ← h.keys i]
      exact and_iff_left hi
  · intro i m hm
    rw [herased] at hm
    by_cases hi : i = n + 2
    · rw [hi, AList.lookup_erase] at hm
      cases hm
    · rwa [AList.lookup_erase_ne hi] at hm
  · intro m
    rw [hcall, hgiven]
    by_cases hm : m = n
    · subst hm
      rw [if_pos rfl, if_pos rfl, h.calls m]
      cases c.requests[m]? with
      | none => rfl
      | some request =>
        obtain ⟨id, op, progress⟩ := request
        cases progress <;> rfl
    · rw [if_neg fun heq => hm (Nat.add_right_cancel heq), if_neg hm]
      exact h.calls m
  · intro i call hi
    rw [hcall] at hi
    split at hi
    · rename_i hat
      exact hat ▸ Nat.le_add_left 2 n
    · exact h.later i call hi

end

/-- the values and keys after a call of Edge Core are those before it -/
theorem Link.like_respond_forward (s : Link ν) (k : Nat) (value : Json ν)
    (event : Option WriteEvent) : Like s ((s.respond value).forward k event) ∧
      ((s.respond value).forward k event).toEdge
        = s.toEdge ++ ((value.get "id").map writeResponse).toList := by
  have hrespond : Like s (s.respond value) ∧ (s.respond value).toEdge
      = s.toEdge ++ ((value.get "id").map writeResponse).toList := by
    unfold Link.respond
    cases value.get "id" with
    | none => exact ⟨⟨rfl, rfl, fun h => h, rfl, rfl, rfl⟩, (List.append_nil _).symm⟩
    | some id => exact ⟨⟨rfl, rfl, fun h => h, rfl, rfl, rfl⟩, rfl⟩
  obtain ⟨hlike, htoEdge⟩ := hrespond
  generalize s.respond value = s₁ at hlike htoEdge ⊢
  unfold Link.forward
  cases event with
  | none => exact ⟨hlike, htoEdge⟩
  | some event =>
    simp only
    split
    · exact ⟨⟨hlike.messageId, hlike.write, hlike.unread, hlike.pending, hlike.calls,
        hlike.returned⟩, htoEdge⟩
    · refine ⟨⟨hlike.messageId, hlike.write, fun hno => ?_, hlike.pending, hlike.calls,
        hlike.returned⟩, htoEdge⟩
      show s₁.readers.modify k _ = []
      rw [hlike.unread hno]
      cases k <;> rfl

theorem Follows.frame (h : Follows r fromStr s c) {print : Json ν → String}
    (hprint : ∀ value, fromStr (print value) = some value) (k : Nat) (value : Json ν)
    (hw : (s.receive r k value).WellFormed) :
    Follows r fromStr (s.receive r k value) (c.receive r fromStr (print value)) := by
  have hlikeSelf : Like s s := ⟨rfl, rfl, fun hno => hno, rfl, rfl, rfl⟩
  cases hmethod : method? value with
  | some method =>
    have hno : replyId? r fromStr (print value) = none := by
      unfold replyId?
      rw [hprint, Option.bind_some, hmethod]
      rfl
    have hskip : ∀ id, replyId? r fromStr (print value) = some id → id ∉ s.pending := by
      intro id hid
      cases hno.symm.trans hid
    by_cases hwrite : method = "write"
    · have hreceive : s.receive r k value
          = (s.respond value).forward k (writeEvent? r value) := by
        unfold Link.receive
        simp only [hmethod, if_pos hwrite]
      have hresponses : Correlation.responses value
          = ((value.get "id").map writeResponse).toList := by
        unfold Correlation.responses
        rw [hmethod, hwrite, if_pos rfl]
      obtain ⟨hlike, htoEdge⟩ := s.like_respond_forward k value (writeEvent? r value)
      rw [hreceive] at hw ⊢
      refine h.skip hskip hw hlike ?_
      rw [htoEdge, hprint, Option.map_some, Option.getD_some, hresponses]
    · have hreceive : s.receive r k value = s := by
        unfold Link.receive
        simp only [hmethod, if_neg hwrite]
      have hresponses : Correlation.responses value = [] := by
        unfold Correlation.responses
        rw [hmethod]
        exact if_neg fun heq => hwrite (Option.some.inj heq)
      rw [hreceive] at hw ⊢
      refine h.skip hskip hw hlikeSelf ?_
      rw [hprint, Option.map_some, Option.getD_some, hresponses, List.append_nil]
  | none =>
    have hresponses : Correlation.responses value = [] := by
      unfold Correlation.responses
      rw [hmethod]
      exact if_neg fun heq => by cases heq
    have htoEdge : s.toEdge
        = s.toEdge ++ ((fromStr (print value)).map Correlation.responses).getD [] := by
      rw [hprint, Option.map_some, Option.getD_some, hresponses, List.append_nil]
    have hreplyId : replyId? r fromStr (print value) = id? r value := by
      unfold replyId?
      rw [hprint, Option.bind_some, hmethod]
      rfl
    cases hid : id? r value with
    | none =>
      have hreceive : s.receive r k value = s := by
        unfold Link.receive
        simp only [hmethod, hid]
      rw [hreceive] at hw ⊢
      refine h.skip (fun id hreply => ?_) hw hlikeSelf htoEdge
      cases (hreplyId.trans hid).symm.trans hreply
    | some id =>
      have hreceive : s.receive r k value = s.resolve id value := by
        unfold Link.receive
        simp only [hmethod, hid]
      rw [hreceive] at hw ⊢
      by_cases hpending : id ∈ s.pending
      · exact h.give (hprint value) hmethod hid hpending hw
      · have hresolve : s.resolve id value = s := if_neg hpending
        rw [hresolve] at hw ⊢
        refine h.skip (fun i hreply => ?_) hw hlikeSelf htoEdge
        cases (hreplyId.trans hid).symm.trans hreply
        exact hpending

/-! ## the whole of a connection -/

/-- **A step of the connection is a step of the requests and frames.** -/
theorem Follows.step (h : Follows r fromStr s c) {print : Json ν → String}
    (hprint : ∀ value, fromStr (print value) = some value) {e : LinkEvent ν}
    (hfits : s.messageId + 1 < 2 ^ 64) (hstep : s.step r e = some s') :
    ∃ c', run (Correlation.step r fromStr) c (e.traffic print) = some c' ∧
      Follows r fromStr s' c' := by
  have hw : s'.WellFormed := h.wellFormed.step hstep
  have hone : ∀ (t : Traffic ν) c', c.step r fromStr t = some c' →
      run (Correlation.step r fromStr) c [t] = some c' := by
    intro t c' ht
    rw [run_cons, ht]
    rfl
  cases Link.taken_of_step hstep with
  | connect =>
    refine ⟨{ c with write := true }, hone _ _ rfl, hw, ?_, h.counter, h.counted, h.ids, rfl,
      (fun hno => by cases hno), h.toEdge, h.keys, h.keptFor, h.calls, h.later, h.returned⟩
    exact ⟨h.sound.matched, h.sound.keys, h.sound.ids, h.sound.messageId, h.sound.returned⟩
  | request op => exact ⟨_, hone _ _ rfl, h.request hfits op hw⟩
  | @sent id call hcall hsent =>
    obtain ⟨n, ⟨id, op, progress⟩, rfl, hn, rfl, hrequest⟩ := h.request_of_call hcall
    obtain ⟨hunder, hprogress, hcallEq⟩ := Sending.of_call? hrequest
    rw [hsent] at hprogress hcallEq
    obtain rfl : progress = .sending := hprogress
    have hstep' : c.step r fromStr (.sent n) = some
        ({ c with toEdge := c.toEdge ++ [op.request r (n + 2)] }.setProgress n .awaiting) := by
      simp only [Correlation.step, hn]
    refine ⟨_, hone _ _ hstep', h.progress hn hunder _ (fun v hv => by cases hv) hw rfl rfl rfl ?_
      rfl (fun id => ?_) fun outcome houtcome => .inl houtcome⟩
    · rw [h.toEdge, hcallEq]
      rfl
    · refine (@Link.call?_update _ { s with toEdge := _ } (n + 2)
        (fun c => { c with sent := true }) (fun _ => rfl) id).trans ?_
      have hat : Link.call? { s with toEdge := s.toEdge ++ [call.operation.request r (n + 2)] }
          (n + 2) = some call := hcall
      rw [hat, hcallEq]
      rfl
  | @sendFailed id call hcall hsent =>
    obtain ⟨n, ⟨id, op, progress⟩, rfl, hn, rfl, hrequest⟩ := h.request_of_call hcall
    obtain ⟨hunder, hprogress, hcallEq⟩ := Sending.of_call? hrequest
    rw [hsent] at hprogress hcallEq
    obtain rfl : progress = .sending := hprogress
    have hstep' : c.step r fromStr (.sendFailed n) = some
        (c.setProgress n (.returned (.error (.send .sendFailed)))) := by
      simp only [Correlation.step, hn]
    refine ⟨_, hone _ _ hstep', h.progress hn hunder c.toEdge (fun v hv => by cases hv) hw rfl rfl
      rfl h.toEdge.symm rfl Link.call?_remove fun outcome houtcome => ?_⟩
    rcases List.mem_append.mp houtcome with hold | hlast
    · exact .inl hold
    · rw [List.mem_singleton.mp hlast, hcallEq]
      exact .inr ⟨rfl, rfl, rfl⟩
  | @dropped id call hcall =>
    obtain ⟨n, ⟨id, op, progress⟩, rfl, hn, rfl, hrequest⟩ := h.request_of_call hcall
    obtain ⟨hunder, hprogress, -⟩ := Sending.of_call? hrequest
    have hstep' : c.step r fromStr (.dropped n) = some (c.setProgress n .dropped) := by
      cases hsent : call.sent with
      | true =>
        obtain rfl : progress = .awaiting := by rw [hsent] at hprogress; exact hprogress
        simp only [Correlation.step, hn]
      | false =>
        obtain rfl : progress = .sending := by rw [hsent] at hprogress; exact hprogress
        simp only [Correlation.step, hn]
    exact ⟨_, hone _ _ hstep', h.progress hn hunder c.toEdge (fun v hv => by cases hv) hw rfl rfl
      rfl h.toEdge.symm rfl Link.call?_remove fun outcome houtcome => .inl houtcome⟩
  | @returns id call value hcall hsent hreply =>
    obtain ⟨n, ⟨id, op, progress⟩, rfl, hn, rfl, hrequest⟩ := h.request_of_call hcall
    obtain ⟨hunder, hprogress, hcallEq⟩ := Sending.of_call? hrequest
    rw [hsent] at hprogress hcallEq
    obtain rfl : progress = .awaiting := hprogress
    have hvalue : c.reply? fromStr n = some value := by
      rw [hcallEq] at hreply
      exact hreply
    have hstep' : c.step r fromStr (.replied n) = some
        (c.setProgress n (.returned (.ok value))) := by
      simp only [Correlation.step, hn, hvalue]
    refine ⟨_, hone _ _ hstep', h.progress hn hunder c.toEdge
      (fun v hv => by cases hv; exact hvalue) hw rfl rfl rfl h.toEdge.symm rfl Link.call?_remove
      fun outcome houtcome => ?_⟩
    rcases List.mem_append.mp houtcome with hold | hlast
    · exact .inl hold
    · rw [List.mem_singleton.mp hlast, hcallEq]
      exact .inr ⟨rfl, rfl, rfl⟩
  | @frame k connection value hreader =>
    have hwrite : c.write = true := by
      rw [h.write]
      cases hno : s.write with
      | some _ => rfl
      | none =>
        rw [h.unread hno] at hreader
        cases hreader
    exact ⟨_, hone _ _ (if_pos hwrite), h.frame hprint k value hw⟩
  | readerEnds hreader =>
    refine ⟨c, rfl, h.congr hw ⟨rfl, rfl, fun hno => ?_, rfl, rfl, rfl⟩ rfl⟩
    rw [hno] at hreader
    cases hreader
  | unblocked hreader hroom =>
    refine ⟨c, rfl, h.congr hw ⟨rfl, rfl, fun hno => ?_, rfl, rfl, rfl⟩ rfl⟩
    rw [hno] at hreader
    cases hreader
  | consumerSpawned => exact ⟨c, rfl, h.congr hw ⟨rfl, rfl, fun hno => hno, rfl, rfl, rfl⟩ rfl⟩
  | consume _ _ => exact ⟨c, rfl, h.congr hw ⟨rfl, rfl, fun hno => hno, rfl, rfl, rfl⟩ rfl⟩

/-- **A run of the connection whose ids fit a `u64` is one of the requests and frames**, which end
with the same counter, keys, calls, results and texts to Edge Core. -/
theorem Link.follows {print : Json ν → String}
    (hprint : ∀ value, fromStr (print value) = some value) {es : List (LinkEvent ν)}
    (hrun : Run (Link.step r) (fun s _ => s.messageId + 1 < 2 ^ 64) Link.start es s) :
    ∃ c, run (Correlation.step r fromStr) Correlation.start
        (es.flatMap (LinkEvent.traffic print)) = some c ∧ Follows r fromStr s c :=
  hrun.simulates follows_start fun _ _ _ _ h hfits hstep => h.step hprint hfits hstep

end

end EdgeTranslators.Kaas
