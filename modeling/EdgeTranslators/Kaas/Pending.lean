import EdgeTranslators.Kaas.Connection
import Mathlib.Data.List.Nodup

/-!
# The pending requests

* `Link.waiting`            the calls that await a reply;
* `Link.WellFormed`         what holds in every run: a call that waits has its key;
* `Link.Exact`              the keys are those of the calls that wait, and somebody reads for them;
* `Link.restores`           a step that leaves neither a key nor a call behind;
* `Link.Change`             what a step can do to all this;
* `Link.exact_of_restores`  runs of such steps stay exact, and no other step keeps a table exact.
-/

namespace EdgeTranslators.Kaas
open Lib

namespace Link
section
variable {ν : Type} {r : Serde ν} {s s' : Link ν}

/-- the ids of the `send_request` calls that await a reply -/
def waiting (s : Link ν) : List Nat := (s.calls.filter Call.awaiting).map Call.id

def ids (s : Link ν) : List Nat := s.calls.map Call.id

theorem mem_waiting {id : Nat} :
    id ∈ s.waiting ↔ ∃ call ∈ s.calls, call.awaiting ∧ call.id = id := by
  simp [waiting, and_assoc]

theorem mem_ids_of_waiting {id : Nat} (h : id ∈ s.waiting) : id ∈ s.ids := by
  obtain ⟨call, hcall, -, hid⟩ := mem_waiting.mp h
  exact hid ▸ List.mem_map_of_mem hcall

theorem ids_update (id : Nat) {f : Call ν → Call ν} (hf : ∀ c, (f c).id = c.id) :
    (s.update id f).ids = s.ids := by
  unfold ids update
  rw [List.map_map]
  apply List.map_congr_left
  intro c _
  show (if c.id = id then f c else c).id = c.id
  split
  · exact hf c
  · rfl

theorem waiting_update (id : Nat) {f : Call ν → Call ν} (hf : ∀ c, (f c).id = c.id)
    (hreply : ∀ c, (f c).reply = c.reply) : (s.update id f).waiting = s.waiting := by
  unfold waiting update
  induction s.calls with
  | nil => rfl
  | cons c calls ih =>
    have hid : (if c.id = id then f c else c).id = c.id := by
      split
      · exact hf c
      · rfl
    have hawaiting : (if c.id = id then f c else c).awaiting = c.awaiting := by
      unfold Call.awaiting
      split
      · rw [hreply]
      · rfl
    rw [List.map_cons, List.filter_cons, List.filter_cons, hawaiting]
    split
    · rw [List.map_cons, List.map_cons, hid, ih]
    · exact ih

theorem mem_waiting_remove {id i : Nat} : i ∈ (s.remove id).waiting ↔ i ∈ s.waiting ∧ i ≠ id := by
  rw [mem_waiting, mem_waiting]
  constructor
  · rintro ⟨call, hcall, hawaiting, rfl⟩
    obtain ⟨hcall, hne⟩ := List.mem_filter.mp hcall
    exact ⟨⟨call, hcall, hawaiting, rfl⟩, of_decide_eq_true hne⟩
  · rintro ⟨⟨call, hcall, hawaiting, rfl⟩, hne⟩
    exact ⟨call, List.mem_filter.mpr ⟨hcall, decide_eq_true hne⟩, hawaiting, rfl⟩

theorem ids_remove_sublist (id : Nat) : (s.remove id).ids.Sublist s.ids :=
  List.filter_sublist.map _

theorem call?_eq_some {id : Nat} {call : Call ν} (h : s.call? id = some call) :
    call ∈ s.calls ∧ call.id = id := by
  have hid := List.find?_some h
  exact ⟨List.mem_of_find?_eq_some h, of_decide_eq_true hid⟩

/-- what holds in every run -/
structure WellFormed (s : Link ν) : Prop where
  nodup : s.ids.Nodup
  ids_le : ∀ id ∈ s.ids, id ≤ s.messageId
  pending_le : ∀ id ∈ s.pending, id ≤ s.messageId
  awaited : ∀ id ∈ s.waiting, id ∈ s.pending
  readers_le : s.readers.length ≤ s.opened
  connections : ∀ reader ∈ s.readers, reader.connection < s.opened

theorem WellFormed.start : WellFormed (start : Link ν) :=
  ⟨List.nodup_nil, nofun, nofun, nofun, Nat.le_refl 0, nofun⟩

/-- two calls never have one id -/
theorem WellFormed.eq_of_id (h : s.WellFormed) {c d : Call ν} (hc : c ∈ s.calls) (hd : d ∈ s.calls)
    (hid : c.id = d.id) : c = d :=
  List.inj_on_of_nodup_map h.nodup hc hd hid

/-- a call with its reply does not wait -/
theorem WellFormed.not_mem_waiting (h : s.WellFormed) {call : Call ν} (hcall : call ∈ s.calls)
    (hreply : call.awaiting = false) : call.id ∉ s.waiting := by
  intro hmem
  obtain ⟨d, hd, hawaiting, hid⟩ := mem_waiting.mp hmem
  rw [h.eq_of_id hd hcall hid, hreply] at hawaiting
  cases hawaiting

theorem WellFormed.lt_messageId (h : s.WellFormed) : s.messageId + 1 ∉ s.ids := by
  intro hmem
  have hle := h.ids_le _ hmem
  omega

/-! ### the parts of a step -/

theorem WellFormed.remove (h : s.WellFormed) (id : Nat) : (s.remove id).WellFormed where
  nodup := h.nodup.sublist (ids_remove_sublist id)
  ids_le i hi := h.ids_le i ((ids_remove_sublist id).subset hi)
  pending_le := h.pending_le
  awaited i hi := h.awaited i (mem_waiting_remove.mp hi).1
  readers_le := h.readers_le
  connections := h.connections

/-- what the invariants read -/
structure Same (s s' : Link ν) : Prop where
  messageId : s'.messageId = s.messageId
  pending : s'.pending = s.pending
  ids : s'.ids = s.ids
  waiting : s'.waiting = s.waiting
  readers : s'.readers.map Reader.connection = s.readers.map Reader.connection
  opened : s'.opened = s.opened

theorem Same.refl (s : Link ν) : Same s s := ⟨rfl, rfl, rfl, rfl, rfl, rfl⟩

theorem Same.trans {s'' : Link ν} (h : Same s s') (h' : Same s' s'') : Same s s'' :=
  ⟨h'.1.trans h.1, h'.2.trans h.2, h'.3.trans h.3, h'.4.trans h.4, h'.5.trans h.5,
    h'.6.trans h.6⟩

theorem Same.length (h : Same s s') : s'.readers.length = s.readers.length := by
  have hlength := congrArg List.length h.readers
  rwa [List.length_map, List.length_map] at hlength

theorem WellFormed.congr (h : s.WellFormed) (hsame : Same s s') : s'.WellFormed := by
  constructor
  · rw [hsame.ids]; exact h.nodup
  · rw [hsame.ids, hsame.messageId]; exact h.ids_le
  · rw [hsame.pending, hsame.messageId]; exact h.pending_le
  · rw [hsame.waiting, hsame.pending]; exact h.awaited
  · rw [hsame.length, hsame.opened]; exact h.readers_le
  · intro reader hreader
    have hmem : reader.connection ∈ s.readers.map Reader.connection :=
      hsame.readers ▸ List.mem_map_of_mem hreader
    obtain ⟨old, hold, heq⟩ := List.mem_map.mp hmem
    rw [hsame.opened, ← heq]
    exact h.connections old hold

theorem Same.return' (s : Link ν) (call : Call ν) (result : Except SendError Unit) :
    Same s (s.return' call result) := ⟨rfl, rfl, rfl, rfl, rfl, rfl⟩

theorem Same.sent (s : Link ν) (id : Nat) (toEdge : List (Json ν)) :
    Same s ({ s with toEdge }.update id fun c => { c with sent := true }) :=
  ⟨rfl, rfl, @ids_update _ { s with toEdge } id _ fun _ => rfl,
    @waiting_update _ { s with toEdge } id _ (fun _ => rfl) fun _ => rfl, rfl, rfl⟩

theorem Same.respond (s : Link ν) (value : Json ν) : Same s (s.respond value) := by
  unfold Link.respond
  split <;> exact ⟨rfl, rfl, rfl, rfl, rfl, rfl⟩

/-- a reader that blocks or goes on keeps its connection -/
theorem connection_modify (readers : List Reader) (k : Nat) (blocked : Option WriteEvent) :
    (readers.modify k fun reader => { reader with blocked }).map Reader.connection =
      readers.map Reader.connection := by
  apply List.ext_getElem?
  intro i
  rw [List.getElem?_map, List.getElem?_map, List.getElem?_modify]
  cases readers[i]? with
  | none => rfl
  | some reader => by_cases hik : k = i <;> simp [hik]

theorem Same.forward (s : Link ν) (k : Nat) (event : Option WriteEvent) :
    Same s (s.forward k event) := by
  unfold Link.forward
  split
  · split
    · exact ⟨rfl, rfl, rfl, rfl, rfl, rfl⟩
    · exact ⟨rfl, rfl, rfl, rfl, connection_modify _ _ _, rfl⟩
  · exact Same.refl s

/-- `resolve` takes the key, and its call out of those that wait -/
theorem mem_pending_resolve {id i : Nat} {value : Json ν} :
    i ∈ (s.resolve id value).pending ↔ i ∈ s.pending ∧ i ≠ id := by
  unfold resolve
  split
  · show i ∈ s.pending.filter (· ≠ id) ↔ _
    simp
  · rename_i hid
    constructor
    · intro hi
      exact ⟨hi, fun heq => hid (heq ▸ hi)⟩
    · exact fun hi => hi.1

theorem mem_waiting_resolve (h : s.WellFormed) {id i : Nat} {value : Json ν} :
    i ∈ (s.resolve id value).waiting ↔ i ∈ s.waiting ∧ i ≠ id := by
  unfold resolve
  split
  · rw [mem_waiting, mem_waiting]
    constructor
    · rintro ⟨call, hcall, hawaiting, rfl⟩
      obtain ⟨c, hc, rfl⟩ := List.mem_map.mp hcall
      split at hawaiting
      · cases hawaiting
      · rename_i hne
        rw [if_neg hne]
        exact ⟨⟨c, hc, hawaiting, rfl⟩, hne⟩
    · rintro ⟨⟨call, hcall, hawaiting, rfl⟩, hne⟩
      refine ⟨call, List.mem_map.mpr ⟨call, hcall, if_neg hne⟩, hawaiting, rfl⟩
  · rename_i hid
    constructor
    · intro hi
      exact ⟨hi, fun heq => hid (heq ▸ h.awaited i hi)⟩
    · exact fun hi => hi.1

/-- what `resolve` leaves alone -/
theorem frame_resolve (s : Link ν) (id : Nat) (value : Json ν) :
    (s.resolve id value).messageId = s.messageId ∧ (s.resolve id value).readers = s.readers ∧
      (s.resolve id value).opened = s.opened ∧ (s.resolve id value).write = s.write ∧
        (s.resolve id value).consumer = s.consumer := by
  unfold resolve
  split <;> exact ⟨rfl, rfl, rfl, rfl, rfl⟩

theorem WellFormed.resolve (h : s.WellFormed) (id : Nat) (value : Json ν) :
    (s.resolve id value).WellFormed := by
  have hids : (s.resolve id value).ids = s.ids := by
    unfold Link.resolve
    split
    · exact @ids_update _ { s with pending := _ } id _ fun _ => rfl
    · rfl
  obtain ⟨hmessage, hreaders, hopened, -⟩ := frame_resolve s id value
  constructor
  · rw [hids]; exact h.nodup
  · rw [hids, hmessage]; exact h.ids_le
  · rw [hmessage]
    intro i hi
    exact h.pending_le i (mem_pending_resolve.mp hi).1
  · intro i hi
    obtain ⟨hi, hne⟩ := (mem_waiting_resolve h).mp hi
    exact mem_pending_resolve.mpr ⟨h.awaited i hi, hne⟩
  · rw [hreaders, hopened]; exact h.readers_le
  · rw [hreaders, hopened]; exact h.connections

theorem messageId_sendRequest (op : Operation ν) :
    (s.sendRequest op).messageId = s.messageId + 1 := by
  unfold sendRequest
  cases s.write <;> rfl

theorem pending_sendRequest (op : Operation ν) :
    (s.sendRequest op).pending = s.pending.insert (s.messageId + 1) := by
  unfold sendRequest
  cases s.write <;> rfl

/-- what `send_request` leaves alone -/
theorem frame_sendRequest (s : Link ν) (op : Operation ν) :
    (s.sendRequest op).readers = s.readers ∧ (s.sendRequest op).opened = s.opened ∧
      (s.sendRequest op).write = s.write ∧ (s.sendRequest op).consumer = s.consumer := by
  unfold sendRequest
  cases s.write <;> exact ⟨rfl, rfl, rfl, rfl⟩

theorem ids_sendRequest (op : Operation ν) :
    (s.sendRequest op).ids = s.ids ++ if s.write.isSome then [s.messageId + 1] else [] := by
  unfold sendRequest ids
  cases s.write with
  | none => exact (List.append_nil _).symm
  | some c => exact List.map_append

theorem waiting_sendRequest (op : Operation ν) :
    (s.sendRequest op).waiting = s.waiting ++ if s.write.isSome then [s.messageId + 1] else [] := by
  unfold sendRequest waiting
  cases s.write with
  | none => exact (List.append_nil _).symm
  | some c =>
    show ((s.calls ++ [_]).filter Call.awaiting).map Call.id = _
    rw [List.filter_append, List.map_append]
    rfl

theorem WellFormed.sendRequest (h : s.WellFormed) (op : Operation ν) :
    (s.sendRequest op).WellFormed := by
  have hmem : ∀ i ∈ (if s.write.isSome then [s.messageId + 1] else []), i = s.messageId + 1 := by
    intro i hi
    split at hi
    · exact List.mem_singleton.mp hi
    · cases hi
  obtain ⟨hreaders, hopened, -⟩ := frame_sendRequest s op
  constructor
  · rw [ids_sendRequest]
    split
    · exact List.nodup_append_comm.mp
        (List.nodup_cons.mpr ⟨h.lt_messageId, h.nodup⟩)
    · rw [List.append_nil]; exact h.nodup
  · intro i hi
    rw [ids_sendRequest] at hi
    rw [messageId_sendRequest]
    rcases List.mem_append.mp hi with hi | hi
    · have hle := h.ids_le i hi
      omega
    · have heq := hmem i hi
      omega
  · intro i hi
    rw [pending_sendRequest] at hi
    rw [messageId_sendRequest]
    rcases List.mem_insert_iff.mp hi with heq | hi
    · omega
    · have hle := h.pending_le i hi
      omega
  · intro i hi
    rw [waiting_sendRequest] at hi
    rw [pending_sendRequest, List.mem_insert_iff]
    rcases List.mem_append.mp hi with hi | hi
    · exact Or.inr (h.awaited i hi)
    · exact Or.inl (hmem i hi)
  · rw [hreaders, hopened]; exact h.readers_le
  · rw [hreaders, hopened]; exact h.connections

/-! ### exactness -/

/-- the keys of `pending_requests` are the ids of the calls that wait, and once the reader of the
only connection has ended nobody waits -/
structure Exact (s : Link ν) : Prop where
  keys : ∀ id, id ∈ s.pending ↔ id ∈ s.waiting
  served : s.opened = 1 → s.readers = [] → s.waiting = []

/-- nobody is left behind: a request is made while the connection is read, a call that fails or goes
away has its reply, and the reader of the only connection ends when nobody waits -/
def restores (s : Link ν) : LinkEvent ν → Prop
  | .request _ => s.write.isSome ∧ (s.opened = 1 → s.readers ≠ [])
  | .sendFailed id | .dropped id => id ∉ s.waiting
  | .readerEnds _ => s.opened = 1 → s.waiting = []
  | _ => True

instance (s : Link ν) (e : LinkEvent ν) : Decidable (s.restores e) := by
  cases e <;> unfold restores <;> infer_instance

theorem Exact.start : Exact (start : Link ν) := ⟨fun _ => Iff.rfl, nofun⟩

theorem Exact.congr (h : Exact s) (hsame : Same s s') : Exact s' := by
  constructor
  · rw [hsame.pending, hsame.waiting]; exact h.keys
  · intro hopened hreaders
    have hlength := hsame.length
    rw [hreaders, List.length_nil] at hlength
    rw [hsame.waiting]
    exact h.served (hsame.opened ▸ hopened) (List.length_eq_zero_iff.mp hlength.symm)

theorem Same.symm (h : Same s s') : Same s' s :=
  ⟨h.1.symm, h.2.symm, h.3.symm, h.4.symm, h.5.symm, h.6.symm⟩

theorem Exact.congr_iff (hsame : Same s s') : Exact s' ↔ Exact s :=
  ⟨fun h => h.congr hsame.symm, fun h => h.congr hsame⟩

/-- what a step can do, for the invariants -/
inductive Change (s : Link ν) : LinkEvent ν → Link ν → Prop where
  | same {e : LinkEvent ν} {s' : Link ν} (h : Same s s') (hrestores : s.restores e) :
      Change s e s'
  | connect : Change s .connect { s with
      write := some s.opened
      readers := s.readers ++ [{ connection := s.opened, blocked := none }]
      opened := s.opened + 1 }
  | request (op : Operation ν) : Change s (.request op) (s.sendRequest op)
  | leaves {e : LinkEvent ν} {s' : Link ν} {id : Nat} (h : Same (s.remove id) s')
      (hrestores : s.restores e ↔ id ∉ s.waiting) : Change s e s'
  | resolve {e : LinkEvent ν} (id : Nat) (value : Json ν) (hrestores : s.restores e) :
      Change s e (s.resolve id value)
  | readerEnds {k : Nat} (hk : k < s.readers.length) :
      Change s (.readerEnds k) { s with readers := s.readers.eraseIdx k }

theorem change_of_step {e : LinkEvent ν} (hw : s.WellFormed) (hstep : step r s e = some s') :
    Change s e s' := by
  cases taken_of_step hstep with
  | connect => exact .connect
  | request op => exact .request op
  | @sent id call hcall hsent => exact .same (Same.sent s id _) trivial
  | @sendFailed id call hcall hsent => exact .leaves (Same.return' (s.remove id) _ _) Iff.rfl
  | @dropped id call hcall => exact .leaves (Same.refl (s.remove id)) Iff.rfl
  | returns hcall hsent hreply =>
    obtain ⟨hmem, rfl⟩ := call?_eq_some hcall
    have hawaiting : Call.awaiting _ = false := congrArg Option.isNone hreply
    exact .leaves (Same.return' (s.remove _) _ _)
      (iff_of_true trivial (hw.not_mem_waiting hmem hawaiting))
  | @frame k connection value hreader =>
    rcases receive_cases r s k value with ⟨-, h⟩ | ⟨id, -, h⟩ | h
    · rw [h]
      exact .same ((Same.respond s value).trans (Same.forward _ k _)) trivial
    · rw [h]
      exact .resolve id value trivial
    · rw [h]
      exact .same (Same.refl s) trivial
  | readerEnds hreader => exact .readerEnds (List.getElem?_eq_some_iff.mp hreader).1
  | unblocked hreader hroom =>
    exact .same ⟨rfl, rfl, rfl, rfl, connection_modify _ _ _, rfl⟩ trivial
  | consumerSpawned | consume _ _ => exact .same ⟨rfl, rfl, rfl, rfl, rfl, rfl⟩ trivial

theorem WellFormed.step {e : LinkEvent ν} (h : s.WellFormed) (hstep : step r s e = some s') :
    s'.WellFormed := by
  cases change_of_step h hstep with
  | same hsame _ => exact h.congr hsame
  | connect =>
    refine ⟨h.nodup, h.ids_le, h.pending_le, h.awaited, ?_, fun reader hreader => ?_⟩
    · show (s.readers ++ [_]).length ≤ s.opened + 1
      rw [List.length_append]
      exact Nat.add_le_add_right h.readers_le 1
    · show reader.connection < s.opened + 1
      rcases List.mem_append.mp hreader with hreader | hreader
      · have hlt := h.connections reader hreader
        omega
      · rw [List.mem_singleton.mp hreader]
        exact Nat.lt_succ_self _
  | request op => exact h.sendRequest op
  | leaves hsame _ => exact (h.remove _).congr hsame
  | resolve id value _ => exact h.resolve id value
  | readerEnds hk =>
    refine ⟨h.nodup, h.ids_le, h.pending_le, h.awaited, ?_, fun reader hreader => ?_⟩
    · exact (List.length_eraseIdx_le _ _).trans h.readers_le
    · exact h.connections reader ((List.eraseIdx_sublist _ _).subset hreader)

/-- a request keeps the table exact when it gets a call, and somebody reads for it -/
theorem exact_sendRequest_iff (hw : s.WellFormed) (hx : s.Exact) (op : Operation ν) :
    (s.sendRequest op).Exact ↔ s.write.isSome ∧ (s.opened = 1 → s.readers ≠ []) := by
  obtain ⟨hreaders, hopened, -⟩ := frame_sendRequest s op
  constructor
  · intro h
    cases hwrite : s.write.isSome with
    | false =>
      -- the key has no call
      have hkey := (h.keys (s.messageId + 1)).mp
        (by rw [pending_sendRequest]; exact List.mem_insert_self)
      rw [waiting_sendRequest, hwrite, if_neg Bool.false_ne_true, List.append_nil] at hkey
      exact absurd (mem_ids_of_waiting hkey) hw.lt_messageId
    | true =>
      refine ⟨rfl, fun hone hnil => ?_⟩
      have hnobody := h.served (hopened.trans hone) (hreaders.trans hnil)
      rw [waiting_sendRequest, hwrite, if_pos rfl] at hnobody
      exact absurd hnobody (List.append_ne_nil_of_right_ne_nil _ (List.cons_ne_nil _ _))
  · rintro ⟨hwrite, hread⟩
    constructor
    · intro i
      rw [pending_sendRequest, waiting_sendRequest, hwrite, if_pos rfl, List.mem_insert_iff,
        List.mem_append, List.mem_singleton, hx.keys i]
      exact or_comm
    · intro hone hnil
      exact absurd (hreaders.symm.trans hnil) (hread (hopened.symm.trans hone))

/-- a call that goes keeps the table exact when it does not wait -/
theorem exact_remove_iff (hx : s.Exact) (id : Nat) : (s.remove id).Exact ↔ id ∉ s.waiting := by
  constructor
  · intro h hid
    have hkey := (h.keys id).mp ((hx.keys id).mpr hid)
    exact (mem_waiting_remove.mp hkey).2 rfl
  · intro hid
    constructor
    · intro i
      rw [mem_waiting_remove]
      constructor
      · intro hi
        have hwait := (hx.keys i).mp hi
        exact ⟨hwait, fun heq => hid (heq ▸ hwait)⟩
      · exact fun hi => (hx.keys i).mpr hi.1
    · intro hone hnil
      have hsub : (s.remove id).waiting ⊆ s.waiting := fun i hi => (mem_waiting_remove.mp hi).1
      rw [hx.served hone hnil] at hsub
      exact List.eq_nil_of_subset_nil hsub

theorem Exact.resolve (hx : s.Exact) (hw : s.WellFormed) (id : Nat) (value : Json ν) :
    (s.resolve id value).Exact := by
  obtain ⟨-, hreaders, hopened, -⟩ := frame_resolve s id value
  constructor
  · intro i
    rw [mem_pending_resolve, mem_waiting_resolve hw, hx.keys i]
  · intro hone hnil
    have hsub : (s.resolve id value).waiting ⊆ s.waiting :=
      fun i hi => ((mem_waiting_resolve hw).mp hi).1
    rw [hx.served (hopened.symm.trans hone) (hreaders.symm.trans hnil)] at hsub
    exact List.eq_nil_of_subset_nil hsub

/-- the reader of the only connection ends, and the table stays exact when nobody waits -/
theorem exact_readerEnds_iff (hw : s.WellFormed) (hx : s.Exact) {k : Nat}
    (hk : k < s.readers.length) :
    Exact { s with readers := s.readers.eraseIdx k } ↔ (s.opened = 1 → s.waiting = []) := by
  constructor
  · intro h hone
    refine h.served hone (List.length_eq_zero_iff.mp ?_)
    have hle := hw.readers_le
    show (s.readers.eraseIdx _).length = 0
    rw [List.length_eraseIdx_of_lt hk]
    omega
  · intro hnobody
    exact ⟨hx.keys, fun hone _ => hnobody hone⟩

/-- **A step keeps the table exact if and only if it leaves nobody behind.** -/
theorem exact_step_iff {e : LinkEvent ν} (hw : s.WellFormed) (hx : s.Exact)
    (hstep : step r s e = some s') : s'.Exact ↔ s.restores e := by
  cases change_of_step hw hstep with
  | same hsame hrestores => exact iff_of_true (hx.congr hsame) hrestores
  | connect =>
    refine iff_of_true ⟨hx.keys, fun _ hreaders => ?_⟩ trivial
    exact absurd hreaders (List.append_ne_nil_of_right_ne_nil _ (List.cons_ne_nil _ _))
  | request op => exact exact_sendRequest_iff hw hx op
  | @leaves _ _ id hsame hrestores =>
    rw [Exact.congr_iff hsame, hrestores]
    exact exact_remove_iff hx id
  | resolve id value hrestores => exact iff_of_true (hx.resolve hw id value) hrestores
  | readerEnds hk => exact exact_readerEnds_iff hw hx hk

theorem wellFormed_of_run {ok : Link ν → LinkEvent ν → Prop} {es : List (LinkEvent ν)}
    (hrun : Run (step r) ok start es s) : s.WellFormed :=
  hrun.invariant WellFormed.start fun _ _ _ h _ hstep => h.step hstep

/-- **In runs that leave nobody behind the table is exact, and nobody waits on a dead connection.** -/
theorem exact_of_restores {es : List (LinkEvent ν)}
    (hrun : Run (step r) (fun s e => s.restores e) start es s) : s.Exact := by
  have hrun' := hrun.strengthen fun _ _ h => wellFormed_of_run h
  apply hrun'.invariant Exact.start
  intro s e s' hx hok hstep
  exact (exact_step_iff hok.2 hx hstep).mpr hok.1

end

/-! ### a run of the app -/

/-- numbers are natural numbers, and characters ASCII -/
def ascii : Serde Nat where
  toRust := {
    isAlphanumeric := Char.isAlphanum
    fromF64 n := n
    toBeBytes _ := []
    toText _ := ""
    underscore := Kaas.ascii.underscore
    space := Kaas.ascii.space }
  asU64 := some
  ofU64 := id

def canopyLight : Device Nat :=
  { id := 0, name := "Canopy Light", deviceType := .lightBulb,
    state := .object [("on", .bool false)], createdAt := 0, updatedAt := 0 }

/-- Edge Core's answer to the request `id` -/
def okReply (id : Nat) : Json Nat :=
  .object [("id", .number id), ("jsonrpc", .string "2.0"), ("result", .string "ok")]

/-- the translator and a device are registered, in a run where a second answer comes late and the
socket is closed at the end -/
def registration : List (LinkEvent Nat) :=
  [.connect, .request (.protocolTranslatorRegister "dummy-device-app"), .sent 2,
    .frame 0 (okReply 2), .returns 2, .request (.deviceRegister canopyLight), .sent 3,
    .frame 0 (okReply 7), .frame 0 (okReply 3), .frame 0 (okReply 3), .readerEnds 0, .returns 3]

theorem exact_of_restores_registration :
    ∃ s, run (step ascii) start registration = some s ∧ s.opened = 1 ∧ s.readers = [] ∧
      s.returned.length = 2 ∧ s.Exact := by
  have hany : (run (guarded (step ascii) fun s e => s.restores e) start registration).any
      (fun s => decide (s.opened = 1 ∧ s.readers = [] ∧ s.returned.length = 2)) = true := by
    decide +kernel
  obtain ⟨s, hs, hopened, hreaders, hreturned⟩ := exists_of_run_any hany
  have hrun := Run.of_guarded hs
  exact ⟨s, hrun.to_run, hopened, hreaders, hreturned, exact_of_restores hrun⟩

/-- the socket is closed while the registration of the translator awaits its reply -/
def closedWhileWaiting : List (LinkEvent Nat) :=
  [.connect, .request (.protocolTranslatorRegister "dummy-device-app"), .sent 2, .readerEnds 0]

theorem not_exact_closedWhileWaiting :
    ¬∀ (es : List (LinkEvent Nat)) (s : Link Nat), run (step ascii) start es = some s →
      s.Exact := by
  intro hall
  have hany : (run (step ascii) start closedWhileWaiting).any
      (fun s => decide (s.opened = 1 ∧ s.readers = [] ∧ s.waiting = [2])) = true := by
    decide +kernel
  obtain ⟨s, hs, hopened, hreaders, hwaiting⟩ := exists_of_run_any hany
  have hnobody := (hall _ s hs).served hopened hreaders
  rw [hwaiting] at hnobody
  cases hnobody

end Link

end EdgeTranslators.Kaas
