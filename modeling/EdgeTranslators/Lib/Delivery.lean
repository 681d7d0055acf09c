import EdgeTranslators.Lib.Rows

/-!
# A log whose items are delivered one by one

Each item of a log has an owner and is on its way until it is delivered.  Items have a key, and items
with different keys may overtake each other.

* `inFlight`            the items that are on their way;
* `InTurn`              no item with the same key is before that of the owner;
* `InOrder`             for every key, what is delivered and what is on its way is what was logged;
* `InOrder.append`, `InOrder.deliver`, `InOrder.settle`   an item is logged, is delivered in its turn,
                        and an owner without an item is settled;
* `InOrder.arrived`     a key of which nothing is on its way.
-/

namespace EdgeTranslators.Lib

section
variable {ι α κ : Type*} [DecidableEq ι]

/-- the items of the log whose owners still wait -/
def inFlight (log : List (ι × α)) (pending : List ι) : List α :=
  (log.filter fun entry => entry.1 ∈ pending).map Prod.snd

theorem inFlight_append (a b : List (ι × α)) (pending : List ι) :
    inFlight (a ++ b) pending = inFlight a pending ++ inFlight b pending := by
  unfold inFlight
  rw [List.filter_append, List.map_append]

theorem inFlight_cons_of_mem {i : ι} {pending : List ι} (h : i ∈ pending) (c : α)
    (b : List (ι × α)) : inFlight ((i, c) :: b) pending = c :: inFlight b pending := by
  unfold inFlight
  rw [List.filter_cons, if_pos (decide_eq_true h), List.map_cons]

theorem inFlight_cons_of_notMem {i : ι} {pending : List ι} (h : i ∉ pending) (c : α)
    (b : List (ι × α)) : inFlight ((i, c) :: b) pending = inFlight b pending := by
  unfold inFlight
  rw [List.filter_cons, if_neg (by simpa using h)]

/-- owners that have no item do not count -/
theorem inFlight_congr {log : List (ι × α)} {pending pending' : List ι}
    (h : ∀ entry ∈ log, (entry.1 ∈ pending ↔ entry.1 ∈ pending')) :
    inFlight log pending = inFlight log pending' := by
  unfold inFlight
  rw [List.filter_congr fun entry hentry => decide_eq_decide.mpr (h entry hentry)]

theorem inFlight_nil (log : List (ι × α)) : inFlight log [] = [] := by
  unfold inFlight
  rw [List.filter_eq_nil_iff.mpr fun entry _ => by simp]
  rfl

theorem mem_inFlight {log : List (ι × α)} {pending : List ι} {c : α} :
    c ∈ inFlight log pending ↔ ∃ i ∈ pending, (i, c) ∈ log := by
  unfold inFlight
  constructor
  · intro h
    obtain ⟨⟨i, d⟩, hentry, rfl⟩ := List.mem_map.mp h
    obtain ⟨hmem, hi⟩ := List.mem_filter.mp hentry
    exact ⟨i, of_decide_eq_true hi, hmem⟩
  · rintro ⟨i, hi, hmem⟩
    exact List.mem_map.mpr ⟨(i, c), List.mem_filter.mpr ⟨hmem, decide_eq_true hi⟩, rfl⟩

variable [DecidableEq κ] (key : α → κ)

/-- what is before the item of an owner, and on its way, has other keys -/
def InTurn (log : List (ι × α)) (pending : List ι) (i : ι) : Prop :=
  ∀ entry ∈ log, entry.1 = i → ∀ before ∈ log.takeWhile (fun entry => entry.1 ≠ i),
    before.1 ∈ pending → key before.2 ≠ key entry.2

instance (log : List (ι × α)) (pending : List ι) (i : ι) :
    Decidable (InTurn key log pending i) :=
  inferInstanceAs (Decidable (∀ entry ∈ log, _))

/-- for every key, what is delivered and then what is on its way is what was logged -/
def InOrder (log : List (ι × α)) (pending : List ι) (delivered : List α) : Prop :=
  ∀ k, rows key k delivered ++ rows key k (inFlight log pending) =
    rows key k (log.map Prod.snd)

variable {key} {log : List (ι × α)} {pending pending' : List ι} {delivered : List α} {i : ι} {c : α}

theorem InOrder.start (pending : List ι) :
    InOrder key ([] : List (ι × α)) pending [] := fun _ => rfl

/-- other owners wait than before, but none that has an item -/
theorem InOrder.settle (h : InOrder key log pending delivered)
    (hpending : ∀ entry ∈ log, (entry.1 ∈ pending ↔ entry.1 ∈ pending')) :
    InOrder key log pending' delivered := by
  intro k
  rw [← inFlight_congr hpending]
  exact h k

theorem InOrder.append (h : InOrder key log pending delivered) (hi : i ∈ pending) (c : α) :
    InOrder key (log ++ [(i, c)]) pending delivered := by
  intro k
  rw [inFlight_append, inFlight_cons_of_mem hi, rows_append, ← List.append_assoc, h k,
    List.map_append, rows_append]
  rfl

/-- **An item is delivered in its turn.** -/
theorem InOrder.deliver (h : InOrder key log pending delivered)
    (honce : (log.map Prod.fst).Nodup) (hmem : (i, c) ∈ log) (hi : i ∈ pending)
    (hturn : InTurn key log pending i) (hpending : ∀ j, j ∈ pending' ↔ j ∈ pending ∧ j ≠ i) :
    InOrder key log pending' (delivered ++ [c]) := by
  obtain ⟨a, b, rfl⟩ := List.append_of_mem hmem
  rw [List.map_append, List.map_cons, List.nodup_append, List.nodup_cons] at honce
  obtain ⟨-, ⟨hb, -⟩, hab⟩ := honce
  have ha : ∀ entry ∈ a, entry.1 ≠ i := fun entry hentry =>
    hab entry.1 (List.mem_map_of_mem hentry) i List.mem_cons_self
  have hnot : i ∉ pending' := fun hmem' => ((hpending i).mp hmem').2 rfl
  -- the other items are on their way or not as before
  have hfront : inFlight a pending' = inFlight a pending :=
    inFlight_congr fun entry hentry =>
      (hpending entry.1).trans (and_iff_left (ha entry hentry))
  have hback : inFlight b pending' = inFlight b pending :=
    inFlight_congr fun entry hentry => (hpending entry.1).trans
      (and_iff_left fun heq => hb (List.mem_map.mpr ⟨entry, hentry, heq⟩))
  have hbefore : rows key (key c) (inFlight a pending) = [] := by
    refine List.eq_nil_iff_forall_not_mem.mpr fun d hd => ?_
    obtain ⟨hflight, hkey⟩ := (mem_rows key).mp hd
    obtain ⟨j, hj, hjd⟩ := mem_inFlight.mp hflight
    refine hturn (i, c) hmem rfl (j, d) ?_ hj hkey
    rw [List.takeWhile_append_of_pos fun entry hentry => decide_eq_true (ha entry hentry)]
    exact List.mem_append_left _ hjd
  intro k
  rw [← h k, inFlight_append, inFlight_append, inFlight_cons_of_mem hi,
    inFlight_cons_of_notMem hnot, hfront, hback, rows_append, rows_append, rows_append,
    rows_cons, rows_cons]
  by_cases hk : key c = k
  · subst hk
    rw [if_pos rfl, if_pos rfl, hbefore, List.nil_append, List.nil_append, List.append_assoc]
    rfl
  · rw [if_neg hk, if_neg hk]
    show rows key k delivered ++ [] ++ _ = _
    rw [List.append_nil]

/-- nothing with the key is on its way: all of it is delivered, in the order of the log -/
theorem InOrder.arrived (h : InOrder key log pending delivered) {k : κ}
    (hk : ∀ c ∈ inFlight log pending, key c ≠ k) :
    rows key k delivered = rows key k (log.map Prod.snd) := by
  have hnone : rows key k (inFlight log pending) = [] := by
    refine List.eq_nil_iff_forall_not_mem.mpr fun c hc => ?_
    obtain ⟨hmem, hkey⟩ := (mem_rows key).mp hc
    exact hk c hmem hkey
  rw [← h k, hnone, List.append_nil]

end

end EdgeTranslators.Lib
