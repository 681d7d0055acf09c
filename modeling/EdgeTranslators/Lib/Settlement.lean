import Mathlib.Data.List.Perm.Basic

/-!
# Items that are settled one by one

A party hands out items that wait until each of them is settled, in any order, with an outcome.

* `Settlement`                    the items handed out, those that wait, and the outcomes;
* `Settlement.hand`, `settle`     the two things that happen;
* `filter_eq_singleton`           the only item with its key;
* `Balanced`                      every item waits or was settled, once;
* `Balanced.hand`, `Balanced.settle`   so after anything that happens;
* `Balanced.exists_outcome`, `Balanced.outcome_unique`   when none waits every item has an outcome,
                                  and one only if the items can be told apart.
-/

namespace EdgeTranslators.Lib

/-- an item whose key no other item has is the only one with that key -/
theorem filter_eq_singleton {α γ : Type*} [DecidableEq γ] [BEq γ] [LawfulBEq γ] (key : α → γ)
    {l : List α} {a : α} (hmem : a ∈ l) (hone : (l.map key).count (key a) ≤ 1) :
    l.filter (fun b => key b = key a) = [a] := by
  have hin : a ∈ l.filter fun b => key b = key a :=
    List.mem_filter.mpr ⟨hmem, decide_eq_true rfl⟩
  have hlength : (l.filter fun b => key b = key a).length ≤ 1 := by
    rw [← List.countP_eq_length_filter]
    rw [List.count_eq_countP, List.countP_map] at hone
    refine Nat.le_trans (List.countP_mono_left fun b _ hb => ?_) hone
    exact beq_iff_eq.mpr (of_decide_eq_true hb)
  obtain ⟨b, hb⟩ := List.length_eq_one_iff.mp (Nat.le_antisymm hlength (List.length_pos_of_mem hin))
  rw [hb] at hin ⊢
  rw [List.mem_singleton.mp hin]

structure Settlement (α β : Type*) where
  /-- the items handed out, oldest first -/
  handed : List α
  waiting : List α
  settled : List (α × β)

namespace Settlement
variable {α β γ : Type*}

def new : Settlement α β := ⟨[], [], []⟩

def hand (s : Settlement α β) (items : List α) : Settlement α β :=
  { s with handed := s.handed ++ items, waiting := s.waiting ++ items }

/-- the `i`-th of the items that wait, which is `item`, has the outcome -/
def settle (s : Settlement α β) (i : Nat) (item : α) (outcome : β) : Settlement α β :=
  { s with waiting := s.waiting.eraseIdx i, settled := s.settled ++ [(item, outcome)] }

def Balanced (s : Settlement α β) : Prop := s.handed.Perm (s.settled.map Prod.fst ++ s.waiting)

variable {s : Settlement α β}

theorem balanced_new : (new : Settlement α β).Balanced := .refl _

theorem Balanced.hand (h : s.Balanced) (items : List α) : (s.hand items).Balanced := by
  show (s.handed ++ items).Perm (s.settled.map Prod.fst ++ (s.waiting ++ items))
  rw [← List.append_assoc]
  exact h.append_right items

theorem Balanced.settle (h : s.Balanced) {i : Nat} {item : α} (hi : s.waiting[i]? = some item)
    (outcome : β) : (s.settle i item outcome).Balanced := by
  obtain ⟨hlt, rfl⟩ := List.getElem?_eq_some_iff.mp hi
  refine List.Perm.trans h ?_
  show (s.settled.map Prod.fst ++ s.waiting).Perm
    ((s.settled ++ [(s.waiting[i], outcome)]).map Prod.fst ++ s.waiting.eraseIdx i)
  rw [List.map_append, List.append_assoc]
  exact (List.getElem_cons_eraseIdx_perm hlt).symm.append_left _

/-- an item that waits or was settled was handed out -/
theorem Balanced.mem_handed (h : s.Balanced) {item : α} {outcome : β}
    (hmem : (item, outcome) ∈ s.settled) : item ∈ s.handed :=
  h.mem_iff.mpr (List.mem_append_left _ (List.mem_map_of_mem hmem))

theorem Balanced.exists_outcome (h : s.Balanced) (hnone : s.waiting = []) {item : α}
    (hmem : item ∈ s.handed) : ∃ outcome, (item, outcome) ∈ s.settled := by
  have hin := h.mem_iff.mp hmem
  rw [hnone, List.append_nil] at hin
  obtain ⟨⟨_, outcome⟩, hpair, rfl⟩ := List.mem_map.mp hin
  exact ⟨outcome, hpair⟩

/-- an item that can be told apart has one outcome -/
theorem Balanced.outcome_unique [DecidableEq γ] [BEq γ] [LawfulBEq γ] (h : s.Balanced)
    (key : α → γ) {item : α} {outcome : β} (hmem : (item, outcome) ∈ s.settled)
    (hone : (s.handed.map key).count (key item) ≤ 1) :
    s.settled.filter (fun p => key p.1 = key item) = [(item, outcome)] := by
  refine filter_eq_singleton (fun p => key p.1) hmem ?_
  have hcount := (h.map key).count_eq (key item)
  rw [List.map_append, List.map_map, List.count_append] at hcount
  exact Nat.le_trans (Nat.le_add_right _ _) (hcount ▸ hone)

end Settlement

end EdgeTranslators.Lib
