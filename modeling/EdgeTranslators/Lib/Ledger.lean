import Mathlib.Data.List.Nodup
import Mathlib.Data.Set.Basic

/-!
# Records of things that may not have been made

A program makes things and keeps a record of them.  Making may fail and so may recording, and a
record that does not ask whether the making went well may be left with an orphan: a recorded item
that was not made.

* `Trial`                 one attempt at making an item and recording it;
* `Ledger.Run`            what is made and what is recorded after a list of attempts, each recorded
                          one at an item that was not made by then;
* `AllSetRight`           each orphan is made by a later attempt and not recorded by any;
* `Ledger.Run.sound_iff`  the record is sound exactly when all orphans are set right;
* `allSetRight_filter`    attempts that make their items need not be looked at.
-/

namespace EdgeTranslators.Lib

structure Trial (α : Type*) where
  item : α
  made : Bool
  recorded : Bool
  deriving DecidableEq, Repr

structure Ledger (α : Type*) where
  made : Set α
  record : List α

section
variable {α : Type*}

/-- the item is recorded and was not made -/
def Trial.Orphan (a : Trial α) : Prop := a.recorded = true ∧ a.made = false

instance (a : Trial α) : Decidable a.Orphan := inferInstanceAs (Decidable (_ ∧ _))

/-- the items that a list of attempts records -/
def recordedItems (as : List (Trial α)) : List α := (as.filter (·.recorded)).map (·.item)

def MadeIn (as : List (Trial α)) (x : α) : Prop := ∃ b ∈ as, b.item = x ∧ b.made = true

/-- what comes after an orphan sets it right: its item is made, and not recorded once more -/
def SetRight (as : List (Trial α)) (x : α) : Prop := MadeIn as x ∧ x ∉ recordedItems as

def AllSetRight : List (Trial α) → Prop
  | [] => True
  | a :: as => (a.Orphan → SetRight as a.item) ∧ AllSetRight as

section
variable [DecidableEq α]

instance (as : List (Trial α)) (x : α) : Decidable (MadeIn as x) :=
  inferInstanceAs (Decidable (∃ b ∈ as, b.item = x ∧ b.made = true))

instance (as : List (Trial α)) (x : α) : Decidable (SetRight as x) :=
  inferInstanceAs (Decidable (_ ∧ _))

instance decidableAllSetRight : (as : List (Trial α)) → Decidable (AllSetRight as)
  | [] => .isTrue trivial
  | a :: as =>
    have := decidableAllSetRight as
    inferInstanceAs (Decidable ((a.Orphan → SetRight as a.item) ∧ AllSetRight as))

end

/-- what was made once is not recorded anew -/
def Ordered (as : List (Trial α)) : Prop :=
  as.Pairwise fun a b => a.made = true → a.item = b.item → b.recorded = false

namespace Ledger

structure Sound (l : Ledger α) : Prop where
  made : ∀ x ∈ l.record, x ∈ l.made
  distinct : l.record.Nodup

/-- the attempts take one ledger to the other; nothing but they makes an item in `P`, and those at
items outside of `P` make them -/
structure Run (P : α → Prop) (l : Ledger α) (as : List (Trial α)) (l' : Ledger α) : Prop where
  record : l'.record = l.record ++ recordedItems as
  grows : l.made ⊆ l'.made
  makes : ∀ a ∈ as, a.made = true → a.item ∈ l'.made
  only : ∀ x, P x → x ∈ l'.made → x ∈ l.made ∨ MadeIn as x
  others : ∀ a ∈ as, ¬P a.item → a.made = true
  fresh : ∀ a ∈ as, a.recorded = true → a.item ∉ l.made
  ordered : Ordered as

end Ledger

section
variable {as as' : List (Trial α)} {a : Trial α} {x : α}

theorem mem_recordedItems :
    x ∈ recordedItems as ↔ ∃ a ∈ as, a.item = x ∧ a.recorded = true := by
  unfold recordedItems
  rw [List.mem_map]
  constructor
  · rintro ⟨a, ha, rfl⟩
    exact ⟨a, (List.mem_filter.mp ha).1, rfl, (List.mem_filter.mp ha).2⟩
  · rintro ⟨a, ha, rfl, hrec⟩
    exact ⟨a, List.mem_filter.mpr ⟨ha, hrec⟩, rfl⟩

theorem recordedItems_append :
    recordedItems (as ++ as') = recordedItems as ++ recordedItems as' := by
  unfold recordedItems
  rw [List.filter_append, List.map_append]

theorem recordedItems_cons :
    recordedItems (a :: as) =
      if a.recorded = true then a.item :: recordedItems as else recordedItems as := by
  unfold recordedItems
  rw [List.filter_cons]
  split <;> rfl

theorem MadeIn.append_left (h : MadeIn as x) : MadeIn (as ++ as') x := by
  obtain ⟨a, ha, hitem⟩ := h
  exact ⟨a, List.mem_append_left _ ha, hitem⟩

theorem MadeIn.append_right (h : MadeIn as' x) : MadeIn (as ++ as') x := by
  obtain ⟨a, ha, hitem⟩ := h
  exact ⟨a, List.mem_append_right _ ha, hitem⟩

theorem MadeIn.cons (h : MadeIn as x) (a : Trial α) : MadeIn (a :: as) x := by
  obtain ⟨b, hb, hitem⟩ := h
  exact ⟨b, List.mem_cons_of_mem _ hb, hitem⟩

/-- the item of a made attempt is not recorded by later ones -/
theorem Ordered.not_recorded (h : Ordered (a :: as)) (hmade : a.made = true) :
    a.item ∉ recordedItems as := by
  intro hrec
  obtain ⟨b, hb, hitem, hb'⟩ := mem_recordedItems.mp hrec
  have hno := (List.pairwise_cons.mp h).1 b hb hmade hitem.symm
  rw [hno] at hb'
  cases hb'

/-- all orphans are set right if what is recorded is made, and recorded once -/
theorem Ordered.allSetRight_iff (h : Ordered as) :
    AllSetRight as ↔ (recordedItems as).Nodup ∧ ∀ x ∈ recordedItems as, MadeIn as x := by
  induction as with
  | nil => exact iff_of_true trivial ⟨List.nodup_nil, nofun⟩
  | cons a as ih =>
    have ih := ih (List.pairwise_cons.mp h).2
    rw [recordedItems_cons]
    constructor
    · rintro ⟨horphan, hrest⟩
      obtain ⟨hnodup, hmade⟩ := ih.mp hrest
      have hmade' : ∀ x ∈ recordedItems as, MadeIn (a :: as) x :=
        fun x hx => (hmade x hx).cons a
      split
      · rename_i hrec
        -- the item of `a` is not recorded again, and it is made by `a` or set right
        have hhead : a.item ∉ recordedItems as ∧ MadeIn (a :: as) a.item := by
          cases hm : a.made with
          | true => exact ⟨h.not_recorded hm, a, List.mem_cons_self, rfl, hm⟩
          | false =>
            obtain ⟨hin, hnot⟩ := horphan ⟨hrec, hm⟩
            exact ⟨hnot, hin.cons a⟩
        refine ⟨List.nodup_cons.mpr ⟨hhead.1, hnodup⟩, fun x hx => ?_⟩
        rcases List.mem_cons.mp hx with rfl | hx
        · exact hhead.2
        · exact hmade' x hx
      · exact ⟨hnodup, hmade'⟩
    · rintro ⟨hnodup, hmade⟩
      have hsub : ∀ x ∈ recordedItems as, MadeIn as x := by
        intro x hx
        have hx' : MadeIn (a :: as) x := by
          apply hmade
          split
          · exact List.mem_cons_of_mem _ hx
          · exact hx
        obtain ⟨b, hb, hitem, hb'⟩ := hx'
        rcases List.mem_cons.mp hb with rfl | hb
        · rw [← hitem] at hx
          exact absurd hx (h.not_recorded hb')
        · exact ⟨b, hb, hitem, hb'⟩
      refine ⟨fun ⟨hrec, hm⟩ => ?_, ih.mpr ⟨?_, hsub⟩⟩
      · rw [if_pos hrec] at hnodup hmade
        obtain ⟨b, hb, hitem, hb'⟩ := hmade a.item List.mem_cons_self
        rcases List.mem_cons.mp hb with rfl | hb
        · rw [hm] at hb'
          cases hb'
        · exact ⟨⟨b, hb, hitem, hb'⟩, (List.nodup_cons.mp hnodup).1⟩
      · split at hnodup
        · exact (List.nodup_cons.mp hnodup).2
        · exact hnodup

/-- where every item is made there is no orphan -/
theorem allSetRight_of_made (h : ∀ a ∈ as, a.made = true) : AllSetRight as := by
  induction as with
  | nil => exact trivial
  | cons a as ih =>
    refine ⟨fun horphan => ?_, ih fun b hb => h b (List.mem_cons_of_mem a hb)⟩
    exact absurd ((h a List.mem_cons_self).symm.trans horphan.2) Bool.false_ne_true.symm

/-- attempts outside of `P` that make their items decide nothing -/
theorem allSetRight_filter {P : α → Prop} [DecidablePred P]
    (h : ∀ a ∈ as, ¬P a.item → a.made = true) :
    AllSetRight (as.filter fun a => P a.item) ↔ AllSetRight as := by
  induction as with
  | nil => exact Iff.rfl
  | cons a as ih =>
    have ih := ih fun b hb => h b (List.mem_cons_of_mem _ hb)
    by_cases ha : P a.item
    · have hin : MadeIn (as.filter fun b => P b.item) a.item ↔ MadeIn as a.item := by
        constructor
        · rintro ⟨b, hb, hitem⟩
          exact ⟨b, (List.mem_filter.mp hb).1, hitem⟩
        · rintro ⟨b, hb, hitem, hb'⟩
          refine ⟨b, List.mem_filter.mpr ⟨hb, decide_eq_true ?_⟩, hitem, hb'⟩
          rw [hitem]
          exact ha
      have hrec : a.item ∈ recordedItems (as.filter fun b => P b.item) ↔
          a.item ∈ recordedItems as := by
        rw [mem_recordedItems, mem_recordedItems]
        constructor
        · rintro ⟨b, hb, hitem⟩
          exact ⟨b, (List.mem_filter.mp hb).1, hitem⟩
        · rintro ⟨b, hb, hitem, hb'⟩
          refine ⟨b, List.mem_filter.mpr ⟨hb, decide_eq_true ?_⟩, hitem, hb'⟩
          rw [hitem]
          exact ha
      rw [List.filter_cons, if_pos (decide_eq_true ha)]
      show (_ → SetRight _ _) ∧ _ ↔ (_ → SetRight _ _) ∧ _
      unfold SetRight
      rw [hin, hrec, ih]
    · rw [List.filter_cons_of_neg (by rwa [decide_eq_true_iff])]
      have hmade := h a List.mem_cons_self ha
      refine ih.trans ⟨fun hrest => ⟨fun horphan => ?_, hrest⟩, And.right⟩
      rw [horphan.2] at hmade
      cases hmade

end

namespace Ledger.Run
variable {P : α → Prop} {l l' l'' : Ledger α} {as as' : List (Trial α)}

theorem refl (P : α → Prop) (l : Ledger α) : Run P l [] l :=
  ⟨(List.append_nil _).symm, fun _ hx => hx, nofun, fun _ _ hx => .inl hx, nofun, nofun, .nil⟩

/-- something is made outside of `P`, and nothing is recorded -/
theorem of_grows (hrecord : l'.record = l.record) (hgrows : l.made ⊆ l'.made)
    (honly : ∀ x, P x → x ∈ l'.made → x ∈ l.made) : Run P l [] l' :=
  ⟨hrecord.trans (List.append_nil _).symm, hgrows, nofun, fun x hP hx => .inl (honly x hP hx),
    nofun, nofun, .nil⟩

/-- one attempt -/
theorem single {a : Trial α}
    (hrecord : l'.record = if a.recorded = true then l.record ++ [a.item] else l.record)
    (hgrows : l.made ⊆ l'.made) (hmakes : a.made = true → a.item ∈ l'.made)
    (honly : ∀ x, P x → x ∈ l'.made → x ∈ l.made ∨ a.item = x ∧ a.made = true)
    (hothers : ¬P a.item → a.made = true) (hfresh : a.item ∉ l.made) : Run P l [a] l' := by
  constructor
  · rw [hrecord, recordedItems_cons]
    split
    · rfl
    · exact (List.append_nil _).symm
  · exact hgrows
  · intro b hb
    rw [List.mem_singleton.mp hb]
    exact hmakes
  · exact fun x hP hx => (honly x hP hx).imp_right fun hmade => ⟨a, List.mem_cons_self, hmade⟩
  · intro b hb
    rw [List.mem_singleton.mp hb]
    exact hothers
  · intro b hb _
    rw [List.mem_singleton.mp hb]
    exact hfresh
  · exact List.pairwise_singleton _ _

/-- what the first attempts make is not recorded by the second, which come upon it -/
theorem trans (h : Run P l as l') (h' : Run P l' as' l'') : Run P l (as ++ as') l'' := by
  constructor
  · rw [h'.record, h.record, recordedItems_append, List.append_assoc]
  · exact fun x hx => h'.grows (h.grows hx)
  · intro a ha hmade
    rcases List.mem_append.mp ha with ha | ha
    · exact h'.grows (h.makes a ha hmade)
    · exact h'.makes a ha hmade
  · intro x hP hx
    rcases h'.only x hP hx with hx | hx
    · exact (h.only x hP hx).imp_right MadeIn.append_left
    · exact .inr hx.append_right
  · intro a ha
    rcases List.mem_append.mp ha with ha | ha
    · exact h.others a ha
    · exact h'.others a ha
  · intro a ha hrec
    rcases List.mem_append.mp ha with ha | ha
    · exact h.fresh a ha hrec
    · exact fun hx => h'.fresh a ha hrec (h.grows hx)
  · refine List.pairwise_append.mpr ⟨h.ordered, h'.ordered, fun a ha b hb hmade hitem => ?_⟩
    cases hrec : b.recorded with
    | false => rfl
    | true =>
      have hnot := h'.fresh b hb hrec
      rw [← hitem] at hnot
      exact absurd (h.makes a ha hmade) hnot

/-- an item is made after a run that recorded it exactly when the run made it -/
theorem recorded_mem_iff (h : Run P l as l') {x : α} (hx : x ∈ recordedItems as) :
    x ∈ l'.made ↔ MadeIn as x := by
  obtain ⟨a, ha, rfl, hrec⟩ := mem_recordedItems.mp hx
  constructor
  · intro hmem
    by_cases hP : P a.item
    · exact (h.only _ hP hmem).resolve_left (h.fresh a ha hrec)
    · exact ⟨a, ha, rfl, h.others a ha hP⟩
  · rintro ⟨b, hb, hitem, hmade⟩
    rw [← hitem]
    exact h.makes b hb hmade

/-- **A record stays sound exactly when every orphan is set right.** -/
theorem sound_iff (h : Run P l as l') (hs : l.Sound) : l'.Sound ↔ AllSetRight as := by
  rw [h.ordered.allSetRight_iff]
  constructor
  · intro hs'
    have hdistinct := hs'.distinct
    rw [h.record] at hdistinct
    refine ⟨(List.nodup_append.mp hdistinct).2.1, fun x hx => ?_⟩
    refine (h.recorded_mem_iff hx).mp (hs'.made x ?_)
    rw [h.record]
    exact List.mem_append_right _ hx
  · rintro ⟨hnodup, hmade⟩
    constructor
    · intro x hx
      rw [h.record] at hx
      rcases List.mem_append.mp hx with hx | hx
      · exact h.grows (hs.made x hx)
      · exact (h.recorded_mem_iff hx).mpr (hmade x hx)
    · rw [h.record]
      refine List.nodup_append.mpr ⟨hs.distinct, hnodup, fun x hx y hy heq => ?_⟩
      obtain ⟨a, ha, hitem, hrec⟩ := mem_recordedItems.mp hy
      have hnot := h.fresh a ha hrec
      rw [hitem, ← heq] at hnot
      exact hnot (hs.made x hx)

end Ledger.Run

end

end EdgeTranslators.Lib
