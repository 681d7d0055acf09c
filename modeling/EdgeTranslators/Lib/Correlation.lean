import Mathlib.Data.List.AList
import Mathlib.Data.List.Nodup

/-!
# Replies by key

A party issues requests under keys and receives frames, some of which have a key.  It keeps the key
of a request until a frame with this key comes, which is given to the request.

* `Ticket`, `Exchange`, `issue`, `receive`   the requests, the keys that are kept, and the frames;
* `FirstWith`                                the first frame with a key, from some frame on;
* `Exchange.frame?`                          the frame a request was given;
* `Exchange.Matched`                         every request has the first frame with its key, or waits
                                             for one;
* `matched_empty`, `Matched.issue`, `Matched.receive`   so after any requests and frames.
-/

namespace EdgeTranslators.Lib

/-- a request -/
structure Ticket (κ : Type*) where
  key : κ
  /-- the number of frames before it -/
  since : Nat
  /-- the frame it was given -/
  reply : Option Nat
  deriving DecidableEq

structure Exchange (κ φ : Type*) where
  tickets : List (Ticket κ)
  /-- the request each key is kept for -/
  pending : AList fun _ : κ => Nat
  frames : List φ

/-- the `i`-th frame is the first from the `since`-th on that has the key -/
structure FirstWith {κ φ : Type*} (key : φ → Option κ) (frames : List φ) (since : Nat) (k : κ)
    (i : Nat) : Prop where
  since_le : since ≤ i
  has : ∃ frame, frames[i]? = some frame ∧ key frame = some k
  first : ∀ j frame, since ≤ j → j < i → frames[j]? = some frame → key frame ≠ some k

section
variable {κ φ : Type*} {key : φ → Option κ}

theorem FirstWith.lt {frames : List φ} {since i : Nat} {k : κ}
    (h : FirstWith key frames since k i) : i < frames.length := by
  obtain ⟨frame, hframe, -⟩ := h.has
  exact (List.getElem?_eq_some_iff.mp hframe).1

theorem FirstWith.snoc {frames : List φ} {since i : Nat} {k : κ}
    (h : FirstWith key frames since k i) (frame : φ) :
    FirstWith key (frames ++ [frame]) since k i := by
  have hlt := h.lt
  refine ⟨h.since_le, ?_, ?_⟩
  · obtain ⟨f, hf, hk⟩ := h.has
    exact ⟨f, (List.getElem?_append_left hlt).trans hf, hk⟩
  · intro j f hj hji hf
    rw [List.getElem?_append_left (Nat.lt_trans hji hlt)] at hf
    exact h.first j f hj hji hf

/-- a frame of a list that grew is one of the list, or the new one -/
theorem getElem?_snoc {α : Type*} {l : List α} {a b : α} {j : Nat} (h : (l ++ [a])[j]? = some b) :
    l[j]? = some b ∨ j = l.length ∧ b = a := by
  rcases Nat.lt_trichotomy j l.length with hlt | rfl | hgt
  · rw [List.getElem?_append_left hlt] at h
    exact .inl h
  · rw [List.getElem?_concat_length] at h
    cases h
    exact .inr ⟨rfl, rfl⟩
  · rw [List.getElem?_eq_none (by simpa using Nat.succ_le_of_lt hgt)] at h
    cases h

end

namespace Exchange
variable {κ φ : Type*} [DecidableEq κ]

def empty : Exchange κ φ := ⟨[], ∅, []⟩

def issue (x : Exchange κ φ) (k : κ) : Exchange κ φ :=
  { x with
    tickets := x.tickets ++ [⟨k, x.frames.length, none⟩]
    pending := x.pending.insert k x.tickets.length }

/-- a request is given the frame that comes next -/
def give (x : Exchange κ φ) (n : Nat) : List (Ticket κ) :=
  x.tickets.modify n fun t => { t with reply := some x.frames.length }

variable (key : φ → Option κ)

def receive (x : Exchange κ φ) (frame : φ) : Exchange κ φ :=
  match key frame with
  | none => { x with frames := x.frames ++ [frame] }
  | some k =>
    match x.pending.lookup k with
    | none => { x with frames := x.frames ++ [frame] }
    | some n => ⟨x.give n, x.pending.erase k, x.frames ++ [frame]⟩

/-- the `n`-th request was given the `i`-th frame -/
def Given (x : Exchange κ φ) (n i : Nat) : Prop :=
  ∃ t : Ticket κ, x.tickets[n]? = some t ∧ t.reply = some i

/-- every request was given the first frame since with its key, no two the same, and a key is kept
for a request only until such a frame -/
structure Matched (x : Exchange κ φ) : Prop where
  given : ∀ (n : Nat) (t : Ticket κ) (i : Nat), x.tickets[n]? = some t → t.reply = some i →
    FirstWith key x.frames t.since t.key i
  once : ∀ (n n' : Nat) (t t' : Ticket κ) (i : Nat), x.tickets[n]? = some t →
    x.tickets[n']? = some t' → t.reply = some i → t'.reply = some i → n = n'
  kept : ∀ k n, x.pending.lookup k = some n → ∃ t : Ticket κ, x.tickets[n]? = some t ∧ t.key = k ∧
    t.since ≤ x.frames.length ∧
      ∀ j frame, t.since ≤ j → x.frames[j]? = some frame → key frame ≠ some k

variable {key} {x : Exchange κ φ}

theorem matched_empty : (empty : Exchange κ φ).Matched key := by
  refine ⟨?_, ?_, ?_⟩
  · intro n t i ht
    cases ht
  · intro n n' t t' i ht
    cases ht
  · intro k n hn
    cases hn

theorem Matched.issue (h : x.Matched key) (k : κ) : (x.issue k).Matched key := by
  refine ⟨?_, ?_, ?_⟩
  · intro n t i ht hi
    rcases getElem?_snoc ht with ht | ⟨-, rfl⟩
    · exact h.given n t i ht hi
    · cases hi
  · intro n n' t t' i ht ht' hi hi'
    rcases getElem?_snoc ht with ht | ⟨-, rfl⟩
    · rcases getElem?_snoc ht' with ht' | ⟨-, rfl⟩
      · exact h.once n n' t t' i ht ht' hi hi'
      · cases hi'
    · cases hi
  · intro k' n hn
    by_cases hk : k' = k
    · subst hk
      have hlast : n = x.tickets.length :=
        (Option.some.inj ((AList.lookup_insert x.pending).symm.trans hn)).symm
      subst hlast
      refine ⟨_, List.getElem?_concat_length, rfl, Nat.le_refl _, ?_⟩
      -- the request comes after every frame
      intro j frame hj hframe
      have hlt := (List.getElem?_eq_some_iff.mp hframe).1
      exact absurd hj (Nat.not_le.mpr hlt)
    · obtain ⟨t, ht, hrest⟩ := h.kept k' n ((AList.lookup_insert_ne hk).symm.trans hn)
      refine ⟨t, ?_, hrest⟩
      exact (List.getElem?_append_left (List.getElem?_eq_some_iff.mp ht).1).trans ht

/-- the keys still kept were not in the frame -/
theorem Matched.kept_snoc (h : x.Matched key) {frame : φ} {k : κ} {n : Nat}
    (hn : x.pending.lookup k = some n) (hkey : key frame ≠ some k) :
    ∃ t : Ticket κ, x.tickets[n]? = some t ∧ t.key = k ∧ t.since ≤ (x.frames ++ [frame]).length ∧
      ∀ j f, t.since ≤ j → (x.frames ++ [frame])[j]? = some f → key f ≠ some k := by
  obtain ⟨t, ht, hk, hsince, hwaits⟩ := h.kept k n hn
  refine ⟨t, ht, hk, ?_, ?_⟩
  · rw [List.length_append]
    exact Nat.le_add_right_of_le hsince
  · intro j f hj hf
    rcases getElem?_snoc hf with hf | ⟨-, rfl⟩
    · exact hwaits j f hj hf
    · exact hkey

/-- a frame that is given to no request, as no key is kept for it -/
theorem Matched.skip (h : x.Matched key) {frame : φ}
    (hnone : ∀ k, key frame = some k → x.pending.lookup k = none) :
    ({ x with frames := x.frames ++ [frame] } : Exchange κ φ).Matched key := by
  refine ⟨fun n t i ht hi => (h.given n t i ht hi).snoc frame, h.once, ?_⟩
  intro k n hn
  apply h.kept_snoc hn
  intro hkey
  cases (hnone k hkey).symm.trans hn

omit [DecidableEq κ] in
/-- the requests after one of them is given the next frame -/
theorem getElem?_give {n m : Nat} {t : Ticket κ} (h : (x.give n)[m]? = some t) :
    (m ≠ n ∧ x.tickets[m]? = some t) ∨
      m = n ∧ ∃ t₀, x.tickets[n]? = some t₀ ∧ t = { t₀ with reply := some x.frames.length } := by
  unfold give at h
  rw [List.getElem?_modify] at h
  obtain ⟨t₀, ht₀, rfl⟩ := Option.map_eq_some_iff.mp h
  by_cases hm : n = m
  · subst hm
    exact .inr ⟨rfl, t₀, ht₀, if_pos rfl⟩
  · rw [if_neg hm]
    exact .inl ⟨Ne.symm hm, ht₀⟩

/-- the frame is the first with its key since the request the key is kept for -/
theorem Matched.give (h : x.Matched key) {frame : φ} {k : κ} {n : Nat} (hkey : key frame = some k)
    (hn : x.pending.lookup k = some n) :
    (⟨x.give n, x.pending.erase k, x.frames ++ [frame]⟩ : Exchange κ φ).Matched key := by
  obtain ⟨t₀, ht₀, hk, hsince, hwaits⟩ := h.kept k n hn
  -- no request has the number of the frame yet
  have hfresh : ∀ (m : Nat) (t : Ticket κ), x.tickets[m]? = some t → t.reply ≠ some x.frames.length := by
    intro m t ht hi
    exact Nat.lt_irrefl _ (h.given m t _ ht hi).lt
  refine ⟨?_, ?_, ?_⟩
  · intro m t i ht hi
    rcases getElem?_give ht with ⟨-, ht⟩ | ⟨-, t₁, ht₁, rfl⟩
    · exact (h.given m t i ht hi).snoc frame
    · cases ht₀.symm.trans ht₁
      cases hi
      subst hk
      refine ⟨hsince, ⟨frame, List.getElem?_concat_length, hkey⟩, ?_⟩
      intro j f hj hji hf
      rw [List.getElem?_append_left hji] at hf
      exact hwaits j f hj hf
  · intro m m' t t' i ht ht' hi hi'
    rcases getElem?_give ht with ⟨-, ht⟩ | ⟨rfl, t₁, ht₁, rfl⟩
    · rcases getElem?_give ht' with ⟨-, ht'⟩ | ⟨-, t₁, -, rfl⟩
      · exact h.once m m' t t' i ht ht' hi hi'
      · cases hi'
        exact absurd hi (hfresh m t ht)
    · rcases getElem?_give ht' with ⟨-, ht'⟩ | ⟨rfl, -, -, -⟩
      · cases hi
        exact absurd hi' (hfresh m' t' ht')
      · rfl
  · intro k' m hm
    have hne : k' ≠ k := by
      rintro rfl
      cases (AList.lookup_erase k' x.pending).symm.trans hm
    have hm' := (AList.lookup_erase_ne hne).symm.trans hm
    have hother : key frame ≠ some k' := by
      intro hk'
      exact hne (Option.some.inj (hk'.symm.trans hkey))
    obtain ⟨t, ht, htk, hrest⟩ := h.kept_snoc hm' hother
    have hmn : n ≠ m := by
      rintro rfl
      cases ht₀.symm.trans ht
      exact hne (htk.symm.trans hk)
    refine ⟨t, ?_, htk, hrest⟩
    show (x.tickets.modify n _)[m]? = some t
    rw [List.getElem?_modify, ht]
    exact congrArg some (if_neg hmn)

theorem Matched.receive (h : x.Matched key) (frame : φ) : (x.receive key frame).Matched key := by
  unfold Exchange.receive
  split
  · rename_i hkey
    exact h.skip fun k hk => nomatch hkey.symm.trans hk
  · rename_i k hkey
    split
    · rename_i hnone
      exact h.skip fun k' hk => by rwa [Option.some.inj (hk.symm.trans hkey)]
    · rename_i n hn
      exact h.give hkey hn

/-- a key is kept only for a request that was given no frame -/
theorem Matched.not_given (h : x.Matched key) {k : κ} {n : Nat} (hn : x.pending.lookup k = some n)
    (i : Nat) : ¬ x.Given n i := by
  rintro ⟨t, ht, hi⟩
  obtain ⟨t₀, ht₀, hk, -, hwaits⟩ := h.kept k n hn
  cases ht.symm.trans ht₀
  have hgiven := h.given n t i ht hi
  obtain ⟨frame, hframe, hkey⟩ := hgiven.has
  exact hwaits i frame hgiven.since_le hframe (hkey.trans (congrArg some hk))

theorem Given.issue {n i : Nat} (h : x.Given n i) (k : κ) : (x.issue k).Given n i := by
  obtain ⟨t, ht, hi⟩ := h
  exact ⟨t, (List.getElem?_append_left (List.getElem?_eq_some_iff.mp ht).1).trans ht, hi⟩

/-- a request keeps the frame it was given -/
theorem Given.receive {n i : Nat} (h : x.Given n i) (hx : x.Matched key) (frame : φ) :
    (x.receive key frame).Given n i := by
  unfold Exchange.receive
  split
  · exact h
  · split
    · exact h
    · rename_i m hm
      have hne : m ≠ n := by
        rintro rfl
        exact hx.not_given hm i h
      obtain ⟨t, ht, hi⟩ := h
      refine ⟨t, ?_, hi⟩
      show (x.tickets.modify m _)[n]? = some t
      rw [List.getElem?_modify, ht]
      exact congrArg some (if_neg hne)

theorem receive_frames (frame : φ) : (x.receive key frame).frames = x.frames ++ [frame] := by
  unfold Exchange.receive
  split
  · rfl
  · split <;> rfl

/-- a frame adds no request and renames none -/
theorem receive_keys (frame : φ) :
    (x.receive key frame).tickets.map Ticket.key = x.tickets.map Ticket.key := by
  unfold Exchange.receive
  split
  · rfl
  · split
    · rfl
    · apply List.ext_getElem?
      intro m
      show ((x.tickets.modify _ _).map Ticket.key)[m]? = _
      rw [List.getElem?_map, List.getElem?_modify, List.getElem?_map]
      cases x.tickets[m]? with
      | none => rfl
      | some t =>
        show some (Ticket.key (if _ then _ else t)) = some t.key
        split <;> rfl

/-! ### the frame of a request -/

/-- the frame the `n`-th request was given -/
def frame? (x : Exchange κ φ) (n : Nat) : Option φ :=
  (x.tickets[n]?.bind Ticket.reply).bind fun i => x.frames[i]?

/-- a new request has no frame, and takes none from the others -/
theorem frame?_issue (k : κ) (n : Nat) : (x.issue k).frame? n = x.frame? n := by
  have hreply : (x.issue k).tickets[n]?.bind Ticket.reply = x.tickets[n]?.bind Ticket.reply := by
    show ((x.tickets ++ [_])[n]?).bind _ = _
    rcases Nat.lt_trichotomy n x.tickets.length with hlt | rfl | hgt
    · rw [List.getElem?_append_left hlt]
    · rw [List.getElem?_concat_length, List.getElem?_eq_none (Nat.le_refl _)]
      rfl
    · rw [List.getElem?_eq_none (Nat.le_of_lt hgt),
        List.getElem?_eq_none (by simpa using Nat.succ_le_of_lt hgt)]
  unfold frame?
  rw [hreply]
  rfl

theorem frame?_snoc (h : x.Matched key) (frame : φ) (n : Nat) :
    ({ x with frames := x.frames ++ [frame] } : Exchange κ φ).frame? n = x.frame? n := by
  unfold frame?
  cases ht : x.tickets[n]? with
  | none => rfl
  | some t =>
    cases hi : t.reply with
    | none => simp [hi]
    | some i =>
      have hlt := (h.given n t i ht hi).lt
      simp only [Option.bind_some, hi]
      exact List.getElem?_append_left hlt

/-- a frame with no key, or one that is not kept, is given to nobody -/
theorem frame?_receive_skip (h : x.Matched key) {frame : φ}
    (hskip : ∀ k, key frame = some k → x.pending.lookup k = none) (n : Nat) :
    (x.receive key frame).frame? n = x.frame? n ∧ (x.receive key frame).pending = x.pending := by
  unfold Exchange.receive
  cases hkey : key frame with
  | none => exact ⟨frame?_snoc h frame n, rfl⟩
  | some k =>
    simp only [hskip k hkey]
    exact ⟨frame?_snoc h frame n, trivial⟩

/-- a frame with a key that is kept is given to the request it is kept for -/
theorem frame?_receive_give (h : x.Matched key) {frame : φ} {k : κ} {n : Nat}
    (hkey : key frame = some k) (hn : x.pending.lookup k = some n) (m : Nat) :
    (x.receive key frame).frame? m = if m = n then some frame else x.frame? m := by
  obtain ⟨t₀, ht₀, -⟩ := h.kept k n hn
  unfold Exchange.receive
  simp only [hkey, hn]
  by_cases hm : m = n
  · subst hm
    have ht : (x.give m)[m]? = some { t₀ with reply := some x.frames.length } := by
      unfold give
      rw [List.getElem?_modify, ht₀]
      exact congrArg some (if_pos rfl)
    rw [if_pos rfl]
    unfold frame?
    simp only [ht, Option.bind_some]
    exact List.getElem?_concat_length
  · have ht : (x.give n)[m]? = x.tickets[m]? := by
      unfold give
      rw [List.getElem?_modify]
      cases x.tickets[m]? with
      | none => rfl
      | some t => exact congrArg some (if_neg (Ne.symm hm))
    have hsnoc := frame?_snoc h frame m
    rw [if_neg hm, ← hsnoc]
    unfold frame?
    simp only [ht]

end Exchange

end EdgeTranslators.Lib
