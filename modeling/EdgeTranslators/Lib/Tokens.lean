import Mathlib.Data.List.TakeWhile

/-!
# Tokens between separators, and occurrences

`strtok_r` skips separators, takes what comes before the next one and goes on behind it; `strstr`
looks for one string in another.

* `strtok d s`        one call, with the place where the next one goes on;
* `tokens d s`        the pieces of `s` between separators that are not empty;
* `strtok_eq`         a call returns the first of them and leaves the others;
* `strstr s n`        `s` from the first occurrence of `n` on;
* `strstr_append_cons`   what comes before a separator is skipped, if the string is not in there.
-/

namespace EdgeTranslators.Lib

section
variable {α : Type*} [DecidableEq α] {d : α} {s t : List α}

/-- `strtok_r` with the separator `d`; the string goes on in the second component -/
def strtok (d : α) (s : List α) : Option (List α) × List α :=
  match s.dropWhile (· = d) with
  | [] => (none, [])
  | c :: cs => (some ((c :: cs).takeWhile (· ≠ d)), ((c :: cs).dropWhile (· ≠ d)).drop 1)

/-- the pieces between separators that are not empty -/
def tokens (d : α) (s : List α) : List (List α) := (s.splitOn d).filter (· ≠ [])

@[simp] theorem tokens_nil : tokens d ([] : List α) = [] := by simp [tokens]

/-- a separator at the start makes no token -/
theorem tokens_cons_self : tokens d (d :: s) = tokens d s := by
  unfold tokens
  rw [List.splitOn_cons_eq_if_modifyHead, if_pos (beq_self_eq_true d)]
  rfl

theorem tokens_dropWhile : tokens d (s.dropWhile (· = d)) = tokens d s := by
  induction s with
  | nil => rfl
  | cons c s ih =>
    by_cases h : c = d
    · subst h
      rw [List.dropWhile_cons_of_pos (by simp), ih, tokens_cons_self]
    · rw [List.dropWhile_cons_of_neg (by simpa using h)]

/-- what comes before the first separator is a token, the rest gives the others -/
theorem tokens_append_cons (ht : t ≠ []) (hd : d ∉ t) :
    tokens d (t ++ d :: s) = t :: tokens d s := by
  unfold tokens
  rw [List.splitOn_append_cons_self_of_not_mem hd, List.filter_cons_of_pos (by simpa using ht)]

theorem tokens_of_not_mem (ht : t ≠ []) (hd : d ∉ t) : tokens d t = [t] := by
  unfold tokens
  rw [List.splitOn_eq_singleton hd, List.filter_cons_of_pos (by simpa using ht)]
  rfl

/-- **A call returns the first token, and the next call goes on with the others.** -/
theorem strtok_eq (d : α) (s : List α) :
    (strtok d s).1 = (tokens d s).head? ∧ tokens d (strtok d s).2 = (tokens d s).tail := by
  unfold strtok
  rw [← tokens_dropWhile]
  have hhead := List.head?_dropWhile_not (fun c => decide (c = d)) s
  generalize s.dropWhile (· = d) = s' at hhead ⊢
  cases s' with
  | nil => simp
  | cons c cs =>
    have hc : c ≠ d := by simpa using hhead
    have hne : (c :: cs).takeWhile (· ≠ d) ≠ [] := by
      rw [List.takeWhile_cons_of_pos (by simpa using hc)]
      exact List.cons_ne_nil _ _
    have hnot : d ∉ (c :: cs).takeWhile (· ≠ d) := by
      intro hmem
      have hyes := List.mem_takeWhile_imp hmem
      simp at hyes
    have hsplit := List.takeWhile_append_dropWhile (p := fun x => decide (x ≠ d)) (l := c :: cs)
    have hrest := List.head?_dropWhile_not (fun x => decide (x ≠ d)) (c :: cs)
    simp only
    generalize (c :: cs).takeWhile (· ≠ d) = front at hne hnot hsplit ⊢
    generalize (c :: cs).dropWhile (· ≠ d) = back at hsplit hrest ⊢
    rw [← hsplit]
    cases back with
    | nil =>
      rw [List.append_nil, tokens_of_not_mem hne hnot]
      exact ⟨rfl, tokens_nil⟩
    | cons x back =>
      obtain rfl : x = d := by simpa using hrest
      rw [tokens_append_cons hne hnot]
      exact ⟨rfl, rfl⟩

/-! ## occurrences -/

/-- `strstr`: the string from the first place on where the other one occurs -/
def strstr : (haystack needle : List α) → Option (List α)
  | [], needle => if needle = [] then some [] else none
  | c :: cs, needle =>
    if needle.isPrefixOf (c :: cs) then some (c :: cs) else strstr cs needle

theorem strstr_isSome (haystack needle : List α) :
    (strstr haystack needle).isSome = true ↔ needle <:+: haystack := by
  induction haystack with
  | nil =>
    unfold strstr
    rw [List.infix_nil]
    split <;> simp [*]
  | cons c cs ih =>
    unfold strstr
    rw [List.infix_cons_iff, ← ih, ← List.isPrefixOf_iff_prefix]
    split
    · rename_i hstarts
      simp [hstarts]
    · rename_i hstarts
      simp [hstarts]

section
variable {n a b : List α}

omit [DecidableEq α] in
/-- a string without the separator begins before it -/
theorem prefix_of_prefix_append_cons (hd : d ∉ n) (h : n <+: a ++ d :: b) : n <+: a := by
  rcases Nat.le_total n.length a.length with hle | hlt
  · exact List.prefix_of_prefix_length_le h (List.prefix_append a _) hle
  · have ha : a <+: n := List.prefix_of_prefix_length_le (List.prefix_append a _) h hlt
    obtain ⟨t, rfl⟩ := ha
    rw [List.prefix_append_right_inj] at h
    cases t with
    | nil => exact ⟨[], by rw [List.append_nil, List.append_nil]⟩
    | cons x t =>
      rw [(List.cons_prefix_cons.mp h).1] at hd
      exact absurd (List.mem_append_right _ List.mem_cons_self) hd

omit [DecidableEq α] in
/-- a piece and its separator begin a string exactly when it is the first piece -/
theorem append_separator_prefix_iff {c : List α} (ha : d ∉ a) (hb : d ∉ b) :
    a ++ [d] <+: b ++ d :: c ↔ a = b := by
  induction a generalizing b with
  | nil =>
    cases b with
    | nil => exact iff_of_true (List.prefix_append [d] c) rfl
    | cons y b =>
      refine iff_of_false (fun h => hb ?_) nofun
      rw [(List.cons_prefix_cons.mp h).1]
      exact List.mem_cons_self
  | cons x a ih =>
    obtain ⟨hx, ha⟩ := not_or.mp (mt List.mem_cons.mpr ha)
    cases b with
    | nil => exact iff_of_false (fun h => hx (List.cons_prefix_cons.mp h).1.symm) nofun
    | cons y b =>
      rw [List.cons_append, List.cons_append, List.cons_prefix_cons,
        ih ha fun h => hb (List.mem_cons_of_mem _ h), List.cons_eq_cons]

theorem strstr_of_prefix (h : n <+: s) : strstr s n = some s := by
  cases s with
  | nil =>
    rw [List.prefix_nil.mp h]
    rfl
  | cons c s =>
    unfold strstr
    rw [if_pos (List.isPrefixOf_iff_prefix.mpr h)]

/-- the first occurrence is behind the separator if there is none before it -/
theorem strstr_append_cons (hn : n ≠ []) (hd : d ∉ n) (ha : ¬n <:+: a) :
    strstr (a ++ d :: b) n = strstr b n := by
  induction a with
  | nil =>
    have hnot : ¬n <+: d :: b := by
      intro h
      exact hn (List.prefix_nil.mp (prefix_of_prefix_append_cons (a := []) hd h))
    exact if_neg (by rwa [List.isPrefixOf_iff_prefix])
  | cons c a ih =>
    have hnot : ¬n <+: c :: (a ++ d :: b) := by
      intro h
      exact ha (prefix_of_prefix_append_cons (a := c :: a) hd h).isInfix
    have hskip : strstr (c :: (a ++ d :: b)) n = strstr (a ++ d :: b) n :=
      if_neg (by rwa [List.isPrefixOf_iff_prefix])
    rw [List.cons_append, hskip]
    exact ih fun h => ha (h.trans (List.infix_cons (List.infix_refl a)))

end

end

end EdgeTranslators.Lib
