import Mathlib.Data.List.Basic
import Mathlib.Tactic.TypeStar

/-!
# A list that is kept up to date by changes

A program shows the rows of a table in a list and applies to it each change of the table it hears
of.  Rows are of any type `ρ` and have a key.

* `Change`, `Change.apply`   a row is replaced, added or removed;
* `rows`                     the rows of a list that have a key;
* `latest`                   the row that a key has after some changes, if it is still there;
* `UpToDate`                 a list has this row of every key, once, and no other;
* `Admissible`               only what is there is replaced, only what was never there is added;
* `UpToDate.apply`           an admissible change keeps the list up to date;
* `StandsIn`, `UpToDate.apply_iff`   the other lists to which it may be applied instead;
* `Justified`                every change of a list of changes was admissible when it was made;
* `latest_congr`             only the changes of a key count for its row;
* `perm_of_rows`             lists with the same rows of every key.
-/

namespace EdgeTranslators.Lib

inductive Change (κ ρ : Type*) where
  /-- the row replaces the one with its key -/
  | update (row : ρ)
  | create (row : ρ)
  | delete (k : κ)

section
variable {κ ρ : Type*} (key : ρ → κ)

namespace Change

/-- the key of the row that is changed -/
def target : Change κ ρ → κ
  | update row | create row => key row
  | delete k => k

/-- the row that is written -/
def row? : Change κ ρ → Option ρ
  | update row | create row => some row
  | delete _ => none

/-- the key that is removed -/
def deleted? : Change κ ρ → Option κ
  | update _ | create _ => none
  | delete k => some k

end Change

/-- the rows written by some changes -/
def written (log : List (Change κ ρ)) : List ρ := log.filterMap (·.row?)

/-- the keys removed by some changes -/
def deleted (log : List (Change κ ρ)) : List κ := log.filterMap (·.deleted?)

/-- the keys of all rows that there were -/
def keys (initial : List ρ) (log : List (Change κ ρ)) : List κ :=
  initial.map key ++ log.map (·.target key)

theorem written_concat (log : List (Change κ ρ)) (c : Change κ ρ) :
    written (log ++ [c]) = written log ++ c.row?.toList := by
  unfold written
  rw [List.filterMap_append]
  cases c <;> rfl

theorem mem_deleted_concat {log : List (Change κ ρ)} {c : Change κ ρ} {k : κ} :
    k ∈ deleted (log ++ [c]) ↔ k ∈ deleted log ∨ c.deleted? = some k := by
  unfold deleted
  rw [List.filterMap_append, List.mem_append]
  refine or_congr_right ?_
  cases c with
  | update row | create row => exact iff_of_false (List.not_mem_nil) nofun
  | delete k' =>
    show k ∈ [k'] ↔ some k' = some k
    rw [List.mem_singleton, Option.some.injEq, eq_comm]

theorem mem_keys_concat {initial : List ρ} {log : List (Change κ ρ)} {c : Change κ ρ} {k : κ} :
    k ∈ keys key initial (log ++ [c]) ↔ k ∈ keys key initial log ∨ k = c.target key := by
  unfold keys
  rw [List.map_append, ← List.append_assoc, List.mem_append]
  exact or_congr_right List.mem_singleton

variable [DecidableEq κ]

/-- the rows of a list that have a key -/
def rows (k : κ) (l : List ρ) : List ρ := l.filter fun row => key row = k

theorem rows_cons (k : κ) (row : ρ) (l : List ρ) :
    rows key k (row :: l) = if key row = k then row :: rows key k l else rows key k l := by
  unfold rows
  rw [List.filter_cons]
  simp only [decide_eq_true_eq]

theorem rows_append (k : κ) (a b : List ρ) : rows key k (a ++ b) = rows key k a ++ rows key k b :=
  List.filter_append ..

theorem mem_rows {k : κ} {row : ρ} {l : List ρ} : row ∈ rows key k l ↔ row ∈ l ∧ key row = k := by
  unfold rows
  rw [List.mem_filter, decide_eq_true_iff]

/-- keys of a table without duplicates are those of one row -/
theorem rows_of_nodup {l : List ρ} (h : (l.map key).Nodup) (k : κ) :
    rows key k l = (rows key k l).getLast?.toList := by
  induction l with
  | nil => rfl
  | cons row l ih =>
    obtain ⟨hnot, hnodup⟩ := List.nodup_cons.mp h
    rw [rows_cons]
    split
    · rename_i hk
      have hnone : rows key k l = [] := by
        refine List.eq_nil_iff_forall_not_mem.mpr fun row' hrow' => hnot ?_
        obtain ⟨hmem, hkey⟩ := (mem_rows key).mp hrow'
        rw [hk, ← hkey]
        exact List.mem_map_of_mem hmem
      rw [hnone]
      rfl
    · exact ih hnodup

/-! ## changes -/

namespace Change

/-- what becomes of a list -/
def apply (l : List ρ) : Change κ ρ → List ρ
  | update row => l.map fun row' => if key row' = key row then row else row'
  | create row => row :: l
  | delete k => l.filter fun row' => key row' ≠ k

/-- what becomes of the rows with the key that is changed -/
def own (l : List ρ) : Change κ ρ → List ρ
  | update row => l.map fun _ => row
  | create row => row :: l
  | delete _ => []

end Change

theorem rows_update (k : κ) (row : ρ) (l : List ρ) :
    rows key k ((Change.update row).apply key l) =
      if k = key row then (rows key k l).map fun _ => row else rows key k l := by
  induction l with
  | nil => exact (ite_self _).symm
  | cons row' l ih =>
    show rows key k ((if key row' = key row then row else row')
      :: (Change.update row).apply key l) = _
    rw [rows_cons, rows_cons, ih]
    by_cases hrow : key row' = key row
    · rw [if_pos hrow, hrow]
      by_cases hk : k = key row
      · rw [if_pos hk.symm, if_pos hk, if_pos hk.symm, if_pos hk, List.map_cons]
      · rw [if_neg (Ne.symm hk), if_neg hk, if_neg (Ne.symm hk), if_neg hk]
    · rw [if_neg hrow]
      by_cases hk : k = key row
      · rw [if_pos hk, if_pos hk, hk, if_neg hrow, if_neg hrow]
      · rw [if_neg hk, if_neg hk]

/-- a change is one of the rows with its key -/
theorem rows_apply (c : Change κ ρ) (k : κ) (l : List ρ) :
    rows key k (c.apply key l) =
      if k = c.target key then c.own (rows key k l) else rows key k l := by
  cases c with
  | update row => exact rows_update key k row l
  | create row =>
    show rows key k (row :: l) = _
    rw [rows_cons]
    by_cases hk : k = key row
    · rw [if_pos hk.symm]
      exact (if_pos hk).symm
    · rw [if_neg (Ne.symm hk)]
      exact (if_neg hk).symm
  | delete k' =>
    unfold rows Change.apply
    rw [List.filter_filter]
    by_cases hk : k = k'
    · subst hk
      refine Eq.trans ?_ (if_pos rfl).symm
      exact List.filter_eq_nil_iff.mpr fun row _ => by simp
    · refine Eq.trans (List.filter_congr fun row _ => ?_) (if_neg hk).symm
      by_cases hrow : key row = k
      · simp [hrow, hk]
      · simp [hrow]

theorem key_of_mem_apply {c : Change κ ρ} {l : List ρ} {row : ρ} (h : row ∈ c.apply key l) :
    key row = c.target key ∨ row ∈ l := by
  cases c with
  | update new =>
    obtain ⟨old, hold, rfl⟩ := List.mem_map.mp h
    split
    · exact .inl rfl
    · exact .inr hold
  | create new =>
    rcases List.mem_cons.mp h with rfl | h
    · exact .inl rfl
    · exact .inr h
  | delete k => exact .inr (List.mem_of_mem_filter h)

/-! ## the rows that are there -/

variable (initial : List ρ)

/-- the row that a key has after some changes: the last that was written, unless it was removed -/
def latest (log : List (Change κ ρ)) (k : κ) : Option ρ :=
  if k ∈ deleted log then none else (rows key k (initial ++ written log)).getLast?

/-- the list has the latest row of each key once, and nothing else -/
def UpToDate (log : List (Change κ ρ)) (l : List ρ) : Prop :=
  ∀ k, rows key k l = (latest key initial log k).toList

/-- the row of a key that there was is replaced, or one is added with a key that there never was -/
def Admissible (log : List (Change κ ρ)) : Change κ ρ → Prop
  | .update row => key row ∈ keys key initial log
  | .create row => key row ∉ keys key initial log
  | .delete _ => True

variable {initial} {log : List (Change κ ρ)} {c : Change κ ρ} {k : κ} {l : List ρ}

theorem UpToDate.nil (h : (initial.map key).Nodup) : UpToDate key initial [] initial := by
  intro k
  have hlatest : latest key initial ([] : List (Change κ ρ)) k = (rows key k initial).getLast? := by
    unfold latest
    rw [show written ([] : List (Change κ ρ)) = [] from rfl, List.append_nil]
    exact if_neg (List.not_mem_nil)
  rw [hlatest]
  exact rows_of_nodup key h k

/-- a change says nothing of other keys -/
theorem latest_concat_of_ne (h : k ≠ c.target key) :
    latest key initial (log ++ [c]) k = latest key initial log k := by
  have hdeleted : k ∈ deleted (log ++ [c]) ↔ k ∈ deleted log := by
    rw [mem_deleted_concat]
    refine or_iff_left fun hk => ?_
    cases c with
    | update row | create row => cases hk
    | delete k' => exact h (Option.some.inj hk).symm
  have hrows : rows key k c.row?.toList = [] := by
    cases c with
    | update row | create row => exact (rows_cons key k row []).trans (if_neg (Ne.symm h))
    | delete k' => rfl
  unfold latest
  rw [written_concat, ← List.append_assoc, rows_append, hrows, List.append_nil]
  simp only [hdeleted]

/-- a row that is written is the latest of its key, unless this was removed -/
theorem latest_concat_of_row {row : ρ} (h : c.row? = some row) :
    latest key initial (log ++ [c]) (key row) =
      if key row ∈ deleted log then none else some row := by
  have hdeleted : c.deleted? = none := by
    cases c with
    | update row | create row => rfl
    | delete k => cases h
  have hlast : (rows key (key row) (initial ++ written (log ++ [c]))).getLast? = some row := by
    rw [written_concat, ← List.append_assoc, rows_append, h, Option.toList_some, rows_cons,
      if_pos rfl]
    exact List.getLast?_concat
  unfold latest
  rw [hlast]
  simp only [mem_deleted_concat, hdeleted, reduceCtorEq, or_false]

theorem latest_concat_delete (k : κ) :
    latest key initial (log ++ [.delete k]) k = none :=
  if_pos (mem_deleted_concat.mpr (.inr rfl))

/-- a key that there was and that is not removed has a latest row -/
theorem latest_of_mem_keys (h : k ∈ keys key initial log) (hk : k ∉ deleted log) :
    ∃ row, latest key initial log k = some row := by
  unfold latest
  rw [if_neg hk]
  have hrow : ∃ row, row ∈ rows key k (initial ++ written log) := by
    rcases List.mem_append.mp h with hmem | hmem
    · obtain ⟨row, hrow, hkey⟩ := List.mem_map.mp hmem
      exact ⟨row, (mem_rows key).mpr ⟨List.mem_append_left _ hrow, hkey⟩⟩
    · obtain ⟨c, hc, hkey⟩ := List.mem_map.mp hmem
      cases c with
      | update row | create row =>
        have hwritten : row ∈ written log := List.mem_filterMap.mpr ⟨_, hc, rfl⟩
        exact ⟨row, (mem_rows key).mpr ⟨List.mem_append_right _ hwritten, hkey⟩⟩
      | delete k' =>
        obtain rfl : k' = k := hkey
        have hdeleted : k' ∈ deleted log := List.mem_filterMap.mpr ⟨_, hc, rfl⟩
        exact absurd hdeleted hk
  obtain ⟨row, hrow⟩ := hrow
  exact ⟨_, List.getLast?_eq_some_getLast (List.ne_nil_of_mem hrow)⟩

/-- a key that there never was has no row -/
theorem latest_of_notMem_keys (h : k ∉ keys key initial log) :
    k ∉ deleted log ∧ latest key initial log k = none := by
  have hdeleted : k ∉ deleted log := by
    intro hmem
    obtain ⟨c, hc, hdel⟩ := List.mem_filterMap.mp hmem
    cases c with
    | update row | create row => cases hdel
    | delete k' =>
      obtain rfl : k' = k := Option.some.inj hdel
      exact h (List.mem_append_right _ (List.mem_map.mpr ⟨_, hc, rfl⟩))
  have hrows : rows key k (initial ++ written log) = [] := by
    refine List.eq_nil_iff_forall_not_mem.mpr fun row hrow => h ?_
    obtain ⟨hmem, hkey⟩ := (mem_rows key).mp hrow
    rcases List.mem_append.mp hmem with hmem | hmem
    · exact List.mem_append_left _ (List.mem_map.mpr ⟨row, hmem, hkey⟩)
    · obtain ⟨c, hc, hwrite⟩ := List.mem_filterMap.mp hmem
      cases c with
      | update row' | create row' =>
        obtain rfl : row' = row := Option.some.inj hwrite
        exact List.mem_append_right _ (List.mem_map.mpr ⟨_, hc, hkey⟩)
      | delete k' => cases hwrite
  refine ⟨hdeleted, ?_⟩
  unfold latest
  rw [if_neg hdeleted, hrows]
  rfl

/-- **An admissible change keeps the list up to date.** -/
theorem UpToDate.apply (h : UpToDate key initial log l) (hc : Admissible key initial log c) :
    UpToDate key initial (log ++ [c]) (c.apply key l) := by
  intro k
  rw [rows_apply, h k]
  by_cases hk : k = c.target key
  · subst hk
    rw [if_pos rfl]
    cases c with
    | update row =>
      rw [show (Change.update row).target key = key row from rfl,
        latest_concat_of_row key (show (Change.update row).row? = some row from rfl)]
      by_cases hdeleted : key row ∈ deleted log
      · have hnone : latest key initial log (key row) = none := if_pos hdeleted
        rw [if_pos hdeleted, hnone]
        rfl
      · obtain ⟨old, hold⟩ := latest_of_mem_keys key hc hdeleted
        rw [if_neg hdeleted, hold]
        rfl
    | create row =>
      obtain ⟨hdeleted, hnone⟩ := latest_of_notMem_keys key hc
      rw [show (Change.create row).target key = key row from rfl,
        latest_concat_of_row key (show (Change.create row).row? = some row from rfl),
        if_neg hdeleted, hnone]
      rfl
    | delete k' =>
      rw [show (Change.delete k').target key = k' from rfl, latest_concat_delete]
      rfl
  · rw [if_neg hk, latest_concat_of_ne key hk]

/-! ## other lists -/

/-- one list may stand in for another when a change is applied: they have the same rows, except that
those a change replaces need only be as many -/
def StandsIn (l' l : List ρ) : Change κ ρ → Prop
  | .update row =>
    (∀ k ≠ key row, rows key k l' = rows key k l) ∧
      (rows key (key row) l').length = (rows key (key row) l).length
  | .create _ => ∀ k, rows key k l' = rows key k l
  | .delete k' => ∀ k ≠ k', rows key k l' = rows key k l

theorem StandsIn.refl (l : List ρ) (c : Change κ ρ) : StandsIn key l l c := by
  cases c with
  | update row => exact ⟨fun _ _ => rfl, rfl⟩
  | create row => exact fun _ => rfl
  | delete k => exact fun _ _ => rfl

theorem rows_apply_eq_iff {l' : List ρ} :
    (∀ k, rows key k (c.apply key l') = rows key k (c.apply key l)) ↔ StandsIn key l' l c := by
  -- the rows of the other keys on the one hand, those that change on the other
  have hsplit : (∀ k, rows key k (c.apply key l') = rows key k (c.apply key l)) ↔
      (∀ k ≠ c.target key, rows key k l' = rows key k l) ∧
        c.own (rows key (c.target key) l') = c.own (rows key (c.target key) l) := by
    constructor
    · intro hall
      refine ⟨fun k hk => ?_, ?_⟩
      · have heq := hall k
        rwa [rows_apply, rows_apply, if_neg hk, if_neg hk] at heq
      · have heq := hall (c.target key)
        rwa [rows_apply, rows_apply, if_pos rfl, if_pos rfl] at heq
    · rintro ⟨hother, hown⟩ k
      rw [rows_apply, rows_apply]
      by_cases hk : k = c.target key
      · rw [if_pos hk, if_pos hk, hk, hown]
      · rw [if_neg hk, if_neg hk, hother k hk]
  rw [hsplit]
  cases c with
  | update row =>
    refine and_congr_right fun _ => ?_
    show List.map _ _ = List.map _ _ ↔ _
    rw [List.map_const', List.map_const']
    exact List.replicate_left_inj
  | create row =>
    constructor
    · rintro ⟨hother, hown⟩ k
      by_cases hk : k = key row
      · rw [hk]
        exact (List.cons.inj hown).2
      · exact hother k hk
    · intro hall
      exact ⟨fun k _ => hall k, congrArg (row :: ·) (hall (key row))⟩
  | delete k' => exact and_iff_left rfl

/-- **A change of another list** gives one that is up to date exactly when this may stand in. -/
theorem UpToDate.apply_iff {l' : List ρ} (h : UpToDate key initial log l)
    (hc : Admissible key initial log c) :
    UpToDate key initial (log ++ [c]) (c.apply key l') ↔ StandsIn key l' l c := by
  have hafter := h.apply key hc
  rw [← rows_apply_eq_iff]
  constructor
  · exact fun hl' k => (hl' k).trans (hafter k).symm
  · exact fun heq k => (heq k).trans (hafter k)

/-! ## the changes of one key -/

theorem mem_deleted_iff (log : List (Change κ ρ)) (k : κ) :
    k ∈ deleted log ↔ k ∈ deleted (rows (Change.target key) k log) := by
  unfold deleted
  rw [List.mem_filterMap, List.mem_filterMap]
  constructor
  · rintro ⟨c, hc, hdel⟩
    refine ⟨c, (mem_rows _).mpr ⟨hc, ?_⟩, hdel⟩
    cases c with
    | update row | create row => cases hdel
    | delete k' => exact Option.some.inj hdel
  · rintro ⟨c, hc, hdel⟩
    exact ⟨c, ((mem_rows _).mp hc).1, hdel⟩

theorem rows_written (k : κ) (log : List (Change κ ρ)) :
    rows key k (written log) = written (rows (Change.target key) k log) := by
  induction log with
  | nil => rfl
  | cons c log ih =>
    rw [rows_cons]
    cases c with
    | update row | create row =>
      show rows key k (row :: written log) = written (if key row = k then _ else _)
      rw [rows_cons, ih]
      split <;> rfl
    | delete k' =>
      show rows key k (written log) = _
      rw [ih]
      split <;> rfl

theorem latest_congr {log' : List (Change κ ρ)}
    (h : rows (Change.target key) k log = rows (Change.target key) k log') :
    latest key initial log k = latest key initial log' k := by
  unfold latest
  rw [rows_append, rows_append, rows_written, rows_written, h]
  simp only [mem_deleted_iff key log, mem_deleted_iff key log', h]

/-! ## lists of admissible changes -/

variable (initial) in
/-- every change was admissible when it was made -/
def Justified (log : List (Change κ ρ)) : Prop :=
  ∀ a c b, log = a ++ c :: b → Admissible key initial a c

omit [DecidableEq κ] in
theorem Justified.nil : Justified key initial [] := by
  intro a c b h
  exact absurd h.symm (by simp)

omit [DecidableEq κ] in
theorem Justified.concat (h : Justified key initial log) (hc : Admissible key initial log c) :
    Justified key initial (log ++ [c]) := by
  intro a d b hab
  rcases List.eq_nil_or_concat b with rfl | ⟨b, d', rfl⟩
  · obtain ⟨rfl, heq⟩ := List.append_inj' hab rfl
    cases heq
    exact hc
  · rw [List.concat_eq_append, ← List.cons_append, ← List.append_assoc] at hab
    exact h a d b (List.append_inj' hab rfl).1

omit [DecidableEq κ] in
/-- a key is added once -/
theorem Justified.create_notMem {row : ρ} {a b : List (Change κ ρ)}
    (h : Justified key initial (a ++ .create row :: b)) : Change.create row ∉ b := by
  intro hmem
  obtain ⟨b₁, b₂, rfl⟩ := List.append_of_mem hmem
  have hnew := h (a ++ .create row :: b₁) (.create row) b₂ (by simp)
  refine hnew (List.mem_append_right _ (List.mem_map.mpr ⟨.create row, ?_, rfl⟩))
  exact List.mem_append_right _ List.mem_cons_self

/-! ## lists with the same rows -/

theorem perm_of_rows {l l' : List ρ} (h : ∀ k, rows key k l = rows key k l') : l.Perm l' := by
  classical
  refine List.perm_iff_count.mpr fun row => ?_
  -- a row is among those of its key
  have hcount : ∀ l : List ρ, l.count row = (rows key (key row) l).count row := by
    intro l
    exact (List.count_filter (by simp)).symm
  rw [hcount l, hcount l', h]

end

end EdgeTranslators.Lib
