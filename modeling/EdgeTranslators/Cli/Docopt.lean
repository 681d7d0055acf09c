import Mathlib.Data.List.TakeWhile

/-!
# Reading a command line (the `*_clip.h` of the programs)

The four programs have the same parser and tables of their own.  A table lists the options; the
parser marks in it what the tokens of the command line set.

* `parseLong`, `parseShorts`, `parseArgcmd`, `parseArgs`   the parser, from the current token on;
* `Setting`, `Setting.apply`    what a token sets, and where it is marked;
* `Reads`, `Follows`            the grammar of a token with the one behind it, and of a command line;
* `parseToken_iff`              a token is parsed exactly when the grammar reads it;
* `parseArgs_iff`               so is a command line, and what is marked is what it sets.
-/

namespace EdgeTranslators.Cli

/-- a string, without the character that ends it -/
abbrev Text := List Char

/-- the tokens from `current` on -/
abbrev Tokens := List Text

structure Command where
  name : Text
  value : Bool
  deriving DecidableEq, Repr

/-- the names of an `Option`, and whether it takes an argument -/
structure OptionNames where
  oshort : Option String
  olong : String
  argcount : Bool
  deriving DecidableEq, Repr

/-- `Option` -/
structure OptionElement extends OptionNames where
  value : Bool
  argument : Option Text
  deriving DecidableEq, Repr

/-- there are no positional arguments -/
structure Elements where
  commands : List Command
  options : List OptionElement
  deriving DecidableEq, Repr

/-- `(eq-(ts->current))/sizeof(char)` without an `=`, as `strncmp` takes it -/
abbrev NullLength := Tokens → Nat

/-! ## the parser -/

/-- `!strncmp(a, b, n)` -/
def strncmpEq (a b : Text) (n : Nat) : Bool := a.take n = b.take n

/-- `strchr(s, c)` -/
def strchr (s : Text) (c : Char) : Option Text :=
  match s.dropWhile (· ≠ c) with
  | [] => none
  | rest => some rest

/-- the first option with a property, and its index -/
def Elements.firstOption (elements : Elements) (p : OptionNames → Bool) :
    Option (Nat × OptionElement) :=
  (elements.options.findIdx? fun option => p option.toOptionNames).bind fun i =>
    elements.options[i]?.map fun option => (i, option)

def Elements.setOption (elements : Elements) (i : Nat) (f : OptionElement → OptionElement) :
    Elements :=
  { elements with options := elements.options.modify i f }

def Elements.setValue (elements : Elements) (i : Nat) : Elements :=
  elements.setOption i fun option => { option with value := true }

def Elements.setArgument (elements : Elements) (i : Nat) (argument : Text) : Elements :=
  elements.setOption i fun option => { option with argument := some argument }

def Elements.setCommand (elements : Elements) (i : Nat) : Elements :=
  { elements with commands := elements.commands.modify i fun command => { command with value := true } }

def parseLong (nullLength : NullLength) (current : Text) (behind : Tokens) (elements : Elements) :
    Except String (Tokens × Elements) :=
  let eq := strchr current '='
  let lenPrefix := eq.elim (nullLength (current :: behind)) fun eq => current.length - eq.length
  let text := String.ofList current
  match elements.firstOption fun option => strncmpEq current option.olong.toList lenPrefix with
  | none => .error s!"{text} is not recognized\n"
  | some (i, option) =>
    let name := option.olong
    if option.argcount then
      match eq, behind with
      | none, [] => .error s!"{name} requires argument\n"
      | none, argument :: behind => .ok (behind, elements.setArgument i argument)
      | some eq, behind => .ok (behind, elements.setArgument i (eq.drop 1))
    else
      match eq with
      | some _ => .error s!"{name} must not have an argument\n"
      | none => .ok (behind, elements.setValue i)

/-- the option has the short name `-c` -/
def OptionNames.isShort (c : Char) (option : OptionNames) : Bool :=
  option.oshort.any fun oshort => oshort.toList[1]? = some c

/-- the loop of `parse_shorts` -/
def parseShortsLoop : Text → Tokens → Elements → Except String (Tokens × Elements)
  | [], behind, elements => .ok (behind, elements)
  | c :: raw, behind, elements =>
    match elements.firstOption fun option => option.isShort c with
    | none => .error s!"-{c} is not recognized\n"
    | some (i, option) =>
      let name := option.oshort.getD ""
      if option.argcount then
        match raw, behind with
        | [], [] => .error s!"{name} requires argument\n"
        | [], argument :: behind => .ok (behind, elements.setArgument i argument)
        | c :: raw, behind => .ok (behind, elements.setArgument i (c :: raw))
      else parseShortsLoop raw behind (elements.setValue i)

def parseShorts (current : Text) (behind : Tokens) (elements : Elements) :
    Except String (Tokens × Elements) :=
  parseShortsLoop (current.drop 1) behind elements

/-- a token that is no option is skipped, unless it is a command -/
def parseArgcmd (current : Text) (behind : Tokens) (elements : Elements) :
    Except String (Tokens × Elements) :=
  match elements.commands.findIdx? fun command => command.name = current with
  | some i => .ok (behind, elements.setCommand i)
  | none => .ok (behind, elements)

/-- one round of `parse_args`, for a token other than `--` -/
def parseToken (nullLength : NullLength) (current : Text) (behind : Tokens) (elements : Elements) :
    Except String (Tokens × Elements) :=
  match current with
  | '-' :: '-' :: _ => parseLong nullLength current behind elements
  | '-' :: _ :: _ => parseShorts current behind elements
  | _ => parseArgcmd current behind elements

theorem parseLong_length {nullLength : NullLength} {current : Text} {behind after : Tokens}
    {elements elements' : Elements}
    (h : parseLong nullLength current behind elements = .ok (after, elements')) :
    after.length ≤ behind.length := by
  unfold parseLong at h
  dsimp only at h
  split at h
  · cases h
  · split at h
    · split at h
      · cases h
      · cases h
        exact Nat.le_succ _
      · cases h
        exact Nat.le_refl _
    · split at h
      · cases h
      · cases h
        exact Nat.le_refl _

theorem parseShortsLoop_length {raw : Text} {behind after : Tokens} {elements elements' : Elements}
    (h : parseShortsLoop raw behind elements = .ok (after, elements')) :
    after.length ≤ behind.length := by
  induction raw generalizing elements with
  | nil =>
    cases h
    exact Nat.le_refl _
  | cons c raw ih =>
    unfold parseShortsLoop at h
    split at h
    · cases h
    · dsimp only at h
      split at h
      · split at h
        · cases h
        · cases h
          exact Nat.le_succ _
        · cases h
          exact Nat.le_refl _
      · exact ih h

/-- a round takes the token, and may take the one behind it -/
theorem parseToken_length {nullLength : NullLength} {current : Text} {behind after : Tokens}
    {elements elements' : Elements}
    (h : parseToken nullLength current behind elements = .ok (after, elements')) :
    after.length ≤ behind.length := by
  unfold parseToken at h
  split at h
  · exact parseLong_length h
  · exact parseShortsLoop_length h
  · unfold parseArgcmd at h
    split at h <;> cases h <;> exact Nat.le_refl _

/-- `parse_doubledash`, which is not implemented, ends the loop -/
def parseDoubledash (elements : Elements) : Except String Elements := .ok elements

def parseArgs (nullLength : NullLength) : Tokens → Elements → Except String Elements
  | [], elements => .ok elements
  | current :: behind, elements =>
    if current = ['-', '-'] then parseDoubledash elements
    else
      match h : parseToken nullLength current behind elements with
      | .error message => .error message
      | .ok (after, elements) =>
        have : after.length < (current :: behind).length :=
          Nat.lt_succ_of_le (parseToken_length h)
        parseArgs nullLength after elements
termination_by ts => ts.length
decreasing_by exact this

/-! ## the grammar -/

/-- what a token sets: an option without an argument, one with it, a command -/
inductive Setting where
  | flag (i : Nat)
  | argument (i : Nat) (argument : Text)
  | command (i : Nat)
  deriving DecidableEq, Repr

def Setting.apply (elements : Elements) : Setting → Elements
  | .flag i => elements.setValue i
  | .argument i value => elements.setArgument i value
  | .command i => elements.setCommand i

/-- the names of a table -/
structure Table where
  commands : List Text
  options : List OptionNames
  deriving DecidableEq, Repr

def Elements.table (elements : Elements) : Table where
  commands := elements.commands.map Command.name
  options := elements.options.map OptionElement.toOptionNames

/-- the first option with a property -/
def Table.First (table : Table) (p : OptionNames → Bool) (i : Nat) (o : OptionNames) : Prop :=
  table.options.findIdx? p = some i ∧ table.options[i]? = some o

/-- the token starts with two dashes -/
def IsLong (token : Text) : Prop := ['-', '-'] <+: token

/-- the token is no option -/
def IsWord (token : Text) : Prop := ∀ c cs, token ≠ '-' :: c :: cs

/-- short options in one token, with the tokens behind it -/
inductive Bundle (table : Table) : Text → Tokens → List Setting → Tokens → Prop where
  | nil {behind : Tokens} : Bundle table [] behind [] behind
  | flag {c : Char} {raw : Text} {behind after : Tokens} {settings : List Setting} {i : Nat}
      {o : OptionNames} (hfirst : table.First (·.isShort c) i o) (hflag : o.argcount = false)
      (h : Bundle table raw behind settings after) :
      Bundle table (c :: raw) behind (.flag i :: settings) after
  | attached {c d : Char} {raw : Text} {behind : Tokens} {i : Nat} {o : OptionNames}
      (hfirst : table.First (·.isShort c) i o) (hargument : o.argcount = true) :
      Bundle table (c :: d :: raw) behind [.argument i (d :: raw)] behind
  | separate {c : Char} {argument : Text} {behind : Tokens} {i : Nat} {o : OptionNames}
      (hfirst : table.First (·.isShort c) i o) (hargument : o.argcount = true) :
      Bundle table [c] (argument :: behind) [.argument i argument] behind

/-- a token other than `--`, the tokens behind it, what they set, and the tokens that are left -/
inductive Reads (table : Table) : Text → Tokens → List Setting → Tokens → Prop where
  | flag {name : Text} {behind : Tokens} {i : Nat} {o : OptionNames} (hlong : IsLong name)
      (heq : '=' ∉ name) (hfirst : table.First (·.olong.toList = name) i o) (hflag : o.argcount = false) :
      Reads table name behind [.flag i] behind
  | separate {name argument : Text} {behind : Tokens} {i : Nat} {o : OptionNames}
      (hlong : IsLong name) (heq : '=' ∉ name) (hfirst : table.First (·.olong.toList = name) i o)
      (hargument : o.argcount = true) :
      Reads table name (argument :: behind) [.argument i argument] behind
  /-- before an `=`, the start of a name will do -/
  | joined {start argument : Text} {behind : Tokens} {i : Nat} {o : OptionNames}
      (hlong : IsLong start) (heq : '=' ∉ start)
      (hfirst : table.First (fun o => start <+: o.olong.toList) i o) (hargument : o.argcount = true) :
      Reads table (start ++ '=' :: argument) behind [.argument i argument] behind
  | shorts {c : Char} {raw : Text} {behind after : Tokens} {settings : List Setting} (hc : c ≠ '-')
      (h : Bundle table (c :: raw) behind settings after) :
      Reads table ('-' :: c :: raw) behind settings after
  | command {token : Text} {behind : Tokens} {i : Nat} (hword : IsWord token)
      (hcommand : table.commands.findIdx? (· = token) = some i) :
      Reads table token behind [.command i] behind
  | word {token : Text} {behind : Tokens} (hword : IsWord token) (hcommand : token ∉ table.commands) :
      Reads table token behind [] behind

/-- a command line, and what it sets -/
inductive Follows (table : Table) : Tokens → List Setting → Prop where
  | nil : Follows table [] []
  | doubledash {rest : Tokens} : Follows table (['-', '-'] :: rest) []
  | token {current : Text} {behind after : Tokens} {first others : List Setting}
      (hcurrent : current ≠ ['-', '-']) (hfirst : Reads table current behind first after)
      (h : Follows table after others) : Follows table (current :: behind) (first ++ others)

/-! ## what is marked -/

section
variable {elements : Elements} {i : Nat} {p : OptionNames → Bool}

theorem map_modify {α β : Type} {f : α → β} {g : α → α} (h : ∀ a, f (g a) = f a) (l : List α)
    (i : Nat) : (l.modify i g).map f = l.map f := by
  refine List.ext_getElem? fun j => ?_
  rw [List.getElem?_map, List.getElem?_map, List.getElem?_modify]
  cases l[j]? with
  | none => rfl
  | some a =>
    show some (f (if i = j then g a else a)) = some (f a)
    split
    · rw [h]
    · rfl

@[simp] theorem table_setValue : (elements.setValue i).table = elements.table := by
  exact congrArg (Table.mk _) (map_modify (by intro option; rfl) _ _)

@[simp] theorem table_setArgument {argument : Text} :
    (elements.setArgument i argument).table = elements.table := by
  exact congrArg (Table.mk _) (map_modify (by intro option; rfl) _ _)

@[simp] theorem table_setCommand : (elements.setCommand i).table = elements.table := by
  exact congrArg (Table.mk · _) (map_modify (by intro command; rfl) _ _)

@[simp] theorem table_apply (setting : Setting) : (setting.apply elements).table = elements.table := by
  cases setting with
  | flag i => exact table_setValue
  | argument i argument => exact table_setArgument
  | command i => exact table_setCommand

theorem table_foldl (settings : List Setting) :
    (settings.foldl Setting.apply elements).table = elements.table := by
  induction settings generalizing elements with
  | nil => rfl
  | cons setting settings ih => rw [List.foldl_cons, ih, table_apply]

theorem firstOption_eq_some {option : OptionElement} :
    elements.firstOption p = some (i, option) ↔
      elements.table.First p i option.toOptionNames ∧ elements.options[i]? = some option := by
  unfold Elements.firstOption Table.First Elements.table
  rw [List.findIdx?_map, List.getElem?_map, Option.bind_eq_some_iff]
  constructor
  · rintro ⟨j, hj, hoption⟩
    obtain ⟨option', hoption', heq⟩ := Option.map_eq_some_iff.mp hoption
    cases heq
    exact ⟨⟨hj, by rw [hoption']; rfl⟩, hoption'⟩
  · rintro ⟨⟨hj, -⟩, hoption⟩
    exact ⟨i, hj, by rw [hoption]; rfl⟩

theorem firstOption_of_first {o : OptionNames} (h : elements.table.First p i o) :
    ∃ option, elements.firstOption p = some (i, option) ∧ option.toOptionNames = o := by
  obtain ⟨option, hoption, rfl⟩ := Option.map_eq_some_iff.mp
    ((List.getElem?_map ..).symm.trans h.2)
  exact ⟨option, firstOption_eq_some.mpr ⟨h, hoption⟩, rfl⟩

end

/-! ## long options -/

section
variable {s start argument : Text}

theorem strchr_eq_none (h : '=' ∉ s) : strchr s '=' = none := by
  unfold strchr
  rw [List.dropWhile_eq_nil_iff.mpr fun c hc => decide_eq_true (ne_of_mem_of_not_mem hc h)]

theorem strchr_append (h : '=' ∉ start) :
    strchr (start ++ '=' :: argument) '=' = some ('=' :: argument) := by
  unfold strchr
  rw [List.dropWhile_append_of_pos fun c hc => decide_eq_true (ne_of_mem_of_not_mem hc h)]
  rfl

/-- a string has an `=` or not -/
theorem strchr_cases (s : Text) :
    '=' ∉ s ∨ ∃ start argument, s = start ++ '=' :: argument ∧ '=' ∉ start := by
  by_cases h : '=' ∈ s
  · obtain ⟨start, argument, rfl, hstart⟩ := List.eq_append_cons_of_mem h
    exact .inr ⟨start, argument, rfl, hstart⟩
  · exact .inl h

theorem strncmpEq_joined (olong : Text) :
    strncmpEq (start ++ '=' :: argument) olong
      ((start ++ '=' :: argument).length - ('=' :: argument).length) =
        decide (start <+: olong) := by
  have hlength : (start ++ '=' :: argument).length - ('=' :: argument).length = start.length := by
    rw [List.length_append]
    omega
  unfold strncmpEq
  rw [hlength, List.take_left]
  exact decide_eq_decide.mpr List.prefix_iff_eq_take.symm

theorem strncmpEq_whole {olong : Text} {n : Nat} (h : olong.length < n) :
    strncmpEq s olong n = decide (olong = s) := by
  unfold strncmpEq
  rw [List.take_of_length_le (Nat.le_of_lt h)]
  refine decide_eq_decide.mpr ⟨fun heq => ?_, fun heq => ?_⟩
  · -- the part that is compared is shorter than the bound, so it is the whole
    have hlength := congrArg List.length heq
    rw [List.length_take] at hlength
    rw [← heq, List.take_of_length_le (by omega)]
  · rw [← heq, List.take_of_length_le (Nat.le_of_lt h)]

end

theorem findIdx?_congr {α : Type} {p q : α → Bool} {l : List α} (h : ∀ a ∈ l, p a = q a) :
    l.findIdx? p = l.findIdx? q := by
  induction l with
  | nil => rfl
  | cons a l ih =>
    rw [List.findIdx?_cons, List.findIdx?_cons, h a List.mem_cons_self,
      ih fun b hb => h b (List.mem_cons_of_mem a hb)]

theorem first_congr {table : Table} {p q : OptionNames → Bool} {i : Nat} {o : OptionNames}
    (h : ∀ o ∈ table.options, p o = q o) : table.First p i o ↔ table.First q i o := by
  unfold Table.First
  rw [findIdx?_congr h]

/-- without an `=` the names are compared as a whole -/
def Whole (table : Table) (nullLength : NullLength) : Prop :=
  ∀ ts, ∀ o ∈ table.options, o.olong.toList.length < nullLength ts

section
variable {nullLength : NullLength} {elements elements' : Elements} {current : Text}
  {behind after : Tokens}

theorem first_whole {i : Nat} {o : OptionNames} (hwhole : Whole elements.table nullLength)
    (ts : Tokens) : elements.table.First (fun o => strncmpEq current o.olong.toList (nullLength ts)) i o ↔
      elements.table.First (·.olong.toList = current) i o :=
  first_congr fun o ho => strncmpEq_whole (hwhole ts o ho)

theorem first_joined {start : Text} (argument : Text) {i : Nat} {o : OptionNames} :
    elements.table.First (fun o => strncmpEq (start ++ '=' :: argument) o.olong.toList
        ((start ++ '=' :: argument).length - ('=' :: argument).length)) i o ↔
      elements.table.First (fun o => start <+: o.olong.toList) i o :=
  first_congr fun o _ => strncmpEq_joined o.olong.toList

theorem reads_of_parseLong (hlong : IsLong current) (hwhole : Whole elements.table nullLength)
    (h : parseLong nullLength current behind elements = .ok (after, elements')) :
    ∃ settings, Reads elements.table current behind settings after ∧
      elements' = settings.foldl Setting.apply elements := by
  unfold parseLong at h
  rcases strchr_cases current with heq | ⟨start, argument, rfl, heq⟩
  · rw [strchr_eq_none heq] at h
    dsimp only [Option.elim_none] at h
    split at h
    · cases h
    · rename_i i option hoption
      obtain ⟨hfirst, -⟩ := firstOption_eq_some.mp hoption
      have hnamed := (first_whole hwhole _).mp hfirst
      cases hcount : option.argcount with
      | true =>
        rw [hcount, if_pos rfl] at h
        cases behind with
        | nil => cases h
        | cons argument behind =>
          cases h
          exact ⟨_, .separate hlong heq hnamed hcount, rfl⟩
      | false =>
        rw [hcount, if_neg Bool.false_ne_true] at h
        cases h
        exact ⟨_, .flag hlong heq hnamed hcount, rfl⟩
  · rw [strchr_append heq] at h
    dsimp only [Option.elim_some] at h
    split at h
    · cases h
    · rename_i i option hoption
      obtain ⟨hfirst, -⟩ := firstOption_eq_some.mp hoption
      have hnamed := (first_joined argument).mp hfirst
      have hstart : IsLong start := by
        obtain ⟨rest, hrest⟩ := hlong
        cases start with
        | nil => cases hrest
        | cons a start =>
          cases start with
          | nil => cases hrest
          | cons b start =>
            cases hrest
            exact ⟨start, rfl⟩
      cases hcount : option.argcount with
      | true =>
        rw [hcount, if_pos rfl] at h
        cases h
        exact ⟨_, .joined hstart heq hnamed hcount, rfl⟩
      | false =>
        rw [hcount, if_neg Bool.false_ne_true] at h
        cases h

/-! ## short options -/

theorem reads_of_parseShortsLoop {raw : Text}
    (h : parseShortsLoop raw behind elements = .ok (after, elements')) :
    ∃ settings, Bundle elements.table raw behind settings after ∧
      elements' = settings.foldl Setting.apply elements := by
  induction raw generalizing elements with
  | nil =>
    cases h
    exact ⟨[], .nil, rfl⟩
  | cons c raw ih =>
    unfold parseShortsLoop at h
    split at h
    · cases h
    · rename_i i option hoption
      obtain ⟨hfirst, -⟩ := firstOption_eq_some.mp hoption
      cases hcount : option.argcount with
      | true =>
        dsimp only at h
        rw [hcount, if_pos rfl] at h
        cases raw with
        | nil =>
          cases behind with
          | nil => cases h
          | cons argument behind =>
            cases h
            exact ⟨_, .separate hfirst hcount, rfl⟩
        | cons d raw =>
          cases h
          exact ⟨_, .attached hfirst hcount, rfl⟩
      | false =>
        dsimp only at h
        rw [hcount, if_neg Bool.false_ne_true] at h
        obtain ⟨settings, hbundle, rfl⟩ := ih h
        rw [table_setValue] at hbundle
        exact ⟨_, .flag hfirst hcount hbundle, rfl⟩

theorem parseShortsLoop_of_bundle {raw : Text} {settings : List Setting}
    (h : Bundle elements.table raw behind settings after) :
    parseShortsLoop raw behind elements = .ok (after, settings.foldl Setting.apply elements) := by
  generalize htable : elements.table = table at h
  induction h generalizing elements with
  | nil => rfl
  | flag hfirst hflag _ ih =>
    subst htable
    obtain ⟨option, hoption, rfl⟩ := firstOption_of_first hfirst
    unfold parseShortsLoop
    simp only [hoption, hflag, Bool.false_eq_true, if_false]
    exact ih table_setValue
  | attached hfirst hargument =>
    subst htable
    obtain ⟨option, hoption, rfl⟩ := firstOption_of_first hfirst
    unfold parseShortsLoop
    simp only [hoption, hargument, if_true]
    rfl
  | separate hfirst hargument =>
    subst htable
    obtain ⟨option, hoption, rfl⟩ := firstOption_of_first hfirst
    unfold parseShortsLoop
    simp only [hoption, hargument, if_true]
    rfl

/-! ## tokens -/

theorem parseToken_long (h : IsLong current) :
    parseToken nullLength current behind elements = parseLong nullLength current behind elements := by
  obtain ⟨rest, rfl⟩ := h
  rfl

theorem parseToken_shorts {c : Char} {raw : Text} (hc : c ≠ '-') :
    parseToken nullLength ('-' :: c :: raw) behind elements =
      parseShortsLoop (c :: raw) behind elements := by
  unfold parseToken
  split
  · rename_i heq
    cases heq
    exact absurd rfl hc
  · rename_i heq
    cases heq
    rfl
  · rename_i hnot
    exact absurd rfl (hnot c raw)

theorem parseToken_word (h : IsWord current) :
    parseToken nullLength current behind elements = parseArgcmd current behind elements := by
  unfold parseToken
  split
  · exact absurd rfl (h _ _)
  · exact absurd rfl (h _ _)
  · rfl

/-- a token is a long option, short ones, or no option -/
theorem token_cases (current : Text) :
    IsLong current ∨ (∃ c raw, current = '-' :: c :: raw ∧ c ≠ '-') ∨ IsWord current := by
  by_cases h : IsWord current
  · exact .inr (.inr h)
  · obtain ⟨c, raw, rfl⟩ : ∃ c raw, current = '-' :: c :: raw := by
      simpa only [IsWord, not_forall, not_not] using h
    by_cases hc : c = '-'
    · subst hc
      exact .inl ⟨raw, rfl⟩
    · exact .inr (.inl ⟨c, raw, rfl, hc⟩)

/-- **What the parser takes is what the grammar reads.** -/
theorem parseToken_iff (hwhole : Whole elements.table nullLength) :
    parseToken nullLength current behind elements = .ok (after, elements') ↔
      ∃ settings, Reads elements.table current behind settings after ∧
        elements' = settings.foldl Setting.apply elements := by
  constructor
  · intro h
    rcases token_cases current with hlong | ⟨c, raw, rfl, hc⟩ | hword
    · rw [parseToken_long hlong] at h
      exact reads_of_parseLong hlong hwhole h
    · rw [parseToken_shorts hc] at h
      obtain ⟨settings, hbundle, rfl⟩ := reads_of_parseShortsLoop h
      exact ⟨settings, .shorts hc hbundle, rfl⟩
    · rw [parseToken_word hword] at h
      unfold parseArgcmd at h
      split at h
      · rename_i i hi
        cases h
        exact ⟨_, .command hword ((List.findIdx?_map ..).trans hi), rfl⟩
      · rename_i hnone
        cases h
        refine ⟨[], .word hword fun hmem => ?_, rfl⟩
        obtain ⟨command, hcommand, rfl⟩ := List.mem_map.mp hmem
        have hnot := List.findIdx?_eq_none_iff.mp hnone command hcommand
        exact absurd rfl (of_decide_eq_false hnot)
  · rintro ⟨settings, h, rfl⟩
    cases h with
    | flag hlong heq hfirst hflag =>
      obtain ⟨option, hoption, rfl⟩ :=
        firstOption_of_first ((first_whole hwhole (current :: behind)).mpr hfirst)
      rw [parseToken_long hlong]
      unfold parseLong
      simp only [strchr_eq_none heq, Option.elim_none, hoption, hflag, Bool.false_eq_true, if_false]
      rfl
    | @separate _ argument _ _ _ hlong heq hfirst hargument =>
      obtain ⟨option, hoption, rfl⟩ :=
        firstOption_of_first ((first_whole hwhole (current :: argument :: after)).mpr hfirst)
      rw [parseToken_long hlong]
      unfold parseLong
      simp only [strchr_eq_none heq, Option.elim_none, hoption, hargument, if_true]
      rfl
    | @joined _ argument _ _ _ hlong heq hfirst hargument =>
      obtain ⟨option, hoption, rfl⟩ :=
        firstOption_of_first ((first_joined argument).mpr hfirst)
      rw [parseToken_long (hlong.trans (List.prefix_append _ _))]
      unfold parseLong
      simp only [strchr_append heq, Option.elim_some, hoption, hargument, if_true]
      rfl
    | shorts hc hbundle =>
      rw [parseToken_shorts hc]
      exact parseShortsLoop_of_bundle hbundle
    | command hword hcommand =>
      rw [parseToken_word hword]
      unfold parseArgcmd
      have hsome : elements.commands.findIdx? (fun command => command.name = current) = some _ :=
        (List.findIdx?_map ..).symm.trans hcommand
      rw [hsome]
      rfl
    | word hword hcommand =>
      rw [parseToken_word hword]
      unfold parseArgcmd
      have hnone : elements.commands.findIdx? (fun command => command.name = current) = none :=
        List.findIdx?_eq_none_iff.mpr fun command hmem => decide_eq_false fun heq =>
          hcommand (List.mem_map.mpr ⟨command, hmem, heq⟩)
      rw [hnone]
      rfl

/-! ## command lines -/

theorem parseArgs_cons (hcurrent : current ≠ ['-', '-']) :
    parseArgs nullLength (current :: behind) elements =
      (parseToken nullLength current behind elements).bind fun r =>
        parseArgs nullLength r.1 r.2 := by
  rw [parseArgs, if_neg hcurrent]
  split
  · rename_i message h
    rw [h]
    rfl
  · rename_i after elements' h
    show parseArgs nullLength after elements' = _
    rw [h]
    rfl

theorem bind_eq_ok {ε α β : Type} {x : Except ε α} {f : α → Except ε β} {b : β} :
    x.bind f = .ok b ↔ ∃ a, x = .ok a ∧ f a = .ok b := by
  cases x with
  | error e =>
    refine iff_of_false (fun h => by cases h) ?_
    rintro ⟨a, ha, -⟩
    cases ha
  | ok a =>
    constructor
    · exact fun h => ⟨a, rfl, h⟩
    · rintro ⟨a', ha, h⟩
      cases ha
      exact h

/-- **The parser accepts the command lines of the grammar, and marks what they set.** -/
theorem parseArgs_iff {ts : Tokens} (hwhole : Whole elements.table nullLength) :
    parseArgs nullLength ts elements = .ok elements' ↔
      ∃ settings, Follows elements.table ts settings ∧
        elements' = settings.foldl Setting.apply elements := by
  generalize hn : ts.length = n
  induction n using Nat.strongRecOn generalizing ts elements with
  | ind n ih =>
    cases ts with
    | nil =>
      rw [parseArgs]
      constructor
      · intro h
        cases h
        exact ⟨[], .nil, rfl⟩
      · rintro ⟨settings, h, rfl⟩
        cases h
        rfl
    | cons current behind =>
      by_cases hcurrent : current = ['-', '-']
      · subst hcurrent
        rw [parseArgs, if_pos rfl]
        constructor
        · intro h
          cases h
          exact ⟨[], .doubledash, rfl⟩
        · rintro ⟨settings, h, rfl⟩
          cases h with
          | doubledash => rfl
          | token hne => exact absurd rfl hne
      · rw [parseArgs_cons hcurrent, bind_eq_ok]
        -- the settings of a token leave the names in place
        have hafter : ∀ first : List Setting,
            Whole (first.foldl Setting.apply elements).table nullLength := by
          intro first
          rwa [table_foldl]
        constructor
        · rintro ⟨⟨after, elements₁⟩, htoken, hrest⟩
          have hlt : after.length < n := by
            rw [← hn]
            exact Nat.lt_succ_of_le (parseToken_length htoken)
          obtain ⟨first, hreads, rfl⟩ := (parseToken_iff hwhole).mp htoken
          obtain ⟨others, hfollows, rfl⟩ := (ih _ hlt (hafter first) rfl).mp hrest
          rw [table_foldl] at hfollows
          exact ⟨first ++ others, .token hcurrent hreads hfollows, (List.foldl_append ..).symm⟩
        · rintro ⟨settings, h, rfl⟩
          cases h with
          | doubledash => exact absurd rfl hcurrent
          | @token _ _ after first others _ hreads hfollows =>
            have htoken := (parseToken_iff hwhole).mpr ⟨first, hreads, rfl⟩
            have hlt : after.length < n := by
              rw [← hn]
              exact Nat.lt_succ_of_le (parseToken_length htoken)
            refine ⟨_, htoken, (ih _ hlt (hafter first) rfl).mpr ⟨others, ?_, ?_⟩⟩
            · rwa [table_foldl]
            · exact List.foldl_append ..

end

end EdgeTranslators.Cli
