import EdgeTranslators.Cli.Docopt
import Mathlib.Data.List.Induction

/-!
# The command lines of the programs

Each program has its table of options, a record of their values, and the assignments from the one to
the other.

* `elemsToArgs`, `docopt`     the values of the options that are marked, or an exit;
* `marked`                    the options after some settings: the last argument counts;
* `Program`                   what a program adds: its table, in which no name is the start of another,
                              and the record that settings give;
* `docopt_iff`                what `docopt` returns, for every command line;
* `Item`, `docopt_items`      settings that are written out, in any of the ways there are, are read
                              back.
-/

namespace EdgeTranslators.Cli

/-- the program goes on with its arguments, or exits -/
inductive Outcome (Args : Type) where
  | failure (message : String)
  | help
  | version (text : String)
  | args (args : Args)

section
variable {Args : Type}

/-- one branch of the assignments: the name of an option, and what becomes of the record -/
abbrev Setter (Args : Type) := String × (OptionElement → Args → Args)

/-- the assignment for an option -/
def assign (setters : List (Setter Args)) (option : OptionElement) (args : Args) : Args :=
  match setters.find? fun setter => setter.1 = option.olong with
  | none => args
  | some setter => setter.2 option args

def elemsToArgs (setters : List (Setter Args)) (help : Bool) (version : Option String) :
    List OptionElement → Args → Outcome Args
  | [], args => .args args
  | option :: options, args =>
    if help && option.value && option.olong = "--help" then .help
    else if version.isSome && option.value && option.olong = "--version" then
      .version (version.getD "")
    else elemsToArgs setters help version options (assign setters option args)

/-! ## the options after some settings -/

/-- the argument that an option has been given last -/
def lastArgument (settings : List Setting) (i : Nat) : Option Text :=
  (settings.filterMap fun setting =>
    match setting with
    | .argument j argument => if i = j then some argument else none
    | .flag _ | .command _ => none).getLast?

def isFlagged (settings : List Setting) (i : Nat) : Bool := .flag i ∈ settings

/-- an option that had no value and no argument -/
def marked (settings : List Setting) (i : Nat) (option : OptionElement) : OptionElement :=
  { option with value := isFlagged settings i, argument := lastArgument settings i }

theorem lastArgument_concat (settings : List Setting) (i j : Nat) (argument : Text) :
    lastArgument (settings ++ [.argument j argument]) i =
      if i = j then some argument else lastArgument settings i := by
  unfold lastArgument
  rw [List.filterMap_append]
  by_cases h : i = j
  · rw [if_pos h]
    simp only [List.filterMap_cons, List.filterMap_nil, if_pos h, List.getLast?_concat]
  · rw [if_neg h]
    simp only [List.filterMap_cons, List.filterMap_nil, if_neg h, List.append_nil]

theorem lastArgument_concat_other {setting : Setting} (settings : List Setting) (i : Nat)
    (h : ∀ j argument, setting ≠ .argument j argument) :
    lastArgument (settings ++ [setting]) i = lastArgument settings i := by
  unfold lastArgument
  rw [List.filterMap_append]
  cases setting with
  | argument j argument => exact absurd rfl (h j argument)
  | flag j | command j => rw [List.filterMap_cons, List.filterMap_nil, List.append_nil]

theorem isFlagged_concat (settings : List Setting) (i : Nat) (setting : Setting) :
    isFlagged (settings ++ [setting]) i = (isFlagged settings i || setting = .flag i) := by
  unfold isFlagged
  rw [← Bool.decide_or]
  refine decide_eq_decide.mpr ?_
  rw [List.mem_append, List.mem_singleton]
  exact or_congr_right eq_comm

/-- the option has no value and no argument yet -/
def OptionElement.Fresh (option : OptionElement) : Prop :=
  option.value = false ∧ option.argument = none

theorem options_foldl {elements : Elements} (hfresh : ∀ option ∈ elements.options, option.Fresh)
    (settings : List Setting) :
    (settings.foldl Setting.apply elements).options = elements.options.mapIdx (marked settings) := by
  induction settings using List.reverseRecOn with
  | nil =>
    refine List.ext_getElem? fun i => ?_
    rw [List.getElem?_mapIdx]
    cases h : elements.options[i]? with
    | none => exact h
    | some option =>
      obtain ⟨hvalue, hargument⟩ := hfresh option (List.mem_of_getElem? h)
      refine h.trans (congrArg some ?_)
      show option = { option with value := false, argument := none }
      rw [← hvalue, ← hargument]
  | append_singleton settings setting ih =>
    rw [List.foldl_append]
    show (setting.apply (settings.foldl Setting.apply elements)).options = _
    refine List.ext_getElem? fun i => ?_
    rw [List.getElem?_mapIdx]
    have hbefore := congrArg (·[i]?) ih
    simp only [List.getElem?_mapIdx] at hbefore
    cases setting with
    | command j =>
      show (settings.foldl Setting.apply elements).options[i]? = _
      rw [hbefore]
      refine congrArg (Option.map · _) (funext fun option => ?_)
      unfold marked
      rw [lastArgument_concat_other settings i (by simp), isFlagged_concat]
      simp
    | flag j =>
      show ((settings.foldl Setting.apply elements).options.modify j _)[i]? = _
      rw [List.getElem?_modify, hbefore, Option.map_eq_map, Option.map_map]
      refine congrArg (Option.map · _) (funext fun option => ?_)
      show (if j = i then _ else _) = _
      unfold marked
      rw [lastArgument_concat_other settings i (by simp), isFlagged_concat]
      by_cases h : j = i
      · simp [h]
      · simp [h]
    | argument j argument =>
      show ((settings.foldl Setting.apply elements).options.modify j _)[i]? = _
      rw [List.getElem?_modify, hbefore, Option.map_eq_map, Option.map_map]
      refine congrArg (Option.map · _) (funext fun option => ?_)
      show (if j = i then _ else _) = _
      unfold marked
      rw [lastArgument_concat, isFlagged_concat]
      by_cases h : j = i
      · simp [h]
      · simp [h, Ne.symm h]

end

/-! ## programs -/

instance (option : OptionElement) : Decidable option.Fresh :=
  inferInstanceAs (Decidable (_ ∧ _))

instance (table : Table) (p : OptionNames → Bool) (i : Nat) (o : OptionNames) :
    Decidable (table.First p i o) :=
  inferInstanceAs (Decidable (_ ∧ _))

/-- the option is the first with its short name, a dash and a character -/
def Table.FirstShort (table : Table) (oshort : String) (i : Nat) (o : OptionNames) : Prop :=
  ∃ c ∈ oshort.toList[1]?, oshort.toList = ['-', c] ∧ c ≠ '-' ∧ table.First (·.isShort c) i o

instance (table : Table) (oshort : String) (i : Nat) (o : OptionNames) :
    Decidable (table.FirstShort oshort i o) :=
  Option.decidableExistsMem _

/-- the option is the first whose name starts with its own, and the first with its short name -/
structure UnambiguousAt (table : Table) (o : OptionNames) (i : Nat) : Prop where
  long : IsLong o.olong.toList ∧ o.olong.toList ≠ ['-', '-'] ∧ '=' ∉ o.olong.toList
  first : table.First (fun o' => o.olong.toList <+: o'.olong.toList) i o
  short : ∀ oshort ∈ o.oshort, table.FirstShort oshort i o

instance (token : Text) : Decidable (IsLong token) :=
  inferInstanceAs (Decidable (_ <+: _))

instance (table : Table) (o : OptionNames) (i : Nat) : Decidable (UnambiguousAt table o i) :=
  decidable_of_iff
    ((IsLong o.olong.toList ∧ o.olong.toList ≠ ['-', '-'] ∧ '=' ∉ o.olong.toList) ∧
      table.First (fun o' => o.olong.toList <+: o'.olong.toList) i o ∧
      ∀ oshort ∈ o.oshort, table.FirstShort oshort i o)
    ⟨fun h => ⟨h.1, h.2.1, h.2.2⟩, fun h => ⟨h.long, h.first, h.short⟩⟩

/-- the elements `docopt` starts with; the programs have no commands -/
def elementsOf (options : List OptionElement) : Elements := ⟨[], options⟩

structure Program (Args : Type) where
  options : List OptionElement
  /-- the assignments of `elems_to_args` -/
  setters : List (Setter Args)
  defaults : Args
  /-- where `--help` is in the table -/
  help : Nat
  fresh : ∀ option ∈ options, option.Fresh
  unambiguous : ∀ entry ∈ (elementsOf options).table.options.zipIdx,
    UnambiguousAt (elementsOf options).table entry.1 entry.2
  names : setters.map Prod.fst = options.map (·.olong)
  nodup : (options.map (·.olong)).Nodup
  helps : (options.map (·.olong))[help]? = some "--help"
  noVersion : "--version" ∉ options.map (·.olong)

namespace Program
variable {Args : Type}

def elements (P : Program Args) : Elements := elementsOf P.options

/-- the record that settings give -/
def args (P : Program Args) (settings : List Setting) : Args :=
  (P.setters.zip (P.options.mapIdx (marked settings))).foldl
    (fun args entry => entry.1.2 entry.2 args) P.defaults

def docopt (P : Program Args) (nullLength : NullLength) (argv : Tokens) (help : Bool)
    (version : Option String) : Outcome Args :=
  match parseArgs nullLength argv P.elements with
  | .error message => .failure message
  | .ok elements => elemsToArgs P.setters help version elements.options P.defaults

end Program

/-! ## what `docopt` returns -/

section
variable {Args : Type} {setters : List (Setter Args)} {options : List OptionElement}

theorem elemsToArgs_eq (hversion : "--version" ∉ options.map (·.olong)) (help : Bool)
    (version : Option String) (args : Args) :
    elemsToArgs setters help version options args =
      if help && options.any (fun option => option.value && option.olong = "--help") then .help
      else .args (options.foldl (fun args option => assign setters option args) args) := by
  induction options generalizing args with
  | nil =>
    rw [List.any_nil, Bool.and_false]
    rfl
  | cons option options ih =>
    obtain ⟨hne, hrest⟩ := not_or.mp (mt List.mem_cons.mpr hversion)
    unfold elemsToArgs
    rw [decide_eq_false (Ne.symm hne), Bool.and_false, if_neg Bool.false_ne_true, ih hrest,
      List.any_cons, List.foldl_cons]
    cases help with
    | false => rfl
    | true =>
      simp only [Bool.true_and]
      cases option.value && decide (option.olong = "--help") with
      | true => rfl
      | false => rfl

theorem assign_of_mem (hnodup : (setters.map Prod.fst).Nodup) {setter : Setter Args}
    (hmem : setter ∈ setters) {option : OptionElement} (hname : setter.1 = option.olong)
    (args : Args) : assign setters option args = setter.2 option args := by
  have hfind : setters.find? (fun setter => setter.1 = option.olong) = some setter := by
    induction setters with
    | nil => cases hmem
    | cons s setters ih =>
      rw [List.map_cons, List.nodup_cons] at hnodup
      rw [List.find?_cons]
      rcases List.mem_cons.mp hmem with rfl | hmem
      · rw [decide_eq_true hname]
      · have hne : s.1 ≠ option.olong := by
          intro heq
          exact hnodup.1 (List.mem_map.mpr ⟨setter, hmem, hname.trans heq.symm⟩)
        rw [decide_eq_false hne]
        exact ih hnodup.2 hmem
  unfold assign
  rw [hfind]

/-- the branches are in the order of the table -/
theorem foldl_assign {all : List (Setter Args)} (hnodup : (all.map Prod.fst).Nodup)
    (hmem : ∀ setter ∈ setters, setter ∈ all)
    (hnames : setters.map Prod.fst = options.map (·.olong)) (args : Args) :
    options.foldl (fun args option => assign all option args) args =
      (setters.zip options).foldl (fun args entry => entry.1.2 entry.2 args) args := by
  induction setters generalizing options args with
  | nil =>
    cases options with
    | nil => rfl
    | cons option options => cases hnames
  | cons setter setters ih =>
    cases options with
    | nil => cases hnames
    | cons option options =>
      obtain ⟨hname, hrest⟩ := List.cons.inj hnames
      rw [List.foldl_cons, List.zip_cons_cons, List.foldl_cons,
        assign_of_mem hnodup (hmem setter List.mem_cons_self) hname]
      exact ih (fun s hs => hmem s (List.mem_cons_of_mem setter hs)) hrest _

theorem map_olong_mapIdx (settings : List Setting) :
    (options.mapIdx (marked settings)).map (·.olong) = options.map (·.olong) := by
  refine List.ext_getElem? fun i => ?_
  rw [List.getElem?_map, List.getElem?_mapIdx, List.getElem?_map, Option.map_map]
  rfl

end

namespace Program
variable {Args : Type} (P : Program Args) {nullLength : NullLength} {argv : Tokens}
  {version : Option String}

theorem any_help (settings : List Setting) : (P.options.mapIdx (marked settings)).any
    (fun option => option.value && option.olong = "--help") = isFlagged settings P.help := by
  obtain ⟨option, hoption, hhelp⟩ := Option.map_eq_some_iff.mp
    ((List.getElem?_map ..).symm.trans P.helps)
  have hlt := (List.getElem?_eq_some_iff.mp hoption).1
  refine Bool.eq_iff_iff.mpr ?_
  rw [List.any_eq_true]
  constructor
  · rintro ⟨option', hmem, hboth⟩
    obtain ⟨i, hi⟩ := List.getElem?_of_mem hmem
    rw [List.getElem?_mapIdx] at hi
    obtain ⟨old, hold, rfl⟩ := Option.map_eq_some_iff.mp hi
    obtain ⟨hvalue, hname⟩ := (Bool.and_eq_true _ _).mp hboth
    -- only one option has the name
    have hi' : (P.options.map (·.olong))[i]? = some "--help" := by
      rw [List.getElem?_map, hold]
      exact congrArg some (of_decide_eq_true hname)
    have hlt' : i < (P.options.map (·.olong)).length := (List.getElem?_eq_some_iff.mp hi').1
    obtain rfl : i = P.help :=
      (List.getElem?_inj hlt' P.nodup).mp (hi'.trans P.helps.symm)
    exact hvalue
  · intro hflag
    refine ⟨marked settings P.help option, List.mem_of_getElem? (i := P.help) ?_, ?_⟩
    · rw [List.getElem?_mapIdx, hoption]
      rfl
    · exact (Bool.and_eq_true _ _).mpr ⟨hflag, decide_eq_true hhelp⟩

/-- the record, or an exit, after some settings -/
def outcome (settings : List Setting) (help : Bool) : Outcome Args :=
  if help && isFlagged settings P.help then .help else .args (P.args settings)

theorem elemsToArgs_marked (settings : List Setting) (help : Bool) :
    elemsToArgs P.setters help version (P.options.mapIdx (marked settings)) P.defaults =
      P.outcome settings help := by
  have hnames : (P.options.mapIdx (marked settings)).map (·.olong) = P.options.map (·.olong) :=
    map_olong_mapIdx settings
  rw [elemsToArgs_eq (by rw [hnames]; exact P.noVersion), P.any_help,
    foldl_assign (by rw [P.names]; exact P.nodup) (fun _ h => h) (by rw [hnames]; exact P.names)]
  rfl

/-- **What `docopt` does** with a command line: it goes on, or prints the help, exactly as the
settings say which the grammar finds in it, and fails when there are none. -/
theorem docopt_iff (hwhole : Whole P.elements.table nullLength) (help : Bool) :
    (∀ settings, Follows P.elements.table argv settings →
        P.docopt nullLength argv help version = P.outcome settings help) ∧
      ((∃ message, P.docopt nullLength argv help version = .failure message) ↔
        ∀ settings, ¬Follows P.elements.table argv settings) := by
  have hoptions : ∀ settings : List Setting,
      (settings.foldl Setting.apply P.elements).options = P.options.mapIdx (marked settings) :=
    options_foldl P.fresh
  have hfollows : ∀ settings, Follows P.elements.table argv settings →
      P.docopt nullLength argv help version = P.outcome settings help := by
    intro settings h
    unfold docopt
    rw [(parseArgs_iff hwhole).mpr ⟨settings, h, rfl⟩]
    show elemsToArgs _ _ _ (settings.foldl Setting.apply P.elements).options _ = _
    rw [hoptions, elemsToArgs_marked]
  refine ⟨hfollows, ?_⟩
  constructor
  · rintro ⟨message, hfailure⟩ settings h
    rw [hfollows settings h] at hfailure
    unfold outcome at hfailure
    split at hfailure <;> cases hfailure
  · intro hnone
    unfold docopt
    cases hparse : parseArgs nullLength argv P.elements with
    | error message => exact ⟨message, rfl⟩
    | ok elements =>
      obtain ⟨settings, h, -⟩ := (parseArgs_iff hwhole).mp hparse
      exact absurd h (hnone settings)

end Program

/-! ## settings that are written out -/

/-- a setting in one of the ways to write it: `--name`, `-n`, `--name argument`, `--name=argument`,
`-n argument`, `-nargument` -/
inductive Item where
  | flag (i : Nat)
  | shortFlag (i : Nat)
  | separate (i : Nat) (argument : Text)
  | joined (i : Nat) (argument : Text)
  | shortSeparate (i : Nat) (argument : Text)
  | attached (i : Nat) (argument : Text)
  deriving DecidableEq, Repr

def Item.setting : Item → Setting
  | flag i | shortFlag i => .flag i
  | separate i argument | joined i argument | shortSeparate i argument | attached i argument =>
    .argument i argument

def Table.long (table : Table) (i : Nat) : Text :=
  table.options[i]?.elim [] fun o => o.olong.toList

def Table.short (table : Table) (i : Nat) : Text :=
  table.options[i]?.elim [] fun o => (o.oshort.getD "").toList

def Item.tokens (table : Table) : Item → Tokens
  | flag i => [table.long i]
  | shortFlag i => [table.short i]
  | separate i argument => [table.long i, argument]
  | joined i argument => [table.long i ++ '=' :: argument]
  | shortSeparate i argument => [table.short i, argument]
  | attached i argument => [table.short i ++ argument]

/-- the option takes an argument or not, and has a short name if that is used -/
def Item.Fits (table : Table) : Item → Prop
  | flag i => ∃ o ∈ table.options[i]?, o.argcount = false
  | shortFlag i => ∃ o ∈ table.options[i]?, o.argcount = false ∧ o.oshort.isSome
  | separate i _ | joined i _ => ∃ o ∈ table.options[i]?, o.argcount = true
  | shortSeparate i _ => ∃ o ∈ table.options[i]?, o.argcount = true ∧ o.oshort.isSome
  | attached i argument =>
    argument ≠ [] ∧ ∃ o ∈ table.options[i]?, o.argcount = true ∧ o.oshort.isSome

instance decidableFits (table : Table) : (item : Item) → Decidable (item.Fits table)
  | .flag _ | .shortFlag _ | .separate _ _ | .joined _ _ | .shortSeparate _ _ =>
    inferInstanceAs (Decidable (∃ _ ∈ _, _))
  | .attached _ _ => inferInstanceAs (Decidable (_ ∧ ∃ _ ∈ _, _))

section
variable {table : Table} {i : Nat} {o : OptionNames}

theorem unambiguousAt
    (h : ∀ entry ∈ table.options.zipIdx, UnambiguousAt table entry.1 entry.2)
    (ho : table.options[i]? = some o) : UnambiguousAt table o i :=
  h (o, i) (List.mem_zipIdx_iff_getElem?.mpr ho)

theorem long_eq (ho : table.options[i]? = some o) : table.long i = o.olong.toList := by
  unfold Table.long
  rw [ho]
  rfl

/-- the option is the first with its whole name, too -/
theorem UnambiguousAt.named (h : UnambiguousAt table o i) :
    table.First (·.olong.toList = o.olong.toList) i o := by
  obtain ⟨hfirst, ho⟩ := h.first
  refine ⟨?_, ho⟩
  obtain ⟨hlt, -, hbefore⟩ := List.findIdx?_eq_some_iff_getElem.mp hfirst
  refine List.findIdx?_eq_some_iff_getElem.mpr ⟨hlt, ?_, fun j hj => ?_⟩
  · rw [(List.getElem?_eq_some_iff.mp ho).2]
    exact decide_eq_true rfl
  · intro hsame
    have heq := of_decide_eq_true hsame
    exact hbefore j hj (decide_eq_true (heq ▸ List.prefix_refl _))

theorem UnambiguousAt.short_eq (h : UnambiguousAt table o i) (hshort : o.oshort.isSome) :
    ∃ c, table.short i = ['-', c] ∧ c ≠ '-' ∧ table.First (·.isShort c) i o := by
  obtain ⟨oshort, hoshort⟩ := Option.isSome_iff_exists.mp hshort
  obtain ⟨c, -, htext, hc, hfirst⟩ := h.short oshort hoshort
  refine ⟨c, ?_, hc, hfirst⟩
  unfold Table.short
  rw [h.first.2]
  show (o.oshort.getD "").toList = _
  rw [hoshort]
  exact htext

theorem shorts_ne {c : Char} {raw : Text} (hc : c ≠ '-') : '-' :: c :: raw ≠ ['-', '-'] := by
  intro h
  exact hc (List.cons.inj (List.cons.inj h).2).1

theorem joined_ne {start argument : Text} (h : IsLong start) :
    start ++ '=' :: argument ≠ ['-', '-'] := by
  obtain ⟨rest, rfl⟩ := h
  intro heq
  have hlength := congrArg List.length heq
  simp at hlength

/-- a setting that is written out, with more tokens behind it -/
theorem follows_item
    (hunambiguous : ∀ entry ∈ table.options.zipIdx, UnambiguousAt table entry.1 entry.2)
    {item : Item} (hfits : item.Fits table) {rest : Tokens} {settings : List Setting}
    (h : Follows table rest settings) :
    Follows table (item.tokens table ++ rest) (item.setting :: settings) := by
  cases item with
  | flag i =>
    obtain ⟨o, ho, hflag⟩ := hfits
    have hat := unambiguousAt hunambiguous ho
    show Follows table (table.long i :: rest) ([_] ++ settings)
    rw [long_eq ho]
    exact .token hat.long.2.1 (.flag hat.long.1 hat.long.2.2 hat.named hflag) h
  | shortFlag i =>
    obtain ⟨o, ho, hflag, hshort⟩ := hfits
    obtain ⟨c, htext, hc, hfirst⟩ := (unambiguousAt hunambiguous ho).short_eq hshort
    show Follows table (table.short i :: rest) ([_] ++ settings)
    rw [htext]
    exact .token (shorts_ne hc) (.shorts hc (.flag hfirst hflag .nil)) h
  | separate i argument =>
    obtain ⟨o, ho, hargument⟩ := hfits
    have hat := unambiguousAt hunambiguous ho
    show Follows table (table.long i :: argument :: rest) ([_] ++ settings)
    rw [long_eq ho]
    exact .token hat.long.2.1 (.separate hat.long.1 hat.long.2.2 hat.named hargument) h
  | joined i argument =>
    obtain ⟨o, ho, hargument⟩ := hfits
    have hat := unambiguousAt hunambiguous ho
    show Follows table ((table.long i ++ '=' :: argument) :: rest) ([_] ++ settings)
    rw [long_eq ho]
    exact .token (joined_ne hat.long.1) (.joined hat.long.1 hat.long.2.2 hat.first hargument) h
  | shortSeparate i argument =>
    obtain ⟨o, ho, hargument, hshort⟩ := hfits
    obtain ⟨c, htext, hc, hfirst⟩ := (unambiguousAt hunambiguous ho).short_eq hshort
    show Follows table (table.short i :: argument :: rest) ([_] ++ settings)
    rw [htext]
    exact .token (shorts_ne hc) (.shorts hc (.separate hfirst hargument)) h
  | attached i argument =>
    obtain ⟨hne, o, ho, hargument, hshort⟩ := hfits
    obtain ⟨c, htext, hc, hfirst⟩ := (unambiguousAt hunambiguous ho).short_eq hshort
    obtain ⟨d, raw, rfl⟩ := List.exists_cons_of_ne_nil hne
    show Follows table ((table.short i ++ d :: raw) :: rest) ([_] ++ settings)
    rw [htext]
    exact .token (shorts_ne hc) (.shorts hc (.attached hfirst hargument)) h

end

namespace Program
variable {Args : Type} (P : Program Args) {nullLength : NullLength} {version : Option String}

/-- **What is written out is read back**: behind the name of the program, any settings in any of the
ways to write them. -/
theorem docopt_items (hwhole : Whole P.elements.table nullLength) {name : Text} (hname : IsWord name)
    {items : List Item} (hfits : ∀ item ∈ items, item.Fits P.elements.table) (help : Bool) :
    P.docopt nullLength (name :: items.flatMap (Item.tokens P.elements.table)) help version =
      P.outcome (items.map Item.setting) help := by
  refine (P.docopt_iff hwhole help).1 _ ?_
  have hitems : Follows P.elements.table (items.flatMap (Item.tokens P.elements.table))
      (items.map Item.setting) := by
    induction items with
    | nil => exact .nil
    | cons item items ih =>
      rw [List.flatMap_cons, List.map_cons]
      exact follows_item P.unambiguous (hfits item List.mem_cons_self)
        (ih fun other hother => hfits other (List.mem_cons_of_mem item hother))
  show Follows _ _ ([] ++ items.map Item.setting)
  exact .token (hname '-' []) (.word hname List.not_mem_nil) hitems

end Program

/-! ## the four programs -/

/-- an entry of a table -/
def option (oshort : Option String) (olong : String) (argcount : Bool) : OptionElement :=
  ⟨⟨oshort, olong, argcount⟩, false, none⟩

/-- `DocoptArgs` of `blept_example_clip.h` -/
structure BleptArgs where
  clearCache : Bool
  colorLog : Bool
  help : Bool
  address : Text
  bluetoothInterface : Text
  edgeDomainSocket : Text
  endpointPostfix : Text
  extendedDiscoveryFile : Option Text
  protocolTranslatorName : Option Text
  deriving DecidableEq, Repr

def bleptExample : Program BleptArgs where
  options := [ option (some "-c") "--clear-cache" false, option none "--color-log" false,
    option (some "-h") "--help" false, option (some "-a") "--address" true,
    option (some "-b") "--bluetooth-interface" true, option none "--edge-domain-socket" true,
    option (some "-e") "--endpoint-postfix" true,
    option (some "-d") "--extended-discovery-file" true,
    option (some "-n") "--protocol-translator-name" true ]
  setters := [ ("--clear-cache", fun option args => { args with clearCache := option.value }),
    ("--color-log", fun option args => { args with colorLog := option.value }),
    ("--help", fun option args => { args with help := option.value }),
    ("--address", fun option args =>
      { args with address := option.argument.getD args.address }),
    ("--bluetooth-interface", fun option args =>
      { args with bluetoothInterface := option.argument.getD args.bluetoothInterface }),
    ("--edge-domain-socket", fun option args =>
      { args with edgeDomainSocket := option.argument.getD args.edgeDomainSocket }),
    ("--endpoint-postfix", fun option args =>
      { args with endpointPostfix := option.argument.getD args.endpointPostfix }),
    ("--extended-discovery-file", fun option args =>
      { args with extendedDiscoveryFile := option.argument.or args.extendedDiscoveryFile }),
    ("--protocol-translator-name", fun option args =>
      { args with protocolTranslatorName := option.argument.or args.protocolTranslatorName }) ]
  defaults :=
    { clearCache := false, colorLog := false, help := false
      address := "unix:path=/var/run/dbus/system_bus_socket".toList
      bluetoothInterface := "hci0".toList, edgeDomainSocket := "/tmp/edge.sock".toList
      endpointPostfix := "-0".toList, extendedDiscoveryFile := none, protocolTranslatorName := none }
  help := 2
  fresh := by decide
  unambiguous := by decide +kernel
  names := rfl
  nodup := by decide
  helps := rfl
  noVersion := by decide

theorem bleptExample_args (settings : List Setting) : bleptExample.args settings =
    { clearCache := isFlagged settings 0, colorLog := isFlagged settings 1
      help := isFlagged settings 2
      address := (lastArgument settings 3).getD "unix:path=/var/run/dbus/system_bus_socket".toList
      bluetoothInterface := (lastArgument settings 4).getD "hci0".toList
      edgeDomainSocket := (lastArgument settings 5).getD "/tmp/edge.sock".toList
      endpointPostfix := (lastArgument settings 6).getD "-0".toList
      extendedDiscoveryFile := lastArgument settings 7
      protocolTranslatorName := lastArgument settings 8 } := by
  show BleptArgs.mk _ _ _ _ _ _ _ ((lastArgument settings 7).or none)
    ((lastArgument settings 8).or none) = _
  rw [Option.or_none, Option.or_none]
  rfl

/-- `DocoptArgs` of `mqttpt_example_clip.h` -/
structure MqttptArgs where
  colorLog : Bool
  help : Bool
  edgeDomainSocket : Text
  keepAlive : Text
  mosquittoHost : Text
  mosquittoPort : Text
  deriving DecidableEq, Repr

def mqttptExample : Program MqttptArgs where
  options := [ option none "--color-log" false, option (some "-h") "--help" false,
    option none "--edge-domain-socket" true, option none "--keep-alive" true,
    option none "--mosquitto-host" true, option none "--mosquitto-port" true ]
  setters := [ ("--color-log", fun option args => { args with colorLog := option.value }),
    ("--help", fun option args => { args with help := option.value }),
    ("--edge-domain-socket", fun option args =>
      { args with edgeDomainSocket := option.argument.getD args.edgeDomainSocket }),
    ("--keep-alive", fun option args =>
      { args with keepAlive := option.argument.getD args.keepAlive }),
    ("--mosquitto-host", fun option args =>
      { args with mosquittoHost := option.argument.getD args.mosquittoHost }),
    ("--mosquitto-port", fun option args =>
      { args with mosquittoPort := option.argument.getD args.mosquittoPort }) ]
  defaults :=
    { colorLog := false, help := false, edgeDomainSocket := "/tmp/edge.sock".toList
      keepAlive := "60".toList, mosquittoHost := "127.0.0.1".toList
      mosquittoPort := "1883".toList }
  help := 1
  fresh := by decide
  unambiguous := by decide +kernel
  names := rfl
  nodup := by decide
  helps := rfl
  noVersion := by decide

example (settings : List Setting) : mqttptExample.args settings =
    { colorLog := isFlagged settings 0, help := isFlagged settings 1
      edgeDomainSocket := (lastArgument settings 2).getD "/tmp/edge.sock".toList
      keepAlive := (lastArgument settings 3).getD "60".toList
      mosquittoHost := (lastArgument settings 4).getD "127.0.0.1".toList
      mosquittoPort := (lastArgument settings 5).getD "1883".toList } := rfl

/-- `DocoptArgs` of `client_example_clip.h` -/
structure ClientExampleArgs where
  colorLog : Bool
  help : Bool
  edgeDomainSocket : Text
  endpointPostfix : Text
  protocolTranslatorName : Option Text
  deriving DecidableEq, Repr

def clientExample : Program ClientExampleArgs where
  options := [ option none "--color-log" false, option (some "-h") "--help" false,
    option none "--edge-domain-socket" true, option (some "-e") "--endpoint-postfix" true,
    option (some "-n") "--protocol-translator-name" true ]
  setters := [ ("--color-log", fun option args => { args with colorLog := option.value }),
    ("--help", fun option args => { args with help := option.value }),
    ("--edge-domain-socket", fun option args =>
      { args with edgeDomainSocket := option.argument.getD args.edgeDomainSocket }),
    ("--endpoint-postfix", fun option args =>
      { args with endpointPostfix := option.argument.getD args.endpointPostfix }),
    ("--protocol-translator-name", fun option args =>
      { args with protocolTranslatorName := option.argument.or args.protocolTranslatorName }) ]
  defaults :=
    { colorLog := false, help := false, edgeDomainSocket := "/tmp/edge.sock".toList
      endpointPostfix := "-0".toList, protocolTranslatorName := none }
  help := 1
  fresh := by decide
  unambiguous := by decide +kernel
  names := rfl
  nodup := by decide
  helps := rfl
  noVersion := by decide

/-- `DocoptArgs` of `stress_tester_clip.h` -/
structure StressTesterArgs where
  colorLog : Bool
  help : Bool
  edgeDomainSocket : Text
  maxDevices : Text
  minDevices : Text
  numberOfProtocolTranslators : Text
  numberOfThreads : Text
  parallelConnectionLock : Text
  protocolTranslatorName : Option Text
  sleepTimeMs : Text
  testDurationSeconds : Text
  deriving DecidableEq, Repr

def stressTester : Program StressTesterArgs where
  options := [ option none "--color-log" false, option (some "-h") "--help" false,
    option none "--edge-domain-socket" true, option (some "-a") "--max-devices" true,
    option (some "-i") "--min-devices" true,
    option (some "-u") "--number-of-protocol-translators" true,
    option (some "-t") "--number-of-threads" true,
    option (some "-l") "--parallel-connection-lock" true,
    option (some "-n") "--protocol-translator-name" true,
    option (some "-s") "--sleep-time-ms" true,
    option (some "-r") "--test-duration-seconds" true ]
  setters := [ ("--color-log", fun option args => { args with colorLog := option.value }),
    ("--help", fun option args => { args with help := option.value }),
    ("--edge-domain-socket", fun option args =>
      { args with edgeDomainSocket := option.argument.getD args.edgeDomainSocket }),
    ("--max-devices", fun option args =>
      { args with maxDevices := option.argument.getD args.maxDevices }),
    ("--min-devices", fun option args =>
      { args with minDevices := option.argument.getD args.minDevices }),
    ("--number-of-protocol-translators", fun option args =>
      { args with
        numberOfProtocolTranslators := option.argument.getD args.numberOfProtocolTranslators }),
    ("--number-of-threads", fun option args =>
      { args with numberOfThreads := option.argument.getD args.numberOfThreads }),
    ("--parallel-connection-lock", fun option args =>
      { args with parallelConnectionLock := option.argument.getD args.parallelConnectionLock }),
    ("--protocol-translator-name", fun option args =>
      { args with protocolTranslatorName := option.argument.or args.protocolTranslatorName }),
    ("--sleep-time-ms", fun option args =>
      { args with sleepTimeMs := option.argument.getD args.sleepTimeMs }),
    ("--test-duration-seconds", fun option args =>
      { args with testDurationSeconds := option.argument.getD args.testDurationSeconds }) ]
  defaults :=
    { colorLog := false, help := false, edgeDomainSocket := "/tmp/edge.sock".toList
      maxDevices := "100".toList, minDevices := "10".toList
      numberOfProtocolTranslators := "1".toList, numberOfThreads := "1".toList
      parallelConnectionLock := "1".toList, protocolTranslatorName := none
      sleepTimeMs := "1000".toList, testDurationSeconds := "0".toList }
  help := 1
  fresh := by decide
  unambiguous := by decide +kernel
  names := rfl
  nodup := by decide
  helps := rfl
  noVersion := by decide

theorem stressTester_args (settings : List Setting) : stressTester.args settings =
    { colorLog := isFlagged settings 0, help := isFlagged settings 1
      edgeDomainSocket := (lastArgument settings 2).getD "/tmp/edge.sock".toList
      maxDevices := (lastArgument settings 3).getD "100".toList
      minDevices := (lastArgument settings 4).getD "10".toList
      numberOfProtocolTranslators := (lastArgument settings 5).getD "1".toList
      numberOfThreads := (lastArgument settings 6).getD "1".toList
      parallelConnectionLock := (lastArgument settings 7).getD "1".toList
      protocolTranslatorName := lastArgument settings 8
      sleepTimeMs := (lastArgument settings 9).getD "1000".toList
      testDurationSeconds := (lastArgument settings 10).getD "0".toList } := by
  show StressTesterArgs.mk _ _ _ _ _ _ _ _ ((lastArgument settings 8).or none) _ _ = _
  rw [Option.or_none]
  rfl

/-! ## two command lines -/

/-- the length that a null pointer gives, on a machine where it is large -/
def farNull : NullLength := fun _ => 4096

/-- two short options in one token, and the start of a name -/
theorem docopt_iff_shortened :
    bleptExample.docopt farNull
        ["blept-example".toList, "-cnlamps".toList, "--blue=hci1".toList] true (some "0.1") =
      .args { clearCache := true, colorLog := false, help := false
              address := "unix:path=/var/run/dbus/system_bus_socket".toList
              bluetoothInterface := "hci1".toList, edgeDomainSocket := "/tmp/edge.sock".toList
              endpointPostfix := "-0".toList, extendedDiscoveryFile := none
              protocolTranslatorName := some "lamps".toList } := by
  have hwhole : Whole bleptExample.elements.table farNull := by
    intro ts o ho
    have hall : ∀ o ∈ bleptExample.elements.table.options, o.olong.toList.length < 4096 := by
      decide +kernel
    exact hall o ho
  have hclear : bleptExample.elements.table.First (·.isShort 'c') 0
      (option (some "-c") "--clear-cache" false).toOptionNames := by decide +kernel
  have hname : bleptExample.elements.table.First (·.isShort 'n') 8
      (option (some "-n") "--protocol-translator-name" true).toOptionNames := by decide +kernel
  have hblue : bleptExample.elements.table.First (fun o => "--blue".toList <+: o.olong.toList) 4
      (option (some "-b") "--bluetooth-interface" true).toOptionNames := by decide +kernel
  have hjoined : "--blue=hci1".toList = "--blue".toList ++ '=' :: "hci1".toList := by decide
  have hfollows : Follows bleptExample.elements.table
      ["blept-example".toList, "-cnlamps".toList, "--blue=hci1".toList]
      ([] ++ ([.flag 0, .argument 8 "lamps".toList] ++ ([.argument 4 "hci1".toList] ++ []))) := by
    rw [hjoined]
    refine .token (by decide) (.word (by rintro c cs ⟨⟩) (by decide)) ?_
    refine .token (by decide) (.shorts (by decide) (.flag hclear rfl (.attached hname rfl))) ?_
    exact .token (by decide) (.joined (by decide) (by decide) hblue rfl) .nil
  rw [(bleptExample.docopt_iff hwhole true).1 _ hfollows]
  unfold Program.outcome
  rw [bleptExample_args]
  rfl

theorem docopt_items_stress :
    stressTester.docopt farNull
        (["stress-tester", "-t4", "--max-devices=", "-a", "20", "--color-log"].map String.toList)
        true (some "0.1") =
      .args { stressTester.defaults with
        colorLog := true, numberOfThreads := "4".toList, maxDevices := "20".toList } := by
  have hwhole : Whole stressTester.elements.table farNull := by
    intro ts o ho
    have hall : ∀ o ∈ stressTester.elements.table.options, o.olong.toList.length < 4096 := by
      decide +kernel
    exact hall o ho
  have hname : IsWord "stress-tester".toList := by rintro c cs ⟨⟩
  have hfits : ∀ item ∈ [Item.attached 6 "4".toList, .joined 3 [], .shortSeparate 3 "20".toList,
      .flag 0], item.Fits stressTester.elements.table := by decide +kernel
  refine (stressTester.docopt_items hwhole hname hfits true).trans ?_
  unfold Program.outcome
  rw [stressTester_args]
  rfl

end EdgeTranslators.Cli
