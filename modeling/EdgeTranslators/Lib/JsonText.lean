import EdgeTranslators.Lib.Json
import Mathlib.Data.List.Basic
import Mathlib.Tactic.Common

/-!
# The text of a JSON value

JSON without numbers, white space and escapes.  Which characters may stand in a string as they are
is the parameter `plain`.

* `Json.text`         the text of a value;
* `Json.parse`        a recursive descent parser, with the length of the text as its fuel;
* `Json.IsPlain`      the strings of a value have plain characters only;
* `Json.parse_text`   the text of such a value is well formed and has the value back.
-/

namespace EdgeTranslators.Lib.Json

/-! ## printing -/

def quoted (s : String) : List Char := '"' :: (s.toList ++ ['"'])

mutual

def text : Json Empty → List Char
  | .null => ['n', 'u', 'l', 'l']
  | .bool true => ['t', 'r', 'u', 'e']
  | .bool false => ['f', 'a', 'l', 's', 'e']
  | .string s => quoted s
  | .array [] => ['[', ']']
  | .array (j :: js) => '[' :: (text j ++ itemsText js)
  | .object [] => ['\x7b', '\x7d']
  | .object ((key, j) :: ms) => '\x7b' :: (quoted key ++ ':' :: (text j ++ membersText ms))

/-- the items after the first one, and the end of the array -/
def itemsText : List (Json Empty) → List Char
  | [] => [']']
  | j :: js => ',' :: (text j ++ itemsText js)

/-- the members after the first one, and the end of the object -/
def membersText : List (String × Json Empty) → List Char
  | [] => ['\x7d']
  | (key, j) :: ms => ',' :: (quoted key ++ ':' :: (text j ++ membersText ms))

end

/-! ## parsing -/

section
variable (plain : Char → Bool)

/-- the rest of a string whose quote was read -/
def parseString : List Char → Option (List Char × List Char)
  | [] => none
  | c :: cs =>
    if c = '"' then some ([], cs)
    else if plain c then (parseString cs).map fun r => (c :: r.1, r.2)
    else none

/-- a key and its colon -/
def parseKey : List Char → Option (String × List Char)
  | '"' :: cs =>
    match parseString plain cs with
    | some (s, ':' :: cs) => some (.ofList s, cs)
    | _ => none
  | _ => none

mutual

def parseValue : Nat → List Char → Option (Json Empty × List Char)
  | 0, _ => none
  | n + 1, cs =>
    match cs with
    | 'n' :: 'u' :: 'l' :: 'l' :: cs => some (.null, cs)
    | 't' :: 'r' :: 'u' :: 'e' :: cs => some (.bool true, cs)
    | 'f' :: 'a' :: 'l' :: 's' :: 'e' :: cs => some (.bool false, cs)
    | '"' :: cs => (parseString plain cs).map fun r => (.string (.ofList r.1), r.2)
    | '[' :: cs =>
      if cs.head? = some ']' then some (.array [], cs.tail)
      else (parseValue n cs).bind fun r => (parseItems n r.2).map fun r' => (.array (r.1 :: r'.1), r'.2)
    | '\x7b' :: cs =>
      if cs.head? = some '\x7d' then some (.object [], cs.tail)
      else (parseKey plain cs).bind fun k => (parseValue n k.2).bind fun r =>
        (parseMembers n r.2).map fun r' => (.object ((k.1, r.1) :: r'.1), r'.2)
    | _ => none

def parseItems : Nat → List Char → Option (List (Json Empty) × List Char)
  | 0, _ => none
  | n + 1, cs =>
    match cs with
    | ']' :: cs => some ([], cs)
    | ',' :: cs => (parseValue n cs).bind fun r => (parseItems n r.2).map fun r' => (r.1 :: r'.1, r'.2)
    | _ => none

def parseMembers : Nat → List Char → Option (List (String × Json Empty) × List Char)
  | 0, _ => none
  | n + 1, cs =>
    match cs with
    | '\x7d' :: cs => some ([], cs)
    | ',' :: cs =>
      (parseKey plain cs).bind fun k => (parseValue n k.2).bind fun r =>
        (parseMembers n r.2).map fun r' => ((k.1, r.1) :: r'.1, r'.2)
    | _ => none

end

/-- the value of a whole text, `none` if it is not well formed -/
def parse (cs : List Char) : Option (Json Empty) :=
  match parseValue plain (cs.length + 1) cs with
  | some (j, []) => some j
  | _ => none

/-! ## what is printed can be parsed -/

def IsPlainString (s : String) : Prop := ∀ c ∈ s.toList, c ≠ '"' ∧ plain c = true

mutual

def IsPlain : Json Empty → Prop
  | .null => True
  | .bool _ => True
  | .string s => IsPlainString plain s
  | .array js => ItemsPlain js
  | .object ms => MembersPlain ms

def ItemsPlain : List (Json Empty) → Prop
  | [] => True
  | j :: js => IsPlain j ∧ ItemsPlain js

def MembersPlain : List (String × Json Empty) → Prop
  | [] => True
  | (key, j) :: ms => IsPlainString plain key ∧ IsPlain j ∧ MembersPlain ms

end

variable {plain}

theorem parseString_append {cs : List Char} (h : ∀ c ∈ cs, c ≠ '"' ∧ plain c = true)
    (rest : List Char) : parseString plain (cs ++ '"' :: rest) = some (cs, rest) := by
  induction cs with
  | nil => rfl
  | cons c cs ih =>
    obtain ⟨hquote, hplain⟩ := h c (List.mem_cons_self ..)
    show parseString plain (c :: (cs ++ '"' :: rest)) = _
    rw [parseString, if_neg hquote, if_pos hplain,
      ih fun c' hc' => h c' (List.mem_cons_of_mem _ hc')]
    rfl

theorem parseKey_quoted {s : String} (h : IsPlainString plain s) (rest : List Char) :
    parseKey plain (quoted s ++ ':' :: rest) = some (s, rest) := by
  have hbody := parseString_append h (':' :: rest)
  show parseKey plain ('"' :: ((s.toList ++ ['"']) ++ ':' :: rest)) = _
  rw [List.append_assoc, List.singleton_append, parseKey, hbody]
  show some (String.ofList s.toList, rest) = _
  rw [String.ofList_toList]

/-- a value does not start with the end of an array -/
theorem text_head (j : Json Empty) (rest : List Char) :
    (text j ++ rest).head? ≠ some ']' := by
  cases j with
  | null => exact (by decide : some 'n' ≠ some ']')
  | bool b =>
    cases b with
    | false => exact (by decide : some 'f' ≠ some ']')
    | true => exact (by decide : some 't' ≠ some ']')
  | number n => exact n.elim
  | string s => exact (by decide : some '"' ≠ some ']')
  | array js => cases js <;> exact (by decide : some '[' ≠ some ']')
  | object ms => cases ms <;> exact (by decide : some '\x7b' ≠ some ']')

theorem length_text_pos (j : Json Empty) : 0 < (text j).length := by
  cases j with
  | null => decide
  | bool b => cases b <;> decide
  | number n => exact n.elim
  | string s => exact Nat.succ_pos _
  | array js => cases js <;> exact Nat.succ_pos _
  | object ms => cases ms <;> exact Nat.succ_pos _

mutual

theorem parseValue_text : ∀ (j : Json Empty) (n : Nat) (rest : List Char), IsPlain plain j →
    (text j).length ≤ n → parseValue plain n (text j ++ rest) = some (j, rest)
  | j, 0, _, _, hn => absurd hn (Nat.not_le_of_lt (length_text_pos j))
  | .null, _ + 1, _, _, _ => rfl
  | .bool true, _ + 1, _, _, _ => rfl
  | .bool false, _ + 1, _, _, _ => rfl
  | .string s, n + 1, rest, hplain, _ => by
    show (parseString plain ((s.toList ++ ['"']) ++ rest)).map _ = _
    rw [List.append_assoc, List.singleton_append, parseString_append hplain, Option.map_some,
      String.ofList_toList]
  | .array [], _ + 1, _, _, _ => rfl
  | .array (j :: js), n + 1, rest, hplain, hn => by
    have hj := parseValue_text j n (itemsText js ++ rest) hplain.1
    have hjs := parseItems_text js n rest hplain.2
    simp only [text, List.length_cons, List.length_append] at hn
    have hpos := length_text_pos j
    show parseValue plain (n + 1) ('[' :: ((text j ++ itemsText js) ++ rest)) = _
    rw [List.append_assoc, parseValue, if_neg (text_head j _), hj (by omega), Option.bind_some,
      hjs (by omega), Option.map_some]
  | .object [], _ + 1, _, _, _ => rfl
  | .object ((key, j) :: ms), n + 1, rest, hplain, hn => by
    have hj := parseValue_text j n (membersText ms ++ rest) hplain.2.1
    have hms := parseMembers_text ms n rest hplain.2.2
    simp only [text, List.length_cons, List.length_append] at hn
    show parseValue plain (n + 1)
      ('\x7b' :: ((quoted key ++ ':' :: (text j ++ membersText ms)) ++ rest)) = _
    rw [List.append_assoc, List.cons_append, List.append_assoc, parseValue,
      if_neg (by exact (by decide : some '"' ≠ some '\x7d')), parseKey_quoted hplain.1,
      Option.bind_some, hj (by omega), Option.bind_some, hms (by omega), Option.map_some]

theorem parseItems_text : ∀ (js : List (Json Empty)) (n : Nat) (rest : List Char),
    ItemsPlain plain js → (itemsText js).length ≤ n →
      parseItems plain n (itemsText js ++ rest) = some (js, rest)
  | [], 0, _, _, hn => absurd hn (by decide)
  | _ :: _, 0, _, _, hn => absurd hn (Nat.not_succ_le_zero _)
  | [], _ + 1, _, _, _ => rfl
  | j :: js, n + 1, rest, hplain, hn => by
    have hj := parseValue_text j n (itemsText js ++ rest) hplain.1
    have hjs := parseItems_text js n rest hplain.2
    simp only [itemsText, List.length_cons, List.length_append] at hn
    show parseItems plain (n + 1) (',' :: ((text j ++ itemsText js) ++ rest)) = _
    rw [List.append_assoc, parseItems, hj (by omega), Option.bind_some, hjs (by omega), Option.map_some]

theorem parseMembers_text : ∀ (ms : List (String × Json Empty)) (n : Nat) (rest : List Char),
    MembersPlain plain ms → (membersText ms).length ≤ n →
      parseMembers plain n (membersText ms ++ rest) = some (ms, rest)
  | [], 0, _, _, hn => absurd hn (by decide)
  | _ :: _, 0, _, _, hn => absurd hn (Nat.not_succ_le_zero _)
  | [], _ + 1, _, _, _ => rfl
  | (key, j) :: ms, n + 1, rest, hplain, hn => by
    have hj := parseValue_text j n (membersText ms ++ rest) hplain.2.1
    have hms := parseMembers_text ms n rest hplain.2.2
    simp only [membersText, List.length_cons, List.length_append] at hn
    show parseMembers plain (n + 1)
      (',' :: ((quoted key ++ ':' :: (text j ++ membersText ms)) ++ rest)) = _
    rw [List.append_assoc, List.cons_append, List.append_assoc, parseMembers, parseKey_quoted hplain.1,
      Option.bind_some, hj (by omega), Option.bind_some, hms (by omega), Option.map_some]

end

/-- **The text of a value has the value back.** -/
theorem parse_text {j : Json Empty} (h : IsPlain plain j) : parse plain (text j) = some j := by
  have hvalue := parseValue_text j ((text j).length + 1) [] h (Nat.le_succ _)
  rw [List.append_nil] at hvalue
  unfold parse
  rw [hvalue]

end

end EdgeTranslators.Lib.Json
