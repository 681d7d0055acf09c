import Mathlib.Tactic.TypeStar

/-!
# JSON values

Parsed JSON text, with numbers of a type `ν`.
-/

namespace EdgeTranslators.Lib

inductive Json (ν : Type) where
  | null
  | bool (b : Bool)
  | number (n : ν)
  | string (s : String)
  | array (items : List (Json ν))
  | object (members : List (String × Json ν))

namespace Json
variable {ν : Type}

/-- the member of an object -/
def get (key : String) : Json ν → Option (Json ν)
  | .object members => (members.find? fun m => m.1 = key).map (·.2)
  | _ => none

/-- the items of an array -/
def items : Json ν → List (Json ν)
  | .array items => items
  | _ => []

def string? : Json ν → Option String
  | .string s => some s
  | _ => none

end Json

end EdgeTranslators.Lib
