/-!
# Null pointers and unassigned variables

A C function that takes pointers goes wrong when it hands a null pointer to one of the functions `φ`
that do not take one, or releases a variable nothing was assigned to.  A pointer that may be null is
an `Option`.

* `Fault`              what went wrong;
* `pass`, `release`    the two things that can;
* `bind_isOk_iff`      a sequence of calls goes well if every call does.
-/

namespace EdgeTranslators.Lib

inductive Fault (φ : Type) where
  /-- a null pointer is passed to the function -/
  | null (function : φ)
  /-- the variable is released and nothing was assigned to it -/
  | unassigned (name : String)
  deriving DecidableEq, Repr

section
variable {φ α β ε : Type}

/-- a pointer is passed to a function that does not take a null pointer -/
def pass (function : φ) : Option α → Except (Fault φ) α
  | some a => .ok a
  | none => .error (.null function)

/-- `free` of a variable, `none` when nothing was assigned to it -/
def release (name : String) : Option α → Except (Fault φ) Unit
  | some _ => .ok ()
  | none => .error (.unassigned name)

theorem isOk_iff {x : Except ε α} : x.isOk = true ↔ ∃ a, x = .ok a := by
  cases x with
  | error e => exact iff_of_false Bool.false_ne_true nofun
  | ok a => exact iff_of_true rfl ⟨a, rfl⟩

/-- a sequence goes well if its first part does, and what follows does for its result -/
theorem bind_isOk_iff {x : Except ε α} {f : α → Except ε β} :
    (x >>= f).isOk = true ↔ ∃ a, x = .ok a ∧ (f a).isOk = true := by
  cases x with
  | error e => exact iff_of_false Bool.false_ne_true nofun
  | ok a =>
    constructor
    · intro h
      exact ⟨a, rfl, h⟩
    · rintro ⟨b, heq, h⟩
      cases heq
      exact h

/-- a result that does not matter for what follows -/
theorem bind_isOk_of_forall {x : Except ε α} {f : α → Except ε β} {p : Prop}
    (h : ∀ a, x = .ok a → ((f a).isOk = true ↔ p)) :
    (x >>= f).isOk = true ↔ x.isOk = true ∧ p := by
  rw [bind_isOk_iff, isOk_iff]
  constructor
  · rintro ⟨a, ha, hf⟩
    exact ⟨⟨a, ha⟩, (h a ha).mp hf⟩
  · rintro ⟨⟨a, ha⟩, hp⟩
    exact ⟨a, ha, (h a ha).mpr hp⟩

/-- what follows goes well -/
theorem bind_isOk_of_isOk {x : Except ε α} {f : α → Except ε β} (h : ∀ a, (f a).isOk = true) :
    (x >>= f).isOk = true ↔ x.isOk = true := by
  have hbind := bind_isOk_of_forall fun a (_ : x = .ok a) => iff_true_intro (h a)
  rwa [and_true] at hbind

end

end EdgeTranslators.Lib
