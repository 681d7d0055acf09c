import Mathlib.Data.List.Basic
import Mathlib.Tactic.Common

/-!
# Blocks of memory and the C strings in them

A block is a list of characters, one a byte; a string in it ends at its first `nul`.  Every access
that leaves the block is `none`.

* `store`, `strlen`                    the accesses;
* `strncpy`, `snprintf`, `strncat`     the functions of `<string.h>` and `<stdio.h>` that are bounded,
                                       `snprintf` for a format that is already expanded;
* `Holds b t`                          the block holds the string `t`;
* `holds_strncpy`, `holds_terminate`   a string that is shorter than its block;
* `holds_snprintf`, `holds_strncat`    an append with the bound that is left of the block stays in
                                       the block and keeps what fits.
-/

namespace EdgeTranslators.Lib.CString

abbrev Block := List Char

/-- the character that ends a string -/
def nul : Char := '\x00'

def strlen (b : Block) : Option Nat := b.findIdx? (· = nul)

/-- the characters are written from the offset `off` on -/
def store (b : Block) (off : Nat) (cs : List Char) : Option Block :=
  if off + cs.length ≤ b.length then some (b.take off ++ cs ++ b.drop (off + cs.length)) else none

/-- `strncpy(b, s, n)`: the string, then zeros up to `n` -/
def strncpy (b : Block) (s : List Char) (n : Nat) : Option Block :=
  store b 0 (s.take n ++ List.replicate (n - s.length) nul)

/-- `snprintf(b + off, n, …)` of the text `s`; the output was cut off when `n` is not more than the
length it returns -/
def snprintf (b : Block) (off n : Nat) (s : List Char) : Option (Block × Nat) :=
  if n = 0 then some (b, s.length)
  else (store b off (s.take (n - 1) ++ [nul])).map fun b => (b, s.length)

/-- `strncat(b, s, n)` -/
def strncat (b : Block) (s : List Char) (n : Nat) : Option Block :=
  (strlen b).bind fun off => store b off (s.take n ++ [nul])

/-- the block starts with the string and the character that ends it -/
def Holds (b : Block) (t : List Char) : Prop :=
  nul ∉ t ∧ ∃ rest, b = t ++ nul :: rest

section
variable {b b' : Block} {s t : List Char} {n : Nat}

theorem Holds.length_lt (h : Holds b t) : t.length < b.length := by
  obtain ⟨-, rest, rfl⟩ := h
  rw [List.length_append, List.length_cons]
  omega

theorem Holds.strlen (h : Holds b t) : strlen b = some t.length := by
  obtain ⟨hnul, rest, rfl⟩ := h
  have ht : t.findIdx? (· = nul) = none := by
    rw [List.findIdx?_eq_none_iff]
    intro c hc
    exact decide_eq_false fun e => hnul (e ▸ hc)
  unfold CString.strlen
  rw [List.findIdx?_append, ht, List.findIdx?_cons]
  simp

/-- what is written at the end of the string of a block follows it -/
theorem Holds.store (h : Holds b t) (hs : nul ∉ s) (hfit : t.length + s.length < b.length) :
    ∃ b', store b t.length (s ++ [nul]) = some b' ∧ b'.length = b.length ∧ Holds b' (t ++ s) := by
  obtain ⟨hnul, rest, rfl⟩ := h
  rw [List.length_append, List.length_cons] at hfit
  have hle : t.length + (s ++ [nul]).length ≤ (t ++ nul :: rest).length := by
    simp only [List.length_append, List.length_cons, List.length_nil]
    omega
  refine ⟨_, if_pos hle, ?_, ?_, (t ++ nul :: rest).drop (t.length + (s ++ [nul]).length), ?_⟩
  · simp only [List.length_append, List.length_take, List.length_drop, List.length_cons,
      List.length_nil]
    omega
  · intro hmem
    rcases List.mem_append.mp hmem with hmem | hmem
    · exact hnul hmem
    · exact hs hmem
  · rw [List.take_left]
    simp

theorem not_mem_take (hs : nul ∉ s) : nul ∉ s.take n := fun h => hs (List.mem_of_mem_take h)

/-- **`snprintf` at the end of a string**, bounded by what is left of the block -/
theorem holds_snprintf (h : Holds b t) (hs : nul ∉ s) :
    ∃ b', snprintf b t.length (b.length - t.length) s = some (b', s.length) ∧
      b'.length = b.length ∧ Holds b' (t ++ s.take (b.length - 1 - t.length)) := by
  have hlt := h.length_lt
  have hroom : t.length + (s.take (b.length - 1 - t.length)).length < b.length := by
    rw [List.length_take]
    omega
  obtain ⟨b', hb', hlen, hholds⟩ := h.store (not_mem_take hs) hroom
  refine ⟨b', ?_, hlen, hholds⟩
  have hn : b.length - t.length ≠ 0 := by omega
  have htake : b.length - t.length - 1 = b.length - 1 - t.length := by omega
  unfold snprintf
  rw [if_neg hn, htake, hb']
  rfl

/-- **`strncat`**, bounded by what is left of the block but one -/
theorem holds_strncat (h : Holds b t) (hs : nul ∉ s) :
    ∃ b', strncat b s (b.length - t.length - 1) = some b' ∧ b'.length = b.length ∧
      Holds b' (t ++ s.take (b.length - 1 - t.length)) := by
  have hlt := h.length_lt
  have hroom : t.length + (s.take (b.length - 1 - t.length)).length < b.length := by
    rw [List.length_take]
    omega
  obtain ⟨b', hb', hlen, hholds⟩ := h.store (not_mem_take hs) hroom
  refine ⟨b', ?_, hlen, hholds⟩
  have htake : b.length - t.length - 1 = b.length - 1 - t.length := by omega
  unfold strncat
  rw [h.strlen, htake]
  exact hb'

/-- **`strncpy` of a string shorter than its block** fills the block -/
theorem holds_strncpy (hs : nul ∉ s) (hfit : s.length < b.length) :
    ∃ b', strncpy b s b.length = some b' ∧ b'.length = b.length ∧ Holds b' s := by
  have hlen : (s.take b.length ++ List.replicate (b.length - s.length) nul).length = b.length := by
    simp only [List.length_append, List.length_take, List.length_replicate]
    omega
  refine ⟨_, if_pos (Nat.le_of_eq ((Nat.zero_add _).trans hlen)), ?_, hs,
    List.replicate (b.length - s.length - 1) nul, ?_⟩
  · rw [Nat.zero_add, hlen]
    simp only [List.take_zero, List.nil_append, List.drop_length, List.append_nil]
    exact hlen
  · rw [Nat.zero_add, hlen, List.take_of_length_le (Nat.le_of_lt hfit)]
    have hrep : b.length - s.length = b.length - s.length - 1 + 1 := by omega
    rw [hrep, List.replicate_succ]
    simp

/-- a zero in the last character of a block ends no string before it -/
theorem holds_terminate (h : Holds b t) (hfit : t.length + 1 < b.length) :
    ∃ b', store b (b.length - 1) [nul] = some b' ∧ b'.length = b.length ∧ Holds b' t := by
  obtain ⟨hnul, rest, rfl⟩ := h
  have hlen : (t ++ nul :: rest).length = t.length + rest.length + 1 := by
    rw [List.length_append, List.length_cons]
    omega
  have hrest : 1 ≤ rest.length := by omega
  refine ⟨_, if_pos ?_, ?_, hnul, rest.take (rest.length - 1) ++ [nul], ?_⟩
  · rw [List.length_singleton]
    omega
  · simp only [List.length_append, List.length_take, List.length_drop, List.length_cons,
      List.length_nil]
    omega
  · have hoff : (t ++ nul :: rest).length - 1 = t.length + (1 + (rest.length - 1)) := by omega
    have hend : (t ++ nul :: rest).length - 1 + [nul].length = (t ++ nul :: rest).length := by
      rw [List.length_singleton]
      omega
    rw [hend, List.drop_length, hoff, List.take_length_add_append, Nat.add_comm 1, List.take_succ_cons]
    simp

end

end EdgeTranslators.Lib.CString
