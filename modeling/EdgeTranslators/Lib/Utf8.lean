import EdgeTranslators.Lib.Bytes

/-!
# UTF-8 texts as bytes

* `textOf`              the text that some bytes are the UTF-8 encoding of;
* `toList_eq`           the bytes of a byte array, as a list;
* `textOf_toUTF8`       a text is the text of its bytes;
* `length_toUTF8`       a text of ASCII characters has as many bytes as characters;
* `length_decimal_le`   the bytes of a number in decimal.
-/

namespace EdgeTranslators.Lib

/-- the text with these bytes, if they are the encoding of one -/
def textOf (bs : Bytes) : Option String := String.fromUTF8? ⟨bs.toArray⟩

theorem toList_loop_eq (bs : ByteArray) (n i : Nat) (r : List UInt8) (hn : bs.size ≤ i + n) :
    ByteArray.toList.loop bs i r = r.reverse ++ bs.data.toList.drop i := by
  induction n generalizing i r with
  | zero =>
    have hn : bs.size ≤ i := hn
    rw [ByteArray.toList.loop, if_neg (Nat.not_lt.mpr hn)]
    rw [List.drop_eq_nil_of_le hn, List.append_nil]
  | succ n ih =>
    rw [ByteArray.toList.loop]
    by_cases hlt : i < bs.size
    · have hget : bs.get! i = bs.data.toList.get ⟨i, hlt⟩ := by
        show bs.data[i]! = _
        rw [getElem!_pos bs.data i hlt]
        rfl
      rw [if_pos hlt, ih _ _ (by omega), List.reverse_cons, List.append_assoc, hget]
      rw [List.drop_eq_getElem_cons hlt]
      rfl
    · rw [if_neg hlt, List.drop_eq_nil_of_le (Nat.not_lt.mp hlt), List.append_nil]

theorem toList_eq (bs : ByteArray) : bs.toList = bs.data.toList :=
  toList_loop_eq bs bs.size 0 [] (by omega)

theorem textOf_toUTF8 (s : String) : textOf s.toUTF8.toList = some s := by
  have hbytes : (⟨s.toUTF8.toList.toArray⟩ : ByteArray) = s.toByteArray := by
    rw [toList_eq]
    rfl
  unfold textOf String.fromUTF8?
  rw [hbytes, dif_pos s.isValidUTF8]
  rfl

theorem length_toUTF8 {cs : List Char} (h : ∀ c ∈ cs, c.utf8Size = 1) :
    (String.ofList cs).toUTF8.toList.length = cs.length := by
  rw [toList_eq]
  show (String.ofList cs).utf8ByteSize = cs.length
  induction cs with
  | nil => rfl
  | cons c cs ih =>
    have hcons : String.ofList (c :: cs) = String.singleton c ++ String.ofList cs := by
      rw [← String.toList_inj]
      simp
    rw [hcons, String.utf8ByteSize_append, ih fun d hd => h d (List.mem_cons_of_mem _ hd)]
    rw [String.utf8ByteSize_singleton, h c List.mem_cons_self, List.length_cons, Nat.add_comm]

theorem utf8Size_of_isDigit {c : Char} (h : c.isDigit) : c.utf8Size = 1 := by
  rw [Char.utf8Size_eq_one_iff]
  have hle : c.toNat ≤ '9'.toNat := (Char.isDigit_iff_toNat.mp h).2
  exact Nat.le_trans hle (by decide)

/-- the characters of a number in decimal -/
def decimalChars : Int → List Char
  | .ofNat n => Nat.toDigits 10 n
  | .negSucc n => '-' :: Nat.toDigits 10 (n + 1)

theorem toString_int (i : Int) : toString i = String.ofList (decimalChars i) := by
  cases i with
  | ofNat n => rfl
  | negSucc n =>
    rw [← String.toList_inj]
    show ("-" ++ String.ofList (Nat.toDigits 10 (n + 1))).toList = _
    rw [String.toList_append, String.toList_ofList, decimalChars, String.toList_ofList]
    exact String.toList_ofList.symm

theorem length_toDigits_le {k n : Nat} (hk : 0 < k) (h : n < 10 ^ k) :
    (Nat.toDigits 10 n).length ≤ k :=
  (Nat.length_toDigits_le_iff (by decide) hk).mpr h

/-- a number of at most `k` digits takes `k` bytes, and one for the sign -/
theorem length_decimal_le {k : Nat} (hk : 0 < k) {i : Int} (h : i.natAbs < 10 ^ k) :
    (toString i).toUTF8.toList.length ≤ k + 1 := by
  rw [toString_int, length_toUTF8]
  · cases i with
    | ofNat n => exact Nat.le_succ_of_le (length_toDigits_le hk h)
    | negSucc n => exact Nat.succ_le_succ (length_toDigits_le hk h)
  · intro c hc
    have hdigit : ∀ {n : Nat}, c ∈ Nat.toDigits 10 n → c.utf8Size = 1 := fun hmem =>
      utf8Size_of_isDigit (Nat.isDigit_of_mem_toDigits (by decide) (by decide) hmem)
    cases i with
    | ofNat n => exact hdigit hc
    | negSucc n =>
      rcases List.mem_cons.mp hc with rfl | hc
      · decide
      · exact hdigit hc

end EdgeTranslators.Lib
