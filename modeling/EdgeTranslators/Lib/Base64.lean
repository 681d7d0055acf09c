import EdgeTranslators.Lib.Bytes

/-!
# Base64 with padding

The standard alphabet, three bytes in four characters, `=` for what is missing in the last group.

* `base64Encode`, `base64Decode`   the decoder is strict: full groups, padding only at the end, and
                                   no bits set that the padding stands for;
* `base64Decode_encode`            decoding undoes encoding.
-/

namespace EdgeTranslators.Lib

/-! ## the alphabet -/

def sextetChar (n : Nat) : Char :=
  if n < 26 then Char.ofNat (n + 65)
  else if n < 52 then Char.ofNat (n - 26 + 97)
  else if n < 62 then Char.ofNat (n - 52 + 48)
  else if n = 62 then '+'
  else '/'

def charSextet (c : Char) : Option Nat :=
  if 65 ≤ c.toNat ∧ c.toNat ≤ 90 then some (c.toNat - 65)
  else if 97 ≤ c.toNat ∧ c.toNat ≤ 122 then some (c.toNat - 97 + 26)
  else if 48 ≤ c.toNat ∧ c.toNat ≤ 57 then some (c.toNat - 48 + 52)
  else if c = '+' then some 62
  else if c = '/' then some 63
  else none

private theorem sextet_all :
    ∀ n : Fin 64, charSextet (sextetChar n) = some n.val ∧ sextetChar n ≠ '=' := by decide

theorem charSextet_sextetChar {n : Nat} (h : n < 64) : charSextet (sextetChar n) = some n :=
  (sextet_all ⟨n, h⟩).1

theorem sextetChar_ne_pad {n : Nat} (h : n < 64) : sextetChar n ≠ '=' := (sextet_all ⟨n, h⟩).2

/-! ## groups -/

def base64Groups : Bytes → List Char
  | [] => []
  | [a] => [sextetChar (a.toNat / 4), sextetChar (a.toNat % 4 * 16), '=', '=']
  | [a, b] => [sextetChar (a.toNat / 4), sextetChar (a.toNat % 4 * 16 + b.toNat / 16),
      sextetChar (b.toNat % 16 * 4), '=']
  | a :: b :: c :: rest =>
    sextetChar (a.toNat / 4) :: sextetChar (a.toNat % 4 * 16 + b.toNat / 16) ::
      sextetChar (b.toNat % 16 * 4 + c.toNat / 64) :: sextetChar (c.toNat % 64) ::
      base64Groups rest

def ofGroups : List Char → Option Bytes
  | [] => some []
  | w :: x :: y :: z :: rest =>
    (charSextet w).bind fun w => (charSextet x).bind fun x =>
      if rest = [] ∧ y = '=' ∧ z = '=' then
        if x % 16 = 0 then some [UInt8.ofNat (w * 4 + x / 16)] else none
      else
        (charSextet y).bind fun y =>
          if rest = [] ∧ z = '=' then
            if y % 4 = 0 then
              some [UInt8.ofNat (w * 4 + x / 16), UInt8.ofNat (x % 16 * 16 + y / 4)]
            else none
          else
            (charSextet z).bind fun z => (ofGroups rest).map fun bs =>
              UInt8.ofNat (w * 4 + x / 16) :: UInt8.ofNat (x % 16 * 16 + y / 4) ::
                UInt8.ofNat (y % 4 * 64 + z) :: bs
  | _ => none

theorem ofNat_eq {n : Nat} {b : UInt8} (h : n = b.toNat) : UInt8.ofNat n = b := by
  rw [h, UInt8.ofNat_toNat]

/-- the induction follows the groups of three -/
theorem ofGroups_base64Groups (bs : Bytes) : ofGroups (base64Groups bs) = some bs := by
  induction bs using base64Groups.induct with
  | case1 => rfl
  | case2 a =>
    have ha : a.toNat < 256 := a.toNat_lt
    simp only [base64Groups, ofGroups, charSextet_sextetChar (show a.toNat / 4 < 64 by omega),
      charSextet_sextetChar (show a.toNat % 4 * 16 < 64 by omega), Option.bind_some, and_self,
      if_true]
    rw [if_pos (by omega), ofNat_eq (b := a) (by omega)]
  | case3 a b =>
    have ha : a.toNat < 256 := a.toNat_lt
    have hb : b.toNat < 256 := b.toNat_lt
    have hpad := sextetChar_ne_pad (show b.toNat % 16 * 4 < 64 by omega)
    simp only [base64Groups, ofGroups, charSextet_sextetChar (show a.toNat / 4 < 64 by omega),
      charSextet_sextetChar (show a.toNat % 4 * 16 + b.toNat / 16 < 64 by omega),
      charSextet_sextetChar (show b.toNat % 16 * 4 < 64 by omega), Option.bind_some, hpad,
      false_and, and_false, if_false, and_self, if_true]
    rw [if_pos (by omega), ofNat_eq (b := a) (by omega), ofNat_eq (b := b) (by omega)]
  | case4 a b c rest ih =>
    have ha : a.toNat < 256 := a.toNat_lt
    have hb : b.toNat < 256 := b.toNat_lt
    have hc : c.toNat < 256 := c.toNat_lt
    have hpad := sextetChar_ne_pad (show b.toNat % 16 * 4 + c.toNat / 64 < 64 by omega)
    have hpad' := sextetChar_ne_pad (show c.toNat % 64 < 64 by omega)
    simp only [base64Groups, ofGroups, charSextet_sextetChar (show a.toNat / 4 < 64 by omega),
      charSextet_sextetChar (show a.toNat % 4 * 16 + b.toNat / 16 < 64 by omega),
      charSextet_sextetChar (show b.toNat % 16 * 4 + c.toNat / 64 < 64 by omega),
      charSextet_sextetChar (show c.toNat % 64 < 64 by omega), Option.bind_some, hpad, hpad',
      and_false, if_false, ih, Option.map_some]
    rw [ofNat_eq (b := a) (by omega), ofNat_eq (b := b) (by omega), ofNat_eq (b := c) (by omega)]

/-! ## strings -/

def base64Encode (bs : Bytes) : String := String.ofList (base64Groups bs)

def base64Decode (s : String) : Option Bytes := ofGroups s.toList

/-- **Decoding undoes encoding.** -/
theorem base64Decode_encode (bs : Bytes) : base64Decode (base64Encode bs) = some bs := by
  unfold base64Decode base64Encode
  rw [String.toList_ofList]
  exact ofGroups_base64Groups bs

theorem base64Encode_inj {a b : Bytes} (h : base64Encode a = base64Encode b) : a = b := by
  have hback := congrArg base64Decode h
  rw [base64Decode_encode, base64Decode_encode] at hback
  exact Option.some.inj hback

end EdgeTranslators.Lib
