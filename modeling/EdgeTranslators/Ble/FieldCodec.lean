import EdgeTranslators.Ble.Bitfield
import EdgeTranslators.Ble.Formats

/-!
# The codec of the 2-bit fields

`ble_services_encode_2bit_bitfield_value` puts a field into the byte it belongs to and cuts the
value behind that byte; `ble_services_decode_2bit_bitfield_value` shifts byte 0 alone.  Both double
the field number in 32 bits, so the number that counts is `fieldNumber`, the field number without
its top bit.

* `encode2bit_none`, `encode2bit_some`   when the encoder fails, and what it makes otherwise;
* `decodedField_eq`                      what the decoder reads;
* `FieldLens`                            the laws of a codec: the encoder fails beyond the value
                                         only, the decoder reads what was put, and the other
                                         fields are as before;
* `fieldLens_iff`                        for which values and fields these laws hold.
-/

namespace EdgeTranslators.Ble
open Lib Pt

/-- the field number as it counts once it has been doubled in 32 bits -/
def fieldNumber (k : UInt32) : Nat := k.toNat % 2 ^ 31

theorem double_toNat (k : UInt32) : (k * 2).toNat = 2 * fieldNumber k := by
  unfold fieldNumber
  rw [UInt32.toNat_mul]
  show k.toNat * 2 % 2 ^ 32 = 2 * (k.toNat % 2 ^ 31)
  omega

/-! ## the encoder -/

section
variable (h : Host) (c : Client) (ctx : TranslationContext) (current new : Bytes)

theorem encode2bit_none :
    (bleServicesEncode2bitBitfieldValue h c ctx current new).1 = none ↔
      4 * current.length ≤ fieldNumber ctx.characteristicExtraFlags ∨ c.takeFault.1 = true := by
  simp only [bleServicesEncode2bitBitfieldValue, double_toNat]
  by_cases hbeyond : 4 * current.length ≤ fieldNumber ctx.characteristicExtraFlags
  · rw [if_pos (by omega)]
    exact iff_of_true rfl (.inl hbeyond)
  · rw [if_neg (by omega), or_iff_right hbeyond]
    rcases c.takeFault with ⟨_ | _, c₁⟩
    · exact iff_of_false (Option.some_ne_none _) Bool.false_ne_true
    · exact iff_of_true rfl rfl

/-- the bytes up to the one of the field, with the field put in -/
theorem encode2bit_some {out : Bytes}
    (hout : (bleServicesEncode2bitBitfieldValue h c ctx current new).1 = some out) :
    ∃ b, current[fieldNumber ctx.characteristicExtraFlags / 4]? = some b ∧
      out = current.take (fieldNumber ctx.characteristicExtraFlags / 4) ++
        [putField b (fieldNumber ctx.characteristicExtraFlags % 4) (isOn h new)] := by
  have hnone := encode2bit_none h c ctx current new
  rw [hout] at hnone
  simp only [reduceCtorEq, false_iff, not_or, not_le, Bool.not_eq_true] at hnone
  obtain ⟨hinside, hmemory⟩ := hnone
  simp only [bleServicesEncode2bitBitfieldValue, double_toNat] at hout
  generalize fieldNumber ctx.characteristicExtraFlags = m at hinside hout ⊢
  have hbyte : 2 * m / 8 = m / 4 := by omega
  have hbit : 2 * m % 8 = 2 * (m % 4) := by omega
  have hlt : m / 4 < current.length := by omega
  have htake : (current.take (m / 4)).length = m / 4 := by
    rw [List.length_take]
    omega
  have hmodify : ∀ (b : UInt8) (f : UInt8 → UInt8),
      (current.take (m / 4) ++ [b]).modify (m / 4) f = current.take (m / 4) ++ [f b] := by
    intro b f
    rw [List.modify_eq_take_cons_drop (by rw [List.length_append, htake]; exact Nat.lt_succ_self _),
      List.take_left' htake, List.getElem_append_right htake.le]
    simp [htake]
  rw [hbyte, hbit, if_neg (by omega)] at hout
  refine ⟨current[m / 4], List.getElem?_eq_getElem hlt, ?_⟩
  rcases hf : c.takeFault with ⟨_ | _, c₁⟩ <;> rw [hf] at hout hmemory
  · simp only [List.take_succ_eq_append_getElem hlt, hmodify] at hout
    unfold putField isOn
    obtain rfl := Option.some.inj hout
    generalize new.headD h.stray = v
    by_cases hon : v = 0
    · simp [hon]
    · simp [hon]
  · cases hmemory

end

/-! ## the decoder -/

/-- field `k` of a value, as the decoder has it when there is memory -/
def decodedField (h : Host) (ctx : TranslationContext) (k : UInt32) (value : Bytes) :
    Option Bytes :=
  (bleServicesDecode2bitBitfieldValue h ⟨none, ∅, [], []⟩
    { ctx with characteristicExtraFlags := k } value).1

section
variable (h : Host) (ctx : TranslationContext) (k : UInt32) (b : UInt8) (value : Bytes)

theorem decodedField_eq :
    decodedField h ctx k (b :: value)
      = some [UInt8.ofNat (h.shiftRight b.toNat (2 * fieldNumber k) % 4)] := by
  unfold decodedField bleServicesDecode2bitBitfieldValue
  rw [takeFault_of_nil rfl]
  simp only [double_toNat]
  rfl

/-- a field of byte 0 -/
theorem decodedField_of_lt_four (hk : fieldNumber k < 4) :
    decodedField h ctx k (b :: value) = some [UInt8.ofNat (bitField b (fieldNumber k))] := by
  have hpow : 2 ^ (2 * fieldNumber k) = 4 ^ fieldNumber k := Nat.pow_mul 2 2 _
  rw [decodedField_eq]
  unfold Host.shiftRight bitField
  rw [if_pos (by omega), Nat.shiftRight_eq_div_pow, hpow]

/-- nothing is left of byte 0 when it is shifted by its width -/
theorem decodedField_of_lt_sixteen (h4 : 4 ≤ fieldNumber k) (h16 : fieldNumber k < 16) :
    decodedField h ctx k (b :: value) = some [0] := by
  have hb : b.toNat < 2 ^ 8 := b.toNat_lt
  have hpow : 2 ^ 8 ≤ 2 ^ (2 * fieldNumber k) := Nat.pow_le_pow_right (by omega) (by omega)
  rw [decodedField_eq]
  unfold Host.shiftRight
  rw [if_pos (by omega), Nat.shiftRight_eq_div_pow, Nat.div_eq_of_lt (by omega)]
  rfl

/-- and beyond the width of an `int` anything may be -/
theorem decodedField_overshift (hk : 16 ≤ fieldNumber k) (n : Nat) :
    decodedField { h with overshift := fun _ _ => n } ctx k (b :: value)
      = some [UInt8.ofNat (n % 4)] := by
  rw [decodedField_eq]
  unfold Host.shiftRight
  rw [if_neg (by omega)]

end

/-! ## the laws -/

/-- what the low bit of a field says -/
def onBit (on : Bool) : Nat := if on then 1 else 0

theorem onBit_lt (on : Bool) : onBit on < 2 := by
  cases on <;> decide

theorem ofNat_inj {m n : Nat} (hm : m < 256) (hn : n < 256)
    (heq : (some [UInt8.ofNat m] : Option Bytes) = some [UInt8.ofNat n]) : m = n := by
  have hbyte : UInt8.ofNat m = UInt8.ofNat n := (List.cons.inj (Option.some.inj heq)).1
  have hnat := congrArg UInt8.toNat hbyte
  rw [UInt8.toNat_ofNat', UInt8.toNat_ofNat'] at hnat
  omega

structure FieldLens (h : Host) (c : Client) (ctx : TranslationContext) (current new : Bytes) :
    Prop where
  fails : (bleServicesEncode2bitBitfieldValue h c ctx current new).1 = none ↔
    4 * current.length ≤ ctx.characteristicExtraFlags.toNat
  put : ∀ out, (bleServicesEncode2bitBitfieldValue h c ctx current new).1 = some out →
    decodedField h ctx ctx.characteristicExtraFlags out
      = some [UInt8.ofNat (onBit (isOn h new))]
  others : ∀ out, (bleServicesEncode2bitBitfieldValue h c ctx current new).1 = some out →
    ∀ j : UInt32, j ≠ ctx.characteristicExtraFlags → j.toNat < 4 * out.length →
      decodedField h ctx j out = decodedField h ctx j current

/-- the decoder reads the field that was put, and every other field as it was -/
def ReadsBack (h : Host) (k : UInt32) (current new : Bytes) : Prop :=
  (fieldNumber k < 4 ∧ (k.toNat < 2 ^ 31 ∨
      bitField (current.headD 0) (fieldNumber k) = onBit (isOn h new))) ∨
    (4 ≤ fieldNumber k ∧ fieldNumber k < 16 ∧ isOn h new = false)

section
variable {h : Host} {c : Client} {ctx : TranslationContext} {current new : Bytes}

/-- byte 0 after the encoder: changed only if the field is in it -/
theorem encode2bit_head {out : Bytes} {b : UInt8} (hcur : current.headD 0 = b)
    (hne : current ≠ [])
    (hout : (bleServicesEncode2bitBitfieldValue h c ctx current new).1 = some out) :
    (fieldNumber ctx.characteristicExtraFlags < 4 ∧
        out = [putField b (fieldNumber ctx.characteristicExtraFlags) (isOn h new)]) ∨
      (4 ≤ fieldNumber ctx.characteristicExtraFlags ∧ ∃ rest, out = b :: rest) := by
  obtain ⟨b', hb', rfl⟩ := encode2bit_some h c ctx current new hout
  generalize fieldNumber ctx.characteristicExtraFlags = m at hb' ⊢
  cases current with
  | nil => exact absurd rfl hne
  | cons x rest =>
    have hx : x = b := hcur
    subst hx
    by_cases hm : m < 4
    · have hbyte : m / 4 = 0 := by omega
      have hbit : m % 4 = m := by omega
      rw [hbyte] at hb'
      obtain rfl := Option.some.inj hb'
      rw [hbyte, hbit]
      exact .inl ⟨hm, rfl⟩
    · obtain ⟨i, hi⟩ : ∃ i, m / 4 = i + 1 := ⟨m / 4 - 1, by omega⟩
      rw [hi]
      exact .inr ⟨by omega, _, rfl⟩

theorem fieldLens_of_readsBack (hinside : ctx.characteristicExtraFlags.toNat < 4 * current.length)
    (hmemory : c.takeFault.1 = false)
    (hreads : ReadsBack h ctx.characteristicExtraFlags current new) :
    FieldLens h c ctx current new := by
  have hne : current ≠ [] := by
    intro h0
    rw [h0] at hinside
    exact absurd hinside (Nat.not_lt_zero _)
  have hle : fieldNumber ctx.characteristicExtraFlags ≤ ctx.characteristicExtraFlags.toNat :=
    Nat.mod_le _ _
  refine ⟨?_, fun out hout => ?_, fun out hout j hj hjin => ?_⟩
  · rw [encode2bit_none, hmemory]
    exact iff_of_false (fun h0 => h0.elim (fun h1 => by omega) nofun) (by omega)
  · rcases encode2bit_head rfl hne hout with ⟨hm, rfl⟩ | ⟨hm, rest, rfl⟩
    · rw [decodedField_of_lt_four h ctx _ _ _ hm, bitField_putField _ hm hm, if_pos rfl]
      rfl
    · rcases hreads with ⟨h4, -⟩ | ⟨h4, h16, hoff⟩
      · omega
      · rw [decodedField_of_lt_sixteen h ctx _ _ _ h4 h16, hoff]
        rfl
  · obtain ⟨b, rest, rfl⟩ := List.exists_cons_of_ne_nil hne
    rcases encode2bit_head rfl hne hout with ⟨hm, rfl⟩ | ⟨hm, rest', rfl⟩
    · -- the other field is in byte 0 as well
      have hjlt : j.toNat < 4 := hjin
      have hjm : fieldNumber j = j.toNat := Nat.mod_eq_of_lt (by omega)
      rw [decodedField_of_lt_four h ctx j _ _ (by omega),
        decodedField_of_lt_four h ctx j _ _ (by omega), bitField_putField _ hm (by omega)]
      split
      · rename_i heq
        rcases hreads with ⟨-, hlow | hbit⟩ | ⟨h4, -⟩
        · have hk : fieldNumber ctx.characteristicExtraFlags
              = ctx.characteristicExtraFlags.toNat := Nat.mod_eq_of_lt hlow
          exact absurd (UInt32.toNat_inj.mp (by omega)) hj
        · rw [heq]
          exact congrArg (fun n => some [UInt8.ofNat n]) hbit.symm
        · omega
      · rfl
    · rw [decodedField_eq, decodedField_eq]
      rfl

theorem readsBack_of_fieldLens (hinside : fieldNumber ctx.characteristicExtraFlags
      < 4 * current.length) (hmemory : c.takeFault.1 = false)
    (hlens : ∀ overshift, FieldLens { h with overshift } c ctx current new) :
    ctx.characteristicExtraFlags.toNat < 4 * current.length ∧
      ReadsBack h ctx.characteristicExtraFlags current new := by
  have hne : current ≠ [] := by
    intro h0
    rw [h0] at hinside
    exact absurd hinside (Nat.not_lt_zero _)
  have hsome : (bleServicesEncode2bitBitfieldValue h c ctx current new).1 ≠ none := by
    intro h0
    rw [encode2bit_none, hmemory] at h0
    exact h0.elim (fun h1 => by omega) nofun
  obtain ⟨out, hout⟩ := Option.ne_none_iff_exists'.mp hsome
  refine ⟨?_, ?_⟩
  · by_contra hbeyond
    exact hsome ((hlens h.overshift).fails.mpr (by omega))
  · obtain ⟨b, rest, rfl⟩ := List.exists_cons_of_ne_nil hne
    rcases encode2bit_head rfl hne hout with ⟨hm, rfl⟩ | ⟨hm, rest', rfl⟩
    · refine .inl ⟨hm, ?_⟩
      by_cases hlow : ctx.characteristicExtraFlags.toNat < 2 ^ 31
      · exact .inl hlow
      -- the field of byte 0 that the number stands for is another one, and it is written
      generalize hk : fieldNumber ctx.characteristicExtraFlags = m at hm hout ⊢
      have hmnat : (UInt32.ofNat m).toNat = m := by
        rw [UInt32.toNat_ofNat']
        exact Nat.mod_eq_of_lt (by omega)
      have hother : UInt32.ofNat m ≠ ctx.characteristicExtraFlags := by
        intro h0
        rw [← h0, hmnat] at hlow
        omega
      have hfield : fieldNumber (UInt32.ofNat m) = m := by
        unfold fieldNumber
        rw [hmnat]
        exact Nat.mod_eq_of_lt (by omega)
      have hkept := (hlens h.overshift).others _ hout _ hother (by rw [hmnat]; exact hm)
      rw [decodedField_of_lt_four _ ctx _ _ _ (by omega),
        decodedField_of_lt_four _ ctx _ _ _ (by omega), hfield, bitField_putField _ hm hm,
        if_pos rfl] at hkept
      have hlt : bitField b m < 4 := Nat.mod_lt _ (by omega)
      have hon := onBit_lt (isOn h new)
      have hbit : bitField b m = onBit (isOn h new) :=
        ofNat_inj (by omega) (by omega) hkept.symm
      exact .inr hbit
    · have h16 : fieldNumber ctx.characteristicExtraFlags < 16 := by
        by_contra h16
        -- two hosts that shift differently
        have hzero := (hlens fun _ _ => 0).put _ hout
        have hone := (hlens fun _ _ => 1).put _ hout
        rw [decodedField_overshift h ctx _ _ _ (by omega)] at hzero hone
        exact absurd (hzero.trans hone.symm) (by decide)
      have hput := (hlens h.overshift).put _ hout
      rw [decodedField_of_lt_sixteen _ ctx _ _ _ hm h16] at hput
      have hon := onBit_lt (isOn h new)
      have hoff : 0 = onBit (isOn h new) := ofNat_inj (by omega) (by omega) hput
      refine .inr ⟨hm, h16, ?_⟩
      cases hcase : isOn h new with
      | false => rfl
      | true =>
        rw [hcase] at hoff
        exact absurd hoff (by decide)

/-- **The codec is a lens at field `k` of a value exactly when the encoder fails and should, or the
field is one the decoder reads back.** -/
theorem fieldLens_iff (h : Host) (c : Client) (ctx : TranslationContext) (current new : Bytes) :
    (∀ overshift, FieldLens { h with overshift } c ctx current new) ↔
      (4 * current.length ≤ ctx.characteristicExtraFlags.toNat ∧
          (4 * current.length ≤ fieldNumber ctx.characteristicExtraFlags ∨
            c.takeFault.1 = true)) ∨
        (ctx.characteristicExtraFlags.toNat < 4 * current.length ∧ c.takeFault.1 = false ∧
          ReadsBack h ctx.characteristicExtraFlags current new) := by
  constructor
  · intro hlens
    by_cases hfail : 4 * current.length ≤ fieldNumber ctx.characteristicExtraFlags ∨
        c.takeFault.1 = true
    · have hnone := (encode2bit_none { h with overshift := h.overshift } c ctx current new).mpr hfail
      exact .inl ⟨(hlens h.overshift).fails.mp hnone, hfail⟩
    · rw [not_or, not_le, Bool.not_eq_true] at hfail
      obtain ⟨hinside, hreads⟩ := readsBack_of_fieldLens hfail.1 hfail.2 hlens
      exact .inr ⟨hinside, hfail.2, hreads⟩
  · intro hcases overshift
    rcases hcases with ⟨hbeyond, hfail⟩ | ⟨hinside, hmemory, hreads⟩
    · have hnone := (encode2bit_none { h with overshift } c ctx current new).mpr hfail
      refine ⟨iff_of_true hnone hbeyond, ?_, ?_⟩
      · intro out hout
        rw [hnone] at hout
        cases hout
      · intro out hout
        rw [hnone] at hout
        cases hout
    · exact fieldLens_of_readsBack hinside hmemory hreads

end

/-- field 4, the first of byte 1, is not read back as set: what the decoder sees of two zero bytes
after it has been set is 0 -/
theorem field_four_not_lens :
    let ctx : TranslationContext := { temperatureContext with characteristicExtraFlags := 4 }
    (bleServicesEncode2bitBitfieldValue plainHost emptyClient ctx [0, 0] [1]).1 = some [0, 1] ∧
      decodedField plainHost ctx 4 [0, 1] = some [0] ∧
      ¬FieldLens plainHost emptyClient ctx [0, 0] [1] := by
  refine ⟨by decide, by decide, fun hlens => ?_⟩
  exact absurd (hlens.put [0, 1] (by decide)) (by decide)

end EdgeTranslators.Ble
