import Mathlib.Tactic.NormNum
import EdgeTranslators.Ble.WriteStatus

/-!
# Decoding with a format descriptor

`ble_services_decode_value_with_format_descriptor` takes the number in a value from its first four
bytes, as an unsigned number, whatever the format says about its width and its sign.  With a
negative exponent it converts the number to a float, scales it and publishes the result as a float,
and otherwise writes one byte of it to a fresh buffer.

* `ValueFormat.width`        the bytes of an integer format, `ValueFormat.signed` its sign;
* `sentNumber`               the number a peripheral sends in such a format;
* `decodesTo_sentNumber_iff` when the published float is that number;
* `writes_iff`               when a published integer is written as a whole.
-/

namespace EdgeTranslators.Ble
open Lib Pt

/-! ## the integer formats -/

/-- the bytes of the integer formats that take whole bytes -/
def ValueFormat.width : ValueFormat → Option Nat
  | .uint8 | .int8 => some 1
  | .uint16 | .int16 => some 2
  | .uint24 | .int24 => some 3
  | .uint32 | .int32 => some 4
  | _ => none

def ValueFormat.signed : ValueFormat → Bool
  | .int8 | .int16 | .int24 | .int32 => true
  | _ => false

/-- the number a peripheral sends in the first `w` bytes of a value, in two's complement when the
format has a sign -/
def sentNumber (format : ValueFormat) (w : Nat) (value : Bytes) : Int :=
  if format.signed then Int.bmod (leNat (value.take w)) (256 ^ w) else leNat (value.take w)

theorem ValueFormat.width_bounds {format : ValueFormat} {w : Nat} (h : format.width = some w) :
    0 < w ∧ w ≤ 4 ∧ format ≠ .reserved1 ∧ format ≠ .float32Ieee754 := by
  cases format <;> cases h <;> decide

/-- the first four bytes of a value, split after the width of its format -/
theorem rawValue_split {w : Nat} (hw : w ≤ 4) {value : Bytes} (hlen : w ≤ value.length) :
    rawValue value = leNat (value.take w) + 256 ^ w * leNat ((value.take 4).drop w) := by
  have hsplit : value.take 4 = value.take w ++ (value.take 4).drop w := by
    have happ := List.take_append_drop w (value.take 4)
    rw [List.take_take, min_eq_left hw] at happ
    exact happ.symm
  have hlength : (value.take w).length = w := by
    rw [List.length_take]
    omega
  unfold rawValue
  rw [hsplit, leNat_append, hlength, List.drop_append_of_le_length (by omega)]
  simp

/-- a two's complement number is its unsigned reading when the top bit is clear, and otherwise
negative -/
theorem bmod_cases {w n : Nat} (hw : 0 < w) (hn : n < 256 ^ w) :
    (2 * n < 256 ^ w ∧ Int.bmod n (256 ^ w) = n) ∨
      (256 ^ w ≤ 2 * n ∧ Int.bmod n (256 ^ w) < 0) := by
  have heven : 256 ^ w = 2 * (128 * 256 ^ (w - 1)) := by
    obtain ⟨v, rfl⟩ : ∃ v, w = v + 1 := ⟨w - 1, by omega⟩
    rw [Nat.add_sub_cancel, pow_succ']
    ring
  rw [heven] at hn ⊢
  generalize 128 * 256 ^ (w - 1) = half at hn ⊢
  rw [Int.bmod_def]
  have hmod : (n : Int) % ((2 * half : Nat) : Int) = n :=
    Int.emod_eq_of_lt (by omega) (by exact_mod_cast hn)
  rw [hmod]
  split <;> omega

/-- the number that is scaled is the first `w` bytes, exactly when the bytes behind them are 0 and a
float has all of its digits -/
theorem floatOfUInt32_rawValue_eq_iff {w : Nat} (hle : w ≤ 4) {value : Bytes}
    (hlen : w ≤ value.length) :
    floatOfUInt32 (rawValue value) = leNat (value.take w) ↔
      (∀ b ∈ (value.take 4).drop w, b = 0) ∧ FitsDigits 24 (leNat (value.take w)) := by
  have hlt : leNat (value.take w) < 2 ^ (8 * w) := by
    have h := leNat_lt (value.take w)
    rw [List.length_take, min_eq_left hlen] at h
    rwa [pow_mul]
  rw [rawValue_split hle hlen, ← leNat_eq_zero]
  generalize leNat ((value.take 4).drop w) = rest
  generalize leNat (value.take w) = n at hlt ⊢
  unfold floatOfUInt32
  constructor
  · intro heq
    have hrest : rest = 0 := by
      by_contra hne
      have hbig : 2 ^ (8 * w) ≤ n + 256 ^ w * rest := by
        rw [pow_mul]
        exact le_add_left (Nat.le_mul_of_pos_right _ (Nat.pos_of_ne_zero hne))
      exact absurd (two_pow_le_roundDigits (by decide) hbig) (heq ▸ Nat.not_le.mpr hlt)
    rw [hrest, Nat.mul_zero, Nat.add_zero] at heq
    exact ⟨hrest, roundDigits_eq_iff.mp heq⟩
  · rintro ⟨rfl, hfits⟩
    rw [Nat.mul_zero, Nat.add_zero]
    exact roundDigits_eq_iff.mpr hfits

/-- it is the number sent, when a sign bit is clear besides -/
theorem floatOfUInt32_eq_sentNumber_iff {format : ValueFormat} {w : Nat}
    (hw : format.width = some w) {value : Bytes} (hlen : w ≤ value.length) :
    (floatOfUInt32 (rawValue value) : Int) = sentNumber format w value ↔
      (∀ b ∈ (value.take 4).drop w, b = 0) ∧
        (format.signed → 2 * leNat (value.take w) < 256 ^ w) ∧
        FitsDigits 24 (leNat (value.take w)) := by
  obtain ⟨hpos, hle, -, -⟩ := ValueFormat.width_bounds hw
  have hlt : leNat (value.take w) < 256 ^ w := by
    have h := leNat_lt (value.take w)
    rwa [List.length_take, min_eq_left hlen] at h
  have hkept := floatOfUInt32_rawValue_eq_iff hle hlen
  unfold sentNumber
  cases format.signed with
  | false =>
    rw [if_neg Bool.false_ne_true, Int.natCast_inj, hkept]
    exact and_congr_right fun _ => (and_iff_right nofun).symm
  | true =>
    rw [if_pos rfl]
    rcases bmod_cases hpos hlt with ⟨hclear, heq⟩ | ⟨hset, hneg⟩
    · rw [heq, Int.natCast_inj, hkept]
      exact and_congr_right fun _ => (and_iff_right fun _ => hclear).symm
    · refine iff_of_false (fun heq => ?_) (fun h => ?_)
      · rw [← heq] at hneg
        omega
      · have := h.2.1 rfl
        omega

/-! ## floats -/

section
variable (h : Host) (c : Client) (device : BleDevice) {descriptor : BleCharacteristic}
  (ctx : TranslationContext) {w : Nat} {value : Bytes}

/-- the decoder scales the number `n`: whatever `pow` gives and however doubles and floats are
rounded, it publishes the float of `n * 10 ^ e` and moves the bounds of the sensor to it -/
def DecodesTo (descriptor : BleCharacteristic) (value : Bytes) (n : Int) : Prop :=
  ∀ (pow10 : Int → ℚ) (double : ℚ → ℚ) (round : ℚ → UInt32),
    bleServicesDecodeValueWithFormatDescriptor
        { h with pow10 := pow10, doubleOfRat := double, floatOfRat := round } c device descriptor
        ctx value
      = (some (convertFloatValueToNetworkByteOrder h.byteOrder
          (round (double (n * pow10 descriptor.exponent)))),
        (ipsoUpdateMinMaxFields h.byteOrder c device.deviceId ctx.objectId ctx.objectInstanceId
          (round (double (n * pow10 descriptor.exponent)))).2)

theorem decode_of_negative (value : Bytes) (he : descriptor.exponent < 0)
    (hformat : descriptor.format ≠ .reserved1) :
    DecodesTo h c device ctx descriptor value (floatOfUInt32 (rawValue value)) := by
  intro pow10 double round
  unfold bleServicesDecodeValueWithFormatDescriptor
  rw [if_neg hformat, if_pos (.inl he)]
  simp only [Host.floatValue, Int.cast_natCast]

/-- where the arithmetic is exact, the published bytes are those of the rational `n * 10 ^ e` -/
theorem DecodesTo.exact {n : Int} (hn : DecodesTo h c device ctx descriptor value n)
    (round : ℚ → UInt32) :
    (bleServicesDecodeValueWithFormatDescriptor
        { h with pow10 := fun e => 10 ^ e, doubleOfRat := id, floatOfRat := round } c device
        descriptor ctx value).1 =
      some (convertFloatValueToNetworkByteOrder h.byteOrder
        (round ((n : ℚ) * (10 : ℚ) ^ descriptor.exponent))) :=
  congrArg Prod.fst (hn (fun e => 10 ^ e) id round)

/-- the published bytes tell the number, since the rounding is arbitrary -/
theorem DecodesTo.unique {m n : Int} (hm : DecodesTo h c device ctx descriptor value m)
    (hn : DecodesTo h c device ctx descriptor value n) : m = n := by
  have hpow : (10 : ℚ) ^ descriptor.exponent ≠ 0 := zpow_ne_zero _ (by norm_num)
  by_contra hne
  have hrat : (n : ℚ) * (10 : ℚ) ^ descriptor.exponent ≠ (m : ℚ) * (10 : ℚ) ^ descriptor.exponent :=
    fun heq => hne (by exact_mod_cast (mul_right_cancel₀ hpow heq).symm)
  have hsame := (hm.exact h c device ctx fun z =>
    if z = (m : ℚ) * (10 : ℚ) ^ descriptor.exponent then 1 else 0).symm.trans (hn.exact _ _ _ _ _)
  have hround := convertFloatValueToNetworkByteOrder_inj (Option.some.inj hsame)
  rw [if_pos rfl, if_neg hrat] at hround
  exact absurd hround (by decide)

/-- a float has all the digits of a number of up to three bytes -/
theorem floatOfUInt32_eq_sentNumber_iff_short {format : ValueFormat} {w : Nat}
    (hw : format.width = some w) (hshort : w ≤ 3) {value : Bytes} (hlen : w ≤ value.length) :
    (floatOfUInt32 (rawValue value) : Int) = sentNumber format w value ↔
      (∀ b ∈ (value.take 4).drop w, b = 0) ∧
        (format.signed → 2 * leNat (value.take w) < 256 ^ w) := by
  have hfits : FitsDigits 24 (leNat (value.take w)) := by
    have hlt := leNat_lt (value.take w)
    rw [List.length_take, min_eq_left hlen] at hlt
    exact fitsDigits_of_lt (hlt.trans_le (Nat.pow_le_pow_right (by decide) hshort))
  rw [floatOfUInt32_eq_sentNumber_iff hw hlen, ← and_assoc, and_iff_left hfits]

/-- **A reading in an integer format with a negative exponent is published as the number sent
exactly when the bytes behind its width are 0, it is not negative in a format with a sign, and its
digits fit in a float.** -/
theorem decodesTo_sentNumber_iff (hw : descriptor.format.width = some w)
    (he : descriptor.exponent < 0) (hlen : w ≤ value.length) :
    DecodesTo h c device ctx descriptor value (sentNumber descriptor.format w value) ↔
      (∀ b ∈ (value.take 4).drop w, b = 0) ∧
        (descriptor.format.signed → 2 * leNat (value.take w) < 256 ^ w) ∧
        FitsDigits 24 (leNat (value.take w)) := by
  have hraw := decode_of_negative h c device ctx value he
    (ValueFormat.width_bounds hw).2.2.1
  rw [← floatOfUInt32_eq_sentNumber_iff hw hlen]
  constructor
  · exact fun hsent => hraw.unique h c device ctx hsent
  · intro heq
    rw [← heq]
    exact hraw

end

/-- a device with a temperature characteristic of the Environment Sensing service -/
def thermometer : BleDevice :=
  deviceAddGattCharacteristic
    { deviceCreate 1 0 "00:11:22:33:44:55" with deviceId := "BLE-00:11:22:33:44:55-0" }
    "0000181A-0000-1000-8000-00805F9B34FB" "/service0001" "00002A6E-0000-1000-8000-00805F9B34FB"
    "/service0001/char0002" bleGattPropPermRead

def temperatureDescriptor : BleCharacteristic :=
  ⟨"00002A6E-0000-1000-8000-00805F9B34FB", .temperature, .withFormatDescriptor, none, .int16, -2⟩

def temperatureContext : TranslationContext :=
  { objectId := temperatureSensor, objectInstanceId := 0, resourceId := sensorValue,
    characteristicExtraFlags := 0, chIdx := 0, svIdx := 0 }

/-- three degrees -/
theorem decodesTo_sentNumber_iff_temperature :
    DecodesTo plainHost emptyClient thermometer temperatureContext temperatureDescriptor [0x2C, 1]
        (sentNumber .int16 2 [0x2C, 1]) ↔
      (∀ b ∈ ([0x2C, 1] : Bytes).drop 2, b = 0) ∧ (true → 2 * leNat [0x2C, 1] < 256 ^ 2) ∧
        FitsDigits 24 (leNat [0x2C, 1]) :=
  decodesTo_sentNumber_iff plainHost emptyClient thermometer temperatureContext
    (show temperatureDescriptor.format.width = some 2 from rfl) (by decide) (by decide)

/-- the temperature -0.01 is not published as such -/
theorem temperature_minus :
    thermometer.descriptor? 0 0 = some temperatureDescriptor ∧
      sentNumber .int16 2 [0xFF, 0xFF] = -1 ∧
      ¬DecodesTo plainHost emptyClient thermometer temperatureContext temperatureDescriptor
        [0xFF, 0xFF] (sentNumber .int16 2 [0xFF, 0xFF]) := by
  have hsent : sentNumber .int16 2 [0xFF, 0xFF] = -1 := by decide
  refine ⟨by decide +kernel, hsent, fun hdec => ?_⟩
  have hraw := decode_of_negative plainHost emptyClient thermometer temperatureContext [0xFF, 0xFF]
    (show temperatureDescriptor.exponent < 0 by decide) (by decide)
  have heq := hraw.unique plainHost emptyClient thermometer temperatureContext hdec
  rw [hsent] at heq
  exact absurd heq (by decide)

/-- a pressure of 2 ^ 24 + 1 is scaled as 2 ^ 24, which is all that a float has of it -/
example : floatOfUInt32 (rawValue [1, 0, 0, 1]) = 2 ^ 24 ∧
    sentNumber .uint32 4 [1, 0, 0, 1] = 2 ^ 24 + 1 := by decide

/-! ## integers -/

section
variable (h : Host) (c : Client) (device : BleDevice) {descriptor : BleCharacteristic}
  (ctx : TranslationContext) {w : Nat} {value : Bytes}

/-- the decoder succeeds with the bytes `bs`, whatever the buffer held before -/
def Writes (descriptor : BleCharacteristic) (value bs : Bytes) : Prop :=
  ∀ unset : Nat → UInt8,
    (bleServicesDecodeValueWithFormatDescriptor { h with unset } c device descriptor ctx value).1
      = some bs

/-- the number the integer branch works on -/
theorem scaled_eq (hle : w ≤ 4) (hlen : value.length = w)
    (hfits : leNat value * 10 ^ descriptor.exponent.toNat < 256 ^ w) :
    rawValue value * 10 ^ descriptor.exponent.toNat % 2 ^ 32
      = leNat value * 10 ^ descriptor.exponent.toNat := by
  have hscale : 256 ^ w ≤ 256 ^ 4 := Nat.pow_le_pow_right (by omega) hle
  have hraw : rawValue value = leNat value := by
    unfold rawValue
    rw [List.take_of_length_le (by omega)]
  rw [hraw]
  exact Nat.mod_eq_of_lt (by omega)

theorem not_float (he : 0 ≤ descriptor.exponent) (hw : descriptor.format.width = some w) :
    ¬(descriptor.exponent < 0 ∨ descriptor.format = .float32Ieee754) := by
  intro h0
  exact h0.elim (fun h1 => by omega) (ValueFormat.width_bounds hw).2.2.2

/-- the formats of one byte are written as a whole -/
theorem decode_byte (he : 0 ≤ descriptor.exponent) (hw : descriptor.format.width = some 1) :
    (bleServicesDecodeValueWithFormatDescriptor h c device descriptor ctx value).1
      = some [UInt8.ofNat (rawValue value * 10 ^ descriptor.exponent.toNat % 2 ^ 32)] := by
  unfold bleServicesDecodeValueWithFormatDescriptor
  rw [if_neg (ValueFormat.width_bounds hw).2.2.1, if_neg (not_float he hw)]
  generalize descriptor.format = format at hw ⊢
  cases format <;> cases hw <;> rfl

/-- in the others the second byte is what the buffer held before -/
theorem decode_word (value : Bytes) (he : 0 ≤ descriptor.exponent) (hw : descriptor.format.width = some w)
    (hword : w ≠ 1) :
    ∃ first rest,
      (bleServicesDecodeValueWithFormatDescriptor h c device descriptor ctx value).1
        = some (first :: h.unset 1 :: rest) := by
  unfold bleServicesDecodeValueWithFormatDescriptor
  rw [if_neg (ValueFormat.width_bounds hw).2.2.1, if_neg (not_float he hw)]
  generalize descriptor.format = format at hw ⊢
  cases format <;> cases hw <;> first
    | exact absurd rfl hword
    | exact ⟨_, _, rfl⟩

/-- **An integer is written in network order exactly when it is a single byte.** -/
theorem writes_iff (hw : descriptor.format.width = some w) (hwhole : w ≠ 3)
    (he : 0 ≤ descriptor.exponent) (hlen : value.length = w)
    (hfits : leNat value * 10 ^ descriptor.exponent.toNat < 256 ^ w) :
    Writes h c device ctx descriptor value
        (leBytes w (leNat value * 10 ^ descriptor.exponent.toNat)).reverse ↔ w = 1 := by
  constructor
  · intro hwrites
    by_contra hword
    -- two contents of the buffer, and one result
    obtain ⟨_, _, hzero⟩ :=
      decode_word { h with unset := fun _ => 0 } c device ctx value he hw hword
    obtain ⟨_, _, hone⟩ :=
      decode_word { h with unset := fun _ => 1 } c device ctx value he hw hword
    rw [hwrites fun _ => 0] at hzero
    rw [hwrites fun _ => 1] at hone
    have hsame := Option.some.inj (hzero.symm.trans hone)
    have hbyte : (0 : UInt8) = 1 := (List.cons.inj (List.cons.inj hsame).2).1
    exact absurd hbyte (by decide)
  · rintro rfl
    intro unset
    rw [decode_byte { h with unset } c device ctx he hw, scaled_eq (by omega) hlen hfits]
    rfl

end

/-- a descriptor of two unsigned bytes without a scale -/
def wordDescriptor : BleCharacteristic :=
  { temperatureDescriptor with format := .uint16, exponent := 0 }

theorem writes_iff_word :
    Writes plainHost emptyClient thermometer temperatureContext wordDescriptor [1, 2]
      (leBytes 2 (leNat [1, 2] * 10 ^ 0)).reverse ↔ 2 = 1 :=
  writes_iff plainHost emptyClient thermometer temperatureContext
    (show wordDescriptor.format.width = some 2 from rfl) (by decide) (by decide) rfl (by decide)

/-- the number 0x0201 on a little-endian host: neither byte is right in a cleared buffer -/
theorem word_not_written :
    leNat [1, 2] = 0x0201 ∧ (leBytes 2 (leNat [1, 2] * 10 ^ 0)).reverse = [2, 1] ∧
      (bleServicesDecodeValueWithFormatDescriptor plainHost emptyClient thermometer wordDescriptor
        temperatureContext [1, 2]).1 = some [0, 0] ∧
      ¬Writes plainHost emptyClient thermometer temperatureContext wordDescriptor [1, 2]
        (leBytes 2 (leNat [1, 2] * 10 ^ 0)).reverse := by
  refine ⟨by decide, by decide, by decide, fun hwrites => ?_⟩
  exact absurd (hwrites fun _ => 0) (by decide)

end EdgeTranslators.Ble
