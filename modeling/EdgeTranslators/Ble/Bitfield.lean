import EdgeTranslators.Lib.Run
import EdgeTranslators.Ble.RoundTrip

/-!
# Translated writes to the fields of one byte

A characteristic whose translation contexts are the 2-bit fields of byte 0 is written one field at a
time: `device_write_characteristic` puts the field into the cached byte, sends the result to the
peripheral, and then caches and publishes the value it was called with instead of what it sent.

* `writeField`            one accepted call, on the device, the client and the peripheral;
* `LosesNoUpdate`         the peripheral has the last value of every field, the cache agrees with
                          it, and so does the resource of the service object;
* `losesNoUpdate_iff`     this holds after every call exactly when every call writes the whole new
                          byte as its value.
-/

namespace EdgeTranslators.Ble
open Lib Pt

/-- a device with its client, and the bytes the peripheral holds in the characteristic -/
structure Bitfield where
  device : BleDevice
  client : Client
  peripheral : Bytes

/-- `new_value[0]` is other than 0 -/
def isOn (h : Host) (value : Bytes) : Bool := value.headD h.stray ≠ 0

/-- the field of byte 0 that a translated resource stands for -/
def fieldOf (device : BleDevice) (p : Path) : Nat :=
  ((bleServicesFindTranslationContext device p).map (·.characteristicExtraFlags.toNat)).getD 0

/-- a call of `device_write_characteristic` on a field of the characteristic that the peripheral
accepts; it then holds the bytes it was sent -/
def writeField (h : Host) (svc ch : Nat) (s : Bitfield) (call : Path × Bytes) : Option Bitfield :=
  match bleServicesFindTranslationContext s.device call.1 with
  | none => none
  | some ctx =>
    if call.1.objectId ≠ ipsoOidBleService ∧ ctx.svIdx = svc ∧ ctx.chIdx = ch ∧
        ctx.characteristicExtraFlags.toNat < 4 then
      let r := deviceWriteCharacteristic h s.client s.device call.1 call.2 .reply
      r.write.map fun w => ⟨r.device, r.client, w.2⟩
    else none

/-- whether the last of the calls for field `k` was on, if there was one -/
def lastWritten (h : Host) (device : BleDevice) (calls : List (Path × Bytes)) (k : Nat) :
    Option Bool :=
  ((calls.filter fun call => fieldOf device call.1 = k).getLast?).map fun call => isOn h call.2

structure LosesNoUpdate (h : Host) (svc ch : Nat) (s₀ : Bitfield) (calls : List (Path × Bytes))
    (s : Bitfield) : Prop where
  field : ∀ k < 4, bitField (s.peripheral.headD 0) k =
    match lastWritten h s₀.device calls k with
    | some on => if on then 1 else 0
    | none => bitField (s₀.peripheral.headD 0) k
  cached : ∃ charact, s.device.char? svc ch = some charact ∧ s.peripheral <+: charact.value
  published : ∃ charact, s.device.char? svc ch = some charact ∧
    s.client.lastSet s.device.deviceId (servicePath svc charact.resourceId) = some s.peripheral

/-- the cached value of the characteristic agrees with the peripheral's -/
structure InSync (svc ch : Nat) (s : Bitfield) : Prop where
  nonempty : s.peripheral ≠ []
  cached : ∃ charact, s.device.char? svc ch = some charact ∧ s.peripheral <+: charact.value

/-- every call has one byte as its value: the byte that results from putting its own field into
the byte `b` of the call before -/
def WritesWholeBytes (device : BleDevice) : UInt8 → List (Path × Bytes) → Prop
  | _, [] => True
  | b, call :: calls =>
    ∃ v, call.2 = [v] ∧ v = putField b (fieldOf device call.1) (v ≠ 0) ∧
      WritesWholeBytes device v calls

/-! ## one call -/

/-- the encoder puts a field of byte 0 into the byte -/
theorem encode2bit_eq (h : Host) {c : Client} (hf : c.faults = []) {ctx : TranslationContext}
    (hk : ctx.characteristicExtraFlags.toNat < 4) (b : UInt8) (current new : Bytes) :
    bleServicesEncode2bitBitfieldValue h c ctx (b :: current) new
      = (some [putField b ctx.characteristicExtraFlags.toNat (isOn h new)], c) := by
  have hoff : (ctx.characteristicExtraFlags * 2).toNat
      = 2 * ctx.characteristicExtraFlags.toNat := by
    rw [UInt32.toNat_mul]
    simp
    omega
  have hbyte : 2 * ctx.characteristicExtraFlags.toNat / 8 = 0 := by omega
  have hbit : 2 * ctx.characteristicExtraFlags.toNat % 8
      = 2 * ctx.characteristicExtraFlags.toNat := by omega
  simp only [bleServicesEncode2bitBitfieldValue, hoff, hbyte, hbit, takeFault_of_nil hf]
  rw [if_neg (by simp)]
  unfold isOn putField
  generalize new.headD h.stray = v
  by_cases hon : v = 0
  · simp [hon]
  · simp [hon]

/-- what an accepted call has done: the new byte is at the peripheral, and the value of the call is
in the cache and in the resource of the service object -/
theorem writeField_cases {h : Host} {svc ch : Nat} {s s' : Bitfield} {call : Path × Bytes}
    (hf : s.client.faults = []) (hstep : writeField h svc ch s call = some s') :
    ∃ charact, s.device.char? svc ch = some charact ∧ charact.value ≠ [] ∧
      s'.peripheral = [putField (charact.value.headD 0) (fieldOf s.device call.1)
        (isOn h call.2)] ∧
      s'.device = s.device.setChar svc ch (charact.store call.2) ∧
      s'.client.lastSet s.device.deviceId (servicePath svc charact.resourceId) = some call.2 ∧
      s'.client.faults = [] ∧ fieldOf s.device call.1 < 4 := by
  unfold writeField at hstep
  cases hctx : bleServicesFindTranslationContext s.device call.1 with
  | none => rw [hctx] at hstep; cases hstep
  | some ctx =>
    rw [hctx] at hstep
    simp only at hstep
    split at hstep
    · rename_i hat
      obtain ⟨hobj, rfl, rfl, hk⟩ := hat
      obtain ⟨w, hw, rfl⟩ := Option.map_eq_some_iff.mp hstep
      have hfield : fieldOf s.device call.1 = ctx.characteristicExtraFlags.toNat := by
        unfold fieldOf
        rw [hctx]
        rfl
      unfold deviceWriteCharacteristic at hw ⊢
      simp only [if_pos hobj, hctx] at hw ⊢
      cases hchar : s.device.char? ctx.svIdx ctx.chIdx with
      | none => rw [hchar] at hw; cases hw
      | some charact =>
        simp only [hchar, setLocalCharacteristicValue_eq hchar] at hw ⊢
        -- the encoder has gone through, so there is one, and a byte for it to work on
        unfold bleServicesEncodeCharacteristicValue at hw ⊢
        cases henc : (s.device.descriptor? ctx.svIdx ctx.chIdx).bind (·.encode) with
        | none => rw [henc] at hw; cases hw
        | some e =>
          cases e
          rw [henc] at hw
          simp only at hw ⊢
          cases hval : charact.value with
          | nil =>
            rw [hval] at hw
            simp [bleServicesEncode2bitBitfieldValue] at hw
          | cons b rest =>
            rw [hval, encode2bit_eq h hf hk] at hw
            simp only [encode2bit_eq h hf hk, if_pos (show bleWriteCharacteristic .reply = 0
              from rfl)] at hw ⊢
            cases hw
            have hset : edgeSetResourceValue s.client s.device.deviceId
                (servicePath ctx.svIdx charact.resourceId) call.2
                = (deviceSetResourceValue s.client s.device.deviceId
                    (servicePath ctx.svIdx charact.resourceId) call.2).2 := by
              unfold edgeSetResourceValue
              rw [takeFault_of_nil hf]
            refine ⟨charact, rfl, by rw [hval]; exact List.cons_ne_nil b rest, ?_, rfl, ?_,
              (edgeSetResourceValue_grows s.client s.device.deviceId _ call.2).faults hf,
              by rw [hfield]; exact hk⟩
            · rw [hfield, hval]
              rfl
            · rw [hset]
              exact deviceSetResourceValue_lastSet ..
    · cases hstep

section
variable {h : Host} {svc ch : Nat} {s s' t : Bitfield} {call : Path × Bytes}
  {calls : List (Path × Bytes)}

theorem InSync.headD (hsync : InSync svc ch s) {charact : GattChar}
    (hchar : s.device.char? svc ch = some charact) :
    charact.value.headD 0 = s.peripheral.headD 0 := by
  obtain ⟨charact', hchar', hprefix⟩ := hsync.cached
  rw [hchar] at hchar'
  obtain rfl := Option.some.inj hchar'
  obtain ⟨rest, hrest⟩ := hprefix
  rw [← hrest]
  cases hp : s.peripheral with
  | nil => exact absurd hp hsync.nonempty
  | cons b bs => rfl

/-- the fields of a device are in its contexts, which no write changes -/
theorem writesWholeBytes_setChar (device : BleDevice) (svc ch : Nat) (charact : GattChar)
    (b : UInt8) (calls : List (Path × Bytes)) :
    WritesWholeBytes (device.setChar svc ch charact) b calls ↔ WritesWholeBytes device b calls := by
  induction calls generalizing b with
  | nil => exact Iff.rfl
  | cons call calls ih =>
    have hfield : fieldOf (device.setChar svc ch charact) call.1 = fieldOf device call.1 := rfl
    simp only [WritesWholeBytes, hfield, ih]

/-- the byte at the peripheral after a call in sync: the byte before, with the field of the call
put in -/
theorem writeField_field (hf : s.client.faults = []) (hsync : InSync svc ch s)
    (hstep : writeField h svc ch s call = some s') :
    s'.peripheral = [putField (s.peripheral.headD 0) (fieldOf s.device call.1)
      (isOn h call.2)] := by
  obtain ⟨charact, hchar, -, hper, -⟩ := writeField_cases hf hstep
  rw [hper, hsync.headD hchar]

/-- the calls after the first one see the byte that the first one has made -/
theorem lastWritten_cons (device : BleDevice) (k : Nat) :
    lastWritten h device (call :: calls) k = (lastWritten h device calls k).or
      (if fieldOf device call.1 = k then some (isOn h call.2) else none) := by
  unfold lastWritten
  rw [List.filter_cons]
  by_cases hk : fieldOf device call.1 = k
  · simp only [hk, decide_true, if_true]
    rw [List.getLast?_cons]
    cases (calls.filter fun call => fieldOf device call.1 = k).getLast? with
    | none => rfl
    | some c => rfl
  · simp only [hk, decide_false, Bool.false_eq_true, if_false, Option.or_none]

/-- no update is lost from the first call on exactly if none is from the second on -/
theorem losesNoUpdate_cons (hf : s.client.faults = []) (hsync : InSync svc ch s)
    (hstep : writeField h svc ch s call = some s') :
    LosesNoUpdate h svc ch s (call :: calls) t ↔ LosesNoUpdate h svc ch s' calls t := by
  obtain ⟨charact, hchar, -, -, hdev, -, -, hk4⟩ := writeField_cases hf hstep
  have hper := writeField_field hf hsync hstep
  have hsame : ∀ k < 4,
      (match lastWritten h s.device (call :: calls) k with
        | some on => if on then 1 else 0
        | none => bitField (s.peripheral.headD 0) k)
      = match lastWritten h s'.device calls k with
        | some on => if on then 1 else 0
        | none => bitField (s'.peripheral.headD 0) k := by
    intro k hk
    have hdevice : lastWritten h s'.device calls k = lastWritten h s.device calls k := by
      rw [hdev]
      rfl
    rw [lastWritten_cons, hdevice, hper]
    cases lastWritten h s.device calls k with
    | some on => rfl
    | none =>
      have hput := bitField_putField (s.peripheral.headD 0) hk4 hk (isOn h call.2)
      by_cases hfk : fieldOf s.device call.1 = k
      · simp only [hfk, if_true, Option.none_or, List.headD_cons] at hput ⊢
        rw [hput]
      · have hkf : k ≠ fieldOf s.device call.1 := fun e => hfk e.symm
        simp only [hfk, if_false, Option.none_or, List.headD_cons]
        rw [hput, if_neg hkf]
  constructor
  · rintro ⟨hfield, hc, hp⟩
    exact ⟨fun k hk => (hfield k hk).trans (hsame k hk), hc, hp⟩
  · rintro ⟨hfield, hc, hp⟩
    exact ⟨fun k hk => (hfield k hk).trans (hsame k hk).symm, hc, hp⟩

/-- one call loses no update exactly if its value is the byte it makes -/
theorem losesNoUpdate_one (hf : s.client.faults = []) (hsync : InSync svc ch s)
    (hstep : writeField h svc ch s call = some s') :
    LosesNoUpdate h svc ch s [call] s' ↔
      ∃ v, call.2 = [v] ∧ v = putField (s.peripheral.headD 0) (fieldOf s.device call.1) (v ≠ 0) := by
  rw [losesNoUpdate_cons hf hsync hstep]
  obtain ⟨charact, hchar, hne, -, hdev, hlast, -⟩ := writeField_cases hf hstep
  have hper := writeField_field hf hsync hstep
  have hchar' : s'.device.char? svc ch = some (charact.store call.2) := by
    rw [hdev]
    exact BleDevice.char?_setChar_self (by rw [hchar]; rfl) _
  have hid : s'.device.deviceId = s.device.deviceId := by rw [hdev]; rfl
  constructor
  · rintro ⟨-, -, charact', hc', hpub⟩
    rw [hchar'] at hc'
    obtain rfl := Option.some.inj hc'
    have hval : call.2 = s'.peripheral := Option.some.inj (hlast.symm.trans (by rw [← hid]; exact hpub))
    refine ⟨_, hval.trans hper, ?_⟩
    have hon : isOn h call.2 = decide (putField (s.peripheral.headD 0)
        (fieldOf s.device call.1) (isOn h call.2) ≠ 0) := by
      conv_lhs => rw [isOn, hval, hper]
      rfl
    rw [← hon]
  · rintro ⟨v, hval, hv⟩
    have hon : isOn h call.2 = decide (v ≠ 0) := by rw [isOn, hval]; rfl
    have hper' : s'.peripheral = call.2 := by rw [hper, hon, ← hv, hval]
    refine ⟨fun k _ => rfl, ⟨_, hchar', ?_⟩, ⟨_, hchar', ?_⟩⟩
    · have hpos : 0 < charact.valueSize := by
        rw [← charact.sized]
        exact List.length_pos_iff.mpr hne
      rw [hper']
      show call.2 <+: fit charact.valueSize call.2
      unfold fit
      rw [List.take_of_length_le (by rw [hval]; exact hpos)]
      exact List.prefix_append _ _
    · rw [hid, hper']
      exact hlast

/-- a call that loses no update leaves cache and peripheral in sync -/
theorem LosesNoUpdate.inSync (hf : s.client.faults = [])
    (hstep : writeField h svc ch s call = some s')
    (hkept : LosesNoUpdate h svc ch s [call] s') : InSync svc ch s' := by
  obtain ⟨charact, -, -, hper, -⟩ := writeField_cases hf hstep
  exact ⟨by rw [hper]; exact List.cons_ne_nil _ _, hkept.cached⟩

end

/-! ## any number of calls -/

/-- **No update is lost exactly when every call writes the whole new byte as its value.**  The
induction is on the calls; cache and peripheral are in sync before each of them. -/
theorem losesNoUpdate_iff (h : Host) (svc ch : Nat) {s₀ s : Bitfield} {calls : List (Path × Bytes)}
    (hrun : run (writeField h svc ch) s₀ calls = some s) (hsync : InSync svc ch s₀)
    (hf : s₀.client.faults = []) :
    (∀ pre post t, calls = pre ++ post → pre ≠ [] →
        run (writeField h svc ch) s₀ pre = some t → LosesNoUpdate h svc ch s₀ pre t)
      ↔ WritesWholeBytes s₀.device (s₀.peripheral.headD 0) calls := by
  induction calls generalizing s₀ with
  | nil =>
    refine ⟨fun _ => trivial, fun _ pre post t hsplit hne => ?_⟩
    exact absurd (List.append_eq_nil_iff.mp hsplit.symm).1 hne
  | cons call calls ih =>
    rw [run_cons, Option.bind_eq_some_iff] at hrun
    obtain ⟨s₁, hstep, hrest⟩ := hrun
    have hone : run (writeField h svc ch) s₀ [call] = some s₁ := by rw [run_cons, hstep]; rfl
    have hf₁ : s₁.client.faults = [] := by
      obtain ⟨_, _, _, _, _, _, hf₁, _⟩ := writeField_cases hf hstep
      exact hf₁
    have hdevice : ∀ b,
        WritesWholeBytes s₁.device b calls ↔ WritesWholeBytes s₀.device b calls := by
      obtain ⟨charact, _, _, _, hdev, _⟩ := writeField_cases hf hstep
      intro b
      rw [hdev]
      exact writesWholeBytes_setChar ..
    by_cases hkept : LosesNoUpdate h svc ch s₀ [call] s₁
    · obtain ⟨v, hval, hv⟩ := (losesNoUpdate_one hf hsync hstep).mp hkept
      have hon : isOn h call.2 = decide (v ≠ 0) := by rw [isOn, hval]; rfl
      have hper : s₁.peripheral.headD 0 = v := by
        rw [writeField_field hf hsync hstep, hon, ← hv]
        rfl
      have hih := ih hrest (hkept.inSync hf hstep) hf₁
      rw [hper, hdevice] at hih
      constructor
      · intro hall
        refine ⟨v, hval, hv, hih.mp fun pre post t hsplit _ ht => ?_⟩
        refine (losesNoUpdate_cons hf hsync hstep).mp (hall (call :: pre) post t ?_ ?_ ?_)
        · rw [hsplit]; rfl
        · exact List.cons_ne_nil _ _
        · rw [run_cons, hstep]; exact ht
      · rintro ⟨v', hval', -, hwhole⟩ pre post t hsplit hne ht
        obtain rfl : v' = v := List.singleton_inj.mp (hval'.symm.trans hval)
        cases pre with
        | nil => exact absurd rfl hne
        | cons c pre =>
          obtain ⟨rfl, htail⟩ := List.cons_eq_cons.mp hsplit
          rw [run_cons, hstep] at ht
          cases pre with
          | nil => cases ht; exact hkept
          | cons c' pre =>
            exact (losesNoUpdate_cons hf hsync hstep).mpr
              (hih.mpr hwhole (c' :: pre) post t htail (List.cons_ne_nil _ _) ht)
    · constructor
      · intro hall
        exact absurd (hall [call] calls s₁ rfl (List.cons_ne_nil _ _) hone) hkept
      · rintro ⟨v, hval, hv, -⟩
        exact absurd ((losesNoUpdate_one hf hsync hstep).mpr ⟨v, hval, hv⟩) hkept

/-- a device with a writable digital characteristic and its two light controls -/
def digitalDevice : BleDevice :=
  { deviceAddGattCharacteristic
      { deviceCreate 1 0 "00:11:22:33:44:55" with deviceId := "BLE-00:11:22:33:44:55-0" }
      "00001815-0000-1000-8000-00805f9b34fb" "/service0001"
      "00002a56-0000-1000-8000-00805f9b34fb" "/service0001/char0002"
      (bleGattPropPermRead ||| bleGattPropPermWrite) with
    translations := [⟨lightControl, 0, onOffValue, 0, 0, 0⟩, ⟨lightControl, 1, onOffValue, 1, 0, 0⟩] }

/-- the contexts are those that the constructor makes -/
example : (deviceAddKnownTranslationsFromGatt plainHost ⟨fun _ => [], fun _ _ => .failed 1⟩
    (emptyClient.setResources "BLE-00:11:22:33:44:55-0" ∅)
    { digitalDevice with translations := [] }).1.translations = digitalDevice.translations := by
  decide +kernel

/-- both lights are off, in the cache and at the peripheral -/
def digitalStart : Bitfield := ⟨digitalDevice, emptyClient, [0]⟩

def lightPath (inst : UInt16) : Path := ⟨lightControl, inst, onOffValue⟩

theorem digitalStart_inSync : InSync 0 0 digitalStart := by
  refine ⟨List.cons_ne_nil _ _, ?_⟩
  have hchar : (digitalStart.device.char? 0 0).isSome := by decide +kernel
  obtain ⟨charact, hcharact⟩ := Option.isSome_iff_exists.mp hchar
  refine ⟨charact, hcharact, ?_⟩
  have hvalue : (digitalStart.device.char? 0 0).map (·.value) = some (0 :: List.replicate 511 0) :=
    rfl
  rw [hcharact] at hvalue
  have hvalue : charact.value = 0 :: List.replicate 511 0 := Option.some.inj hvalue
  rw [hvalue]
  exact ⟨List.replicate 511 0, rfl⟩

theorem losesNoUpdate_iff_oneLight :
    ∃ s, run (writeField plainHost 0 0) digitalStart [(lightPath 0, [1])] = some s ∧
      ((∀ pre post t, [(lightPath 0, ([1] : Bytes))] = pre ++ post → pre ≠ [] →
          run (writeField plainHost 0 0) digitalStart pre = some t →
            LosesNoUpdate plainHost 0 0 digitalStart pre t)
        ↔ WritesWholeBytes digitalDevice 0 [(lightPath 0, [1])]) := by
  have hrun : (run (writeField plainHost 0 0) digitalStart [(lightPath 0, [1])]).isSome := by
    decide +kernel
  obtain ⟨s, hs⟩ := Option.isSome_iff_exists.mp hrun
  exact ⟨s, hs, losesNoUpdate_iff plainHost 0 0 hs digitalStart_inSync rfl⟩

/-- the two lights switched on one after the other: the peripheral has both bits, and the resource
of the service object has the `1` of the second call -/
theorem not_losesNoUpdate_twoLights :
    ∃ s, run (writeField plainHost 0 0) digitalStart [(lightPath 0, [1]), (lightPath 1, [1])]
        = some s ∧
      ¬LosesNoUpdate plainHost 0 0 digitalStart [(lightPath 0, [1]), (lightPath 1, [1])] s := by
  have hrun : (run (writeField plainHost 0 0) digitalStart
      [(lightPath 0, [1]), (lightPath 1, [1])]).map (fun s => (s.peripheral,
        s.client.lastSet s.device.deviceId (servicePath 0 0),
        (s.device.char? 0 0).map (·.resourceId))) = some ([5], some [1], some 0) := by
    decide +kernel
  obtain ⟨s, hs, hsnap⟩ := Option.map_eq_some_iff.mp hrun
  obtain ⟨hper, hrest⟩ := Prod.mk.inj hsnap
  obtain ⟨hlast, hres⟩ := Prod.mk.inj hrest
  refine ⟨s, hs, fun hkept => ?_⟩
  obtain ⟨charact, hchar, hpub⟩ := hkept.published
  rw [hchar] at hres
  have hres : charact.resourceId = 0 := Option.some.inj hres
  rw [hres, hlast, hper] at hpub
  exact absurd hpub (by decide)

end EdgeTranslators.Ble
