import Mathlib.Data.List.Induction
import Mathlib.Data.List.TakeWhile
import Mathlib.Tactic.Push
import EdgeTranslators.Ble.RoundTrip

/-!
# The strings of a Device Information service

`ble_services_construct_dis_service` reads its characteristics into buffers on the stack and hands
the buffers on as C strings.  A read that returns 0 counts as one that has filled its buffer, and a
`GError` whose code is 0 returns 0 as well.

* `disReads`            the reads of a service, each with the string it is for;
* `DisBuffers.reads`    what they do to the buffers;
* `lastReply`           the last answer to a read of a string;
* `reads_state`         a buffer after the reads: as it was without an answer, and else the last
                        answer with what the iterator leaves behind it;
* `stringsOfDevice_iff` when the strings are the last answers, whatever was on the stack.
-/

namespace EdgeTranslators.Ble
open Lib Pt

/-! ## the reads -/

/-- a read of a characteristic for one of the strings, and what it came back with -/
abbrev DisRead := DisString × ReadOutcome

/-- the reads that the loop makes, in its order -/
def disReads (chars : List GattChar) (reads : Nat → ReadOutcome) : List DisRead :=
  chars.zipIdx.filterMap fun (ch, i) => (disString ch.uuid).map fun f => (f, reads i)

/-- the body of the loop for a characteristic of a string -/
def DisBuffers.readString (h : Host) (b : DisBuffers) (r : DisRead) : DisBuffers :=
  match bleReadCharacteristic h (b.buffer r.1) 128 r.2 with
  | (rc, data) =>
    { buffer := Function.update b.buffer r.1 data
      read := if rc = 0 then Function.update b.read r.1 true else b.read }

/-- the loop, from buffers that hold `stack` -/
def DisBuffers.reads (h : Host) (stack : DisString → Bytes) (rs : List DisRead) : DisBuffers :=
  rs.foldl (readString h) ⟨stack, fun _ => false⟩

/-- the data that is handed to `ptdo_initialize_device_object` -/
def disObjectData (b : DisBuffers) : DeviceObjectData :=
  { manufacturer := b.string .manufacturer, modelNumber := b.string .model,
    serialNumber := b.string .serial, firmwareVersion := b.string .firmware,
    hardwareVersion := b.string .hardware, softwareVersion := some (cBytes "N/A"),
    deviceType := some (cBytes "Bluetooth 4.0") }

theorem constructDisService_eq (h : Host) (c : Client) (device : BleDevice) (svIdx : Nat)
    (stack : DisString → Bytes) (reads : Nat → ReadOutcome) :
    bleServicesConstructDisService h c device svIdx stack reads
      = ptdoInitializeDeviceObject h c device.deviceId (disObjectData (DisBuffers.reads h stack
          (disReads (((device.services[svIdx]?).map (·.chars)).getD []) reads))) := by
  have hloop : ∀ (chars : List GattChar) (b : DisBuffers),
      chars.zipIdx.foldl (fun b (ch, i) => b.readCharacteristic h ch.uuid (reads i)) b
        = (disReads chars reads).foldl (DisBuffers.readString h) b := by
    intro chars b
    unfold disReads
    rw [List.foldl_filterMap]
    congr 1
    funext b ⟨ch, i⟩
    simp only [DisBuffers.readCharacteristic]
    cases disString ch.uuid with
    | none => rfl
    | some f => rfl
  unfold DisBuffers.reads
  rw [← hloop]
  rfl

/-! ## the buffers -/

/-- the last answer to a read of a string -/
def lastReply (rs : List DisRead) (f : DisString) : Option Bytes :=
  rs.foldl (fun last r =>
    match r.2 with
    | .reply value => if r.1 = f then some value else last
    | .failed _ => last) none

/-- a read that returns 0 -/
def ReadOutcome.ReturnsZero : ReadOutcome → Prop
  | .failed code => code = 0
  | .reply _ => True

section
variable (h : Host) {stack : DisString → Bytes} {rs : List DisRead}

theorem reads_snoc (r : DisRead) :
    DisBuffers.reads h stack (rs ++ [r]) = (DisBuffers.reads h stack rs).readString h r :=
  List.foldl_append

theorem lastReply_snoc (r : DisRead) (f : DisString) :
    lastReply (rs ++ [r]) f =
      match r.2 with
      | .reply value => if r.1 = f then some value else lastReply rs f
      | .failed _ => lastReply rs f := by
  unfold lastReply
  rw [List.foldl_append]
  rfl

theorem readString_other (b : DisBuffers) (r : DisRead) {f : DisString} (hf : f ≠ r.1) :
    (b.readString h r).buffer f = b.buffer f ∧ (b.readString h r).read f = b.read f := by
  unfold DisBuffers.readString
  refine ⟨Function.update_of_ne hf _ _, ?_⟩
  simp only
  split
  · exact Function.update_of_ne hf _ _
  · rfl

/-- a failed read leaves the buffer alone, and counts when its code is 0 -/
theorem readString_failed (b : DisBuffers) (f : DisString) (code : Int) :
    (b.readString h (f, .failed code)).buffer f = b.buffer f ∧
      (b.readString h (f, .failed code)).read f = if code = 0 then true else b.read f := by
  show Function.update b.buffer f (b.buffer f) f = b.buffer f ∧
    (if code = 0 then Function.update b.read f true else b.read) f = _
  refine ⟨Function.update_self f _ _, ?_⟩
  split
  · exact Function.update_self f _ _
  · rfl

theorem readString_reply (b : DisBuffers) (f : DisString) {value : Bytes}
    (hlen : (b.buffer f).length = 128) (hvalue : value.length ≤ 127) :
    (b.readString h (f, .reply value)).buffer f
        = value ++ h.behind ((b.buffer f).drop value.length) ∧
      (b.readString h (f, .reply value)).read f = true := by
  have hparse := parseResultVariant_eq h (b.buffer f) value
  rw [hlen, List.take_of_length_le (by omega)] at hparse
  unfold DisBuffers.readString
  refine ⟨?_, ?_⟩
  · simp only [bleReadCharacteristic]
    rw [Function.update_self, hparse]
  · exact Function.update_self _ _ _

/-- a string is handed on when a read of it has returned 0 -/
theorem reads_read (f : DisString) :
    (DisBuffers.reads h stack rs).read f = true ↔ ∃ r ∈ rs, r.1 = f ∧ r.2.ReturnsZero := by
  induction rs using List.reverseRecOn with
  | nil => exact iff_of_false Bool.false_ne_true fun ⟨r, hr, _⟩ => absurd hr List.not_mem_nil
  | append_singleton rs r ih =>
    rw [reads_snoc]
    have hmem : (∃ x ∈ rs ++ [r], x.1 = f ∧ x.2.ReturnsZero) ↔
        (∃ x ∈ rs, x.1 = f ∧ x.2.ReturnsZero) ∨ (r.1 = f ∧ r.2.ReturnsZero) := by
      simp only [List.mem_append, List.mem_singleton, or_and_right, exists_or, exists_eq_left]
    rw [hmem, ← ih]
    by_cases hf : f = r.1
    · subst hf
      obtain ⟨f, outcome⟩ := r
      cases outcome with
      | failed code =>
        rw [(readString_failed h _ f code).2]
        by_cases hcode : code = 0
        · exact iff_of_true (if_pos hcode) (.inr ⟨rfl, hcode⟩)
        · rw [if_neg hcode]
          exact (or_iff_left fun h0 => hcode h0.2).symm
      | reply value =>
        refine iff_of_true ?_ (.inr ⟨rfl, trivial⟩)
        exact Function.update_self _ _ _
    · rw [(readString_other h _ r hf).2]
      exact (or_iff_left fun h0 => hf h0.1.symm).symm

/-- answers of at most 127 bytes that are not 0 -/
def Printable (rs : List DisRead) : Prop :=
  ∀ r ∈ rs, ∀ value, r.2 = .reply value → value.length ≤ 127 ∧ ∀ b ∈ value, b ≠ 0

theorem Printable.init {r : DisRead} (hp : Printable (rs ++ [r])) :
    Printable rs ∧ ∀ value, r.2 = .reply value → value.length ≤ 127 ∧ ∀ b ∈ value, b ≠ 0 :=
  ⟨fun x hx => hp x (List.mem_append_left _ hx), hp r (List.mem_append_right _ List.mem_cons_self)⟩

theorem lastReply_mem {f : DisString} {value : Bytes} (hlast : lastReply rs f = some value) :
    ((f, .reply value) : DisRead) ∈ rs := by
  induction rs using List.reverseRecOn with
  | nil => cases hlast
  | append_singleton rs r ih =>
    rw [lastReply_snoc] at hlast
    obtain ⟨g, outcome⟩ := r
    cases outcome with
    | failed code => exact List.mem_append_left _ (ih hlast)
    | reply v =>
      simp only at hlast
      split at hlast
      · rename_i hg
        obtain rfl : g = f := hg
        cases hlast
        exact List.mem_append_right _ List.mem_cons_self
      · exact List.mem_append_left _ (ih hlast)

theorem lastReply_ne_none {f : DisString} {value : Bytes}
    (hmem : ((f, .reply value) : DisRead) ∈ rs) : lastReply rs f ≠ none := by
  induction rs using List.reverseRecOn with
  | nil => exact absurd hmem List.not_mem_nil
  | append_singleton rs r ih =>
    rw [lastReply_snoc]
    rcases List.mem_append.mp hmem with hmem | hmem
    · cases r.2 with
      | failed code => exact ih hmem
      | reply v =>
        simp only
        split
        · exact nofun
        · exact ih hmem
    · obtain rfl := List.mem_singleton.mp hmem
      simp

/-- what the reads of a string have made of its buffer -/
theorem reads_state (hstack : ∀ f, (stack f).length = 128) (hp : Printable rs) (f : DisString) :
    ((DisBuffers.reads h stack rs).buffer f).length = 128 ∧
      match lastReply rs f with
      | none => (DisBuffers.reads h stack rs).buffer f = stack f
      | some value => ∃ old : Bytes, old.length = 128 ∧
          (DisBuffers.reads h stack rs).buffer f = value ++ h.behind (old.drop value.length) := by
  induction rs using List.reverseRecOn with
  | nil => exact ⟨hstack f, rfl⟩
  | append_singleton rs r ih =>
    obtain ⟨hp', hvalue⟩ := hp.init
    obtain ⟨hlen, hbuf⟩ := ih hp'
    rw [reads_snoc, lastReply_snoc]
    by_cases hf : f = r.1
    · subst hf
      obtain ⟨f, outcome⟩ := r
      cases outcome with
      | failed code =>
        rw [(readString_failed h _ f code).1]
        exact ⟨hlen, hbuf⟩
      | reply value =>
        have hshort := (hvalue value rfl).1
        rw [(readString_reply h _ f hlen hshort).1]
        simp only [if_true]
        refine ⟨?_, _, hlen, rfl⟩
        rw [List.length_append, Host.length_behind, List.length_drop, hlen]
        omega
    · rw [(readString_other h _ r hf).1]
      refine ⟨hlen, ?_⟩
      cases r.2 with
      | failed code => exact hbuf
      | reply value =>
        simp only
        rw [if_neg fun h0 => hf h0.symm]
        exact hbuf

/-- where the iterator leaves the byte behind an answer alone, a buffer without zeros stays one -/
theorem reads_nonzero (hclears : h.clearsAtEnd = false) (hstack : ∀ f, (stack f).length = 128)
    (hzero : ∀ f, ∀ b ∈ stack f, b ≠ 0) (hp : Printable rs) (f : DisString) :
    ∀ b ∈ (DisBuffers.reads h stack rs).buffer f, b ≠ 0 := by
  induction rs using List.reverseRecOn with
  | nil => exact hzero f
  | append_singleton rs r ih =>
    obtain ⟨hp', hvalue⟩ := hp.init
    rw [reads_snoc]
    by_cases hf : f = r.1
    · subst hf
      obtain ⟨f, outcome⟩ := r
      cases outcome with
      | failed code =>
        rw [(readString_failed h _ f code).1]
        exact ih hp'
      | reply value =>
        obtain ⟨hshort, hbytes⟩ := hvalue value rfl
        rw [(readString_reply h _ f (reads_state h hstack hp' f).1 hshort).1]
        intro b hb
        rcases List.mem_append.mp hb with hb | hb
        · exact hbytes b hb
        · rw [Host.behind_of_not_clears hclears] at hb
          exact ih hp' b (List.mem_of_mem_drop hb)
    · rw [(readString_other h _ r hf).1]
      exact ih hp'

/-! ## the strings -/

/-- the strings are the last answers, and the same for any two contents of the stack -/
def StringsOfDevice (rs : List DisRead) : Prop :=
  ∀ stack stack' : DisString → Bytes, (∀ f, (stack f).length = 128) →
    (∀ f, (stack' f).length = 128) → ∀ f,
      (DisBuffers.reads h stack rs).string f = (DisBuffers.reads h stack' rs).string f ∧
        (DisBuffers.reads h stack rs).string f = lastReply rs f

/-- no read of the string returns 0, or one is answered and the iterator ends the string -/
def Determined (rs : List DisRead) (f : DisString) : Prop :=
  (∀ r ∈ rs, r.1 = f → ¬r.2.ReturnsZero) ∨
    (h.clearsAtEnd = true ∧ ∃ value, ((f, .reply value) : DisRead) ∈ rs)

theorem string_of_not_read {f : DisString} (hnone : ∀ r ∈ rs, r.1 = f → ¬r.2.ReturnsZero) :
    (DisBuffers.reads h stack rs).string f = none := by
  have hread : ¬(DisBuffers.reads h stack rs).read f = true := by
    rw [reads_read]
    rintro ⟨r, hr, hf, hzero⟩
    exact hnone r hr hf hzero
  exact if_neg hread

theorem string_of_read {f : DisString} {r : DisRead} (hr : r ∈ rs) (hf : r.1 = f)
    (hzero : r.2.ReturnsZero) :
    (DisBuffers.reads h stack rs).string f
      = some (((DisBuffers.reads h stack rs).buffer f).takeWhile (· ≠ 0)) :=
  if_pos ((reads_read h f).mpr ⟨r, hr, hf, hzero⟩)

theorem string_of_determined (hstack : ∀ f, (stack f).length = 128) (hp : Printable rs)
    {f : DisString} (hdet : Determined h rs f) :
    (DisBuffers.reads h stack rs).string f = lastReply rs f := by
  rcases hdet with hnone | ⟨hclears, value, hmem⟩
  · rw [string_of_not_read h hnone]
    cases hlast : lastReply rs f with
    | none => rfl
    | some value => exact absurd trivial (hnone _ (lastReply_mem hlast) rfl)
  · obtain ⟨hlen, hbuf⟩ := reads_state h hstack hp f
    cases hlast : lastReply rs f with
    | none => exact absurd hlast (lastReply_ne_none hmem)
    | some last =>
      rw [hlast] at hbuf
      obtain ⟨old, hold, hbuf⟩ := hbuf
      obtain ⟨hshort, hbytes⟩ := hp _ (lastReply_mem hlast) last rfl
      rw [string_of_read h hmem rfl trivial, hbuf]
      -- there is a byte behind the answer, and the iterator has cleared it
      cases hrest : old.drop last.length with
      | nil =>
        have hdrop := congrArg List.length hrest
        rw [List.length_drop, List.length_nil] at hdrop
        omega
      | cons b rest =>
        have hend : h.behind (b :: rest) = 0 :: rest := by
          unfold Host.behind
          rw [hclears]
          rfl
        rw [hend, List.takeWhile_append_of_pos (by simpa using hbytes)]
        simp

theorem stringsOfDevice_iff {rs : List DisRead} (hp : Printable rs) :
    StringsOfDevice h rs ↔ ∀ f, Determined h rs f := by
  constructor
  · intro hstrings f
    by_contra hdet
    unfold Determined at hdet
    rw [not_or] at hdet
    obtain ⟨hread, hanswered⟩ := hdet
    push Not at hread
    obtain ⟨r, hr, hf, hzero⟩ := hread
    -- a stack without zeros, so that nothing but the iterator ends a string
    have hones : ∀ f : DisString, (List.replicate 128 (1 : UInt8)).length = 128 :=
      fun _ => List.length_replicate
    obtain ⟨-, hlast⟩ := hstrings (fun _ => List.replicate 128 1) _ hones hones f
    rw [string_of_read h hr hf hzero] at hlast
    obtain ⟨hlen, hbuf⟩ := reads_state h hones hp f
    have hmem := lastReply_mem hlast.symm
    have hclears : h.clearsAtEnd = false := by
      rw [← Bool.not_eq_true]
      exact fun h0 => hanswered ⟨h0, _, hmem⟩
    have hnonzero := reads_nonzero h hclears hones
      (fun _ b hb => by rw [List.eq_of_mem_replicate hb]; decide) hp f
    rw [List.takeWhile_eq_self_iff.mpr (by simpa using hnonzero)] at hmem
    have hshort := (hp _ hmem _ rfl).1
    omega
  · intro hdet stack stack' hstack hstack' f
    rw [string_of_determined h hstack hp (hdet f), string_of_determined h hstack' hp (hdet f)]
    exact ⟨rfl, rfl⟩

end

/-- the reads of the service at an index of a device -/
def serviceReads (device : BleDevice) (svIdx : Nat) (reads : Nat → ReadOutcome) : List DisRead :=
  disReads (((device.services[svIdx]?).map (·.chars)).getD []) reads

/-- **The strings that `ptdo_initialize_device_object` gets depend on the device alone exactly when
every string that is handed on was answered, and the iterator clears the byte behind an answer.** -/
theorem constructDisService_strings (h : Host) (c : Client) (device : BleDevice) (svIdx : Nat)
    (reads : Nat → ReadOutcome) (hp : Printable (serviceReads device svIdx reads)) :
    (∀ stack, bleServicesConstructDisService h c device svIdx stack reads
        = ptdoInitializeDeviceObject h c device.deviceId
            (disObjectData (DisBuffers.reads h stack (serviceReads device svIdx reads)))) ∧
      (StringsOfDevice h (serviceReads device svIdx reads) ↔
        ∀ f, Determined h (serviceReads device svIdx reads) f) :=
  ⟨fun stack => constructDisService_eq h c device svIdx stack reads, stringsOfDevice_iff h hp⟩

/-- a device whose Device Information service names its manufacturer -/
def namedDevice : BleDevice :=
  deviceAddGattCharacteristic
    { deviceCreate 1 0 "00:11:22:33:44:55" with deviceId := "BLE-00:11:22:33:44:55-0" }
    "0000180A-0000-1000-8000-00805F9B34FB" "/service0001" "00002A29-0000-1000-8000-00805F9B34FB"
    "/service0001/char0002" bleGattPropPermRead

theorem constructDisService_strings_answered :
    (∀ stack, bleServicesConstructDisService plainHost emptyClient namedDevice 0 stack
          (fun _ => .reply [65])
        = ptdoInitializeDeviceObject plainHost emptyClient namedDevice.deviceId
            (disObjectData (DisBuffers.reads plainHost stack
              (serviceReads namedDevice 0 fun _ => .reply [65])))) ∧
      (StringsOfDevice plainHost (serviceReads namedDevice 0 fun _ => .reply [65]) ↔
        ∀ f, Determined plainHost (serviceReads namedDevice 0 fun _ => .reply [65]) f) := by
  have hreads : serviceReads namedDevice 0 (fun _ => .reply [65])
      = [(.manufacturer, .reply [65])] := by decide +kernel
  refine constructDisService_strings plainHost emptyClient namedDevice 0 (fun _ => .reply [65]) ?_
  rw [hreads]
  intro r hr value hvalue
  obtain rfl := List.mem_singleton.mp hr
  cases hvalue
  refine ⟨by decide, fun b hb => ?_⟩
  obtain rfl := List.mem_singleton.mp hb
  decide

/-- a stack with a string in each buffer -/
def leftOver : DisString → Bytes := fun _ => List.replicate 127 83 ++ [0]

/-- the read of the manufacturer fails with `G_DBUS_ERROR_FAILED`, which is 0: the string is what
was on the stack -/
theorem manufacturer_of_stack :
    (DisBuffers.reads plainHost leftOver (serviceReads namedDevice 0 fun _ => .failed 0)).string
        .manufacturer = some (List.replicate 127 83) ∧
      ¬StringsOfDevice plainHost (serviceReads namedDevice 0 fun _ => .failed 0) := by
  have hreads : serviceReads namedDevice 0 (fun _ => .failed 0)
      = [(.manufacturer, .failed 0)] := by decide +kernel
  rw [hreads]
  have hstring : (DisBuffers.reads plainHost leftOver [(.manufacturer, .failed 0)]).string
      .manufacturer = some (List.replicate 127 83) := by decide +kernel
  refine ⟨hstring, fun hstrings => ?_⟩
  have hlen : ∀ f, (leftOver f).length = 128 := fun _ => rfl
  have hlast := (hstrings leftOver leftOver hlen hlen .manufacturer).2
  rw [hstring] at hlast
  cases hlast

end EdgeTranslators.Ble
