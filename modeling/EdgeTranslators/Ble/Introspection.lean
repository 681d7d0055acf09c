import EdgeTranslators.Ble.Device
import EdgeTranslators.Lib.CString
import EdgeTranslators.Lib.JsonText

/-!
# The introspection text in its buffer (`json_list_device_services`)

`jsonListDeviceServices` of `Device.lean` is the text that the buffer keeps.  Here the text is
printed in a block from `malloc`, with the bound that the source hands to every call.

* `jsonSize`, `jsonRetsize`        the size of the block, and its value in an `int`;
* `Printing`                       the block, and whether a call was cut off;
* `jsonListDeviceServicesIn`       the function; `none` when it writes past the block;
* `referenceText`                  what the calls print, one after the other;
* `jsonDocument`                   the JSON value of the table, `readDocument` reads it back;
* `printed_referenceText`          the block has the reference text, as far as it fits;
* `length_referenceText_lt`        the budget of the formula.
-/

namespace EdgeTranslators.Ble
open Lib
open Lib.CString (Block Holds nul)

/-! ## the size of the block -/

/-- the formula of `retsize`, a `size_t` -/
def jsonSize (services : List GattService) : Nat :=
  jsonFormattedDevLen + jsonFormattedSrvcLen * services.length
    + jsonFormattedCharLen * (services.map fun s => s.chars.length).sum

/-- a `size_t` stored in an `int` -/
def intOfSize (n : Nat) : Int := Int.bmod n (2 ^ 32)

def sizeOfInt (i : Int) : Nat := (i % 2 ^ 64).toNat

/-- `retsize` -/
def jsonRetsize (services : List GattService) : Int := intOfSize (jsonSize services)

theorem sizeOfInt_jsonRetsize {services : List GattService} (h : jsonSize services < 2 ^ 31) :
    sizeOfInt (jsonRetsize services) = jsonSize services := by
  unfold sizeOfInt jsonRetsize intOfSize
  rw [Int.bmod_eq_of_le (by omega) (by omega)]
  omega

theorem jsonRetsize_pos {services : List GattService} (h : jsonSize services < 2 ^ 31) :
    0 < jsonRetsize services := by
  have hpos : 0 < jsonSize services := by
    unfold jsonSize jsonFormattedDevLen
    omega
  unfold jsonRetsize intOfSize
  rw [Int.bmod_eq_of_le (by omega) (by omega)]
  omega

/-! ## printing -/

/-- a block from `malloc` -/
abbrev Allocated (size : Nat) := { b : Block // b.length = size }

structure Printing where
  block : Block
  /-- a call did not have the room for its output -/
  cutOff : Bool

/-- `snprintf(retval + strlen(retval), retsize - strlen(retval), …)` -/
def Printing.snprintf (size : Nat) (p : Printing) (s : String) : Option Printing :=
  (CString.strlen p.block).bind fun len =>
    (CString.snprintf p.block len (size - len) s.toList).map fun r =>
      ⟨r.1, p.cutOff || decide (size - len ≤ r.2)⟩

/-- `strncat(retval, …, retsize - strlen(retval) - 1)` -/
def Printing.strncat (size : Nat) (p : Printing) (s : String) : Option Printing :=
  (CString.strlen p.block).bind fun len =>
    (CString.strncat p.block s.toList (size - len - 1)).map fun b =>
      ⟨b, p.cutOff || decide (size - len - 1 < s.length)⟩

/-- the loop over the characteristics of a service, `ch` being the next one -/
def printChars (size srvc : Nat) : (chars : List GattChar) → (ch : Nat) → Printing →
    Option Printing
  | [], _, p => some p
  | c :: chars, ch, p =>
    (p.snprintf size (jsonCharFmt (comma ch) c.uuid srvc c.resourceId.toNat)).bind
      (printChars size srvc chars (ch + 1))

/-- the loop over the services, `srvc` being the next one -/
def printServices (size : Nat) : (services : List GattService) → (srvc : Nat) → Printing →
    Option Printing
  | [], _, p => some p
  | s :: services, srvc, p =>
    (((p.snprintf size (jsonSrvcFmt (comma srvc) s.uuid srvc)).bind
      (printChars size srvc s.chars 0)).bind fun p => p.strncat size jsonArrayEnd).bind
        (printServices size services (srvc + 1))

/-- everything that is printed in the block of `size` characters -/
def printDevice (size : Nat) (services : List GattService) (block : Block) : Option Printing :=
  (((CString.strncpy block jsonDeviceFmt.toList size).bind fun b =>
    -- `retval[retsize - 1] = 0`
    CString.store b (size - 1) [nul]).bind fun b =>
      printServices size services 0 ⟨b, decide (size - 1 < jsonDeviceFmt.length)⟩).bind
        fun p => p.strncat size jsonArrayEnd

/-- `json_list_device_services`: `some none` is NULL, `none` an access outside of the block -/
def jsonListDeviceServicesIn (malloc : (size : Nat) → Option (Allocated size))
    (services : List GattService) : Option (Option Printing) :=
  let retsize := jsonRetsize services
  match malloc (sizeOfInt retsize) with
  | none => some none
  | some block =>
    if 0 < retsize then (printDevice (sizeOfInt retsize) services block.val).map some else none

/-! ## the reference rendering -/

def charsText (srvc : Nat) : (chars : List GattChar) → (ch : Nat) → List Char
  | [], _ => []
  | c :: chars, ch =>
    (jsonCharFmt (comma ch) c.uuid srvc c.resourceId.toNat).toList ++ charsText srvc chars (ch + 1)

def serviceText (s : GattService) (srvc : Nat) : List Char :=
  (jsonSrvcFmt (comma srvc) s.uuid srvc).toList ++ charsText srvc s.chars 0 ++ jsonArrayEnd.toList

def servicesText : (services : List GattService) → (srvc : Nat) → List Char
  | [], _ => []
  | s :: services, srvc => serviceText s srvc ++ servicesText services (srvc + 1)

/-- all services and characteristics in order -/
def referenceText (services : List GattService) : List Char :=
  jsonDeviceFmt.toList ++ servicesText services 0 ++ jsonArrayEnd.toList

/-! ## the block has the reference text, as far as it fits -/

/-- the block of `size` characters after the calls that print `t` -/
structure Printed (size : Nat) (t : List Char) (p : Printing) : Prop where
  length : p.block.length = size
  holds : Holds p.block (t.take (size - 1))
  cutOff : p.cutOff = decide (size - 1 < t.length)

section
variable {size : Nat} {t : List Char} {p : Printing}

/-- what is cut off at `n` and appended to, and cut off again -/
theorem take_append_take {α : Type} (n : Nat) (s t : List α) :
    t.take n ++ s.take (n - (t.take n).length) = (t ++ s).take n := by
  rw [List.take_append, List.length_take]
  rcases Nat.le_total t.length n with h | h
  · rw [Nat.min_eq_right h]
  · rw [Nat.min_eq_left h, Nat.sub_self, Nat.sub_eq_zero_of_le h]

theorem Printed.pos (h : Printed size t p) : 0 < size := by
  have hlt := h.holds.length_lt
  rw [h.length] at hlt
  omega

/-- a text is cut off in what was printed before, or where it is printed -/
theorem Printed.cutOff_append (h : Printed size t p) (s : List Char) :
    (p.cutOff || decide (size - (t.take (size - 1)).length ≤ s.length)) =
      decide (size - 1 < (t ++ s).length) := by
  have hpos := h.pos
  rw [h.cutOff, ← Bool.decide_or]
  refine decide_eq_decide.mpr ?_
  rw [List.length_take, List.length_append]
  omega

theorem Printed.snprintf (h : Printed size t p) {s : String} (hs : nul ∉ s.toList) :
    ∃ p', p.snprintf size s = some p' ∧ Printed size (t ++ s.toList) p' := by
  obtain ⟨b, hb, hlen, hholds⟩ := CString.holds_snprintf h.holds hs
  rw [h.length] at hb hlen hholds
  refine ⟨⟨b, p.cutOff || decide (size - (t.take (size - 1)).length ≤ s.toList.length)⟩, ?_, hlen,
    ?_, h.cutOff_append s.toList⟩
  · unfold Printing.snprintf
    rw [h.holds.strlen, Option.bind_some, hb]
    rfl
  · rw [take_append_take] at hholds
    exact hholds

theorem Printed.strncat (h : Printed size t p) {s : String} (hs : nul ∉ s.toList) :
    ∃ p', p.strncat size s = some p' ∧ Printed size (t ++ s.toList) p' := by
  obtain ⟨b, hb, hlen, hholds⟩ := CString.holds_strncat h.holds hs
  rw [h.length] at hb hlen hholds
  have hlt := h.holds.length_lt
  rw [h.length] at hlt
  refine ⟨⟨b, p.cutOff || decide (size - (t.take (size - 1)).length ≤ s.toList.length)⟩, ?_, hlen,
    ?_, h.cutOff_append s.toList⟩
  · have hroom : decide (size - (t.take (size - 1)).length - 1 < s.length) =
        decide (size - (t.take (size - 1)).length ≤ s.toList.length) := by
      refine decide_eq_decide.mpr ?_
      rw [String.length_toList]
      omega
    unfold Printing.strncat
    rw [h.holds.strlen, Option.bind_some, hb, Option.map_some, hroom]
  · rw [take_append_take] at hholds
    exact hholds

/-- no character of the text of a number ends a string -/
theorem nul_notMem_toString (n : Nat) : nul ∉ (toString n).toList := by
  intro hmem
  have hdigits : nul ∈ Nat.toDigits 10 n := by simpa using hmem
  have hdigit := Nat.isDigit_of_mem_toDigits (by decide) (by decide) hdigits
  exact absurd hdigit (by decide)

theorem nul_notMem_comma (i : Nat) : nul ∉ (comma i).toList := by
  unfold comma
  split <;> decide

theorem nul_notMem_jsonSrvcFmt {uuid : String} (h : nul ∉ uuid.toList) (i srvc : Nat) :
    nul ∉ (jsonSrvcFmt (comma i) uuid srvc).toList := by
  simp only [jsonSrvcFmt, String.toList_append, List.mem_append, not_or]
  exact ⟨⟨⟨⟨⟨⟨⟨nul_notMem_comma i, by decide⟩, h⟩, by decide⟩, nul_notMem_toString _⟩, by decide⟩,
    nul_notMem_toString srvc⟩, by decide⟩

theorem nul_notMem_jsonCharFmt {uuid : String} (h : nul ∉ uuid.toList) (i srvc resourceId : Nat) :
    nul ∉ (jsonCharFmt (comma i) uuid srvc resourceId).toList := by
  simp only [jsonCharFmt, String.toList_append, List.mem_append, not_or]
  exact ⟨⟨⟨⟨⟨⟨⟨⟨⟨nul_notMem_comma i, by decide⟩, h⟩, by decide⟩, nul_notMem_toString _⟩,
    by decide⟩, nul_notMem_toString srvc⟩, by decide⟩, nul_notMem_toString resourceId⟩, by decide⟩

theorem Printed.chars {chars : List GattChar} (hnul : ∀ c ∈ chars, nul ∉ c.uuid.toList)
    (srvc ch : Nat) (h : Printed size t p) :
    ∃ p', printChars size srvc chars ch p = some p' ∧
      Printed size (t ++ charsText srvc chars ch) p' := by
  induction chars generalizing ch t p with
  | nil =>
    refine ⟨p, rfl, ?_⟩
    rwa [charsText, List.append_nil]
  | cons c chars ih =>
    obtain ⟨p₁, hp₁, h₁⟩ := h.snprintf
      (nul_notMem_jsonCharFmt (hnul c (List.mem_cons_self ..)) ch srvc c.resourceId.toNat)
    obtain ⟨p₂, hp₂, h₂⟩ := ih (fun c' hc' => hnul c' (List.mem_cons_of_mem _ hc')) (ch + 1) h₁
    refine ⟨p₂, ?_, ?_⟩
    · rw [printChars, hp₁, Option.bind_some, hp₂]
    · rwa [charsText, ← List.append_assoc]

/-- the UUIDs of a table are C strings -/
def CStrings (services : List GattService) : Prop :=
  ∀ s ∈ services, nul ∉ s.uuid.toList ∧ ∀ c ∈ s.chars, nul ∉ c.uuid.toList

theorem Printed.services {services : List GattService} (hnul : CStrings services) (srvc : Nat)
    (h : Printed size t p) :
    ∃ p', printServices size services srvc p = some p' ∧
      Printed size (t ++ servicesText services srvc) p' := by
  induction services generalizing srvc t p with
  | nil =>
    refine ⟨p, rfl, ?_⟩
    rwa [servicesText, List.append_nil]
  | cons s services ih =>
    obtain ⟨huuid, hchars⟩ := hnul s (List.mem_cons_self ..)
    obtain ⟨p₁, hp₁, h₁⟩ := h.snprintf (nul_notMem_jsonSrvcFmt huuid srvc srvc)
    obtain ⟨p₂, hp₂, h₂⟩ := h₁.chars hchars srvc 0
    obtain ⟨p₃, hp₃, h₃⟩ := h₂.strncat (s := jsonArrayEnd) (by decide)
    obtain ⟨p₄, hp₄, h₄⟩ := ih (fun s' hs' => hnul s' (List.mem_cons_of_mem _ hs')) (srvc + 1) h₃
    refine ⟨p₄, ?_, ?_⟩
    · rw [printServices, hp₁, Option.bind_some, hp₂, Option.bind_some, hp₃, Option.bind_some, hp₄]
    · have htext : t ++ servicesText (s :: services) srvc =
          t ++ (jsonSrvcFmt (comma srvc) s.uuid srvc).toList ++ charsText srvc s.chars 0 ++
            jsonArrayEnd.toList ++ servicesText services (srvc + 1) := by
        simp only [servicesText, serviceText, List.append_assoc]
      rwa [htext]

end

theorem printed_printDevice {services : List GattService} (hnul : CStrings services)
    {block : Block} (hblock : block.length = jsonSize services) :
    ∃ p, printDevice (jsonSize services) services block = some p ∧
      Printed (jsonSize services) (referenceText services) p := by
  have hsize : jsonDeviceFmt.toList.length + 4 ≤ jsonSize services := by
    show 13 + 4 ≤ _
    unfold jsonSize jsonFormattedDevLen
    omega
  obtain ⟨b, hb, hlen, hholds⟩ := CString.holds_strncpy (b := block) (s := jsonDeviceFmt.toList)
    (by decide) (by omega)
  rw [hblock] at hb hlen
  obtain ⟨b₁, hb₁, hlen₁, hholds₁⟩ := CString.holds_terminate hholds (by omega)
  rw [hlen] at hb₁ hlen₁
  have h₀ : Printed (jsonSize services) jsonDeviceFmt.toList
      ⟨b₁, decide (jsonSize services - 1 < jsonDeviceFmt.length)⟩ :=
    ⟨hlen₁, by rwa [List.take_of_length_le (by omega)], by rw [String.length_toList]⟩
  obtain ⟨p₁, hp₁, h₁⟩ := h₀.services hnul 0
  obtain ⟨p₂, hp₂, h₂⟩ := h₁.strncat (s := jsonArrayEnd) (by decide)
  refine ⟨p₂, ?_, h₂⟩
  rw [printDevice, hb, Option.bind_some, hb₁, Option.bind_some, hp₁, Option.bind_some, hp₂]

/-- **The block keeps the reference text**, all of it when it fits and nothing is cut off. -/
theorem printed_referenceText {services : List GattService} (hnul : CStrings services)
    (hint : jsonSize services < 2 ^ 31) {malloc : (size : Nat) → Option (Allocated size)}
    (hmalloc : (malloc (jsonSize services)).isSome) :
    ∃ p, jsonListDeviceServicesIn malloc services = some (some p) ∧
      Printed (jsonSize services) (referenceText services) p := by
  have hsize := sizeOfInt_jsonRetsize hint
  rw [← hsize] at hmalloc
  obtain ⟨⟨block, hblock⟩, hmalloc⟩ := Option.isSome_iff_exists.mp hmalloc
  rw [hsize] at hblock
  obtain ⟨p, hp, hprinted⟩ := printed_printDevice hnul hblock
  refine ⟨p, ?_, hprinted⟩
  unfold jsonListDeviceServicesIn
  simp only [hmalloc]
  rw [if_pos (jsonRetsize_pos hint), hsize, hp, Option.map_some]

/-- a text that was appended to with the bound of the buffer -/
theorem toList_appendCut {size : Nat} {t : List Char} {text : String}
    (h : text.toList = t.take (size - 1)) (s : String) :
    (appendCut size text s).toList = (t ++ s.toList).take (size - 1) := by
  have hlen : text.length = (t.take (size - 1)).length := by rw [← String.length_toList, h]
  unfold appendCut cut
  rw [String.toList_append, String.toList_ofList, h, hlen, take_append_take]

theorem toList_foldl_chars {size : Nat} (srvc : Nat) (chars : List GattChar) (ch : Nat)
    {t : List Char} {text : String} (h : text.toList = t.take (size - 1)) :
    ((chars.zipIdx ch).foldl (fun text (c, ch) =>
      appendCut size text (jsonCharFmt (comma ch) c.uuid srvc c.resourceId.toNat)) text).toList =
        (t ++ charsText srvc chars ch).take (size - 1) := by
  induction chars generalizing ch t text with
  | nil => rwa [charsText, List.append_nil]
  | cons c chars ih =>
    rw [List.zipIdx_cons, List.foldl_cons, ih (ch + 1) (toList_appendCut h _), charsText,
      List.append_assoc]

theorem toList_foldl_services {size : Nat} (services : List GattService) (srvc : Nat)
    {t : List Char} {text : String} (h : text.toList = t.take (size - 1)) :
    ((services.zipIdx srvc).foldl (fun text (s, srvc) =>
      let text := appendCut size text (jsonSrvcFmt (comma srvc) s.uuid srvc)
      let text := s.chars.zipIdx.foldl (fun text (c, ch) =>
        appendCut size text (jsonCharFmt (comma ch) c.uuid srvc c.resourceId.toNat)) text
      appendCut size text jsonArrayEnd) text).toList =
        (t ++ servicesText services srvc).take (size - 1) := by
  induction services generalizing srvc t text with
  | nil => rwa [servicesText, List.append_nil]
  | cons s services ih =>
    have hservice := toList_appendCut
      (toList_foldl_chars srvc s.chars 0 (toList_appendCut h (jsonSrvcFmt (comma srvc) s.uuid srvc)))
      jsonArrayEnd
    rw [List.zipIdx_cons, List.foldl_cons, ih (srvc + 1) hservice]
    simp only [servicesText, serviceText, List.append_assoc]

/-- the text of `Device.lean` is what the block keeps -/
theorem toList_jsonListDeviceServices (services : List GattService) :
    (jsonListDeviceServices services).toList =
      (referenceText services).take (jsonSize services - 1) := by
  have hstart : (cut (jsonSize services - 1) jsonDeviceFmt).toList =
      jsonDeviceFmt.toList.take (jsonSize services - 1) := by
    unfold cut
    rw [String.toList_ofList]
  exact toList_appendCut (toList_foldl_services services 0 hstart) jsonArrayEnd

/-! ## the budget of the formula -/

/-- the decimal digits of a number -/
def decimalDigits (n : Nat) : Nat := (toString n).length

/-- the UUIDs the formula has room for -/
structure IsUuidText (uuid : String) : Prop where
  length : uuid.length ≤ formattedUuidLen
  /-- it is a C string -/
  nul : nul ∉ uuid.toList
  plain : ∀ c ∈ uuid.toList, c ≠ '"' ∧ c ≠ '\\'

instance (uuid : String) : Decidable (IsUuidText uuid) :=
  decidable_of_iff (uuid.length ≤ formattedUuidLen ∧ Lib.CString.nul ∉ uuid.toList ∧
    uuid.toList.all (fun c => c ≠ '"' ∧ c ≠ '\\'))
    ⟨fun h => ⟨h.1, h.2.1, fun c hc => of_decide_eq_true (List.all_eq_true.mp h.2.2 c hc)⟩,
      fun h => ⟨h.length, h.nul, List.all_eq_true.mpr fun c hc => decide_eq_true (h.plain c hc)⟩⟩

/-- the devices the formula is made for -/
structure IntrospectionFits (services : List GattService) : Prop where
  uuids : ∀ s ∈ services, IsUuidText s.uuid ∧ ∀ c ∈ s.chars, IsUuidText c.uuid
  serviceDigits : ∀ srvc < services.length, decimalDigits srvc ≤ 4
  charDigits : ∀ (srvc : Nat) (s : GattService), services[srvc]? = some s → ∀ c ∈ s.chars,
    decimalDigits srvc + decimalDigits c.resourceId.toNat ≤ 8
  int : jsonSize services < 2 ^ 31

theorem length_comma_le (i : Nat) : (comma i).length ≤ 1 := by
  unfold comma
  split <;> decide

theorem length_jsonSrvcFmt (i : Nat) (uuid : String) (srvc : Nat) :
    (jsonSrvcFmt (comma i) uuid srvc).toList.length =
      (comma i).length + uuid.length + decimalDigits srvc + 47 := by
  have hoid : (toString ipsoOidBleService.toNat).length = 5 := by decide
  have h₁ : "\x7b\"uuid\":\"".length = 9 := by decide
  have h₂ : "\",\"path\":\"/".length = 11 := by decide
  have h₃ : "/".length = 1 := by decide
  have h₄ : "\",\"characteristics\":[".length = 21 := by decide
  rw [String.length_toList]
  simp only [jsonSrvcFmt, String.length_append, hoid, h₁, h₂, h₃, h₄]
  unfold decimalDigits
  omega

theorem length_jsonCharFmt (i : Nat) (uuid : String) (srvc resourceId : Nat) :
    (jsonCharFmt (comma i) uuid srvc resourceId).toList.length =
      (comma i).length + uuid.length + decimalDigits srvc + decimalDigits resourceId + 29 := by
  have hoid : (toString ipsoOidBleService.toNat).length = 5 := by decide
  have h₁ : "\x7b\"uuid\":\"".length = 9 := by decide
  have h₂ : "\",\"path\":\"/".length = 11 := by decide
  have h₃ : "/".length = 1 := by decide
  have h₄ : "\"\x7d".length = 2 := by decide
  rw [String.length_toList]
  simp only [jsonCharFmt, String.length_append, hoid, h₁, h₂, h₃, h₄]
  unfold decimalDigits
  omega

theorem length_jsonSrvcFmt_le {uuid : String} (huuid : uuid.length ≤ formattedUuidLen) (i : Nat)
    {srvc : Nat} (hdigits : decimalDigits srvc ≤ 4) :
    (jsonSrvcFmt (comma i) uuid srvc).toList.length + 2 ≤ jsonFormattedSrvcLen := by
  have hcomma := length_comma_le i
  rw [length_jsonSrvcFmt]
  unfold jsonFormattedSrvcLen
  omega

theorem length_jsonCharFmt_le {uuid : String} (huuid : uuid.length ≤ formattedUuidLen) (i : Nat)
    {srvc resourceId : Nat} (hdigits : decimalDigits srvc + decimalDigits resourceId ≤ 8) :
    (jsonCharFmt (comma i) uuid srvc resourceId).toList.length ≤ jsonFormattedCharLen := by
  have hcomma := length_comma_le i
  rw [length_jsonCharFmt]
  unfold jsonFormattedCharLen
  omega

theorem length_charsText_le {srvc : Nat} {chars : List GattChar}
    (huuid : ∀ c ∈ chars, c.uuid.length ≤ formattedUuidLen)
    (hdigits : ∀ c ∈ chars, decimalDigits srvc + decimalDigits c.resourceId.toNat ≤ 8) (ch : Nat) :
    (charsText srvc chars ch).length ≤ jsonFormattedCharLen * chars.length := by
  induction chars generalizing ch with
  | nil => exact Nat.le_refl _
  | cons c chars ih =>
    have hc := length_jsonCharFmt_le (huuid c (List.mem_cons_self ..)) ch
      (hdigits c (List.mem_cons_self ..))
    have hchars := ih (fun c' hc' => huuid c' (List.mem_cons_of_mem _ hc'))
      (fun c' hc' => hdigits c' (List.mem_cons_of_mem _ hc')) (ch + 1)
    rw [charsText, List.length_append, List.length_cons, Nat.mul_succ]
    omega

/-- a service and its characteristics stay within their part of the formula -/
theorem length_servicesText_le {services : List GattService} (srvc : Nat)
    (huuid : ∀ s ∈ services, s.uuid.length ≤ formattedUuidLen ∧
      ∀ c ∈ s.chars, c.uuid.length ≤ formattedUuidLen)
    (hservice : ∀ i < services.length, decimalDigits (srvc + i) ≤ 4)
    (hchar : ∀ (i : Nat) (s : GattService), services[i]? = some s → ∀ c ∈ s.chars,
      decimalDigits (srvc + i) + decimalDigits c.resourceId.toNat ≤ 8) :
    (servicesText services srvc).length ≤ jsonFormattedSrvcLen * services.length
      + jsonFormattedCharLen * (services.map fun s => s.chars.length).sum := by
  induction services generalizing srvc with
  | nil => exact Nat.zero_le _
  | cons s services ih =>
    obtain ⟨hu, huchars⟩ := huuid s (List.mem_cons_self ..)
    have hs : (jsonSrvcFmt (comma srvc) s.uuid srvc).toList.length + 2 ≤ _ :=
      length_jsonSrvcFmt_le hu srvc (hservice 0 (Nat.succ_pos _))
    have hchars : (charsText srvc s.chars 0).length ≤ _ :=
      length_charsText_le huchars (hchar 0 s rfl) 0
    have hend : jsonArrayEnd.toList.length = 2 := by decide
    have hrest := ih (srvc + 1) (fun s' hs' => huuid s' (List.mem_cons_of_mem _ hs'))
      (fun i hi => by
        have hnext := hservice (i + 1) (Nat.succ_lt_succ hi)
        rwa [← Nat.add_assoc, Nat.add_right_comm] at hnext)
      (fun i s' hs' c hc => by
        have hnext := hchar (i + 1) s' hs' c hc
        rwa [← Nat.add_assoc, Nat.add_right_comm] at hnext)
    simp only [servicesText, serviceText, List.length_append, List.length_cons, List.map_cons,
      List.sum_cons, Nat.mul_succ, Nat.mul_add, hend]
    omega

/-- **The formula has room** for the text and the character that ends it. -/
theorem length_referenceText_lt {services : List GattService} (h : IntrospectionFits services) :
    (referenceText services).length < jsonSize services := by
  have hservices := length_servicesText_le 0
    (fun s hs => ⟨(h.uuids s hs).1.length, fun c hc => ((h.uuids s hs).2 c hc).length⟩)
    (fun i hi => by rw [Nat.zero_add]; exact h.serviceDigits i hi)
    (fun i s hs c hc => by rw [Nat.zero_add]; exact h.charDigits i s hs c hc)
  have hstart : jsonDeviceFmt.toList.length = 13 := by decide
  have hend : jsonArrayEnd.toList.length = 2 := by decide
  rw [referenceText, List.length_append, List.length_append, hstart, hend]
  unfold jsonSize jsonFormattedDevLen
  omega

theorem IntrospectionFits.cStrings {services : List GattService} (h : IntrospectionFits services) :
    CStrings services :=
  fun s hs => ⟨(h.uuids s hs).1.nul, fun c hc => ((h.uuids s hs).2 c hc).nul⟩

/-! ## the JSON value -/

/-- `/18135/<service>` -/
def servicePathText (srvc : Nat) : String :=
  "/" ++ toString ipsoOidBleService.toNat ++ "/" ++ toString srvc

/-- `/18135/<service>/<resource>` -/
def charPathText (srvc resourceId : Nat) : String :=
  servicePathText srvc ++ "/" ++ toString resourceId

def charDocument (srvc : Nat) (c : GattChar) : Json Empty :=
  .object [("uuid", .string c.uuid), ("path", .string (charPathText srvc c.resourceId.toNat))]

def serviceDocument (s : GattService) (srvc : Nat) : Json Empty :=
  .object [("uuid", .string s.uuid), ("path", .string (servicePathText srvc)),
    ("characteristics", .array (s.chars.map (charDocument srvc)))]

def jsonDocument (services : List GattService) : Json Empty :=
  .object [("services", .array (services.zipIdx.map fun (s, srvc) => serviceDocument s srvc))]

theorem toList_jsonCharFmt (i : Nat) (srvc : Nat) (c : GattChar) :
    (jsonCharFmt (comma i) c.uuid srvc c.resourceId.toNat).toList =
      (comma i).toList ++ (charDocument srvc c).text := by
  simp [jsonCharFmt, charDocument, Json.text, Json.membersText, Json.quoted, charPathText,
    servicePathText, String.toList_append]

theorem toList_comma_zero : (comma 0).toList = [] := by decide

theorem toList_comma_succ (i : Nat) : (comma (i + 1)).toList = [','] := by
  rw [comma, if_pos (Nat.succ_pos i)]
  decide

/-- the characteristics after the first one -/
theorem charsText_succ (srvc : Nat) (chars : List GattChar) (ch : Nat) (rest : List Char) :
    charsText srvc chars (ch + 1) ++ ']' :: rest =
      Json.itemsText (chars.map (charDocument srvc)) ++ rest := by
  induction chars generalizing ch with
  | nil => rfl
  | cons c chars ih =>
    rw [charsText, toList_jsonCharFmt, toList_comma_succ, List.append_assoc, ih (ch + 1),
      List.map_cons, Json.itemsText]
    simp only [List.append_assoc, List.cons_append, List.nil_append]

theorem charsText_zero (srvc : Nat) (chars : List GattChar) (rest : List Char) :
    '[' :: (charsText srvc chars 0 ++ ']' :: rest) =
      (Json.array (chars.map (charDocument srvc))).text ++ rest := by
  cases chars with
  | nil => rfl
  | cons c chars =>
    rw [charsText, toList_jsonCharFmt, toList_comma_zero, List.append_assoc,
      charsText_succ srvc chars 0, List.map_cons, Json.text]
    simp only [List.append_assoc, List.cons_append, List.nil_append]

theorem serviceText_eq (s : GattService) (srvc : Nat) :
    serviceText s srvc = (comma srvc).toList ++ (serviceDocument s srvc).text := by
  have hchars := charsText_zero srvc s.chars ['\x7d']
  have hend : jsonArrayEnd.toList = [']', '\x7d'] := by decide
  rw [serviceText, hend]
  simp only [serviceDocument, Json.text, Json.membersText]
  rw [← hchars]
  simp [jsonSrvcFmt, Json.quoted, servicePathText, String.toList_append]

/-- the services after the first one -/
theorem servicesText_succ (services : List GattService) (srvc : Nat) (rest : List Char) :
    servicesText services (srvc + 1) ++ ']' :: rest =
      Json.itemsText ((services.zipIdx (srvc + 1)).map fun (s, srvc) => serviceDocument s srvc)
        ++ rest := by
  induction services generalizing srvc with
  | nil => rfl
  | cons s services ih =>
    rw [servicesText, serviceText_eq, toList_comma_succ, List.append_assoc, ih (srvc + 1),
      List.zipIdx_cons, List.map_cons, Json.itemsText]
    simp only [List.append_assoc, List.cons_append, List.nil_append]

/-- **The reference text is the text of the JSON value.** -/
theorem referenceText_eq (services : List GattService) :
    referenceText services = (jsonDocument services).text := by
  have hstart : jsonDeviceFmt.toList = '\x7b' :: (Json.quoted "services" ++ [':', '[']) := by decide
  have hend : jsonArrayEnd.toList = [']', '\x7d'] := by decide
  rw [referenceText, hstart, hend, jsonDocument, Json.text, Json.membersText]
  cases services with
  | nil => rfl
  | cons s services =>
    have hservices := servicesText_succ services 0 ['\x7d']
    rw [servicesText, serviceText_eq, toList_comma_zero, List.zipIdx_cons, List.map_cons, Json.text]
    simp only [List.append_assoc, List.cons_append, List.nil_append] at hservices ⊢
    rw [hservices]

/-! ## reading the value back -/

/-- the UUID and the path of a service or a characteristic -/
def readEntry (j : Json Empty) : Option (String × String) :=
  ((j.get "uuid").bind Json.string?).bind fun uuid =>
    ((j.get "path").bind Json.string?).map fun path => (uuid, path)

def readService (j : Json Empty) : Option ((String × String) × List (String × String)) :=
  (readEntry j).bind fun entry =>
    (j.get "characteristics").bind fun chars =>
      (chars.items.mapM readEntry).map fun chars => (entry, chars)

/-- the services of an introspection text, each with its characteristics -/
def readDocument (j : Json Empty) :
    Option (List ((String × String) × List (String × String))) :=
  (j.get "services").bind fun services => services.items.mapM readService

/-- the UUIDs and the paths of a table -/
def introspectionEntries (services : List GattService) :
    List ((String × String) × List (String × String)) :=
  services.zipIdx.map fun (s, srvc) => ((s.uuid, servicePathText srvc),
    s.chars.map fun c => (c.uuid, charPathText srvc c.resourceId.toNat))

theorem mapM_map_of_some {α β γ : Type} {f : β → Option γ} {g : α → β} {g' : α → γ}
    (h : ∀ a, f (g a) = some (g' a)) (l : List α) : (l.map g).mapM f = some (l.map g') := by
  have hcomp : f ∘ g = fun a => pure (g' a) := funext h
  rw [List.mapM_map, hcomp, List.mapM_pure]
  rfl

theorem readService_serviceDocument (s : GattService) (srvc : Nat) :
    readService (serviceDocument s srvc) = some ((s.uuid, servicePathText srvc),
      s.chars.map fun c => (c.uuid, charPathText srvc c.resourceId.toNat)) := by
  have hchars := mapM_map_of_some (f := readEntry) (g := charDocument srvc) (fun _ => rfl) s.chars
  show ((s.chars.map (charDocument srvc)).mapM readEntry).map _ = _
  rw [hchars, Option.map_some]

theorem readDocument_jsonDocument (services : List GattService) :
    readDocument (jsonDocument services) = some (introspectionEntries services) :=
  mapM_map_of_some (fun (s, srvc) => readService_serviceDocument s srvc) services.zipIdx

/-! ## the text can be parsed -/

/-- the characters that stand for themselves in a JSON string -/
def jsonUnescaped (c : Char) : Bool := decide (' ' ≤ c) && decide (c ≠ '"') && decide (c ≠ '\\')

/-- the same, with the control characters -/
def jsonUnescapedOrControl (c : Char) : Bool := decide (c ≠ '"') && decide (c ≠ '\\')

/-- a class of characters that has the graphic ones -/
def HasGraphic (plain : Char → Bool) : Prop := ∀ c, jsonUnescaped c = true → plain c = true

section
variable {plain : Char → Bool}

theorem isPlainString_of_unescaped (h : HasGraphic plain) {s : String}
    (hs : s.toList.all jsonUnescaped = true) : Json.IsPlainString plain s := by
  intro c hc
  have hgraphic := List.all_eq_true.mp hs c hc
  refine ⟨?_, h c hgraphic⟩
  unfold jsonUnescaped at hgraphic
  simp only [Bool.and_eq_true, decide_eq_true_eq] at hgraphic
  exact hgraphic.1.2

theorem jsonUnescaped_toString (n : Nat) : (toString n).toList.all jsonUnescaped = true := by
  refine List.all_eq_true.mpr ?_
  intro c hc
  have hdigits : c ∈ Nat.toDigits 10 n := by simpa using hc
  have hdigit : 48 ≤ c.toNat ∧ c.toNat ≤ 57 :=
    Char.isDigit_iff_toNat.mp (Nat.isDigit_of_mem_toDigits (by decide) (by decide) hdigits)
  have hspace : ' ' ≤ c := by
    show 32 ≤ c.toNat
    omega
  have hquote : c ≠ '"' := by
    rintro rfl
    exact absurd hdigit.1 (by decide)
  have hbackslash : c ≠ '\\' := by
    rintro rfl
    exact absurd hdigit.2 (by decide)
  simp [jsonUnescaped, hspace, hquote, hbackslash]

theorem jsonUnescaped_servicePathText (srvc : Nat) :
    (servicePathText srvc).toList.all jsonUnescaped = true := by
  have hslash : "/".toList.all jsonUnescaped = true := by decide
  simp only [servicePathText, String.toList_append, List.all_append, hslash,
    jsonUnescaped_toString, Bool.and_self]

theorem jsonUnescaped_charPathText (srvc resourceId : Nat) :
    (charPathText srvc resourceId).toList.all jsonUnescaped = true := by
  have hslash : "/".toList.all jsonUnescaped = true := by decide
  simp only [charPathText, String.toList_append, List.all_append, hslash,
    jsonUnescaped_servicePathText, jsonUnescaped_toString, Bool.and_self]

/-- the UUIDs of a table can stand in JSON strings -/
def UuidsPlain (plain : Char → Bool) (services : List GattService) : Prop :=
  ∀ s ∈ services, Json.IsPlainString plain s.uuid ∧
    ∀ c ∈ s.chars, Json.IsPlainString plain c.uuid

theorem isPlain_charDocuments (h : HasGraphic plain) (srvc : Nat) {chars : List GattChar}
    (huuid : ∀ c ∈ chars, Json.IsPlainString plain c.uuid) :
    Json.ItemsPlain plain (chars.map (charDocument srvc)) := by
  induction chars with
  | nil => trivial
  | cons c chars ih =>
    refine ⟨⟨isPlainString_of_unescaped h (by decide), huuid c (List.mem_cons_self ..),
      isPlainString_of_unescaped h (by decide), ?_, trivial⟩,
      ih fun c' hc' => huuid c' (List.mem_cons_of_mem _ hc')⟩
    exact isPlainString_of_unescaped h (jsonUnescaped_charPathText srvc _)

theorem isPlain_serviceDocuments (h : HasGraphic plain) (srvc : Nat) {services : List GattService}
    (huuid : UuidsPlain plain services) :
    Json.ItemsPlain plain
      ((services.zipIdx srvc).map fun (s, srvc) => serviceDocument s srvc) := by
  induction services generalizing srvc with
  | nil => trivial
  | cons s services ih =>
    obtain ⟨hs, hchars⟩ := huuid s (List.mem_cons_self ..)
    refine ⟨⟨isPlainString_of_unescaped h (by decide), hs, isPlainString_of_unescaped h (by decide),
      ?_, isPlainString_of_unescaped h (by decide), ?_, trivial⟩,
      ih (srvc + 1) fun s' hs' => huuid s' (List.mem_cons_of_mem _ hs')⟩
    · exact isPlainString_of_unescaped h (jsonUnescaped_servicePathText srvc)
    · exact isPlain_charDocuments h srvc hchars

theorem parse_referenceText (h : HasGraphic plain) {services : List GattService}
    (huuid : UuidsPlain plain services) :
    Json.parse plain (referenceText services) = some (jsonDocument services) := by
  rw [referenceText_eq]
  exact Json.parse_text
    ⟨isPlainString_of_unescaped h (by decide), isPlain_serviceDocuments h 0 huuid, trivial⟩

end

/-- **The introspection text is complete.**  Nothing is cut off, nothing is written outside of the
block, and the text in it is the JSON text of all services and characteristics; it is well formed
also where a JSON text may not have control characters, if the UUIDs have none. -/
theorem jsonListDeviceServices_complete {services : List GattService}
    (hfits : IntrospectionFits services) {malloc : (size : Nat) → Option (Allocated size)}
    (hmalloc : (malloc (jsonSize services)).isSome) :
    ∃ p, jsonListDeviceServicesIn malloc services = some (some p) ∧
      p.cutOff = false ∧ p.block.length = jsonSize services ∧
      Holds p.block (referenceText services) ∧
      (jsonListDeviceServices services).toList = referenceText services ∧
      Json.parse jsonUnescapedOrControl (referenceText services) = some (jsonDocument services) ∧
      (UuidsPlain jsonUnescaped services →
        Json.parse jsonUnescaped (referenceText services) = some (jsonDocument services)) ∧
      readDocument (jsonDocument services) = some (introspectionEntries services) := by
  obtain ⟨p, hp, hprinted⟩ := printed_referenceText hfits.cStrings hfits.int hmalloc
  have hlt := length_referenceText_lt hfits
  have htake : (referenceText services).take (jsonSize services - 1) = referenceText services :=
    List.take_of_length_le (by omega)
  have hcontrol : HasGraphic jsonUnescapedOrControl := by
    intro c hc
    unfold jsonUnescaped at hc
    unfold jsonUnescapedOrControl
    simp only [Bool.and_eq_true] at hc ⊢
    exact ⟨hc.1.2, hc.2⟩
  have hplain : ∀ {uuid : String}, IsUuidText uuid →
      Json.IsPlainString jsonUnescapedOrControl uuid := by
    intro uuid huuid c hc
    obtain ⟨hquote, hbackslash⟩ := huuid.plain c hc
    exact ⟨hquote, by simp [jsonUnescapedOrControl, hquote, hbackslash]⟩
  refine ⟨p, hp, ?_, hprinted.length, ?_, ?_, parse_referenceText hcontrol ?_,
    parse_referenceText fun c hc => hc, readDocument_jsonDocument services⟩
  · rw [hprinted.cutOff]
    exact decide_eq_false (by omega)
  · have hholds := hprinted.holds
    rwa [htake] at hholds
  · rw [toList_jsonListDeviceServices, htake]
  · exact fun s hs => ⟨hplain (hfits.uuids s hs).1, fun c hc => hplain ((hfits.uuids s hs).2 c hc)⟩

/-- a service with two characteristics and one with a third -/
def introspectedServices : List GattService :=
  (deviceAddGattCharacteristic
    (deviceAddGattCharacteristic
      (deviceAddGattCharacteristic (deviceCreate 0 0 "00:00:00:00:00:00")
        "0000180a-0000-1000-8000-00805f9b34fb" "/s0" "00002a29-0000-1000-8000-00805f9b34fb"
        "/s0/c0" 1)
      "0000180f-0000-1000-8000-00805f9b34fb" "/s1" "00002a19-0000-1000-8000-00805f9b34fb"
      "/s1/c0" 1)
    "0000180a-0000-1000-8000-00805f9b34fb" "/s0" "00002a24-0000-1000-8000-00805f9b34fb"
    "/s0/c1" 1).services

/-- a `malloc` that always has a block, without a character that ends a string -/
def filledMalloc (size : Nat) : Option (Allocated size) :=
  some ⟨List.replicate size 'x', List.length_replicate⟩

theorem introspectedServices_fits : IntrospectionFits introspectedServices where
  uuids := by decide +kernel
  serviceDigits := by decide +kernel
  charDigits := by
    intro srvc s hs
    match srvc, hs with
    | 0, rfl => decide +kernel
    | 1, rfl => decide +kernel
  int := by decide +kernel

theorem jsonListDeviceServices_complete_twoServices :
    ∃ p, jsonListDeviceServicesIn filledMalloc introspectedServices = some (some p) ∧
      p.cutOff = false ∧ Holds p.block (referenceText introspectedServices) := by
  have hmalloc : (filledMalloc (jsonSize introspectedServices)).isSome := rfl
  obtain ⟨p, hp, hcut, -, hholds, -⟩ :=
    jsonListDeviceServices_complete introspectedServices_fits hmalloc
  exact ⟨p, hp, hcut, hholds⟩

end EdgeTranslators.Ble
