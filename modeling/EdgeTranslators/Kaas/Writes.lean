import EdgeTranslators.Kaas.Connection

/-!
# The frames that change the database

A frame of Edge Core is untyped JSON.  The reader narrows the members of a write call with casts and
defaults, and the consumer looks at what is left of them.

* `consumeFrame`      a frame goes through the reader and the consumer;
* `Genuine`           an on/off write as it is sent for a light;
* `Accepted`          the frames that change a row, by the members as they are narrowed;
* `Plain`             no member of the call is changed or ignored on the way;
* `onlyGenuine_iff`   a frame that changes a row is genuine, exactly if it is plain when accepted.
-/

namespace EdgeTranslators.Kaas
open Lib

/-- the `uri`, the `value` and the `operation` of a write call -/
structure WriteMembers (ν : Type) where
  uri : Json ν
  valueB64 : Json ν
  op : Json ν

section
variable {ν : Type} (r : Serde ν)

def writeMembers? (frame : Json ν) : Option (WriteMembers ν) :=
  if method? frame = some "write" then do
    let params ← frame.get "params"
    let uri ← params.get "uri"
    let valueB64 ← params.get "value"
    let op ← params.get "operation"
    return { uri, valueB64, op }
  else none

namespace WriteMembers

/-- an id as it is sent -/
def id? (m : WriteMembers ν) (key : String) : Option Nat := (m.uri.get key).bind (u64? r)

/-- an id as it is narrowed, before the cast to sixteen bits -/
def id (m : WriteMembers ν) (key : String) : Nat := (m.id? r key).getD 0

/-- the text that is decoded -/
def text (m : WriteMembers ν) : String := m.valueB64.string?.getD ""

/-- the operation has the bit of a write -/
def writes (m : WriteMembers ν) : Prop := ∃ n, u64? r m.op = some n ∧ n.testBit 1 = true

/-- the value is a string that stands for at least one byte -/
def hasByte (m : WriteMembers ν) : Prop :=
  ∃ s bytes, m.valueB64 = .string s ∧ base64Decode s = some bytes ∧ bytes ≠ []

end WriteMembers

/-- what a text frame does to the table, when the channel has room for its event -/
def consumeFrame (now : Nat) (frame : Json ν) (devices : List (Device ν)) : List (Device ν) :=
  if method? frame = some "write" then
    match writeEvent? r frame with
    | some event => applyWriteEvent now event devices
    | none => devices
  else devices

/-- an on/off write of a light, as it is sent -/
def Genuine (frame : Json ν) : Prop :=
  ∃ m, writeMembers? frame = some m ∧ m.id? r "objectId" = some 3311 ∧
    m.id? r "objectInstanceId" = some 0 ∧ m.id? r "resourceId" = some 5850 ∧ m.writes r ∧ m.hasByte

/-- the ids are those of an on/off value after the casts, and the text can be decoded -/
def Accepted (frame : Json ν) : Prop :=
  ∃ m, writeMembers? frame = some m ∧ m.id r "objectId" % 2 ^ 16 = 3311 ∧
    m.id r "resourceId" % 2 ^ 16 = 5850 ∧ (base64Decode m.text).isSome

/-- the ids fit into sixteen bits, the instance is 0, and neither the operation nor the value is
something else -/
def Plain (frame : Json ν) : Prop :=
  ∀ m ∈ writeMembers? frame, m.id r "objectId" < 2 ^ 16 ∧ m.id r "resourceId" < 2 ^ 16 ∧
    m.id? r "objectInstanceId" = some 0 ∧ m.writes r ∧ m.hasByte

section
variable {r} {frame : Json ν} {m : WriteMembers ν}

/-- the event of a write call -/
theorem writeEvent?_eq (hwrite : method? frame = some "write") :
    writeEvent? r frame = (writeMembers? frame).map fun m =>
      { deviceId := ((m.uri.get "deviceId").bind Json.string?).getD ""
        objectId := .ofNat (m.id r "objectId")
        objectInstanceId := .ofNat (m.id r "objectInstanceId")
        resourceId := .ofNat (m.id r "resourceId")
        valueBase64 := m.text
        operation := .ofNat ((u64? r m.op).getD 0) } := by
  unfold writeMembers? writeEvent?
  rw [if_pos hwrite]
  cases frame.get "params" with
  | none => rfl
  | some params =>
    simp only [Option.bind_eq_bind, Option.bind_some]
    cases params.get "uri" with
    | none => rfl
    | some uri =>
      simp only [Option.bind_some]
      cases params.get "value" with
      | none => rfl
      | some valueB64 =>
        simp only [Option.bind_some]
        cases params.get "operation" with
        | none => rfl
        | some op => rfl

theorem ofNat_eq_iff {n : Nat} {id : UInt16} : UInt16.ofNat n = id ↔ n % 2 ^ 16 = id.toNat := by
  rw [← UInt16.toNat_inj, UInt16.toNat_ofNat']

/-- **What a frame does to the table.** -/
theorem consumeFrame_cases :
    (¬Accepted r frame ∧ ∀ now devices, consumeFrame r now frame devices = devices) ∨
    (Accepted r frame ∧ ∃ deviceId bytes, ∀ now devices, consumeFrame r now frame devices =
      devices.map fun device =>
        if nameMatches deviceId device.name then device.switched now (isOn bytes) else device) := by
  by_cases hwrite : method? frame = some "write"
  · have hdef : ∀ now devices, consumeFrame r now frame devices =
        match writeEvent? r frame with
        | some event => applyWriteEvent now event devices
        | none => devices := fun _ _ => if_pos hwrite
    simp only [hdef]
    rw [writeEvent?_eq hwrite]
    unfold Accepted
    cases hmembers : writeMembers? frame with
    | none =>
      refine .inl ⟨?_, fun _ _ => rfl⟩
      intro ⟨m, hsome, _⟩
      cases hsome
    | some m =>
      simp only [Option.map_some, Option.some.injEq, exists_eq_left']
      unfold applyWriteEvent
      by_cases hids : m.id r "objectId" % 2 ^ 16 = 3311 ∧ m.id r "resourceId" % 2 ^ 16 = 5850
      · have hcasts : UInt16.ofNat (m.id r "objectId") = lightControl ∧
            UInt16.ofNat (m.id r "resourceId") = onOffValue :=
          ⟨ofNat_eq_iff.mpr hids.1, ofNat_eq_iff.mpr hids.2⟩
        unfold Device.written
        simp only [if_pos hcasts]
        cases hbytes : base64Decode m.text with
        | none =>
          refine .inl ⟨?_, fun _ devices => List.map_id devices⟩
          intro ⟨_, _, hsome⟩
          cases hsome
        | some bytes => exact .inr ⟨⟨hids.1, hids.2, rfl⟩, _, bytes, fun _ _ => rfl⟩
      · have hcasts : ¬(UInt16.ofNat (m.id r "objectId") = lightControl ∧
            UInt16.ofNat (m.id r "resourceId") = onOffValue) := fun h =>
          hids ⟨ofNat_eq_iff.mp h.1, ofNat_eq_iff.mp h.2⟩
        unfold Device.written
        simp only [if_neg hcasts]
        exact .inl ⟨fun h => hids ⟨h.1, h.2.1⟩, fun _ devices => List.map_id devices⟩
  · refine .inl ⟨?_, fun _ _ => if_neg hwrite⟩
    intro ⟨m, hmembers, _⟩
    unfold writeMembers? at hmembers
    rw [if_neg hwrite] at hmembers
    cases hmembers

/-- **The frames that change a row of some table are those that are accepted.** -/
theorem changes_iff :
    (∃ now devices, consumeFrame r now frame devices ≠ devices) ↔ Accepted r frame := by
  rcases @consumeFrame_cases ν r frame with ⟨hno, hsame⟩ | ⟨haccepted, deviceId, bytes, heq⟩
  · refine iff_of_false ?_ hno
    intro ⟨now, devices, hchanged⟩
    exact hchanged (hsame now devices)
  · refine iff_of_true ?_ haccepted
    -- the row of the device, which was never updated before
    let device : Device ν :=
      { id := 0, name := deviceId, deviceType := .lightBulb, state := .null, createdAt := 0,
        updatedAt := 0 }
    refine ⟨1, [device], ?_⟩
    have hname : nameMatches deviceId device.name = true := decide_eq_true (.inl rfl)
    rw [heq, List.map_singleton, if_pos hname]
    intro hsame
    have htime := congrArg Device.updatedAt (List.singleton_inj.mp hsame)
    cases htime

/-- an accepted frame is genuine exactly when it is plain -/
theorem Accepted.genuine_iff (h : Accepted r frame) : Genuine r frame ↔ Plain r frame := by
  obtain ⟨m, hmembers, hobject, hresource, -⟩ := h
  have hexact : ∀ {key : String} {n : Nat}, 0 < n → m.id r key % 2 ^ 16 = n →
      (m.id? r key = some n ↔ m.id r key < 2 ^ 16) := by
    intro key n hpos hmod
    unfold WriteMembers.id at hmod ⊢
    constructor
    · intro hid
      rw [hid, Option.getD_some] at hmod ⊢
      omega
    · intro hlt
      rw [Nat.mod_eq_of_lt hlt] at hmod
      cases hid : m.id? r key with
      | none =>
        rw [hid, Option.getD_none] at hmod
        omega
      | some n' =>
        rw [hid, Option.getD_some] at hmod
        rw [hmod]
  unfold Genuine Plain
  rw [hmembers]
  simp only [Option.some.injEq, exists_eq_left', Option.mem_def, forall_eq']
  rw [hexact (by decide) hobject, hexact (by decide) hresource]
  constructor
  · intro ⟨h₁, h₂, h₃, h₄⟩
    exact ⟨h₁, h₃, h₂, h₄⟩
  · intro ⟨h₁, h₂, h₃, h₄⟩
    exact ⟨h₁, h₃, h₂, h₄⟩

/-- **A frame updates a row only if it is a genuine on/off write, exactly when it is not accepted,
or is plain.** -/
theorem onlyGenuine_iff (r : Serde ν) (frame : Json ν) :
    (∀ now devices, consumeFrame r now frame devices ≠ devices → Genuine r frame) ↔
      (Accepted r frame → Plain r frame) := by
  rw [← changes_iff]
  constructor
  · intro hgenuine ⟨now, devices, hchanged⟩
    exact (changes_iff.mp ⟨now, devices, hchanged⟩).genuine_iff.mp (hgenuine now devices hchanged)
  · intro hplain now devices hchanged
    have haccepted := changes_iff.mp ⟨now, devices, hchanged⟩
    exact haccepted.genuine_iff.mpr (hplain ⟨now, devices, hchanged⟩)

end
end

/-- the library on ASCII characters, with numbers that are not negative -/
def asciiNumbers : Serde Nat :=
  { isAlphanumeric := Char.isAlphanum, fromF64 := id, toBeBytes := fun _ => [],
    toText := fun _ => "", underscore := ascii.underscore, space := ascii.space, asU64 := some,
    ofU64 := id }

/-- a write whose object id is 65536 too large -/
def wrappedWrite : Json Nat :=
  .object [
    ("method", .string "write"),
    ("params", .object [
      ("operation", .number 2),
      ("uri", .object [("deviceId", .string "Kitchen_Switch"), ("objectId", .number 68847),
        ("objectInstanceId", .number 0), ("resourceId", .number 5850)]),
      ("value", .string "AQ==")])]

theorem not_onlyGenuine : ¬∀ frame now devices,
    consumeFrame asciiNumbers now frame devices ≠ devices → Genuine asciiNumbers frame := by
  intro h
  have haccepted : Accepted asciiNumbers wrappedWrite :=
    ⟨_, rfl, by decide, by decide, by decide +kernel⟩
  obtain ⟨now, devices, hchanged⟩ := changes_iff.mpr haccepted
  obtain ⟨m, hmembers, hobject, -⟩ := h wrappedWrite now devices hchanged
  cases hmembers
  exact absurd hobject (by decide)

end EdgeTranslators.Kaas
