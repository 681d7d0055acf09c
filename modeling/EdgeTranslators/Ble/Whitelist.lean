import EdgeTranslators.Ble.Device
import EdgeTranslators.Lib.Json
import EdgeTranslators.Lib.Tokens
import Mathlib.Data.List.Forall2

/-!
# The white list of `--extended-discovery-file` (`pt_ble.c`)

* `deviceConfListRead`                 the list that is read from the file;
* `bleIdentifyDeviceUsingWhitelist`    the devices that it lets the translator connect to;
* `Lists`                              the document is a list of these entries;
* `WhitelistExact`, `whitelistExact_iff`   the list is read as the document has it exactly when its
                                       member `whitelisted-devices` is an array, if it is there.
-/

namespace EdgeTranslators.Ble
open Lib

structure DeviceConfEntry where
  partialMatch : Bool
  name : String
  deriving DecidableEq, Repr

section
variable {ν : Type} (integer : ν → Option Int)

/-! ## reading -/

/-- an entry of the list; `none` goes to `error_exit`.  `integer` is `json_is_integer` and
`json_integer_value` of a number. -/
def readConfEntry (entry : Json ν) : Option DeviceConfEntry :=
  match entry.get "name" with
  | some (.string name) =>
    match entry.get "partial-match" with
    | none => some { partialMatch := true, name }
    | some (.number n) => (integer n).map fun (i : Int) => { partialMatch := i ≠ 0, name }
    | some _ => none
  | _ => none

/-- the loop of `device_conf_list_read`; `json_array_foreach` takes a value that is no array for an
empty one -/
def readConfEntries : List (Json ν) → (list : List DeviceConfEntry) → Option (List DeviceConfEntry)
  | [], list => some list
  | entry :: entries, list =>
    match readConfEntry integer entry with
    | none => none
    | some conf => readConfEntries entries (list ++ [conf])

/-- `device_conf_list_read`, with what `edge_read_file` reads and how `json_loads` parses it; `none`
is NULL -/
def deviceConfListRead (file : Option String) (jsonLoads : String → Option (Json ν)) :
    Option (List DeviceConfEntry) :=
  match file with
  | none => none
  | some data =>
    match jsonLoads data with
    | none => none
    | some json =>
      match json.get "whitelisted-devices" with
      | none => none
      | some devices => readConfEntries integer devices.items []

/-! ## matching -/

/-- `ble_identify_device_using_whitelist`; `name` is the cached property `Name`, if that is a
string -/
def bleIdentifyDeviceUsingWhitelist (whiteListEntries : Option (List DeviceConfEntry))
    (name : Option String) : BleDeviceType :=
  match name, whiteListEntries with
  | some name, some entries =>
    if entries.any fun entry =>
      if entry.partialMatch then (strstr name.toList entry.name.toList).isSome
      else decide (entry.name = name)
    then .persistentGattServer
    else .unknown
  | _, _ => .unknown

/-! ## what is documented -/

/-- an item of the array is an entry -/
structure IsEntry (item : Json ν) (entry : DeviceConfEntry) : Prop where
  name : item.get "name" = some (.string entry.name)
  partialMatch :
    (item.get "partial-match" = none ∧ entry.partialMatch = true) ∨
      ∃ n i, item.get "partial-match" = some (.number n) ∧ integer n = some i ∧
        (entry.partialMatch = true ↔ i ≠ 0)

/-- the document has an array of these entries -/
def Lists (json : Json ν) (entries : List DeviceConfEntry) : Prop :=
  ∃ items, json.get "whitelisted-devices" = some (.array items) ∧
    List.Forall₂ (IsEntry integer) items entries

/-- the list of a document is read, and applied to the names of devices, as it is documented -/
structure WhitelistExact (json : Json ν) : Prop where
  read : ∀ (data : String) (jsonLoads : String → Option (Json ν)) (entries : List DeviceConfEntry),
    jsonLoads data = some json →
      (deviceConfListRead integer (some data) jsonLoads = some entries ↔
        Lists integer json entries)
  identify : ∀ (data : String) (jsonLoads : String → Option (Json ν))
    (entries : List DeviceConfEntry), jsonLoads data = some json →
    deviceConfListRead integer (some data) jsonLoads = some entries →
      ∀ name : String, bleIdentifyDeviceUsingWhitelist (some entries) (some name) ≠ .unknown ↔
        ∃ entry ∈ entries, entry.name = name ∨
          (entry.partialMatch = true ∧ entry.name.toList <:+: name.toList)

section
variable {integer} {json item : Json ν} {entry : DeviceConfEntry} {entries : List DeviceConfEntry}

theorem readConfEntry_eq_some :
    readConfEntry integer item = some entry ↔ IsEntry integer item entry := by
  obtain ⟨partialMatch, name⟩ := entry
  unfold readConfEntry
  constructor
  · intro h
    split at h
    · rename_i name' hname
      split at h
      · rename_i hpart
        obtain ⟨rfl, rfl⟩ := DeviceConfEntry.mk.inj (Option.some.inj h)
        exact ⟨hname, .inl ⟨hpart, rfl⟩⟩
      · rename_i n hpart
        obtain ⟨i, hi, heq⟩ := Option.map_eq_some_iff.mp h
        obtain ⟨rfl, rfl⟩ := DeviceConfEntry.mk.inj heq
        exact ⟨hname, .inr ⟨n, i, hpart, hi, decide_eq_true_iff⟩⟩
      · cases h
    · cases h
  · intro ⟨hname, hpart⟩
    rw [hname]
    rcases hpart with ⟨hnone, rfl⟩ | ⟨n, i, hsome, hi, hmatch⟩
    · rw [hnone]
    · have heq : decide (i ≠ 0) = partialMatch := by
        rw [Bool.eq_iff_iff, decide_eq_true_iff]
        exact hmatch.symm
      rw [hsome]
      simp only [hi, Option.map_some, heq]

theorem readConfEntries_eq_some (items : List (Json ν)) (list : List DeviceConfEntry) :
    readConfEntries integer items list = some entries ↔
      ∃ confs, entries = list ++ confs ∧ List.Forall₂ (IsEntry integer) items confs := by
  induction items generalizing list with
  | nil =>
    unfold readConfEntries
    constructor
    · intro h
      exact ⟨[], by rw [List.append_nil, Option.some.inj h], .nil⟩
    · intro ⟨confs, heq, hall⟩
      cases hall
      rw [heq, List.append_nil]
  | cons item items ih =>
    have hentry := @readConfEntry_eq_some ν integer item
    unfold readConfEntries
    cases hread : readConfEntry integer item with
    | none =>
      refine iff_of_false nofun ?_
      intro ⟨confs, _, hall⟩
      cases hall with
      | cons hfirst _ =>
        rw [hentry.mpr hfirst] at hread
        cases hread
    | some conf =>
      simp only
      rw [ih]
      constructor
      · intro ⟨confs, heq, hall⟩
        exact ⟨conf :: confs, by rw [heq, List.append_assoc]; rfl, .cons (hentry.mp hread) hall⟩
      · intro ⟨confs, heq, hall⟩
        cases hall with
        | @cons _ conf' _ confs hfirst hrest =>
          obtain rfl := Option.some.inj (hread.symm.trans (hentry.mpr hfirst))
          exact ⟨confs, by rw [heq, List.append_assoc]; rfl, hrest⟩

/-- **What is read of a document**: an array is read as it is, and any other value as an empty
one. -/
theorem deviceConfListRead_eq_some {data : String} {jsonLoads : String → Option (Json ν)}
    (h : jsonLoads data = some json) :
    deviceConfListRead integer (some data) jsonLoads = some entries ↔
      ∃ devices, json.get "whitelisted-devices" = some devices ∧
        List.Forall₂ (IsEntry integer) devices.items entries := by
  have hdef : deviceConfListRead integer (some data) jsonLoads =
      match json.get "whitelisted-devices" with
      | none => none
      | some devices => readConfEntries integer devices.items [] := by
    unfold deviceConfListRead
    simp only [h]
  rw [hdef]
  cases json.get "whitelisted-devices" with
  | none => simp
  | some devices =>
    simp only [readConfEntries_eq_some, List.nil_append, Option.some.injEq, exists_eq_left']

/-- **The matcher identifies a device by its name, or by a part of it.** -/
theorem bleIdentifyDeviceUsingWhitelist_iff (entries : List DeviceConfEntry) (name : String) :
    bleIdentifyDeviceUsingWhitelist (some entries) (some name) ≠ .unknown ↔
      ∃ entry ∈ entries, entry.name = name ∨
        (entry.partialMatch = true ∧ entry.name.toList <:+: name.toList) := by
  have hentry : ∀ entry : DeviceConfEntry,
      (if entry.partialMatch then (strstr name.toList entry.name.toList).isSome
        else decide (entry.name = name)) = true ↔
      entry.name = name ∨ (entry.partialMatch = true ∧ entry.name.toList <:+: name.toList) := by
    intro entry
    by_cases hpart : entry.partialMatch = true
    · rw [if_pos hpart, strstr_isSome]
      constructor
      · intro hinfix
        exact .inr ⟨hpart, hinfix⟩
      · intro hmatch
        rcases hmatch with rfl | ⟨-, hinfix⟩
        · exact List.infix_rfl
        · exact hinfix
    · rw [if_neg hpart, decide_eq_true_iff]
      constructor
      · exact Or.inl
      · intro hmatch
        exact hmatch.resolve_right fun h => hpart h.1
  unfold bleIdentifyDeviceUsingWhitelist
  simp only [← hentry]
  rw [← List.any_eq_true]
  split <;> simp [*]

/-- **A white list is read and applied as it is documented exactly when its member
`whitelisted-devices` is an array, or is not there.** -/
theorem whitelistExact_iff (integer : ν → Option Int) (json : Json ν) :
    WhitelistExact integer json ↔
      ∀ devices, json.get "whitelisted-devices" = some devices →
        ∃ items, devices = .array items := by
  constructor
  · intro hexact devices hdevices
    by_contra hno
    have hitems : devices.items = [] := by
      cases devices with
      | array items => exact absurd ⟨items, rfl⟩ hno
      | _ => rfl
    have hread : deviceConfListRead integer (some "") (fun _ => some json) = some [] := by
      rw [deviceConfListRead_eq_some rfl]
      exact ⟨devices, hdevices, hitems ▸ .nil⟩
    obtain ⟨items, heq, -⟩ := (hexact.read "" (fun _ => some json) [] rfl).mp hread
    exact hno ⟨items, Option.some.inj (hdevices.symm.trans heq)⟩
  · intro harray
    refine ⟨?_, fun _ _ entries _ _ name => bleIdentifyDeviceUsingWhitelist_iff entries name⟩
    intro data jsonLoads entries hjson
    rw [deviceConfListRead_eq_some hjson]
    constructor
    · intro ⟨devices, hdevices, hall⟩
      obtain ⟨items, rfl⟩ := harray devices hdevices
      exact ⟨items, hdevices, hall⟩
    · intro ⟨items, hdevices, hall⟩
      exact ⟨.array items, hdevices, hall⟩

end
end

/-- the member is an object, as for one entry with no brackets around it -/
theorem not_whitelistExact : ¬∀ json : Json Int, WhitelistExact some json := by
  intro h
  have hexact := h (.object [("whitelisted-devices", .object [("name", .string "Thunder Sense")])])
  have hread := (hexact.read "" (fun _ => some _) [] rfl).mp rfl
  obtain ⟨items, heq, -⟩ := hread
  cases heq

end EdgeTranslators.Ble
