import EdgeTranslators.Kaas.Device

/-!
# Device ids and names

A device is registered under its name with underscores for what is not alphanumeric; the consumer of
write events looks for a row whose name is the device id, or the device id with spaces for its
underscores.

* `Recoverable`                 the name is one of the two, and no other row's name is;
* `applyWriteEvent_only_iff`    then, and only then, an on/off write updates the row of the device
                                and no other.
-/

namespace EdgeTranslators.Kaas
open Lib

/-- the write of a one to the device of that id -/
def turnOn (deviceId : String) : WriteEvent :=
  ⟨deviceId, lightControl, 0, onOffValue, base64Encode [1], opWrite⟩

section
variable {ν : Type} (r : Rust ν)

/-- the device id leads back to the device: its name has no other characters than alphanumeric ones
and underscores, or none but alphanumeric ones and spaces, and no other row has one of the two
names the consumer tries -/
def Recoverable (devices : List (Device ν)) (name : String) : Prop :=
  ((∀ c ∈ name.toList, r.isAlphanumeric c ∨ c = '_') ∨
    (∀ c ∈ name.toList, r.isAlphanumeric c ∨ c = ' ')) ∧
  ∀ device ∈ devices, device.name ≠ name →
    device.name ≠ deviceId r name ∧ device.name ≠ nameSpaces (deviceId r name)

theorem map_eq_self_iff {α : Type} (f : α → α) (l : List α) : l.map f = l ↔ ∀ c ∈ l, f c = c := by
  conv_lhs => rhs; rw [← List.map_id l]
  exact List.map_inj_left

/-- the id is the name if nothing had to be replaced -/
theorem deviceId_eq_self_iff (name : String) :
    deviceId r name = name ↔ ∀ c ∈ name.toList, r.isAlphanumeric c ∨ c = '_' := by
  unfold deviceId
  rw [← String.toList_inj, String.toList_ofList, map_eq_self_iff]
  refine forall₂_congr fun c _ => ?_
  by_cases hc : r.isAlphanumeric c = true
  · simp [hc]
  · rw [if_neg hc]
    simp [hc, eq_comm]

/-- the id with spaces is the name if only spaces had to be replaced -/
theorem nameSpaces_deviceId_eq_self_iff (name : String) :
    nameSpaces (deviceId r name) = name ↔ ∀ c ∈ name.toList, r.isAlphanumeric c ∨ c = ' ' := by
  unfold nameSpaces deviceId
  rw [← String.toList_inj, String.toList_ofList, String.toList_ofList, List.map_map,
    map_eq_self_iff]
  refine forall₂_congr fun c _ => ?_
  by_cases hc : r.isAlphanumeric c = true
  · have hne : c ≠ '_' := by
      rintro rfl
      rw [r.underscore] at hc
      cases hc
    simp [hc, hne]
  · simp only [Function.comp_apply, if_neg hc, if_true]
    simp [hc, eq_comm]

/-- the consumer's `WHERE` clause finds the device itself -/
theorem nameMatches_self_iff (name : String) :
    nameMatches (deviceId r name) name = true ↔
      (∀ c ∈ name.toList, r.isAlphanumeric c ∨ c = '_') ∨
        (∀ c ∈ name.toList, r.isAlphanumeric c ∨ c = ' ') := by
  rw [← deviceId_eq_self_iff, ← nameSpaces_deviceId_eq_self_iff]
  unfold nameMatches
  rw [decide_eq_true_eq, eq_comm, eq_comm (b := nameSpaces (deviceId r name))]

theorem recoverable_iff {devices : List (Device ν)} {device : Device ν} (hmem : device ∈ devices) :
    Recoverable r devices device.name ↔ ∀ d ∈ devices,
      (nameMatches (deviceId r device.name) d.name = true ↔ d.name = device.name) := by
  unfold Recoverable
  rw [← nameMatches_self_iff]
  constructor
  · rintro ⟨hself, hother⟩ d hd
    refine ⟨fun hm => by_contra fun hne => ?_, fun he => he ▸ hself⟩
    unfold nameMatches at hm
    rw [decide_eq_true_eq] at hm
    rcases hm with hm | hm
    · exact (hother d hd hne).1 hm
    · exact (hother d hd hne).2 hm
  · intro hall
    refine ⟨(hall device hmem).mpr rfl, fun d hd hne => ?_⟩
    have hno := mt (hall d hd).mp hne
    unfold nameMatches at hno
    rw [decide_eq_true_eq] at hno
    exact not_or.mp hno

/-- **A write event reaches the row of its device and no other exactly when the name is
recoverable.**  A row is told by its name; `now` is the time of the update. -/
theorem applyWriteEvent_only_iff {devices : List (Device ν)} {device : Device ν}
    (hmem : device ∈ devices) :
    (∀ now event bytes, event.OnOff bytes → event.deviceId = deviceId r device.name →
        applyWriteEvent now event devices = devices.map fun d =>
          if d.name = device.name then d.switched now (isOn bytes) else d)
      ↔ Recoverable r devices device.name := by
  rw [recoverable_iff r hmem]
  constructor
  · intro hall d hd
    -- an update at another time than the row's last one shows
    have hon : (turnOn (deviceId r device.name)).OnOff [1] := ⟨rfl, rfl, base64Decode_encode [1]⟩
    have hevent := hall (d.updatedAt + 1) (turnOn (deviceId r device.name)) [1] hon rfl
    have hd' := List.map_inj_left.mp hevent d hd
    rw [Device.written_onOff hon] at hd'
    have hshows : d.switched (d.updatedAt + 1) (isOn [1]) ≠ d := fun he =>
      Nat.succ_ne_self d.updatedAt (congrArg Device.updatedAt he)
    by_cases hm : nameMatches (turnOn (deviceId r device.name)).deviceId d.name = true
    · rw [if_pos hm] at hd'
      refine ⟨fun _ => by_contra fun hne => ?_, fun _ => hm⟩
      rw [if_neg hne] at hd'
      exact hshows hd'
    · rw [if_neg hm] at hd'
      refine ⟨fun h => absurd h hm, fun he => ?_⟩
      rw [if_pos he] at hd'
      exact absurd hd'.symm hshows
  · intro hall now event bytes hevent hid
    refine List.map_congr_left fun d hd => ?_
    rw [Device.written_onOff hevent, hid]
    by_cases hm : nameMatches (deviceId r device.name) d.name = true
    · rw [if_pos hm, if_pos ((hall d hd).mp hm)]
    · rw [if_neg hm, if_neg (mt (hall d hd).mpr hm)]

end

/-- a switch of that name -/
def switchNamed (name : String) : Device Unit :=
  { id := 0, name, deviceType := .switch, state := .null, createdAt := 0, updatedAt := 0 }

theorem applyWriteEvent_only_iff_kitchen :
    let kitchen := switchNamed "Kitchen Switch"
    (∀ now event bytes, event.OnOff bytes → event.deviceId = deviceId ascii kitchen.name →
        applyWriteEvent now event [kitchen] = [kitchen].map fun d =>
          if d.name = kitchen.name then d.switched now (isOn bytes) else d)
      ↔ Recoverable ascii [kitchen] kitchen.name :=
  applyWriteEvent_only_iff ascii
    (List.mem_singleton.mpr rfl : switchNamed "Kitchen Switch" ∈ [switchNamed "Kitchen Switch"])

/-- of two switches that share a device id both are updated -/
theorem not_applyWriteEvent_only_twoSwitches :
    ¬ ∀ (devices : List (Device Unit)), (devices.map (·.name)).Nodup → ∀ device ∈ devices,
      ∀ now event bytes, event.OnOff bytes → event.deviceId = deviceId ascii device.name →
        applyWriteEvent now event devices = devices.map fun d =>
          if d.name = device.name then d.switched now (isOn bytes) else d := by
  intro hall
  have hevent := hall [switchNamed "Kitchen Switch", switchNamed "Kitchen_Switch"] (by decide)
    (switchNamed "Kitchen_Switch") (by simp) 1 (turnOn "Kitchen_Switch") [1]
    ⟨rfl, rfl, base64Decode_encode [1]⟩ (by decide +kernel)
  have hrow := congrArg (List.map Device.updatedAt) hevent
  exact absurd hrow (by decide +kernel)

end EdgeTranslators.Kaas
