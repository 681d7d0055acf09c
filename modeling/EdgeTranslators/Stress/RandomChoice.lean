import EdgeTranslators.Lib.CInt
import EdgeTranslators.Stress.Tester

/-!
# The random device of the stress tester

`unregister_random_device` and `set_random_value` compute the index of a device in `int32_t`, and go
through the list until they come to it.

* `chosenIndexInt`            the index, if nothing overflows;
* `setRandomValue`, `unregisterRandomDevice`   the entries of the list they act on;
* `chosenIndexInt_eq`         only a list of one device makes an overflow;
* `chosenIndex_wraps`         where it wraps, the index is `chosenIndex` all the same;
* `ChoosesOne`, `choosesOne_iff`   they act on one entry exactly when there are two or more.
-/

namespace EdgeTranslators.Stress
open Lib

section
variable {α : Type*}

/-! ## the code -/

/-- `rand() / (RAND_MAX / device_count + 1)` in `int32_t`; `none` is undefined behaviour -/
def chosenIndexInt (rand deviceCount : Int) : Option Int := do
  let quotient ← divInt 32 randMax deviceCount
  let divisor ← addInt 32 quotient 1
  divInt 32 rand divisor

/-- the loop of `set_random_value`, which goes on behind the chosen entry -/
def setRandomValueLoop (chosenIndex : Int) : (index : Int) → List α → List α
  | _, [] => []
  | index, entry :: entries =>
    if index = chosenIndex then entry :: setRandomValueLoop chosenIndex (index + 1) entries
    else setRandomValueLoop chosenIndex (index + 1) entries

/-- the loop of `unregister_random_device`, which ends at the chosen entry -/
def unregisterRandomDeviceLoop (chosenIndex : Int) : (index : Int) → List α → List α
  | _, [] => []
  | index, entry :: entries =>
    if index = chosenIndex then [entry]
    else unregisterRandomDeviceLoop chosenIndex (index + 1) entries

/-- `set_random_value`: the entries whose devices it gives a value -/
def setRandomValue (devices : List α) (rand : Int) : Option (List α) :=
  if (devices.length : Int) > 0 then
    (chosenIndexInt rand devices.length).map fun i => setRandomValueLoop i 0 devices
  else some []

/-- `unregister_random_device`: the entries it unregisters -/
def unregisterRandomDevice (minNumberOfDevices : Int) (devices : List α) (rand : Int) :
    Option (List α) :=
  if devices.length ≤ minNumberOfDevices then some []
  else if (devices.length : Int) > 0 then
    (chosenIndexInt rand devices.length).map fun i => unregisterRandomDeviceLoop i 0 devices
  else some []

/-- the index is computed, it is that of an entry, and both functions act on this entry alone -/
def ChoosesOne (minNumberOfDevices : Int) (devices : List α) (rand : Int) : Prop :=
  ∃ (i : Nat) (entry : α), chosenIndexInt rand devices.length = some (i : Int) ∧
    devices[i]? = some entry ∧ setRandomValue devices rand = some [entry] ∧
      (minNumberOfDevices < devices.length →
        unregisterRandomDevice minNumberOfDevices devices rand = some [entry])

/-! ## the index -/

variable {rand deviceCount : Nat}

/-- the index is less than the number of devices -/
theorem chosenIndex_lt (hrand : rand ≤ randMax) (hcount : 0 < deviceCount) :
    chosenIndex rand deviceCount < deviceCount := by
  have hmax : randMax < deviceCount * (randMax / deviceCount + 1) :=
    Nat.lt_mul_div_succ randMax hcount
  unfold chosenIndex
  rw [Nat.div_lt_iff_lt_mul (Nat.succ_pos _)]
  exact hrand.trans_lt hmax

/-- `RAND_MAX / 1 + 1` is the one sum that does not fit -/
theorem chosenIndexInt_eq (hrand : rand ≤ randMax) (hcount : 0 < deviceCount) :
    chosenIndexInt rand deviceCount =
      if deviceCount = 1 then none else some (chosenIndex rand deviceCount : Int) := by
  have hmax : randMax < 2 ^ (32 - 1) := by decide
  have hquotient := divInt_natCast hmax hcount
  have hsum := addInt_natCast 32 (randMax / deviceCount) 1
  unfold chosenIndexInt
  rw [hquotient, Option.bind_eq_bind, Option.bind_some]
  by_cases hone : deviceCount = 1
  · subst hone
    rw [if_pos rfl]
    rfl
  · have hhalf : randMax / deviceCount ≤ randMax / 2 := Nat.div_le_div_left (by omega) (by decide)
    have hfits : randMax / deviceCount + 1 < 2 ^ (32 - 1) := by
      have hbound : randMax / 2 + 1 < 2 ^ (32 - 1) := by decide
      omega
    rw [if_pos hfits] at hsum
    have hsum' : addInt 32 ((randMax / deviceCount : Nat) : Int) 1 =
        some ((randMax / deviceCount + 1 : Nat) : Int) := hsum
    rw [if_neg hone, hsum', Option.bind_some]
    exact divInt_natCast (hrand.trans_lt hmax) (Nat.succ_pos _)

/-- an `int32_t` that wraps makes `RAND_MAX / 1 + 1` the least integer, and the quotient is 0 -/
theorem chosenIndex_wraps (hrand : rand ≤ randMax) (hcount : 0 < deviceCount) :
    (rand : Int).tdiv (Int.bmod (randMax / deviceCount + 1 : Nat) (2 ^ 32))
      = chosenIndex rand deviceCount := by
  have hmax : randMax = 2 ^ 31 - 1 := rfl
  by_cases hone : deviceCount = 1
  · subst hone
    have hwrapped : Int.bmod (randMax / 1 + 1 : Nat) (2 ^ 32) = -(2 ^ 31 : Nat) := by decide
    have hzero : rand / 2 ^ 31 = 0 := Nat.div_eq_of_lt (by omega)
    have hindex : chosenIndex rand 1 = 0 := hzero
    rw [hwrapped, Int.tdiv_neg, ← Int.ofNat_tdiv, hzero, hindex]
    rfl
  · have hhalf : randMax / deviceCount ≤ randMax / 2 := Nat.div_le_div_left (by omega) (by decide)
    have hfits : Int.bmod (randMax / deviceCount + 1 : Nat) (2 ^ 32)
        = (randMax / deviceCount + 1 : Nat) := by
      generalize randMax / deviceCount = quotient at hhalf ⊢
      exact Int.bmod_eq_of_le (by omega) (by omega)
    rw [hfits, ← Int.ofNat_tdiv]
    rfl

/-! ## the loops -/

variable {devices : List α}

/-- behind the chosen entry nothing more is done -/
theorem setRandomValueLoop_of_lt {chosen index : Int} (h : chosen < index) :
    setRandomValueLoop chosen index devices = [] := by
  induction devices generalizing index with
  | nil => rfl
  | cons entry entries ih =>
    unfold setRandomValueLoop
    rw [if_neg (by omega)]
    exact ih (by omega)

theorem setRandomValueLoop_eq (index : Int) (i : Nat) (devices : List α) :
    setRandomValueLoop (index + i) index devices = devices[i]?.toList := by
  induction devices generalizing index i with
  | nil => rfl
  | cons entry entries ih =>
    unfold setRandomValueLoop
    cases i with
    | zero =>
      rw [if_pos (by omega), setRandomValueLoop_of_lt (by omega)]
      rfl
    | succ i =>
      have hindex : index + ((i + 1 : Nat) : Int) = index + 1 + (i : Int) := by omega
      rw [if_neg (by omega), hindex]
      exact ih (index + 1) i

theorem unregisterRandomDeviceLoop_eq (index : Int) (i : Nat) (devices : List α) :
    unregisterRandomDeviceLoop (index + i) index devices = devices[i]?.toList := by
  induction devices generalizing index i with
  | nil => rfl
  | cons entry entries ih =>
    unfold unregisterRandomDeviceLoop
    cases i with
    | zero =>
      rw [if_pos (by omega)]
      rfl
    | succ i =>
      have hindex : index + ((i + 1 : Nat) : Int) = index + 1 + (i : Int) := by omega
      rw [if_neg (by omega), hindex]
      exact ih (index + 1) i

/-! ## the choice -/

/-- what the functions do with an index that was computed -/
theorem setRandomValue_eq {i : Nat} (hdevices : 0 < devices.length)
    (hindex : chosenIndexInt rand devices.length = some (i : Int)) :
    setRandomValue devices rand = some devices[i]?.toList := by
  have hloop := setRandomValueLoop_eq 0 i devices
  rw [Int.zero_add] at hloop
  unfold setRandomValue
  rw [if_pos (by omega), hindex, Option.map_some, hloop]

theorem unregisterRandomDevice_eq {minNumberOfDevices : Int} {i : Nat}
    (hmin : minNumberOfDevices < devices.length) (hdevices : 0 < devices.length)
    (hindex : chosenIndexInt rand devices.length = some (i : Int)) :
    unregisterRandomDevice minNumberOfDevices devices rand = some devices[i]?.toList := by
  have hloop := unregisterRandomDeviceLoop_eq 0 i devices
  rw [Int.zero_add] at hloop
  unfold unregisterRandomDevice
  rw [if_neg (by omega), if_pos (by omega), hindex, Option.map_some, hloop]

/-- **One device is chosen, and acted on, exactly when there are two or more**: with one device
`RAND_MAX / 1 + 1` overflows. -/
theorem choosesOne_iff (minNumberOfDevices : Int) (hdevices : 1 ≤ devices.length)
    (hmax : devices.length ≤ 2 ^ 31 - 1) (hrand : rand ≤ randMax) :
    ChoosesOne minNumberOfDevices devices rand ↔ 2 ≤ devices.length := by
  have heq := chosenIndexInt_eq hrand hdevices
  constructor
  · rintro ⟨i, entry, hindex, -⟩
    by_contra hone
    rw [heq, if_pos (by omega)] at hindex
    cases hindex
  · intro htwo
    rw [if_neg (by omega)] at heq
    have hlt := chosenIndex_lt hrand hdevices
    obtain ⟨entry, hentry⟩ : ∃ entry, devices[chosenIndex rand devices.length]? = some entry :=
      ⟨_, List.getElem?_eq_getElem hlt⟩
    refine ⟨_, entry, heq, hentry, ?_, fun hmin => ?_⟩
    · rw [setRandomValue_eq hdevices heq, hentry]
      rfl
    · rw [unregisterRandomDevice_eq hmin hdevices heq, hentry]
      rfl

theorem choosesOne_iff_three : ChoosesOne 0 ["rand-0", "rand-1", "rand-2"] (2 ^ 31 - 1 : Nat) ↔
    2 ≤ ["rand-0", "rand-1", "rand-2"].length :=
  choosesOne_iff 0 (by decide) (by decide) (by decide)

/-- one device, and no result of `rand` will do -/
theorem not_choosesOne : ¬∀ (devices : List String) (rand : Nat), 1 ≤ devices.length →
    devices.length ≤ 2 ^ 31 - 1 → rand ≤ randMax → ChoosesOne 0 devices rand := by
  intro h
  obtain ⟨i, entry, hindex, -⟩ := h ["rand-0"] 0 (by decide) (by decide) (by decide)
  have hnone : chosenIndexInt (0 : Nat) ["rand-0"].length = none := by decide
  rw [hnone] at hindex
  cases hindex

end

/-- where nothing overflows the entry is that of `TestThread.chosen` -/
theorem TestThread.unregisterRandomDevice_chosen {s : TestThread} {rand : Nat}
    (hready : s.ready = true) (hrand : rand ≤ randMax) (htwo : 2 ≤ s.devices.length) :
    Stress.unregisterRandomDevice s.minNumberOfDevices s.devices rand =
      some (s.chosen rand).toList := by
  have heq := chosenIndexInt_eq hrand (show 0 < s.devices.length by omega)
  rw [if_neg (by omega)] at heq
  unfold chosen
  by_cases hmin : s.minNumberOfDevices < s.devices.length
  · rw [if_pos ⟨hready, hmin⟩]
    exact Stress.unregisterRandomDevice_eq hmin (by omega) heq
  · rw [if_neg fun h => hmin h.2]
    unfold Stress.unregisterRandomDevice
    rw [if_pos (by omega)]
    rfl

end EdgeTranslators.Stress
