import EdgeTranslators.Ble.Characteristic

/-!
# The status of a write request

`resource_callback_handler` takes a zero result of `ble_write_characteristic` for success, and
`ble_write_characteristic` hands on the code of a `GError`.  GLib's own `FAILED` codes are 0.

* `WriteReported`          the status says whether the peripheral took the value, a failed request
                           changes nothing, and a successful one changes the characteristic and what
                           is derived from it;
* `writeReported_iff`      this holds unless a routed write fails with an error of code 0.
-/

namespace EdgeTranslators.Ble
open Lib Pt

/-- the device and the route of a request, if it gets as far as a characteristic -/
def reaches (h : Host) (keepRunning : Bool) (devices : List BleDevice) (c : Client)
    (deviceId : String) (p : Path) (value : Bytes) : Option (BleDevice × Route) :=
  if keepRunning then
    (devicesFindDeviceByDeviceId devices deviceId).bind fun ble =>
      (writeRoute h c ble p value).map fun route => (ble, route)
  else none

/-- the characteristic `c` with another cached value -/
def GattChar.SameButValue (c c' : GattChar) : Prop :=
  ∃ value valueLength sized, c' = { c with value, valueLength, sized }

structure WriteReported (reached : Option (BleDevice × Route)) (outcome : WriteOutcome)
    (devices : List BleDevice) (c : Client) (result : Status × List BleDevice × Client) :
    Prop where
  status : result.1 = .success ↔ reached.isSome ∧ outcome = .reply
  failed : result.1 ≠ .success → result.2.1 = devices ∧ SameExcept (fun _ _ => False) c result.2.2
  succeeded : result.1 = .success → ∃ ble route, reached = some (ble, route) ∧
    (∃ charact, route.charact.SameButValue charact ∧
      result.2.1 = devicesSet devices (ble.setChar route.svc route.ch charact)) ∧
    SameExcept (IsWritten ble route.svc route.ch route.charact) c result.2.2

/-- an error whose code is 0 -/
def WriteOutcome.FailedWithZero (outcome : WriteOutcome) : Prop :=
  outcome = .proxyFailed 0 ∨ outcome = .callFailed 0

theorem bleWriteCharacteristic_eq_zero {outcome : WriteOutcome} :
    bleWriteCharacteristic outcome = 0 ↔ outcome = .reply ∨ outcome.FailedWithZero := by
  cases outcome <;> simp [bleWriteCharacteristic, WriteOutcome.FailedWithZero]

section
variable {h : Host} {keepRunning : Bool} {devices : List BleDevice} {c : Client}
  {deviceId : String} {p : Path} {operation : UInt8} {value : Bytes} {outcome : WriteOutcome}

/-- a request that reaches no characteristic is refused, and changes nothing -/
theorem resourceCallbackHandler_unrouted (outcome : WriteOutcome)
    (hptr : (devices.map (·.ptr)).Nodup)
    (hop : operation &&& operationWrite ≠ 0)
    (hr : reaches h keepRunning devices c deviceId p value = none) :
    let result := resourceCallbackHandler h keepRunning devices c deviceId p operation value outcome
    result.1 = .error ∧ result.2.1 = devices ∧ SameExcept (fun _ _ => False) c result.2.2 := by
  unfold reaches at hr
  cases keepRunning with
  | false => exact ⟨rfl, rfl, .refl _ c⟩
  | true =>
    simp only [resourceCallbackHandler, if_pos hop]
    cases hfind : devicesFindDeviceByDeviceId devices deviceId with
    | none => exact ⟨rfl, rfl, .refl _ c⟩
    | some ble =>
      rw [if_pos rfl, hfind, Option.bind_some, Option.map_eq_none_iff] at hr
      have hcases := deviceWriteCharacteristic_cases h c ble p value outcome
      rw [hr] at hcases
      have hdev : devicesSet devices ble = devices :=
        devicesSet_self hptr (mem_of_devicesFindDeviceByDeviceId hfind).1
      refine ⟨?_, ?_, hcases.client⟩
      · simp [hcases.rc]
      · simpa [hcases.device] using hdev

/-- a request that reaches a characteristic, with everything that `Routed` says of it -/
theorem resourceCallbackHandler_routed (outcome : WriteOutcome)
    (hptr : (devices.map (·.ptr)).Nodup)
    (hop : operation &&& operationWrite ≠ 0) {ble : BleDevice} {route : Route}
    (hr : reaches h keepRunning devices c deviceId p value = some (ble, route)) :
    ∃ r : WriteResult, r.Routed c ble value outcome route ∧ devicesSet devices ble = devices ∧
      resourceCallbackHandler h keepRunning devices c deviceId p operation value outcome
        = (if r.rc = 0 then .success else .error, devicesSet devices r.device, r.client) := by
  unfold reaches at hr
  cases keepRunning with
  | false => cases hr
  | true =>
    rw [if_pos rfl, Option.bind_eq_some_iff] at hr
    obtain ⟨ble', hfind, hmap⟩ := hr
    obtain ⟨route', hroute, heq⟩ := Option.map_eq_some_iff.mp hmap
    obtain ⟨rfl, rfl⟩ := Prod.mk.inj heq
    have hcases := deviceWriteCharacteristic_cases h c ble' p value outcome
    rw [hroute] at hcases
    refine ⟨deviceWriteCharacteristic h c ble' p value outcome, hcases,
      devicesSet_self hptr (mem_of_devicesFindDeviceByDeviceId hfind).1, ?_⟩
    simp only [resourceCallbackHandler, hfind, if_pos hop]
    rfl

/-- **The status is right exactly when no routed write fails with code 0.** -/
theorem writeReported_iff (hptr : (devices.map (·.ptr)).Nodup)
    (hop : operation &&& operationWrite ≠ 0) :
    WriteReported (reaches h keepRunning devices c deviceId p value) outcome devices c
        (resourceCallbackHandler h keepRunning devices c deviceId p operation value outcome)
      ↔ ¬((reaches h keepRunning devices c deviceId p value).isSome ∧
          outcome.FailedWithZero) := by
  cases hr : reaches h keepRunning devices c deviceId p value with
  | none =>
    obtain ⟨hst, hdev, hcl⟩ := resourceCallbackHandler_unrouted outcome hptr hop hr
    constructor
    · rintro - ⟨hsome, -⟩
      cases hsome
    refine fun _ => ⟨?_, fun _ => ⟨hdev, hcl⟩, ?_⟩
    · rw [hst]
      exact ⟨nofun, fun h0 => by cases h0.1⟩
    · rw [hst]
      exact nofun
  | some br =>
    obtain ⟨ble, route⟩ := br
    obtain ⟨r, hrouted, hself, heq⟩ := resourceCallbackHandler_routed outcome hptr hop hr
    rw [heq]
    have hzero : r.rc = 0 ↔ outcome = .reply ∨ outcome.FailedWithZero := by
      rw [hrouted.rc]
      exact bleWriteCharacteristic_eq_zero
    constructor
    · rintro ⟨hstatus, -, -⟩ ⟨-, hfail⟩
      -- the status is a success, so the peripheral would have taken the value
      have hrep := (hstatus.mp (by rw [if_pos (hzero.mpr (.inr hfail))])).2
      subst hrep
      rcases hfail with h0 | h0 <;> cases h0
    · intro hfail
      have hrep : r.rc = 0 ↔ outcome = .reply :=
        ⟨fun h0 => (hzero.mp h0).resolve_right fun h1 => hfail ⟨rfl, h1⟩,
          fun h0 => hzero.mpr (.inl h0)⟩
      by_cases hrc : r.rc = 0
      · obtain ⟨hdev, hcl⟩ := hrouted.stored hrc
        rw [if_pos hrc]
        refine ⟨⟨fun _ => ⟨rfl, hrep.mp hrc⟩, fun _ => rfl⟩, fun h0 => absurd rfl h0, fun _ =>
          ⟨ble, route, rfl, ⟨route.charact.store value, ⟨_, _, _, rfl⟩, ?_⟩, hcl⟩⟩
        rw [hdev]
      · obtain ⟨hdev, hcl⟩ := hrouted.failed hrc
        rw [if_neg hrc]
        refine ⟨⟨nofun, fun h0 => absurd (hrep.mpr h0.2) hrc⟩, fun _ => ⟨?_, hcl⟩, nofun⟩
        show devicesSet devices r.device = devices
        rw [hdev, hself]

end

/-- a device with the integer characteristic of `map_uuid_to_datatype` -/
def integerDevice : BleDevice :=
  deviceAddGattCharacteristic
    { deviceCreate 1 0 "00:11:22:33:44:55" with deviceId := "BLE-00:11:22:33:44:55-0" }
    "0000ed00-0000-1000-8000-00805f9b34fb" "/service0001" "0000ed01-0000-1000-8000-00805f9b34fb"
    "/service0001/char0002" (bleGattPropPermRead ||| bleGattPropPermWrite)

/-- a client on connection 0 that has no device yet -/
def emptyClient : Client := ⟨some 0, ∅, [], []⟩

theorem writeReported_iff_reply :
    WriteReported
        (reaches plainHost true [integerDevice] emptyClient "BLE-00:11:22:33:44:55-0"
          (servicePath 0 0) [1]) .reply [integerDevice] emptyClient
        (resourceCallbackHandler plainHost true [integerDevice] emptyClient
          "BLE-00:11:22:33:44:55-0" (servicePath 0 0) operationWrite [1] .reply)
      ↔ ¬((reaches plainHost true [integerDevice] emptyClient "BLE-00:11:22:33:44:55-0"
          (servicePath 0 0) [1]).isSome ∧ WriteOutcome.reply.FailedWithZero) :=
  writeReported_iff (List.nodup_singleton _) (by decide)

/-- `G_IO_ERROR_FAILED`: the peripheral did not take the value, and the status is a success -/
theorem not_writeReported_failedWithZero :
    ¬WriteReported
        (reaches plainHost true [integerDevice] emptyClient "BLE-00:11:22:33:44:55-0"
          (servicePath 0 0) [1]) (.callFailed 0) [integerDevice] emptyClient
        (resourceCallbackHandler plainHost true [integerDevice] emptyClient
          "BLE-00:11:22:33:44:55-0" (servicePath 0 0) operationWrite [1] (.callFailed 0)) := by
  intro hw
  have hsuccess : (resourceCallbackHandler plainHost true [integerDevice] emptyClient
      "BLE-00:11:22:33:44:55-0" (servicePath 0 0) operationWrite [1] (.callFailed 0)).1
        = .success := by decide
  cases (hw.status.mp hsuccess).2

end EdgeTranslators.Ble
