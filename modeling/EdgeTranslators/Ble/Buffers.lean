import EdgeTranslators.Lib.Run
import EdgeTranslators.Ble.RoundTrip

/-!
# The length of the data in a characteristic

`value_length` of a characteristic is to stay within `value_size`, what is allocated for its value.
`set_local_characteristic_value` clamps what it copies and not the length it stores.

* `bufferStep`            a characteristic is added, a write request is handled, or a read comes
                          back;
* `BleDevice.Bounded`     every length of a device is within its buffer;
* `bufferStep_bounded_iff`  a step keeps this exactly when the value it stores fits;
* `bounded_iff_fits`      so it holds in every state of a run exactly when every stored value fits.
-/

namespace EdgeTranslators.Ble
open Lib Pt

/-! ## the steps -/

structure Buffers where
  devices : List BleDevice
  client : Client
  deriving DecidableEq

inductive BufferEvent where
  /-- `device_add_gatt_characteristic` -/
  | add (deviceId srvcUuid srvcDbusPath charUuid charDbusPath : String) (properties : Nat)
  /-- `device_write_characteristic`, for a resource of the service object or a translated one -/
  | write (deviceId : String) (p : Path) (value : Bytes) (outcome : WriteOutcome)
  /-- `ble_read_characteristic_callback` -/
  | read (deviceId : String) (srvc ch : Nat) (outcome : ReadOutcome)

def bufferStep (h : Host) (s : Buffers) : BufferEvent → Option Buffers
  | .add deviceId srvcUuid srvcDbusPath charUuid charDbusPath properties =>
    (devicesFindDeviceByDeviceId s.devices deviceId).map fun ble =>
      { s with devices := devicesSet s.devices (deviceAddGattCharacteristic ble srvcUuid srvcDbusPath
          charUuid charDbusPath properties) }
  | .write deviceId p value outcome =>
    (devicesFindDeviceByDeviceId s.devices deviceId).map fun ble =>
      let r := deviceWriteCharacteristic h s.client ble p value outcome
      ⟨devicesSet s.devices r.device, r.client⟩
  | .read deviceId srvc ch outcome =>
    (bleReadCharacteristicCallback h s.client s.devices deviceId srvc ch outcome).map fun r =>
      ⟨r.1, r.2⟩

/-- a value that is stored in a characteristic is not longer than its buffer -/
def Fits (h : Host) (s : Buffers) : BufferEvent → Prop
  | .write deviceId p value outcome =>
    ∀ ble route, devicesFindDeviceByDeviceId s.devices deviceId = some ble →
      writeRoute h s.client ble p value = some route → bleWriteCharacteristic outcome = 0 →
        value.length ≤ route.charact.valueSize
  | _ => True

/-! ## the invariant -/

/-- the length of the data is within the buffer, in every characteristic -/
def BleDevice.Bounded (ble : BleDevice) : Prop :=
  ∀ svc ch c, ble.char? svc ch = some c → c.valueLength ≤ c.valueSize

def Buffers.Bounded (s : Buffers) : Prop := ∀ ble ∈ s.devices, ble.Bounded

theorem BleDevice.Bounded.setChar {ble : BleDevice} (hb : ble.Bounded) {svc ch : Nat}
    (hsome : (ble.char? svc ch).isSome) {c : GattChar} (hc : c.valueLength ≤ c.valueSize) :
    (ble.setChar svc ch c).Bounded := by
  intro i j c' hc'
  by_cases hat : i = svc ∧ j = ch
  · obtain ⟨rfl, rfl⟩ := hat
    rw [BleDevice.char?_setChar_self hsome] at hc'
    obtain rfl := Option.some.inj hc'
    exact hc
  · rw [BleDevice.char?_setChar_ne c hat] at hc'
    exact hb i j c' hc'

/-- an element of a list with one more at its end -/
theorem getElem?_concat_cases {α : Type} {l : List α} {a b : α} {i : Nat}
    (h : (l ++ [a])[i]? = some b) : l[i]? = some b ∨ b = a := by
  rw [List.getElem?_append] at h
  split at h
  · exact .inl h
  · exact .inr (List.mem_singleton.mp (List.mem_of_getElem? h))

/-- a new characteristic has no data yet -/
theorem BleDevice.Bounded.add {ble : BleDevice} (hb : ble.Bounded)
    (srvcUuid srvcDbusPath charUuid charDbusPath : String) (properties : Nat) :
    (deviceAddGattCharacteristic ble srvcUuid srvcDbusPath charUuid charDbusPath
      properties).Bounded := by
  -- the table with the service has the same characteristics
  have hget : ∀ (svc ch : Nat) (s : GattService) (c : GattChar),
      (getService ble.services srvcUuid).2[svc]? = some s → s.chars[ch]? = some c →
        c.valueLength ≤ c.valueSize := by
    intro svc ch s c hs hc
    unfold getService at hs
    split at hs
    · exact hb svc ch c (BleDevice.char?_eq_some.mpr ⟨s, hs, hc⟩)
    · rcases getElem?_concat_cases hs with hs | rfl
      · exact hb svc ch c (BleDevice.char?_eq_some.mpr ⟨s, hs, hc⟩)
      · cases hc
  intro svc ch c hc
  obtain ⟨s, hs, hch⟩ := BleDevice.char?_eq_some.mp hc
  simp only [deviceAddGattCharacteristic, List.getElem?_modify] at hs
  obtain ⟨s₀, hs₀, hmod⟩ := Option.map_eq_some_iff.mp hs
  split at hmod
  · subst hmod
    rcases getElem?_concat_cases hch with hch | rfl
    · exact hget svc ch s₀ c hs₀ hch
    · exact Nat.zero_le _
  · subst hmod
    exact hget svc ch s₀ c hs₀ hch

theorem Buffers.Bounded.set {s : Buffers} (hb : s.Bounded) {ble : BleDevice} (hble : ble.Bounded)
    (c : Client) : Buffers.Bounded ⟨devicesSet s.devices ble, c⟩ := by
  intro d hd
  rcases mem_devicesSet hd with rfl | hd
  · exact hble
  · exact hb d hd

/-! ## the steps and the invariant -/

section
variable {h : Host} {s s' : Buffers}

/-- a write stores its value where it is routed to, if the peripheral has taken it -/
theorem write_bounded_iff {ble : BleDevice} {deviceId : String}
    (hfind : devicesFindDeviceByDeviceId s.devices deviceId = some ble) (p : Path) (value : Bytes)
    (outcome : WriteOutcome) (hb : s.Bounded) :
    Buffers.Bounded ⟨devicesSet s.devices (deviceWriteCharacteristic h s.client ble p value
        outcome).device, (deviceWriteCharacteristic h s.client ble p value outcome).client⟩ ↔
      ∀ route, writeRoute h s.client ble p value = some route →
        bleWriteCharacteristic outcome = 0 → value.length ≤ route.charact.valueSize := by
  have hmem := (mem_of_devicesFindDeviceByDeviceId hfind).1
  have hcases := deviceWriteCharacteristic_cases h s.client ble p value outcome
  cases hroute : writeRoute h s.client ble p value with
  | none =>
    rw [hroute] at hcases
    refine iff_of_true ?_ nofun
    rw [hcases.device]
    exact hb.set (hb ble hmem) _
  | some route =>
    rw [hroute] at hcases
    have hsome : (ble.char? route.svc route.ch).isSome := by
      rw [hcases.char]
      rfl
    by_cases hrc : bleWriteCharacteristic outcome = 0
    · obtain ⟨hdevice, -⟩ := hcases.stored (hcases.rc.trans hrc)
      rw [hdevice]
      constructor
      · intro hall r hr _
        obtain rfl := Option.some.inj hr
        have hptr : ble.ptr = (ble.setChar route.svc route.ch (route.charact.store value)).ptr :=
          rfl
        exact hall _ (devicesSet_mem_of_ptr hmem hptr) route.svc route.ch _
          (BleDevice.char?_setChar_self hsome _)
      · intro hfits
        exact hb.set ((hb ble hmem).setChar hsome (hfits route rfl hrc)) _
    · obtain ⟨hdevice, -⟩ := hcases.failed fun h0 => hrc (hcases.rc.symm.trans h0)
      refine iff_of_true ?_ fun _ _ h0 => absurd h0 hrc
      rw [hdevice]
      exact hb.set (hb ble hmem) _

/-- the size that the parser returns is within the buffer -/
theorem read_bounded {c c' : Client} {devices devices' : List BleDevice} {deviceId : String}
    {srvc ch : Nat} {outcome : ReadOutcome} (hb : Buffers.Bounded ⟨devices, c⟩)
    (hread : bleReadCharacteristicCallback h c devices deviceId srvc ch outcome
      = some (devices', c')) : Buffers.Bounded ⟨devices', c'⟩ := by
  cases outcome with
  | failed code =>
    cases hread
    exact hb
  | reply reply =>
    obtain ⟨ble, hble, hread⟩ := Option.bind_eq_some_iff.mp hread
    obtain ⟨gattchar, hchar, hread⟩ := Option.map_eq_some_iff.mp hread
    have hparse : (gattchar.parse h reply).valueLength ≤ (gattchar.parse h reply).valueSize :=
      (GattChar.parse_valueLength h gattchar reply).trans_le (Nat.min_le_right _ _)
    have hswap : ((gattchar.parse h reply).swap h.byteOrder).valueLength
        ≤ ((gattchar.parse h reply).swap h.byteOrder).valueSize := by
      unfold GattChar.swap
      split <;> exact hparse
    have hsome : (ble.char? srvc ch).isSome := by
      rw [hchar]
      rfl
    have hparsed := (hb ble (mem_of_devicesFindDeviceByDeviceId hble).1).setChar hsome hparse
    have hstill : ((ble.setChar srvc ch (gattchar.parse h reply)).char? srvc ch).isSome := by
      rw [BleDevice.char?_setChar_self hsome]
      rfl
    have hswapped := hparsed.setChar hstill hswap
    cases hread
    exact hb.set hswapped _

/-- **A step keeps the lengths within the buffers exactly when the value it stores fits.** -/
theorem bufferStep_bounded_iff {e : BufferEvent} (hb : s.Bounded)
    (hstep : bufferStep h s e = some s') : s'.Bounded ↔ Fits h s e := by
  cases e with
  | add deviceId srvcUuid srvcDbusPath charUuid charDbusPath properties =>
    obtain ⟨ble, hble, rfl⟩ := Option.map_eq_some_iff.mp hstep
    refine iff_of_true ?_ trivial
    exact hb.set ((hb ble (mem_of_devicesFindDeviceByDeviceId hble).1).add srvcUuid srvcDbusPath
      charUuid charDbusPath properties) _
  | write deviceId p value outcome =>
    obtain ⟨ble, hble, rfl⟩ := Option.map_eq_some_iff.mp hstep
    rw [write_bounded_iff hble p value outcome hb]
    constructor
    · intro hfits ble' route hble' hroute hrc
      obtain rfl := Option.some.inj (hble.symm.trans hble')
      exact hfits route hroute hrc
    · intro hfits route hroute hrc
      exact hfits ble route hble hroute hrc
  | read deviceId srvc ch outcome =>
    obtain ⟨r, hr, rfl⟩ := Option.map_eq_some_iff.mp hstep
    exact iff_of_true (read_bounded hb hr) trivial

/-- **The lengths are within the buffers in every state of a run exactly when every value that is
stored fits its buffer.** -/
theorem bounded_iff_fits {s₀ : Buffers} {es : List BufferEvent}
    (hrun : run (bufferStep h) s₀ es = some s) (h₀ : s₀.Bounded) :
    (∀ pre t, pre <+: es → run (bufferStep h) s₀ pre = some t → t.Bounded) ↔
      Run (bufferStep h) (Fits h) s₀ es s :=
  run_invariant_iff hrun trivial (fun _ _ _ _ _ => trivial) h₀
    fun _ _ _ _ hb hstep => bufferStep_bounded_iff hb hstep

end

/-- the integer characteristic, of four bytes, before a request -/
def integerBuffers : Buffers := ⟨[integerDevice], emptyClient⟩

/-- the peripheral takes a value of five bytes for it -/
def writeFive : BufferEvent :=
  .write "BLE-00:11:22:33:44:55-0" (servicePath 0 0) [1, 2, 3, 4, 5] .reply

theorem integerBuffers_bounded : integerBuffers.Bounded := by
  intro ble hble svc ch c hc
  obtain rfl := List.mem_singleton.mp hble
  have hnew : BleDevice.Bounded { deviceCreate 1 0 "00:11:22:33:44:55" with
      deviceId := "BLE-00:11:22:33:44:55-0" } := by
    intro svc ch c hc
    cases hc
  have hadd := hnew.add "0000ed00-0000-1000-8000-00805f9b34fb" "/service0001"
    "0000ed01-0000-1000-8000-00805f9b34fb" "/service0001/char0002" (bleGattPropPermRead ||| bleGattPropPermWrite)
  exact hadd svc ch c hc

/-- a write and a read that comes back with more than there is room for -/
def writeAndRead : List BufferEvent :=
  [BufferEvent.write "BLE-00:11:22:33:44:55-0" (servicePath 0 0) [1, 2, 3, 4] .reply,
    BufferEvent.read "BLE-00:11:22:33:44:55-0" 0 0 (.reply [1, 2, 3, 4, 5, 6])]

theorem bounded_iff_fits_writeAndRead :
    ∃ s, run (bufferStep plainHost) integerBuffers writeAndRead = some s ∧
      ((∀ pre t, pre <+: writeAndRead →
          run (bufferStep plainHost) integerBuffers pre = some t → t.Bounded) ↔
        Run (bufferStep plainHost) (Fits plainHost) integerBuffers writeAndRead s) := by
  have hrun : (run (bufferStep plainHost) integerBuffers writeAndRead).isSome = true := by
    decide +kernel
  obtain ⟨s, hs⟩ := Option.isSome_iff_exists.mp hrun
  exact ⟨s, hs, bounded_iff_fits hs integerBuffers_bounded⟩

/-- four bytes are allocated, and the length is 5 -/
theorem writeFive_not_bounded :
    ∃ s, run (bufferStep plainHost) integerBuffers [writeFive] = some s ∧
      (∃ ble ∈ s.devices, ∃ c, ble.char? 0 0 = some c ∧ c.valueSize = 4 ∧ c.valueLength = 5) ∧
        ¬s.Bounded := by
  have hrun : (run (bufferStep plainHost) integerBuffers [writeFive]).any (fun s => decide
      (∃ ble ∈ s.devices, ((ble.char? 0 0).map fun c => (c.valueSize, c.valueLength))
        = some (4, 5))) = true := by decide +kernel
  obtain ⟨s, hs, ble, hble, hsizes⟩ := exists_of_run_any hrun
  obtain ⟨c, hc, hpair⟩ := Option.map_eq_some_iff.mp hsizes
  obtain ⟨hsize, hlength⟩ := Prod.mk.inj hpair
  refine ⟨s, hs, ⟨ble, hble, c, hc, hsize, hlength⟩, fun hb => ?_⟩
  have hle := hb ble hble 0 0 c hc
  omega

end EdgeTranslators.Ble
