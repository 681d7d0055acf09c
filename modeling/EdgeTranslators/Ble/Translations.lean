import Mathlib.Data.Rat.Cast.Defs
import EdgeTranslators.Ble.Device
import EdgeTranslators.Lib.Precision

/-!
# Translations of GATT characteristics to LwM2M resources
(`pt_ble_translations.c`, `pt_ble_supported_translations.c`)

* `bleServices`                  the table of supported services and characteristics;
* `…Decode…`, `…Encode…`         values of a characteristic and of its translated resources;
* `…Construct…`                  the resources of a service or a characteristic, each with a
                                 `TranslationContext` of the device;
* `Translated`                   what all constructors do to the device and the client.

The function pointers of the table are `ServiceConstruct`, `CharacteristicConstruct`,
`ValueDecode` and `ValueEncode`.
-/

namespace EdgeTranslators.Ble
open Lib Pt

/-! ## the table -/

/-- `value_format_t`, of which the decoder tells these apart -/
inductive ValueFormat where
  | reserved1
  | boolean
  | uint2
  | uint4
  | uint8
  | uint12
  | uint16
  | uint24
  | uint32
  | int8
  | int12
  | int16
  | int24
  | int32
  | float32Ieee754
  | other
  deriving DecidableEq, Repr

inductive ServiceConstruct where
  | dis
  deriving DecidableEq, Repr

inductive CharacteristicConstruct where
  | temperature
  | humidity
  | barometer
  | automationIo
  deriving DecidableEq, Repr

inductive ValueDecode where
  | withFormatDescriptor
  | twoBitBitfield
  deriving DecidableEq, Repr

inductive ValueEncode where
  | twoBitBitfield
  deriving DecidableEq, Repr

/-- `ble_characteristic_t` -/
structure BleCharacteristic where
  uuid : String
  construct : CharacteristicConstruct
  decode : ValueDecode
  encode : Option ValueEncode
  format : ValueFormat
  exponent : Int
  deriving DecidableEq, Repr

/-- `ble_service_t` -/
structure BleService where
  uuid : String
  construct : Option ServiceConstruct
  characteristics : List BleCharacteristic
  deriving DecidableEq, Repr

def environmentSensingCharacteristics : List BleCharacteristic :=
  [ ⟨"00002A6E-0000-1000-8000-00805F9B34FB", .temperature, .withFormatDescriptor, none,
      .int16, -2⟩,
    ⟨"00002A6F-0000-1000-8000-00805F9B34FB", .humidity, .withFormatDescriptor, none,
      .uint16, -2⟩,
    ⟨"00002A6D-0000-1000-8000-00805F9B34FB", .barometer, .withFormatDescriptor, none,
      .uint32, -1⟩ ]

def automationIoCharacteristics : List BleCharacteristic :=
  [ ⟨"00002A56-0000-1000-8000-00805F9B34FB", .automationIo, .twoBitBitfield,
      some .twoBitBitfield, .reserved1, 0⟩ ]

def bleServices : List BleService :=
  [ ⟨"0000181A-0000-1000-8000-00805F9B34FB", none, environmentSensingCharacteristics⟩,
    ⟨"00001815-0000-1000-8000-00805F9B34FB", none, automationIoCharacteristics⟩,
    ⟨"0000180A-0000-1000-8000-00805F9B34FB", some .dis, []⟩,
    ⟨"0000A000-0000-1000-8000-00805F9B34FB", none, []⟩,
    ⟨"0000ED00-0000-1000-8000-00805F9B34FB", none, []⟩,
    ⟨"0000F000-0000-1000-8000-00805F9B34FB", none, []⟩ ]

/-- `strncasecmp(a, b, n) == 0` -/
def sameIgnoringCase (n : Nat) (a b : String) : Bool :=
  (a.toList.take n).map Char.toLower = (b.toList.take n).map Char.toLower

/-- `ble_services_get_service_descriptor` -/
def bleServicesGetServiceDescriptor (serviceUuid : String) : Option BleService :=
  bleServices.find? fun s => sameIgnoringCase formattedUuidLen s.uuid serviceUuid

/-- `ble_services_get_characteristic_descriptor` -/
def bleServicesGetCharacteristicDescriptor (service : BleService) (characteristicUuid : String) :
    Option BleCharacteristic :=
  service.characteristics.find? fun c =>
    sameIgnoringCase formattedUuidLen c.uuid characteristicUuid

/-- `ble_services_get_characteristic_descriptor_by_uuids` -/
def bleServicesGetCharacteristicDescriptorByUuids (serviceUuid characteristicUuid : String) :
    Option BleCharacteristic :=
  (bleServicesGetServiceDescriptor serviceUuid).bind fun s =>
    bleServicesGetCharacteristicDescriptor s characteristicUuid

def bleServicesIsSupportedService (serviceUuid : String) : Bool :=
  (bleServicesGetServiceDescriptor serviceUuid).isSome

def bleServicesIsSupportedCharacteristic (serviceUuid characteristicUuid : String) : Bool :=
  (bleServicesGetCharacteristicDescriptorByUuids serviceUuid characteristicUuid).isSome

/-- the descriptor of the characteristic at an index of the table of a device -/
def BleDevice.descriptor? (device : BleDevice) (svIdx chIdx : Nat) : Option BleCharacteristic :=
  (device.services[svIdx]?).bind fun s =>
    (s.chars[chIdx]?).bind fun c => bleServicesGetCharacteristicDescriptorByUuids s.uuid c.uuid

/-! ## contexts -/

/-- `ble_services_find_translation_context` -/
def bleServicesFindTranslationContext (device : BleDevice) (p : Path) :
    Option TranslationContext :=
  device.translations.find? fun ctx => ctx.path = p

/-- `ble_services_configure_translation_context` -/
def bleServicesConfigureTranslationContext (c : Client) (device : BleDevice) (svIdx chIdx : Nat)
    (p : Path) (characteristicExtraFlags : UInt32) : BleDevice × Client :=
  match c.takeFault with
  | (true, c) => (device, c)
  | (false, c) =>
    let tc : TranslationContext :=
      { objectId := p.objectId, objectInstanceId := p.instanceId, resourceId := p.resourceId,
        characteristicExtraFlags, chIdx, svIdx }
    ({ device with translations := device.translations ++ [tc] }, c)

/-! ## values -/

/-- `raw_value`: the first four bytes, least significant first -/
def rawValue (value : Bytes) : Nat := leNat (value.take 4)

/-- `(float) raw_value`, which keeps 24 binary digits -/
def floatOfUInt32 (rawValue : Nat) : Nat := roundDigits 24 rawValue

/-- `(float) (x * pow(10, exponent))`, multiplied as doubles -/
def Host.floatValue (h : Host) (x : ℚ) (exponent : Int) : UInt32 :=
  h.floatOfRat (h.doubleOfRat (x * h.pow10 exponent))

/-- `ble_services_decode_value_with_format_descriptor` -/
def bleServicesDecodeValueWithFormatDescriptor (h : Host) (c : Client) (device : BleDevice)
    (descriptor : BleCharacteristic) (ctx : TranslationContext) (value : Bytes) :
    Option Bytes × Client :=
  if descriptor.format = .reserved1 then (none, c)
  else if descriptor.exponent < 0 ∨ descriptor.format = .float32Ieee754 then
    -- represent as float
    let floatValue := h.floatValue (floatOfUInt32 (rawValue value)) descriptor.exponent
    let buf := convertFloatValueToNetworkByteOrder h.byteOrder floatValue
    -- the status of the update is not looked at
    (some buf, (ipsoUpdateMinMaxFields h.byteOrder c device.deviceId ctx.objectId
      ctx.objectInstanceId floatValue).2)
  else
    -- represent as int; only the first byte of the buffer is ever written
    let raw := rawValue value * 10 ^ descriptor.exponent.toNat % 2 ^ 32
    let htonl := fun x => UInt8.ofNat (h.byteOrder.netOrder 4 x)
    match descriptor.format with
    | .boolean => (some [if raw % 256 > 0 then 1 else 0], c)
    | .uint2 | .uint4 | .uint8 | .int8 => (some [UInt8.ofNat raw], c)
    | .uint12 | .uint16 | .int12 | .int16 => (some [htonl (raw % 2 ^ 16), h.unset 1], c)
    | .uint24 | .uint32 | .int24 | .int32 =>
      (some [htonl raw, h.unset 1, h.unset 2, h.unset 3], c)
    | _ => (none, c)

/-- `value >> n` of an `int` that is not negative -/
def Host.shiftRight (h : Host) (value n : Nat) : Nat :=
  if n < 32 then value >>> n else h.overshift value n

/-- `ble_services_decode_2bit_bitfield_value` -/
def bleServicesDecode2bitBitfieldValue (h : Host) (c : Client) (ctx : TranslationContext)
    (value : Bytes) : Option Bytes × Client :=
  let offset := ctx.characteristicExtraFlags
  let raw := h.shiftRight (value.headD h.stray).toNat (offset * 2).toNat
  match c.takeFault with
  | (true, c) => (none, c)
  | (false, c) => (some [UInt8.ofNat (raw % 4)], c)

/-- `characteristic_value_decode` of a descriptor -/
def ValueDecode.call (h : Host) (c : Client) (device : BleDevice) (descriptor : BleCharacteristic)
    (ctx : TranslationContext) (value : Bytes) : Option Bytes × Client :=
  match descriptor.decode with
  | .withFormatDescriptor =>
    bleServicesDecodeValueWithFormatDescriptor h c device descriptor ctx value
  | .twoBitBitfield => bleServicesDecode2bitBitfieldValue h c ctx value

/-- `ble_services_encode_2bit_bitfield_value` -/
def bleServicesEncode2bitBitfieldValue (h : Host) (c : Client) (ctx : TranslationContext)
    (current new : Bytes) : Option Bytes × Client :=
  let offset := (ctx.characteristicExtraFlags * 2).toNat
  let byteOffset := offset / 8
  let bitOffset := UInt8.ofNat (offset % 8)
  let outSize := byteOffset + 1
  if outSize > current.length then (none, c)
  else
    match c.takeFault with
    | (true, c) => (none, c)
    | (false, c) =>
      let buf := current.take outSize
      -- change only the two bits of this field
      let buf := buf.modify byteOffset fun b => b &&& ~~~((3 : UInt8) <<< bitOffset)
      let buf := if new.headD h.stray ≠ 0 then
          buf.modify byteOffset fun b => b ||| ((1 : UInt8) <<< bitOffset)
        else buf
      (some buf, c)

/-- `ble_services_encode_characteristic_value` -/
def bleServicesEncodeCharacteristicValue (h : Host) (c : Client) (device : BleDevice)
    (ctx : TranslationContext) (current new : Bytes) : Option Bytes × Client :=
  match (device.descriptor? ctx.svIdx ctx.chIdx).bind (·.encode) with
  | none => (none, c)
  | some .twoBitBitfield => bleServicesEncode2bitBitfieldValue h c ctx current new

/-- `ble_services_decode_and_write_characteristic_translation` -/
def bleServicesDecodeAndWriteCharacteristicTranslation (h : Host) (c : Client)
    (device : BleDevice) (svIdx chIdx : Nat) (value : Bytes) : Client :=
  match device.descriptor? svIdx chIdx with
  | none => c
  | some descriptor =>
    device.translations.foldl (fun c ctx =>
      if ctx.svIdx = svIdx ∧ ctx.chIdx = chIdx then
        match ValueDecode.call h c device descriptor ctx value with
        | (none, c) => c
        | (some decoded, c) => (deviceSetResourceValue c device.deviceId ctx.path decoded).2
      else c) c

/-! ## reads -/

/-- `parse_result_variant` from index `datasize` on; the iterator has `reply` left -/
def parseResultVariantFrom (h : Host) (maxsize : Nat) : Bytes → Bytes → Nat → Bytes × Nat
  | data, [], datasize =>
    if datasize < maxsize then
      (if h.clearsAtEnd then data.set datasize 0 else data, datasize + 1)
    else (data, datasize)
  | data, b :: reply, datasize =>
    if datasize < maxsize then
      parseResultVariantFrom h maxsize (data.set datasize b) reply (datasize + 1)
    else (data, datasize)

/-- `parse_result_variant`: the buffer afterwards and the size; the index is advanced before the
iterator says whether there was another byte -/
def parseResultVariant (h : Host) (data : Bytes) (size : Nat) (reply : Bytes) : Bytes × Nat :=
  parseResultVariantFrom h size data reply 0

/-- what a synchronous or asynchronous `ReadValue` call comes back with -/
inductive ReadOutcome where
  /-- a `GError` with its code -/
  | failed (code : Int)
  | reply (value : Bytes)
  deriving DecidableEq, Repr

/-- `ble_read_characteristic` -/
def bleReadCharacteristic (h : Host) (data : Bytes) (size : Nat) : ReadOutcome → Int × Bytes
  | .failed code => (code, data)
  | .reply value => (0, (parseResultVariant h data size value).1)

/-! ## constructors -/

/-- `ble_services_construct_sensor` -/
def bleServicesConstructSensor (h : Host) (c : Client) (device : BleDevice) (svIdx chIdx : Nat)
    (sensorId : UInt16) (sensorUnits sensorDescription : String) : Bool × BleDevice × Client :=
  match deviceGetNextFreeObjectInstanceId h.nextFreeInstance c device.deviceId sensorId with
  | (inst, c) =>
    if inst < 0 ∨ inst > 65535 then (false, device, c)
    else
      let inst := UInt16.ofNat inst.toNat
      let c := ipsoCreateSensorObject h.byteOrder c device.deviceId sensorId inst sensorUnits
        sensorDescription
      let c := ipsoAddMinMaxFields h.byteOrder c device.deviceId sensorId inst
      (true, bleServicesConfigureTranslationContext c device svIdx chIdx
        ⟨sensorId, inst, sensorValue⟩ 0)

/-- the loop of the light control and push button constructors, from `bitfieldOffset` on: a new
instance of the object with one resource for each of `count` fields -/
def bleServicesConstructDigital (h : Host) (objectId resourceId : UInt16) (operations : UInt8)
    (svIdx chIdx : Nat) :
    (count bitfieldOffset : Nat) → BleDevice → Client → Bool × BleDevice × Client
  | 0, _, device, c => (true, device, c)
  | count + 1, bitfieldOffset, device, c =>
    match deviceGetNextFreeObjectInstanceId h.nextFreeInstance c device.deviceId objectId with
    | (id, c) =>
      if id < 0 ∨ id > 65535 then (false, device, c)
      else
        let p : Path := ⟨objectId, UInt16.ofNat id.toNat, resourceId⟩
        match edgeAddResource c device.deviceId p .boolean operations [0] with
        | (false, c) => (false, device, c)
        | (true, c) =>
          match bleServicesConfigureTranslationContext c device svIdx chIdx p
            (UInt32.ofNat bitfieldOffset) with
          | (device, c) =>
            bleServicesConstructDigital h objectId resourceId operations svIdx chIdx count
              (bitfieldOffset + 1) device c

def bleServicesConstructLightcontrolFromCharacteristic (h : Host) (c : Client) (device : BleDevice)
    (svIdx chIdx : Nat) : Bool × BleDevice × Client :=
  bleServicesConstructDigital h lightControl onOffValue (operationRead ||| operationWrite)
    svIdx chIdx 2 0 device c

def bleServicesConstructPushbuttonFromCharacteristic (h : Host) (c : Client) (device : BleDevice)
    (svIdx chIdx : Nat) : Bool × BleDevice × Client :=
  bleServicesConstructDigital h pushButton digitalInputState operationWrite svIdx chIdx 2 0 device c

/-- `ble_services_construct_automation_io_characteristic` -/
def bleServicesConstructAutomationIoCharacteristic (h : Host) (c : Client) (device : BleDevice)
    (svIdx chIdx : Nat) : Bool × BleDevice × Client :=
  match device.char? svIdx chIdx with
  | none => (false, device, c)
  | some characteristic =>
    if characteristic.properties &&& bleGattPropPermWrite ≠ 0 then
      bleServicesConstructLightcontrolFromCharacteristic h c device svIdx chIdx
    else if characteristic.properties &&& bleGattPropPermRead ≠ 0 then
      bleServicesConstructPushbuttonFromCharacteristic h c device svIdx chIdx
    else (false, device, c)

/-- `characteristic_construct` of a descriptor -/
def CharacteristicConstruct.call (h : Host) (c : Client) (device : BleDevice) (svIdx chIdx : Nat) :
    CharacteristicConstruct → Bool × BleDevice × Client
  | .temperature => bleServicesConstructSensor h c device svIdx chIdx temperatureSensor "Cel"
      "Ambient temperature"
  | .humidity => bleServicesConstructSensor h c device svIdx chIdx humiditySensor "RH%"
      "Relative humidity"
  | .barometer => bleServicesConstructSensor h c device svIdx chIdx barometerSensor "Pa"
      "Atmospheric pressure"
  | .automationIo => bleServicesConstructAutomationIoCharacteristic h c device svIdx chIdx

/-- `ble_services_construct_characteristic` -/
def bleServicesConstructCharacteristic (h : Host) (c : Client) (device : BleDevice)
    (svIdx chIdx : Nat) : BleDevice × Client :=
  match device.descriptor? svIdx chIdx with
  | none => (device, c)
  | some descriptor => (descriptor.construct.call h c device svIdx chIdx).2

/-- the strings of a Device Information service -/
inductive DisString where
  | manufacturer
  | model
  | serial
  | firmware
  | hardware
  deriving DecidableEq, Repr

def disUuids : List (String × DisString) :=
  [ ("00002A29-0000-1000-8000-00805F9B34FB", .manufacturer),
    ("00002A24-0000-1000-8000-00805F9B34FB", .model),
    ("00002A25-0000-1000-8000-00805F9B34FB", .serial),
    ("00002A26-0000-1000-8000-00805F9B34FB", .firmware),
    ("00002A27-0000-1000-8000-00805F9B34FB", .hardware) ]

/-- the string of a characteristic (`strcasecmp`) -/
def disString (uuid : String) : Option DisString :=
  (disUuids.find? fun u =>
    sameIgnoringCase (max u.1.length uuid.length) uuid u.1).map (·.2)

/-- the 128-byte buffers on the stack and which of them the device object data points to -/
structure DisBuffers where
  buffer : DisString → Bytes
  read : DisString → Bool

/-- one characteristic of the loop of `ble_services_construct_dis_service` -/
def DisBuffers.readCharacteristic (h : Host) (b : DisBuffers) (uuid : String)
    (outcome : ReadOutcome) : DisBuffers :=
  match disString uuid with
  | none => b
  | some f =>
    match bleReadCharacteristic h (b.buffer f) 128 outcome with
    | (rc, data) =>
      { buffer := Function.update b.buffer f data
        read := if rc = 0 then Function.update b.read f true else b.read }

/-- the C string in a buffer, if the data points to it -/
def DisBuffers.string (b : DisBuffers) (f : DisString) : Option Bytes :=
  if b.read f then some ((b.buffer f).takeWhile (· ≠ 0)) else none

/-- `ble_services_construct_dis_service`; `stack` is what the buffers hold before, `reads` the
outcomes of the reads -/
def bleServicesConstructDisService (h : Host) (c : Client) (device : BleDevice) (svIdx : Nat)
    (stack : DisString → Bytes) (reads : Nat → ReadOutcome) : Client :=
  let chars := ((device.services[svIdx]?).map (·.chars)).getD []
  let b := chars.zipIdx.foldl (fun (b : DisBuffers) (ch, i) =>
    b.readCharacteristic h ch.uuid (reads i)) ⟨stack, fun _ => false⟩
  ptdoInitializeDeviceObject h c device.deviceId
    { manufacturer := b.string .manufacturer, modelNumber := b.string .model,
      serialNumber := b.string .serial, firmwareVersion := b.string .firmware,
      hardwareVersion := b.string .hardware, softwareVersion := some (cBytes "N/A"),
      deviceType := some (cBytes "Bluetooth 4.0") }

/-- `ble_services_construct_service` -/
def bleServicesConstructService (h : Host) (c : Client) (device : BleDevice) (svIdx : Nat)
    (stack : DisString → Bytes) (reads : Nat → ReadOutcome) : Client :=
  match (device.services[svIdx]?).bind fun s => bleServicesGetServiceDescriptor s.uuid with
  | some ⟨_, some .dis, _⟩ => bleServicesConstructDisService h c device svIdx stack reads
  | _ => c

/-! ## what decoding touches -/

/-- a resource derived from a characteristic: one of its contexts, or the minimum or maximum of the
instance of one -/
def IsDerived (device : BleDevice) (svIdx chIdx : Nat) (id : String) (p : Path) : Prop :=
  id = device.deviceId ∧ ∃ ctx ∈ device.translations, ctx.svIdx = svIdx ∧ ctx.chIdx = chIdx ∧
    (p = ctx.path ∨ IsBound device.deviceId ctx.objectId ctx.objectInstanceId id p)

theorem ValueDecode.call_cases (h : Host) (c : Client) (device : BleDevice)
    (descriptor : BleCharacteristic) (ctx : TranslationContext) (value : Bytes) :
    let c' := (ValueDecode.call h c device descriptor ctx value).2
    Grows c c' ∧ SameExcept (IsBound device.deviceId ctx.objectId ctx.objectInstanceId) c c' := by
  have hrefl : Grows c c ∧
      SameExcept (IsBound device.deviceId ctx.objectId ctx.objectInstanceId) c c :=
    ⟨.refl c, .refl _ c⟩
  unfold ValueDecode.call
  cases descriptor.decode with
  | withFormatDescriptor =>
    simp only [bleServicesDecodeValueWithFormatDescriptor]
    split
    · exact hrefl
    · split
      · exact ipsoUpdateMinMaxFields_cases ..
      · split <;> exact hrefl
  | twoBitBitfield =>
    have hg := takeFault_grows c
    have hs := takeFault_sameExcept
      (IsBound device.deviceId ctx.objectId ctx.objectInstanceId) c
    simp only [bleServicesDecode2bitBitfieldValue]
    rcases hf : c.takeFault with ⟨_ | _, c₁⟩ <;> rw [hf] at hg hs <;> exact ⟨hg, hs⟩

theorem decodeAndWrite_cases (h : Host) (c : Client) (device : BleDevice) (svIdx chIdx : Nat)
    (value : Bytes) :
    let c' := bleServicesDecodeAndWriteCharacteristicTranslation h c device svIdx chIdx value
    Grows c c' ∧ SameExcept (IsDerived device svIdx chIdx) c c' := by
  simp only [bleServicesDecodeAndWriteCharacteristicTranslation]
  cases device.descriptor? svIdx chIdx with
  | none => exact ⟨.refl c, .refl _ c⟩
  | some descriptor =>
    -- the induction is on the contexts still to come, all of them contexts of the device
    suffices hfold : ∀ ctxs : List TranslationContext, (∀ ctx ∈ ctxs, ctx ∈ device.translations) →
        ∀ c, let c' := ctxs.foldl (fun c ctx =>
            if ctx.svIdx = svIdx ∧ ctx.chIdx = chIdx then
              match ValueDecode.call h c device descriptor ctx value with
              | (none, c) => c
              | (some decoded, c) => (deviceSetResourceValue c device.deviceId ctx.path decoded).2
            else c) c
          Grows c c' ∧ SameExcept (IsDerived device svIdx chIdx) c c' from
      hfold device.translations (fun _ hm => hm) c
    intro ctxs
    induction ctxs with
    | nil => intro _ c; exact ⟨.refl c, .refl _ c⟩
    | cons ctx ctxs ih =>
      intro hmem c
      have hctx : ctx ∈ device.translations := hmem ctx List.mem_cons_self
      have hrest := ih fun x hx => hmem x (List.mem_cons_of_mem _ hx)
      rw [List.foldl_cons]
      by_cases hat : ctx.svIdx = svIdx ∧ ctx.chIdx = chIdx
      · have hbound : ∀ id p,
            IsBound device.deviceId ctx.objectId ctx.objectInstanceId id p →
              IsDerived device svIdx chIdx id p :=
          fun id p hb => ⟨hb.1, ctx, hctx, hat.1, hat.2, .inr hb⟩
        have hpath : ∀ id p, (id = device.deviceId ∧ p = ctx.path) →
            IsDerived device svIdx chIdx id p :=
          fun id p hp => ⟨hp.1, ctx, hctx, hat.1, hat.2, .inl hp.2⟩
        obtain ⟨hg, hs⟩ := ValueDecode.call_cases h c device descriptor ctx value
        rw [if_pos hat]
        generalize ValueDecode.call h c device descriptor ctx value = r at hg hs ⊢
        obtain ⟨_ | decoded, c₁⟩ := r
        · obtain ⟨hg', hs'⟩ := hrest c₁
          exact ⟨hg.trans hg', (hs.mono hbound).trans hs'⟩
        · obtain ⟨hg', hs'⟩ := hrest (deviceSetResourceValue c₁ device.deviceId ctx.path decoded).2
          exact ⟨(hg.trans (deviceSetResourceValue_grows ..)).trans hg',
            ((hs.mono hbound).trans ((deviceSetResourceValue_sameExcept c₁ device.deviceId
              ctx.path decoded).mono hpath)).trans hs'⟩
      · rw [if_neg hat]
        exact hrest c

/-! ## what constructing does -/

/-- the client has grown, and the device has got contexts for characteristics in `At`, for
resources that exist unless something failed -/
structure Translated (At : Nat → Nat → Prop) (c : Client) (device : BleDevice) (c' : Client)
    (device' : BleDevice) : Prop where
  grows : Grows c c'
  contexts : ∃ ctxs, device' = { device with translations := device.translations ++ ctxs } ∧
    ∀ ctx ∈ ctxs, At ctx.svIdx ctx.chIdx ∧
      (Ready c device.deviceId → c'.HasPath device.deviceId ctx.path)

section
variable {At : Nat → Nat → Prop} {c c' c'' : Client} {device device' device'' : BleDevice}

theorem Translated.of_grows (h : Grows c c') : Translated At c device c' device :=
  ⟨h, [], by rw [List.append_nil], fun _ h => absurd h List.not_mem_nil⟩

theorem Translated.deviceId (h : Translated At c device c' device') :
    device'.deviceId = device.deviceId := by
  obtain ⟨ctxs, rfl, _⟩ := h.contexts
  rfl

theorem Translated.services (h : Translated At c device c' device') :
    device'.services = device.services := by
  obtain ⟨ctxs, rfl, _⟩ := h.contexts
  rfl

theorem Translated.trans (h : Translated At c device c' device')
    (h' : Translated At c' device' c'' device'') : Translated At c device c'' device'' := by
  refine ⟨h.grows.trans h'.grows, ?_⟩
  obtain ⟨ctxs, rfl, hctxs⟩ := h.contexts
  obtain ⟨ctxs', rfl, hctxs'⟩ := h'.contexts
  refine ⟨ctxs ++ ctxs', by simp, fun ctx hctx => ?_⟩
  rcases List.mem_append.mp hctx with hctx | hctx
  · exact ⟨(hctxs ctx hctx).1, fun hr => h'.grows.paths _ _ ((hctxs ctx hctx).2 hr)⟩
  · exact ⟨(hctxs' ctx hctx).1, fun hr => (hctxs' ctx hctx).2 (h.grows.ready hr)⟩

theorem Translated.mono {At' : Nat → Nat → Prop} (h : Translated At c device c' device')
    (himp : ∀ sv ch, At sv ch → At' sv ch) : Translated At' c device c' device' := by
  refine ⟨h.grows, ?_⟩
  obtain ⟨ctxs, hdev, hctxs⟩ := h.contexts
  exact ⟨ctxs, hdev, fun ctx hctx => ⟨himp _ _ (hctxs ctx hctx).1, (hctxs ctx hctx).2⟩⟩

end

section
variable (h : Host) (c : Client) (device : BleDevice) (svIdx chIdx : Nat)

/-- a context for a resource that exists unless something failed -/
theorem configureTranslationContext_translated {c₀ : Client} (hgrows : Grows c₀ c) (p : Path)
    (flags : UInt32) (hp : Ready c₀ device.deviceId → c.HasPath device.deviceId p) :
    Translated (fun sv ch => sv = svIdx ∧ ch = chIdx) c₀ device
      (bleServicesConfigureTranslationContext c device svIdx chIdx p flags).2
      (bleServicesConfigureTranslationContext c device svIdx chIdx p flags).1 := by
  have hg := takeFault_grows c
  unfold bleServicesConfigureTranslationContext
  rcases hf : c.takeFault with ⟨_ | _, c₁⟩ <;> rw [hf] at hg <;> simp only
  · refine ⟨hgrows.trans hg, _, rfl, fun ctx hctx => ?_⟩
    obtain rfl := List.mem_singleton.mp hctx
    exact ⟨⟨rfl, rfl⟩, fun hr => hg.paths _ _ (hp hr)⟩
  · exact .of_grows (hgrows.trans hg)

theorem constructSensor_translated (sensorId : UInt16) (units description : String) :
    Translated (fun sv ch => sv = svIdx ∧ ch = chIdx) c device
      (bleServicesConstructSensor h c device svIdx chIdx sensorId units description).2.2
      (bleServicesConstructSensor h c device svIdx chIdx sensorId units description).2.1 := by
  have hg := deviceGetNextFreeObjectInstanceId_grows h.nextFreeInstance c device.deviceId sensorId
  unfold bleServicesConstructSensor
  generalize deviceGetNextFreeObjectInstanceId h.nextFreeInstance c device.deviceId sensorId = r at hg ⊢
  obtain ⟨inst, c₁⟩ := r
  simp only at hg ⊢
  split
  · exact .of_grows hg
  · have hg2 := hg.trans (ipsoCreateSensorObject_grows h.byteOrder c₁ device.deviceId sensorId
      (UInt16.ofNat inst.toNat) units description)
    have hg3 := ipsoAddMinMaxFields_grows h.byteOrder (ipsoCreateSensorObject h.byteOrder c₁
      device.deviceId sensorId (UInt16.ofNat inst.toNat) units description) device.deviceId
      sensorId (UInt16.ofNat inst.toNat)
    exact configureTranslationContext_translated _ device svIdx chIdx (hg2.trans hg3) _ 0
      fun hr => hg3.paths _ _ (ipsoCreateSensorObject_hasPath _ _ _ _ _ (hg.ready hr))

theorem constructDigital_translated (objectId resourceId : UInt16) (operations : UInt8)
    (count bitfieldOffset : Nat) :
    Translated (fun sv ch => sv = svIdx ∧ ch = chIdx) c device
      (bleServicesConstructDigital h objectId resourceId operations svIdx chIdx count
        bitfieldOffset device c).2.2
      (bleServicesConstructDigital h objectId resourceId operations svIdx chIdx count
        bitfieldOffset device c).2.1 := by
  induction count generalizing bitfieldOffset device c with
  | zero => exact .of_grows (.refl c)
  | succ count ih =>
    have hg := deviceGetNextFreeObjectInstanceId_grows h.nextFreeInstance c device.deviceId objectId
    unfold bleServicesConstructDigital
    generalize deviceGetNextFreeObjectInstanceId h.nextFreeInstance c device.deviceId objectId = r at hg ⊢
    obtain ⟨id, c₁⟩ := r
    simp only at hg ⊢
    split
    · exact .of_grows hg
    · have hg2 := hg.trans (edgeAddResource_grows c₁ device.deviceId
        ⟨objectId, UInt16.ofNat id.toNat, resourceId⟩ .boolean operations [0])
      have hp : Ready c₁ device.deviceId → (edgeAddResource c₁ device.deviceId
          ⟨objectId, UInt16.ofNat id.toNat, resourceId⟩ .boolean operations [0]).2.HasPath
            device.deviceId ⟨objectId, UInt16.ofNat id.toNat, resourceId⟩ :=
        edgeAddResource_hasPath _ _ _ _
      generalize edgeAddResource c₁ device.deviceId ⟨objectId, UInt16.ofNat id.toNat, resourceId⟩
        .boolean operations [0] = r at hg2 hp ⊢
      obtain ⟨_ | _, c₂⟩ := r
      · exact .of_grows hg2
      · exact (configureTranslationContext_translated c₂ device svIdx chIdx hg2 _ _
          fun hr => hp (hg.ready hr)).trans (ih _ _ _)

theorem constructAutomationIo_translated :
    Translated (fun sv ch => sv = svIdx ∧ ch = chIdx) c device
      (bleServicesConstructAutomationIoCharacteristic h c device svIdx chIdx).2.2
      (bleServicesConstructAutomationIoCharacteristic h c device svIdx chIdx).2.1 := by
  unfold bleServicesConstructAutomationIoCharacteristic
  cases device.char? svIdx chIdx with
  | none => exact .of_grows (.refl c)
  | some characteristic =>
    simp only
    split
    · exact constructDigital_translated ..
    · split
      · exact constructDigital_translated ..
      · exact .of_grows (.refl c)

theorem constructCharacteristic_translated :
    Translated (fun sv ch => sv = svIdx ∧ ch = chIdx) c device
      (bleServicesConstructCharacteristic h c device svIdx chIdx).2
      (bleServicesConstructCharacteristic h c device svIdx chIdx).1 := by
  unfold bleServicesConstructCharacteristic
  cases device.descriptor? svIdx chIdx with
  | none => exact .of_grows (.refl c)
  | some descriptor =>
    simp only
    cases descriptor.construct with
    | temperature => exact constructSensor_translated ..
    | humidity => exact constructSensor_translated ..
    | barometer => exact constructSensor_translated ..
    | automationIo => exact constructAutomationIo_translated ..

theorem constructService_grows (stack : DisString → Bytes) (reads : Nat → ReadOutcome) :
    Grows c (bleServicesConstructService h c device svIdx stack reads) := by
  unfold bleServicesConstructService
  split
  · exact ptdoInitializeDeviceObject_grows ..
  · exact .refl c

end

end EdgeTranslators.Ble
