import Mathlib.Algebra.Field.Rat
import EdgeTranslators.Pt.Ipso

/-!
# A BLE device and its GATT table (`devices.h`, `devices.c`, `pt_edge.c`)

* `GattChar`, `GattService`, `TranslationContext`, `BleDevice`   the device context;
* `deviceAddGattCharacteristic`    a characteristic found on the device joins its service, with a
                                   buffer of the size `mapUuidToDatatype` gives;
* `jsonListDeviceServices`         the introspection text, cut off at the size computed for it;
* `edgeAddResource`, `edgeSetResourceValue`, `edgeCreateDevice`   the PT calls of `pt_edge.c`;
* `devicesMakeDeviceId`            the device id, cut off at the size of its buffer.

A C string is a `String`, one character a byte; `devicesFind…` and the list of devices are in
`Translator.lean`.
-/

namespace EdgeTranslators.Ble
open Lib Pt

/-! ## the types -/

/-- what a D-Bus `Address` property holds -/
abbrev BtAddress := { s : String // s.length = 17 }

/-- a `GDBusProxy` on the `org.bluez.Device1` interface of an object -/
structure DeviceProxy where
  path : String
  address : Option BtAddress
  deriving DecidableEq

inductive BleDeviceType where
  | unknown
  | persistentGattServer
  | gapAdvertisementOnly
  deriving DecidableEq, Repr

inductive BleDatatype where
  | boolean
  | integer
  | float
  | string
  | struct
  deriving DecidableEq, Repr

def bleGattPropPermRead : Nat := 1
def bleGattPropPermWrite : Nat := 2
def bleGattPropPermNotify : Nat := 4

structure GattChar where
  /-- `BLE_GATT_PROP_PERM_*` -/
  properties : Nat
  uuid : String
  dbusPath : String
  dtype : BleDatatype
  resourceId : UInt16
  value : Bytes
  /-- allocated size of `value` -/
  valueSize : Nat
  /-- actual length of the stored data -/
  valueLength : Nat
  sized : value.length = valueSize
  deriving DecidableEq

structure GattService where
  dbusPath : Option String
  chars : List GattChar
  uuid : String
  deriving DecidableEq

structure TranslationContext where
  objectId : UInt16
  objectInstanceId : UInt16
  resourceId : UInt16
  characteristicExtraFlags : UInt32
  chIdx : Nat
  svIdx : Nat
  deriving DecidableEq, Repr

structure BleDevice where
  /-- the identity of the allocated context -/
  ptr : Nat
  lastConnectedTimestampSecs : Nat
  /-- `BLE_DEVICE_FLAG_REGISTERED` -/
  registered : Bool
  /-- `BLE_DEVICE_FLAG_CONNECTED` -/
  connected : Bool
  deviceId : String
  proxy : DeviceProxy
  addr : String
  services : List GattService
  dbusPath : String
  jsonList : Option String
  deviceType : BleDeviceType
  translations : List TranslationContext
  /-- the GLib source of the armed retry timer, 0 if there is none -/
  retryTimerSource : Nat
  connectionRetries : Nat
  servicesResolved : Bool
  deriving DecidableEq

/-- the resource a context stands for -/
def TranslationContext.path (ctx : TranslationContext) : Path :=
  ⟨ctx.objectId, ctx.objectInstanceId, ctx.resourceId⟩

/-- `attrs.services[svc].chars[ch]` -/
def BleDevice.char? (ble : BleDevice) (svc ch : Nat) : Option GattChar :=
  (ble.services[svc]?).bind fun s => s.chars[ch]?

def GattService.setChar (s : GattService) (ch : Nat) (c : GattChar) : GattService :=
  { s with chars := s.chars.set ch c }

def BleDevice.setChar (ble : BleDevice) (svc ch : Nat) (c : GattChar) : BleDevice :=
  { ble with services := ble.services.modify svc fun s => s.setChar ch c }

/-- `device_create`: the context at `ptr`, made at the time `now` -/
def deviceCreate (ptr now : Nat) (addr : String) : BleDevice :=
  { ptr, lastConnectedTimestampSecs := now, registered := false, connected := false,
    deviceId := "", proxy := ⟨"", none⟩, addr, services := [], dbusPath := "", jsonList := none,
    deviceType := .unknown, translations := [], retryTimerSource := 0, connectionRetries := 0,
    servicesResolved := false }

theorem BleDevice.char?_eq_some {ble : BleDevice} {svc ch : Nat} {c : GattChar} :
    ble.char? svc ch = some c ↔ ∃ s, ble.services[svc]? = some s ∧ s.chars[ch]? = some c := by
  unfold char?
  exact Option.bind_eq_some_iff

theorem BleDevice.char?_setChar_self {ble : BleDevice} {svc ch : Nat}
    (h : (ble.char? svc ch).isSome) (c' : GattChar) :
    (ble.setChar svc ch c').char? svc ch = some c' := by
  obtain ⟨c, hc⟩ := Option.isSome_iff_exists.mp h
  obtain ⟨s, hs, hch⟩ := char?_eq_some.mp hc
  have hlt : ch < s.chars.length := (List.getElem?_eq_some_iff.mp hch).1
  simp [char?, setChar, GattService.setChar, hs, hlt]

theorem BleDevice.char?_setChar_ne {ble : BleDevice} {svc ch svc' ch' : Nat} (c' : GattChar)
    (h : ¬(svc' = svc ∧ ch' = ch)) :
    (ble.setChar svc ch c').char? svc' ch' = ble.char? svc' ch' := by
  unfold char? setChar
  rw [List.getElem?_modify]
  by_cases e : svc = svc'
  · subst e
    have hch : ch ≠ ch' := fun e => h ⟨rfl, e.symm⟩
    cases ble.services[svc]? with
    | none => rfl
    | some s => simp [GattService.setChar, List.getElem?_set_ne hch]
  · cases ble.services[svc']? with
    | none => rfl
    | some s => simp [e]

/-! ## the GATT table -/

/-- `FORMATTED_UUID_LEN` -/
def formattedUuidLen : Nat := 36

/-- what `strncpy` and `snprintf` keep of a string in a buffer for `n` characters -/
def cut (n : Nat) (s : String) : String := String.ofList (s.toList.take n)

/-- `map_uuid_to_datatype`: data type and size; the resource id is left at its default -/
def mapUuidToDatatype (uuid : String) : BleDatatype × Nat :=
  if uuid = "0000ed01-0000-1000-8000-00805f9b34fb" then (.integer, 4)
  else if uuid = "0000ed02-0000-1000-8000-00805f9b34fb" then (.string, 32)
  else (.struct, 512)

/-- `add_char_to_service` for a characteristic without a resource id of its own -/
def addCharToService (srvc : GattService) (uuid dbusPath : String) (properties : Nat)
    (dtype : BleDatatype) (dsize : Nat) : GattService :=
  { srvc with
    chars := srvc.chars ++
      [{ properties, uuid := cut (formattedUuidLen + 1) uuid, dbusPath, dtype,
         resourceId := UInt16.ofNat srvc.chars.length,
         value := List.replicate dsize 0, valueSize := dsize, valueLength := 0,
         sized := List.length_replicate }] }

/-- `get_service`: the index of the service with the UUID, and the table with it -/
def getService (services : List GattService) (uuid : String) : Nat × List GattService :=
  match services.findIdx? fun s => s.uuid = cut (formattedUuidLen + 1) uuid with
  | some svc => (svc, services)
  | none =>
    (services.length, services ++ [⟨none, [], cut formattedUuidLen uuid⟩])

/-- `device_add_gatt_characteristic` -/
def deviceAddGattCharacteristic (ble : BleDevice) (srvcUuid srvcDbusPath charUuid charDbusPath :
    String) (properties : Nat) : BleDevice :=
  let (svc, services) := getService ble.services srvcUuid
  let (dtype, dsize) := mapUuidToDatatype charUuid
  let addTo := fun srvc : GattService =>
    let srvc := { srvc with dbusPath := srvc.dbusPath.or (some srvcDbusPath) }
    addCharToService srvc charUuid charDbusPath properties dtype dsize
  { ble with services := services.modify svc addTo }

/-- what `add_char_to_service` makes of the characteristic at index `ch` of a service -/
structure GattChar.WellFormed (c : GattChar) (ch : Nat) : Prop where
  resourceId : c.resourceId = UInt16.ofNat ch
  typed : (c.dtype, c.valueSize) = mapUuidToDatatype c.uuid

def GattTable (services : List GattService) : Prop :=
  ∀ s ∈ services, ∀ (ch : Nat) (c : GattChar), s.chars[ch]? = some c → c.WellFormed ch

theorem cut_of_le {n : Nat} {s : String} (h : s.length ≤ n) : cut n s = s := by
  unfold cut
  rw [List.take_of_length_le (by rwa [String.length_toList]), String.ofList_toList]

theorem addCharToService_wellFormed {srvc : GattService} (uuid dbusPath : String)
    (properties : Nat) (huuid : uuid.length ≤ formattedUuidLen)
    (h : ∀ (ch : Nat) (c : GattChar), srvc.chars[ch]? = some c → c.WellFormed ch) :
    ∀ (ch : Nat) (c : GattChar), (addCharToService srvc uuid dbusPath properties (mapUuidToDatatype uuid).1
      (mapUuidToDatatype uuid).2).chars[ch]? = some c → c.WellFormed ch := by
  intro ch c hc
  rcases lt_trichotomy ch srvc.chars.length with hlt | rfl | hgt
  · exact h ch c ((List.getElem?_append_left hlt).symm.trans hc)
  · obtain rfl := Option.some.inj (List.getElem?_concat_length.symm.trans hc)
    exact ⟨rfl, by rw [cut_of_le (Nat.le_succ_of_le huuid)]⟩
  · rw [List.getElem?_eq_none] at hc
    · cases hc
    · simp only [addCharToService, List.length_append, List.length_singleton]
      omega

/-- every table that is built one characteristic after the other is well formed -/
theorem deviceAddGattCharacteristic_gattTable {ble : BleDevice} (srvcUuid srvcDbusPath charUuid
    charDbusPath : String) (properties : Nat) (huuid : charUuid.length ≤ formattedUuidLen)
    (h : GattTable ble.services) :
    GattTable (deviceAddGattCharacteristic ble srvcUuid srvcDbusPath charUuid charDbusPath
      properties).services := by
  have hget : GattTable (getService ble.services srvcUuid).2 := by
    unfold getService
    split
    · exact h
    · intro s hs ch c hc
      rcases List.mem_append.mp hs with hs | hs
      · exact h s hs ch c hc
      · obtain rfl := List.mem_singleton.mp hs
        cases hc
  intro s hs
  obtain ⟨i, hi⟩ := List.mem_iff_getElem?.mp hs
  simp only [deviceAddGattCharacteristic, List.getElem?_modify] at hi
  obtain ⟨s₀, hs₀, hmod⟩ := Option.map_eq_some_iff.mp hi
  have hwf := hget s₀ (List.mem_of_getElem? hs₀)
  split at hmod
  · subst hmod
    exact addCharToService_wellFormed charUuid charDbusPath properties huuid hwf
  · subst hmod
    exact hwf

/-! ## the introspection text -/

/-- `IPSO_OID_BLE_INTROSPECT` -/
def ipsoOidBleIntrospect : UInt16 := 18131
/-- `IPSO_OID_BLE_SERVICE` -/
def ipsoOidBleService : UInt16 := 18135

def jsonDeviceFmt : String := "\x7b\"services\":["
def jsonArrayEnd : String := "]\x7d"

def jsonSrvcFmt (comma uuid : String) (srvc : Nat) : String :=
  comma ++ "\x7b\"uuid\":\"" ++ uuid ++ "\",\"path\":\"/" ++ toString ipsoOidBleService.toNat
    ++ "/" ++ toString srvc ++ "\",\"characteristics\":["

def jsonCharFmt (comma uuid : String) (srvc resourceId : Nat) : String :=
  comma ++ "\x7b\"uuid\":\"" ++ uuid ++ "\",\"path\":\"/" ++ toString ipsoOidBleService.toNat
    ++ "/" ++ toString srvc ++ "/" ++ toString resourceId ++ "\"\x7d"

/-- `JSON_FORMATTED_DEV_LEN`, `JSON_FORMATTED_SRVC_LEN`, `JSON_FORMATTED_CHAR_LEN`: `sizeof` of the
formats `{"services":[`, `%s{"uuid":"%s","path":"/%d/%d","characteristics":[`,
`%s{"uuid":"%s","path":"/%d/%d/%d"}` and `]}` counts their zero -/
def jsonFormattedDevLen : Nat := 14 + 3
def jsonFormattedSrvcLen : Nat := formattedUuidLen + 51 + 3
def jsonFormattedCharLen : Nat := formattedUuidLen + 35 + 3

/-- `snprintf` or `strncat` at the end of the text in a buffer of `size` bytes -/
def appendCut (size : Nat) (text s : String) : String :=
  text ++ cut (size - 1 - text.length) s

/-- one element of a list with its index, the elements after the first with a comma -/
def comma (i : Nat) : String := if i > 0 then "," else ""

/-- `json_list_device_services`, its allocation apart -/
def jsonListDeviceServices (services : List GattService) : String :=
  let chars := (services.map fun s => s.chars.length).sum
  let size := jsonFormattedDevLen + jsonFormattedSrvcLen * services.length
    + jsonFormattedCharLen * chars
  let text := services.zipIdx.foldl (fun text (s, srvc) =>
    let text := appendCut size text (jsonSrvcFmt (comma srvc) s.uuid srvc)
    let text := s.chars.zipIdx.foldl (fun text (c, ch) =>
      appendCut size text (jsonCharFmt (comma ch) c.uuid srvc c.resourceId.toNat)) text
    appendCut size text jsonArrayEnd) (cut (size - 1) jsonDeviceFmt)
  appendCut size text jsonArrayEnd

/-! ## the Edge side -/

/-- `ptdo_device_object_data_t`; `none` is NULL -/
structure DeviceObjectData where
  manufacturer : Option Bytes
  modelNumber : Option Bytes
  serialNumber : Option Bytes
  firmwareVersion : Option Bytes
  hardwareVersion : Option Bytes
  softwareVersion : Option Bytes
  deviceType : Option Bytes
  deriving DecidableEq

/-- what the translators run on: the byte order, the arithmetic of `float`, the memory the code
reads before it is written, what C and GLib leave open, the device object the PT client makes of its
data and the instances it finds for new objects -/
structure Host where
  byteOrder : ByteOrder
  /-- `pow(10, e)` -/
  pow10 : Int → ℚ
  /-- the double nearest to a number -/
  doubleOfRat : ℚ → ℚ
  /-- the float nearest to a number -/
  floatOfRat : ℚ → UInt32
  /-- byte `i` of a block fresh from `malloc` -/
  unset : Nat → UInt8
  /-- the byte behind an empty value -/
  stray : UInt8
  /-- what shifting a number right by the width of an `int` or more gives -/
  overshift : Nat → Nat → Nat
  /-- `g_variant_iter_loop` clears the byte it is given when there is none left to store -/
  clearsAtEnd : Bool
  /-- the `/3/0` resources of `ptdo_initialize_device_object` -/
  deviceObject : DeviceObjectData → List (Path × Resource)
  /-- the free instance of an object of a device, negative if there is none -/
  nextFreeInstance : Resources → UInt16 → Int

/-- a little-endian host that multiplies exactly, whose floats are all 0, whose device objects are
empty and which takes the least free instances -/
def plainHost : Host :=
  { byteOrder := .little, pow10 := fun e => 10 ^ e, doubleOfRat := id, floatOfRat := fun _ => 0,
    unset := fun _ => 0, stray := 0, overshift := fun _ _ => 0, clearsAtEnd := true, deviceObject := fun _ => [],
    nextFreeInstance := leastFreeInstance }

/-- `ptdo_initialize_device_object` -/
def ptdoInitializeDeviceObject (h : Host) (c : Client) (id : String) (data : DeviceObjectData) :
    Client :=
  (h.deviceObject data).foldl (fun c pr => (deviceAddResource c id pr.1 pr.2).2) c

/-- `edge_add_resource` -/
def edgeAddResource (c : Client) (id : String) (p : Path) (type : Lwm2mResourceType)
    (operations : UInt8) (value : Bytes) : Bool × Client :=
  match c.takeFault with
  | (true, c) => (false, c)
  | (false, c) =>
    match deviceAddResource c id p ⟨type, operations, value⟩ with
    | (status, c) => (status = .success, c)

/-- `edge_set_resource_value` -/
def edgeSetResourceValue (c : Client) (id : String) (p : Path) (value : Bytes) : Client :=
  match c.takeFault with
  | (true, c) => c
  | (false, c) => (deviceSetResourceValue c id p value).2

/-- `edge_create_device`; `ok` is false when the PT client refuses the creation -/
def edgeCreateDevice (h : Host) (c : Client) (id : String) (manufacturer modelNumber serialNumber
    deviceType : String) (ok : Bool) : Bool × Client :=
  match Pt.deviceCreate c id ok with
  | (.success, c) =>
    (true, ptdoInitializeDeviceObject h c id
      { manufacturer := some (cBytes manufacturer), modelNumber := some (cBytes modelNumber),
        serialNumber := some (cBytes serialNumber), firmwareVersion := some (cBytes "N/A"),
        hardwareVersion := some (cBytes "N/A"), softwareVersion := some (cBytes "N/A"),
        deviceType := some (cBytes deviceType) })
  | (.itemExists, c) => (true, c)
  | (_, c) => (false, c)

theorem ptdoInitializeDeviceObject_grows (h : Host) (c : Client) (id : String)
    (data : DeviceObjectData) : Grows c (ptdoInitializeDeviceObject h c id data) := by
  unfold ptdoInitializeDeviceObject
  induction h.deviceObject data generalizing c with
  | nil => exact .refl c
  | cons pr prs ih => exact (deviceAddResource_grows c id pr.1 pr.2).trans (ih _)

theorem edgeAddResource_grows (c : Client) (id : String) (p : Path) (type : Lwm2mResourceType)
    (operations : UInt8) (value : Bytes) :
    Grows c (edgeAddResource c id p type operations value).2 := by
  have h0 := takeFault_grows c
  unfold edgeAddResource
  rcases hf : c.takeFault with ⟨_ | _, c₁⟩ <;> rw [hf] at h0 <;> simp only
  · exact h0.trans (deviceAddResource_grows c₁ id p _)
  · exact h0

theorem edgeAddResource_hasPath {c : Client} {id : String} (p : Path) (type : Lwm2mResourceType)
    (operations : UInt8) (value : Bytes) (h : Ready c id) :
    (edgeAddResource c id p type operations value).2.HasPath id p := by
  obtain ⟨rs, hrs⟩ := h.find
  unfold edgeAddResource
  rw [takeFault_of_nil h.1]
  exact deviceAddResource_hasPath p _ h.1 hrs

theorem edgeSetResourceValue_grows (c : Client) (id : String) (p : Path) (value : Bytes) :
    Grows c (edgeSetResourceValue c id p value) := by
  have h0 := takeFault_grows c
  unfold edgeSetResourceValue
  rcases hf : c.takeFault with ⟨_ | _, c₁⟩ <;> rw [hf] at h0 <;> simp only
  · exact h0.trans (deviceSetResourceValue_grows c₁ id p value)
  · exact h0

theorem edgeSetResourceValue_sameExcept (c : Client) (id : String) (p : Path) (value : Bytes) :
    SameExcept (fun id' p' => id' = id ∧ p' = p) c (edgeSetResourceValue c id p value) := by
  have h0 := takeFault_sameExcept (fun id' p' => id' = id ∧ p' = p) c
  unfold edgeSetResourceValue
  rcases hf : c.takeFault with ⟨_ | _, c₁⟩ <;> rw [hf] at h0 <;> simp only
  · exact h0.trans (deviceSetResourceValue_sameExcept c₁ id p value)
  · exact h0

/-! ## device ids -/

/-- `devices_make_device_id` with a buffer of `outSize` bytes -/
def devicesMakeDeviceId (outSize : Nat) (pre bleId endpointPostfix : String) : String :=
  cut (outSize - 1) (pre ++ "-" ++ bleId ++ "-" ++ endpointPostfix)

/-- `BLE_DEVICE_NAME_MAX_LENGTH` -/
def bleDeviceNameMaxLength : Nat := 33

/-- the id of the device with an address -/
def bleDeviceId (endpointPostfix : String) (address : BtAddress) : String :=
  devicesMakeDeviceId bleDeviceNameMaxLength "BLE" address.1 endpointPostfix

/-- the id buffer holds the whole address, so ids tell addresses apart -/
theorem bleDeviceId_inj {endpointPostfix : String} {a b : BtAddress}
    (h : bleDeviceId endpointPostfix a = bleDeviceId endpointPostfix b) : a = b := by
  have take21 : ∀ x : BtAddress,
      ((bleDeviceId endpointPostfix x).toList.take 21) = "BLE-".toList ++ x.1.toList := by
    intro x
    have hx : x.1.toList.length = 17 := by rw [String.length_toList]; exact x.2
    simp only [bleDeviceId, devicesMakeDeviceId, cut, bleDeviceNameMaxLength, String.toList_ofList,
      String.toList_append, List.take_take]
    have hlen : ("BLE".toList ++ "-".toList ++ x.1.toList).length = min 21 (33 - 1) := by
      rw [List.length_append, hx]
      decide
    rw [List.append_assoc ("BLE".toList ++ "-".toList ++ x.1.toList), ← hlen, List.take_left]
    rfl
  have hcut := take21 a
  rw [h, take21 b] at hcut
  exact Subtype.ext (String.toList_inj.mp (List.append_cancel_left hcut).symm)

end EdgeTranslators.Ble
