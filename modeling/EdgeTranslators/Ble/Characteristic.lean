import EdgeTranslators.Ble.Translations

/-!
# Resources, writes and reads of characteristics (`devices.c`, `pt_edge.c`, `pt_ble.c`)

* `deviceAddResourcesFromGatt`              the `/18135` resources of the GATT table and the
                                            introspection resource;
* `deviceAddKnownTranslationsFromGatt`      the resources of supported services;
* `deviceWriteCharacteristic`, `resourceCallbackHandler`   a write request from Edge;
* `bleReadCharacteristicCallback`           the reply of an asynchronous read.
-/

namespace EdgeTranslators.Ble
open Lib Pt

/-! ## the list of devices -/

/-- `devices_find_device_by_device_id` -/
def devicesFindDeviceByDeviceId (devices : List BleDevice) (deviceId : String) :
    Option BleDevice :=
  devices.find? fun d => d.deviceId = deviceId

/-- `devices_find_device_by_dbus_path` -/
def devicesFindDeviceByDbusPath (devices : List BleDevice) (dbusPath : String) :
    Option BleDevice :=
  devices.find? fun d => d.dbusPath = dbusPath

/-- the list with what was written through the pointer of a device -/
def devicesSet (devices : List BleDevice) (ble : BleDevice) : List BleDevice :=
  devices.map fun d => if d.ptr = ble.ptr then ble else d

section
variable {ds : List BleDevice} {d ble ble' : BleDevice}

theorem mem_devicesSet (h : d ∈ devicesSet ds ble') : d = ble' ∨ d ∈ ds := by
  obtain ⟨d₀, hd₀, rfl⟩ := List.mem_map.mp h
  split
  · exact Or.inl rfl
  · exact Or.inr hd₀

theorem devicesSet_mem_of_ptr (hd : d ∈ ds) (hptr : d.ptr = ble'.ptr) : ble' ∈ devicesSet ds ble' :=
  List.mem_map.mpr ⟨d, hd, if_pos hptr⟩

theorem devicesSet_mem_of_ne (hd : d ∈ ds) (hptr : d.ptr ≠ ble'.ptr) : d ∈ devicesSet ds ble' :=
  List.mem_map.mpr ⟨d, hd, if_neg hptr⟩

end

theorem mem_of_devicesFindDeviceByDeviceId {devices : List BleDevice} {deviceId : String}
    {ble : BleDevice} (h : devicesFindDeviceByDeviceId devices deviceId = some ble) :
    ble ∈ devices ∧ ble.deviceId = deviceId :=
  ⟨List.mem_of_find?_eq_some h, by simpa using List.find?_some h⟩

/-- a pointer names one device -/
theorem eq_of_ptr {devices : List BleDevice} (hptr : (devices.map (·.ptr)).Nodup)
    {a b : BleDevice} (ha : a ∈ devices) (hb : b ∈ devices) (h : a.ptr = b.ptr) : a = b :=
  List.inj_on_of_nodup_map hptr ha hb h

/-- writing a device back unchanged -/
theorem devicesSet_self {devices : List BleDevice} (hptr : (devices.map (·.ptr)).Nodup)
    {ble : BleDevice} (hble : ble ∈ devices) : devicesSet devices ble = devices := by
  unfold devicesSet
  conv_rhs => rw [← List.map_id devices]
  refine List.map_congr_left fun d hd => ?_
  by_cases e : d.ptr = ble.ptr
  · rw [if_pos e, eq_of_ptr hptr hd hble e]; rfl
  · rw [if_neg e]; rfl

/-! ## the resources of a GATT table -/

/-- `/18135/<service>/<resource>` -/
def servicePath (svc : Nat) (resourceId : UInt16) : Path :=
  ⟨ipsoOidBleService, UInt16.ofNat svc, resourceId⟩

def introspectPath : Path := ⟨ipsoOidBleIntrospect, 0, 0⟩

def resourceType : BleDatatype → Lwm2mResourceType
  | .boolean => .boolean
  | .integer => .integer
  | .float => .float
  | .string => .string
  | .struct => .opaqueBytes

def resourceOperations (properties : Nat) : UInt8 :=
  (if properties &&& bleGattPropPermRead ≠ 0 then operationRead else 0) |||
    (if properties &&& bleGattPropPermWrite ≠ 0 then operationWrite else 0)

/-- one round of the loop of `device_add_resources_from_gatt`; a resource that cannot be created
is left out -/
def addServiceResource (id : String) (svc : Nat) (c : Client) (ch : GattChar) : Client :=
  (edgeAddResource c id (servicePath svc ch.resourceId) (resourceType ch.dtype)
    (resourceOperations ch.properties) ch.value).2

/-- `device_add_resources_from_gatt` -/
def deviceAddResourcesFromGatt (c : Client) (ble : BleDevice) : BleDevice × Client :=
  let c := ble.services.zipIdx.foldl
    (fun c (s, svc) => s.chars.foldl (addServiceResource ble.deviceId svc) c) c
  match c.takeFault with
  -- the source takes the length of a NULL string here
  | (true, c) => (ble, c)
  | (false, c) =>
    let json := jsonListDeviceServices ble.services
    ({ ble with jsonList := some json },
      (edgeAddResource c ble.deviceId introspectPath .string operationRead
        (cBytes json ++ [0])).2)

/-- the characteristic translations of one service, `j` being the next characteristic -/
def addCharacteristicTranslations (h : Host) (svc : Nat) (s : GattService) :
    (chars : List GattChar) → (j : Nat) → BleDevice × Client → BleDevice × Client
  | [], _, dc => dc
  | ch :: chars, j, dc =>
    let dc := if bleServicesIsSupportedCharacteristic s.uuid ch.uuid then
        bleServicesConstructCharacteristic h dc.2 dc.1 svc j
      else dc
    addCharacteristicTranslations h svc s chars (j + 1) dc

/-- what the synchronous reads of Device Information services find: the stack and the outcomes, by
service and characteristic -/
structure DisReads where
  stack : DisString → Bytes
  outcome : Nat → Nat → ReadOutcome

/-- `device_add_known_translations_from_gatt` from service `svc` on -/
def addKnownTranslations (h : Host) (dis : DisReads) :
    (services : List GattService) → (svc : Nat) → BleDevice × Client → BleDevice × Client
  | [], _, dc => dc
  | s :: services, svc, dc =>
    let dc := if bleServicesIsSupportedService s.uuid then
        let c := bleServicesConstructService h dc.2 dc.1 svc dis.stack (dis.outcome svc)
        addCharacteristicTranslations h svc s s.chars 0 (dc.1, c)
      else dc
    addKnownTranslations h dis services (svc + 1) dc

/-- `device_add_known_translations_from_gatt` -/
def deviceAddKnownTranslationsFromGatt (h : Host) (dis : DisReads) (c : Client)
    (ble : BleDevice) : BleDevice × Client :=
  addKnownTranslations h dis ble.services 0 (ble, c)

/-! ## writes -/

/-- the cached value after `val` was stored in it: padded with zeros or cut off -/
def fit (size : Nat) (val : Bytes) : Bytes :=
  val.take size ++ List.replicate (size - val.length) 0

theorem length_fit (size : Nat) (val : Bytes) : (fit size val).length = size := by
  simp [fit]
  omega

/-- the length is that of `val`, also where only a part of it was stored -/
def GattChar.store (c : GattChar) (val : Bytes) : GattChar :=
  { c with value := fit c.valueSize val, valueLength := val.length,
           sized := length_fit c.valueSize val }

/-- `set_local_characteristic_value` -/
def setLocalCharacteristicValue (c : Client) (ble : BleDevice) (svc ch : Nat) (val : Bytes) :
    BleDevice × Client :=
  match ble.char? svc ch with
  | none => (ble, c)
  | some charact =>
    (ble.setChar svc ch (charact.store val),
      edgeSetResourceValue c ble.deviceId (servicePath svc charact.resourceId) val)

/-- how a `WriteValue` call ends -/
inductive WriteOutcome where
  /-- no proxy for the characteristic: a `GError` with its code -/
  | proxyFailed (code : Int)
  /-- the call failed: a `GError` with its code -/
  | callFailed (code : Int)
  /-- the peripheral took the value -/
  | reply
  deriving DecidableEq, Repr

/-- `ble_write_characteristic` -/
def bleWriteCharacteristic : WriteOutcome → Int
  | .proxyFailed code => code
  | .callFailed code => code
  | .reply => 0

structure WriteResult where
  rc : Int
  device : BleDevice
  client : Client
  /-- the arguments of the `ble_write_characteristic` call, if there was one -/
  write : Option (String × Bytes)

/-- `device_write_characteristic` -/
def deviceWriteCharacteristic (h : Host) (c : Client) (ble : BleDevice) (p : Path) (value : Bytes)
    (outcome : WriteOutcome) : WriteResult :=
  let notMapped : Client → WriteResult := fun c => ⟨-1, ble, c, none⟩
  let rc := bleWriteCharacteristic outcome
  if p.objectId ≠ ipsoOidBleService then
    match bleServicesFindTranslationContext ble p with
    | none => notMapped c
    | some ctx =>
      match ble.char? ctx.svIdx ctx.chIdx with
      | none => notMapped c
      | some charact =>
        match bleServicesEncodeCharacteristicValue h c ble ctx charact.value value with
        | (none, c) => notMapped c
        | (some translated, c) =>
          let write := some (charact.dbusPath, translated)
          if rc = 0 then
            -- the resource of the service object gets the value of the request
            let (ble, c) := setLocalCharacteristicValue c ble ctx.svIdx ctx.chIdx value
            ⟨rc, ble, c, write⟩
          else ⟨rc, ble, c, write⟩
  else
    let svc := p.instanceId.toNat
    match (ble.services[svc]?).bind fun s => s.chars.findIdx? (·.resourceId = p.resourceId) with
    | none => notMapped c
    | some ch =>
      match ble.char? svc ch with
      | none => notMapped c
      | some charact =>
        let write := some (charact.dbusPath, value)
        if rc = 0 then
          let (ble, c) := setLocalCharacteristicValue c ble svc ch value
          let c := bleServicesDecodeAndWriteCharacteristicTranslation h c ble svc ch value
          ⟨rc, ble, c, write⟩
        else ⟨rc, ble, c, write⟩

/-- where a write request goes, and the bytes it sends there -/
structure Route where
  svc : Nat
  ch : Nat
  charact : GattChar
  bytes : Bytes

/-- the characteristic a write request is for: that of a translation context with an encoder that
accepts the value, or that of the resource of the service object -/
def writeRoute (h : Host) (c : Client) (ble : BleDevice) (p : Path) (value : Bytes) :
    Option Route :=
  if p.objectId ≠ ipsoOidBleService then
    (bleServicesFindTranslationContext ble p).bind fun ctx =>
      (ble.char? ctx.svIdx ctx.chIdx).bind fun charact =>
        (bleServicesEncodeCharacteristicValue h c ble ctx charact.value value).1.map fun bytes =>
          ⟨ctx.svIdx, ctx.chIdx, charact, bytes⟩
  else
    let svc := p.instanceId.toNat
    ((ble.services[svc]?).bind fun s => s.chars.findIdx? (·.resourceId = p.resourceId)).bind
      fun ch => (ble.char? svc ch).map fun charact => ⟨svc, ch, charact, value⟩

/-- the resources a write to a characteristic may change -/
def IsWritten (ble : BleDevice) (svc ch : Nat) (charact : GattChar) (id : String) (p : Path) :
    Prop :=
  (id = ble.deviceId ∧ p = servicePath svc charact.resourceId) ∨ IsDerived ble svc ch id p

/-- a write that is not routed fails and does nothing -/
structure WriteResult.Unrouted (r : WriteResult) (c : Client) (ble : BleDevice) : Prop where
  rc : r.rc = -1
  device : r.device = ble
  write : r.write = none
  client : SameExcept (fun _ _ => False) c r.client

/-- a routed write sends the bytes of its route, and stores the value it was given if the call
went well -/
structure WriteResult.Routed (r : WriteResult) (c : Client) (ble : BleDevice) (value : Bytes)
    (outcome : WriteOutcome) (route : Route) : Prop where
  rc : r.rc = bleWriteCharacteristic outcome
  char : ble.char? route.svc route.ch = some route.charact
  write : r.write = some (route.charact.dbusPath, route.bytes)
  failed : r.rc ≠ 0 → r.device = ble ∧ SameExcept (fun _ _ => False) c r.client
  stored : r.rc = 0 → r.device = ble.setChar route.svc route.ch (route.charact.store value) ∧
    SameExcept (IsWritten ble route.svc route.ch route.charact) c r.client

theorem encodeCharacteristicValue_sameExcept (D : String → Path → Prop) (h : Host) (c : Client)
    (device : BleDevice) (ctx : TranslationContext) (current new : Bytes) :
    SameExcept D c (bleServicesEncodeCharacteristicValue h c device ctx current new).2 := by
  have hs := takeFault_sameExcept D c
  unfold bleServicesEncodeCharacteristicValue
  split
  · exact .refl D c
  · simp only [bleServicesEncode2bitBitfieldValue]
    split
    · exact .refl D c
    · rcases hf : c.takeFault with ⟨_ | _, c₁⟩ <;> rw [hf] at hs <;> exact hs

theorem setLocalCharacteristicValue_eq {ble : BleDevice} {svc ch : Nat} {charact : GattChar}
    (hchar : ble.char? svc ch = some charact) (c : Client) (val : Bytes) :
    setLocalCharacteristicValue c ble svc ch val = (ble.setChar svc ch (charact.store val),
      edgeSetResourceValue c ble.deviceId (servicePath svc charact.resourceId) val) := by
  unfold setLocalCharacteristicValue
  rw [hchar]

theorem not_mem_written {ble : BleDevice} {svc ch : Nat} {charact : GattChar} (id : String)
    (p : Path) (h : id = ble.deviceId ∧ p = servicePath svc charact.resourceId) :
    IsWritten ble svc ch charact id p := .inl h

/-- **What a write does.** -/
theorem deviceWriteCharacteristic_cases (h : Host) (c : Client) (ble : BleDevice) (p : Path)
    (value : Bytes) (outcome : WriteOutcome) :
    match writeRoute h c ble p value with
    | none => (deviceWriteCharacteristic h c ble p value outcome).Unrouted c ble
    | some route =>
      (deviceWriteCharacteristic h c ble p value outcome).Routed c ble value outcome route := by
  unfold writeRoute deviceWriteCharacteristic
  by_cases hobj : p.objectId ≠ ipsoOidBleService
  · rw [if_pos hobj, if_pos hobj]
    cases bleServicesFindTranslationContext ble p with
    | none => exact ⟨rfl, rfl, rfl, .refl _ c⟩
    | some ctx =>
      simp only [Option.bind_some]
      cases hchar : ble.char? ctx.svIdx ctx.chIdx with
      | none => exact ⟨rfl, rfl, rfl, .refl _ c⟩
      | some charact =>
        have hs := fun D =>
          encodeCharacteristicValue_sameExcept D h c ble ctx charact.value value
        simp only [Option.bind_some]
        generalize bleServicesEncodeCharacteristicValue h c ble ctx charact.value value = r at hs ⊢
        obtain ⟨_ | bytes, c₁⟩ := r
        · exact ⟨rfl, rfl, rfl, hs _⟩
        · simp only [Option.map_some, setLocalCharacteristicValue_eq hchar]
          by_cases hrc : bleWriteCharacteristic outcome = 0
          · rw [if_pos hrc]
            exact ⟨rfl, hchar, rfl, fun hne => absurd hrc hne, fun _ => ⟨rfl, (hs _).trans
              ((edgeSetResourceValue_sameExcept c₁ ble.deviceId _ value).mono
                not_mem_written)⟩⟩
          · rw [if_neg hrc]
            exact ⟨rfl, hchar, rfl, fun _ => ⟨rfl, hs _⟩, fun h0 => absurd h0 hrc⟩
  · rw [if_neg hobj, if_neg hobj]
    simp only
    cases (ble.services[p.instanceId.toNat]?).bind fun s =>
      s.chars.findIdx? (·.resourceId = p.resourceId) with
    | none => exact ⟨rfl, rfl, rfl, .refl _ c⟩
    | some ch =>
      simp only [Option.bind_some]
      cases hchar : ble.char? p.instanceId.toNat ch with
      | none => exact ⟨rfl, rfl, rfl, .refl _ c⟩
      | some charact =>
        simp only [Option.map_some, setLocalCharacteristicValue_eq hchar]
        by_cases hrc : bleWriteCharacteristic outcome = 0
        · rw [if_pos hrc]
          refine ⟨rfl, hchar, rfl, fun hne => absurd hrc hne, fun _ => ⟨rfl, ?_⟩⟩
          have hd := (decodeAndWrite_cases h
            (edgeSetResourceValue c ble.deviceId
              (servicePath p.instanceId.toNat charact.resourceId) value)
            (ble.setChar p.instanceId.toNat ch (charact.store value)) p.instanceId.toNat ch
            value).2
          exact ((edgeSetResourceValue_sameExcept c ble.deviceId _ value).mono
            not_mem_written).trans (hd.mono fun _ _ => Or.inr)
        · rw [if_neg hrc]
          exact ⟨rfl, hchar, rfl, fun _ => ⟨rfl, .refl _ c⟩, fun h0 => absurd h0 hrc⟩

/-- `resource_callback_handler`: the status, the devices and the client -/
def resourceCallbackHandler (h : Host) (keepRunning : Bool) (devices : List BleDevice) (c : Client)
    (deviceId : String) (p : Path) (operation : UInt8) (value : Bytes) (outcome : WriteOutcome) :
    Status × List BleDevice × Client :=
  if keepRunning = false then (.error, devices, c)
  else
    match devicesFindDeviceByDeviceId devices deviceId with
    | none => (.error, devices, c)
    | some ble =>
      if operation &&& operationWrite ≠ 0 then
        let r := deviceWriteCharacteristic h c ble p value outcome
        (if r.rc = 0 then .success else .error, devicesSet devices r.device, r.client)
      else if operation &&& operationExecute ≠ 0 then (.success, devices, c)
      else (.error, devices, c)

/-! ## reads -/

theorem length_parseResultVariantFrom (h : Host) (maxsize : Nat) (data reply : Bytes)
    (datasize : Nat) :
    (parseResultVariantFrom h maxsize data reply datasize).1.length = data.length := by
  induction reply generalizing data datasize with
  | nil =>
    unfold parseResultVariantFrom
    split
    · split
      · exact List.length_set
      · rfl
    · rfl
  | cons b reply ih =>
    unfold parseResultVariantFrom
    split
    · rw [ih, List.length_set]
    · rfl

/-- `gattchar` after `parse_result_variant` -/
def GattChar.parse (h : Host) (c : GattChar) (reply : Bytes) : GattChar :=
  { c with value := (parseResultVariant h c.value c.valueSize reply).1,
           valueLength := (parseResultVariant h c.value c.valueSize reply).2,
           sized := (length_parseResultVariantFrom ..).trans c.sized }

/-- the `switch` on the size of an integer: two and four bytes go through `htons` and `htonl` -/
def swapInteger (o : ByteOrder) (size : Nat) (value : Bytes) : Bytes :=
  if value.length = size ∧ (size = 2 ∨ size = 4) then
    o.storeWord size (o.netOrder size (o.loadWord value))
  else value

theorem length_swapInteger (o : ByteOrder) (size : Nat) (value : Bytes) :
    (swapInteger o size value).length = value.length := by
  unfold swapInteger
  split
  · rw [ByteOrder.length_storeWord, ‹value.length = size ∧ _›.1]
  · rfl

def GattChar.swap (o : ByteOrder) (c : GattChar) : GattChar :=
  if c.dtype = .integer then
    { c with value := swapInteger o c.valueSize c.value,
             sized := (length_swapInteger ..).trans c.sized }
  else c

/-- `ble_read_characteristic_callback`; `none` when it follows a NULL device or indexes past the
tables -/
def bleReadCharacteristicCallback (h : Host) (c : Client) (devices : List BleDevice)
    (deviceId : String) (srvc ch : Nat) (outcome : ReadOutcome) :
    Option (List BleDevice × Client) :=
  match outcome with
  | .failed _ => some (devices, c)
  | .reply reply =>
    (devicesFindDeviceByDeviceId devices deviceId).bind fun ble =>
      (ble.char? srvc ch).map fun gattchar =>
        let gattchar := gattchar.parse h reply
        let ble := ble.setChar srvc ch gattchar
        let c := bleServicesDecodeAndWriteCharacteristicTranslation h c ble srvc ch
          (gattchar.value.take gattchar.valueLength)
        let gattchar := gattchar.swap h.byteOrder
        let ble := ble.setChar srvc ch gattchar
        (devicesSet devices ble,
          edgeSetResourceValue c ble.deviceId (servicePath srvc gattchar.resourceId)
            (gattchar.value.take gattchar.valueLength))

end EdgeTranslators.Ble
