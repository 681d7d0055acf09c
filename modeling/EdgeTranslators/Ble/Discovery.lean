import EdgeTranslators.Ble.Translator
import EdgeTranslators.Lib.Tokens

/-!
# Which characteristics are found on a device (`pt_ble.c`)

BlueZ manages objects whose paths say on which adapter, device and service they are; the code finds
that out from the text of a path and from the printed properties.

* `CharPath`, `Property`, `CharObject`   the characteristic objects of BlueZ;
* `objectOnAdapter`, `getDeviceAddressFromCharacteristicPath`   what the code reads off a path;
* `processCharacteristicObject`, `bleDiscoverCharacteristics`   the loop over the objects;
* `Attributed`                           the device has got exactly its own characteristics, each
                                         under the UUID of its service;
* `bleDiscoverCharacteristics_found`     what is found is an answer to the translator;
* `attributed_iff`                       when all is attributed as it should be;
* `taken_iff_mine`                       short adapter names are told apart;
* `attributed_of_services`               and with them all is attributed that has a service.
-/

namespace EdgeTranslators.Ble.Discovery
open Lib

/-! ## what BlueZ manages -/

/-- a character of an element of a D-Bus path -/
def isPathChar (c : Char) : Bool := c.isAlphanum || c = '_'

/-- `g_variant_is_object_path` -/
def isObjectPath (path : List Char) : Bool :=
  path.head? = some '/' && (path.all fun c => isPathChar c || c = '/') &&
    ((path.zip (path.drop 1)).all fun (a, b) => !(a = '/' && b = '/')) &&
    (path.length = 1 || path.getLast? ≠ some '/')

abbrev ObjectPath := { path : List Char // isObjectPath path = true }

abbrev Element := { element : List Char // element ≠ [] ∧ element.all isPathChar = true }

/-- the text of a 128-bit UUID -/
abbrev Uuid :=
  { uuid : List Char // uuid.length = formattedUuidLen ∧
    (uuid.all fun c => c.isAlphanum || c = '-') = true }

def hexChar (n : Nat) : Char := "0123456789ABCDEF".toList.getD n '0'

/-- a Bluetooth address with a separator between its octets -/
def addressText (sep : Char) (octets : Fin 6 → UInt8) : List Char :=
  let hi := fun i => hexChar ((octets i).toNat / 16)
  let lo := fun i => hexChar ((octets i).toNat % 16)
  [hi 0, lo 0, sep, hi 1, lo 1, sep, hi 2, lo 2, sep, hi 3, lo 3, sep, hi 4, lo 4, sep, hi 5, lo 5]

/-- `/org/bluez/<adapter>/dev_XX_XX_XX_XX_XX_XX/serviceNNNN/charNNNN` -/
structure CharPath where
  adapter : Element
  octets : Fin 6 → UInt8
  service : Element
  characteristic : Element

/-- what comes behind the address -/
def CharPath.rest (p : CharPath) : List Char :=
  "/service".toList ++ (p.service.1 ++ ("/char".toList ++ p.characteristic.1))

/-- the path below `/org/bluez/` -/
def CharPath.below (p : CharPath) : List Char :=
  p.adapter.1 ++ '/' :: ("dev_".toList ++ (addressText '_' p.octets ++ p.rest))

def CharPath.text (p : CharPath) : List Char := "/org/bluez".toList ++ '/' :: p.below

/-- a cached property of a proxy -/
inductive Property where
  | uuid (uuid : Uuid)
  | service (path : ObjectPath)
  | flags (flags : List (List Char))
  /-- any other one, with its value printed -/
  | other (key : { key : String // key ≠ "UUID" ∧ key ≠ "Service" ∧ key ≠ "Flags" })
    (printed : List Char)

namespace Property

def key : Property → String
  | .uuid _ => "UUID"
  | .service _ => "Service"
  | .flags _ => "Flags"
  | .other k _ => k.1

@[simp] theorem key_uuid (u : Uuid) : (Property.uuid u).key = "UUID" := rfl

@[simp] theorem key_service (path : ObjectPath) : (Property.service path).key = "Service" := rfl

@[simp] theorem key_flags (fs : List (List Char)) : (Property.flags fs).key = "Flags" := rfl

@[simp] theorem key_other (k : { key : String // key ≠ "UUID" ∧ key ≠ "Service" ∧ key ≠ "Flags" })
    (printed : List Char) : (Property.other k printed).key = k.1 := rfl

/-- the mark that `g_variant_print` puts strings in -/
def mark : Char := Char.ofNat 39

def quoted (s : List Char) : List Char := mark :: s ++ [mark]

/-- `g_variant_print` with the types annotated -/
def print : Property → List Char
  | .uuid u => quoted u.1
  | .service path => "objectpath ".toList ++ quoted path.1
  | .flags [] => "@as []".toList
  | .flags fs => '[' :: ", ".toList.intercalate (fs.map quoted) ++ [']']
  | .other _ printed => printed

def uuid? : Property → Option Uuid
  | .uuid u => some u
  | _ => none

def service? : Property → Option ObjectPath
  | .service path => some path
  | _ => none

end Property

/-- the cached properties of a proxy, by key -/
abbrev Properties := { ps : List Property // (ps.map Property.key).Nodup }

/-- an object with the interface `org.bluez.GattCharacteristic1` -/
structure CharObject where
  path : CharPath
  /-- the properties of its proxy, if there can be one -/
  proxy : Option Properties

inductive ManagedObject where
  | characteristic (object : CharObject)
  | other

def ManagedObject.char? : ManagedObject → Option CharObject
  | .characteristic o => some o
  | .other => none

/-- the objects of BlueZ, each at a path of its own -/
abbrev ManagedObjects :=
  { objects : List ManagedObject //
    ((objects.filterMap ManagedObject.char?).map fun o => o.path.text).Nodup }

/-- the proxies for the interface `org.bluez.GattService1` of the objects at object paths -/
abbrev Bus := List Char → Option Properties

/-! ## the code -/

/-- `snprintf` of `/org/bluez/%s/` into 32 bytes, and `strncmp` with the start of the path -/
def objectOnAdapter (objpath adapter : List Char) : Bool :=
  ((("/org/bluez".toList ++ '/' :: (adapter ++ ['/'])).take 31).isPrefixOf objpath)

/-- `get_device_address_from_characteristic_path`; `none` when nothing is written -/
def getDeviceAddressFromCharacteristicPath (path : List Char) : Option (List Char) :=
  (strstr path "dev_".toList).map fun dev =>
    -- `strncpy` fills up with zeros
    let address := (dev.drop 4).take 17
    let address := address ++ List.replicate (17 - address.length) (Char.ofNat 0)
    let address := ((((address.set 2 ':').set 5 ':').set 8 ':').set 11 ':').set 14 ':'
    address.takeWhile (· ≠ Char.ofNat 0)

/-- `translate_ble_flags` -/
def translateBleFlags (flagsStr : List Char) : Nat :=
  (if (strstr flagsStr "read".toList).isSome then bleGattPropPermRead else 0) |||
    (if (strstr flagsStr "write".toList).isSome then bleGattPropPermWrite else 0) |||
    (if (strstr flagsStr "notify".toList).isSome then bleGattPropPermNotify else 0)

/-- the local variables of `process_characteristic_object` -/
structure Locals where
  charFlags : Nat
  /-- `char_uuid`, if `has_uuid` -/
  charUuid : Option (List Char)
  /-- the string in the buffer -/
  servicePath : List Char
  deriving DecidableEq

/-- one property of a characteristic; `none` when `strncpy` is given the NULL of `strtok` -/
def Locals.read (l : Locals) (p : Property) : Option Locals :=
  if p.key = "Flags" then some { l with charFlags := translateBleFlags p.print }
  else if p.key = "UUID" then
    (strtok Property.mark p.print).1.map fun quoted =>
      { l with charUuid := some (quoted.take formattedUuidLen) }
  else if p.key = "Service" then
    (strtok Property.mark (strtok Property.mark p.print).2).1.map fun quoted =>
      { l with servicePath := quoted.take 4095 }
  else some l

def defaultUuid : List Char := "ffffffff-ffff-ffff-ffff-ffffffffffff".toList

/-- one property of a service -/
def readService (srvcUuid : List Char) (p : Property) : Option (List Char) :=
  if p.key = "UUID" then
    (strtok Property.mark p.print).1.map fun quoted => quoted.take formattedUuidLen
  else some srvcUuid

/-- the UUID of the service at a path; for a string that is no object path GLib makes no proxy and
sets no error, and the message of the error is read through a NULL pointer -/
def serviceUuid (bus : Bus) (servicePath : List Char) : Option (List Char) :=
  if isObjectPath servicePath then
    match bus servicePath with
    | none => some defaultUuid
    | some properties => properties.1.foldlM readService defaultUuid
  else none

section
variable (bus : Bus) (adapter : List Char) (stack : CharPath → List Char)

/-- `process_characteristic_object`; `stack` is what `service_path` holds before it is written -/
def processCharacteristicObject (obj : CharObject) (ble : BleDevice) : Option BleDevice :=
  if objectOnAdapter obj.path.text adapter then
    match obj.proxy with
    | none => some ble
    | some properties =>
      if getDeviceAddressFromCharacteristicPath obj.path.text = some ble.addr.toList then do
        let l ← properties.1.foldlM Locals.read ⟨0, none, stack obj.path⟩
        let srvcUuid ← serviceUuid bus l.servicePath
        match l.charUuid with
        | none => some ble
        | some charUuid =>
          some (deviceAddGattCharacteristic ble (String.ofList srvcUuid)
            (String.ofList l.servicePath) (String.ofList charUuid) (String.ofList obj.path.text)
            l.charFlags)
      -- without its address, `has_uuid` stays false
      else some ble
  else some ble

/-- `ble_handle_characteristic` -/
def bleHandleCharacteristic (ble : BleDevice) : ManagedObject → Option BleDevice
  | .characteristic obj => processCharacteristicObject bus adapter stack obj ble
  | .other => some ble

/-- `ble_discover_characteristics`; the list without objects is NULL, and the message of an error
that is not set is read -/
def bleDiscoverCharacteristics (objects : List ManagedObject) (ble : BleDevice) :
    Option BleDevice :=
  match objects with
  | [] => none
  | objects => objects.foldlM (bleHandleCharacteristic bus adapter stack) ble

end

/-! ## what it should find -/

/-- a characteristic in a table: the UUID of its service, its path and its UUID -/
structure Listed where
  srvcUuid : List Char
  dbusPath : String
  uuid : String
  deriving DecidableEq

/-- the characteristics of a table under the UUID of a service -/
def charsUnder (ble : BleDevice) (srvcUuid : List Char) : List Listed :=
  match ble.services.find? fun s => s.uuid = String.ofList srvcUuid with
  | none => []
  | some s => s.chars.map fun ch => ⟨srvcUuid, ch.dbusPath, ch.uuid⟩

namespace CharObject

def uuid? (o : CharObject) : Option Uuid := o.proxy.bind fun ps => ps.1.findSome? Property.uuid?

def service? (o : CharObject) : Option ObjectPath :=
  o.proxy.bind fun ps => ps.1.findSome? Property.service?

end CharObject

/-- the UUID of the service at a path, the default one when it cannot be read -/
def uuidOf (bus : Bus) (servicePath : List Char) : List Char :=
  (((bus servicePath).bind fun ps => ps.1.findSome? Property.uuid?).map (·.1)).getD defaultUuid

/-- the UUID of the service that an object names itself -/
def ownServiceUuid (bus : Bus) (o : CharObject) : List Char :=
  (o.service?.map fun path => uuidOf bus path.1).getD defaultUuid

/-- the object is on the adapter, and its path has the address of the device -/
def Mine (adapter : List Char) (addr : String) (o : CharObject) : Prop :=
  o.path.adapter.1 = adapter ∧ addressText ':' o.path.octets = addr.toList

instance (adapter : List Char) (addr : String) (o : CharObject) : Decidable (Mine adapter addr o) :=
  inferInstanceAs (Decidable (_ ∧ _))

def CharObject.listed? (o : CharObject) (srvcUuid : List Char) : Option Listed :=
  o.uuid?.map fun u => ⟨srvcUuid, String.ofList o.path.text, String.ofList u.1⟩

/-- what becomes of an object of the device -/
def own? (bus : Bus) (adapter : List Char) (addr : String) (o : CharObject) : Option Listed :=
  if Mine adapter addr o then o.listed? (ownServiceUuid bus o) else none

/-- the characteristics `added` have joined those of their services, and nothing else has changed -/
structure Joined (added : List Listed) (ble ble' : BleDevice) : Prop where
  chars : ∀ srvcUuid, charsUnder ble' srvcUuid =
    charsUnder ble srvcUuid ++ added.filter fun x => x.srvcUuid = srvcUuid
  rest : { ble' with services := ble.services } = ble

/-- the device gets exactly its own characteristics, each once, in the order of the objects and
under the UUID of its service -/
def Attributed (bus : Bus) (adapter : List Char) (stack : CharPath → List Char)
    (objects : ManagedObjects) (ble : BleDevice) : Prop :=
  ∃ ble', bleDiscoverCharacteristics bus adapter stack objects.1 ble = some ble' ∧
    Joined ((objects.1.filterMap ManagedObject.char?).filterMap (own? bus adapter ble.addr))
      ble ble'

/-! ## what it finds -/

/-- the code takes the object for one of the device -/
def Taken (adapter : List Char) (addr : String) (o : CharObject) : Prop :=
  objectOnAdapter o.path.text adapter = true ∧
    getDeviceAddressFromCharacteristicPath o.path.text = some addr.toList

instance (adapter : List Char) (addr : String) (o : CharObject) :
    Decidable (Taken adapter addr o) :=
  inferInstanceAs (Decidable (_ ∧ _))

/-- the string in `service_path` after the loop -/
def usedPath (stack : CharPath → List Char) (o : CharObject) : List Char :=
  (o.service?.map fun path => path.1.take 4095).getD (stack o.path)

/-- what becomes of an object in the code -/
def found? (bus : Bus) (adapter : List Char) (stack : CharPath → List Char) (addr : String)
    (o : CharObject) : Option Listed :=
  if Taken adapter addr o then o.listed? (uuidOf bus (usedPath stack o)) else none

/-- what the code reads off the path is the address -/
def Reads (addr : String) (o : CharObject) : Prop :=
  getDeviceAddressFromCharacteristicPath o.path.text = some addr.toList

/-- nothing misleads the code about the object -/
structure Attributable (bus : Bus) (adapter : List Char) (stack : CharPath → List Char)
    (addr : String) (o : CharObject) : Prop where
  /-- the address is on no other adapter that begins with the first 20 characters of `<adapter>/` -/
  named : o.uuid?.isSome = true → Reads addr o → (adapter ++ ['/']).take 20 <+: o.path.below →
    o.path.adapter.1 = adapter
  /-- the first `dev_` of a path on the adapter is that of the device -/
  addressed : o.uuid?.isSome = true → o.path.adapter.1 = adapter →
    (Reads addr o ↔ addressText ':' o.path.octets = addr.toList)
  served : o.proxy.isSome = true → Taken adapter addr o → isObjectPath (usedPath stack o) = true
  service : o.uuid?.isSome = true → Taken adapter addr o →
    uuidOf bus (usedPath stack o) = ownServiceUuid bus o

/-! ## properties -/

section
variable {ps : List Property}

theorem mark_not_mem_uuid (u : Uuid) : Property.mark ∉ u.1 := by
  intro hmem
  have hall := List.all_eq_true.mp u.2.2 _ hmem
  exact absurd hall (by decide)

theorem uuid_ne_nil (u : Uuid) : u.1 ≠ [] := by
  intro h
  have hlen := u.2.1
  rw [h] at hlen
  exact absurd hlen (by decide)

theorem mark_not_mem_path (path : ObjectPath) : Property.mark ∉ path.1 := by
  intro hmem
  have h := path.2
  unfold isObjectPath at h
  simp only [Bool.and_eq_true] at h
  exact absurd (List.all_eq_true.mp h.1.1.2 _ hmem) (by decide)

theorem path_ne_nil (path : ObjectPath) : path.1 ≠ [] := by
  intro hnil
  have h := path.2
  rw [hnil] at h
  exact absurd h (by decide)

/-- the first token of a quoted text is the text -/
theorem strtok_quoted {s : List Char} (hs : s ≠ []) (hmark : Property.mark ∉ s) :
    (strtok Property.mark (Property.quoted s)).1 = some s := by
  rw [(strtok_eq _ _).1]
  unfold Property.quoted
  rw [List.cons_append, tokens_cons_self, tokens_append_cons hs hmark]
  rfl

/-- the second token of a printed object path is the path -/
theorem strtok_service (path : ObjectPath) :
    (strtok Property.mark (strtok Property.mark (Property.service path).print).2).1
      = some path.1 := by
  rw [(strtok_eq _ _).1, (strtok_eq _ _).2]
  show (tokens Property.mark ("objectpath ".toList ++
    Property.mark :: (path.1 ++ Property.mark :: []))).tail.head? = _
  rw [tokens_append_cons (by decide) (by decide),
    tokens_append_cons (path_ne_nil path) (mark_not_mem_path path)]
  rfl

theorem take_uuid (u : Uuid) : u.1.take formattedUuidLen = u.1 :=
  List.take_of_length_le u.2.1.le

/-- what one property leaves in the local variables -/
theorem Locals.read_eq (l : Locals) (p : Property) :
    ∃ charFlags, l.read p = some ⟨charFlags, (p.uuid?.map (·.1)).or l.charUuid,
      (p.service?.map fun path => path.1.take 4095).getD l.servicePath⟩ := by
  unfold Locals.read
  cases p with
  | uuid u =>
    refine ⟨l.charFlags, ?_⟩
    rw [Property.key_uuid, if_neg (by decide), if_pos rfl]
    show ((strtok Property.mark (Property.quoted u.1)).1.map _) = _
    rw [strtok_quoted (uuid_ne_nil u) (mark_not_mem_uuid u), Option.map_some, take_uuid]
    rfl
  | service path =>
    refine ⟨l.charFlags, ?_⟩
    rw [Property.key_service, if_neg (by decide), if_neg (by decide), if_pos rfl, strtok_service]
    rfl
  | flags fs => exact ⟨_, if_pos rfl⟩
  | other k printed =>
    refine ⟨l.charFlags, ?_⟩
    rw [Property.key_other, if_neg k.2.2.2, if_neg k.2.1, if_neg k.2.2.1]
    rfl

theorem readService_eq (srvcUuid : List Char) (p : Property) :
    readService srvcUuid p = some ((p.uuid?.map (·.1)).getD srvcUuid) := by
  unfold readService
  cases p with
  | uuid u =>
    rw [Property.key_uuid, if_pos rfl]
    show ((strtok Property.mark (Property.quoted u.1)).1.map _) = _
    rw [strtok_quoted (uuid_ne_nil u) (mark_not_mem_uuid u), Option.map_some, take_uuid]
    rfl
  | service path =>
    rw [Property.key_service, if_neg (by decide)]
    rfl
  | flags fs =>
    rw [Property.key_flags, if_neg (by decide)]
    rfl
  | other k printed =>
    rw [Property.key_other, if_neg k.2.1]
    rfl

/-- only one property has a key: what it gives is not given by those behind it -/
theorem findSome?_unique {β : Type} {f : Property → Option β} {key : String} {p : Property}
    (hkey : ∀ p u, f p = some u → p.key = key) (hnodup : ((p :: ps).map Property.key).Nodup) :
    f p = none ∨ ps.findSome? f = none := by
  cases hp : f p with
  | none => exact .inl rfl
  | some u =>
    refine .inr (List.findSome?_eq_none_iff.mpr fun q hq => ?_)
    cases hfq : f q with
    | none => rfl
    | some v =>
      have heq := (hkey p u hp).trans (hkey q v hfq).symm
      have hnot := (List.nodup_cons.mp hnodup).1
      rw [heq] at hnot
      exact absurd (List.mem_map_of_mem hq) hnot

theorem uuid?_key (p : Property) (u : Uuid) (h : p.uuid? = some u) : p.key = "UUID" := by
  cases p with
  | uuid u => rfl
  | _ => cases h

theorem service?_key (p : Property) (path : ObjectPath) (h : p.service? = some path) :
    p.key = "Service" := by
  cases p with
  | service path => rfl
  | _ => cases h

theorem foldlM_read (hnodup : (ps.map Property.key).Nodup) (l : Locals) :
    ∃ charFlags, ps.foldlM Locals.read l = some ⟨charFlags,
      ((ps.findSome? Property.uuid?).map (·.1)).or l.charUuid,
      ((ps.findSome? Property.service?).map fun path => path.1.take 4095).getD l.servicePath⟩ := by
  induction ps generalizing l with
  | nil => exact ⟨l.charFlags, rfl⟩
  | cons p ps ih =>
    obtain ⟨charFlags, hread⟩ := l.read_eq p
    obtain ⟨charFlags', hrest⟩ := ih (List.nodup_cons.mp hnodup).2 ⟨charFlags,
      (p.uuid?.map (·.1)).or l.charUuid,
      (p.service?.map fun path => path.1.take 4095).getD l.servicePath⟩
    refine ⟨charFlags', ?_⟩
    rw [List.foldlM_cons, hread, Option.bind_eq_bind, Option.bind_some, hrest, List.findSome?_cons,
      List.findSome?_cons]
    have huuid := findSome?_unique uuid?_key hnodup
    have hservice := findSome?_unique service?_key hnodup
    congr 2
    · cases hp : p.uuid? with
      | none => rfl
      | some u => rw [huuid.resolve_left (by rw [hp]; nofun)]; rfl
    · cases hp : p.service? with
      | none => rfl
      | some path => rw [hservice.resolve_left (by rw [hp]; nofun)]; rfl

theorem foldlM_readService (hnodup : (ps.map Property.key).Nodup) (srvcUuid : List Char) :
    ps.foldlM readService srvcUuid =
      some (((ps.findSome? Property.uuid?).map (·.1)).getD srvcUuid) := by
  induction ps generalizing srvcUuid with
  | nil => rfl
  | cons p ps ih =>
    rw [List.foldlM_cons, readService_eq, Option.bind_eq_bind, Option.bind_some,
      ih (List.nodup_cons.mp hnodup).2, List.findSome?_cons]
    have huuid := findSome?_unique uuid?_key hnodup
    cases hp : p.uuid? with
    | none => rfl
    | some u => rw [huuid.resolve_left (by rw [hp]; nofun)]; rfl

theorem serviceUuid_eq (bus : Bus) (servicePath : List Char) :
    serviceUuid bus servicePath =
      if isObjectPath servicePath then some (uuidOf bus servicePath) else none := by
  unfold serviceUuid uuidOf
  cases bus servicePath with
  | none => rfl
  | some properties =>
    simp only [Option.bind_some]
    rw [foldlM_readService properties.2]

theorem length_uuidOf (bus : Bus) (servicePath : List Char) :
    (uuidOf bus servicePath).length = formattedUuidLen := by
  unfold uuidOf
  cases (bus servicePath).bind fun ps => ps.1.findSome? Property.uuid? with
  | none => rfl
  | some u => exact u.2.1

end

/-! ## one object -/

section
variable {bus : Bus} {adapter : List Char} {stack : CharPath → List Char} {ble ble' : BleDevice}
  {o : CharObject}

/-- **What becomes of one object**: nothing if it is not taken, no return if the string in
`service_path` is no object path, else it joins the device if it has a UUID -/
theorem processCharacteristicObject_eq (bus : Bus) (adapter : List Char)
    (stack : CharPath → List Char) (o : CharObject) (ble : BleDevice) :
    ∃ charFlags, processCharacteristicObject bus adapter stack o ble =
      if o.proxy.isSome = true ∧ Taken adapter ble.addr o then
        if isObjectPath (usedPath stack o) then
          some (match o.uuid? with
            | none => ble
            | some u => deviceAddGattCharacteristic ble
                (String.ofList (uuidOf bus (usedPath stack o))) (String.ofList (usedPath stack o))
                (String.ofList u.1) (String.ofList o.path.text) charFlags)
        else none
      else some ble := by
  unfold processCharacteristicObject Taken CharObject.uuid? usedPath CharObject.service?
  by_cases hon : objectOnAdapter o.path.text adapter = true
  · rw [if_pos hon]
    cases o.proxy with
    | none => exact ⟨0, (if_neg fun h => Bool.false_ne_true h.1).symm⟩
    | some properties =>
      by_cases haddr : getDeviceAddressFromCharacteristicPath o.path.text = some ble.addr.toList
      · obtain ⟨charFlags, hread⟩ := foldlM_read properties.2 ⟨0, none, stack o.path⟩
        refine ⟨charFlags, ?_⟩
        simp only
        rw [if_pos haddr, if_pos ⟨rfl, hon, haddr⟩, hread]
        simp only [Option.bind_eq_bind, Option.bind_some, Option.or_none, serviceUuid_eq]
        split
        · cases properties.1.findSome? Property.uuid? <;> rfl
        · rfl
      · refine ⟨0, ?_⟩
        simp only
        rw [if_neg haddr, if_neg fun h => haddr h.2.2]
  · exact ⟨0, by rw [if_neg hon, if_neg fun h => hon h.2.1]⟩

end

/-! ## the table -/

section
variable {α : Type} {p q : α → Bool} {f : α → α} {l : List α} {i : Nat}

/-- changing the first element that satisfies `p`, which still does -/
theorem find?_modify_self (hp : ∀ x, p (f x) = p x) (hi : l.findIdx? p = some i) :
    (l.modify i f).find? p = (l.find? p).map f := by
  induction l generalizing i with
  | nil => cases hi
  | cons x l ih =>
    rw [List.findIdx?_cons] at hi
    cases hx : p x with
    | true =>
      rw [if_pos hx] at hi
      rw [← Option.some.inj hi, List.modify_zero_cons,
        List.find?_cons_of_pos (by rw [hp, hx]), List.find?_cons_of_pos hx]
      rfl
    | false =>
      rw [if_neg (by rw [hx]; nofun)] at hi
      obtain ⟨j, hj, rfl⟩ := Option.map_eq_some_iff.mp hi
      rw [List.modify_succ_cons, List.find?_cons_of_neg (by rw [hx]; nofun),
        List.find?_cons_of_neg (by rw [hx]; nofun)]
      exact ih hj

/-- it is not the first one that satisfies another condition -/
theorem find?_modify_other (hq : ∀ x, q (f x) = q x) (hpq : ∀ x, p x = true → q x = false)
    (hi : l.findIdx? p = some i) : (l.modify i f).find? q = l.find? q := by
  induction l generalizing i with
  | nil => cases hi
  | cons x l ih =>
    rw [List.findIdx?_cons] at hi
    cases hx : p x with
    | true =>
      rw [if_pos hx] at hi
      have hno : ¬q x = true := by
        rw [hpq x hx]
        nofun
      rw [← Option.some.inj hi, List.modify_zero_cons,
        List.find?_cons_of_neg (by rwa [hq]), List.find?_cons_of_neg hno]
    | false =>
      rw [if_neg (by rw [hx]; nofun)] at hi
      obtain ⟨j, hj, rfl⟩ := Option.map_eq_some_iff.mp hi
      rw [List.modify_succ_cons, List.find?_cons, List.find?_cons, ih hj]

end

/-- **What is found is an answer to the translator**: its `ble_discover_characteristics` makes the
same device of it. -/
theorem bleDiscoverCharacteristics_found {bus : Bus} {adapter : List Char}
    {stack : CharPath → List Char} {objects : List ManagedObject} {ble ble' : BleDevice}
    (h : bleDiscoverCharacteristics bus adapter stack objects ble = some ble') :
    ∃ found, ∀ ans : Answers, ans.found ble.addr = found →
      ble' = Ble.bleDiscoverCharacteristics ans ble := by
  suffices hfold : ∃ found : List FoundChar, ble' = found.foldl (fun ble f =>
      deviceAddGattCharacteristic ble f.srvcUuid f.srvcDbusPath f.charUuid f.charDbusPath
        f.properties) ble by
    obtain ⟨found, heq⟩ := hfold
    refine ⟨found, fun ans hans => ?_⟩
    unfold Ble.bleDiscoverCharacteristics
    rw [hans]
    exact heq
  replace h : objects.foldlM (bleHandleCharacteristic bus adapter stack) ble = some ble' := by
    cases objects with
    | nil => cases h
    | cons object objects => exact h
  induction objects generalizing ble with
  | nil => exact ⟨[], (Option.some.inj h).symm⟩
  | cons object objects ih =>
    rw [List.foldlM_cons] at h
    obtain ⟨ble₁, hstep, hrest⟩ := Option.bind_eq_some_iff.mp h
    obtain ⟨found, heq⟩ := ih hrest
    -- one object adds one characteristic, or none
    have hone : ble₁ = ble ∨ ∃ f : FoundChar, ble₁ = deviceAddGattCharacteristic ble f.srvcUuid
        f.srvcDbusPath f.charUuid f.charDbusPath f.properties := by
      cases object with
      | other => exact .inl (Option.some.inj hstep).symm
      | characteristic o =>
        obtain ⟨charFlags, hprocess⟩ := processCharacteristicObject_eq bus adapter stack o ble
        have hstep : processCharacteristicObject bus adapter stack o ble = some ble₁ := hstep
        rw [hprocess] at hstep
        split at hstep
        · split at hstep
          · rw [← Option.some.inj hstep]
            cases o.uuid? with
            | none => exact .inl rfl
            | some u => exact .inr ⟨⟨_, _, _, _, _⟩, rfl⟩
          · cases hstep
        · exact .inl (Option.some.inj hstep).symm
    rcases hone with rfl | ⟨f, rfl⟩
    · exact ⟨found, heq⟩
    · exact ⟨f :: found, heq⟩

theorem cut_ofList {n : Nat} {s : List Char} (h : s.length ≤ n) :
    cut n (String.ofList s) = String.ofList s :=
  cut_of_le (by rwa [String.length_ofList])

/-- the service with a UUID after it was changed, or made and changed -/
theorem find?_getService (services : List GattService) {srvcUuid : String}
    (hcut : cut (formattedUuidLen + 1) srvcUuid = srvcUuid)
    (hcut' : cut formattedUuidLen srvcUuid = srvcUuid) {f : GattService → GattService}
    (hf : ∀ s, (f s).uuid = s.uuid) (u : String) :
    ((getService services srvcUuid).2.modify (getService services srvcUuid).1 f).find?
        (fun s => s.uuid = u) =
      if srvcUuid = u then
        some (f ((services.find? fun s => s.uuid = u).getD ⟨none, [], srvcUuid⟩))
      else services.find? fun s => s.uuid = u := by
  unfold getService
  rw [hcut, hcut']
  have hkeep : ∀ s : GattService, decide ((f s).uuid = u) = decide (s.uuid = u) := by
    intro s
    rw [hf]
  cases hi : services.findIdx? fun s => s.uuid = srvcUuid with
  | some svc =>
    simp only
    split
    · rename_i hu
      subst hu
      rw [find?_modify_self hkeep hi]
      cases hfind : services.find? fun s => s.uuid = srvcUuid with
      | none =>
        rw [List.find?_eq_none] at hfind
        have hnone := List.findIdx?_eq_none_iff.mpr fun s hs =>
          Bool.eq_false_iff.mpr (hfind s hs)
        rw [hnone] at hi
        cases hi
      | some s => rfl
    · rename_i hu
      refine find?_modify_other hkeep (fun s hs => decide_eq_false ?_) hi
      rw [of_decide_eq_true hs]
      exact hu
  | none =>
    have hnone : ∀ s ∈ services, ¬s.uuid = srvcUuid := by
      intro s hs
      exact of_decide_eq_false (List.findIdx?_eq_none_iff.mp hi s hs)
    simp only
    rw [List.modify_eq_take_drop, List.take_left, List.drop_left, List.modifyHead_cons,
      List.find?_append]
    split
    · rename_i hu
      have hmissing : (services.find? fun s => s.uuid = u) = none := by
        refine List.find?_eq_none.mpr fun s hs => ?_
        rw [decide_eq_true_iff, ← hu]
        exact hnone s hs
      rw [hmissing, Option.none_or, List.find?_cons_of_pos (by rw [hkeep]; exact decide_eq_true hu)]
      rfl
    · rename_i hu
      rw [List.find?_cons_of_neg (by rw [hkeep, decide_eq_true_iff]; exact hu)]
      exact Option.or_none

/-- a characteristic joins the others under the UUID of its service -/
theorem charsUnder_deviceAdd (ble : BleDevice) {srvcUuid charUuid : List Char}
    (hsrvc : srvcUuid.length = formattedUuidLen) (hchar : charUuid.length = formattedUuidLen)
    (srvcDbusPath charDbusPath : String) (properties : Nat) (u : List Char) :
    charsUnder (deviceAddGattCharacteristic ble (String.ofList srvcUuid) srvcDbusPath
        (String.ofList charUuid) charDbusPath properties) u =
      charsUnder ble u ++
        if srvcUuid = u then [⟨srvcUuid, charDbusPath, String.ofList charUuid⟩] else [] := by
  have hcut : cut (formattedUuidLen + 1) (String.ofList charUuid) = String.ofList charUuid :=
    cut_ofList (by omega)
  unfold charsUnder deviceAddGattCharacteristic
  generalize mapUuidToDatatype (String.ofList charUuid) = d
  simp only
  have hfind := find?_getService ble.services (cut_ofList (s := srvcUuid) (by omega))
    (cut_ofList (by omega))
    (f := fun srvc => addCharToService
      { srvc with dbusPath := srvc.dbusPath.or (some srvcDbusPath) }
      (String.ofList charUuid) charDbusPath properties d.1 d.2) (fun _ => rfl) (String.ofList u)
  rw [hfind]
  by_cases hu : srvcUuid = u
  · subst hu
    rw [if_pos rfl, if_pos rfl]
    simp only [addCharToService, List.map_append, hcut]
    cases ble.services.find? fun s => s.uuid = String.ofList srvcUuid <;> rfl
  · rw [if_neg (fun h => hu (String.ofList_injective h)), if_neg hu, List.append_nil]

/-! ## all objects -/

section
variable {bus : Bus} {adapter : List Char} {stack : CharPath → List Char}
  {ble ble' ble'' : BleDevice} {added added' : List Listed}

theorem Joined.refl (ble : BleDevice) : Joined [] ble ble :=
  ⟨fun _ => (List.append_nil _).symm, rfl⟩

theorem Joined.trans (h : Joined added ble ble') (h' : Joined added' ble' ble'') :
    Joined (added ++ added') ble ble'' := by
  constructor
  · intro srvcUuid
    rw [h'.chars, h.chars, List.filter_append, List.append_assoc]
  · have hstep : { ble'' with services := ble.services } =
        { { ble'' with services := ble'.services } with services := ble.services } := rfl
    rw [hstep, h'.rest, h.rest]

theorem Joined.addr (h : Joined added ble ble') : ble'.addr = ble.addr := by
  have haddr := congrArg BleDevice.addr h.rest
  exact haddr

/-- the device goes on with a characteristic of its own, unless the program ends here -/
theorem processCharacteristicObject_cases (bus : Bus) (adapter : List Char)
    (stack : CharPath → List Char) (o : CharObject) (ble : BleDevice) :
    if o.proxy.isSome = true ∧ Taken adapter ble.addr o →
        isObjectPath (usedPath stack o) = true then
      ∃ ble', processCharacteristicObject bus adapter stack o ble = some ble' ∧
        Joined (found? bus adapter stack ble.addr o).toList ble ble'
    else processCharacteristicObject bus adapter stack o ble = none := by
  obtain ⟨charFlags, heq⟩ := processCharacteristicObject_eq bus adapter stack o ble
  rw [heq]
  unfold found? CharObject.listed?
  by_cases htaken : o.proxy.isSome = true ∧ Taken adapter ble.addr o
  · rw [if_pos htaken, if_pos htaken.2]
    by_cases hpath : isObjectPath (usedPath stack o) = true
    · rw [if_pos fun _ => hpath, if_pos hpath]
      cases hu : o.uuid? with
      | none => exact ⟨ble, rfl, .refl ble⟩
      | some u =>
        refine ⟨_, rfl, fun srvcUuid => ?_, rfl⟩
        rw [charsUnder_deviceAdd ble (length_uuidOf bus _) u.2.1]
        show _ = _ ++ List.filter _ [_]
        rw [List.filter_singleton, Bool.cond_decide]
    · rw [if_neg fun h => hpath (h htaken), if_neg hpath]
  · rw [if_neg htaken, if_pos fun h => absurd h htaken]
    refine ⟨ble, rfl, ?_⟩
    have hnone : (if Taken adapter ble.addr o then
        o.uuid?.map fun u => (⟨uuidOf bus (usedPath stack o), String.ofList o.path.text,
          String.ofList u.1⟩ : Listed) else none) = none := by
      split
      · rename_i htaken'
        have hproxy : o.proxy = none := by
          cases hp : o.proxy with
          | none => rfl
          | some ps => exact absurd ⟨by rw [hp]; rfl, htaken'⟩ htaken
        unfold CharObject.uuid?
        rw [hproxy]
        rfl
      · rfl
    rw [hnone]
    exact .refl ble

/-- the string in `service_path` is an object path for every object that is taken -/
def AllServed (adapter : List Char) (stack : CharPath → List Char) (addr : String)
    (objects : List CharObject) : Prop :=
  ∀ o ∈ objects, o.proxy.isSome = true ∧ Taken adapter addr o →
    isObjectPath (usedPath stack o) = true

/-- **What the loop does**: the objects found join the device, unless the program ends on one of
them. -/
theorem foldlM_bleHandleCharacteristic (bus : Bus) (adapter : List Char)
    (stack : CharPath → List Char) (objects : List ManagedObject) (ble : BleDevice) :
    (AllServed adapter stack ble.addr (objects.filterMap ManagedObject.char?) →
      ∃ ble', objects.foldlM (bleHandleCharacteristic bus adapter stack) ble = some ble' ∧
        Joined ((objects.filterMap ManagedObject.char?).filterMap
          (found? bus adapter stack ble.addr)) ble ble') ∧
    (¬AllServed adapter stack ble.addr (objects.filterMap ManagedObject.char?) →
      objects.foldlM (bleHandleCharacteristic bus adapter stack) ble = none) := by
  induction objects generalizing ble with
  | nil => exact ⟨fun _ => ⟨ble, rfl, .refl ble⟩, fun h => absurd nofun h⟩
  | cons object objects ih =>
    rw [List.foldlM_cons]
    cases object with
    | other => exact ih ble
    | characteristic o =>
      have hcases := processCharacteristicObject_cases bus adapter stack o ble
      have hchars : (ManagedObject.characteristic o :: objects).filterMap ManagedObject.char? =
          o :: objects.filterMap ManagedObject.char? := rfl
      rw [hchars]
      unfold bleHandleCharacteristic
      simp only
      by_cases hserved : o.proxy.isSome = true ∧ Taken adapter ble.addr o →
          isObjectPath (usedPath stack o) = true
      · rw [if_pos hserved] at hcases
        obtain ⟨ble', hprocess, hjoined⟩ := hcases
        rw [hprocess, Option.bind_eq_bind, Option.bind_some]
        have ih := ih ble'
        rw [hjoined.addr] at ih
        constructor
        · intro hall
          obtain ⟨ble'', hrest, hjoined'⟩ := ih.1 fun x hx => hall x (List.mem_cons_of_mem _ hx)
          refine ⟨ble'', hrest, ?_⟩
          have hboth := hjoined.trans hjoined'
          rw [List.filterMap_cons]
          cases hf : found? bus adapter stack ble.addr o with
          | none =>
            rw [hf] at hboth
            exact hboth
          | some x =>
            rw [hf] at hboth
            exact hboth
        · intro hnot
          refine ih.2 fun hall => hnot fun x hx => ?_
          rcases List.mem_cons.mp hx with rfl | hx
          · exact hserved
          · exact hall x hx
      · rw [if_neg hserved] at hcases
        rw [hcases]
        exact ⟨fun hall => absurd (hall o List.mem_cons_self) hserved, fun _ => rfl⟩

/-- lists of objects at paths of their own that agree under each UUID agree object by object -/
theorem filter_eq_iff {f g : CharObject → Option Listed} {objects : List CharObject}
    (hunique : (objects.map fun o => o.path.text).Nodup)
    (hf : ∀ o x, f o = some x → x.dbusPath = String.ofList o.path.text)
    (hg : ∀ o x, g o = some x → x.dbusPath = String.ofList o.path.text) :
    (∀ srvcUuid, ((objects.filterMap f).filter fun x => x.srvcUuid = srvcUuid) =
        (objects.filterMap g).filter fun x => x.srvcUuid = srvcUuid) ↔
      ∀ o ∈ objects, f o = g o := by
  constructor
  · intro heq
    -- what one function makes of an object is made by the other of an object at the same path
    have hmem : ∀ x, (∃ o ∈ objects, f o = some x) ↔ ∃ o ∈ objects, g o = some x := by
      intro x
      have hx := congrArg (x ∈ ·) (heq x.srvcUuid)
      simp only [List.mem_filter, List.mem_filterMap, decide_true, and_true] at hx
      exact hx.to_iff
    have hsame : ∀ o ∈ objects, ∀ o' ∈ objects, ∀ x : Listed,
        x.dbusPath = String.ofList o.path.text → x.dbusPath = String.ofList o'.path.text →
          o' = o := by
      intro o ho o' ho' x hx hx'
      exact List.inj_on_of_nodup_map hunique ho' ho (String.ofList_injective (hx'.symm.trans hx))
    intro o ho
    apply Option.ext
    intro x
    constructor
    · intro hx
      obtain ⟨o', ho', hx'⟩ := (hmem x).mp ⟨o, ho, hx⟩
      rw [← hsame o ho o' ho' x (hf o x hx) (hg o' x hx')]
      exact hx'
    · intro hx
      obtain ⟨o', ho', hx'⟩ := (hmem x).mpr ⟨o, ho, hx⟩
      rw [← hsame o ho o' ho' x (hg o x hx) (hf o' x hx')]
      exact hx'
  · intro heq srvcUuid
    rw [List.filterMap_congr heq]

theorem listed?_dbusPath {o : CharObject} {srvcUuid : List Char} {x : Listed}
    (hx : o.listed? srvcUuid = some x) : x.dbusPath = String.ofList o.path.text := by
  obtain ⟨u, -, rfl⟩ := Option.map_eq_some_iff.mp hx
  rfl

/-- an object is found as it should be exactly when it is taken as it should be, and read by the
path of its service -/
theorem found?_eq_own?_iff (o : CharObject) (addr : String) :
    found? bus adapter stack addr o = own? bus adapter addr o ↔
      (o.uuid?.isSome = true → (Taken adapter addr o ↔ Mine adapter addr o) ∧
        (Taken adapter addr o → uuidOf bus (usedPath stack o) = ownServiceUuid bus o)) := by
  unfold found? own? CharObject.listed?
  cases o.uuid? with
  | none =>
    simp only [Option.map_none, ite_self, true_iff]
    nofun
  | some u =>
    simp only [Option.map_some, Option.isSome_some, true_imp_iff]
    by_cases htaken : Taken adapter addr o
    · by_cases hmine : Mine adapter addr o
      · rw [if_pos htaken, if_pos hmine]
        simp [htaken, hmine]
      · rw [if_pos htaken, if_neg hmine]
        simp [htaken, hmine]
    · by_cases hmine : Mine adapter addr o
      · rw [if_neg htaken, if_pos hmine]
        simp [htaken, hmine]
      · rw [if_neg htaken, if_neg hmine]
        simp [htaken, hmine]

/-- `snprintf` keeps 20 characters of `<adapter>/` -/
theorem objectOnAdapter_iff_starts (p : CharPath) (adapter : List Char) :
    objectOnAdapter p.text adapter = true ↔ (adapter ++ ['/']).take 20 <+: p.below := by
  have hcut : ("/org/bluez".toList ++ '/' :: (adapter ++ ['/'])).take 31 =
      "/org/bluez".toList ++ '/' :: (adapter ++ ['/']).take 20 := rfl
  unfold objectOnAdapter CharPath.text
  rw [hcut, List.isPrefixOf_iff_prefix, List.prefix_append_right_inj, List.cons_prefix_cons]
  exact and_iff_right rfl

/-- a path on the adapter begins with what is kept of its name -/
theorem take_prefix_below {p : CharPath} (h : p.adapter.1 = adapter) :
    (adapter ++ ['/']).take 20 <+: p.below := by
  refine (List.take_prefix _ _).trans ?_
  unfold CharPath.below
  rw [h, List.prefix_append_right_inj]
  exact ⟨_, rfl⟩

/-- an object is taken as it should be exactly when the names and the address are told apart -/
theorem taken_iff_mine_iff (o : CharObject) (addr : String) :
    (Taken adapter addr o ↔ Mine adapter addr o) ↔
      (Reads addr o → (adapter ++ ['/']).take 20 <+: o.path.below → o.path.adapter.1 = adapter) ∧
        (o.path.adapter.1 = adapter →
          (Reads addr o ↔ addressText ':' o.path.octets = addr.toList)) := by
  unfold Taken Mine Reads
  rw [objectOnAdapter_iff_starts]
  constructor
  · intro h
    refine ⟨fun hreads hstarts => (h.mp ⟨hstarts, hreads⟩).1, fun hname => ⟨?_, ?_⟩⟩
    · exact fun hreads => (h.mp ⟨take_prefix_below hname, hreads⟩).2
    · exact fun haddr => (h.mpr ⟨hname, haddr⟩).2
  · rintro ⟨hnamed, haddressed⟩
    constructor
    · rintro ⟨hstarts, hreads⟩
      have hname := hnamed hreads hstarts
      exact ⟨hname, (haddressed hname).mp hreads⟩
    · rintro ⟨hname, haddr⟩
      exact ⟨take_prefix_below hname, (haddressed hname).mpr haddr⟩

theorem attributable_iff (o : CharObject) (addr : String) :
    Attributable bus adapter stack addr o ↔
      (o.proxy.isSome = true ∧ Taken adapter addr o → isObjectPath (usedPath stack o) = true) ∧
        found? bus adapter stack addr o = own? bus adapter addr o := by
  rw [found?_eq_own?_iff]
  constructor
  · intro h
    refine ⟨fun hserved => h.served hserved.1 hserved.2, fun hu => ⟨?_, h.service hu⟩⟩
    exact (taken_iff_mine_iff o addr).mpr ⟨h.named hu, h.addressed hu⟩
  · rintro ⟨hserved, hfound⟩
    have hboth := fun hu => (taken_iff_mine_iff o addr).mp (hfound hu).1
    exact ⟨fun hu => (hboth hu).1, fun hu => (hboth hu).2, fun hp ht => hserved ⟨hp, ht⟩,
      fun hu => (hfound hu).2⟩

theorem bleDiscoverCharacteristics_eq {objects : List ManagedObject} (hne : objects ≠ []) :
    bleDiscoverCharacteristics bus adapter stack objects ble =
      objects.foldlM (bleHandleCharacteristic bus adapter stack) ble := by
  cases objects with
  | nil => exact absurd rfl hne
  | cons object objects => rfl

/-- what is found is what is the device's own, under every service, exactly when it is so object by
object -/
theorem found_eq_own_iff (bus : Bus) (adapter : List Char) (stack : CharPath → List Char)
    (objects : ManagedObjects) (addr : String) :
    (∀ srvcUuid, ((objects.1.filterMap ManagedObject.char?).filterMap
        (found? bus adapter stack addr)).filter (fun x => x.srvcUuid = srvcUuid) =
      ((objects.1.filterMap ManagedObject.char?).filterMap
        (own? bus adapter addr)).filter (fun x => x.srvcUuid = srvcUuid)) ↔
      ∀ o ∈ objects.1.filterMap ManagedObject.char?,
        found? bus adapter stack addr o = own? bus adapter addr o := by
  refine filter_eq_iff objects.2 (fun o x hx => ?_) fun o x hx => ?_
  · unfold found? at hx
    split at hx
    · exact listed?_dbusPath hx
    · cases hx
  · unfold own? at hx
    split at hx
    · exact listed?_dbusPath hx
    · cases hx

/-- objects that can all be attributed are -/
theorem attributed_of_attributable {bus : Bus} {adapter : List Char} {stack : CharPath → List Char}
    {objects : ManagedObjects} {ble : BleDevice} (hne : objects.1 ≠ [])
    (hall : ∀ o ∈ objects.1.filterMap ManagedObject.char?,
      Attributable bus adapter stack ble.addr o) :
    Attributed bus adapter stack objects ble := by
  obtain ⟨hreturns, -⟩ := foldlM_bleHandleCharacteristic bus adapter stack objects.1 ble
  have hagree := found_eq_own_iff bus adapter stack objects ble.addr
  obtain ⟨ble', hfold, hfound⟩ := hreturns fun o ho =>
    ((attributable_iff o ble.addr).mp (hall o ho)).1
  refine ⟨ble', (bleDiscoverCharacteristics_eq hne).trans hfold, fun srvcUuid => ?_, hfound.rest⟩
  rw [hfound.chars, hagree.mpr fun o ho => ((attributable_iff o ble.addr).mp (hall o ho)).2]

/-- **The device gets exactly its characteristics if and only if there are objects and each of them
can be attributed.** -/
theorem attributed_iff (bus : Bus) (adapter : List Char) (stack : CharPath → List Char)
    (objects : ManagedObjects) (ble : BleDevice) :
    Attributed bus adapter stack objects ble ↔
      objects.1 ≠ [] ∧ ∀ o ∈ objects.1.filterMap ManagedObject.char?,
        Attributable bus adapter stack ble.addr o := by
  obtain ⟨hreturns, hends⟩ := foldlM_bleHandleCharacteristic bus adapter stack objects.1 ble
  have hagree := found_eq_own_iff bus adapter stack objects ble.addr
  constructor
  · rintro ⟨ble', hdiscover, hjoined⟩
    have hne : objects.1 ≠ [] := by
      intro hnil
      rw [hnil] at hdiscover
      cases hdiscover
    rw [bleDiscoverCharacteristics_eq hne] at hdiscover
    have hserved : AllServed adapter stack ble.addr
        (objects.1.filterMap ManagedObject.char?) := by
      by_contra hnot
      rw [hends hnot] at hdiscover
      cases hdiscover
    obtain ⟨ble'', hfold, hfound⟩ := hreturns hserved
    obtain rfl := Option.some.inj (hfold.symm.trans hdiscover)
    have heq := hagree.mp fun srvcUuid =>
      List.append_cancel_left ((hfound.chars srvcUuid).symm.trans (hjoined.chars srvcUuid))
    exact ⟨hne, fun o ho => (attributable_iff o ble.addr).mpr ⟨hserved o ho, heq o ho⟩⟩
  · rintro ⟨hne, hall⟩
    exact attributed_of_attributable hne hall

/-! ## short names -/

theorem hexChar_ne {c : Char} (hc : c ∉ "0123456789ABCDEF".toList) (n : Nat) : hexChar n ≠ c := by
  intro h
  apply hc
  rw [← h]
  unfold hexChar
  rw [List.getD_eq_getElem?_getD]
  cases hn : "0123456789ABCDEF".toList[n]? with
  | none => exact List.mem_of_getElem? (i := 0) rfl
  | some d => exact List.mem_of_getElem? hn

theorem slash_not_mem (e : Element) : '/' ∉ e.1 := fun hmem =>
  absurd (List.all_eq_true.mp e.2.2 _ hmem) (by decide)

/-- the address is read off a path whose adapter is not taken for a device -/
theorem getDeviceAddress_eq {p : CharPath} (hdev : ¬"dev_".toList <:+: p.adapter.1) :
    getDeviceAddressFromCharacteristicPath p.text = some (addressText ':' p.octets) := by
  have hroot : ¬"dev_".toList <:+: "/org/bluez".toList := by
    rw [← strstr_isSome]
    decide
  unfold getDeviceAddressFromCharacteristicPath CharPath.text CharPath.below
  rw [strstr_append_cons (by decide) (by decide) hroot,
    strstr_append_cons (by decide) (by decide) hdev, strstr_of_prefix (List.prefix_append ..)]
  have htake : (("dev_".toList ++ (addressText '_' p.octets ++ p.rest)).drop 4).take 17 =
      addressText '_' p.octets := rfl
  simp only [Option.map_some]
  rw [htake]
  have hset : (((((addressText '_' p.octets ++ List.replicate (17 -
      (addressText '_' p.octets).length) (Char.ofNat 0)).set 2 ':').set 5 ':').set 8 ':').set
        11 ':').set 14 ':' = addressText ':' p.octets := rfl
  rw [hset, List.takeWhile_eq_self_iff.mpr]
  intro c hc
  have hhex : ∀ n, hexChar n ≠ Char.ofNat 0 := hexChar_ne (by decide)
  apply decide_eq_true
  unfold addressText at hc
  simp only [List.mem_cons, List.not_mem_nil, or_false] at hc
  rcases hc with rfl | rfl | rfl | rfl | rfl | rfl | rfl | rfl | rfl | rfl | rfl | rfl | rfl |
    rfl | rfl | rfl | rfl
  all_goals first | exact hhex _ | decide

/-- an adapter whose name fits in the buffer is the only one that is matched -/
theorem objectOnAdapter_iff {p : CharPath} (hlen : adapter.length ≤ 19) (hslash : '/' ∉ adapter) :
    objectOnAdapter p.text adapter = true ↔ p.adapter.1 = adapter := by
  have hkept : (adapter ++ ['/']).take 20 = adapter ++ ['/'] := by
    apply List.take_of_length_le
    rw [List.length_append, List.length_singleton]
    omega
  rw [objectOnAdapter_iff_starts, hkept]
  unfold CharPath.below
  rw [append_separator_prefix_iff hslash (slash_not_mem _)]
  exact eq_comm

/-- **Characteristics are taken as they should be if the adapter's name fits in the buffer, and no
adapter is taken for a device.** -/
theorem taken_iff_mine {o : CharObject} (hlen : adapter.length ≤ 19) (hslash : '/' ∉ adapter)
    (hdev : ¬"dev_".toList <:+: o.path.adapter.1) (addr : String) :
    Taken adapter addr o ↔ Mine adapter addr o := by
  unfold Taken Mine
  rw [objectOnAdapter_iff hlen hslash, getDeviceAddress_eq hdev, Option.some.injEq]

/-- with a `Service` property that fits in the buffer, the right service is read -/
theorem attributable_of_service {o : CharObject} (hlen : adapter.length ≤ 19)
    (hslash : '/' ∉ adapter) (hdev : ¬"dev_".toList <:+: o.path.adapter.1) {path : ObjectPath}
    (hservice : o.service? = some path) (hfits : path.1.length ≤ 4095) (addr : String) :
    Attributable bus adapter stack addr o := by
  have hused : usedPath stack o = path.1 := by
    unfold usedPath
    rw [hservice, Option.map_some, List.take_of_length_le hfits]
    rfl
  have htaken := (taken_iff_mine_iff o addr).mp (taken_iff_mine hlen hslash hdev addr)
  refine ⟨fun _ => htaken.1, fun _ => htaken.2, ?_, ?_⟩
  · intro _ _
    rw [hused]
    exact path.2
  · intro _ _
    unfold ownServiceUuid
    rw [hused, hservice]
    rfl

/-- **With a short adapter name, characteristics that all have a service are attributed.** -/
theorem attributed_of_services {objects : ManagedObjects} (hne : objects.1 ≠ [])
    (hlen : adapter.length ≤ 19) (hslash : '/' ∉ adapter)
    (hserved : ∀ o ∈ objects.1.filterMap ManagedObject.char?,
      ¬"dev_".toList <:+: o.path.adapter.1 ∧
        ∃ path : ObjectPath, o.service? = some path ∧ path.1.length ≤ 4095) (ble : BleDevice) :
    Attributed bus adapter stack objects ble := by
  apply attributed_of_attributable hne
  intro o ho
  obtain ⟨hdev, path, hservice, hfits⟩ := hserved o ho
  exact attributable_of_service hlen hslash hdev hservice hfits ble.addr

/-- the characteristics under one UUID show that something is wrong -/
theorem not_attributed_of_charsUnder {objects : ManagedObjects} (srvcUuid : List Char)
    (h : (bleDiscoverCharacteristics bus adapter stack objects.1 ble).map (charsUnder · srvcUuid) ≠
      some (charsUnder ble srvcUuid ++ ((objects.1.filterMap ManagedObject.char?).filterMap
        (own? bus adapter ble.addr)).filter fun x => x.srvcUuid = srvcUuid)) :
    ¬Attributed bus adapter stack objects ble := by
  rintro ⟨ble', hdiscover, hjoined⟩
  rw [hdiscover, Option.map_some, hjoined.chars] at h
  exact h rfl

end

def temperatureUuid : Uuid := ⟨"00002a6e-0000-1000-8000-00805f9b34fb".toList, by decide +kernel⟩

def batteryUuid : Uuid := ⟨"0000180f-0000-1000-8000-00805f9b34fb".toList, by decide +kernel⟩

def plainAdapter : Element := ⟨"hci0".toList, by decide⟩

/-- 21 characters, of which the first 20 are the name of another adapter -/
def longAdapter : Element := ⟨"usb_dongle_on_port_10".toList, by decide +kernel⟩

def batteryPath : ObjectPath :=
  ⟨"/org/bluez/usb_dongle_on_port_10/dev_00_11_22_33_44_55/service0001".toList, by decide +kernel⟩

/-- a thermometer at `00:11:22:33:44:55`, which may say of which service it is -/
def thermometer (adapter : Element) (service : Option ObjectPath) : CharObject :=
  { path := ⟨adapter, fun i => UInt8.ofNat (0x11 * i.1), ⟨"0001".toList, by decide⟩,
      ⟨"0002".toList, by decide⟩⟩
    proxy := some ⟨.uuid temperatureUuid :: (service.map .service).toList, by
      cases service with
      | none => exact List.nodup_singleton _
      | some path => exact List.nodup_cons.mpr ⟨by simp, List.nodup_singleton _⟩⟩ }

def thermometerObjects (adapter : Element) (service : Option ObjectPath) : ManagedObjects :=
  ⟨[.characteristic (thermometer adapter service)], List.nodup_singleton _⟩

def thermometerDevice : BleDevice := deviceCreate 1 0 "00:11:22:33:44:55"

/-- a bus whose services are all of one kind -/
def batteryBus : Bus := fun _ => some ⟨[.uuid batteryUuid], List.nodup_singleton _⟩

/-- a thermometer on the adapter `usb_dongle_on_port_10` joins the device although that is on
`usb_dongle_on_port_1`; and one that does not name its service is put under the service whose path
was left in the buffer -/
theorem not_attributed :
    ¬Attributed batteryBus "usb_dongle_on_port_1".toList (fun _ => [])
        (thermometerObjects longAdapter (some batteryPath)) thermometerDevice ∧
      ¬Attributed batteryBus "hci0".toList (fun _ => batteryPath.1)
        (thermometerObjects plainAdapter none) thermometerDevice := by
  constructor
  · exact not_attributed_of_charsUnder batteryUuid.1 (by decide +kernel)
  · exact not_attributed_of_charsUnder batteryUuid.1 (by decide +kernel)

end EdgeTranslators.Ble.Discovery
