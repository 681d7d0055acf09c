import EdgeTranslators.Ble.WriteStatus

/-!
# Writing a service-object resource and reading it back

What `device_write_characteristic` sends for a `/18135` resource, and what
`ble_read_characteristic_callback` publishes when the same bytes come back.

* `parseResultVariant_eq`        the buffer and the size after a reply of any length;
* `callback_publishes`           what the callback publishes for a reply that fits;
* `serviceResource_roundTrip`    the published value is the written one exactly when it fills the
                                 buffer and, for an integer on a little-endian host, reads the same
                                 both ways.
-/

namespace EdgeTranslators.Ble
open Lib Pt

/-! ## the reply of a read -/

/-- what is behind a reply in the buffer: the old bytes, of which the first may be cleared -/
def Host.behind (h : Host) : Bytes → Bytes
  | [] => []
  | b :: bs => (if h.clearsAtEnd then 0 else b) :: bs

theorem Host.length_behind (h : Host) (bs : Bytes) : (h.behind bs).length = bs.length := by
  cases bs <;> rfl

theorem Host.behind_of_not_clears {h : Host} (hclears : h.clearsAtEnd = false) (bs : Bytes) :
    h.behind bs = bs := by
  cases bs with
  | nil => rfl
  | cons b bs =>
    show (if h.clearsAtEnd then 0 else b) :: bs = b :: bs
    rw [hclears]
    rfl

/-- the induction is on the bytes the iterator has left; `datasize` of them are stored -/
theorem parseResultVariantFrom_eq (h : Host) (data reply : Bytes) (datasize : Nat)
    (hsize : datasize ≤ data.length) :
    parseResultVariantFrom h data.length data reply datasize
      = (data.take datasize ++ reply.take (data.length - datasize)
          ++ h.behind (data.drop (datasize + reply.length)),
        min (datasize + reply.length + 1) data.length) := by
  induction reply generalizing data datasize with
  | nil =>
    unfold parseResultVariantFrom
    by_cases hlt : datasize < data.length
    · have hsplit : data = data.take datasize ++ data[datasize] :: data.drop (datasize + 1) := by
        rw [List.getElem_cons_drop hlt, List.take_append_drop]
      have hdrop : data.drop datasize = data[datasize] :: data.drop (datasize + 1) :=
        (List.getElem_cons_drop hlt).symm
      rw [if_pos hlt]
      refine Prod.ext ?_ ?_
      · show (if h.clearsAtEnd then data.set datasize 0 else data)
          = data.take datasize ++ [].take (data.length - datasize) ++ h.behind (data.drop datasize)
        rw [hdrop, List.take_nil, List.append_nil, Host.behind]
        split
        · exact List.set_eq_take_cons_drop 0 hlt
        · exact hsplit
      · show datasize + 1 = min (datasize + 0 + 1) data.length
        omega
    · have heq : datasize = data.length := by omega
      rw [if_neg hlt]
      refine Prod.ext ?_ ?_
      · simp [heq, Host.behind]
      · show datasize = min (datasize + 0 + 1) data.length
        omega
  | cons b reply ih =>
    unfold parseResultVariantFrom
    by_cases hlt : datasize < data.length
    · have hlen : (data.set datasize b).length = data.length := List.length_set
      have hset := ih (data.set datasize b) (datasize + 1) (by omega)
      rw [hlen] at hset
      rw [if_pos hlt, hset]
      have htake : (data.set datasize b).take (datasize + 1) = data.take datasize ++ [b] := by
        rw [List.take_succ_eq_append_getElem (by omega), List.take_set_of_le (le_refl _),
          List.getElem_set_self]
      have hsucc : data.length - datasize = (data.length - (datasize + 1)) + 1 := by omega
      have hdrop : datasize + (b :: reply).length = datasize + 1 + reply.length := by
        show datasize + (reply.length + 1) = datasize + 1 + reply.length
        omega
      rw [htake, hdrop, hsucc, List.take_succ_cons, List.drop_set_of_lt (by omega)]
      simp
    · have heq : datasize = data.length := by omega
      have hdrop : data.drop (datasize + (b :: reply).length) = [] :=
        List.drop_eq_nil_of_le (by omega)
      rw [if_neg hlt, hdrop]
      refine Prod.ext ?_ ?_
      · simp [heq, Host.behind]
      · show datasize = min (datasize + (reply.length + 1) + 1) data.length
        omega

/-- the reply in the buffer, as far as it fits, and a size that is one too large unless the reply
fills the buffer -/
theorem parseResultVariant_eq (h : Host) (data reply : Bytes) :
    parseResultVariant h data data.length reply
      = (reply.take data.length ++ h.behind (data.drop reply.length),
        min (reply.length + 1) data.length) := by
  unfold parseResultVariant
  rw [parseResultVariantFrom_eq h data reply 0 (Nat.zero_le _)]
  simp

theorem GattChar.parse_value (h : Host) {c : GattChar} {reply : Bytes}
    (hfits : reply.length ≤ c.valueSize) :
    (c.parse h reply).value = reply ++ h.behind (c.value.drop reply.length) := by
  show (parseResultVariant h c.value c.valueSize reply).1 = _
  rw [← c.sized, parseResultVariant_eq, List.take_of_length_le (hfits.trans c.sized.ge)]

theorem GattChar.parse_valueLength (h : Host) (c : GattChar) (reply : Bytes) :
    (c.parse h reply).valueLength = min (reply.length + 1) c.valueSize := by
  show (parseResultVariant h c.value c.valueSize reply).2 = _
  rw [← c.sized, parseResultVariant_eq]

/-- an integer of four bytes is reversed by a little-endian host -/
theorem swapInteger_four (o : ByteOrder) {value : Bytes} (h : value.length = 4) :
    swapInteger o 4 value = if o = .little then value.reverse else value := by
  unfold swapInteger
  rw [if_pos ⟨h, .inr rfl⟩]
  have hswap := o.storeWord_netOrder_loadWord value
  rwa [h] at hswap

theorem GattChar.swap_value_of_integer (o : ByteOrder) {c : GattChar} (h : c.dtype = .integer) :
    (c.swap o).value = swapInteger o c.valueSize c.value := by
  unfold swap
  rw [if_pos h]

theorem GattChar.swap_of_not_integer (o : ByteOrder) {c : GattChar} (h : c.dtype ≠ .integer) :
    c.swap o = c := by
  unfold swap
  rw [if_neg h]

/-! ## the callback -/

/-- a found characteristic is parsed, translated, swapped and published, in this order -/
theorem callback_publishes (h : Host) (c : Client) {devices : List BleDevice} {ble : BleDevice}
    {gattchar : GattChar} {srvc ch : Nat} {deviceId : String}
    (hfind : devicesFindDeviceByDeviceId devices deviceId = some ble)
    (hchar : ble.char? srvc ch = some gattchar) (reply : Bytes) :
    ∃ devices' c₁, bleReadCharacteristicCallback h c devices deviceId srvc ch (.reply reply)
      = some (devices', edgeSetResourceValue c₁ deviceId (servicePath srvc gattchar.resourceId)
          (((gattchar.parse h reply).swap h.byteOrder).value.take
            (gattchar.parse h reply).valueLength)) := by
  obtain rfl := (mem_of_devicesFindDeviceByDeviceId hfind).2
  have hswap : ∀ g : GattChar, (g.swap h.byteOrder).resourceId = g.resourceId ∧
      (g.swap h.byteOrder).valueLength = g.valueLength := by
    intro g
    unfold GattChar.swap
    split <;> exact ⟨rfl, rfl⟩
  simp only [bleReadCharacteristicCallback, hfind, Option.bind_some, hchar, Option.map_some]
  rw [(hswap _).1, (hswap _).2]
  exact ⟨_, _, rfl⟩

/-! ## the route of a service-object resource -/

theorem toNat_ofNat_of_lt {n : Nat} (h : n < 65536) : (UInt16.ofNat n).toNat = n := by
  rw [UInt16.toNat_ofNat']
  exact Nat.mod_eq_of_lt h

/-- the resource ids of a table are the indices of the characteristics -/
def Numbered (services : List GattService) : Prop :=
  ∀ s ∈ services, ∀ (ch : Nat) (c : GattChar), s.chars[ch]? = some c →
    c.resourceId = UInt16.ofNat ch

theorem GattTable.numbered {services : List GattService} (h : GattTable services) :
    Numbered services := fun s hs ch c hc => (h s hs ch c hc).resourceId

/-- in a table as it is built, the resource id of a characteristic leads back to it -/
theorem findIdx?_resourceId {chars : List GattChar}
    (hnum : ∀ (ch : Nat) (c : GattChar), chars[ch]? = some c → c.resourceId = UInt16.ofNat ch)
    (hlen : chars.length ≤ 65536) {ch : Nat} {charact : GattChar}
    (hch : chars[ch]? = some charact) :
    chars.findIdx? (·.resourceId = charact.resourceId) = some ch := by
  obtain ⟨hlt, hget⟩ := List.getElem?_eq_some_iff.mp hch
  rw [List.findIdx?_eq_some_iff_getElem]
  refine ⟨hlt, by simp [hget], fun j hj => ?_⟩
  have hjlt : j < chars.length := by omega
  rw [hnum j chars[j] (List.getElem?_eq_getElem hjlt), hnum ch charact hch]
  simp only [Bool.not_eq_true, decide_eq_false_iff_not]
  intro heq
  have hnat := congrArg UInt16.toNat heq
  rw [toNat_ofNat_of_lt (by omega), toNat_ofNat_of_lt (by omega)] at hnat
  omega

/-- a write to the resource of a characteristic is routed to it, unchanged -/
theorem writeRoute_servicePath (h : Host) (c : Client) {ble : BleDevice}
    (hnum : Numbered ble.services) (hservices : ble.services.length ≤ 65536) {svc ch : Nat}
    {s : GattService} {charact : GattChar} (hs : ble.services[svc]? = some s)
    (hchars : s.chars.length ≤ 65536) (hch : s.chars[ch]? = some charact) (value : Bytes) :
    writeRoute h c ble (servicePath svc charact.resourceId) value
      = some ⟨svc, ch, charact, value⟩ := by
  have hlt := (List.getElem?_eq_some_iff.mp hs).1
  have hsvc : (UInt16.ofNat svc).toNat = svc := toNat_ofNat_of_lt (by omega)
  have hidx := findIdx?_resourceId (hnum s (List.mem_of_getElem? hs)) hchars hch
  have hobj : (servicePath svc charact.resourceId).objectId = ipsoOidBleService := rfl
  have hfound : ((ble.services[(UInt16.ofNat svc).toNat]?).bind fun s =>
      s.chars.findIdx? (·.resourceId = charact.resourceId)) = some ch := by
    rw [hsvc, hs]
    exact hidx
  unfold writeRoute
  rw [if_neg (not_not.mpr hobj)]
  show (((ble.services[(UInt16.ofNat svc).toNat]?).bind fun s =>
      s.chars.findIdx? (·.resourceId = charact.resourceId)).bind fun ch =>
        (ble.char? (UInt16.ofNat svc).toNat ch).map fun charact =>
          Route.mk (UInt16.ofNat svc).toNat ch charact value) = _
  rw [hfound, hsvc, Option.bind_some, BleDevice.char?_eq_some.mpr ⟨s, hs, hch⟩]
  rfl

/-! ## the round trip -/

/-- what becomes of the bytes `w`, stored with zeros behind them, read back and published -/
theorem published_eq_iff (h : Host) {charact : GattChar} {ch : Nat}
    (hwf : charact.WellFormed ch) {w : Bytes} (hw : w.length ≤ charact.valueSize) :
    ((((charact.store w).parse h w).swap h.byteOrder).value.take
        ((charact.store w).parse h w).valueLength = w)
      ↔ w.length = charact.valueSize ∧
        (charact.dtype = .integer → h.byteOrder = .little → w.reverse = w) := by
  have hlen : ((charact.store w).parse h w).valueLength = min (w.length + 1) charact.valueSize :=
    GattChar.parse_valueLength h _ _
  have hval : ((charact.store w).parse h w).value
      = w ++ h.behind ((charact.store w).value.drop w.length) := GattChar.parse_value h hw
  generalize h.byteOrder = o
  have hsized : (((charact.store w).parse h w).swap o).value.length = charact.valueSize := by
    unfold GattChar.swap
    split
    · exact (length_swapInteger ..).trans ((charact.store w).parse h w).sized
    · exact ((charact.store w).parse h w).sized
  by_cases hfull : w.length = charact.valueSize
  · have hval' : ((charact.store w).parse h w).value = w := by
      rw [hval, List.drop_eq_nil_of_le (by rw [(charact.store w).sized]; exact hfull.ge),
        Host.behind, List.append_nil]
    rw [hlen, List.take_of_length_le (by rw [hsized]; omega)]
    simp only [hfull, true_and]
    by_cases hint : charact.dtype = .integer
    · have hfour : charact.valueSize = 4 := by
        have htyped := hwf.typed
        rw [hint] at htyped
        unfold mapUuidToDatatype at htyped
        split at htyped
        · exact (Prod.mk.inj htyped).2
        · split at htyped <;> cases (Prod.mk.inj htyped).1
      have hswap : (((charact.store w).parse h w).swap o).value
          = swapInteger o charact.valueSize ((charact.store w).parse h w).value :=
        GattChar.swap_value_of_integer o hint
      rw [hswap, hval', hfour, swapInteger_four o (hfull.trans hfour)]
      cases o with
      | little => simp [hint]
      | big => simp
    · have hswap : ((charact.store w).parse h w).swap o = (charact.store w).parse h w :=
        GattChar.swap_of_not_integer o hint
      rw [hswap, hval']
      exact ⟨fun _ h0 => absurd h0 hint, fun _ => rfl⟩
  · -- the published value is one byte longer than what was written
    refine ⟨fun heq => absurd (congrArg List.length heq) ?_, fun h0 => absurd h0.1 hfull⟩
    rw [List.length_take, hlen, hsized]
    omega

/-- **What comes back is what was written exactly when it fills the buffer and is not an integer
that a little-endian host turns round.**  Between the write and the reply anything may happen that
leaves the cached characteristic as the write left it. -/
theorem serviceResource_roundTrip (h : Host) (c c' : Client) {ble : BleDevice}
    (htable : GattTable ble.services) (hservices : ble.services.length ≤ 65536) {svc ch : Nat}
    {s : GattService} {charact : GattChar} (hs : ble.services[svc]? = some s)
    (hchars : s.chars.length ≤ 65536) (hch : s.chars[ch]? = some charact) {w : Bytes}
    (hw : w.length ≤ charact.valueSize) {devices : List BleDevice} {deviceId : String}
    {ble' : BleDevice}
    (hfind : devicesFindDeviceByDeviceId devices deviceId = some ble')
    (hkept : ble'.char? svc ch = (deviceWriteCharacteristic h c ble
      (servicePath svc charact.resourceId) w .reply).device.char? svc ch) :
    ∃ sent, (deviceWriteCharacteristic h c ble (servicePath svc charact.resourceId) w
        .reply).write = some (charact.dbusPath, sent) ∧
      ∃ devices' c₁ published,
        bleReadCharacteristicCallback h c' devices deviceId svc ch (.reply sent)
          = some (devices', edgeSetResourceValue c₁ deviceId
              (servicePath svc charact.resourceId) published) ∧
        (published = w ↔ w.length = charact.valueSize ∧
          (charact.dtype = .integer → h.byteOrder = .little → w.reverse = w)) := by
  have hcases := deviceWriteCharacteristic_cases h c ble (servicePath svc charact.resourceId) w
    .reply
  rw [writeRoute_servicePath h c htable.numbered hservices hs hchars hch w] at hcases
  have hdev := (hcases.stored (by rw [hcases.rc]; rfl)).1
  rw [hdev, BleDevice.char?_setChar_self (by rw [hcases.char]; rfl)] at hkept
  obtain ⟨devices', c₁, hcall⟩ := callback_publishes h c' hfind hkept w
  exact ⟨w, hcases.write, devices', c₁, _, hcall,
    published_eq_iff h (htable s (List.mem_of_getElem? hs) ch charact hch) hw⟩

theorem integerDevice_gattTable : GattTable integerDevice.services :=
  deviceAddGattCharacteristic_gattTable _ _ _ _ _ (by decide) fun _ hs => by cases hs

/-- what the write of `w` to the integer characteristic leaves behind -/
def integerDeviceAfter (w : Bytes) : BleDevice :=
  (deviceWriteCharacteristic plainHost emptyClient integerDevice (servicePath 0 0) w .reply).device

theorem serviceResource_roundTrip_integer :
    ∃ sent, (deviceWriteCharacteristic plainHost emptyClient integerDevice (servicePath 0 0)
        [1, 2, 2, 1] .reply).write = some ("/service0001/char0002", sent) ∧
      ∃ devices' c₁ published,
        bleReadCharacteristicCallback plainHost emptyClient [integerDeviceAfter [1, 2, 2, 1]]
            "BLE-00:11:22:33:44:55-0" 0 0 (.reply sent)
          = some (devices', edgeSetResourceValue c₁ "BLE-00:11:22:33:44:55-0"
              (servicePath 0 0) published) ∧
        (published = [1, 2, 2, 1] ↔ 4 = 4 ∧ (BleDatatype.integer = .integer →
          plainHost.byteOrder = .little → [1, 2, 2, 1].reverse = ([1, 2, 2, 1] : Bytes))) :=
  @serviceResource_roundTrip plainHost emptyClient emptyClient integerDevice
    integerDevice_gattTable (by decide) 0 0 (integerDevice.services.head (by decide))
    ((integerDevice.services.head (by decide)).chars.head (by decide)) rfl (by decide) rfl
    [1, 2, 2, 1] (by decide) [integerDeviceAfter [1, 2, 2, 1]] "BLE-00:11:22:33:44:55-0"
    (integerDeviceAfter [1, 2, 2, 1]) (by rfl) rfl

/-- one byte written to the integer characteristic comes back as two zeros -/
theorem integerDevice_not_roundTrip :
    (deviceWriteCharacteristic plainHost emptyClient integerDevice (servicePath 0 0) [7]
        .reply).write = some ("/service0001/char0002", [7]) ∧
      ((bleReadCharacteristicCallback plainHost emptyClient [integerDeviceAfter [7]]
        "BLE-00:11:22:33:44:55-0" 0 0 (.reply [7])).map fun r =>
          r.2.lastSet "BLE-00:11:22:33:44:55-0" (servicePath 0 0)) ≠ some (some [7]) := by
  decide

end EdgeTranslators.Ble
