import EdgeTranslators.Ble.Translator
import EdgeTranslators.Ble.RoundTrip
import EdgeTranslators.Ble.Introspection
import Mathlib.Data.List.Induction

/-!
# The paths of the service objects (`devices.c`)

A GATT table grows one characteristic after the other, and three traversals number it again: the
registration of its resources, the introspection text, and the search for the characteristic of a
write.

* `addCharacteristics`      a sequence of `device_add_gatt_characteristic` calls;
* `Table adds services`     the table has what was added, each service once, in order;
* `gattResources`           the resources of the table, as they are handed to the client;
* `textUpTo`                what the introspection text has up to a characteristic and its path;
* `PathsAgree`              one path for each characteristic, the same in the three traversals.
-/

namespace EdgeTranslators.Ble
open Lib Pt
open Lib.CString (Holds nul)

/-! ## a table that grows -/

def addCharacteristic (ble : BleDevice) (f : FoundChar) : BleDevice :=
  deviceAddGattCharacteristic ble f.srvcUuid f.srvcDbusPath f.charUuid f.charDbusPath f.properties

def addCharacteristics (ble : BleDevice) (adds : List FoundChar) : BleDevice :=
  adds.foldl addCharacteristic ble

/-- the characteristic that was added, at its index in the service -/
def FoundChar.char (ch : Nat) (f : FoundChar) : GattChar :=
  { properties := f.properties, uuid := cut (formattedUuidLen + 1) f.charUuid,
    dbusPath := f.charDbusPath, dtype := (mapUuidToDatatype f.charUuid).1,
    resourceId := UInt16.ofNat ch, value := List.replicate (mapUuidToDatatype f.charUuid).2 0,
    valueSize := (mapUuidToDatatype f.charUuid).2, valueLength := 0,
    sized := List.length_replicate }

/-- the additions to one service -/
def addedTo (adds : List FoundChar) (uuid : String) : List FoundChar :=
  adds.filter fun f => f.srvcUuid = uuid

/-- **The table of a list of additions.**  A UUID has one service, with every characteristic that
was added to it, once and in order. -/
structure Table (adds : List FoundChar) (services : List GattService) : Prop where
  uuids : (services.map (·.uuid)).Nodup
  covers : ∀ f ∈ adds, f.srvcUuid ∈ services.map (·.uuid)
  chars : ∀ s ∈ services, s.chars = (addedTo adds s.uuid).mapIdx FoundChar.char

section
variable {adds : List FoundChar} {services : List GattService}

theorem Table.nil : Table [] [] :=
  ⟨List.nodup_nil, fun _ hf => absurd hf List.not_mem_nil, fun _ hs => absurd hs List.not_mem_nil⟩

/-- a UUID without a service has no additions -/
theorem Table.addedTo_nil (h : Table adds services) {uuid : String}
    (huuid : uuid ∉ services.map (·.uuid)) : addedTo adds uuid = [] := by
  refine List.filter_eq_nil_iff.mpr fun f hf heq => huuid ?_
  rw [← of_decide_eq_true heq]
  exact h.covers f hf

/-- the service of the UUID is in the table, or joins it without characteristics -/
theorem Table.getService (h : Table adds services) {uuid : String}
    (hlen : uuid.length ≤ formattedUuidLen) :
    Table adds (getService services uuid).2 ∧
      ∃ s, (getService services uuid).2[(getService services uuid).1]? = some s ∧ s.uuid = uuid := by
  have hcut : cut (formattedUuidLen + 1) uuid = uuid := cut_of_le (Nat.le_succ_of_le hlen)
  unfold Ble.getService
  rw [hcut, cut_of_le hlen]
  cases hfind : services.findIdx? fun s => s.uuid = uuid with
  | some svc =>
    obtain ⟨hlt, hsvc, -⟩ := List.findIdx?_eq_some_iff_getElem.mp hfind
    exact ⟨h, services[svc], List.getElem?_eq_getElem hlt, of_decide_eq_true hsvc⟩
  | none =>
    have hnew : uuid ∉ services.map (·.uuid) := by
      intro hmem
      obtain ⟨s, hs, heq⟩ := List.mem_map.mp hmem
      have hne := List.findIdx?_eq_none_iff.mp hfind s hs
      exact of_decide_eq_false hne heq
    refine ⟨⟨?_, ?_, ?_⟩, _, List.getElem?_concat_length, rfl⟩
    · rw [List.map_append]
      refine List.nodup_append.mpr ⟨h.uuids, List.nodup_singleton _, ?_⟩
      intro a ha b hb
      obtain rfl := List.mem_singleton.mp hb
      exact fun heq => hnew (heq ▸ ha)
    · intro f hf
      rw [List.map_append]
      exact List.mem_append_left _ (h.covers f hf)
    · intro s hs
      rcases List.mem_append.mp hs with hs | hs
      · exact h.chars s hs
      · obtain rfl := List.mem_singleton.mp hs
        show [] = (addedTo adds uuid).mapIdx FoundChar.char
        rw [h.addedTo_nil hnew]
        rfl

/-- what an addition does to its service -/
def addTo (f : FoundChar) (srvc : GattService) : GattService :=
  { srvc with dbusPath := srvc.dbusPath.or (some f.srvcDbusPath),
              chars := srvc.chars ++ [f.char srvc.chars.length] }

theorem addCharacteristic_services (ble : BleDevice) (f : FoundChar) :
    (addCharacteristic ble f).services =
      (getService ble.services f.srvcUuid).2.modify (getService ble.services f.srvcUuid).1
        (addTo f) := rfl

theorem map_uuid_modify (services : List GattService) (svc : Nat) (f : FoundChar) :
    (services.modify svc (addTo f)).map (·.uuid) = services.map (·.uuid) := by
  induction services generalizing svc with
  | nil => rw [List.modify_nil]
  | cons s services ih =>
    cases svc with
    | zero => rfl
    | succ svc =>
      rw [List.modify_succ_cons, List.map_cons, List.map_cons, ih]

theorem Table.add {ble : BleDevice} (h : Table adds ble.services) {f : FoundChar}
    (hlen : f.srvcUuid.length ≤ formattedUuidLen) :
    Table (adds ++ [f]) (addCharacteristic ble f).services := by
  obtain ⟨htable, s, hs, huuid⟩ := h.getService hlen
  rw [addCharacteristic_services]
  generalize (Ble.getService ble.services f.srvcUuid).2 = services at htable hs
  generalize (Ble.getService ble.services f.srvcUuid).1 = svc at hs
  refine ⟨?_, ?_, ?_⟩
  · rw [map_uuid_modify]
    exact htable.uuids
  · intro g hg
    rw [map_uuid_modify]
    rcases List.mem_append.mp hg with hg | hg
    · exact htable.covers g hg
    · rw [List.mem_singleton.mp hg, ← huuid]
      exact List.mem_map_of_mem (List.mem_of_getElem? hs)
  · intro s' hs'
    obtain ⟨i, hi⟩ := List.mem_iff_getElem?.mp hs'
    rw [List.getElem?_modify] at hi
    obtain ⟨s₀, hs₀, rfl⟩ := Option.map_eq_some_iff.mp hi
    have hold := htable.chars s₀ (List.mem_of_getElem? hs₀)
    by_cases e : svc = i
    · subst e
      obtain rfl := Option.some.inj (hs.symm.trans hs₀)
      have hadded : addedTo (adds ++ [f]) s.uuid = addedTo adds s.uuid ++ [f] := by
        unfold addedTo
        rw [List.filter_append, List.filter_singleton, huuid, decide_eq_true rfl]
        rfl
      rw [if_pos rfl]
      show s.chars ++ [f.char s.chars.length] = (addedTo (adds ++ [f]) s.uuid).mapIdx FoundChar.char
      rw [hadded, List.mapIdx_concat, ← hold, hold, List.length_mapIdx]
    · -- the service has another UUID
      have hne : f.srvcUuid ≠ s₀.uuid := by
        intro heq
        refine e ((List.getElem?_inj ?_ htable.uuids).mp ?_)
        · rw [List.length_map]
          exact (List.getElem?_eq_some_iff.mp hs).1
        · rw [List.getElem?_map, List.getElem?_map, hs, hs₀]
          exact congrArg some (huuid.trans heq)
      have hadded : addedTo (adds ++ [f]) s₀.uuid = addedTo adds s₀.uuid := by
        unfold addedTo
        rw [List.filter_append, List.filter_singleton, decide_eq_false hne]
        exact List.append_nil _
      rw [if_neg e]
      show s₀.chars = (addedTo (adds ++ [f]) s₀.uuid).mapIdx FoundChar.char
      rw [hadded, hold]

/-- **Every table is the table of its additions.** -/
theorem addCharacteristics_table {ble : BleDevice} (hfresh : ble.services = [])
    (hlen : ∀ f ∈ adds, f.srvcUuid.length ≤ formattedUuidLen) :
    Table adds (addCharacteristics ble adds).services := by
  induction adds using List.reverseRecOn with
  | nil =>
    show Table [] ble.services
    rw [hfresh]
    exact Table.nil
  | append_singleton adds f ih =>
    unfold addCharacteristics
    rw [List.foldl_append]
    exact (ih fun g hg => hlen g (List.mem_append_left _ hg)).add
      (hlen f (List.mem_append_right _ (List.mem_singleton_self f)))

/-- every service was made for an addition -/
theorem addCharacteristics_used {ble : BleDevice} (hfresh : ble.services = [])
    (hlen : ∀ f ∈ adds, f.srvcUuid.length ≤ formattedUuidLen) :
    ∀ s ∈ (addCharacteristics ble adds).services, ∃ f ∈ adds, f.srvcUuid = s.uuid := by
  induction adds using List.reverseRecOn with
  | nil =>
    intro s hs
    replace hs : s ∈ ble.services := hs
    rw [hfresh] at hs
    cases hs
  | append_singleton adds f ih =>
    intro s hs
    have hold := ih fun g hg => hlen g (List.mem_append_left _ hg)
    have hf := hlen f (List.mem_append_right _ (List.mem_singleton_self f))
    unfold addCharacteristics at hs hold
    rw [List.foldl_append] at hs
    have huuid := List.mem_map_of_mem (f := (·.uuid)) hs
    rw [List.foldl_cons, List.foldl_nil, addCharacteristic_services, map_uuid_modify] at huuid
    obtain ⟨s₀, hs₀, heq⟩ := List.mem_map.mp huuid
    unfold getService at hs₀
    split at hs₀
    · obtain ⟨g, hg, hs₀⟩ := hold s₀ hs₀
      exact ⟨g, List.mem_append_left _ hg, hs₀.trans heq⟩
    · rcases List.mem_append.mp hs₀ with hs₀ | hs₀
      · obtain ⟨g, hg, hs₀⟩ := hold s₀ hs₀
        exact ⟨g, List.mem_append_left _ hg, hs₀.trans heq⟩
      · refine ⟨f, List.mem_append_right _ (List.mem_singleton_self f), ?_⟩
        rw [← heq, List.mem_singleton.mp hs₀]
        exact (cut_of_le hf).symm

/-- the UUIDs that are kept are parts of those that were added -/
theorem addCharacteristics_cStrings {ble : BleDevice} (hfresh : ble.services = [])
    (hlen : ∀ f ∈ adds, f.srvcUuid.length ≤ formattedUuidLen)
    (hnul : ∀ f ∈ adds, nul ∉ f.srvcUuid.toList ∧ nul ∉ f.charUuid.toList) :
    CStrings (addCharacteristics ble adds).services := by
  have htable := addCharacteristics_table hfresh hlen
  intro s hs
  obtain ⟨f, hf, heq⟩ := addCharacteristics_used hfresh hlen s hs
  refine ⟨heq ▸ (hnul f hf).1, fun c hc hmem => ?_⟩
  obtain ⟨ch, hch⟩ := List.mem_iff_getElem?.mp hc
  rw [htable.chars s hs, List.getElem?_mapIdx] at hch
  obtain ⟨g, hg, rfl⟩ := Option.map_eq_some_iff.mp hch
  have hadds := (List.mem_filter.mp (List.mem_of_getElem? hg)).1
  refine (hnul g hadds).2 ?_
  replace hmem : nul ∈ (cut (formattedUuidLen + 1) g.charUuid).toList := hmem
  rw [cut, String.toList_ofList] at hmem
  exact List.mem_of_mem_take hmem

theorem addCharacteristics_translations (ble : BleDevice) (adds : List FoundChar) :
    (addCharacteristics ble adds).translations = ble.translations := by
  induction adds generalizing ble with
  | nil => rfl
  | cons f adds ih => exact ih (addCharacteristic ble f)

theorem Table.numbered (h : Table adds services) : Numbered services := by
  intro s hs ch c hc
  rw [h.chars s hs, List.getElem?_mapIdx] at hc
  obtain ⟨f, -, rfl⟩ := Option.map_eq_some_iff.mp hc
  rfl

end

/-! ## registration -/

def serviceResource (c : GattChar) : Resource :=
  ⟨resourceType c.dtype, resourceOperations c.properties, c.value⟩

/-- the resources of a table, in the order in which `device_add_resources_from_gatt` adds them -/
def gattResources (services : List GattService) : List (Path × Resource) :=
  services.zipIdx.flatMap fun (s, svc) =>
    s.chars.map fun c => (servicePath svc c.resourceId, serviceResource c)

def edgeAddResources (c : Client) (id : String) (rs : List (Path × Resource)) : Client :=
  rs.foldl (fun c pr => (edgeAddResource c id pr.1 pr.2.type pr.2.operations pr.2.value).2) c

/-- the resource of a device at a path -/
def resource? (c : Client) (id : String) (p : Path) : Option Resource :=
  (c.devices.lookup id).bind (·.lookup p)

theorem deviceAddResourcesFromGatt_client (c : Client) (ble : BleDevice) :
    (deviceAddResourcesFromGatt c ble).2 =
      match (edgeAddResources c ble.deviceId (gattResources ble.services)).takeFault with
      | (true, c) => c
      | (false, c) => (edgeAddResource c ble.deviceId introspectPath .string operationRead
          (cBytes (jsonListDeviceServices ble.services) ++ [0])).2 := by
  have hloop : edgeAddResources c ble.deviceId (gattResources ble.services) =
      ble.services.zipIdx.foldl
        (fun c x => x.1.chars.foldl (addServiceResource ble.deviceId x.2) c) c := by
    unfold edgeAddResources gattResources
    rw [List.foldl_flatMap]
    congr 1
    funext c x
    rw [List.foldl_map]
    rfl
  unfold deviceAddResourcesFromGatt
  dsimp only
  rw [← hloop]
  rcases (edgeAddResources c ble.deviceId (gattResources ble.services)).takeFault with
    ⟨_ | _, c₁⟩ <;> rfl

theorem resource?_takeFault (c : Client) (id : String) (p : Path) :
    resource? c.takeFault.2 id p = resource? c id p := by
  unfold resource?
  rw [takeFault_devices]

/-- a call adds at most the resource it names, where there is none -/
theorem resource?_edgeAddResource (c : Client) (id : String) (p q : Path) (r : Resource) :
    resource? (edgeAddResource c id p r.type r.operations r.value).2 id q = resource? c id q ∨
      q = p ∧ resource? c id p = none ∧
        resource? (edgeAddResource c id p r.type r.operations r.value).2 id q = some r := by
  have h₀ := resource?_takeFault c id q
  unfold edgeAddResource
  rcases hf : c.takeFault with ⟨_ | _, c₁⟩ <;> rw [hf] at h₀ <;> simp only
  · have h₁ := resource?_takeFault c₁ id q
    unfold deviceAddResource
    rcases hf' : c₁.takeFault with ⟨_ | _, c₂⟩ <;> rw [hf'] at h₁ <;> simp only
    · cases hfind : c₂.find id with
      | none => exact .inl (h₁.trans h₀)
      | some rs =>
        simp only
        split
        · exact .inl (h₁.trans h₀)
        · rename_i hp
          have hlookup : resource? (c₂.setResources id (rs.insert p r)) id q =
              (rs.insert p r).lookup q := by
            unfold resource? Client.setResources
            rw [AList.lookup_insert, Option.bind_some]
          have hbefore : resource? c₂ id q = rs.lookup q := by
            unfold resource?
            rw [(find_eq_some hfind).2, Option.bind_some]
          by_cases e : q = p
          · subst e
            refine .inr ⟨rfl, ?_, hlookup.trans (AList.lookup_insert _)⟩
            rw [← h₀, ← h₁, hbefore, AList.lookup_eq_none]
            exact hp
          · refine .inl (Eq.trans ?_ (h₁.trans h₀))
            rw [hlookup, hbefore, AList.lookup_insert_ne e]
    · exact .inl (h₁.trans h₀)
  · exact .inl h₀

/-- when nothing fails a call adds the resource it names, unless the device has one -/
theorem resource?_edgeAddResource_self {c : Client} {id : String} (hr : Ready c id) (p : Path)
    (r : Resource) (hnone : resource? c id p = none) :
    resource? (edgeAddResource c id p r.type r.operations r.value).2 id p = some r := by
  rcases resource?_edgeAddResource c id p p r with h | ⟨-, -, h⟩
  · obtain ⟨rs, hrs, hp⟩ := edgeAddResource_hasPath p r.type r.operations r.value hr
    rw [hnone] at h
    unfold resource? at h
    rw [hrs, Option.bind_some, AList.lookup_eq_none] at h
    exact absurd hp h
  · exact h

/-- what a list of calls adds is in the list -/
theorem resource?_edgeAddResources (c : Client) (id : String) (rs : List (Path × Resource))
    {p : Path} {r : Resource} (h : resource? (edgeAddResources c id rs) id p = some r) :
    resource? c id p = some r ∨ (p, r) ∈ rs := by
  induction rs generalizing c with
  | nil => exact .inl h
  | cons pr rs ih =>
    rcases ih _ h with h' | h'
    · rcases resource?_edgeAddResource c id pr.1 p pr.2 with heq | ⟨rfl, -, heq⟩
      · exact .inl (heq.symm.trans h')
      · obtain rfl := Option.some.inj (heq.symm.trans h')
        exact .inr (List.mem_cons_self ..)
    · exact .inr (List.mem_cons_of_mem _ h')

theorem edgeAddResources_ready {c : Client} {id : String} (hr : Ready c id)
    (rs : List (Path × Resource)) : Ready (edgeAddResources c id rs) id := by
  induction rs generalizing c with
  | nil => exact hr
  | cons pr rs ih => exact ih ((edgeAddResource_grows ..).ready hr)

/-- a resource stays what it is -/
theorem resource?_edgeAddResource_of_some {c : Client} {id : String} {q : Path} {r : Resource}
    (h : resource? c id q = some r) (p : Path) (r' : Resource) :
    resource? (edgeAddResource c id p r'.type r'.operations r'.value).2 id q = some r := by
  rcases resource?_edgeAddResource c id p q r' with heq | ⟨rfl, hnone, -⟩
  · exact heq.trans h
  · exact absurd (h.symm.trans hnone) nofun

theorem resource?_edgeAddResources_of_some {c : Client} {id : String} {p : Path} {r : Resource}
    (h : resource? c id p = some r) (rs : List (Path × Resource)) :
    resource? (edgeAddResources c id rs) id p = some r := by
  induction rs generalizing c with
  | nil => exact h
  | cons pr rs ih => exact ih (resource?_edgeAddResource_of_some h pr.1 pr.2)

/-- when nothing fails, the only resource that a list has for a path is added -/
theorem resource?_edgeAddResources_of_mem {c : Client} {id : String} (hr : Ready c id)
    {rs : List (Path × Resource)} {p : Path} {r : Resource} (hnone : resource? c id p = none)
    (h : (p, r) ∈ rs) (hunique : ∀ r', (p, r') ∈ rs → r' = r) :
    resource? (edgeAddResources c id rs) id p = some r := by
  induction rs generalizing c with
  | nil => cases h
  | cons pr rs ih =>
    obtain ⟨q, r₀⟩ := pr
    by_cases e : p = q
    · subst e
      obtain rfl := hunique r₀ (List.mem_cons_self ..)
      exact resource?_edgeAddResources_of_some (resource?_edgeAddResource_self hr p r₀ hnone) rs
    · have hrest : (p, r) ∈ rs := by
        rcases List.mem_cons.mp h with heq | h
        · exact absurd (congrArg Prod.fst heq) e
        · exact h
      refine ih ((edgeAddResource_grows ..).ready hr) ?_ hrest
        fun r' hr' => hunique r' (List.mem_cons_of_mem _ hr')
      rcases resource?_edgeAddResource c id q p r₀ with heq | ⟨heq, -⟩
      · exact heq.trans hnone
      · exact absurd heq e

section
variable {services : List GattService} {ble : BleDevice}

theorem mem_gattResources {p : Path} {r : Resource} :
    (p, r) ∈ gattResources services ↔ ∃ svc s ch, services[svc]? = some s ∧ ch ∈ s.chars ∧
      p = servicePath svc ch.resourceId ∧ r = serviceResource ch := by
  unfold gattResources
  simp only [List.mem_flatMap, List.mem_map, Prod.mk.injEq, Prod.exists,
    List.mem_zipIdx_iff_getElem?]
  constructor
  · rintro ⟨s, svc, hs, ch, hch, rfl, rfl⟩
    exact ⟨svc, s, ch, hs, hch, rfl, rfl⟩
  · rintro ⟨svc, s, ch, hs, hch, rfl, rfl⟩
    exact ⟨s, svc, hs, ch, hch, rfl, rfl⟩

/-- a table whose indices have 16 bits -/
structure Sized (services : List GattService) : Prop where
  few : services.length ≤ 65536
  fewChars : ∀ s ∈ services, s.chars.length ≤ 65536

/-- different characteristics have different paths -/
theorem servicePath_inj (hnum : Numbered ble.services) (hsized : Sized ble.services)
    {svc ch svc' ch' : Nat} {c c' : GattChar} (hc : ble.char? svc ch = some c)
    (hc' : ble.char? svc' ch' = some c')
    (heq : servicePath svc c.resourceId = servicePath svc' c'.resourceId) :
    svc = svc' ∧ ch = ch' := by
  obtain ⟨s, hs, hch⟩ := BleDevice.char?_eq_some.mp hc
  obtain ⟨s', hs', hch'⟩ := BleDevice.char?_eq_some.mp hc'
  have hlt := (List.getElem?_eq_some_iff.mp hs).1
  have hlt' := (List.getElem?_eq_some_iff.mp hs').1
  have hservices := hsized.few
  have hsvc := congrArg (fun p => p.instanceId.toNat) heq
  simp only [servicePath] at hsvc
  rw [toNat_ofNat_of_lt (by omega), toNat_ofNat_of_lt (by omega)] at hsvc
  subst hsvc
  obtain rfl := Option.some.inj (hs.symm.trans hs')
  have hchars := hsized.fewChars s (List.mem_of_getElem? hs)
  have hltc := (List.getElem?_eq_some_iff.mp hch).1
  have hltc' := (List.getElem?_eq_some_iff.mp hch').1
  have hid := congrArg (fun p => p.resourceId.toNat) heq
  simp only [servicePath] at hid
  rw [hnum s (List.mem_of_getElem? hs) ch c hch, hnum s (List.mem_of_getElem? hs) ch' c' hch',
    toNat_ofNat_of_lt (by omega), toNat_ofNat_of_lt (by omega)] at hid
  exact ⟨rfl, hid⟩

/-- **What `device_add_resources_from_gatt` registers.**  When nothing fails and the device has no
such resource yet, those are the resources of the characteristics at their paths. -/
theorem deviceAddResourcesFromGatt_resource? (hnum : Numbered ble.services)
    (hsized : Sized ble.services) {c : Client} (hr : Ready c ble.deviceId) {p : Path}
    (hobj : p.objectId = ipsoOidBleService) (hnone : resource? c ble.deviceId p = none)
    (r : Resource) :
    resource? (deviceAddResourcesFromGatt c ble).2 ble.deviceId p = some r ↔
      ∃ svc ch charact, ble.char? svc ch = some charact ∧
        p = servicePath svc charact.resourceId ∧ r = serviceResource charact := by
  have hready := edgeAddResources_ready hr (gattResources ble.services)
  have hintro : p ≠ introspectPath := by
    rintro rfl
    exact absurd hobj (by decide)
  have hlast : resource? (deviceAddResourcesFromGatt c ble).2 ble.deviceId p =
      resource? (edgeAddResources c ble.deviceId (gattResources ble.services)) ble.deviceId p := by
    rw [deviceAddResourcesFromGatt_client, takeFault_of_nil hready.1]
    rcases resource?_edgeAddResource
      (edgeAddResources c ble.deviceId (gattResources ble.services)) ble.deviceId introspectPath p
      ⟨.string, operationRead, cBytes (jsonListDeviceServices ble.services) ++ [0]⟩ with
      heq | ⟨heq, -⟩
    · exact heq
    · exact absurd heq hintro
  have hmem : (p, r) ∈ gattResources ble.services ↔ ∃ svc ch charact,
      ble.char? svc ch = some charact ∧ p = servicePath svc charact.resourceId ∧
        r = serviceResource charact := by
    rw [mem_gattResources]
    constructor
    · rintro ⟨svc, s, charact, hs, hch, hp, hres⟩
      obtain ⟨ch, hch⟩ := List.mem_iff_getElem?.mp hch
      exact ⟨svc, ch, charact, BleDevice.char?_eq_some.mpr ⟨s, hs, hch⟩, hp, hres⟩
    · rintro ⟨svc, ch, charact, hc, hp, hres⟩
      obtain ⟨s, hs, hch⟩ := BleDevice.char?_eq_some.mp hc
      exact ⟨svc, s, charact, hs, List.mem_of_getElem? hch, hp, hres⟩
  rw [hlast, ← hmem]
  constructor
  · intro h
    rcases resource?_edgeAddResources c ble.deviceId _ h with hold | hadded
    · exact absurd (hold.symm.trans hnone) nofun
    · exact hadded
  · intro h
    refine resource?_edgeAddResources_of_mem hr hnone h fun r' hr' => ?_
    obtain ⟨svc, ch, charact, hc, hp, rfl⟩ := hmem.mp h
    obtain ⟨svc', s', charact', hs', hch', hp', rfl⟩ := mem_gattResources.mp hr'
    obtain ⟨ch', hch'⟩ := List.mem_iff_getElem?.mp hch'
    have hc' := BleDevice.char?_eq_some.mpr ⟨s', hs', hch'⟩
    obtain ⟨rfl, rfl⟩ := servicePath_inj hnum hsized hc hc' (hp.symm.trans hp')
    rw [Option.some.inj (hc.symm.trans hc')]

end

/-! ## the introspection text -/

/-- `/object/instance/resource` -/
def pathText (p : Path) : String :=
  "/" ++ toString p.objectId.toNat ++ "/" ++ toString p.instanceId.toNat ++ "/" ++
    toString p.resourceId.toNat

/-- what is printed for the characteristic at index `ch` of a service, with its path -/
def charEntry (ch : Nat) (c : GattChar) (p : Path) : String :=
  comma ch ++ "\x7b\"uuid\":\"" ++ c.uuid ++ "\",\"path\":\"" ++ pathText p ++ "\"\x7d"

/-- what is printed before the characteristic at index `ch` of the service at index `svc` -/
def textBefore (services : List GattService) (svc ch : Nat) : List Char :=
  jsonDeviceFmt.toList ++ servicesText (services.take svc) 0 ++
    match services[svc]? with
    | some s => (jsonSrvcFmt (comma svc) s.uuid svc).toList ++ charsText svc (s.chars.take ch) 0
    | none => []

/-- what is printed up to the characteristic and its path -/
def textUpTo (services : List GattService) (svc ch : Nat) (c : GattChar) : List Char :=
  textBefore services svc ch ++ (charEntry ch c (servicePath svc c.resourceId)).toList

theorem jsonCharFmt_eq (ch : Nat) (c : GattChar) {svc : Nat} (hsvc : svc < 65536) :
    jsonCharFmt (comma ch) c.uuid svc c.resourceId.toNat =
      charEntry ch c (servicePath svc c.resourceId) := by
  have hslash : "\",\"path\":\"/" = "\",\"path\":\"" ++ "/" := by decide
  unfold jsonCharFmt charEntry pathText servicePath
  simp only [toNat_ofNat_of_lt hsvc]
  rw [hslash]
  simp only [String.append_assoc]

theorem charsText_append (srvc : Nat) (a b : List GattChar) (ch : Nat) :
    charsText srvc (a ++ b) ch = charsText srvc a ch ++ charsText srvc b (ch + a.length) := by
  induction a generalizing ch with
  | nil => rfl
  | cons c a ih =>
    rw [List.cons_append, charsText, charsText, ih, List.append_assoc, List.length_cons,
      Nat.add_right_comm, Nat.add_assoc]

theorem servicesText_append (a b : List GattService) (srvc : Nat) :
    servicesText (a ++ b) srvc = servicesText a srvc ++ servicesText b (srvc + a.length) := by
  induction a generalizing srvc with
  | nil => rfl
  | cons s a ih =>
    rw [List.cons_append, servicesText, servicesText, ih, List.append_assoc, List.length_cons,
      Nat.add_right_comm, Nat.add_assoc]

/-- the reference text has every characteristic with its path -/
theorem textUpTo_prefix {ble : BleDevice} (hsized : Sized ble.services) {svc ch : Nat}
    {c : GattChar} (hc : ble.char? svc ch = some c) :
    textUpTo ble.services svc ch c <+: referenceText ble.services := by
  obtain ⟨s, hs, hch⟩ := BleDevice.char?_eq_some.mp hc
  obtain ⟨hlt, hget⟩ := List.getElem?_eq_some_iff.mp hs
  obtain ⟨hltc, hgetc⟩ := List.getElem?_eq_some_iff.mp hch
  have hfew := hsized.few
  have hservices : ble.services = ble.services.take svc ++ s :: ble.services.drop (svc + 1) := by
    rw [← hget, ← List.drop_eq_getElem_cons hlt, List.take_append_drop]
  have hchars : s.chars = s.chars.take ch ++ c :: s.chars.drop (ch + 1) := by
    rw [← hgetc, ← List.drop_eq_getElem_cons hltc, List.take_append_drop]
  have hservicesText : servicesText ble.services 0 = servicesText (ble.services.take svc) 0 ++
      (serviceText s svc ++ servicesText (ble.services.drop (svc + 1)) (svc + 1)) := by
    conv_lhs => rw [hservices]
    rw [servicesText_append, List.length_take, Nat.min_eq_left (Nat.le_of_lt hlt), Nat.zero_add]
    rfl
  have hcharsText : charsText svc s.chars 0 = charsText svc (s.chars.take ch) 0 ++
      ((jsonCharFmt (comma ch) c.uuid svc c.resourceId.toNat).toList ++
        charsText svc (s.chars.drop (ch + 1)) (ch + 1)) := by
    conv_lhs => rw [hchars]
    rw [charsText_append, List.length_take, Nat.min_eq_left (Nat.le_of_lt hltc), Nat.zero_add]
    rfl
  refine ⟨charsText svc (s.chars.drop (ch + 1)) (ch + 1) ++ jsonArrayEnd.toList ++
    servicesText (ble.services.drop (svc + 1)) (svc + 1) ++ jsonArrayEnd.toList, ?_⟩
  rw [textUpTo, ← jsonCharFmt_eq ch c (by omega), referenceText, hservicesText, serviceText,
    hcharsText, textBefore, hs]
  simp only [List.append_assoc]

/-! ## one path for each characteristic -/

/-- **The three traversals use the same paths**, and different ones for different
characteristics. -/
structure PathsAgree (ble : BleDevice) : Prop where
  distinct : ∀ svc ch c svc' ch' c', ble.char? svc ch = some c → ble.char? svc' ch' = some c' →
    servicePath svc c.resourceId = servicePath svc' c'.resourceId → svc = svc' ∧ ch = ch'
  /-- when nothing fails, the resource of a characteristic is registered at its path -/
  registered : ∀ c, Ready c ble.deviceId → ∀ p, p.objectId = ipsoOidBleService →
    resource? c ble.deviceId p = none → ∀ r,
      resource? (deviceAddResourcesFromGatt c ble).2 ble.deviceId p = some r ↔
        ∃ svc ch charact, ble.char? svc ch = some charact ∧
          p = servicePath svc charact.resourceId ∧ r = serviceResource charact
  /-- whatever fails, no other resource is registered -/
  nothingElse : ∀ c p r, p.objectId = ipsoOidBleService →
    resource? (deviceAddResourcesFromGatt c ble).2 ble.deviceId p = some r →
      resource? c ble.deviceId p = some r ∨ ∃ svc ch charact, ble.char? svc ch = some charact ∧
        p = servicePath svc charact.resourceId ∧ r = serviceResource charact
  /-- the text has every characteristic with its path, up to the size of the block -/
  printed : jsonSize ble.services < 2 ^ 31 →
    ∀ malloc, (malloc (jsonSize ble.services)).isSome →
      ∃ p text, jsonListDeviceServicesIn malloc ble.services = some (some p) ∧
        Holds p.block text ∧ ∀ svc ch c, ble.char? svc ch = some c →
          (textUpTo ble.services svc ch c <+: text ↔
            (textUpTo ble.services svc ch c).length < jsonSize ble.services)
  /-- a write to the path of a characteristic goes to it, as it is -/
  routed : ∀ h c svc ch charact value outcome, ble.char? svc ch = some charact →
    (deviceWriteCharacteristic h c ble (servicePath svc charact.resourceId) value outcome).Routed c
      ble value outcome ⟨svc, ch, charact, value⟩
  /-- a write to any other path goes nowhere -/
  unrouted : ∀ h c p value outcome,
    (∀ svc ch charact, ble.char? svc ch = some charact → p ≠ servicePath svc charact.resourceId) →
      (deviceWriteCharacteristic h c ble p value outcome).Unrouted c ble

section
variable {ble : BleDevice}

theorem registers_nothingElse (c : Client) {p : Path} {r : Resource}
    (hobj : p.objectId = ipsoOidBleService)
    (h : resource? (deviceAddResourcesFromGatt c ble).2 ble.deviceId p = some r) :
    resource? c ble.deviceId p = some r ∨ ∃ svc ch charact, ble.char? svc ch = some charact ∧
      p = servicePath svc charact.resourceId ∧ r = serviceResource charact := by
  have hloop : resource? (edgeAddResources c ble.deviceId (gattResources ble.services))
      ble.deviceId p = some r := by
    have hintro : p ≠ introspectPath := by
      rintro rfl
      exact absurd hobj (by decide)
    rw [deviceAddResourcesFromGatt_client] at h
    have hfault := resource?_takeFault
      (edgeAddResources c ble.deviceId (gattResources ble.services)) ble.deviceId p
    generalize edgeAddResources c ble.deviceId (gattResources ble.services) = c₁ at h hfault ⊢
    rcases hf : c₁.takeFault with ⟨_ | _, c₂⟩ <;> rw [hf] at h hfault <;> simp only at h hfault
    · rcases resource?_edgeAddResource c₂ ble.deviceId introspectPath p
        ⟨.string, operationRead, cBytes (jsonListDeviceServices ble.services) ++ [0]⟩ with
        heq | ⟨heq, -⟩
      · exact hfault.symm.trans (heq.symm.trans h)
      · exact absurd heq hintro
    · exact hfault.symm.trans h
  rcases resource?_edgeAddResources c ble.deviceId _ hloop with hold | hadded
  · exact .inl hold
  · obtain ⟨svc, s, charact, hs, hch, hp, hres⟩ := mem_gattResources.mp hadded
    obtain ⟨ch, hch⟩ := List.mem_iff_getElem?.mp hch
    exact .inr ⟨svc, ch, charact, BleDevice.char?_eq_some.mpr ⟨s, hs, hch⟩, hp, hres⟩

theorem printsPaths (hsized : Sized ble.services) (hnul : CStrings ble.services)
    (hint : jsonSize ble.services < 2 ^ 31) {malloc : (size : Nat) → Option (Allocated size)}
    (hmalloc : (malloc (jsonSize ble.services)).isSome) :
    ∃ p text, jsonListDeviceServicesIn malloc ble.services = some (some p) ∧
      Holds p.block text ∧ ∀ svc ch c, ble.char? svc ch = some c →
        (textUpTo ble.services svc ch c <+: text ↔
          (textUpTo ble.services svc ch c).length < jsonSize ble.services) := by
  obtain ⟨p, hp, hprinted⟩ := printed_referenceText hnul hint hmalloc
  refine ⟨p, _, hp, hprinted.holds, fun svc ch c hc => ?_⟩
  have hpos := hprinted.pos
  have hprefix := textUpTo_prefix hsized hc
  rw [List.prefix_take_iff, and_iff_right hprefix]
  omega

theorem writeRoute_none (hnone : ble.translations = []) (h : Host) (c : Client) {p : Path}
    (hp : ∀ svc ch charact, ble.char? svc ch = some charact →
      p ≠ servicePath svc charact.resourceId) (value : Bytes) :
    writeRoute h c ble p value = none := by
  unfold writeRoute
  by_cases hobj : p.objectId ≠ ipsoOidBleService
  · rw [if_pos hobj]
    unfold bleServicesFindTranslationContext
    rw [hnone]
    rfl
  · rw [if_neg hobj, Option.bind_eq_none_iff]
    intro ch hch
    obtain ⟨s, hs, hfind⟩ := Option.bind_eq_some_iff.mp hch
    obtain ⟨hlt, hid, -⟩ := List.findIdx?_eq_some_iff_getElem.mp hfind
    have hc : ble.char? p.instanceId.toNat ch = some s.chars[ch] :=
      BleDevice.char?_eq_some.mpr ⟨s, hs, List.getElem?_eq_getElem hlt⟩
    refine absurd ?_ (hp _ _ _ hc)
    obtain ⟨objectId, instanceId, resourceId⟩ := p
    rw [of_decide_eq_true hid, servicePath, UInt16.ofNat_toNat, ← not_not.mp hobj]

theorem pathsAgree (hnone : ble.translations = []) (hnum : Numbered ble.services)
    (hsized : Sized ble.services) (hnul : CStrings ble.services) : PathsAgree ble where
  distinct _ _ _ _ _ _ hc hc' heq := servicePath_inj hnum hsized hc hc' heq
  registered _ hr _ hobj hfree r :=
    deviceAddResourcesFromGatt_resource? hnum hsized hr hobj hfree r
  nothingElse c _ _ hobj h := registers_nothingElse c hobj h
  printed hint _ hmalloc := printsPaths hsized hnul hint hmalloc
  routed h c svc ch charact value outcome hc := by
    obtain ⟨s, hs, hch⟩ := BleDevice.char?_eq_some.mp hc
    have hcases := deviceWriteCharacteristic_cases h c ble (servicePath svc charact.resourceId) value
      outcome
    rwa [writeRoute_servicePath h c hnum hsized.few hs
      (hsized.fewChars s (List.mem_of_getElem? hs)) hch value] at hcases
  unrouted h c p value outcome hp := by
    have hcases := deviceWriteCharacteristic_cases h c ble p value outcome
    rwa [writeRoute_none hnone h c hp value] at hcases

end

/-- **The service objects of a fresh device.** -/
theorem addCharacteristics_pathsAgree {ble : BleDevice} {adds : List FoundChar}
    (hfresh : ble.services = [] ∧ ble.translations = [])
    (huuids : ∀ f ∈ adds, f.srvcUuid.length ≤ formattedUuidLen ∧
      nul ∉ f.srvcUuid.toList ∧ nul ∉ f.charUuid.toList)
    (hsized : Sized (addCharacteristics ble adds).services) :
    Table adds (addCharacteristics ble adds).services ∧
      PathsAgree (addCharacteristics ble adds) := by
  have htable := addCharacteristics_table hfresh.1 fun f hf => (huuids f hf).1
  refine ⟨htable, pathsAgree ?_ htable.numbered hsized ?_⟩
  · exact (addCharacteristics_translations ble adds).trans hfresh.2
  · exact addCharacteristics_cStrings hfresh.1 (fun f hf => (huuids f hf).1)
      fun f hf => (huuids f hf).2

/-- two services, the first one found again after the second -/
def heartRateAdds : List FoundChar :=
  [⟨"0000180d-0000-1000-8000-00805f9b34fb", "/s0", "00002a37-0000-1000-8000-00805f9b34fb", "/s0/c0",
      bleGattPropPermNotify⟩,
    ⟨"0000180f-0000-1000-8000-00805f9b34fb", "/s1", "00002a19-0000-1000-8000-00805f9b34fb", "/s1/c0",
      bleGattPropPermRead⟩,
    ⟨"0000180d-0000-1000-8000-00805f9b34fb", "/s0", "00002a39-0000-1000-8000-00805f9b34fb", "/s0/c1",
      bleGattPropPermWrite⟩]

theorem addCharacteristics_pathsAgree_heartRate :
    Table heartRateAdds
        (addCharacteristics (deviceCreate 0 0 "00:11:22:33:44:55") heartRateAdds).services ∧
      PathsAgree (addCharacteristics (deviceCreate 0 0 "00:11:22:33:44:55") heartRateAdds) :=
  addCharacteristics_pathsAgree ⟨rfl, rfl⟩ (by decide +kernel)
    ⟨by decide +kernel, by decide +kernel⟩

/-! ## a device whose text is cut off -/

section
variable {ble : BleDevice} {f : FoundChar}

theorem addCharacteristic_of_new (hlen : f.srvcUuid.length ≤ formattedUuidLen)
    (hnew : ∀ s ∈ ble.services, s.uuid ≠ f.srvcUuid) :
    (addCharacteristic ble f).services =
      ble.services ++ [⟨some f.srvcDbusPath, [f.char 0], f.srvcUuid⟩] := by
  have hfind : ble.services.findIdx? (fun s => s.uuid = f.srvcUuid) = none :=
    List.findIdx?_eq_none_iff.mpr fun s hs => decide_eq_false (hnew s hs)
  rw [addCharacteristic_services, getService, cut_of_le (Nat.le_succ_of_le hlen), hfind,
    cut_of_le hlen]
  simp only
  rw [List.modify_eq_set_getElem?, List.getElem?_concat_length]
  simp [addTo]

theorem addCharacteristic_of_last {init : List GattService} {s : GattService} {path : String}
    (hlen : f.srvcUuid.length ≤ formattedUuidLen) (hservices : ble.services = init ++ [s])
    (hnew : ∀ s ∈ init, s.uuid ≠ f.srvcUuid) (hlast : s.uuid = f.srvcUuid)
    (hpath : s.dbusPath = some path) :
    (addCharacteristic ble f).services =
      init ++ [⟨some path, s.chars ++ [f.char s.chars.length], f.srvcUuid⟩] := by
  have hinit : init.findIdx? (fun s => s.uuid = f.srvcUuid) = none :=
    List.findIdx?_eq_none_iff.mpr fun s hs => decide_eq_false (hnew s hs)
  have hfind : ble.services.findIdx? (fun s => s.uuid = f.srvcUuid) = some init.length := by
    rw [hservices, List.findIdx?_append, hinit, List.findIdx?_cons, decide_eq_true hlast]
    simp
  rw [addCharacteristic_services, getService, cut_of_le (Nat.le_succ_of_le hlen), hfind]
  simp only
  rw [hservices, List.modify_eq_set_getElem?, List.getElem?_concat_length]
  obtain ⟨_, chars, uuid⟩ := s
  cases hlast
  cases hpath
  simp [addTo]

end

/-- a different UUID for every number below `2 ^ 36` -/
def binaryUuid (i : Nat) : String :=
  String.ofList ((List.range formattedUuidLen).map fun b => if i.testBit b then '1' else '0')

theorem length_binaryUuid (i : Nat) : (binaryUuid i).length = formattedUuidLen := by
  rw [binaryUuid, String.length_ofList, List.length_map, List.length_range]

theorem binaryUuid_inj {i j : Nat} (hi : i < 2 ^ 36) (hj : j < 2 ^ 36)
    (h : binaryUuid i = binaryUuid j) : i = j := by
  have hlist := congrArg String.toList h
  rw [binaryUuid, binaryUuid, String.toList_ofList, String.toList_ofList] at hlist
  refine Nat.eq_of_testBit_eq fun b => ?_
  by_cases hb : b < 36
  · have hbit := List.map_inj_left.mp hlist b (List.mem_range.mpr hb)
    cases hib : i.testBit b <;> cases hjb : j.testBit b <;> rw [hib, hjb] at hbit <;> simp_all
  · have hpow : 2 ^ 36 ≤ 2 ^ b := Nat.pow_le_pow_right (by decide) (by omega)
    rw [Nat.testBit_lt_two_pow (by omega), Nat.testBit_lt_two_pow (by omega)]

theorem nul_notMem_binaryUuid (i : Nat) : nul ∉ (binaryUuid i).toList := by
  intro hmem
  rw [binaryUuid, String.toList_ofList, List.mem_map] at hmem
  obtain ⟨b, -, hb⟩ := hmem
  split at hb <;> exact absurd hb (by decide)

def crowdedAdd (i : Nat) : FoundChar :=
  ⟨binaryUuid i, "/service", "00002a19-0000-1000-8000-00805f9b34fb", "/characteristic", 1⟩

def crowdedService (i : Nat) : GattService :=
  ⟨some "/service", [(crowdedAdd i).char 0], binaryUuid i⟩

def crowdedLast (n m : Nat) : GattService :=
  ⟨some "/service", (List.range m).map fun ch => (crowdedAdd n).char ch, binaryUuid n⟩

/-- one characteristic in each of `n` services, and `m` in a further one -/
def crowdedServices (n m : Nat) : List GattService :=
  (List.range n).map crowdedService ++ [crowdedLast n m]

def crowdedAdds (n m : Nat) : List FoundChar :=
  (List.range n).map crowdedAdd ++ List.replicate m (crowdedAdd n)

section
variable {n : Nat} {ble : BleDevice}

theorem crowdedService_ne (hn : n < 2 ^ 36) :
    ∀ s ∈ (List.range n).map crowdedService, s.uuid ≠ (crowdedAdd n).srvcUuid := by
  intro s hs heq
  obtain ⟨i, hi, rfl⟩ := List.mem_map.mp hs
  have hlt := List.mem_range.mp hi
  have hin : i = n := binaryUuid_inj (by omega) hn heq
  omega

theorem crowded_add {adds : List FoundChar} (hn : n < 2 ^ 36)
    (hbefore : (addCharacteristics ble adds).services = (List.range n).map crowdedService) :
    (addCharacteristics ble (adds ++ [crowdedAdd n])).services =
      (List.range n).map crowdedService ++ [crowdedService n] := by
  have hadd : (addCharacteristic (addCharacteristics ble adds) (crowdedAdd n)).services =
      (addCharacteristics ble adds).services ++ [crowdedService n] :=
    addCharacteristic_of_new (length_binaryUuid n).le (hbefore ▸ crowdedService_ne hn)
  rw [hbefore] at hadd
  unfold addCharacteristics
  rw [List.foldl_append]
  exact hadd

theorem crowded_first (hfresh : ble.services = []) (hn : n ≤ 2 ^ 36) :
    (addCharacteristics ble ((List.range n).map crowdedAdd)).services =
      (List.range n).map crowdedService := by
  induction n with
  | zero => exact hfresh
  | succ n ih =>
    have hadd := crowded_add (by omega) (ih (by omega))
    rw [List.range_succ, List.map_append, List.map_append]
    exact hadd

theorem crowded_services (hfresh : ble.services = []) (hn : n < 2 ^ 36) (m : Nat) :
    (addCharacteristics ble (crowdedAdds n (m + 1))).services = crowdedServices n (m + 1) := by
  induction m with
  | zero => exact crowded_add hn (crowded_first hfresh hn.le)
  | succ m ih =>
    have hadds : crowdedAdds n (m + 1 + 1) = crowdedAdds n (m + 1) ++ [crowdedAdd n] := by
      rw [crowdedAdds, crowdedAdds, List.append_assoc, ← List.replicate_succ']
    have hadd := addCharacteristic_of_last (f := crowdedAdd n) (s := crowdedLast n (m + 1))
      (length_binaryUuid n).le ih (crowdedService_ne hn) rfl rfl
    have hlast : crowdedLast n (m + 1 + 1) = ⟨some "/service", (crowdedLast n (m + 1)).chars ++
        [(crowdedAdd n).char (crowdedLast n (m + 1)).chars.length], binaryUuid n⟩ := by
      simp only [crowdedLast, List.length_map, List.length_range]
      rw [List.range_succ (n := m + 1), List.map_append]
      rfl
    rw [hadds, crowdedServices, hlast]
    unfold addCharacteristics at hadd ⊢
    rw [List.foldl_append]
    exact hadd

end

theorem decimalDigits_eq (n : Nat) : decimalDigits n = (Nat.toDigits 10 n).length := by
  unfold decimalDigits
  rw [← String.length_toList]
  simp

theorem lt_decimalDigits {k n : Nat} (hk : 0 < k) (h : 10 ^ k ≤ n) : k < decimalDigits n := by
  have hle := Nat.length_toDigits_le_iff (b := 10) (n := n) (by decide) hk
  rw [decimalDigits_eq]
  omega

theorem decimalDigits_pos (n : Nat) : 0 < decimalDigits n := by
  rw [decimalDigits_eq]
  exact Nat.length_toDigits_pos

theorem length_comma_of_pos {i : Nat} (h : 0 < i) : (comma i).length = 1 := by
  rw [comma, if_pos h]
  decide

/-- the characteristics from index `ch` on take at least `k` characters each -/
theorem length_crowdedChars_ge {f : FoundChar} (huuid : f.charUuid.length = formattedUuidLen)
    (svc k len ch : Nat) (hlt : ch + len ≤ 65536)
    (hk : ∀ i, ch ≤ i → k ≤ (comma i).length + decimalDigits svc + decimalDigits i + 65) :
    k * len ≤ (charsText svc ((List.range' ch len).map fun i => f.char i) ch).length := by
  induction len generalizing ch with
  | zero => exact Nat.zero_le _
  | succ len ih =>
    have hrest := ih (ch + 1) (by omega) fun i hi => hk i (by omega)
    have hch := hk ch le_rfl
    have hcut : (f.char ch).uuid.length = formattedUuidLen := by
      show (cut (formattedUuidLen + 1) f.charUuid).length = _
      rw [cut_of_le (by omega), huuid]
    have hid : (f.char ch).resourceId.toNat = ch := toNat_ofNat_of_lt (by omega)
    rw [List.range'_succ, List.map_cons, charsText, List.length_append, length_jsonCharFmt, hcut,
      hid, Nat.mul_succ]
    unfold formattedUuidLen
    omega

/-- a service with one characteristic takes at least 153 characters -/
theorem length_crowdedFirst_ge (is : List Nat) (srvc : Nat) :
    153 * is.length ≤ (servicesText (is.map crowdedService) srvc).length := by
  induction is generalizing srvc with
  | nil => exact Nat.zero_le _
  | cons i is ih =>
    have hrest := ih (srvc + 1)
    have hsvc : 0 < decimalDigits srvc := decimalDigits_pos srvc
    have hend : jsonArrayEnd.toList.length = 2 := by decide
    have hchar : (charsText srvc (crowdedService i).chars 0).length =
        (comma 0).length + 36 + decimalDigits srvc + decimalDigits 0 + 29 := by
      have hcut : (cut (formattedUuidLen + 1) "00002a19-0000-1000-8000-00805f9b34fb").length = 36 := by
        decide
      have huuid : ((crowdedAdd i).char 0).uuid.length = 36 := hcut
      have hid : ((crowdedAdd i).char 0).resourceId.toNat = 0 := rfl
      show (charsText srvc [(crowdedAdd i).char 0] 0).length = _
      rw [charsText, charsText, List.append_nil, length_jsonCharFmt, huuid, hid]
    have hzero : 0 < decimalDigits 0 := decimalDigits_pos 0
    have huuid : (crowdedService i).uuid.length = 36 := length_binaryUuid i
    rw [List.map_cons, servicesText, serviceText, List.length_append, List.length_append,
      List.length_append, length_jsonSrvcFmt, hchar, hend, huuid, List.length_cons]
    omega

theorem take_crowdedLast {n m k : Nat} (h : k ≤ m) :
    (crowdedLast n m).chars.take k = (List.range' 0 k).map fun i => (crowdedAdd n).char i := by
  rw [crowdedLast, ← List.map_take, List.take_range, Nat.min_eq_left h, List.range_eq_range']

/-- the length of what is printed up to the last characteristic of a crowded table -/
theorem length_crowded_ge {chars : List GattChar}
    (hchars : chars = (List.range' 0 65535).map fun i => (crowdedAdd 10000).char i) :
    6489800 ≤ (servicesText ((List.range 10000).map crowdedService) 0).length +
      (charsText 10000 chars 0).length := by
  have hservices := length_crowdedFirst_ge (List.range 10000) 0
  rw [List.length_range] at hservices
  have hrange : List.range' 0 65535 =
      List.range' 0 1000 ++ List.range' 1000 9000 ++ List.range' 10000 55535 := by
    have h₁ := List.range'_append_1 (s := 0) (m := 1000) (n := 9000)
    have h₂ := List.range'_append_1 (s := 0) (m := 10000) (n := 55535)
    rw [Nat.zero_add] at h₁ h₂
    rw [h₁, h₂]
  have huuid : (crowdedAdd 10000).charUuid.length = formattedUuidLen := by decide
  have hsvc : 4 < decimalDigits 10000 := lt_decimalDigits (by decide) (by decide)
  have h₁ := length_crowdedChars_ge huuid 10000 71 1000 0 (by omega) fun i _ => by
    have hpos := decimalDigits_pos i
    omega
  have h₂ := length_crowdedChars_ge huuid 10000 75 9000 1000 (by omega)
    fun i hi => by
      have hdigits : 3 < decimalDigits i := lt_decimalDigits (by decide) hi
      have hcomma : (comma i).length = 1 := length_comma_of_pos (by omega)
      omega
  have h₃ := length_crowdedChars_ge huuid 10000 76 55535 10000 (by omega)
    fun i hi => by
      have hdigits : 4 < decimalDigits i := lt_decimalDigits (by decide) hi
      have hcomma : (comma i).length = 1 := length_comma_of_pos (by omega)
      omega
  have hsum : 1000 + 9000 = 10000 := rfl
  rw [hchars, hrange, List.map_append, List.map_append, charsText_append, charsText_append,
    List.length_append, List.length_append, List.length_append, List.length_map, List.length_map,
    List.length_range', List.length_range', Nat.zero_add, Nat.zero_add, hsum]
  omega

/-- 10001 services, the last one with as many characteristics as have resource ids -/
def crowdedDevice : BleDevice :=
  addCharacteristics (deviceCreate 0 0 "00:11:22:33:44:55") (crowdedAdds 10000 65536)

theorem crowdedDevice_services : crowdedDevice.services = crowdedServices 10000 65536 :=
  crowded_services rfl (by decide) 65535

theorem crowdedServices_sized {n m : Nat} (hn : n < 65536) (hm : m ≤ 65536) :
    Sized (crowdedServices n m) := by
  constructor
  · rw [crowdedServices, List.length_append, List.length_map, List.length_range]
    exact hn
  · intro s hs
    rcases List.mem_append.mp hs with hs | hs
    · obtain ⟨i, -, rfl⟩ := List.mem_map.mp hs
      exact (by decide : 1 ≤ 65536)
    · rw [List.mem_singleton.mp hs, crowdedLast, List.length_map, List.length_range]
      exact hm

theorem jsonSize_crowdedServices (n m : Nat) :
    jsonSize (crowdedServices n m) = 17 + 90 * (n + 1) + 74 * (n + m) := by
  have hsum : ((crowdedServices n m).map fun s => s.chars.length).sum = n + m := by
    rw [crowdedServices, List.map_append, List.sum_append, List.map_map]
    have hone : ((fun s : GattService => s.chars.length) ∘ crowdedService) = fun _ => 1 := rfl
    rw [hone]
    simp [crowdedLast]
  rw [jsonSize, hsum, crowdedServices, List.length_append, List.length_map, List.length_range]
  rfl

/-- the text stops before the path of its last characteristic -/
theorem crowdedDevice_cutOff :
    (∀ f ∈ crowdedAdds 10000 65536, f.srvcUuid.length ≤ formattedUuidLen ∧
        nul ∉ f.srvcUuid.toList ∧ nul ∉ f.charUuid.toList) ∧
      Sized crowdedDevice.services ∧ jsonSize crowdedDevice.services < 2 ^ 31 ∧
      ∃ c p text, crowdedDevice.char? 10000 65535 = some c ∧
        jsonListDeviceServicesIn filledMalloc crowdedDevice.services = some (some p) ∧
        Holds p.block text ∧
        ¬ textUpTo crowdedDevice.services 10000 65535 c <+: text := by
  have huuids : ∀ f ∈ crowdedAdds 10000 65536, f.srvcUuid.length ≤ formattedUuidLen ∧
      nul ∉ f.srvcUuid.toList ∧ nul ∉ f.charUuid.toList := by
    have hadd : ∀ i, (crowdedAdd i).srvcUuid.length ≤ formattedUuidLen ∧
        nul ∉ (crowdedAdd i).srvcUuid.toList ∧ nul ∉ (crowdedAdd i).charUuid.toList := fun i =>
      ⟨(length_binaryUuid i).le, nul_notMem_binaryUuid i, by
        show nul ∉ "00002a19-0000-1000-8000-00805f9b34fb".toList
        decide⟩
    intro f hf
    rcases List.mem_append.mp hf with hf | hf
    · obtain ⟨i, -, rfl⟩ := List.mem_map.mp hf
      exact hadd i
    · rw [List.eq_of_mem_replicate hf]
      exact hadd 10000
  have hservices := crowdedDevice_services
  have hsized : Sized crowdedDevice.services := by
    rw [hservices]
    exact crowdedServices_sized (by decide) le_rfl
  have hsize : jsonSize crowdedDevice.services = 6489771 := by
    rw [hservices, jsonSize_crowdedServices]
  have hint : jsonSize crowdedDevice.services < 2 ^ 31 := by
    rw [hsize]
    decide
  have hlast : crowdedDevice.services[10000]? = some (crowdedLast 10000 65536) := by
    rw [hservices, crowdedServices, List.getElem?_append_right (by simp)]
    simp
  have hchar : crowdedDevice.char? 10000 65535 = some ((crowdedAdd 10000).char 65535) := by
    refine BleDevice.char?_eq_some.mpr ⟨_, hlast, ?_⟩
    rw [crowdedLast, List.getElem?_map, List.getElem?_range (by decide)]
    rfl
  have hmalloc : (filledMalloc (jsonSize crowdedDevice.services)).isSome := rfl
  obtain ⟨p, text, hp, hholds, hprinted⟩ :=
    printsPaths hsized (addCharacteristics_cStrings rfl (fun f hf => (huuids f hf).1)
      fun f hf => (huuids f hf).2) hint hmalloc
  refine ⟨huuids, hsized, hint, _, p, text, hchar, hp, hholds, ?_⟩
  rw [hprinted 10000 65535 _ hchar, hsize, textUpTo, textBefore, hlast]
  have hlength := length_crowded_ge (take_crowdedLast (n := 10000) (m := 65536) (by decide))
  have htake : crowdedDevice.services.take 10000 = (List.range 10000).map crowdedService := by
    rw [hservices, crowdedServices, List.take_left' (by simp)]
  rw [htake]
  simp only [List.length_append]
  omega

end EdgeTranslators.Ble
