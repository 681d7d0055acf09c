import EdgeTranslators.Ble.Characteristic

/-!
# What constructing the translations of a table makes

* `tableEntries`       the fields of the supported characteristics of a table, in order;
* `Made`               a device has got contexts for a list of entries, each for a new resource;
* `constructions`      the calls of `ble_services_construct_characteristic`, and `Built` what is
                       known of them;
* `addKnownTranslations_built`   the translations of a table are the entries of the table.
-/

namespace EdgeTranslators.Ble
open Lib Pt

/-! ## the fields of a table -/

/-- the object and the resource of a field of a characteristic, and the flags of its context -/
structure Field where
  objectId : UInt16
  resourceId : UInt16
  flags : UInt32
  deriving DecidableEq

/-- a field of the characteristic at an index of the table -/
structure Entry where
  svIdx : Nat
  chIdx : Nat
  field : Field
  deriving DecidableEq

def TranslationContext.entry (ctx : TranslationContext) : Entry :=
  ⟨ctx.svIdx, ctx.chIdx, ⟨ctx.objectId, ctx.resourceId, ctx.characteristicExtraFlags⟩⟩

def digitalFields (objectId resourceId : UInt16) : (count bitfieldOffset : Nat) → List Field
  | 0, _ => []
  | count + 1, bitfieldOffset =>
    ⟨objectId, resourceId, UInt32.ofNat bitfieldOffset⟩ ::
      digitalFields objectId resourceId count (bitfieldOffset + 1)

/-- the fields a constructor makes -/
def CharacteristicConstruct.fields (properties : Nat) : CharacteristicConstruct → List Field
  | .temperature => [⟨temperatureSensor, sensorValue, 0⟩]
  | .humidity => [⟨humiditySensor, sensorValue, 0⟩]
  | .barometer => [⟨barometerSensor, sensorValue, 0⟩]
  | .automationIo =>
    if properties &&& bleGattPropPermWrite ≠ 0 then digitalFields lightControl onOffValue 2 0
    else if properties &&& bleGattPropPermRead ≠ 0 then
      digitalFields pushButton digitalInputState 2 0
    else []

def charEntries (serviceUuid : String) (svIdx chIdx : Nat) (ch : GattChar) : List Entry :=
  match bleServicesGetCharacteristicDescriptorByUuids serviceUuid ch.uuid with
  | none => []
  | some d => (d.construct.fields ch.properties).map (⟨svIdx, chIdx, ·⟩)

def serviceEntries (serviceUuid : String) (svIdx : Nat) (chars : List GattChar) (chIdx : Nat) :
    List Entry :=
  (chars.zipIdx chIdx).flatMap fun (ch, j) => charEntries serviceUuid svIdx j ch

def tableEntries (services : List GattService) (svIdx : Nat) : List Entry :=
  (services.zipIdx svIdx).flatMap fun (s, i) => serviceEntries s.uuid i s.chars 0

/-! ## constructions -/

/-- a call of `ble_services_construct_characteristic` -/
structure Construction where
  svIdx : Nat
  chIdx : Nat
  device : BleDevice
  client : Client

namespace Construction

def result (h : Host) (k : Construction) : BleDevice × Client :=
  bleServicesConstructCharacteristic h k.client k.device k.svIdx k.chIdx

/-- the resource does not exist before the call, and exists after it -/
def Creates (h : Host) (k : Construction) (p : Path) : Prop :=
  ¬k.client.HasPath k.device.deviceId p ∧ (k.result h).2.HasPath k.device.deviceId p

/-- the call gets the instances it asks for -/
def Succeeds (h : Host) (k : Construction) : Prop :=
  ∀ d ∈ k.device.descriptor? k.svIdx k.chIdx, ∀ ch ∈ k.device.char? k.svIdx k.chIdx,
    d.construct.fields ch.properties ≠ [] →
      (d.construct.call h k.client k.device k.svIdx k.chIdx).1 = true

instance (h : Host) (k : Construction) : Decidable (k.Succeeds h) := by
  unfold Succeeds
  infer_instance

end Construction

/-- the calls of `addCharacteristicTranslations` -/
def characteristicConstructions (h : Host) (svc : Nat) (s : GattService) :
    (chars : List GattChar) → (j : Nat) → BleDevice × Client → List Construction
  | [], _, _ => []
  | ch :: chars, j, dc =>
    if bleServicesIsSupportedCharacteristic s.uuid ch.uuid then
      ⟨svc, j, dc.1, dc.2⟩ :: characteristicConstructions h svc s chars (j + 1)
        (bleServicesConstructCharacteristic h dc.2 dc.1 svc j)
    else characteristicConstructions h svc s chars (j + 1) dc

/-- the calls of `addKnownTranslations` -/
def constructions (h : Host) (dis : DisReads) :
    (services : List GattService) → (svc : Nat) → BleDevice × Client → List Construction
  | [], _, _ => []
  | s :: services, svc, dc =>
    if bleServicesIsSupportedService s.uuid then
      let c := bleServicesConstructService h dc.2 dc.1 svc dis.stack (dis.outcome svc)
      characteristicConstructions h svc s s.chars 0 (dc.1, c) ++
        constructions h dis services (svc + 1)
          (addCharacteristicTranslations h svc s s.chars 0 (dc.1, c))
    else constructions h dis services (svc + 1) dc

/-- an instance that the PT client finds is not in use -/
def Host.FindsFree (h : Host) : Prop :=
  ∀ rs objectId, 0 ≤ h.nextFreeInstance rs objectId → h.nextFreeInstance rs objectId ≤ 65535 →
    instanceUsed rs objectId (h.nextFreeInstance rs objectId).toNat = false

theorem plainHost_findsFree : plainHost.FindsFree := by
  intro rs objectId hle _
  have hdef : plainHost.nextFreeInstance rs objectId =
      leastFree (instanceUsed rs objectId) 65535 0 := rfl
  rw [hdef] at hle ⊢
  rcases leastFree_cases (instanceUsed rs objectId) 65535 0 with hno | ⟨j, hj, -, -, hfree⟩
  · rw [hno] at hle
    exact absurd hle (by decide)
  · rw [hj]
    exact hfree

/-! ## contexts for new resources -/

/-- the client has grown, and the device has got a context for each entry, all for resources that
were not there -/
structure Made (es : List Entry) (c : Client) (device : BleDevice) (c' : Client)
    (device' : BleDevice) : Prop where
  grows : Grows c c'
  contexts : ∃ ctxs, device' = { device with translations := device.translations ++ ctxs } ∧
    ctxs.map TranslationContext.entry = es ∧ (ctxs.map TranslationContext.path).Nodup ∧
    ∀ ctx ∈ ctxs, ¬c.HasPath device.deviceId ctx.path ∧ c'.HasPath device.deviceId ctx.path

section
variable {h : Host} {es es' : List Entry} {c c' c'' : Client} {device device' device'' : BleDevice}
  {svIdx chIdx : Nat}

theorem Made.of_grows (hg : Grows c c') : Made [] c device c' device :=
  ⟨hg, [], by rw [List.append_nil], rfl, List.nodup_nil, nofun⟩

theorem Made.deviceId (hm : Made es c device c' device') :
    device'.deviceId = device.deviceId := by
  obtain ⟨ctxs, rfl, -⟩ := hm.contexts
  rfl

theorem Made.services (hm : Made es c device c' device') :
    device'.services = device.services := by
  obtain ⟨ctxs, rfl, -⟩ := hm.contexts
  rfl

/-- the resources of a second list are not those of the first, which are there by then -/
theorem Made.trans (hm : Made es c device c' device') (hm' : Made es' c' device' c'' device'') :
    Made (es ++ es') c device c'' device'' := by
  refine ⟨hm.grows.trans hm'.grows, ?_⟩
  obtain ⟨ctxs, rfl, rfl, hnodup, hctxs⟩ := hm.contexts
  obtain ⟨ctxs', rfl, rfl, hnodup', hctxs'⟩ := hm'.contexts
  refine ⟨ctxs ++ ctxs', by rw [List.append_assoc], by rw [List.map_append], ?_, ?_⟩
  · rw [List.map_append, List.nodup_append]
    refine ⟨hnodup, hnodup', fun p hp p' hp' heq => ?_⟩
    obtain ⟨ctx, hctx, rfl⟩ := List.mem_map.mp hp
    obtain ⟨ctx', hctx', rfl⟩ := List.mem_map.mp hp'
    have hnew := (hctxs' ctx' hctx').1
    rw [← heq] at hnew
    exact hnew (hctxs ctx hctx).2
  · intro ctx hctx
    rcases List.mem_append.mp hctx with hctx | hctx
    · exact ⟨(hctxs ctx hctx).1, hm'.grows.paths _ _ (hctxs ctx hctx).2⟩
    · have hnew := (hctxs' ctx hctx).1
      exact ⟨fun hold => hnew (hm.grows.paths _ _ hold), (hctxs' ctx hctx).2⟩

/-! ## constructors -/

theorem not_hasPath_of_unused {id : String} {rs : Resources} {objectId : UInt16} {inst : Nat}
    (hfind : c.find id = some rs) (hle : inst ≤ 65535)
    (hfree : instanceUsed rs objectId inst = false) (resourceId : UInt16) :
    ¬c.HasPath id ⟨objectId, UInt16.ofNat inst, resourceId⟩ := by
  rintro ⟨rs', hrs', hmem⟩
  obtain rfl := Option.some.inj ((find_eq_some hfind).2.symm.trans hrs')
  have hno := List.any_eq_false.mp hfree _ (AList.mem_keys.mp hmem)
  refine hno (decide_eq_true ⟨rfl, ?_⟩)
  show (UInt16.ofNat inst).toNat = inst
  rw [UInt16.toNat_ofNat']
  omega

/-- the instance found for an object has no resources -/
theorem nextFree_spec (hfree : h.FindsFree) {id : String} (hr : Ready c id) (objectId : UInt16) :
    ∃ inst, deviceGetNextFreeObjectInstanceId h.nextFreeInstance c id objectId = (inst, c) ∧
      (0 ≤ inst → inst ≤ 65535 → ∀ resourceId,
        ¬c.HasPath id ⟨objectId, UInt16.ofNat inst.toNat, resourceId⟩) := by
  obtain ⟨rs, hrs⟩ := hr.find
  refine ⟨h.nextFreeInstance rs objectId, ?_, fun hle hlt => ?_⟩
  · unfold deviceGetNextFreeObjectInstanceId
    rw [takeFault_of_nil hr.1]
    simp only [hrs]
  · exact not_hasPath_of_unused hrs (by omega) (hfree rs objectId hle hlt)

/-- a context for a resource that is new -/
theorem configure_made (hg : Grows c c') (hf : c'.faults = []) {p : Path} (flags : UInt32)
    (hnew : ¬c.HasPath device.deviceId p) (hp : c'.HasPath device.deviceId p) :
    Made [⟨svIdx, chIdx, ⟨p.objectId, p.resourceId, flags⟩⟩] c device
      (bleServicesConfigureTranslationContext c' device svIdx chIdx p flags).2
      (bleServicesConfigureTranslationContext c' device svIdx chIdx p flags).1 := by
  unfold bleServicesConfigureTranslationContext
  rw [takeFault_of_nil hf]
  refine ⟨hg, _, rfl, rfl, List.nodup_singleton _, fun ctx hctx => ?_⟩
  rw [List.mem_singleton.mp hctx]
  exact ⟨hnew, hp⟩

theorem constructSensor_made (hfree : h.FindsFree) (hr : Ready c device.deviceId)
    (sensorId : UInt16) (units description : String)
    (hok : (bleServicesConstructSensor h c device svIdx chIdx sensorId units description).1
      = true) :
    Made [⟨svIdx, chIdx, ⟨sensorId, sensorValue, 0⟩⟩] c device
      (bleServicesConstructSensor h c device svIdx chIdx sensorId units description).2.2
      (bleServicesConstructSensor h c device svIdx chIdx sensorId units description).2.1 := by
  obtain ⟨inst, hinst, hnew⟩ := nextFree_spec hfree hr sensorId
  unfold bleServicesConstructSensor at hok ⊢
  rw [hinst] at hok ⊢
  simp only at hok ⊢
  split at hok
  · cases hok
  · rename_i hin
    rw [if_neg hin]
    have hg := ipsoCreateSensorObject_grows h.byteOrder c device.deviceId sensorId
      (UInt16.ofNat inst.toNat) units description
    have hg' := ipsoAddMinMaxFields_grows h.byteOrder (ipsoCreateSensorObject h.byteOrder c
      device.deviceId sensorId (UInt16.ofNat inst.toNat) units description) device.deviceId
      sensorId (UInt16.ofNat inst.toNat)
    exact configure_made (hg.trans hg') ((hg.trans hg').faults hr.1) 0
      (hnew (by omega) (by omega) sensorValue)
      (hg'.paths _ _ (ipsoCreateSensorObject_hasPath _ _ _ _ _ hr))

theorem constructDigital_made (hfree : h.FindsFree) (objectId resourceId : UInt16)
    (operations : UInt8) (count bitfieldOffset : Nat) (hr : Ready c device.deviceId)
    (hok : (bleServicesConstructDigital h objectId resourceId operations svIdx chIdx count
      bitfieldOffset device c).1 = true) :
    Made ((digitalFields objectId resourceId count bitfieldOffset).map (⟨svIdx, chIdx, ·⟩)) c device
      (bleServicesConstructDigital h objectId resourceId operations svIdx chIdx count
        bitfieldOffset device c).2.2
      (bleServicesConstructDigital h objectId resourceId operations svIdx chIdx count
        bitfieldOffset device c).2.1 := by
  induction count generalizing bitfieldOffset device c with
  | zero => exact .of_grows (.refl c)
  | succ count ih =>
    obtain ⟨inst, hinst, hnew⟩ := nextFree_spec hfree hr objectId
    unfold bleServicesConstructDigital at hok ⊢
    rw [hinst] at hok ⊢
    simp only at hok ⊢
    split at hok
    · cases hok
    · rename_i hin
      rw [if_neg hin]
      have hg := edgeAddResource_grows c device.deviceId
        ⟨objectId, UInt16.ofNat inst.toNat, resourceId⟩ .boolean operations [0]
      have hp := edgeAddResource_hasPath (p := ⟨objectId, UInt16.ofNat inst.toNat, resourceId⟩)
        .boolean operations [0] hr
      generalize edgeAddResource c device.deviceId ⟨objectId, UInt16.ofNat inst.toNat, resourceId⟩
        .boolean operations [0] = r at hg hp hok ⊢
      obtain ⟨_ | _, c₁⟩ := r
      · cases hok
      · have hmade : Made [⟨svIdx, chIdx, ⟨objectId, resourceId, UInt32.ofNat bitfieldOffset⟩⟩] c
            device _ _ :=
          configure_made (p := ⟨objectId, UInt16.ofNat inst.toNat, resourceId⟩) hg (hg.faults hr.1)
            _ (hnew (by omega) (by omega) resourceId) hp
        have hr' := hmade.grows.ready hr
        rw [← hmade.deviceId] at hr'
        exact hmade.trans (ih (bitfieldOffset + 1) hr' hok)

theorem constructAutomationIo_made (hfree : h.FindsFree) (hr : Ready c device.deviceId)
    {ch : GattChar} (hchar : device.char? svIdx chIdx = some ch)
    (hok : CharacteristicConstruct.fields ch.properties .automationIo ≠ [] →
      (bleServicesConstructAutomationIoCharacteristic h c device svIdx chIdx).1 = true) :
    Made ((CharacteristicConstruct.fields ch.properties .automationIo).map (⟨svIdx, chIdx, ·⟩))
      c device (bleServicesConstructAutomationIoCharacteristic h c device svIdx chIdx).2.2
      (bleServicesConstructAutomationIoCharacteristic h c device svIdx chIdx).2.1 := by
  unfold bleServicesConstructAutomationIoCharacteristic at hok ⊢
  simp only [CharacteristicConstruct.fields, hchar] at hok ⊢
  split
  · rename_i hwrite
    rw [if_pos hwrite, if_pos hwrite] at hok
    exact constructDigital_made hfree _ _ _ 2 0 hr (hok nofun)
  · rename_i hwrite
    rw [if_neg hwrite, if_neg hwrite] at hok
    split
    · rename_i hread
      rw [if_pos hread, if_pos hread] at hok
      exact constructDigital_made hfree _ _ _ 2 0 hr (hok nofun)
    · exact .of_grows (.refl c)

theorem descriptor?_eq {s : GattService} {ch : GattChar} (hs : device.services[svIdx]? = some s)
    (hch : s.chars[chIdx]? = some ch) :
    device.descriptor? svIdx chIdx = bleServicesGetCharacteristicDescriptorByUuids s.uuid ch.uuid := by
  unfold BleDevice.descriptor?
  rw [hs, Option.bind_some, hch, Option.bind_some]

theorem constructCharacteristic_made (hfree : h.FindsFree) (hr : Ready c device.deviceId)
    {s : GattService} {ch : GattChar} (hs : device.services[svIdx]? = some s)
    (hch : s.chars[chIdx]? = some ch) (hok : Construction.Succeeds h ⟨svIdx, chIdx, device, c⟩) :
    Made (charEntries s.uuid svIdx chIdx ch) c device
      (bleServicesConstructCharacteristic h c device svIdx chIdx).2
      (bleServicesConstructCharacteristic h c device svIdx chIdx).1 := by
  have hchar : device.char? svIdx chIdx = some ch := BleDevice.char?_eq_some.mpr ⟨s, hs, hch⟩
  have hok' := fun d hd => hok d hd ch hchar
  unfold bleServicesConstructCharacteristic charEntries
  simp only [descriptor?_eq hs hch] at hok' ⊢
  cases hd : bleServicesGetCharacteristicDescriptorByUuids s.uuid ch.uuid with
  | none => exact .of_grows (.refl c)
  | some d =>
    have hcall := hok' d hd
    simp only
    cases hconstruct : d.construct with
    | temperature =>
      rw [hconstruct] at hcall
      exact constructSensor_made hfree hr _ _ _ (hcall (List.cons_ne_nil _ _))
    | humidity =>
      rw [hconstruct] at hcall
      exact constructSensor_made hfree hr _ _ _ (hcall (List.cons_ne_nil _ _))
    | barometer =>
      rw [hconstruct] at hcall
      exact constructSensor_made hfree hr _ _ _ (hcall (List.cons_ne_nil _ _))
    | automationIo =>
      rw [hconstruct] at hcall
      exact constructAutomationIo_made hfree hr hchar hcall

/-! ## the loops -/

/-- what is known of the calls that make the contexts -/
structure Built (h : Host) (ks : List Construction) (es : List Entry) (c : Client)
    (device : BleDevice) (c' : Client) (device' : BleDevice) : Prop where
  made : Made es c device c' device'
  between : ∀ k ∈ ks, k.device.deviceId = device.deviceId ∧ Grows c k.client ∧
    Grows (k.result h).2 c'
  ordered : ks.Pairwise fun k k' => Grows (k.result h).2 k'.client
  origin : ∀ ctx ∈ device'.translations, ctx ∈ device.translations ∨
    ∃ k ∈ ks, k.svIdx = ctx.svIdx ∧ k.chIdx = ctx.chIdx ∧ k.Creates h ctx.path

variable {ks ks' : List Construction}

theorem Built.of_grows (hg : Grows c c') : Built h [] [] c device c' device :=
  ⟨.of_grows hg, nofun, .nil, fun _ hctx => .inl hctx⟩

theorem Built.trans (hb : Built h ks es c device c' device')
    (hb' : Built h ks' es' c' device' c'' device'') :
    Built h (ks ++ ks') (es ++ es') c device c'' device'' := by
  refine ⟨hb.made.trans hb'.made, fun k hk => ?_, ?_, fun ctx hctx => ?_⟩
  · rcases List.mem_append.mp hk with hk | hk
    · obtain ⟨hid, hbefore, hafter⟩ := hb.between k hk
      exact ⟨hid, hbefore, hafter.trans hb'.made.grows⟩
    · obtain ⟨hid, hbefore, hafter⟩ := hb'.between k hk
      exact ⟨hid.trans hb.made.deviceId, hb.made.grows.trans hbefore, hafter⟩
  · rw [List.pairwise_append]
    refine ⟨hb.ordered, hb'.ordered, fun k hk k' hk' => ?_⟩
    exact (hb.between k hk).2.2.trans (hb'.between k' hk').2.1
  · rcases hb'.origin ctx hctx with hold | ⟨k, hk, hcreated⟩
    · rcases hb.origin ctx hold with hold | ⟨k, hk, hcreated⟩
      · exact .inl hold
      · exact .inr ⟨k, List.mem_append_left _ hk, hcreated⟩
    · exact .inr ⟨k, List.mem_append_right _ hk, hcreated⟩

theorem constructCharacteristic_built (hfree : h.FindsFree) (hr : Ready c device.deviceId)
    {s : GattService} {ch : GattChar} (hs : device.services[svIdx]? = some s)
    (hch : s.chars[chIdx]? = some ch) (hok : Construction.Succeeds h ⟨svIdx, chIdx, device, c⟩) :
    Built h [⟨svIdx, chIdx, device, c⟩] (charEntries s.uuid svIdx chIdx ch) c device
      (bleServicesConstructCharacteristic h c device svIdx chIdx).2
      (bleServicesConstructCharacteristic h c device svIdx chIdx).1 := by
  have hmade := constructCharacteristic_made hfree hr hs hch hok
  refine ⟨hmade, fun k hk => ?_, List.pairwise_singleton _ _, fun ctx hctx => ?_⟩
  · rw [List.mem_singleton.mp hk]
    exact ⟨rfl, .refl c, .refl _⟩
  · obtain ⟨ctxs, hdevice, hentries, -, hctxs⟩ := hmade.contexts
    rw [hdevice] at hctx
    rcases List.mem_append.mp hctx with hctx | hctx
    · exact .inl hctx
    · have hentry : ctx.entry ∈ charEntries s.uuid svIdx chIdx ch := by
        rw [← hentries]
        exact List.mem_map_of_mem hctx
      have hidx : ctx.svIdx = svIdx ∧ ctx.chIdx = chIdx := by
        unfold charEntries at hentry
        split at hentry
        · cases hentry
        · obtain ⟨f, -, hf⟩ := List.mem_map.mp hentry
          exact ⟨(congrArg Entry.svIdx hf).symm, (congrArg Entry.chIdx hf).symm⟩
      exact .inr ⟨_, List.mem_singleton_self _, hidx.1.symm, hidx.2.symm, hctxs ctx hctx⟩

theorem charEntries_of_unsupported {serviceUuid : String} {ch : GattChar}
    (hno : ¬bleServicesIsSupportedCharacteristic serviceUuid ch.uuid = true) :
    charEntries serviceUuid svIdx chIdx ch = [] := by
  unfold bleServicesIsSupportedCharacteristic at hno
  unfold charEntries
  cases hd : bleServicesGetCharacteristicDescriptorByUuids serviceUuid ch.uuid with
  | none => rfl
  | some d =>
    rw [hd] at hno
    exact absurd rfl hno

theorem drop_eq_cons {α : Type*} {l rest : List α} {x : α} {j : Nat} (hl : l.drop j = x :: rest) :
    l[j]? = some x ∧ l.drop (j + 1) = rest := by
  constructor
  · have hzero : (l.drop j)[0]? = some x := by rw [hl]; rfl
    rwa [List.getElem?_drop, Nat.add_zero] at hzero
  · rw [← List.drop_drop, hl]
    rfl

theorem addCharacteristicTranslations_built (hfree : h.FindsFree) {svc : Nat} {s : GattService}
    (chars : List GattChar) (j : Nat) (dc : BleDevice × Client) (hr : Ready dc.2 dc.1.deviceId)
    (hs : dc.1.services[svc]? = some s) (hchars : s.chars.drop j = chars)
    (hok : ∀ k ∈ characteristicConstructions h svc s chars j dc, k.Succeeds h) :
    Built h (characteristicConstructions h svc s chars j dc) (serviceEntries s.uuid svc chars j)
      dc.2 dc.1 (addCharacteristicTranslations h svc s chars j dc).2
      (addCharacteristicTranslations h svc s chars j dc).1 := by
  induction chars generalizing j dc with
  | nil => exact .of_grows (.refl dc.2)
  | cons ch chars ih =>
    obtain ⟨hch, hrest⟩ := drop_eq_cons hchars
    have hentries : serviceEntries s.uuid svc (ch :: chars) j =
        charEntries s.uuid svc j ch ++ serviceEntries s.uuid svc chars (j + 1) := rfl
    unfold addCharacteristicTranslations characteristicConstructions
    unfold characteristicConstructions at hok
    rw [hentries]
    by_cases hyes : bleServicesIsSupportedCharacteristic s.uuid ch.uuid = true
    · rw [if_pos hyes] at hok
      simp only [if_pos hyes]
      have hbuilt := constructCharacteristic_built hfree hr hs hch (hok _ List.mem_cons_self)
      have hr' := hbuilt.made.grows.ready hr
      rw [← hbuilt.made.deviceId] at hr'
      rw [← hbuilt.made.services] at hs
      exact hbuilt.trans (ih (j + 1) _ hr' hs hrest fun k hk => hok k (List.mem_cons_of_mem _ hk))
    · rw [if_neg hyes] at hok
      simp only [if_neg hyes, charEntries_of_unsupported hyes]
      exact ih (j + 1) dc hr hs hrest hok

theorem serviceEntries_of_unsupported {serviceUuid : String} (svc : Nat) (chars : List GattChar)
    (j : Nat) (hno : ¬bleServicesIsSupportedService serviceUuid = true) :
    serviceEntries serviceUuid svc chars j = [] := by
  refine List.flatMap_eq_nil_iff.mpr fun (ch, i) _ => charEntries_of_unsupported fun hyes => hno ?_
  unfold bleServicesIsSupportedCharacteristic bleServicesGetCharacteristicDescriptorByUuids at hyes
  unfold bleServicesIsSupportedService
  cases hd : bleServicesGetServiceDescriptor serviceUuid with
  | none =>
    rw [hd] at hyes
    cases hyes
  | some d => rfl

/-- **The translations of a table are the entries of the table.** -/
theorem addKnownTranslations_built (hfree : h.FindsFree) (dis : DisReads)
    (services : List GattService) (svc : Nat) (dc : BleDevice × Client)
    (hr : Ready dc.2 dc.1.deviceId) (hservices : dc.1.services.drop svc = services)
    (hok : ∀ k ∈ constructions h dis services svc dc, k.Succeeds h) :
    Built h (constructions h dis services svc dc) (tableEntries services svc) dc.2 dc.1
      (addKnownTranslations h dis services svc dc).2
      (addKnownTranslations h dis services svc dc).1 := by
  induction services generalizing svc dc with
  | nil => exact .of_grows (.refl dc.2)
  | cons s services ih =>
    obtain ⟨hs, hrest⟩ := drop_eq_cons hservices
    have hentries : tableEntries (s :: services) svc =
        serviceEntries s.uuid svc s.chars 0 ++ tableEntries services (svc + 1) := rfl
    unfold addKnownTranslations constructions
    unfold constructions at hok
    rw [hentries]
    by_cases hyes : bleServicesIsSupportedService s.uuid = true
    · rw [if_pos hyes] at hok
      simp only [if_pos hyes]
      have hg := constructService_grows h dc.2 dc.1 svc dis.stack (dis.outcome svc)
      have hbuilt := addCharacteristicTranslations_built hfree s.chars 0 (dc.1, _) (hg.ready hr) hs
        rfl fun k hk => hok k (List.mem_append_left _ hk)
      have hr' := hbuilt.made.grows.ready (hg.ready hr)
      rw [← hbuilt.made.deviceId] at hr'
      rw [← hbuilt.made.services] at hrest
      exact ((Built.of_grows hg).trans hbuilt).trans
        (ih (svc + 1) _ hr' hrest fun k hk => hok k (List.mem_append_right _ hk))
    · rw [if_neg hyes] at hok
      simp only [if_neg hyes, serviceEntries_of_unsupported svc s.chars 0 hyes]
      exact ih (svc + 1) dc hr hrest hok

end

end EdgeTranslators.Ble
