import EdgeTranslators.Ble.Bitfield
import EdgeTranslators.Ble.Constructed

/-!
# Routing between characteristics and resources

* `Sets calls c c'`       the calls of `pt_device_set_resource_value` between two clients;
* `decodeContexts_sets`   a decoded characteristic sets the resource of each of its contexts once;
* `Routed`                the routes of a device whose translations were constructed;
* `translations_routed`   every table gets its routes, if no PT call fails.
-/

namespace EdgeTranslators.Ble
open Lib Pt

/-! ## calls that set values -/

/-- the calls of `pt_device_set_resource_value` between two clients, the oldest first; only the
resources they name have other values -/
structure Sets (calls : List (String × Path × Bytes)) (c c' : Client) : Prop where
  grows : Grows c c'
  log : c'.setCalls = calls.reverse ++ c.setCalls
  others : SameExcept (fun id p => ∃ s ∈ calls, s.1 = id ∧ s.2.1 = p) c c'

section
variable {c c' c'' : Client} {id : String} {calls calls' : List (String × Path × Bytes)}

theorem Sets.refl (c : Client) : Sets [] c c := ⟨.refl c, rfl, .refl _ c⟩

theorem Sets.trans (hs : Sets calls c c') (hs' : Sets calls' c' c'') :
    Sets (calls ++ calls') c c'' := by
  refine ⟨hs.grows.trans hs'.grows, ?_, ?_⟩
  · rw [hs'.log, hs.log, List.reverse_append, List.append_assoc]
  · refine (hs.others.mono fun id p hmem => ?_).trans (hs'.others.mono fun id p hmem => ?_)
    · obtain ⟨s, hs, heq⟩ := hmem
      exact ⟨s, List.mem_append_left _ hs, heq⟩
    · obtain ⟨s, hs, heq⟩ := hmem
      exact ⟨s, List.mem_append_right _ hs, heq⟩

theorem takeFault_sets (c : Client) : Sets [] c c.takeFault.2 :=
  ⟨takeFault_grows c, takeFault_setCalls c, takeFault_sameExcept _ c⟩

theorem deviceSetResourceValue_sets (c : Client) (id : String) (p : Path) (v : Bytes) :
    Sets [(id, p, v)] c (deviceSetResourceValue c id p v).2 := by
  refine ⟨deviceSetResourceValue_grows c id p v, deviceSetResourceValue_setCalls c id p v, ?_⟩
  refine (deviceSetResourceValue_sameExcept c id p v).mono fun id' p' heq => ?_
  exact ⟨_, List.mem_singleton_self _, heq.1.symm, heq.2.symm⟩

theorem deviceGetResourceValue_sets (c : Client) (id : String) (p : Path) :
    Sets [] c (deviceGetResourceValue c id p).2.2 := by
  have hs := takeFault_sets c
  unfold deviceGetResourceValue
  rcases hf : c.takeFault with ⟨_ | _, c₁⟩ <;> rw [hf] at hs <;> simp only
  · cases (c₁.find id).bind (·.lookup p) <;> exact hs
  · exact hs

theorem updateBound_sets (c : Client) (id : String) (p : Path) (beyond : Bool) (data : Bytes) :
    ∃ calls, Sets calls c (updateBound c id p beyond data).2 ∧
      ∀ s ∈ calls, s.1 = id ∧ s.2.1 = p := by
  have hs := takeFault_sets c
  unfold updateBound
  cases beyond with
  | false => exact ⟨[], .refl c, nofun⟩
  | true =>
    rw [if_pos rfl]
    rcases hf : c.takeFault with ⟨_ | _, c₁⟩ <;> rw [hf] at hs <;> simp only
    · refine ⟨_, hs.trans (deviceSetResourceValue_sets c₁ id p data), fun s hmem => ?_⟩
      rw [List.mem_singleton.mp hmem]
      exact ⟨rfl, rfl⟩
    · exact ⟨[], hs, nofun⟩

theorem ipsoUpdateMinMaxFields_sets (o : ByteOrder) (c : Client) (id : String)
    (objectId inst : UInt16) (newValue : UInt32) :
    ∃ calls, Sets calls c (ipsoUpdateMinMaxFields o c id objectId inst newValue).2 ∧
      ∀ s ∈ calls, IsBound id objectId inst s.1 s.2.1 := by
  have hmin := deviceGetResourceValue_sets c id ⟨objectId, inst, minMeasuredValue⟩
  unfold ipsoUpdateMinMaxFields
  simp only
  generalize deviceGetResourceValue c id ⟨objectId, inst, minMeasuredValue⟩ = r at hmin ⊢
  obtain ⟨st, v, c₁⟩ := r
  simp only at hmin ⊢
  split
  · exact ⟨[], hmin, nofun⟩
  · have hmax := hmin.trans (deviceGetResourceValue_sets c₁ id ⟨objectId, inst, maxMeasuredValue⟩)
    generalize deviceGetResourceValue c₁ id ⟨objectId, inst, maxMeasuredValue⟩ = r at hmax ⊢
    obtain ⟨st', v', c₂⟩ := r
    simp only at hmax ⊢
    split
    · exact ⟨[], hmax, nofun⟩
    · generalize convertFloatValueToNetworkByteOrder o newValue = data
      generalize floatLt newValue (convertValueToHostOrderFloat o (v.getD [])) = below
      generalize floatLt (convertValueToHostOrderFloat o (v'.getD [])) newValue = above
      obtain ⟨calls, hs, hcalls⟩ :=
        updateBound_sets c₂ id ⟨objectId, inst, minMeasuredValue⟩ below data
      have hs := hmax.trans hs
      generalize updateBound c₂ id ⟨objectId, inst, minMeasuredValue⟩ below data = r at hs ⊢
      rcases r with ⟨_ | _, c₃⟩
      · exact ⟨calls, hs, fun s hmem => ⟨(hcalls s hmem).1, .inl (hcalls s hmem).2⟩⟩
      · simp only at hs ⊢
        obtain ⟨calls', hs', hcalls'⟩ :=
          updateBound_sets c₃ id ⟨objectId, inst, maxMeasuredValue⟩ above data
        have hs' := hs.trans hs'
        have hboth : ∀ s ∈ calls ++ calls', IsBound id objectId inst s.1 s.2.1 := by
          intro s hmem
          rcases List.mem_append.mp hmem with hmem | hmem
          · exact ⟨(hcalls s hmem).1, .inl (hcalls s hmem).2⟩
          · exact ⟨(hcalls' s hmem).1, .inr (hcalls' s hmem).2⟩
        generalize updateBound c₃ id ⟨objectId, inst, maxMeasuredValue⟩ above data = r at hs' ⊢
        rcases r with ⟨_ | _, c₄⟩ <;> exact ⟨_, hs', hboth⟩

end

/-! ## decoding -/

/-- one round of `ble_services_decode_and_write_characteristic_translation` -/
def decodeContext (h : Host) (device : BleDevice) (descriptor : BleCharacteristic)
    (svIdx chIdx : Nat) (value : Bytes) (c : Client) (ctx : TranslationContext) : Client :=
  if ctx.svIdx = svIdx ∧ ctx.chIdx = chIdx then
    match ValueDecode.call h c device descriptor ctx value with
    | (none, c) => c
    | (some decoded, c) => (deviceSetResourceValue c device.deviceId ctx.path decoded).2
  else c

theorem decodeAndWrite_def (h : Host) (c : Client) (device : BleDevice) (svIdx chIdx : Nat)
    (value : Bytes) :
    bleServicesDecodeAndWriteCharacteristicTranslation h c device svIdx chIdx value =
      match device.descriptor? svIdx chIdx with
      | none => c
      | some descriptor =>
        device.translations.foldl (decodeContext h device descriptor svIdx chIdx value) c := rfl

/-- the values that a descriptor of the table decodes -/
theorem descriptor_decodes {serviceUuid uuid : String} {d : BleCharacteristic}
    (hd : bleServicesGetCharacteristicDescriptorByUuids serviceUuid uuid = some d) :
    d.decode = .withFormatDescriptor → d.format ≠ .reserved1 ∧ d.exponent < 0 := by
  have hall : ∀ s ∈ bleServices, ∀ d ∈ s.characteristics, d.decode = .withFormatDescriptor →
      d.format ≠ .reserved1 ∧ d.exponent < 0 := by decide
  obtain ⟨s, hs, hd⟩ := Option.bind_eq_some_iff.mp hd
  exact hall s (List.mem_of_find?_eq_some hs) d (List.mem_of_find?_eq_some hd)

section
variable {h : Host} {c c' : Client} {device : BleDevice} {descriptor : BleCharacteristic}
  {ctx : TranslationContext} {svIdx chIdx : Nat}

theorem ValueDecode.call_sets (hf : c.faults = [])
    (hdecodes : descriptor.decode = .withFormatDescriptor →
      descriptor.format ≠ .reserved1 ∧ descriptor.exponent < 0) (value : Bytes) :
    ∃ calls decoded, (ValueDecode.call h c device descriptor ctx value).1 = some decoded ∧
      Sets calls c (ValueDecode.call h c device descriptor ctx value).2 ∧
      ∀ s ∈ calls, IsBound device.deviceId ctx.objectId ctx.objectInstanceId s.1 s.2.1 := by
  unfold ValueDecode.call
  cases hdecode : descriptor.decode with
  | withFormatDescriptor =>
    obtain ⟨hformat, hexp⟩ := hdecodes hdecode
    simp only [bleServicesDecodeValueWithFormatDescriptor, if_neg hformat, if_pos (Or.inl hexp)]
    obtain ⟨calls, hs, hcalls⟩ := ipsoUpdateMinMaxFields_sets h.byteOrder c device.deviceId
      ctx.objectId ctx.objectInstanceId
      (h.floatValue (floatOfUInt32 (rawValue value)) descriptor.exponent)
    exact ⟨calls, _, rfl, hs, hcalls⟩
  | twoBitBitfield =>
    simp only [bleServicesDecode2bitBitfieldValue, takeFault_of_nil hf]
    exact ⟨[], _, rfl, .refl c, fun _ hs => absurd hs List.not_mem_nil⟩

/-- a context whose resource is not a minimum or a maximum -/
def TranslationContext.Plain (ctx : TranslationContext) : Prop :=
  ctx.resourceId ≠ minMeasuredValue ∧ ctx.resourceId ≠ maxMeasuredValue

theorem TranslationContext.Plain.ne_bound (hp : ctx.Plain) {id id' : String} {o i : UInt16}
    {p : Path} (hb : IsBound id o i id' p) : p ≠ ctx.path := by
  rintro rfl
  rcases hb.2 with heq | heq
  · exact hp.1 (congrArg Path.resourceId heq)
  · exact hp.2 (congrArg Path.resourceId heq)

theorem hasPath_iff_value {id : String} {p : Path} :
    c.HasPath id p ↔ (c.value id p).isSome := by
  unfold Client.HasPath Client.value
  cases hrs : c.devices.lookup id with
  | none => simp
  | some rs => simp [AList.lookup_isSome]

theorem decodeContext_sets (hr : Ready c device.deviceId)
    (hdecodes : descriptor.decode = .withFormatDescriptor →
      descriptor.format ≠ .reserved1 ∧ descriptor.exponent < 0)
    (hp : c.HasPath device.deviceId ctx.path) (hat : ctx.svIdx = svIdx ∧ ctx.chIdx = chIdx)
    (value : Bytes) :
    ∃ bounds v, Sets (bounds ++ [(device.deviceId, ctx.path, v)]) c
        (decodeContext h device descriptor svIdx chIdx value c ctx) ∧
      (∀ s ∈ bounds, IsBound device.deviceId ctx.objectId ctx.objectInstanceId s.1 s.2.1) ∧
      (decodeContext h device descriptor svIdx chIdx value c ctx).value device.deviceId ctx.path =
        some v := by
  obtain ⟨bounds, v, hv, hs, hbounds⟩ :=
    @ValueDecode.call_sets h c device descriptor ctx hr.1 hdecodes value
  unfold decodeContext
  rw [if_pos hat]
  generalize ValueDecode.call h c device descriptor ctx value = r at hv hs ⊢
  obtain ⟨decoded, c₁⟩ := r
  obtain rfl : decoded = some v := hv
  refine ⟨bounds, v, hs.trans (deviceSetResourceValue_sets c₁ _ _ v), hbounds, ?_⟩
  have hsome := hasPath_iff_value.mp (hs.grows.paths _ _ hp)
  rw [(deviceSetResourceValue_value (hs.grows.ready hr) ctx.path v).1, setValue, if_pos hsome]
  exact Function.update_self ..

/-- **A decoded characteristic sets the resource of each of its contexts once, and besides them only
minimum and maximum resources.** -/
theorem decodeContexts_sets (hdecodes : descriptor.decode = .withFormatDescriptor →
      descriptor.format ≠ .reserved1 ∧ descriptor.exponent < 0) (value : Bytes)
    (ctxs : List TranslationContext) (hr : Ready c device.deviceId)
    (hnodup : (ctxs.map TranslationContext.path).Nodup) (hplain : ∀ ctx ∈ ctxs, ctx.Plain)
    (hpaths : ∀ ctx ∈ ctxs, c.HasPath device.deviceId ctx.path) :
    ∃ calls, Sets calls c (ctxs.foldl (decodeContext h device descriptor svIdx chIdx value) c) ∧
      (∀ s ∈ calls, s.1 = device.deviceId ∧ ∃ ctx ∈ ctxs, (ctx.svIdx = svIdx ∧ ctx.chIdx = chIdx) ∧
        (s.2.1 = ctx.path ∨ IsBound device.deviceId ctx.objectId ctx.objectInstanceId s.1 s.2.1)) ∧
      ∀ ctx ∈ ctxs, ctx.svIdx = svIdx ∧ ctx.chIdx = chIdx →
        ∃ v, calls.filter (fun s => s.2.1 = ctx.path) = [(device.deviceId, ctx.path, v)] ∧
          (ctxs.foldl (decodeContext h device descriptor svIdx chIdx value) c).value
            device.deviceId ctx.path = some v := by
  induction ctxs generalizing c with
  | nil => exact ⟨[], .refl c, nofun, nofun⟩
  | cons ctx ctxs ih =>
    rw [List.map_cons, List.nodup_cons] at hnodup
    obtain ⟨hnew, hnodup⟩ := hnodup
    have hplain' := fun x hx => hplain x (List.mem_cons_of_mem _ hx)
    rw [List.foldl_cons]
    by_cases hat : ctx.svIdx = svIdx ∧ ctx.chIdx = chIdx
    · obtain ⟨bounds, v, hs, hbounds, hvalue⟩ := decodeContext_sets (h := h) hr hdecodes
        (hpaths ctx List.mem_cons_self) hat value
      generalize decodeContext h device descriptor svIdx chIdx value c ctx = c₁ at hs hvalue ⊢
      obtain ⟨calls, hs', hmem, hone⟩ := ih (hs.grows.ready hr) hnodup hplain' fun x hx =>
        hs.grows.paths _ _ (hpaths x (List.mem_cons_of_mem _ hx))
      -- the calls of a context name its resource once, and the others of its kind never
      have hbounds' : ∀ x ∈ ctx :: ctxs, bounds.filter (fun s => s.2.1 = x.path) = [] := by
        intro x hx
        refine List.filter_eq_nil_iff.mpr fun s hs heq => ?_
        exact (hplain x hx).ne_bound (hbounds s hs) (of_decide_eq_true heq)
      have hcalls : ∀ s ∈ calls, s.2.1 ≠ ctx.path := by
        intro s hs heq
        obtain ⟨-, x, hx, -, hpath | hbound⟩ := hmem s hs
        · exact hnew (List.mem_map.mpr ⟨x, hx, hpath.symm.trans heq⟩)
        · exact (hplain ctx List.mem_cons_self).ne_bound hbound heq
      refine ⟨_, hs.trans hs', fun s hmem' => ?_, fun x hx hatx => ?_⟩
      · rcases List.mem_append.mp hmem' with hmem' | hmem'
        · rcases List.mem_append.mp hmem' with hmem' | hmem'
          · exact ⟨(hbounds s hmem').1, ctx, List.mem_cons_self, hat, .inr (hbounds s hmem')⟩
          · rw [List.mem_singleton.mp hmem']
            exact ⟨rfl, ctx, List.mem_cons_self, hat, .inl rfl⟩
        · obtain ⟨hid, x, hx, hwhich⟩ := hmem s hmem'
          exact ⟨hid, x, List.mem_cons_of_mem _ hx, hwhich⟩
      · rw [List.filter_append, List.filter_append, hbounds' x hx, List.nil_append]
        rcases List.mem_cons.mp hx with rfl | hx
        · refine ⟨v, ?_, ?_⟩
          · rw [List.filter_eq_nil_iff.mpr fun s hs heq => hcalls s hs (of_decide_eq_true heq)]
            simp
          · rw [hs'.others _ _ fun hnamed => ?_]
            · exact hvalue
            · obtain ⟨s, hs, -, heq⟩ := hnamed
              exact hcalls s hs heq
        · have hne : ctx.path ≠ x.path := fun heq =>
            hnew (List.mem_map.mpr ⟨x, hx, heq.symm⟩)
          rw [List.filter_cons_of_neg (by simpa using hne), List.filter_nil, List.nil_append]
          exact hone x hx hatx
    · have hskip : decodeContext h device descriptor svIdx chIdx value c ctx = c := by
        unfold decodeContext
        rw [if_neg hat]
      rw [hskip]
      obtain ⟨calls, hs', hmem, hone⟩ := ih hr hnodup hplain' fun x hx =>
        hpaths x (List.mem_cons_of_mem _ hx)
      refine ⟨calls, hs', fun s hs => ?_, fun x hx hatx => ?_⟩
      · obtain ⟨hid, x, hx, hwhich⟩ := hmem s hs
        exact ⟨hid, x, List.mem_cons_of_mem _ hx, hwhich⟩
      · rcases List.mem_cons.mp hx with rfl | hx
        · exact absurd hatx hat
        · exact hone x hx hatx

/-! ## routes -/

/-- what of a table never changes after it was discovered -/
def GattService.layout (s : GattService) : String × List (String × String × Nat) :=
  (s.uuid, s.chars.map fun ch => (ch.uuid, ch.dbusPath, ch.valueSize))

/-- the device and the client at a later time, while nothing fails: the values may have changed, and
the resources are there -/
structure Later (c : Client) (ble : BleDevice) (c' : Client) (ble' : BleDevice) : Prop where
  deviceId : ble'.deviceId = ble.deviceId
  translations : ble'.translations = ble.translations
  layout : ble'.services.map GattService.layout = ble.services.map GattService.layout
  ready : Ready c' ble.deviceId
  paths : ∀ p, c.HasPath ble.deviceId p → c'.HasPath ble.deviceId p

/-- the resources of a characteristic are set once each, and no others but minima and maxima -/
structure SetOnce (ble : BleDevice) (svIdx chIdx : Nat) (calls : List (String × Path × Bytes))
    (c' : Client) : Prop where
  own : ∀ ctx ∈ ble.translations, ctx.svIdx = svIdx ∧ ctx.chIdx = chIdx →
    ∃ v, calls.filter (fun s => s.2.1 = ctx.path) = [(ble.deviceId, ctx.path, v)] ∧
      c'.value ble.deviceId ctx.path = some v
  foreign : ∀ ctx ∈ ble.translations, ¬(ctx.svIdx = svIdx ∧ ctx.chIdx = chIdx) →
    ∀ s ∈ calls, s.2.1 ≠ ctx.path
  derived : ∀ s ∈ calls, IsDerived ble svIdx chIdx s.1 s.2.1

/-- a characteristic gets instances: it is in the table of its service, and writable or readable
where this decides what it is -/
def Translatable (services : List GattService) (svIdx chIdx : Nat) : Prop :=
  ∃ s ch d, services[svIdx]? = some s ∧ s.chars[chIdx]? = some ch ∧
    bleServicesGetCharacteristicDescriptorByUuids s.uuid ch.uuid = some d ∧
    (d.construct = .automationIo →
      ch.properties &&& bleGattPropPermWrite ≠ 0 ∨ ch.properties &&& bleGattPropPermRead ≠ 0)

/-- the routes of a device whose contexts the calls `ks` have made -/
structure Routed (h : Host) (ks : List Construction) (c : Client) (ble : BleDevice) : Prop where
  inside : ∀ ctx ∈ ble.translations, (ble.char? ctx.svIdx ctx.chIdx).isSome
  distinct : (ble.translations.map TranslationContext.path).Nodup
  origin : ∀ ctx ∈ ble.translations, (∃ k ∈ ks, k.Creates h ctx.path) ∧
    ∀ k ∈ ks, k.Creates h ctx.path → k.svIdx = ctx.svIdx ∧ k.chIdx = ctx.chIdx
  write : ∀ c' ble', Later c ble c' ble' → ∀ ctx ∈ ble.translations,
    ((ble.descriptor? ctx.svIdx ctx.chIdx).bind (·.encode)).isSome →
      ∃ charact, ble'.char? ctx.svIdx ctx.chIdx = some charact ∧ ∀ value outcome,
        (deviceWriteCharacteristic h c' ble' ctx.path value outcome).write =
          some (charact.dbusPath, [putField (charact.value.headD 0)
            ctx.characteristicExtraFlags.toNat (isOn h value)])
  decode : ∀ c' ble', Later c ble c' ble' → ∀ svIdx chIdx value,
    ∃ calls, Sets calls c'
        (bleServicesDecodeAndWriteCharacteristicTranslation h c' ble' svIdx chIdx value) ∧
      SetOnce ble' svIdx chIdx calls
        (bleServicesDecodeAndWriteCharacteristicTranslation h c' ble' svIdx chIdx value)
  exact : ∀ svIdx chIdx, (∃ ctx ∈ ble.translations, ctx.svIdx = svIdx ∧ ctx.chIdx = chIdx) ↔
    Translatable ble.services svIdx chIdx

/-! ### entries -/

theorem mem_tableEntries {services : List GattService} {e : Entry} :
    e ∈ tableEntries services 0 ↔ ∃ s ch d, services[e.svIdx]? = some s ∧
      s.chars[e.chIdx]? = some ch ∧
      bleServicesGetCharacteristicDescriptorByUuids s.uuid ch.uuid = some d ∧
      e.field ∈ d.construct.fields ch.properties := by
  unfold tableEntries serviceEntries charEntries
  simp only [List.mem_flatMap, Prod.exists, List.mk_mem_zipIdx_iff_getElem?]
  constructor
  · rintro ⟨s, i, hs, ch, j, hch, he⟩
    split at he
    · cases he
    · rename_i d hd
      obtain ⟨f, hf, rfl⟩ := List.mem_map.mp he
      exact ⟨s, ch, d, hs, hch, hd, hf⟩
  · rintro ⟨s, ch, d, hs, hch, hd, hf⟩
    refine ⟨s, _, hs, ch, _, hch, ?_⟩
    rw [hd]
    exact List.mem_map.mpr ⟨e.field, hf, rfl⟩

/-- fields are not in the service object, are not bounds, and are in byte 0 -/
theorem field_plain {construct : CharacteristicConstruct} {properties : Nat} {f : Field}
    (hf : f ∈ construct.fields properties) : f.objectId ≠ ipsoOidBleService ∧
      (f.resourceId ≠ minMeasuredValue ∧ f.resourceId ≠ maxMeasuredValue) ∧ f.flags.toNat < 4 := by
  have hdigital : ∀ f ∈ digitalFields lightControl onOffValue 2 0 ++
      digitalFields pushButton digitalInputState 2 0, f.objectId ≠ ipsoOidBleService ∧
      (f.resourceId ≠ minMeasuredValue ∧ f.resourceId ≠ maxMeasuredValue) ∧
        f.flags.toNat < 4 := by decide
  cases construct with
  | automationIo =>
    simp only [CharacteristicConstruct.fields] at hf
    split at hf
    · exact hdigital f (List.mem_append_left _ hf)
    · split at hf
      · exact hdigital f (List.mem_append_right _ hf)
      · cases hf
  | _ =>
    rw [List.mem_singleton.mp hf]
    decide

theorem fields_ne_nil {construct : CharacteristicConstruct} {properties : Nat} :
    construct.fields properties ≠ [] ↔ (construct = .automationIo →
      properties &&& bleGattPropPermWrite ≠ 0 ∨ properties &&& bleGattPropPermRead ≠ 0) := by
  cases construct with
  | automationIo =>
    simp only [CharacteristicConstruct.fields, forall_const]
    split
    · rename_i hwrite
      exact ⟨fun _ => .inl hwrite, fun _ => List.cons_ne_nil _ _⟩
    · rename_i hwrite
      split
      · rename_i hread
        exact ⟨fun _ => .inr hread, fun _ => List.cons_ne_nil _ _⟩
      · rename_i hread
        exact ⟨fun hno => absurd rfl hno, fun hor => absurd hor (not_or.mpr ⟨hwrite, hread⟩)⟩
  | _ => exact ⟨fun _ heq => (by cases heq), fun _ => List.cons_ne_nil _ _⟩

end

/-! ### later times -/

section
variable {h : Host} {dis : DisReads} {c c' : Client} {ble ble' : BleDevice} {svIdx chIdx : Nat}
  {ctx : TranslationContext}

theorem Later.char (hl : Later c ble c' ble') {s : GattService} {ch : GattChar}
    (hs : ble.services[svIdx]? = some s) (hch : s.chars[chIdx]? = some ch) :
    ∃ s' ch', ble'.services[svIdx]? = some s' ∧ s'.chars[chIdx]? = some ch' ∧ s'.uuid = s.uuid ∧
      ch'.uuid = ch.uuid ∧ ch'.valueSize = ch.valueSize := by
  have hlayout : (ble'.services.map GattService.layout)[svIdx]? = some s.layout := by
    rw [hl.layout, List.getElem?_map, hs, Option.map_some]
  rw [List.getElem?_map] at hlayout
  obtain ⟨s', hs', hsame⟩ := Option.map_eq_some_iff.mp hlayout
  obtain ⟨huuid, hchars⟩ := Prod.mk.inj hsame
  have hchar : (s'.chars.map fun ch => (ch.uuid, ch.dbusPath, ch.valueSize))[chIdx]? =
      some (ch.uuid, ch.dbusPath, ch.valueSize) := by
    rw [hchars, List.getElem?_map, hch, Option.map_some]
  rw [List.getElem?_map] at hchar
  obtain ⟨ch', hch', hkey⟩ := Option.map_eq_some_iff.mp hchar
  obtain ⟨huuid', hrest⟩ := Prod.mk.inj hkey
  exact ⟨s', ch', hs', hch', huuid, huuid', (Prod.mk.inj hrest).2⟩

theorem Later.descriptor? (hl : Later c ble c' ble') {s : GattService} {ch : GattChar}
    (hs : ble.services[svIdx]? = some s) (hch : s.chars[chIdx]? = some ch) :
    ble'.descriptor? svIdx chIdx = ble.descriptor? svIdx chIdx := by
  obtain ⟨s', ch', hs', hch', huuid, huuid', -⟩ := hl.char hs hch
  rw [descriptor?_eq hs hch, descriptor?_eq hs' hch', huuid, huuid']

/-- the characteristics of a table have room for a value -/
def Buffered (services : List GattService) : Prop :=
  ∀ s ∈ services, ∀ ch ∈ s.chars, 0 < ch.valueSize

theorem mapUuidToDatatype_pos (uuid : String) : 0 < (mapUuidToDatatype uuid).2 := by
  unfold mapUuidToDatatype
  split
  · decide
  · split <;> decide

theorem deviceAddGattCharacteristic_buffered (hb : Buffered ble.services) (srvcUuid srvcDbusPath
    charUuid charDbusPath : String) (properties : Nat) :
    Buffered (deviceAddGattCharacteristic ble srvcUuid srvcDbusPath charUuid charDbusPath
      properties).services := by
  have hget : Buffered (getService ble.services srvcUuid).2 := by
    unfold getService
    split
    · exact hb
    · intro s hs ch hch
      rcases List.mem_append.mp hs with hs | hs
      · exact hb s hs ch hch
      · rw [List.mem_singleton.mp hs] at hch
        cases hch
  intro s hs ch hch
  obtain ⟨i, hi⟩ := List.mem_iff_getElem?.mp hs
  simp only [deviceAddGattCharacteristic, List.getElem?_modify] at hi
  obtain ⟨s₀, hs₀, hmod⟩ := Option.map_eq_some_iff.mp hi
  have hold := hget s₀ (List.mem_of_getElem? hs₀)
  split at hmod
  · subst hmod
    rcases List.mem_append.mp hch with hch | hch
    · exact hold ch hch
    · rw [List.mem_singleton.mp hch]
      exact mapUuidToDatatype_pos charUuid
  · subst hmod
    exact hold ch hch

theorem findTranslationContext_of_mem
    (hnodup : (ble.translations.map TranslationContext.path).Nodup)
    (hctx : ctx ∈ ble.translations) : bleServicesFindTranslationContext ble ctx.path = some ctx := by
  unfold bleServicesFindTranslationContext
  cases hfind : ble.translations.find? fun x => x.path = ctx.path with
  | none =>
    have hno := List.find?_eq_none.mp hfind ctx hctx
    simp at hno
  | some x =>
    have hpath : x.path = ctx.path := by simpa using List.find?_some hfind
    rw [List.inj_on_of_nodup_map hnodup (List.mem_of_find?_eq_some hfind) hctx hpath]

/-- what the write of a field sends -/
theorem deviceWriteCharacteristic_field (hf : c.faults = [])
    (hfind : bleServicesFindTranslationContext ble ctx.path = some ctx)
    (hobject : ctx.objectId ≠ ipsoOidBleService) (hflags : ctx.characteristicExtraFlags.toNat < 4)
    {charact : GattChar} (hchar : ble.char? ctx.svIdx ctx.chIdx = some charact)
    (hsize : 0 < charact.valueSize) {d : BleCharacteristic}
    (hd : ble.descriptor? ctx.svIdx ctx.chIdx = some d) (hencode : d.encode.isSome)
    (value : Bytes) (outcome : WriteOutcome) :
    (deviceWriteCharacteristic h c ble ctx.path value outcome).write =
      some (charact.dbusPath, [putField (charact.value.headD 0)
        ctx.characteristicExtraFlags.toNat (isOn h value)]) := by
  obtain ⟨e, he⟩ := Option.isSome_iff_exists.mp hencode
  have hroute : writeRoute h c ble ctx.path value = some ⟨ctx.svIdx, ctx.chIdx, charact,
      [putField (charact.value.headD 0) ctx.characteristicExtraFlags.toNat (isOn h value)]⟩ := by
    unfold writeRoute bleServicesEncodeCharacteristicValue
    rw [if_pos (show ctx.path.objectId ≠ ipsoOidBleService from hobject), hfind, Option.bind_some,
      hchar, Option.bind_some, hd, Option.bind_some, he]
    cases e
    cases hvalue : charact.value with
    | nil =>
      have hsized := charact.sized
      rw [hvalue] at hsized
      exact absurd hsized (by simp; omega)
    | cons b rest =>
      simp only [encode2bit_eq h hf hflags]
      rfl
  have hcases := deviceWriteCharacteristic_cases h c ble ctx.path value outcome
  rw [hroute] at hcases
  exact hcases.write

/-- a decoded characteristic sets what its contexts name -/
theorem decodeAndWrite_setOnce (hr : Ready c ble.deviceId)
    (hnodup : (ble.translations.map TranslationContext.path).Nodup)
    (hplain : ∀ ctx ∈ ble.translations, ctx.Plain)
    (hpaths : ∀ ctx ∈ ble.translations, c.HasPath ble.deviceId ctx.path)
    (hdescriptor : ∀ ctx ∈ ble.translations, (ble.descriptor? ctx.svIdx ctx.chIdx).isSome)
    (svIdx chIdx : Nat) (value : Bytes) :
    ∃ calls, Sets calls c
        (bleServicesDecodeAndWriteCharacteristicTranslation h c ble svIdx chIdx value) ∧
      SetOnce ble svIdx chIdx calls
        (bleServicesDecodeAndWriteCharacteristicTranslation h c ble svIdx chIdx value) := by
  rw [decodeAndWrite_def]
  cases hd : ble.descriptor? svIdx chIdx with
  | none =>
    refine ⟨[], .refl c, fun ctx hctx hat => ?_, nofun, nofun⟩
    have hsome := hdescriptor ctx hctx
    rw [hat.1, hat.2, hd] at hsome
    cases hsome
  | some d =>
    have hdecodes : d.decode = .withFormatDescriptor → d.format ≠ .reserved1 ∧ d.exponent < 0 := by
      obtain ⟨s, -, hs⟩ := Option.bind_eq_some_iff.mp hd
      obtain ⟨ch, -, hch⟩ := Option.bind_eq_some_iff.mp hs
      exact descriptor_decodes hch
    obtain ⟨calls, hs, hmem, hone⟩ := @decodeContexts_sets h c ble d svIdx chIdx hdecodes value
      ble.translations hr hnodup hplain hpaths
    refine ⟨calls, hs, hone, fun ctx hctx hno s hs heq => ?_, fun s hs => ?_⟩
    · obtain ⟨-, x, hx, hat, hpath | hbound⟩ := hmem s hs
      · rw [List.inj_on_of_nodup_map hnodup hctx hx (heq.symm.trans hpath)] at hno
        exact hno hat
      · exact (hplain ctx hctx).ne_bound hbound heq
    · obtain ⟨hid, x, hx, hat, hwhich⟩ := hmem s hs
      exact ⟨hid, x, hx, hat.1, hat.2, hwhich⟩

/-- a construction before another leaves its resources to it -/
theorem Built.creates_unique {ks : List Construction} {es : List Entry} {device device' : BleDevice}
    (hb : Built h ks es c device c' device') {k k' : Construction} (hk : k ∈ ks) (hk' : k' ∈ ks)
    {p : Path} (hp : k.Creates h p) (hp' : k'.Creates h p) : k = k' := by
  have hid : k'.device.deviceId = k.device.deviceId :=
    (hb.between k' hk').1.trans (hb.between k hk).1.symm
  unfold Construction.Creates at hp'
  rw [hid] at hp'
  obtain ⟨i, hi, rfl⟩ := List.mem_iff_getElem.mp hk
  obtain ⟨j, hj, rfl⟩ := List.mem_iff_getElem.mp hk'
  have hordered := List.pairwise_iff_getElem.mp hb.ordered
  rcases Nat.lt_trichotomy i j with hlt | rfl | hlt
  · exact absurd ((hordered i j hi hj hlt).paths _ _ hp.2) hp'.1
  · rfl
  · have hgrows := hordered j i hj hi hlt
    exact absurd (hgrows.paths _ _ hp'.2) hp.1

/-! ### the routes of a table -/

/-- the contexts of a device are those of its table, each with a resource of its own -/
structure LaidOut (c : Client) (ble : BleDevice) : Prop where
  entries : ble.translations.map TranslationContext.entry = tableEntries ble.services 0
  distinct : (ble.translations.map TranslationContext.path).Nodup
  paths : ∀ ctx ∈ ble.translations, c.HasPath ble.deviceId ctx.path

theorem Made.laidOut (hm : Made (tableEntries ble.services 0) c ble c' ble')
    (hnone : ble.translations = []) : LaidOut c' ble' := by
  obtain ⟨ctxs, hble', hentries, hdistinct, hctxs⟩ := hm.contexts
  have htranslations : ble'.translations = ctxs := by
    have heq := congrArg BleDevice.translations hble'
    simp only [hnone, List.nil_append] at heq
    exact heq
  constructor
  · rw [htranslations, hm.services]
    exact hentries
  · rw [htranslations]
    exact hdistinct
  · rw [htranslations, hm.deviceId]
    exact fun ctx hctx => (hctxs ctx hctx).2

/-- the characteristic, the descriptor and the field of a context -/
theorem LaidOut.entry (hl : LaidOut c ble) (hctx : ctx ∈ ble.translations) :
    ∃ s ch d, ble.services[ctx.svIdx]? = some s ∧ s.chars[ctx.chIdx]? = some ch ∧
      bleServicesGetCharacteristicDescriptorByUuids s.uuid ch.uuid = some d ∧
      ctx.entry.field ∈ d.construct.fields ch.properties := by
  have hmem : ctx.entry ∈ tableEntries ble.services 0 := by
    rw [← hl.entries]
    exact List.mem_map_of_mem hctx
  exact mem_tableEntries.mp hmem

theorem LaidOut.plain (hl : LaidOut c ble) (hctx : ctx ∈ ble.translations) : ctx.Plain := by
  obtain ⟨s, ch, d, -, -, -, hf⟩ := hl.entry hctx
  exact (field_plain hf).2.1

theorem LaidOut.inside (hl : LaidOut c ble) (hctx : ctx ∈ ble.translations) :
    (ble.char? ctx.svIdx ctx.chIdx).isSome := by
  obtain ⟨s, ch, d, hs, hch, -⟩ := hl.entry hctx
  rw [BleDevice.char?_eq_some.mpr ⟨s, hs, hch⟩]
  rfl

/-- a resource is written to the characteristic of its context -/
theorem LaidOut.write (hl : LaidOut c ble) (hbuffered : Buffered ble.services)
    (hlater : Later c ble c' ble') (hctx : ctx ∈ ble.translations)
    (hencode : ((ble.descriptor? ctx.svIdx ctx.chIdx).bind (·.encode)).isSome) :
    ∃ charact, ble'.char? ctx.svIdx ctx.chIdx = some charact ∧ ∀ value outcome,
      (deviceWriteCharacteristic h c' ble' ctx.path value outcome).write =
        some (charact.dbusPath, [putField (charact.value.headD 0)
          ctx.characteristicExtraFlags.toNat (isOn h value)]) := by
  obtain ⟨s, ch, d, hs, hch, hd, hf⟩ := hl.entry hctx
  obtain ⟨hobject, -, hflags⟩ := field_plain hf
  obtain ⟨s', ch', hs', hch', -, -, hsize⟩ := hlater.char hs hch
  have hchar : ble'.char? ctx.svIdx ctx.chIdx = some ch' :=
    BleDevice.char?_eq_some.mpr ⟨s', hs', hch'⟩
  have hdesc : ble'.descriptor? ctx.svIdx ctx.chIdx = some d := by
    rw [hlater.descriptor? hs hch, descriptor?_eq hs hch, hd]
  rw [descriptor?_eq hs hch, hd, Option.bind_some] at hencode
  have hpos : 0 < ch'.valueSize := by
    rw [hsize]
    exact hbuffered s (List.mem_of_getElem? hs) ch (List.mem_of_getElem? hch)
  have hfind : bleServicesFindTranslationContext ble' ctx.path = some ctx := by
    apply findTranslationContext_of_mem
    · rw [hlater.translations]
      exact hl.distinct
    · rw [hlater.translations]
      exact hctx
  exact ⟨ch', hchar, fun value outcome => deviceWriteCharacteristic_field hlater.ready.1 hfind
    hobject hflags hchar hpos hdesc hencode value outcome⟩

/-- a decoded characteristic sets the resources of its contexts -/
theorem LaidOut.decode (hl : LaidOut c ble) (hlater : Later c ble c' ble') (svIdx chIdx : Nat)
    (value : Bytes) :
    ∃ calls, Sets calls c'
        (bleServicesDecodeAndWriteCharacteristicTranslation h c' ble' svIdx chIdx value) ∧
      SetOnce ble' svIdx chIdx calls
        (bleServicesDecodeAndWriteCharacteristicTranslation h c' ble' svIdx chIdx value) := by
  refine decodeAndWrite_setOnce ?_ ?_ ?_ ?_ ?_ svIdx chIdx value
  · rw [hlater.deviceId]
    exact hlater.ready
  · rw [hlater.translations]
    exact hl.distinct
  · rw [hlater.translations]
    exact fun ctx hctx => hl.plain hctx
  · rw [hlater.translations, hlater.deviceId]
    exact fun ctx hctx => hlater.paths _ (hl.paths ctx hctx)
  · rw [hlater.translations]
    intro ctx hctx
    obtain ⟨s, ch, d, hs, hch, hd, -⟩ := hl.entry hctx
    rw [hlater.descriptor? hs hch, descriptor?_eq hs hch, hd]
    rfl

theorem LaidOut.exact (hl : LaidOut c ble) (svIdx chIdx : Nat) :
    (∃ ctx ∈ ble.translations, ctx.svIdx = svIdx ∧ ctx.chIdx = chIdx) ↔
      Translatable ble.services svIdx chIdx := by
  constructor
  · rintro ⟨ctx, hctx, rfl, rfl⟩
    obtain ⟨s, ch, d, hs, hch, hd, hf⟩ := hl.entry hctx
    exact ⟨s, ch, d, hs, hch, hd, fields_ne_nil.mp (List.ne_nil_of_mem hf)⟩
  · rintro ⟨s, ch, d, hs, hch, hd, hmade⟩
    obtain ⟨f, hf⟩ := List.exists_mem_of_ne_nil _ (fields_ne_nil.mpr hmade)
    have hmem : (⟨svIdx, chIdx, f⟩ : Entry) ∈ tableEntries ble.services 0 :=
      mem_tableEntries.mpr ⟨s, ch, d, hs, hch, hd, hf⟩
    rw [← hl.entries] at hmem
    obtain ⟨ctx, hctx, hentry⟩ := List.mem_map.mp hmem
    exact ⟨ctx, hctx, congrArg Entry.svIdx hentry, congrArg Entry.chIdx hentry⟩

/-- one call made the resource of a context, with the characteristic of the context -/
theorem Built.origin_unique {ks : List Construction} {es : List Entry}
    (hb : Built h ks es c ble c' ble') (hnone : ble.translations = [])
    (hctx : ctx ∈ ble'.translations) : (∃ k ∈ ks, k.Creates h ctx.path) ∧
      ∀ k ∈ ks, k.Creates h ctx.path → k.svIdx = ctx.svIdx ∧ k.chIdx = ctx.chIdx := by
  rcases hb.origin ctx hctx with hold | ⟨k, hk, hsv, hch, hcreates⟩
  · rw [hnone] at hold
    cases hold
  · refine ⟨⟨k, hk, hcreates⟩, fun k' hk' hcreates' => ?_⟩
    rw [hb.creates_unique hk' hk hcreates' hcreates]
    exact ⟨hsv, hch⟩

/-- **Every table gets its routes, if no PT call fails.** -/
theorem translations_routed (hfree : h.FindsFree) (hbuffered : Buffered ble.services)
    (hnone : ble.translations = []) (hr : Ready c ble.deviceId)
    (hok : ∀ k ∈ constructions h dis ble.services 0 (ble, c), k.Succeeds h) :
    Routed h (constructions h dis ble.services 0 (ble, c))
      (deviceAddKnownTranslationsFromGatt h dis c ble).2
      (deviceAddKnownTranslationsFromGatt h dis c ble).1 := by
  have hb := addKnownTranslations_built hfree dis ble.services 0 (ble, c) hr rfl hok
  unfold deviceAddKnownTranslationsFromGatt
  generalize constructions h dis ble.services 0 (ble, c) = ks at hb ⊢
  generalize addKnownTranslations h dis ble.services 0 (ble, c) = r at hb ⊢
  obtain ⟨ble₁, c₁⟩ := r
  have hl : LaidOut c₁ ble₁ := hb.made.laidOut hnone
  have hservices : ble₁.services = ble.services := hb.made.services
  have hbuffered₁ : Buffered ble₁.services := by
    rw [hservices]
    exact hbuffered
  constructor
  · exact fun ctx hctx => hl.inside hctx
  · exact hl.distinct
  · exact fun ctx hctx => hb.origin_unique hnone hctx
  · exact fun c' ble' hlater ctx hctx hencode => hl.write hbuffered₁ hlater hctx hencode
  · exact fun c' ble' hlater svIdx chIdx value => hl.decode hlater svIdx chIdx value
  · exact hl.exact

end

/-- a device with a thermometer and a digital characteristic -/
def sensingDevice (properties : Nat) : BleDevice :=
  deviceAddGattCharacteristic
    (deviceAddGattCharacteristic
      { deviceCreate 1 0 "00:11:22:33:44:55" with deviceId := "BLE-00:11:22:33:44:55-0" }
      "0000181a-0000-1000-8000-00805f9b34fb" "/service0001"
      "00002a6e-0000-1000-8000-00805f9b34fb" "/service0001/char0002" bleGattPropPermRead)
    "00001815-0000-1000-8000-00805f9b34fb" "/service0003"
    "00002a56-0000-1000-8000-00805f9b34fb" "/service0003/char0004" properties

theorem sensingDevice_buffered (properties : Nat) : Buffered (sensingDevice properties).services :=
  deviceAddGattCharacteristic_buffered
    (deviceAddGattCharacteristic_buffered (fun _ hs => by cases hs) _ _ _ _ _) _ _ _ _ _

/-- a client that has the device without resources -/
def sensingClient : Client := emptyClient.setResources "BLE-00:11:22:33:44:55-0" ∅

def noDisReads : DisReads := ⟨fun _ => [], fun _ _ => .failed 1⟩

theorem translations_routed_sensing :
    Routed plainHost
      (constructions plainHost noDisReads (sensingDevice bleGattPropPermWrite).services 0
        (sensingDevice bleGattPropPermWrite, sensingClient))
      (deviceAddKnownTranslationsFromGatt plainHost noDisReads sensingClient
        (sensingDevice bleGattPropPermWrite)).2
      (deviceAddKnownTranslationsFromGatt plainHost noDisReads sensingClient
        (sensingDevice bleGattPropPermWrite)).1 :=
  translations_routed plainHost_findsFree (sensingDevice_buffered _) rfl ⟨rfl, by decide +kernel⟩
    (by decide +kernel)

/-- the digital characteristic is in the table, but it can only notify and gets no instances; and
the thermometer sets a minimum and a maximum besides its value -/
theorem not_routed_exactly :
    (∀ k ∈ constructions plainHost noDisReads (sensingDevice bleGattPropPermNotify).services 0
        (sensingDevice bleGattPropPermNotify, sensingClient), k.Succeeds plainHost) ∧
      let r := deviceAddKnownTranslationsFromGatt plainHost noDisReads sensingClient
        (sensingDevice bleGattPropPermNotify)
      ¬(∀ svIdx chIdx, (∃ ctx ∈ r.1.translations, ctx.svIdx = svIdx ∧ ctx.chIdx = chIdx) ↔
          (r.1.descriptor? svIdx chIdx).isSome) ∧
        ¬(∀ svIdx chIdx value p,
          p ∈ (bleServicesDecodeAndWriteCharacteristicTranslation plainHost r.2 r.1 svIdx chIdx
              value).setCalls.map (·.2.1) ↔
            ∃ ctx ∈ r.1.translations, ctx.svIdx = svIdx ∧ ctx.chIdx = chIdx ∧ p = ctx.path) := by
  -- one evaluation of the table serves all the facts
  have hfacts : (∀ k ∈ constructions plainHost noDisReads (sensingDevice bleGattPropPermNotify).services
        0 (sensingDevice bleGattPropPermNotify, sensingClient), k.Succeeds plainHost) ∧
      let r := deviceAddKnownTranslationsFromGatt plainHost noDisReads sensingClient
        (sensingDevice bleGattPropPermNotify)
      let minimum : Path := ⟨temperatureSensor, 0, minMeasuredValue⟩
      ((r.1.descriptor? 1 0).isSome ∧ ¬∃ ctx ∈ r.1.translations, ctx.svIdx = 1 ∧ ctx.chIdx = 0) ∧
        minimum ∈ (bleServicesDecodeAndWriteCharacteristicTranslation plainHost r.2 r.1 0 0
            []).setCalls.map (·.2.1) ∧
          ¬∃ ctx ∈ r.1.translations, ctx.svIdx = 0 ∧ ctx.chIdx = 0 ∧ minimum = ctx.path := by
    decide +kernel
  obtain ⟨hsucceed, ⟨hdigital, hnone⟩, hset, hother⟩ := hfacts
  refine ⟨hsucceed, fun h => ?_, fun h => ?_⟩
  · exact hnone ((h 1 0).mpr hdigital)
  · exact hother ((h 0 0 [] _).mp hset)

end EdgeTranslators.Ble
