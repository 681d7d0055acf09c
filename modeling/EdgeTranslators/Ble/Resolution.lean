import EdgeTranslators.Ble.Translator

/-!
# Resolving the services of a device

`ble_on_services_resolved` discovers the characteristics of a device and creates its resources.

* `BleDevice.paths`            the resources a device is to be registered with;
* `Discovered`                 a GATT table only grows;
* `resolveServices_spec`       what a resolution does to the context and to the PT client.
-/

namespace EdgeTranslators.Ble
open Lib Pt

/-- the resources of the characteristics of a GATT table -/
def servicePaths (services : List GattService) : List Path :=
  services.zipIdx.flatMap fun (s, svc) => s.chars.map fun c => servicePath svc c.resourceId

/-- the resources of a device: the introspection resource, one for each characteristic and those
named by its translation contexts -/
def BleDevice.paths (ble : BleDevice) : List Path :=
  introspectPath :: (servicePaths ble.services ++ ble.translations.map TranslationContext.path)

/-! ## the table grows -/

/-- `ble'` is `ble` with a table that has every characteristic of its table -/
structure Discovered (ble ble' : BleDevice) : Prop where
  fields : ∃ services, ble' = { ble with services }
  char : ∀ i j, (ble.char? i j).isSome → (ble'.char? i j).isSome

section
variable {ble ble' ble'' : BleDevice}

theorem Discovered.refl (ble : BleDevice) : Discovered ble ble := ⟨⟨_, rfl⟩, fun _ _ h => h⟩

theorem Discovered.trans (h : Discovered ble ble') (h' : Discovered ble' ble'') :
    Discovered ble ble'' := by
  obtain ⟨services, rfl⟩ := h.fields
  obtain ⟨services', rfl⟩ := h'.fields
  exact ⟨⟨services', rfl⟩, fun i j hc => h'.char i j (h.char i j hc)⟩

end

theorem getService_getElem? {services : List GattService} (uuid : String) {i : Nat}
    {s : GattService} (h : services[i]? = some s) : (getService services uuid).2[i]? = some s := by
  unfold getService
  split
  · exact h
  · exact List.getElem?_append_left (List.getElem?_eq_some_iff.mp h).1 ▸ h

theorem deviceAddGattCharacteristic_discovered (ble : BleDevice) (srvcUuid srvcDbusPath charUuid
    charDbusPath : String) (properties : Nat) :
    Discovered ble
      (deviceAddGattCharacteristic ble srvcUuid srvcDbusPath charUuid charDbusPath properties) := by
  refine ⟨⟨_, rfl⟩, fun i j hc => ?_⟩
  obtain ⟨c, hc⟩ := Option.isSome_iff_exists.mp hc
  obtain ⟨s, hs, hj⟩ := BleDevice.char?_eq_some.mp hc
  have hs' := getService_getElem? srvcUuid hs
  have hlt : j < s.chars.length := (List.getElem?_eq_some_iff.mp hj).1
  simp only [BleDevice.char?, deviceAddGattCharacteristic, List.getElem?_modify, hs',
    Option.map_eq_map, Option.map_some, Option.bind_some]
  split
  · simp only [addCharToService]
    rw [List.getElem?_append_left hlt, hj]
    rfl
  · rw [hj]
    rfl

theorem bleDiscoverCharacteristics_discovered (ans : Answers) (ble : BleDevice) :
    Discovered ble (bleDiscoverCharacteristics ans ble) := by
  unfold bleDiscoverCharacteristics
  generalize ans.found ble.addr = found
  induction found generalizing ble with
  | nil => exact .refl ble
  | cons f found ih => exact (deviceAddGattCharacteristic_discovered ..).trans (ih _)

/-! ## the resources -/

theorem addServiceResource_grows (id : String) (svc : Nat) (c : Client) (chars : List GattChar) :
    Grows c (chars.foldl (addServiceResource id svc) c) := by
  induction chars generalizing c with
  | nil => exact .refl c
  | cons ch chars ih => exact (edgeAddResource_grows ..).trans (ih _)

theorem addServiceResource_hasPath (id : String) (svc : Nat) {c : Client} (h : Ready c id)
    (chars : List GattChar) :
    ∀ ch ∈ chars,
      (chars.foldl (addServiceResource id svc) c).HasPath id (servicePath svc ch.resourceId) := by
  induction chars generalizing c with
  | nil => nofun
  | cons ch chars ih =>
    have hg : Grows c (addServiceResource id svc c ch) := edgeAddResource_grows ..
    rintro ch' (_ | ⟨_, hmem⟩)
    · exact (addServiceResource_grows id svc _ chars).paths _ _ (edgeAddResource_hasPath _ _ _ _ h)
    · exact ih (hg.ready h) ch' hmem

/-- the loop over the services with their indices -/
def addServiceResources (id : String) (c : Client) (services : List (GattService × Nat)) : Client :=
  services.foldl (fun c (s, svc) => s.chars.foldl (addServiceResource id svc) c) c

theorem addServiceResources_grows (id : String) (c : Client)
    (services : List (GattService × Nat)) : Grows c (addServiceResources id c services) := by
  induction services generalizing c with
  | nil => exact .refl c
  | cons s services ih => exact (addServiceResource_grows id s.2 c s.1.chars).trans (ih _)

theorem addServiceResources_hasPath (id : String) {c : Client} (h : Ready c id)
    (services : List (GattService × Nat)) :
    ∀ s ∈ services, ∀ ch ∈ s.1.chars,
      (addServiceResources id c services).HasPath id (servicePath s.2 ch.resourceId) := by
  induction services generalizing c with
  | nil => nofun
  | cons s services ih =>
    have hg := addServiceResource_grows id s.2 c s.1.chars
    rintro s' (_ | ⟨_, hmem⟩) ch hch
    · exact (addServiceResources_grows id _ services).paths _ _
        (addServiceResource_hasPath id s.2 h s.1.chars ch hch)
    · exact ih (hg.ready h) s' hmem ch hch

theorem deviceAddResourcesFromGatt_def (c : Client) (ble : BleDevice) :
    deviceAddResourcesFromGatt c ble =
      match (addServiceResources ble.deviceId c ble.services.zipIdx).takeFault with
      | (true, c) => (ble, c)
      | (false, c) =>
        let json := jsonListDeviceServices ble.services
        ({ ble with jsonList := some json },
          (edgeAddResource c ble.deviceId introspectPath .string operationRead
            (cBytes json ++ [0])).2) := rfl

theorem deviceAddResourcesFromGatt_eq (c : Client) (ble : BleDevice) :
    ∃ json, (deviceAddResourcesFromGatt c ble).1 = { ble with jsonList := json } := by
  rw [deviceAddResourcesFromGatt_def]
  rcases (addServiceResources ble.deviceId c ble.services.zipIdx).takeFault with ⟨_ | _, c₁⟩
  · exact ⟨_, rfl⟩
  · exact ⟨ble.jsonList, rfl⟩

theorem deviceAddResourcesFromGatt_grows (c : Client) (ble : BleDevice) :
    Grows c (deviceAddResourcesFromGatt c ble).2 := by
  have hg := addServiceResources_grows ble.deviceId c ble.services.zipIdx
  have hf := takeFault_grows (addServiceResources ble.deviceId c ble.services.zipIdx)
  rw [deviceAddResourcesFromGatt_def]
  rcases h : (addServiceResources ble.deviceId c ble.services.zipIdx).takeFault with ⟨_ | _, c₁⟩ <;>
    rw [h] at hf
  · exact (hg.trans hf).trans (edgeAddResource_grows ..)
  · exact hg.trans hf

/-- when nothing fails, every characteristic has its resource, and the table its description -/
theorem deviceAddResourcesFromGatt_hasPath {c : Client} {ble : BleDevice}
    (hr : Ready c ble.deviceId) :
    ∀ p ∈ introspectPath :: servicePaths ble.services,
      (deviceAddResourcesFromGatt c ble).2.HasPath ble.deviceId p := by
  have hg := addServiceResources_grows ble.deviceId c ble.services.zipIdx
  have hpaths := addServiceResources_hasPath ble.deviceId hr ble.services.zipIdx
  have hr' := hg.ready hr
  rw [deviceAddResourcesFromGatt_def, takeFault_of_nil hr'.1]
  intro p hp
  rcases List.mem_cons.mp hp with rfl | hp
  · exact edgeAddResource_hasPath _ _ _ _ hr'
  · obtain ⟨s, hs, hmem⟩ := List.mem_flatMap.mp hp
    obtain ⟨ch, hch, rfl⟩ := List.mem_map.mp hmem
    exact (edgeAddResource_grows ..).paths _ _ (hpaths s hs ch hch)

theorem addCharacteristicTranslations_translated (h : Host) (svc : Nat) (s : GattService)
    (chars : List GattChar) (j : Nat) (dc : BleDevice × Client) :
    Translated (fun _ _ => True) dc.2 dc.1 (addCharacteristicTranslations h svc s chars j dc).2
      (addCharacteristicTranslations h svc s chars j dc).1 := by
  induction chars generalizing j dc with
  | nil => exact .of_grows (.refl dc.2)
  | cons ch chars ih =>
    unfold addCharacteristicTranslations
    split
    · exact ((constructCharacteristic_translated h dc.2 dc.1 svc j).mono fun _ _ _ => trivial).trans
        (ih (j + 1) _)
    · exact ih (j + 1) dc

theorem addKnownTranslations_translated (h : Host) (dis : DisReads) (services : List GattService)
    (svc : Nat) (dc : BleDevice × Client) :
    Translated (fun _ _ => True) dc.2 dc.1 (addKnownTranslations h dis services svc dc).2
      (addKnownTranslations h dis services svc dc).1 := by
  induction services generalizing svc dc with
  | nil => exact .of_grows (.refl dc.2)
  | cons s services ih =>
    unfold addKnownTranslations
    split
    · have hg := constructService_grows h dc.2 dc.1 svc dis.stack (dis.outcome svc)
      exact ((Translated.of_grows hg).trans
        (addCharacteristicTranslations_translated h svc s s.chars 0 (dc.1, _))).trans
          (ih (svc + 1) _)
    · exact ih (svc + 1) dc

/-! ## a resolution -/

/-- what `resolveServices` does to a context and to the PT client -/
structure Resolved (c : Client) (ble : BleDevice) (c' : Client) (ble' : BleDevice) : Prop where
  fields : ∃ services jsonList translations,
    ble' = { ble with services, jsonList, translations, servicesResolved := true }
  char : ∀ i j, (ble.char? i j).isSome → (ble'.char? i j).isSome
  grows : Grows c c'
  complete : Ready c ble.deviceId → ble.translations = [] →
    ∀ p ∈ ble'.paths, c'.HasPath ble.deviceId p

theorem resolveServices_def (cfg : Config) (ans : Answers) (t : Translator) (ble : BleDevice) :
    resolveServices cfg ans t ble =
      let r := deviceAddResourcesFromGatt t.client (bleDiscoverCharacteristics ans ble)
      let dc := addKnownTranslations cfg.host ans.dis r.1.services 0 r
      ({ dc.1 with servicesResolved := true }, dc.2) := rfl

/-- **A resolution leaves the rest of the context alone, and when nothing fails the resources of the
device exist after it.** -/
theorem resolveServices_spec (cfg : Config) (ans : Answers) (t : Translator) (ble : BleDevice) :
    Resolved t.client ble (resolveServices cfg ans t ble).2 (resolveServices cfg ans t ble).1 := by
  have hdisc := bleDiscoverCharacteristics_discovered ans ble
  rw [resolveServices_def]
  generalize bleDiscoverCharacteristics ans ble = ble₁ at hdisc ⊢
  have hg := deviceAddResourcesFromGatt_grows t.client ble₁
  have hpaths := @deviceAddResourcesFromGatt_hasPath t.client ble₁
  obtain ⟨json, hjson⟩ := deviceAddResourcesFromGatt_eq t.client ble₁
  generalize deviceAddResourcesFromGatt t.client ble₁ = r at hg hpaths hjson ⊢
  have htr := addKnownTranslations_translated cfg.host ans.dis r.1.services 0 r
  simp only
  generalize addKnownTranslations cfg.host ans.dis r.1.services 0 r = dc at htr ⊢
  obtain ⟨ble₂, c₂⟩ := r
  obtain ⟨ble₃, c₃⟩ := dc
  obtain ⟨ctxs, hble₃, hctxs⟩ := htr.contexts
  obtain ⟨services, hble₁⟩ := hdisc.fields
  simp only at hg hpaths hjson htr hble₃ hctxs
  subst hble₃ hjson hble₁
  refine ⟨⟨_, _, _, rfl⟩, hdisc.char, hg.trans htr.grows, fun hr hnone p hp => ?_⟩
  rcases List.mem_cons.mp hp with rfl | hp
  · exact htr.grows.paths _ _ (hpaths hr _ List.mem_cons_self)
  rcases List.mem_append.mp hp with hp | hp
  · exact htr.grows.paths _ _ (hpaths hr _ (List.mem_cons_of_mem _ hp))
  · obtain ⟨ctx, hctx, rfl⟩ := List.mem_map.mp hp
    have hctx' : ctx ∈ ctxs := by simpa [hnone] using hctx
    exact (hctxs ctx hctx').2 (hg.ready hr)

end EdgeTranslators.Ble
