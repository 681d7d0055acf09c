import EdgeTranslators.Lib.Ledger
import EdgeTranslators.Ble.Routing

/-!
# Contexts for sensors that were not created

`ble_services_construct_sensor` does not look at what became of the sensor object before it records
the translation context of its value.

* `AllCreated`                 the contexts of a device are for resources that exist, one for each;
* `makesValue`, `recordsContext`   the outcomes of a sensor's construction, from the allocations
                               and calls that fail;
* `Construction.trial?`        a construction as an attempt to make and to record a value;
* `allCreated_of_made`         in particular where every sensor's value is made;
* `translations_created_iff`   all contexts are created exactly when each orphan is set right by a
                               later construction.
-/

namespace EdgeTranslators.Ble
open Lib Pt

/-- every context names a resource of the device, and no two name the same -/
structure AllCreated (c : Client) (device : BleDevice) : Prop where
  created : ∀ ctx ∈ device.translations, c.HasPath device.deviceId ctx.path
  distinct : (device.translations.map TranslationContext.path).Nodup

/-! ## the outcomes of a construction -/

/-- the value of a sensor is made from here on: there is memory for it, and the call that adds its
resource does well -/
def makesValue (c : Client) : Bool := !c.fault 0 && !c.fault 1

/-- the allocations and calls of `ipso_create_sensor_object`; each string is copied first -/
def sensorDraws (c : Client) : Nat := if c.fault 0 then 1 else 6

/-- those of `ipso_add_min_max_fields` from the `n`-th on -/
def minMaxDraws (c : Client) (n : Nat) : Nat :=
  if c.fault n then 1 else if c.fault (n + 1) then 2 else 5

/-- there is memory for the context, which is asked for after all of them -/
def recordsContext (c : Client) : Bool :=
  !c.fault (sensorDraws c + minMaxDraws c (sensorDraws c))

/-- the attempt of `ble_services_construct_sensor`, if it finds an instance -/
def sensorTrial (h : Host) (c : Client) (id : String) (sensorId : UInt16) : Option (Trial Path) :=
  match deviceGetNextFreeObjectInstanceId h.nextFreeInstance c id sensorId with
  | (inst, c) =>
    if inst < 0 ∨ inst > 65535 then none
    else some ⟨⟨sensorId, UInt16.ofNat inst.toNat, sensorValue⟩, makesValue c, recordsContext c⟩

/-- the object of a constructor that looks at no outcome -/
def CharacteristicConstruct.sensor? : CharacteristicConstruct → Option UInt16
  | .temperature => some temperatureSensor
  | .humidity => some humiditySensor
  | .barometer => some barometerSensor
  | .automationIo => none

def Construction.trial? (h : Host) (k : Construction) : Option (Trial Path) :=
  ((k.device.descriptor? k.svIdx k.chIdx).bind (·.construct.sensor?)).bind
    (sensorTrial h k.client k.device.deviceId)

/-- `ptdo_initialize_device_object` makes resources of the device object -/
def Host.MakesDeviceObject (h : Host) : Prop :=
  ∀ data, ∀ pr ∈ h.deviceObject data, pr.1.objectId = 3

/-- the value of one of the sensors -/
def IsSensorValue (p : Path) : Prop :=
  p.resourceId = sensorValue ∧
    (p.objectId = temperatureSensor ∨ p.objectId = humiditySensor ∨ p.objectId = barometerSensor)

instance : DecidablePred IsSensorValue := fun p => by
  unfold IsSensorValue
  infer_instance

/-- the resources of a device and the paths of its contexts -/
def ledger (c : Client) (device : BleDevice) : Ledger Path :=
  ⟨{p | c.HasPath device.deviceId p}, device.translations.map TranslationContext.path⟩

theorem allCreated_iff {c : Client} {device : BleDevice} :
    AllCreated c device ↔ (ledger c device).Sound := by
  constructor
  · intro hall
    refine ⟨fun p hp => ?_, hall.distinct⟩
    obtain ⟨ctx, hctx, rfl⟩ := List.mem_map.mp hp
    exact hall.created ctx hctx
  · intro hs
    exact ⟨fun ctx hctx => hs.made _ (List.mem_map_of_mem hctx), hs.distinct⟩

/-! ## what the calls make -/

section
variable {c c' c'' : Client} {id : String}

theorem deviceExists_of_grows (hg : Grows c c') (hex : deviceExists c id = true) :
    deviceExists c' id = true := by
  rw [deviceExists_iff] at hex ⊢
  rw [hg.connection, hg.devices]
  exact hex

/-- a resource is there after a call that adds one if it was there or is the one added -/
theorem deviceAddResource_hasPath_iff (c : Client) (id : String) (p : Path) (r : Resource)
    (q : Path) :
    (deviceAddResource c id p r).2.HasPath id q ↔
      c.HasPath id q ∨ (q = p ∧ (deviceAddResource c id p r).1 = .success) := by
  rcases deviceAddResource_cases c id p r with ⟨-, rs, hrs, heq⟩ | ⟨-, st, hst, heq⟩ <;> rw [heq]
  · have hlookup := (find_eq_some hrs).2
    constructor
    · rintro ⟨rs', hrs', hq⟩
      have hrs' : (c.devices.insert id (rs.insert p r)).lookup id = some rs' := hrs'
      rw [AList.lookup_insert] at hrs'
      rw [← Option.some.inj hrs', AList.mem_insert] at hq
      rcases hq with hq | hq
      · exact .inr ⟨hq, rfl⟩
      · exact .inl ⟨rs, hlookup, hq⟩
    · intro hq
      refine ⟨rs.insert p r, AList.lookup_insert _, (AList.mem_insert rs).mpr ?_⟩
      rcases hq with ⟨rs', hrs', hq⟩ | ⟨hq, -⟩
      · rw [hlookup] at hrs'
        rw [Option.some.inj hrs']
        exact .inr hq
      · exact .inl hq
  · exact ⟨.inl, fun h => h.resolve_right fun hno => hst hno.2⟩

/-- the call succeeds when nothing fails and the resource is new -/
theorem deviceAddResource_success (hex : deviceExists c id = true) {p : Path} (r : Resource)
    (hnew : ¬c.HasPath id p) :
    (deviceAddResource c id p r).1 = .success ↔ c.fault 0 = false := by
  obtain ⟨rs, hrs⟩ := Option.isSome_iff_exists.mp hex
  have hexists : deviceResourceExists c id p = false := by
    rw [resourceExists_of_find hrs]
    exact decide_eq_false fun hmem => hnew ⟨rs, (find_eq_some hrs).2, hmem⟩
  have hadds : Client.api.adds c id p
      = (!c.fault 0 && (deviceExists c id && !deviceResourceExists c id p)) := rfl
  refine (Client.api_lawful.add_success c id p r).trans ?_
  rw [hadds, hex, hexists, Bool.not_false, Bool.true_and, Bool.and_true, Bool.not_eq_true']

theorem afterFault_fault_add (c : Client) (i : Nat) : c.afterFault.fault i = c.fault (1 + i) := by
  rw [afterFault_fault, Nat.add_comm]

theorem deviceAddResource_fault (c : Client) (id : String) (p : Path) (r : Resource) (i : Nat) :
    (deviceAddResource c id p r).2.fault i = c.fault (1 + i) := by
  rw [Nat.add_comm]
  exact (Client.api_lawful.add_passes c id p r).fault i

/-- the client has grown by `n` allocations and calls, and of the values of sensors by those in
`new` -/
structure Takes (id : String) (n : Nat) (new : Path → Prop) (c c' : Client) : Prop where
  grows : Grows c c'
  faults : ∀ i, c'.fault i = c.fault (n + i)
  values : ∀ q, IsSensorValue q → (c'.HasPath id q ↔ c.HasPath id q ∨ new q)

theorem Takes.trans {n n' : Nat} {new new' : Path → Prop} (ht : Takes id n new c c')
    (ht' : Takes id n' new' c' c'') :
    Takes id (n + n') (fun q => new q ∨ new' q) c c'' := by
  refine ⟨ht.grows.trans ht'.grows, fun i => ?_, fun q hq => ?_⟩
  · rw [ht'.faults, ht.faults, Nat.add_assoc]
  · rw [ht'.values q hq, ht.values q hq, or_assoc]

theorem Takes.congr {n n' : Nat} {new new' : Path → Prop} (ht : Takes id n new c c') (hn : n = n')
    (hnew : ∀ q, new q ↔ new' q) : Takes id n' new' c c' := by
  refine ⟨ht.grows, hn ▸ ht.faults, fun q hq => ?_⟩
  rw [ht.values q hq, hnew q]

theorem afterFault_takes (c : Client) (id : String) : Takes id 1 (fun _ => False) c c.afterFault :=
  ⟨afterFault_grows c, afterFault_fault_add c, fun _ _ => (or_false _).symm.to_iff⟩

/-- adding the value of a sensor -/
theorem ipsoAddResource_takes_value {p : Path} (hex : deviceExists c id = true)
    (hnew : ¬c.HasPath id p) (type : Lwm2mResourceType) (operations : UInt8) (value : Bytes) :
    Takes id 1 (fun q => q = p ∧ c.fault 0 = false) c
      (ipsoAddResource c id p type operations value) := by
  refine ⟨deviceAddResource_grows .., deviceAddResource_fault c id p _, fun q _ => ?_⟩
  unfold ipsoAddResource
  rw [deviceAddResource_hasPath_iff, deviceAddResource_success hex _ hnew]

/-- adding any other resource -/
theorem ipsoAddResource_takes {p : Path} (hp : ¬IsSensorValue p) (type : Lwm2mResourceType)
    (operations : UInt8) (value : Bytes) :
    Takes id 1 (fun _ => False) c (ipsoAddResource c id p type operations value) := by
  refine ⟨deviceAddResource_grows .., deviceAddResource_fault c id p _, fun q hq => ?_⟩
  unfold ipsoAddResource
  rw [deviceAddResource_hasPath_iff]
  constructor
  · rintro (hold | ⟨rfl, -⟩)
    · exact .inl hold
    · exact absurd hq hp
  · rintro (hold | hno)
    · exact .inl hold
    · exact hno.elim

/-- adding a copy of a string -/
theorem ipsoAddString_takes {p : Path} (hp : ¬IsSensorValue p) (text : String) :
    Takes id 2 (fun _ => False) c
      (ipsoAddResource (strdup c text).2 id p .string operationRead (strdup c text).1) := by
  rw [strdup_eq]
  refine ((afterFault_takes c id).trans (ipsoAddResource_takes hp ..)).congr rfl fun q => ?_
  rw [or_false]

theorem not_isSensorValue {p : Path} (hp : p.resourceId ≠ sensorValue) : ¬IsSensorValue p :=
  fun h => hp h.1

/-- the value is there exactly when its memory and its call were -/
theorem ipsoCreateSensorObject_takes (o : ByteOrder) (hex : deviceExists c id = true)
    {sensorId inst : UInt16} (hnew : ¬c.HasPath id ⟨sensorId, inst, sensorValue⟩)
    (units type : String) :
    Takes id (sensorDraws c) (fun q => q = ⟨sensorId, inst, sensorValue⟩ ∧ makesValue c = true) c
      (ipsoCreateSensorObject o c id sensorId inst units type) := by
  have h0 := afterFault_takes c id
  unfold ipsoCreateSensorObject ipsoCreateSensorObjectWith sensorDraws makesValue
  rw [takeFault_eq]
  cases hmem : c.fault 0 with
  | true =>
    refine h0.congr rfl fun q => ?_
    exact iff_of_false (fun hno => hno) fun hq => Bool.false_ne_true hq.2
  | false =>
    have hcall : c.afterFault.fault 0 = c.fault 1 := afterFault_fault c 0
    have hvalue := ipsoAddResource_takes_value (c := c.afterFault)
      (deviceExists_of_grows h0.grows hex) hnew .float operationRead
      (convertFloatValueToNetworkByteOrder o 0)
    rw [hcall] at hvalue
    refine ((h0.trans hvalue).trans
      ((ipsoAddString_takes (not_isSensorValue ?_) units).trans
        (ipsoAddString_takes (not_isSensorValue ?_) type))).congr rfl fun q => ?_
    · exact (by decide : sensorUnits ≠ sensorValue)
    · exact (by decide : sensorType ≠ sensorValue)
    · rw [false_or, or_false, or_false, Bool.not_false, Bool.true_and, Bool.not_eq_true']

/-- the minimum and the maximum are no values of sensors -/
theorem ipsoAddMinMaxFields_takes (o : ByteOrder) (c : Client) (id : String)
    (objectId inst : UInt16) :
    Takes id (minMaxDraws c 0) (fun _ => False) c (ipsoAddMinMaxFields o c id objectId inst) := by
  have h0 := afterFault_takes c id
  unfold ipsoAddMinMaxFields minMaxDraws
  rw [takeFault_eq]
  cases c.fault 0 with
  | true => exact h0
  | false =>
    have h1 := h0.trans (afterFault_takes c.afterFault id)
    have hsecond : c.afterFault.fault 0 = c.fault (0 + 1) := afterFault_fault c 0
    simp only
    rw [takeFault_eq, hsecond]
    cases c.fault (0 + 1) with
    | true => exact h1.congr rfl fun q => or_false _ ▸ Iff.rfl
    | false =>
      refine (h1.trans ((ipsoAddResource_takes (not_isSensorValue ?_) ..).trans
        ((ipsoAddResource_takes (not_isSensorValue ?_) ..).trans
          (ipsoAddResource_takes (not_isSensorValue ?_) ..)))).congr rfl fun q => ?_
      · exact (by decide : minMeasuredValue ≠ sensorValue)
      · exact (by decide : maxMeasuredValue ≠ sensorValue)
      · exact (by decide : resetMinMaxMeasuredValues ≠ sensorValue)
      · simp only [or_false]

theorem minMaxDraws_eq {n : Nat} (hfaults : ∀ i, c'.fault i = c.fault (n + i)) :
    minMaxDraws c' 0 = minMaxDraws c n := by
  unfold minMaxDraws
  rw [hfaults, hfaults]
  rfl

/-- the instance that is found has no resources -/
theorem nextFree_cases {h : Host} (hfree : h.FindsFree) (c : Client) (id : String)
    (objectId : UInt16) :
    ∃ inst,
      deviceGetNextFreeObjectInstanceId h.nextFreeInstance c id objectId = (inst, c.afterFault) ∧
      (0 ≤ inst → inst ≤ 65535 → deviceExists c id = true ∧
        ∀ resourceId, ¬c.HasPath id ⟨objectId, UInt16.ofNat inst.toNat, resourceId⟩) := by
  unfold deviceGetNextFreeObjectInstanceId
  rw [takeFault_eq]
  cases c.fault 0 with
  | true => exact ⟨-1, rfl, fun hle => absurd hle (by decide)⟩
  | false =>
    simp only
    have hfind : c.afterFault.find id = c.find id := rfl
    rw [hfind]
    cases hrs : c.find id with
    | none => exact ⟨-1, rfl, fun hle => absurd hle (by decide)⟩
    | some rs =>
      refine ⟨_, rfl, fun hle hlt => ⟨?_, not_hasPath_of_unused hrs (by omega) ?_⟩⟩
      · unfold deviceExists
        rw [hrs]
        rfl
      · exact hfree rs objectId hle hlt

end

/-! ## what the constructors attempt -/

section
variable {h : Host} {c : Client} {device : BleDevice} {svIdx chIdx : Nat}

theorem configureTranslationContext_eq (c : Client) (device : BleDevice) (svIdx chIdx : Nat)
    (p : Path) (flags : UInt32) :
    ledger (bleServicesConfigureTranslationContext c device svIdx chIdx p flags).2
        (bleServicesConfigureTranslationContext c device svIdx chIdx p flags).1 =
      ⟨(ledger c device).made,
        if (!c.fault 0) = true then (ledger c device).record ++ [p]
        else (ledger c device).record⟩ := by
  unfold bleServicesConfigureTranslationContext
  rw [takeFault_eq]
  cases c.fault 0 with
  | true => rfl
  | false =>
    unfold ledger
    simp only
    rw [List.map_append]
    rfl

/-- a call that records nothing and makes no value of a sensor -/
theorem Takes.run {n : Nat} {c' : Client}
    (ht : Takes device.deviceId n (fun _ => False) c c') :
    Ledger.Run IsSensorValue (ledger c device) [] (ledger c' device) :=
  .of_grows rfl (fun p hp => ht.grows.paths _ p hp)
    fun p hP hp => ((ht.values p hP).mp hp).resolve_right id

theorem constructSensor_run (hfree : h.FindsFree) {sensorId : UInt16}
    (hsensor : ∀ inst, IsSensorValue ⟨sensorId, inst, sensorValue⟩) (units description : String) :
    Ledger.Run IsSensorValue (ledger c device) (sensorTrial h c device.deviceId sensorId).toList
      (ledger (bleServicesConstructSensor h c device svIdx chIdx sensorId units description).2.2
        (bleServicesConstructSensor h c device svIdx chIdx sensorId units description).2.1) := by
  obtain ⟨inst, hinst, hspec⟩ := nextFree_cases hfree c device.deviceId sensorId
  unfold sensorTrial bleServicesConstructSensor
  rw [hinst]
  simp only
  split
  · exact (afterFault_takes c _).run
  · obtain ⟨hex, hnew⟩ := hspec (by omega) (by omega)
    have hnew : ¬c.afterFault.HasPath device.deviceId
        ⟨sensorId, UInt16.ofNat inst.toNat, sensorValue⟩ := hnew sensorValue
    have hcreate := ipsoCreateSensorObject_takes h.byteOrder
      (deviceExists_of_grows (afterFault_grows c) hex) hnew units description
    have hminmax := ipsoAddMinMaxFields_takes h.byteOrder (ipsoCreateSensorObject h.byteOrder
      c.afterFault device.deviceId sensorId (UInt16.ofNat inst.toNat) units description)
      device.deviceId sensorId (UInt16.ofNat inst.toNat)
    rw [minMaxDraws_eq hcreate.faults] at hminmax
    have hboth := hcreate.trans hminmax
    generalize ipsoAddMinMaxFields h.byteOrder _ device.deviceId sensorId
      (UInt16.ofNat inst.toNat) = c' at hboth ⊢
    have hrecord : c'.fault 0 = c.afterFault.fault (sensorDraws c.afterFault +
        minMaxDraws c.afterFault (sensorDraws c.afterFault)) :=
      hboth.faults 0
    rw [configureTranslationContext_eq, hrecord]
    refine .single rfl (fun p hp => hboth.grows.paths _ p hp) ?_ ?_ ?_ hnew
    · exact fun hmade => (hboth.values _ (hsensor _)).mpr (.inr (.inl ⟨rfl, hmade⟩))
    · intro p hP hp
      rcases (hboth.values p hP).mp hp with hold | hmade | hno
      · exact .inl hold
      · exact .inr ⟨hmade.1.symm, hmade.2⟩
      · exact hno.elim
    · exact fun hno => absurd (hsensor _) hno

/-- of the attempts that lead from one state to the other, those at values of sensors are `ts` -/
def Tries (ts : List (Trial Path)) (c : Client) (device : BleDevice) (c' : Client)
    (device' : BleDevice) : Prop :=
  ∃ as, Ledger.Run IsSensorValue (ledger c device) as (ledger c' device') ∧
    (as.filter fun t => IsSensorValue t.item) = ts

variable {c' c'' : Client} {device' device'' : BleDevice} {ts ts' : List (Trial Path)}

theorem Tries.of_run (hr : Ledger.Run IsSensorValue (ledger c device) [] (ledger c' device')) :
    Tries [] c device c' device' := ⟨[], hr, rfl⟩

theorem Tries.refl (c : Client) (device : BleDevice) : Tries [] c device c device :=
  .of_run (.refl _ _)

theorem Tries.trans (ht : Tries ts c device c' device') (ht' : Tries ts' c' device' c'' device'') :
    Tries (ts ++ ts') c device c'' device'' := by
  obtain ⟨as, hr, rfl⟩ := ht
  obtain ⟨as', hr', rfl⟩ := ht'
  exact ⟨as ++ as', hr.trans hr', List.filter_append ..⟩

theorem Tries.after (ht : Tries [] c device c' device') (ht' : Tries ts c' device' c'' device'') :
    Tries ts c device c'' device'' := ht.trans ht'

/-- one attempt at a value of a sensor -/
theorem Tries.of_sensor {t : Option (Trial Path)} (hsensor : ∀ a ∈ t, IsSensorValue a.item)
    (hr : Ledger.Run IsSensorValue (ledger c device) t.toList (ledger c' device')) :
    Tries t.toList c device c' device' := by
  refine ⟨t.toList, hr, List.filter_eq_self.mpr fun a ha => decide_eq_true (hsensor a ?_)⟩
  exact Option.mem_toList.mp ha

/-- one attempt at another resource -/
theorem Tries.of_other {a : Trial Path} (hother : ¬IsSensorValue a.item)
    (hr : Ledger.Run IsSensorValue (ledger c device) [a] (ledger c' device')) :
    Tries [] c device c' device' := by
  refine ⟨[a], hr, ?_⟩
  rw [List.filter_cons, if_neg (by rwa [decide_eq_true_iff])]
  rfl

theorem edgeAddResource_hasPath_iff (c : Client) (id : String) (p : Path) (type : Lwm2mResourceType)
    (operations : UInt8) (value : Bytes) (q : Path) :
    (edgeAddResource c id p type operations value).2.HasPath id q ↔
      c.HasPath id q ∨ (q = p ∧ (edgeAddResource c id p type operations value).1 = true) := by
  unfold edgeAddResource
  rw [takeFault_eq]
  cases c.fault 0 with
  | true => exact ⟨.inl, fun hq => hq.resolve_right fun hno => Bool.false_ne_true hno.2⟩
  | false =>
    simp only [decide_eq_true_eq]
    exact deviceAddResource_hasPath_iff c.afterFault id p _ q

theorem constructDigital_tries (hfree : h.FindsFree) {objectId resourceId : UInt16}
    (hother : resourceId ≠ sensorValue) (operations : UInt8) (count bitfieldOffset : Nat) :
    Tries [] c device
      (bleServicesConstructDigital h objectId resourceId operations svIdx chIdx count
        bitfieldOffset device c).2.2
      (bleServicesConstructDigital h objectId resourceId operations svIdx chIdx count
        bitfieldOffset device c).2.1 := by
  induction count generalizing bitfieldOffset device c with
  | zero => exact .refl c device
  | succ count ih =>
    obtain ⟨inst, hinst, hspec⟩ := nextFree_cases hfree c device.deviceId objectId
    unfold bleServicesConstructDigital
    rw [hinst]
    simp only
    split
    · exact .of_run (afterFault_takes c _).run
    · have hnew : ¬c.afterFault.HasPath device.deviceId
          ⟨objectId, UInt16.ofNat inst.toNat, resourceId⟩ := (hspec (by omega) (by omega)).2 _
      have hg := (afterFault_grows c).trans (edgeAddResource_grows c.afterFault device.deviceId
        ⟨objectId, UInt16.ofNat inst.toNat, resourceId⟩ .boolean operations [0])
      have hpath := edgeAddResource_hasPath_iff c.afterFault device.deviceId
        ⟨objectId, UInt16.ofNat inst.toNat, resourceId⟩ .boolean operations [0]
      generalize edgeAddResource c.afterFault device.deviceId
        ⟨objectId, UInt16.ofNat inst.toNat, resourceId⟩ .boolean operations [0] = r at hg hpath ⊢
      obtain ⟨_ | _, c₁⟩ := r
      · refine .of_run (.of_grows rfl (fun p hp => hg.paths _ p hp) fun p _ hp => ?_)
        exact ((hpath p).mp hp).resolve_right fun hno => Bool.false_ne_true hno.2
      · refine Tries.after ?_ (ih (bitfieldOffset + 1))
        refine .of_other (a := ⟨⟨objectId, UInt16.ofNat inst.toNat, resourceId⟩, true,
          !c₁.fault 0⟩) (not_isSensorValue hother) ?_
        rw [configureTranslationContext_eq]
        refine .single rfl (fun p hp => hg.paths _ p hp) ?_ ?_ (fun _ => rfl) hnew
        · exact fun _ => (hpath _).mpr (.inr ⟨rfl, rfl⟩)
        · exact fun p _ hp => ((hpath p).mp hp).imp_right fun hmade => ⟨hmade.1.symm, rfl⟩

theorem constructAutomationIo_tries (hfree : h.FindsFree) :
    Tries [] c device
      (bleServicesConstructAutomationIoCharacteristic h c device svIdx chIdx).2.2
      (bleServicesConstructAutomationIoCharacteristic h c device svIdx chIdx).2.1 := by
  unfold bleServicesConstructAutomationIoCharacteristic
  cases device.char? svIdx chIdx with
  | none => exact .refl c device
  | some characteristic =>
    simp only
    split
    · exact constructDigital_tries hfree (by decide) _ 2 0
    · split
      · exact constructDigital_tries hfree (by decide) _ 2 0
      · exact .refl c device

theorem constructSensor_tries (hfree : h.FindsFree) {sensorId : UInt16}
    (hsensor : ∀ inst, IsSensorValue ⟨sensorId, inst, sensorValue⟩) (units description : String) :
    Tries (sensorTrial h c device.deviceId sensorId).toList c device
      (bleServicesConstructSensor h c device svIdx chIdx sensorId units description).2.2
      (bleServicesConstructSensor h c device svIdx chIdx sensorId units description).2.1 := by
  refine .of_sensor (fun a ha => ?_) (constructSensor_run hfree hsensor units description)
  unfold sensorTrial at ha
  simp only at ha
  split at ha
  · cases ha
  · rw [← Option.some.inj ha]
    exact hsensor _

theorem constructCharacteristic_tries (hfree : h.FindsFree) :
    Tries (Construction.trial? h ⟨svIdx, chIdx, device, c⟩).toList c device
      (bleServicesConstructCharacteristic h c device svIdx chIdx).2
      (bleServicesConstructCharacteristic h c device svIdx chIdx).1 := by
  unfold bleServicesConstructCharacteristic Construction.trial?
  simp only
  cases device.descriptor? svIdx chIdx with
  | none => exact .refl c device
  | some d =>
    simp only [Option.bind_some]
    cases d.construct with
    | temperature => exact constructSensor_tries hfree (fun _ => ⟨rfl, .inl rfl⟩) _ _
    | humidity => exact constructSensor_tries hfree (fun _ => ⟨rfl, .inr (.inl rfl)⟩) _ _
    | barometer => exact constructSensor_tries hfree (fun _ => ⟨rfl, .inr (.inr rfl)⟩) _ _
    | automationIo => exact constructAutomationIo_tries hfree

/-! ## the loops -/

/-- the attempts at values of sensors of a list of constructions -/
def trials (h : Host) (ks : List Construction) : List (Trial Path) :=
  ks.flatMap fun k => (k.trial? h).toList

theorem addCharacteristicTranslations_tries (hfree : h.FindsFree) (svc : Nat) (s : GattService)
    (chars : List GattChar) (j : Nat) (dc : BleDevice × Client) :
    Tries (trials h (characteristicConstructions h svc s chars j dc)) dc.2 dc.1
      (addCharacteristicTranslations h svc s chars j dc).2
      (addCharacteristicTranslations h svc s chars j dc).1 := by
  induction chars generalizing j dc with
  | nil => exact .refl dc.2 dc.1
  | cons ch chars ih =>
    unfold addCharacteristicTranslations characteristicConstructions
    split
    · exact (constructCharacteristic_tries hfree).trans (ih (j + 1) _)
    · exact ih (j + 1) dc

/-- the device object holds no values of sensors -/
theorem constructService_tries (hobject : h.MakesDeviceObject) (stack : DisString → Bytes)
    (reads : Nat → ReadOutcome) :
    Tries [] c device (bleServicesConstructService h c device svIdx stack reads) device := by
  have hvalues : ∀ data, ∀ q, IsSensorValue q →
      ((ptdoInitializeDeviceObject h c device.deviceId data).HasPath device.deviceId q →
        c.HasPath device.deviceId q) := by
    intro data q hq
    unfold ptdoInitializeDeviceObject
    have hobject := hobject data
    generalize h.deviceObject data = prs at hobject ⊢
    induction prs generalizing c with
    | nil => exact fun hp => hp
    | cons pr prs ih =>
      intro hp
      have hp := ih (fun pr' hpr' => hobject pr' (List.mem_cons_of_mem _ hpr')) hp
      rw [deviceAddResource_hasPath_iff] at hp
      refine hp.resolve_right fun hno => ?_
      have hthree := hobject pr List.mem_cons_self
      rw [← hno.1] at hthree
      rcases hq.2 with heq | heq | heq <;> exact absurd (hthree.symm.trans heq) (by decide)
  refine .of_run (.of_grows rfl (fun p hp => (constructService_grows ..).paths _ p hp) ?_)
  unfold bleServicesConstructService
  split
  · exact fun p hP hp => hvalues _ p hP hp
  · exact fun p _ hp => hp

theorem addKnownTranslations_tries (hfree : h.FindsFree) (hobject : h.MakesDeviceObject)
    (dis : DisReads) (services : List GattService) (svc : Nat) (dc : BleDevice × Client) :
    Tries (trials h (constructions h dis services svc dc)) dc.2 dc.1
      (addKnownTranslations h dis services svc dc).2
      (addKnownTranslations h dis services svc dc).1 := by
  induction services generalizing svc dc with
  | nil => exact .refl dc.2 dc.1
  | cons s services ih =>
    unfold addKnownTranslations constructions
    split
    · unfold trials
      rw [List.flatMap_append]
      exact ((constructService_tries hobject _ _).after
        (addCharacteristicTranslations_tries hfree svc s s.chars 0 _)).trans (ih (svc + 1) _)
    · exact ih (svc + 1) dc

/-- where each construction of a sensor makes its value, all contexts are for created resources -/
theorem allCreated_of_made (hfree : h.FindsFree) (hobject : h.MakesDeviceObject) (dis : DisReads)
    (hall : AllCreated c device)
    (hmade : ∀ t ∈ trials h (constructions h dis device.services 0 (device, c)), t.made = true) :
    AllCreated (deviceAddKnownTranslationsFromGatt h dis c device).2
      (deviceAddKnownTranslationsFromGatt h dis c device).1 := by
  obtain ⟨as, hr, heq⟩ :=
    addKnownTranslations_tries hfree hobject dis device.services 0 (device, c)
  rw [← heq] at hmade
  rw [allCreated_iff]
  refine (hr.sound_iff (allCreated_iff.mp hall)).mpr ?_
  rw [← allSetRight_filter hr.others]
  exact allSetRight_of_made hmade

/-- **All contexts are for created resources exactly when every sensor that was recorded without its
value is set right.** -/
theorem translations_created_iff (hfree : h.FindsFree) (hobject : h.MakesDeviceObject)
    (dis : DisReads) (hall : AllCreated c device) :
    AllCreated (deviceAddKnownTranslationsFromGatt h dis c device).2
        (deviceAddKnownTranslationsFromGatt h dis c device).1 ↔
      AllSetRight (trials h (constructions h dis device.services 0 (device, c))) := by
  obtain ⟨as, hr, heq⟩ :=
    addKnownTranslations_tries hfree hobject dis device.services 0 (device, c)
  rw [← heq, allSetRight_filter hr.others, allCreated_iff]
  exact hr.sound_iff (allCreated_iff.mp hall)

end

def twoThermometers : BleDevice :=
  deviceAddGattCharacteristic
    (deviceAddGattCharacteristic
      { deviceCreate 1 0 "00:11:22:33:44:55" with deviceId := "BLE-00:11:22:33:44:55-0" }
      "0000181a-0000-1000-8000-00805f9b34fb" "/service0001"
      "00002a6e-0000-1000-8000-00805f9b34fb" "/service0001/char0002" bleGattPropPermRead)
    "0000181a-0000-1000-8000-00805f9b34fb" "/service0001"
    "00002a6e-0000-1000-8000-00805f9b34fb" "/service0001/char0004" bleGattPropPermRead

theorem twoThermometers_allCreated (c : Client) : AllCreated c twoThermometers := by
  have hnone : twoThermometers.translations = [] := rfl
  constructor
  · rw [hnone]
    nofun
  · rw [hnone]
    exact List.nodup_nil

/-- a client that has the device without resources -/
def failingClient (faults : List Bool) : Client := { sensingClient with faults := faults }

/-- the first thermometer has a context and no value; the second gets the same instance, its value,
and no memory for a context -/
def setRightFaults : List Bool :=
  [false, true, true, false, false, false, false, false, false, false, false, true, true]

theorem translations_created_setRight :
    AllCreated
      (deviceAddKnownTranslationsFromGatt plainHost noDisReads (failingClient setRightFaults)
        twoThermometers).2
      (deviceAddKnownTranslationsFromGatt plainHost noDisReads (failingClient setRightFaults)
        twoThermometers).1 :=
  (translations_created_iff plainHost_findsFree (fun _ => nofun) noDisReads
    (twoThermometers_allCreated _)).mpr (by decide +kernel)

/-- without memory for its value the first thermometer has a context and no resource; without memory
for its bounds either, the second one gets the same instance -/
theorem not_translations_created :
    ¬AllCreated
        (deviceAddKnownTranslationsFromGatt plainHost noDisReads (failingClient [false, true])
          twoThermometers).2
        (deviceAddKnownTranslationsFromGatt plainHost noDisReads (failingClient [false, true])
          twoThermometers).1 ∧
      ¬((deviceAddKnownTranslationsFromGatt plainHost noDisReads
          (failingClient [false, true, true]) twoThermometers).1.translations.map
            TranslationContext.path).Nodup := by
  -- one evaluation of the table serves both facts about the first pattern
  have hfacts :
      let r := deviceAddKnownTranslationsFromGatt plainHost noDisReads
        (failingClient [false, true]) twoThermometers
      ⟨temperatureSensor, 0, sensorValue, 0, 0, 0⟩ ∈ r.1.translations ∧
        deviceResourceExists r.2 r.1.deviceId ⟨temperatureSensor, 0, sensorValue⟩ = false := by
    decide +kernel
  obtain ⟨hctx, hnone⟩ := hfacts
  refine ⟨fun hall => ?_, by decide +kernel⟩
  obtain ⟨rs, hrs, hmem⟩ := hall.created _ hctx
  have hfind : (deviceAddKnownTranslationsFromGatt plainHost noDisReads
        (failingClient [false, true]) twoThermometers).2.find
      (deviceAddKnownTranslationsFromGatt plainHost noDisReads
        (failingClient [false, true]) twoThermometers).1.deviceId = some rs := hrs
  unfold deviceResourceExists at hnone
  rw [hfind] at hnone
  exact of_decide_eq_false hnone hmem

end EdgeTranslators.Ble
