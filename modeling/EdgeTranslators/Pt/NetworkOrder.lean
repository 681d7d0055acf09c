import EdgeTranslators.Pt.MinMax
import EdgeTranslators.Pt.V1.Resources

/-!
# Floats in network byte order

The constructors of both versions of the IPSO objects encode the floats of their resources by hand.
Read as the clients read them, in network byte order, they should be the floats again.

* `Adds`                    new resources meet a condition, and the others are as they were;
* `NetworkOrdered`          each new float resource reads back as the float it was created from;
* `…_adds`                  what each constructor adds;
* `ConstructorsOrdered`     the property, of all the constructors;
* `convert_storeWord_iff`   a float copied as it is in memory: only a host that has the order of the
                            network, or a float that is the same both ways, reads it back.
-/

namespace EdgeTranslators.Pt
open Lib

section
variable {ι : Type} {good good' : ι → Resource → Prop} {f f' f'' : ι → Option Resource}

/-- each resource is as it was, or new and good -/
def Adds (good : ι → Resource → Prop) (f f' : ι → Option Resource) : Prop :=
  ∀ p, f' p = f p ∨ (f p = none ∧ ∃ r, f' p = some r ∧ good p r)

theorem Adds.refl (good : ι → Resource → Prop) (f : ι → Option Resource) : Adds good f f :=
  fun _ => .inl rfl

theorem Adds.trans (h : Adds good f f') (h' : Adds good f' f'') : Adds good f f'' := by
  intro p
  rcases h p with hsame | ⟨hnone, r, hr, hgood⟩
  · rw [← hsame]
    exact h' p
  · right
    refine ⟨hnone, ?_⟩
    rcases h' p with hsame' | ⟨hnone', -⟩
    · exact ⟨r, hsame'.trans hr, hgood⟩
    · rw [hr] at hnone'
      cases hnone'

/-- a resource that is there stays -/
theorem Adds.keeps (h : Adds good f f') {p : ι} {r : Resource} (hr : f p = some r) :
    f' p = some r := by
  rcases h p with hsame | ⟨hnone, -⟩
  · exact hsame.trans hr
  · rw [hr] at hnone
    cases hnone

/-- a float resource reads back as the float it was created from -/
def ReadsBackAs (o : ByteOrder) (source : ι → UInt32) (p : ι) (r : Resource) : Prop :=
  r.type = .float → convertValueToHostOrderFloat o r.value = source p

/-- **Each new float resource** does -/
def NetworkOrdered (o : ByteOrder) (source : ι → UInt32) (f f' : ι → Option Resource) : Prop :=
  ∀ p r, f p = none → f' p = some r → ReadsBackAs o source p r

theorem Adds.networkOrdered {o : ByteOrder} {source : ι → UInt32}
    (h : Adds (ReadsBackAs o source) f f') : NetworkOrdered o source f f' := by
  intro p r hnone hr
  rcases h p with hsame | ⟨-, r', hr', hgood⟩
  · rw [hsame, hnone] at hr
    cases hr
  · rw [hr] at hr'
    cases hr'
    exact hgood

end

/-! ## a float as it is in memory -/

theorem convert_storeWord (o : ByteOrder) (f : UInt32) :
    convertValueToHostOrderFloat o (o.storeWord 4 f.toNat)
      = UInt32.ofNat (o.netOrder 4 f.toNat) := by
  have hf : f.toNat < 256 ^ 4 := f.toNat_lt
  unfold convertValueToHostOrderFloat
  rw [List.take_of_length_le (o.length_storeWord 4 _).le, o.loadWord_storeWord,
    Nat.mod_eq_of_lt hf]

theorem convert_storeWord_iff (o : ByteOrder) (f : UInt32) :
    convertValueToHostOrderFloat o (o.storeWord 4 f.toNat) = f ↔
      o = .big ∨ (leBytes 4 f.toNat).reverse = leBytes 4 f.toNat := by
  have hf : f.toNat < 256 ^ 4 := f.toNat_lt
  rw [convert_storeWord]
  cases o with
  | big =>
    refine iff_of_true ?_ (.inl rfl)
    show UInt32.ofNat (leNat (leBytes 4 f.toNat).reverse.reverse) = f
    rw [List.reverse_reverse, leNat_leBytes, Nat.mod_eq_of_lt hf, UInt32.ofNat_toNat]
  | little =>
    have hlen : (leBytes 4 f.toNat).reverse.length = 4 := by
      rw [List.length_reverse, length_leBytes]
    have hlt : leNat (leBytes 4 f.toNat).reverse < 256 ^ 4 := by
      have h := leNat_lt (leBytes 4 f.toNat).reverse
      rwa [hlen] at h
    show UInt32.ofNat (leNat (leBytes 4 f.toNat).reverse) = f ↔ _
    rw [or_iff_right nofun, ← UInt32.toNat_inj, UInt32.toNat_ofNat_of_lt' hlt]
    constructor
    · intro h
      have hback := leBytes_leNat (leBytes 4 f.toNat).reverse
      rw [hlen, h] at hback
      exact hback.symm
    · intro h
      rw [h, leNat_leBytes, Nat.mod_eq_of_lt hf]

/-! ## the constructors of the PT client -/

/-- the resources of all devices -/
def Client.resources (c : Client) (q : String × Path) : Option Resource :=
  (c.devices.lookup q.1).bind (·.lookup q.2)

theorem setResources_insert_resources {c : Client} {id : String} {rs : Resources}
    (h : c.devices.lookup id = some rs) (p : Path) (r : Resource) :
    (c.setResources id (rs.insert p r)).resources
      = Function.update c.resources (id, p) (some r) := by
  funext q
  obtain ⟨id', p'⟩ := q
  show ((c.devices.insert id (rs.insert p r)).lookup id').bind (·.lookup p') = _
  by_cases hid : id' = id
  · subst hid
    rw [AList.lookup_insert, Option.bind_some]
    by_cases hp : p' = p
    · rw [hp, AList.lookup_insert, Function.update_self]
    · rw [AList.lookup_insert_ne hp, Function.update_of_ne fun heq => hp (Prod.mk.inj heq).2]
      unfold Client.resources
      rw [h, Option.bind_some]
  · rw [AList.lookup_insert_ne hid, Function.update_of_ne fun heq => hid (Prod.mk.inj heq).1]
    rfl

section
variable {o : ByteOrder} {source : String × Path → UInt32} (c : Client) (id : String)

theorem deviceAddResource_adds (p : Path) (r : Resource) (hr : ReadsBackAs o source (id, p) r) :
    Adds (ReadsBackAs o source) c.resources (deviceAddResource c id p r).2.resources := by
  unfold deviceAddResource
  rw [takeFault_eq]
  cases c.fault 0 with
  | true => exact .refl _ _
  | false =>
    simp only
    cases hfind : c.afterFault.find id with
    | none => exact .refl _ _
    | some rs =>
      simp only
      split
      · exact .refl _ _
      · rename_i hp
        obtain ⟨-, hlookup⟩ := find_eq_some hfind
        rw [setResources_insert_resources hlookup]
        intro q
        by_cases hq : q = (id, p)
        · subst hq
          right
          refine ⟨?_, r, Function.update_self .., hr⟩
          show (c.afterFault.devices.lookup id).bind (·.lookup p) = none
          rw [hlookup, Option.bind_some, AList.lookup_eq_none.mpr hp]
        · exact .inl (Function.update_of_ne hq _ _)

/-- a resource that is no float, or reads back, is added -/
theorem ipsoAddResource_adds (p : Path) (type : Lwm2mResourceType) (operations : UInt8)
    (value : Bytes) (h : type = .float → convertValueToHostOrderFloat o value = source (id, p)) :
    Adds (ReadsBackAs o source) c.resources
      (ipsoAddResource c id p type operations value).resources :=
  deviceAddResource_adds c id p _ h

/-- a copy of a string is no float -/
theorem ipsoAddString_adds (p : Path) (text : String) :
    Adds (ReadsBackAs o source) c.resources
      (ipsoAddResource (strdup c text).2 id p .string operationRead (strdup c text).1).resources := by
  rw [strdup_eq]
  exact ipsoAddResource_adds c.afterFault id p .string operationRead _ nofun

theorem ipsoAddMinMaxFields_adds (objectId inst : UInt16)
    (hmin : source (id, ⟨objectId, inst, minMeasuredValue⟩) = fltMax)
    (hmax : source (id, ⟨objectId, inst, maxMeasuredValue⟩) = negFltMax) :
    Adds (ReadsBackAs o source) c.resources
      (ipsoAddMinMaxFields o c id objectId inst).resources := by
  unfold ipsoAddMinMaxFields
  rw [takeFault_eq]
  cases c.fault 0 with
  | true => exact .refl _ _
  | false =>
    simp only
    rw [takeFault_eq]
    cases c.afterFault.fault 0 with
    | true => exact .refl _ _
    | false =>
      refine (ipsoAddResource_adds c.afterFault.afterFault id ⟨objectId, inst, minMeasuredValue⟩
        .float operationRead (convertFloatValueToNetworkByteOrder o fltMax) fun _ => ?_).trans
          ((ipsoAddResource_adds _ id ⟨objectId, inst, maxMeasuredValue⟩ .float operationRead
            (convertFloatValueToNetworkByteOrder o negFltMax) fun _ => ?_).trans
              (ipsoAddResource_adds _ id _ _ _ _ nofun))
      · exact (convertValueToHostOrderFloat_convert o fltMax).trans hmin.symm
      · exact (convertValueToHostOrderFloat_convert o negFltMax).trans hmax.symm

theorem ipsoCreateThermometer_adds (inst : UInt16) (temperature : UInt32) (optionalFields : Bool)
    (hsensor : source (id, ⟨temperatureSensor, inst, sensorValue⟩) = temperature)
    (hmin : source (id, ⟨temperatureSensor, inst, minMeasuredValue⟩) = fltMax)
    (hmax : source (id, ⟨temperatureSensor, inst, maxMeasuredValue⟩) = negFltMax) {c' : Client}
    (h : ipsoCreateThermometer o c id inst temperature optionalFields = some c') :
    Adds (ReadsBackAs o source) c.resources c'.resources := by
  unfold ipsoCreateThermometer at h
  rw [takeFault_eq] at h
  cases hfault : c.fault 0 with
  | true =>
    rw [hfault] at h
    cases h
  | false =>
    rw [hfault] at h
    obtain rfl := Option.some.inj h
    refine (ipsoAddResource_adds c.afterFault id ⟨temperatureSensor, inst, sensorValue⟩ .float
      operationRead (convertFloatValueToNetworkByteOrder o temperature) fun _ => ?_).trans
        ((ipsoAddResource_adds _ id ⟨temperatureSensor, inst, sensorUnits⟩ .string operationRead
          (cBytes "Cel") nofun).trans ?_)
    · exact (convertValueToHostOrderFloat_convert o temperature).trans hsensor.symm
    · cases optionalFields with
      | false => exact .refl _ _
      | true => exact ipsoAddMinMaxFields_adds _ id _ _ hmin hmax

theorem ipsoCreateSensorObjectWith_adds (sensorId inst : UInt16) (units type : Option String)
    (hsensor : source (id, ⟨sensorId, inst, sensorValue⟩) = 0) :
    Adds (ReadsBackAs o source) c.resources
      (ipsoCreateSensorObjectWith o c id sensorId inst units type).resources := by
  unfold ipsoCreateSensorObjectWith
  rw [takeFault_eq]
  cases c.fault 0 with
  | true => exact .refl _ _
  | false =>
    refine (ipsoAddResource_adds c.afterFault id ⟨sensorId, inst, sensorValue⟩ .float
      operationRead (convertFloatValueToNetworkByteOrder o 0) fun _ => ?_).trans ?_
    · exact (convertValueToHostOrderFloat_convert o 0).trans hsensor.symm
    · simp only
      generalize ipsoAddResource c.afterFault id ⟨sensorId, inst, sensorValue⟩ .float
        operationRead (convertFloatValueToNetworkByteOrder o 0) = c₁
      cases units with
      | none =>
        cases type with
        | none => exact .refl _ _
        | some type => exact ipsoAddString_adds c₁ id _ type
      | some units =>
        cases type with
        | none => exact ipsoAddString_adds c₁ id _ units
        | some type =>
          exact (ipsoAddString_adds c₁ id ⟨sensorId, inst, sensorUnits⟩ units).trans
            (ipsoAddString_adds _ id _ type)

/-- a set point adds its target as it is in memory -/
theorem ipsoCreateSetPoint_adds (inst : UInt16) (targetTemperature : UInt32)
    (htarget : convertValueToHostOrderFloat o (o.storeWord 4 targetTemperature.toNat)
      = source (id, ⟨setPoint, inst, sensorValue⟩)) :
    Adds (ReadsBackAs o source) c.resources
      (ipsoCreateSetPoint o c id inst targetTemperature).resources := by
  unfold ipsoCreateSetPoint
  rw [takeFault_eq]
  cases c.fault 0 with
  | true => exact .refl _ _
  | false =>
    have hfirst : Adds (ReadsBackAs o source) c.afterFault.resources _ :=
      deviceAddResource_adds c.afterFault id ⟨setPoint, inst, sensorValue⟩
        ⟨.float, operationRead ||| operationWrite, o.storeWord 4 targetTemperature.toNat⟩
        fun _ => htarget
    simp only
    generalize deviceAddResource c.afterFault id ⟨setPoint, inst, sensorValue⟩
      ⟨.float, operationRead ||| operationWrite, o.storeWord 4 targetTemperature.toNat⟩ = r
      at hfirst ⊢
    obtain ⟨st, c₁⟩ := r
    cases st with
    | success => exact hfirst.trans (ipsoAddResource_adds c₁ id _ _ _ _ nofun)
    | _ => exact hfirst

/-- the value of a set point on a device that does not have it yet, when nothing fails -/
theorem ipsoCreateSetPoint_ready {c : Client} {id : String} (hr : Ready c id) (inst : UInt16)
    (targetTemperature : UInt32)
    (hnew : c.resources (id, ⟨setPoint, inst, sensorValue⟩) = none) :
    (ipsoCreateSetPoint o c id inst targetTemperature).resources
        (id, ⟨setPoint, inst, sensorValue⟩)
      = some ⟨.float, operationRead ||| operationWrite,
        o.storeWord 4 targetTemperature.toNat⟩ := by
  obtain ⟨rs, hrs⟩ := hr.find
  obtain ⟨-, hlookup⟩ := find_eq_some hrs
  have hmem : (⟨setPoint, inst, sensorValue⟩ : Path) ∉ rs := by
    unfold Client.resources at hnew
    rw [hlookup, Option.bind_some] at hnew
    exact AList.lookup_eq_none.mp hnew
  unfold ipsoCreateSetPoint deviceAddResource
  rw [takeFault_of_nil hr.1]
  simp only
  rw [takeFault_of_nil hr.1]
  simp only [hrs, if_neg hmem]
  -- the units that come next leave it there
  have hunits : Adds (ReadsBackAs o fun _ => 0) _ _ := ipsoAddResource_adds (c.setResources id
    (rs.insert ⟨setPoint, inst, sensorValue⟩ ⟨.float, operationRead ||| operationWrite,
      o.storeWord 4 targetTemperature.toNat⟩)) id ⟨setPoint, inst, sensorUnits⟩ .string
        operationRead (cBytes "Cel") nofun
  apply hunits.keeps
  rw [setResources_insert_resources hlookup, Function.update_self]

end

/-! ## the constructors of the first client -/

namespace V1

section
variable {o : ByteOrder} {source : Path → UInt32} (d : Device)

theorem objectInstanceAddResource_adds (inst : Option InstanceId) (resourceId : UInt16)
    (r : Resource) (hr : ∀ i, inst = some i → ReadsBackAs o source (i.path resourceId) r) :
    Adds (ReadsBackAs o source) d.findResource
      (objectInstanceAddResource d inst resourceId r).2.findResource := by
  cases inst with
  | none =>
    have hresource : (objectInstanceAddResource d none resourceId r).2.findResource
        = d.findResource := (Device.api_lawful.add_null d resourceId r).2
    rw [hresource]
    exact .refl _ _
  | some inst =>
    have hresource : (objectInstanceAddResource d inst resourceId r).2.findResource
        = if Device.api.adds d inst resourceId then
            Function.update d.findResource (inst.path resourceId) (some r)
          else d.findResource := Device.api_lawful.add_resource d inst resourceId r
    rw [hresource]
    cases hadds : Device.api.adds d inst resourceId with
    | false => exact .refl _ _
    | true =>
      rw [if_pos rfl]
      intro q
      by_cases hq : q = inst.path resourceId
      · subst hq
        have hnew : d.findResource (inst.path resourceId) = none :=
          Option.isNone_iff_eq_none.mp (Bool.and_eq_true_iff.mp (Bool.and_eq_true_iff.mp hadds).2).2
        exact .inr ⟨hnew, r, Function.update_self .., hr inst rfl⟩
      · exact .inl (Function.update_of_ne hq _ _)

/-- a resource that is no float, or reads back, is added -/
theorem ipsoAddResource_adds (inst : Option InstanceId) (resourceId : UInt16)
    (type : Lwm2mResourceType) (operations : UInt8) (value : Bytes)
    (h : type = .float → ∀ i, inst = some i →
      convertValueToHostOrderFloat o value = source (i.path resourceId)) :
    Adds (ReadsBackAs o source) d.findResource
      (ipsoAddResource d inst resourceId type operations value).findResource :=
  objectInstanceAddResource_adds d inst resourceId _ fun i hi hfloat => h hfloat i hi

/-- a copy of a string is no float -/
theorem ipsoAddString_adds (inst : Option InstanceId) (resourceId : UInt16) (text : String) :
    Adds (ReadsBackAs o source) d.findResource (ipsoAddResource (strdup d text).2 inst resourceId
      .string operationRead (strdup d text).1).findResource := by
  rw [strdup_eq]
  exact ipsoAddResource_adds d.afterFault inst resourceId .string operationRead _ nofun

theorem deviceAddObject_findResource (objectId : UInt16) :
    (deviceAddObject d objectId).2.findResource = d.findResource := by
  unfold deviceAddObject
  rw [takeFault_eq]
  cases d.fault 0 with
  | true => rfl
  | false =>
    simp only
    split
    · rfl
    · rename_i hnew
      funext p
      unfold Device.findResource Device.findObjectInstance Device.findObject
      simp only
      by_cases hp : p.objectId = objectId
      · have hnone : d.objects.lookup p.objectId = none := by
          rw [hp]
          exact AList.lookup_eq_none.mpr hnew
        rw [hnone, hp, AList.lookup_insert]
        rfl
      · rw [AList.lookup_insert_ne hp]
        rfl

theorem objectAddObjectInstance_findResource (objectId inst : UInt16) :
    (objectAddObjectInstance d objectId inst).2.findResource = d.findResource := by
  unfold objectAddObjectInstance
  rw [takeFault_eq]
  cases d.fault 0 with
  | true => rfl
  | false =>
    simp only
    split
    · rfl
    · rename_i hnew
      show (d.afterFault.setInstance objectId inst ∅).findResource = _
      cases hobject : d.afterFault.findObject objectId with
      | none =>
        unfold Device.setInstance
        rw [hobject]
        rfl
      | some object =>
        funext p
        unfold Device.findResource
        rw [setInstance_findObjectInstance hobject]
        split
        · rename_i hp
          have hnone : d.findObjectInstance p.objectId p.instanceId = none := by
            rw [hp.1, hp.2]
            exact Option.not_isSome_iff_eq_none.mp hnew
          rw [hnone]
          rfl
        · rfl

theorem findOrAddObject_findResource (objectId : UInt16) :
    (findOrAddObject d objectId).2.findResource = d.findResource := by
  have hadd := deviceAddObject_findResource d objectId
  unfold findOrAddObject
  cases d.findObject objectId with
  | some object => rfl
  | none =>
    generalize deviceAddObject d objectId = r at hadd ⊢
    obtain ⟨st, d₁⟩ := r
    cases st <;> exact hadd

theorem ipsoCreateNextFreeObjectInstance_findResource (objectId : UInt16) :
    (ipsoCreateNextFreeObjectInstance d objectId).2.findResource = d.findResource := by
  have hfind := findOrAddObject_findResource d objectId
  unfold ipsoCreateNextFreeObjectInstance
  generalize findOrAddObject d objectId = r at hfind ⊢
  obtain ⟨_ | object, d₁⟩ := r
  · exact hfind
  · simp only at hfind ⊢
    split
    · exact hfind
    · have hadd := objectAddObjectInstance_findResource d₁ objectId
        (UInt16.ofNat (ipsoGetNextFreeObjectInstanceId object).toNat)
      generalize objectAddObjectInstance d₁ objectId
        (UInt16.ofNat (ipsoGetNextFreeObjectInstanceId object).toNat) = r at hadd ⊢
      obtain ⟨st, d₂⟩ := r
      cases st <;> exact hadd.trans hfind

/-- a new instance is of the object it was asked for, and so are its resources -/
theorem ipsoCreateNextFreeObjectInstance_path {d : Device} {objectId : UInt16} {inst : InstanceId}
    (h : (ipsoCreateNextFreeObjectInstance d objectId).1 = some inst) (resourceId : UInt16) :
    inst.path resourceId = ⟨objectId, inst.instanceId, resourceId⟩ := by
  unfold ipsoCreateNextFreeObjectInstance at h
  generalize findOrAddObject d objectId = r at h
  obtain ⟨_ | object, d₁⟩ := r
  · cases h
  · simp only at h
    split at h
    · cases h
    · split at h
      · cases h
        rfl
      · cases h

theorem ipsoAddMinMaxFields_adds (inst : Option InstanceId)
    (hmin : ∀ i, inst = some i → source (i.path minMeasuredValue) = fltMax)
    (hmax : ∀ i, inst = some i → source (i.path maxMeasuredValue) = negFltMax) {d' : Device}
    (h : ipsoAddMinMaxFields o d inst = some d') :
    Adds (ReadsBackAs o source) d.findResource d'.findResource := by
  unfold ipsoAddMinMaxFields at h
  rw [takeFault_eq] at h
  cases h0 : d.fault 0 with
  | true =>
    rw [h0] at h
    obtain rfl := Option.some.inj h
    exact .refl _ _
  | false =>
    rw [h0] at h
    simp only at h
    rw [takeFault_eq] at h
    cases h1 : d.afterFault.fault 0 with
    | true =>
      rw [h1] at h
      obtain rfl := Option.some.inj h
      exact .refl _ _
    | false =>
      rw [h1] at h
      simp only at h
      split at h
      · cases h
      · obtain rfl := Option.some.inj h
        refine (ipsoAddResource_adds d.afterFault.afterFault inst minMeasuredValue .float
          operationRead (convertFloatValueToNetworkByteOrder o fltMax) fun _ i hi => ?_).trans
            ((ipsoAddResource_adds _ inst maxMeasuredValue .float operationRead
              (convertFloatValueToNetworkByteOrder o negFltMax) fun _ i hi => ?_).trans
                (ipsoAddResource_adds _ inst _ _ _ _ nofun))
        · exact (convertValueToHostOrderFloat_convert o fltMax).trans (hmin i hi).symm
        · exact (convertValueToHostOrderFloat_convert o negFltMax).trans (hmax i hi).symm

theorem ipsoCreateThermometer_adds (temperature : UInt32) (optionalFields : Bool)
    (hsensor : ∀ inst, source ⟨temperatureSensor, inst, sensorValue⟩ = temperature)
    (hmin : ∀ inst, source ⟨temperatureSensor, inst, minMeasuredValue⟩ = fltMax)
    (hmax : ∀ inst, source ⟨temperatureSensor, inst, maxMeasuredValue⟩ = negFltMax) {d' : Device}
    (h : ipsoCreateThermometer o d temperature optionalFields = some d') :
    Adds (ReadsBackAs o source) d.findResource d'.findResource := by
  have hsame := ipsoCreateNextFreeObjectInstance_findResource d temperatureSensor
  have hpath : ∀ i, (ipsoCreateNextFreeObjectInstance d temperatureSensor).1 = some i → ∀ r,
      i.path r = ⟨temperatureSensor, i.instanceId, r⟩ :=
    fun _ => ipsoCreateNextFreeObjectInstance_path
  unfold ipsoCreateThermometer at h
  generalize ipsoCreateNextFreeObjectInstance d temperatureSensor = r at h hsame hpath
  obtain ⟨inst, d₁⟩ := r
  simp only at h hsame hpath
  rw [← hsame]
  rw [takeFault_eq] at h
  cases h0 : d₁.fault 0 with
  | true =>
    rw [h0] at h
    cases h
  | false =>
    rw [h0] at h
    simp only at h
    have hfloats : Adds (ReadsBackAs o source) d₁.afterFault.findResource _ :=
      (ipsoAddResource_adds d₁.afterFault inst sensorValue .float operationRead
        (convertFloatValueToNetworkByteOrder o temperature) fun _ i hi =>
          (convertValueToHostOrderFloat_convert o temperature).trans (by
            rw [hpath i hi, hsensor])).trans
      (ipsoAddString_adds _ inst sensorUnits "Cel")
    cases optionalFields with
    | false =>
      obtain rfl := Option.some.inj h
      exact hfloats
    | true =>
      refine hfloats.trans (ipsoAddMinMaxFields_adds _ inst (fun i hi => ?_) (fun i hi => ?_) h)
      · rw [hpath i hi, hmin]
      · rw [hpath i hi, hmax]

theorem ipsoCreateSensorObject_adds (sensorId : UInt16) (units type : Option String)
    (hsensor : ∀ inst, source ⟨sensorId, inst, sensorValue⟩ = 0) :
    Adds (ReadsBackAs o source) d.findResource
      (ipsoCreateSensorObject o d sensorId units type).2.findResource := by
  have hsame := ipsoCreateNextFreeObjectInstance_findResource d sensorId
  have hpath : ∀ i, (ipsoCreateNextFreeObjectInstance d sensorId).1 = some i → ∀ r,
      i.path r = ⟨sensorId, i.instanceId, r⟩ := fun _ => ipsoCreateNextFreeObjectInstance_path
  unfold ipsoCreateSensorObject
  generalize ipsoCreateNextFreeObjectInstance d sensorId = r at hsame hpath ⊢
  obtain ⟨inst, d₁⟩ := r
  rw [← hsame]
  cases inst with
  | none => exact .refl _ _
  | some inst =>
    simp only
    rw [takeFault_eq]
    cases d₁.fault 0 with
    | true => exact .refl _ _
    | false =>
      refine (ipsoAddResource_adds d₁.afterFault inst sensorValue .float operationRead
        (convertFloatValueToNetworkByteOrder o 0) fun _ i hi => ?_).trans ?_
      · cases hi
        rw [hpath inst rfl, hsensor]
        exact convertValueToHostOrderFloat_convert o 0
      · simp only
        generalize ipsoAddResource d₁.afterFault inst sensorValue .float operationRead
          (convertFloatValueToNetworkByteOrder o 0) = d₂
        cases units with
        | none =>
          cases type with
          | none => exact .refl _ _
          | some type => exact ipsoAddString_adds d₂ inst sensorType type
        | some units =>
          cases type with
          | none => exact ipsoAddString_adds d₂ inst sensorUnits units
          | some type =>
            exact (ipsoAddString_adds d₂ inst sensorUnits units).trans
              (ipsoAddString_adds _ inst sensorType type)

/-- a set point adds its target as it is in memory -/
theorem ipsoCreateSetPoint_adds (targetTemperature : UInt32)
    (htarget : ∀ inst, convertValueToHostOrderFloat o (o.storeWord 4 targetTemperature.toNat)
      = source ⟨setPoint, inst, setPointValue⟩) :
    Adds (ReadsBackAs o source) d.findResource
      (ipsoCreateSetPoint o d targetTemperature).findResource := by
  have hsame := ipsoCreateNextFreeObjectInstance_findResource d setPoint
  have hpath : ∀ i, (ipsoCreateNextFreeObjectInstance d setPoint).1 = some i → ∀ r,
      i.path r = ⟨setPoint, i.instanceId, r⟩ := fun _ => ipsoCreateNextFreeObjectInstance_path
  unfold ipsoCreateSetPoint
  generalize ipsoCreateNextFreeObjectInstance d setPoint = r at hsame hpath ⊢
  obtain ⟨inst, d₁⟩ := r
  rw [← hsame]
  simp only
  rw [takeFault_eq]
  cases d₁.fault 0 with
  | true => exact .refl _ _
  | false =>
    refine (ipsoAddResource_adds d₁.afterFault inst setPointValue .float
      (operationRead ||| operationWrite) (o.storeWord 4 targetTemperature.toNat)
        fun _ i hi => ?_).trans (ipsoAddString_adds _ inst sensorUnits "Cel")
    rw [hpath i hi]
    exact htarget _

/-- the value of a set point on a new device -/
theorem ipsoCreateSetPoint_first (targetTemperature : UInt32) :
    (ipsoCreateSetPoint o ⟨∅, []⟩ targetTemperature).findResource ⟨setPoint, 0, setPointValue⟩
      = some ⟨.float, operationRead ||| operationWrite,
        o.storeWord 4 targetTemperature.toNat⟩ := by
  have hobject : Device.findObject ⟨∅, []⟩ setPoint = none := rfl
  obtain ⟨hinst, hd₀, hi₀, hnone⟩ := ipsoCreateNextFreeObjectInstance_first rfl hobject
  unfold ipsoCreateSetPoint
  generalize ipsoCreateNextFreeObjectInstance ⟨∅, []⟩ setPoint = r at hinst hd₀ hi₀ hnone ⊢
  obtain ⟨inst, d₀⟩ := r
  obtain rfl : inst = some ⟨setPoint, 0⟩ := hinst
  simp only at hd₀ hi₀ hnone ⊢
  rw [takeFault_faults hd₀]
  have h₀ : Holds d₀ ⟨setPoint, 0⟩ d₀.findResource := ⟨hd₀, hi₀, rfl⟩
  have h₁ := h₀.add setPointValue (hnone _ rfl) .float (operationRead ||| operationWrite)
    (o.storeWord 4 targetTemperature.toNat)
  have h₂ := h₁.add sensorUnits
    ((update_path (by decide) _).trans (hnone _ rfl)) .string operationRead (cBytes "Cel")
  simp only
  rw [strdup_faults h₁.faults]
  exact (congrFun h₂.resources _).trans ((update_path (by decide) _).trans
    (Function.update_self ..))

end

end V1

/-! ## all of them -/

/-- the float a resource of a sensor is created from: a default, or the value of the sensor -/
def sensorSource (value : UInt32) (p : Path) : UInt32 :=
  if p.resourceId = minMeasuredValue then fltMax
  else if p.resourceId = maxMeasuredValue then negFltMax
  else value

/-- **each new float resource of each constructor** reads back as the float it was created from,
of both versions, `f` being the float that some of them are given -/
structure ConstructorsOrdered (o : ByteOrder) (f : UInt32) : Prop where
  thermometer : ∀ (c : Client) (id : String) (inst : UInt16) (optionalFields : Bool) (c' : Client),
    ipsoCreateThermometer o c id inst f optionalFields = some c' →
      NetworkOrdered o (fun q => sensorSource f q.2) c.resources c'.resources
  sensorObject : ∀ (c : Client) (id : String) (sensorId inst : UInt16) (units type : Option String),
    NetworkOrdered o (fun _ => 0) c.resources
      (ipsoCreateSensorObjectWith o c id sensorId inst units type).resources
  minMaxFields : ∀ (c : Client) (id : String) (objectId inst : UInt16),
    NetworkOrdered o (fun q => sensorSource f q.2) c.resources
      (ipsoAddMinMaxFields o c id objectId inst).resources
  setPoint : ∀ (c : Client) (id : String) (inst : UInt16),
    NetworkOrdered o (fun _ => f) c.resources (ipsoCreateSetPoint o c id inst f).resources
  thermometer₁ : ∀ (d : V1.Device) (optionalFields : Bool) (d' : V1.Device),
    V1.ipsoCreateThermometer o d f optionalFields = some d' →
      NetworkOrdered o (sensorSource f) d.findResource d'.findResource
  sensorObject₁ : ∀ (d : V1.Device) (sensorId : UInt16) (units type : Option String),
    NetworkOrdered o (fun _ => 0) d.findResource
      (V1.ipsoCreateSensorObject o d sensorId units type).2.findResource
  minMaxFields₁ : ∀ (d : V1.Device) (inst : Option V1.InstanceId) (d' : V1.Device),
    V1.ipsoAddMinMaxFields o d inst = some d' →
      NetworkOrdered o (sensorSource f) d.findResource d'.findResource
  setPoint₁ : ∀ d : V1.Device,
    NetworkOrdered o (fun _ => f) d.findResource (V1.ipsoCreateSetPoint o d f).findResource

section
variable (o : ByteOrder) (f : UInt32)

theorem setPoint_ordered_iff :
    (∀ (c : Client) (id : String) (inst : UInt16),
      NetworkOrdered o (fun _ => f) c.resources (ipsoCreateSetPoint o c id inst f).resources) ↔
      o = .big ∨ (leBytes 4 f.toNat).reverse = leBytes 4 f.toNat := by
  rw [← convert_storeWord_iff]
  constructor
  · intro h
    have hr : Ready sensorClient "sensor" := ⟨rfl, by decide⟩
    have hnew : sensorClient.resources ("sensor", ⟨setPoint, 0, sensorValue⟩) = none := rfl
    have hback : ReadsBackAs o (fun _ : String × Path => f) ("sensor", ⟨setPoint, 0, sensorValue⟩)
        ⟨.float, operationRead ||| operationWrite, o.storeWord 4 f.toNat⟩ :=
      h sensorClient "sensor" 0 _ _ hnew (ipsoCreateSetPoint_ready hr 0 f hnew)
    exact hback rfl
  · intro h c id inst
    exact (ipsoCreateSetPoint_adds c id inst f h).networkOrdered

theorem setPoint₁_ordered_iff :
    (∀ d : V1.Device,
      NetworkOrdered o (fun _ => f) d.findResource (V1.ipsoCreateSetPoint o d f).findResource) ↔
      o = .big ∨ (leBytes 4 f.toNat).reverse = leBytes 4 f.toNat := by
  rw [← convert_storeWord_iff]
  constructor
  · intro h
    have hback : ReadsBackAs o (fun _ : Path => f) ⟨setPoint, 0, setPointValue⟩
        ⟨.float, operationRead ||| operationWrite, o.storeWord 4 f.toNat⟩ :=
      h ⟨∅, []⟩ _ _ rfl (V1.ipsoCreateSetPoint_first f)
    exact hback rfl
  · intro h d
    exact (V1.ipsoCreateSetPoint_adds d f fun _ => h).networkOrdered

/-- **All floats are in network byte order exactly** where the target of a set point is. -/
theorem constructorsOrdered_iff :
    ConstructorsOrdered o f ↔ o = .big ∨ (leBytes 4 f.toNat).reverse = leBytes 4 f.toNat := by
  constructor
  · intro h
    exact (setPoint_ordered_iff o f).mp h.setPoint
  · intro h
    exact
      { thermometer := fun c id inst _ _ hc =>
          (ipsoCreateThermometer_adds c id inst f _ rfl rfl rfl hc).networkOrdered
        sensorObject := fun c id sensorId inst units type =>
          (ipsoCreateSensorObjectWith_adds c id sensorId inst units type rfl).networkOrdered
        minMaxFields := fun c id objectId inst =>
          (ipsoAddMinMaxFields_adds c id objectId inst rfl rfl).networkOrdered
        setPoint := (setPoint_ordered_iff o f).mpr h
        thermometer₁ := fun d _ _ hd =>
          (V1.ipsoCreateThermometer_adds d f _ (fun _ => rfl) (fun _ => rfl) (fun _ => rfl)
            hd).networkOrdered
        sensorObject₁ := fun d sensorId units type =>
          (V1.ipsoCreateSensorObject_adds d sensorId units type fun _ => rfl).networkOrdered
        minMaxFields₁ := fun d inst _ hd =>
          (V1.ipsoAddMinMaxFields_adds d inst (fun _ _ => rfl) (fun _ _ => rfl) hd).networkOrdered
        setPoint₁ := (setPoint₁_ordered_iff o f).mpr h }

end

/-- a set point of 25.0 on a little-endian host, of either version -/
theorem setPoint_not_ordered :
    ¬∀ (o : ByteOrder) (f : UInt32), ConstructorsOrdered o f := by
  intro h
  have hset := (setPoint_ordered_iff .little 0x41C80000).mp (h .little 0x41C80000).setPoint
  exact absurd hset (by decide)

end EdgeTranslators.Pt
