import EdgeTranslators.Ble.Frame

/-!
# The handlers of the BLE translator, case by case

* `bleReadCharacteristicCallback_frame`, `resourceCallbackHandler_frame`, `bleRetryConnect_frame`,
  `unregisterDevices_frame`, …            the other handlers that have a frame;
* `Created`                               a PT device object is made;
* `bleOnServicesResolved_cases`, `bleConnected_cases`, `ptReadyDevice_cases`,
  `bleCreateDeviceContext_cases`, `bleReadEverything_eq`   what the others do.
-/

namespace EdgeTranslators.Ble
open Lib Pt

/-! ## values of characteristics -/

theorem servicePaths_congr {a b : List GattService}
    (h : a.map (fun s => s.chars.map (·.resourceId)) = b.map fun s => s.chars.map (·.resourceId)) :
    servicePaths a = servicePaths b := by
  have hpaths : ∀ services : List GattService, servicePaths services =
      (services.map fun s => s.chars.map (·.resourceId)).zipIdx.flatMap fun p =>
        p.1.map (servicePath p.2) := by
    intro services
    unfold servicePaths
    rw [List.zipIdx_map, List.flatMap_map]
    simp only [Prod.map, id, List.map_map]
    rfl
  rw [hpaths, hpaths, h]

/-- a characteristic may get a new value, but not a new resource -/
theorem setChar_quiet {ble : BleDevice} {svc ch : Nat} {c c' : GattChar}
    (hc : ble.char? svc ch = some c) (hid : c'.resourceId = c.resourceId) :
    Quiet ble (ble.setChar svc ch c') := by
  obtain ⟨s, hs, hch⟩ := BleDevice.char?_eq_some.mp hc
  refine ⟨rfl, rfl, rfl, rfl, rfl, servicePaths_congr ?_, fun i j hij => ?_⟩
  · apply List.ext_getElem?
    intro i
    simp only [BleDevice.setChar, List.getElem?_map, List.getElem?_modify]
    by_cases hi : svc = i
    · subst hi
      have hset : (s.chars.set ch c').map (·.resourceId) = s.chars.map (·.resourceId) := by
        obtain ⟨hlt, rfl⟩ := List.getElem?_eq_some_iff.mp hch
        have hlt' : ch < (s.chars.map (·.resourceId)).length := by rwa [List.length_map]
        have hget : (s.chars.map (·.resourceId))[ch] = s.chars[ch].resourceId :=
          List.getElem_map _
        rw [List.map_set, hid, ← hget]
        exact List.set_getElem_self hlt'
      simp [hs, GattService.setChar, hset]
    · simp [hi]
  · by_cases heq : i = svc ∧ j = ch
    · obtain ⟨rfl, rfl⟩ := heq
      rw [BleDevice.char?_setChar_self hij]
      rfl
    · rwa [BleDevice.char?_setChar_ne c' heq]

section
variable {cfg : Config} {D : String → Prop} {R : Request → Prop} {E : Effect → Prop}
  {ans : Answers} {t t' : Translator} {ble : BleDevice} {proxy : DeviceProxy}

/-- the frame of a handler that only writes one context and resources -/
theorem set_client_frame {ble' : BleDevice} {client : Client} (hwf : WellFormed cfg t)
    (hble : ble ∈ t.devices) (hq : Quiet ble ble') (hg : Grows t.client client) :
    Still t { t with devices := devicesSet t.devices ble', client } :=
  { set_frame hwf.ptr hble hq with client := hg }

theorem bleReadCharacteristicCallback_frame (h : Host) {id : String} {i j : Nat}
    {outcome : ReadOutcome} {r : List BleDevice × Client} (hwf : WellFormed cfg t)
    (hr : bleReadCharacteristicCallback h t.client t.devices id i j outcome = some r) :
    Still t { t with devices := r.1, client := r.2 } := by
  unfold bleReadCharacteristicCallback at hr
  cases outcome with
  | failed =>
    cases hr
    exact .refl t
  | reply reply =>
    simp only [Option.bind_eq_some_iff, Option.map_eq_some_iff] at hr
    obtain ⟨ble, hble, c, hc, rfl⟩ := hr
    have hparse : Quiet ble (ble.setChar i j (c.parse h reply)) := setChar_quiet hc rfl
    have hswap : Quiet (ble.setChar i j (c.parse h reply))
        ((ble.setChar i j (c.parse h reply)).setChar i j ((c.parse h reply).swap h.byteOrder)) := by
      refine setChar_quiet (BleDevice.char?_setChar_self (by rw [hc]; rfl) _) ?_
      unfold GattChar.swap
      split <;> rfl
    refine set_client_frame hwf (mem_of_devicesFindDeviceByDeviceId hble).1 (hparse.trans hswap) ?_
    exact (decodeAndWrite_cases h t.client _ i j _).1.trans (edgeSetResourceValue_grows ..)

theorem encodeCharacteristicValue_grows (h : Host) (c : Client) (device : BleDevice)
    (ctx : TranslationContext) (current new : Bytes) :
    Grows c (bleServicesEncodeCharacteristicValue h c device ctx current new).2 := by
  have hg := takeFault_grows c
  unfold bleServicesEncodeCharacteristicValue
  split
  · exact .refl c
  · simp only [bleServicesEncode2bitBitfieldValue]
    split
    · exact .refl c
    · rcases hf : c.takeFault with ⟨_ | _, c₁⟩ <;> rw [hf] at hg <;> exact hg

theorem setLocalCharacteristicValue_grows (c : Client) (ble : BleDevice) (svc ch : Nat)
    (val : Bytes) : Grows c (setLocalCharacteristicValue c ble svc ch val).2 := by
  unfold setLocalCharacteristicValue
  cases ble.char? svc ch with
  | none => exact .refl c
  | some charact => exact edgeSetResourceValue_grows ..

theorem deviceWriteCharacteristic_grows (h : Host) (c : Client) (ble : BleDevice) (p : Path)
    (value : Bytes) (outcome : WriteOutcome) :
    Grows c (deviceWriteCharacteristic h c ble p value outcome).client := by
  unfold deviceWriteCharacteristic
  by_cases hobj : p.objectId ≠ ipsoOidBleService
  · rw [if_pos hobj]
    cases bleServicesFindTranslationContext ble p with
    | none => exact .refl c
    | some ctx =>
      simp only
      cases ble.char? ctx.svIdx ctx.chIdx with
      | none => exact .refl c
      | some charact =>
        have hg := encodeCharacteristicValue_grows h c ble ctx charact.value value
        simp only
        generalize bleServicesEncodeCharacteristicValue h c ble ctx charact.value value = r at hg ⊢
        obtain ⟨_ | bytes, c₁⟩ := r
        · exact hg
        · simp only
          split
          · exact hg.trans (setLocalCharacteristicValue_grows ..)
          · exact hg
  · rw [if_neg hobj]
    simp only
    cases (ble.services[p.instanceId.toNat]?).bind fun s =>
      s.chars.findIdx? (·.resourceId = p.resourceId) with
    | none => exact .refl c
    | some ch =>
      simp only
      cases ble.char? p.instanceId.toNat ch with
      | none => exact .refl c
      | some charact =>
        simp only
        split
        · exact (setLocalCharacteristicValue_grows ..).trans (decodeAndWrite_cases h ..).1
        · exact .refl c

theorem deviceWriteCharacteristic_quiet (h : Host) (c : Client) (ble : BleDevice) (p : Path)
    (value : Bytes) (outcome : WriteOutcome) :
    Quiet ble (deviceWriteCharacteristic h c ble p value outcome).device := by
  have hcases := deviceWriteCharacteristic_cases h c ble p value outcome
  generalize deviceWriteCharacteristic h c ble p value outcome = r at hcases ⊢
  cases hroute : writeRoute h c ble p value with
  | none =>
    rw [hroute] at hcases
    rw [hcases.device]
    exact .refl ble
  | some route =>
    rw [hroute] at hcases
    by_cases hrc : r.rc = 0
    · rw [(hcases.stored hrc).1]
      exact setChar_quiet hcases.char rfl
    · rw [(hcases.failed hrc).1]
      exact .refl ble

theorem resourceCallbackHandler_frame (h : Host) (id : String) (p : Path) (operation : UInt8)
    (value : Bytes) (outcome : WriteOutcome) (hwf : WellFormed cfg t) :
    Still t { t with
      devices := (resourceCallbackHandler h t.keepRunning t.devices t.client id p operation value
        outcome).2.1
      client := (resourceCallbackHandler h t.keepRunning t.devices t.client id p operation value
        outcome).2.2 } := by
  unfold resourceCallbackHandler
  split
  · exact .refl t
  · cases hfind : devicesFindDeviceByDeviceId t.devices id with
    | none => exact .refl t
    | some ble =>
      simp only
      split
      · exact set_client_frame hwf (mem_of_devicesFindDeviceByDeviceId hfind).1
          (deviceWriteCharacteristic_quiet ..) (deviceWriteCharacteristic_grows ..)
      · split <;> exact .refl t

/-! ## timers, shutdown and the answers of Edge -/

theorem bleRetryConnect_frame {ptr : Nat} (hwf : WellFormed cfg t)
    (h : bleRetryConnect t ptr = some t') : Still t t' := by
  obtain ⟨ble, hble, rfl⟩ := Option.map_eq_some_iff.mp h
  have hcall : Still t (bleProxyConnect t ble.proxy) := addCall_frame t nofun
  have hq : Quiet ble { ble with retryTimerSource := 0 } :=
    ⟨rfl, rfl, rfl, rfl, rfl, rfl, fun _ _ h => h⟩
  exact hcall.trans (set_frame hwf.ptr (List.mem_of_find?_eq_some hble) hq)

theorem bleRemoveDevice_frame (ans : Answers) (hwf : WellFormed cfg t) (hble : ble ∈ t.devices) :
    Still t (bleRemoveDevice ans t ble) := by
  unfold bleRemoveDevice
  simp only
  split
  · exact (deviceStopRetryTimer_frame hwf hble).trans (addCall_frame _ nofun)
  · exact deviceStopRetryTimer_frame hwf hble

/-- removing one device keeps what the pointers of the others lead to -/
theorem bleRemoveDevice_mem (ans : Answers) {d : BleDevice} (hd : d ∈ t.devices)
    (hptr : d.ptr ≠ ble.ptr) : d ∈ (bleRemoveDevice ans t ble).devices := by
  have hstop : d ∈ (deviceStopRetryTimer t ble).devices := by
    unfold deviceStopRetryTimer
    split
    · exact hd
    · exact devicesSet_mem_of_ne hd hptr
  unfold bleRemoveDevice
  simp only
  split <;> exact hstop

theorem removeDevices_frame (ans : Answers) (devices : List BleDevice) (hwf : WellFormed cfg t)
    (hnodup : (devices.map (·.ptr)).Nodup) (hsub : devices ⊆ t.devices) :
    Still t (devices.foldl (bleRemoveDevice ans) t) := by
  induction devices generalizing t with
  | nil => exact .refl t
  | cons d devices ih =>
    obtain ⟨hd, hnodup⟩ := List.nodup_cons.mp hnodup
    have hfirst := bleRemoveDevice_frame ans hwf (hsub List.mem_cons_self)
    refine hfirst.trans (ih (hfirst.wellFormed hwf) hnodup fun d' hd' => ?_)
    exact bleRemoveDevice_mem ans (hsub (List.mem_cons_of_mem _ hd')) fun hptr =>
      hd (List.mem_map.mpr ⟨d', hd', hptr⟩)

theorem unregisterDevices_frame (ans : Answers) (hwf : WellFormed cfg t) :
    Still t (unregisterDevices ans t) := by
  have hflag : Still t { t with unregisteringDevices := true } :=
    { (Frame.refl t : Still t t) with }
  unfold unregisterDevices
  split
  · exact .refl t
  · simp only
    split
    · exact hflag.trans (addIdle_frame _ fun _ => rfl)
    · exact hflag.trans
        (removeDevices_frame ans t.devices (hflag.wellFormed hwf) hwf.ptr (List.Subset.refl _))

theorem ptBleGracefulShutdown_frame (ans : Answers) (hwf : WellFormed cfg t) :
    Still t (ptBleGracefulShutdown ans t) := by
  have hflag : Still t { t with keepRunning := false } := { (Frame.refl t : Still t t) with }
  have hquit : Still t (t.addIdle .quitLoop) := addIdle_frame t fun _ => rfl
  unfold ptBleGracefulShutdown
  split
  · exact hflag.trans (unregisterDevices_frame ans (hflag.wellFormed hwf))
  · exact hquit.trans (unregisterDevices_frame ans (hquit.wellFormed hwf))

theorem ptBleGMainQuitLoop_frame (t : Translator) : Still t (ptBleGMainQuitLoop t) := by
  unfold ptBleGMainQuitLoop
  split
  · exact .refl t
  · exact { (Frame.refl t : Still t t) with }

theorem protocolTranslatorRegistrationFailure_frame (t : Translator) :
    Still t (protocolTranslatorRegistrationFailure t) := by
  have hflag : Still t { t with keepRunning := false } := { (Frame.refl t : Still t t) with }
  exact hflag.trans (addIdle_frame _ fun _ => rfl)

theorem shutdownCbHandler_frame (t : Translator) : Still t (shutdownCbHandler t) := by
  unfold shutdownCbHandler
  split
  · exact protocolTranslatorRegistrationFailure_frame t
  · exact .refl t

theorem send_client (t : Translator) (r : Request) : (t.send r).client = t.client := by
  unfold Translator.send
  split <;> rfl

theorem edgeRegisterDevice_same (ans : Answers) (t : Translator) (id : String) :
    (edgeRegisterDevice ans t id).devices = t.devices ∧
      (edgeRegisterDevice ans t id).client = t.client := by
  unfold edgeRegisterDevice
  simp only
  split
  · exact ⟨send_devices _ _, send_client _ _⟩
  · exact ⟨rfl, rfl⟩

/-- `edge_register_device` for a tracked device -/
def registration (t : Translator) (d : BleDevice) : Effect :=
  .registerDevice d.deviceId (devicesFindDeviceByDeviceId t.devices d.deviceId)
    (t.client.devices.lookup d.deviceId)

theorem protocolTranslatorRegistrationSuccess_frame (ans : Answers) (t : Translator) :
    Frame D (fun r => ∃ d ∈ t.devices, r = .register d.deviceId)
      (fun e => ∃ d ∈ t.devices, e = registration t d) t
      (protocolTranslatorRegistrationSuccess ans t) := by
  have hfold : ∀ ds ⊆ t.devices, ∀ t₁ : Translator, t₁.devices = t.devices → t₁.client = t.client →
      Frame D (fun r => ∃ d ∈ t.devices, r = .register d.deviceId)
        (fun e => ∃ d ∈ t.devices, e = registration t d) t₁
        (ds.foldl (fun t dev => edgeRegisterDevice ans t dev.deviceId) t₁) := by
    intro ds hds
    induction ds with
    | nil => exact fun t₁ _ _ => .refl t₁
    | cons d ds ih =>
      intro t₁ hdevices hclient
      have hd : d ∈ t.devices := hds List.mem_cons_self
      obtain ⟨hdevices', hclient'⟩ := edgeRegisterDevice_same ans t₁ d.deviceId
      refine Frame.trans ((edgeRegisterDevice_frame ans t₁ d.deviceId).mono (fun _ h => h)
        (fun r hr => ⟨d, hd, hr⟩) fun e he => ⟨d, hd, ?_⟩)
        (ih (fun _ h => hds (List.mem_cons_of_mem _ h)) _ (hdevices'.trans hdevices)
          (hclient'.trans hclient))
      rw [he, hdevices, hclient]
      rfl
  exact hfold t.devices (List.Subset.refl _) t rfl rfl

/-! ## what the other handlers do -/

theorem mem_of_bleFindDeviceFromProxy (hwf : WellFormed cfg t)
    (h : bleFindDeviceFromProxy cfg t proxy = some ble) :
    ble ∈ t.devices ∧
      ∃ a, proxy.address = some a ∧ ble.proxy.address = some a ∧ ble.deviceId = cfg.id a := by
  obtain ⟨a, ha, hfind⟩ := Option.bind_eq_some_iff.mp h
  obtain ⟨hmem, hid⟩ := mem_of_devicesFindDeviceByDeviceId hfind
  obtain ⟨a', ha', hid'⟩ := hwf.address ble hmem
  obtain rfl : a' = a := bleDeviceId_inj (hid'.symm.trans hid)
  exact ⟨hmem, a', ha, ha', hid⟩

/-- the state after a resolution, before the registration -/
def Translator.resolve (cfg : Config) (ans : Answers) (t : Translator) (ble : BleDevice) :
    Translator :=
  { t with client := (resolveServices cfg ans t ble).2 }.set (resolveServices cfg ans t ble).1

/-- **What `ble_on_services_resolved` does.** -/
theorem bleOnServicesResolved_cases (cfg : Config) (ans : Answers) (t : Translator)
    (proxy : DeviceProxy) :
    (bleOnServicesResolved cfg ans t proxy = t ∧
      (t.edgeIsConnected = false ∨ bleFindDeviceFromProxy cfg t proxy = none)) ∨
    ∃ ble, bleFindDeviceFromProxy cfg t proxy = some ble ∧ t.edgeIsConnected = true ∧
      ((ble.servicesResolved = true ∧
          bleOnServicesResolved cfg ans t proxy = deviceRegisterDevice ans t ble) ∨
        (ble.servicesResolved = false ∧
          bleOnServicesResolved cfg ans t proxy =
            deviceRegisterDevice ans (t.resolve cfg ans ble)
              (resolveServices cfg ans t ble).1)) := by
  unfold bleOnServicesResolved
  cases hconn : t.edgeIsConnected with
  | false => exact .inl ⟨rfl, .inl rfl⟩
  | true =>
    cases hfind : bleFindDeviceFromProxy cfg t proxy with
    | none => exact .inl ⟨rfl, .inr rfl⟩
    | some ble =>
      refine .inr ⟨ble, rfl, rfl, ?_⟩
      cases hres : ble.servicesResolved with
      | true => exact .inl ⟨rfl, by simp only [hres, if_true]⟩
      | false => exact .inr ⟨rfl, by simp only [hres]; rfl⟩

/-- `c'` is `c` with a device object for `id` -/
structure Created (id : String) (c c' : Client) : Prop where
  connection : c'.connection = c.connection
  faults : c.faults = [] → c'.faults = []
  devices : ∀ id', id' ∈ c'.devices ↔ id' = id ∨ id' ∈ c.devices
  paths : ∀ id' p, c.HasPath id' p → c'.HasPath id' p

theorem devicesCreatePtDevice_cases (cfg : Config) (ans : Answers) (t : Translator)
    (ble : BleDevice) :
    ((t.edgeIsConnected = false ∨
        ble.deviceId ∉ t.client.devices ∧ ans.create ble.deviceId = false) ∧
      devicesCreatePtDevice cfg ans t ble = (false, t)) ∨
    (t.edgeIsConnected = true ∧
      (ble.deviceId ∈ t.client.devices ∨ ans.create ble.deviceId = true) ∧
      ∃ c', Created ble.deviceId t.client c' ∧
        devicesCreatePtDevice cfg ans t ble = (true, { t with client := c' })) := by
  unfold devicesCreatePtDevice edgeCreateDevice Pt.deviceCreate
  cases hconn : t.client.connection with
  | none =>
    refine .inl ⟨.inl ?_, rfl⟩
    rw [Translator.edgeIsConnected, hconn]
    rfl
  | some connection =>
    have hedge : t.edgeIsConnected = true := by
      rw [Translator.edgeIsConnected, hconn]
      rfl
    by_cases hmem : ble.deviceId ∈ t.client.devices
    · refine .inr ⟨hedge, .inl hmem, t.client, ⟨rfl, id, fun id' => ?_, fun _ _ h => h⟩, ?_⟩
      · constructor
        · exact Or.inr
        · rintro (rfl | h)
          · exact hmem
          · exact h
      · simp [hmem]
    · cases hcreate : ans.create ble.deviceId with
      | false => exact .inl ⟨.inr ⟨hmem, rfl⟩, by simp [hmem]⟩
      | true =>
        have hset : Created ble.deviceId t.client (t.client.setResources ble.deviceId ∅) := by
          refine ⟨rfl, id, fun id' => AList.mem_insert _, fun id' p ⟨rs, hrs, hp⟩ => ?_⟩
          have hne : id' ≠ ble.deviceId := fun heq => hmem (by
            rw [← heq, ← AList.lookup_isSome, hrs]
            rfl)
          exact ⟨rs, (AList.lookup_insert_ne hne).trans hrs, hp⟩
        have hg := ptdoInitializeDeviceObject_grows cfg.host
          (t.client.setResources ble.deviceId ∅) ble.deviceId
          { manufacturer := some (cBytes "ARM"), modelNumber := some (cBytes "mept-ble"),
            serialNumber := some (cBytes ble.addr), firmwareVersion := some (cBytes "N/A"),
            hardwareVersion := some (cBytes "N/A"), softwareVersion := some (cBytes "N/A"),
            deviceType := some (cBytes "mept-ble") }
        refine .inr ⟨hedge, .inr rfl, _, ⟨hg.connection.trans hset.connection,
          fun h => hg.faults (hset.faults h), fun id' => (hg.devices id').trans (hset.devices id'),
          fun id' p h => hg.paths id' p (hset.paths id' p h)⟩, ?_⟩
        simp [hmem]

/-- the context after a `Connect` that went well -/
def refresh (t : Translator) (ble : BleDevice) : BleDevice :=
  { ble with lastConnectedTimestampSecs := t.now, connectionRetries := 0 }

/-- the PT device object of a device cannot be made -/
def creationRefused (ans : Answers) (t : Translator) (ble : BleDevice) : Bool :=
  t.edgeIsConnected ∧ ble.deviceId ∉ t.client.devices ∧ ans.create ble.deviceId = false

/-- **What `ble_connect_done` does after a success.** -/
theorem bleConnected_eq (cfg : Config) (ans : Answers) (t : Translator) (proxy : DeviceProxy)
    (ble : BleDevice) :
    bleConnected cfg ans t proxy ble =
      if t.edgeIsConnected then
        match devicesCreatePtDevice cfg ans (t.set (refresh t ble)) (refresh t ble) with
        | (false, t') => devicesDelDevice t' (refresh t ble)
        | (true, t') =>
          if t'.servicesAreResolved proxy then bleOnServicesResolved cfg ans t' proxy else t'
      else t.set (refresh t ble) := rfl

theorem bleConnected_cases (cfg : Config) (ans : Answers) (t : Translator) (proxy : DeviceProxy)
    (ble : BleDevice) :
    (t.edgeIsConnected = false ∧ bleConnected cfg ans t proxy ble = t.set (refresh t ble)) ∨
    (t.edgeIsConnected = true ∧ ble.deviceId ∉ t.client.devices ∧
      ans.create ble.deviceId = false ∧
      bleConnected cfg ans t proxy ble =
        devicesDelDevice (t.set (refresh t ble)) (refresh t ble)) ∨
    (t.edgeIsConnected = true ∧
      (ble.deviceId ∈ t.client.devices ∨ ans.create ble.deviceId = true) ∧
      ∃ client, Created ble.deviceId t.client client ∧
        bleConnected cfg ans t proxy ble =
          if t.servicesAreResolved proxy then
            bleOnServicesResolved cfg ans { t.set (refresh t ble) with client } proxy
          else { t.set (refresh t ble) with client }) := by
  rw [bleConnected_eq]
  cases hconn : t.edgeIsConnected with
  | false => exact .inl ⟨rfl, rfl⟩
  | true =>
    rw [if_pos rfl]
    rcases devicesCreatePtDevice_cases cfg ans (t.set (refresh t ble)) (refresh t ble) with
      ⟨hno, heq⟩ | ⟨-, hyes, client, hcreated, heq⟩
    · rw [heq]
      obtain hno | ⟨hmem, hcreate⟩ := hno
      · exact absurd (hno.symm.trans hconn) Bool.false_ne_true
      · exact .inr (.inl ⟨rfl, hmem, hcreate, rfl⟩)
    · rw [heq]
      exact .inr (.inr ⟨rfl, hyes, client, hcreated, rfl⟩)

/-- **What one round of `pt_ble_pt_ready` does.** -/
theorem ptReadyDevice_cases (cfg : Config) (ans : Answers) (t : Translator) (ptr : Nat) :
    ptReadyDevice cfg ans t ptr = t ∨
    ∃ ble ∈ t.devices, t.edgeIsConnected = true ∧ ble.deviceId ∉ t.client.devices ∧
      ans.create ble.deviceId = true ∧
      ∃ client, Created ble.deviceId t.client client ∧
        ptReadyDevice cfg ans t ptr =
          if t.servicesAreResolved ble.proxy then
            bleOnServicesResolved cfg ans { t with client } ble.proxy
          else { t with client } := by
  unfold ptReadyDevice
  cases hfind : t.devices.find? fun d => d.ptr = ptr with
  | none => exact .inl rfl
  | some ble =>
    simp only
    by_cases hexists : deviceExists t.client ble.deviceId = true
    · exact .inl (if_pos hexists)
    · rw [if_neg hexists]
      rcases devicesCreatePtDevice_cases cfg ans t ble with
        ⟨-, heq⟩ | ⟨hconn, hyes, client, hcreated, heq⟩
      · rw [heq]
        exact .inl rfl
      · have hmem : ble.deviceId ∉ t.client.devices := fun hmem =>
          hexists ((deviceExists_iff _ _).mpr ⟨hconn, hmem⟩)
        refine .inr ⟨ble, List.mem_of_find?_eq_some hfind, hconn, hmem, hyes.resolve_left hmem,
          client, hcreated, ?_⟩
        have hconn' : Translator.edgeIsConnected { t with client } = true := by
          rw [Translator.edgeIsConnected, hcreated.connection]
          exact hconn
        rw [heq]
        simp only [hconn', true_and]
        rfl

/-- the context of a device with an address that is not tracked yet -/
def newContext (cfg : Config) (t : Translator) (proxy : DeviceProxy) (deviceType : BleDeviceType)
    (a : BtAddress) : BleDevice :=
  { deviceCreate t.nextPtr t.now a.1 with
    proxy, dbusPath := proxy.path, deviceType, deviceId := cfg.id a }

theorem bleCreateDeviceContext_cases (cfg : Config) (t : Translator) (proxy : DeviceProxy)
    (deviceType : BleDeviceType) :
    (bleCreateDeviceContext cfg t proxy deviceType = t ∧
      (proxy.address = none ∨ bleFindDeviceFromProxy cfg t proxy ≠ none)) ∨
    ∃ a, proxy.address = some a ∧ bleFindDeviceFromProxy cfg t proxy = none ∧
      bleCreateDeviceContext cfg t proxy deviceType =
        { t with
          devices := t.devices ++ [newContext cfg t proxy deviceType a]
          nextPtr := t.nextPtr + 1 } := by
  unfold bleCreateDeviceContext bleFindDeviceFromProxy
  cases ha : proxy.address with
  | none => exact .inl ⟨rfl, .inl rfl⟩
  | some a =>
    simp only [Option.bind_some]
    cases hfind : devicesFindDeviceByDeviceId t.devices (cfg.id a) with
    | some ble => exact .inl ⟨rfl, .inr nofun⟩
    | none => exact .inr ⟨a, rfl, rfl, rfl⟩

/-- the calls of `ble_read_everything` -/
def IsRead (devices : List BleDevice) (c : Call) : Prop :=
  ∃ ble ∈ devices, ∃ i j, c = .readValue ble.deviceId i j ∧ (ble.char? i j).isSome

theorem readableChars_char? (ans : Answers) {i j : Nat} {c : GattChar}
    (h : (i, j, c) ∈ readableChars ans ble) : (ble.char? i j).isSome := by
  obtain ⟨⟨s, srvc⟩, hs, hmem⟩ := List.mem_flatMap.mp h
  obtain ⟨⟨c', ch⟩, hc, heq⟩ := List.mem_map.mp hmem
  obtain ⟨rfl, rfl, rfl⟩ : srvc = i ∧ ch = j ∧ c' = c := by simpa using heq
  have hs' := List.mem_zipIdx_iff_getElem?.mp hs
  have hc' := List.mem_zipIdx_iff_getElem?.mp (List.mem_filter.mp hc).1
  rw [BleDevice.char?_eq_some.mpr ⟨s, hs', hc'⟩]
  rfl

/-- one read after the other -/
theorem foldl_readValue (id : String) (chars : List (Nat × Nat × GattChar)) (t : Translator) :
    chars.foldl (fun t (srvc, ch, _) => t.addCall (.readValue id srvc ch)) t =
      { t with calls := t.calls ++ chars.map fun (srvc, ch, _) => Call.readValue id srvc ch } := by
  induction chars generalizing t with
  | nil => simp
  | cons c chars ih =>
    rw [List.foldl_cons, ih]
    simp [Translator.addCall]

theorem bleReadAllCharacteristicsForDevice_eq (ans : Answers) (t : Translator)
    (hble : ble ∈ t.devices) :
    ∃ calls, bleReadAllCharacteristicsForDevice ans t ble = { t with calls := t.calls ++ calls } ∧
      ∀ c ∈ calls, IsRead t.devices c := by
  unfold bleReadAllCharacteristicsForDevice
  split
  · refine ⟨_, foldl_readValue ble.deviceId _ t, fun c hc => ?_⟩
    obtain ⟨⟨i, j, charact⟩, hchar, rfl⟩ := List.mem_map.mp hc
    exact ⟨ble, hble, i, j, rfl, readableChars_char? ans hchar⟩
  · exact ⟨[], by simp, fun _ hc => absurd hc List.not_mem_nil⟩

/-- **`ble_read_everything` only adds reads of characteristics that are there.** -/
theorem bleReadEverything_eq (ans : Answers) (t : Translator) :
    ∃ calls, bleReadEverything ans t = { t with calls := t.calls ++ calls } ∧
      ∀ c ∈ calls, IsRead t.devices c := by
  unfold bleReadEverything
  split
  · refine List.foldlRecOn (motive := fun t₁ : Translator => ∃ calls : List Call,
      t₁ = { t with calls := t.calls ++ calls } ∧ ∀ c ∈ calls, IsRead t.devices c) t.devices _ ⟨[], by simp, nofun⟩ ?_
    rintro t₁ ⟨calls, rfl, hcalls⟩ ble hble
    split
    · obtain ⟨calls', heq, hcalls'⟩ := bleReadAllCharacteristicsForDevice_eq ans
        { t with calls := t.calls ++ calls } hble
      refine ⟨calls ++ calls', by rw [heq]; simp, fun c hc => ?_⟩
      exact (List.mem_append.mp hc).elim (hcalls c) (hcalls' c)
    · exact ⟨calls, rfl, hcalls⟩
  · exact ⟨[], by simp, nofun⟩

end

end EdgeTranslators.Ble
