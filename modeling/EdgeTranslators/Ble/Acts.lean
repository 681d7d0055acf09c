import EdgeTranslators.Ble.Lifecycle
import EdgeTranslators.Ble.Links

/-!
# The handlers as changes of the life cycle

* `Event.may cfg ans t e`     the changes the handler of an event may make from the state `t`;
* `Unregisters`               the contexts that it asks Edge to unregister, and why;
* one `_acts` lemma for each function;
* `handle_acts`               every handler is a sequence of legal changes that its event may make.
-/

namespace EdgeTranslators.Ble
open Lib Pt

/-- the handler of an event unregisters a device, with or without its context -/
inductive Unregisters (cfg : Config) (t : Translator) (ble : BleDevice) : Event → Bool → Prop where
  | objectRemoved {path : String} (hpath : path ≠ cfg.bluezHciPath)
      (hfind : devicesFindDeviceByDbusPath t.devices path = some ble) :
    Unregisters cfg t ble (.objectRemoved path) true
  | removeDeviceDone {k : Nat} (hcall : t.calls[k]? = some (.removeDevice ble.deviceId)) :
    Unregisters cfg t ble (.removeDeviceDone k) true
  | unreachable {e : Event} (hretried : retriedContext cfg t e = some ble)
      (hzero : ble.retryTimerSource = 0) (hgives : givesUp t ble = true) :
    Unregisters cfg t ble e (removesDeviceContext t ble)

/-- `unregister_devices` may run -/
def shutsDown (t : Translator) (e : Event) : Prop :=
  e = .shutdownSignal ∨ (e = .runIdle ∧ t.idle.head? = some .gracefulShutdown)

/-- the context that `ble_connect_done` finds after a success -/
def connectedContext (cfg : Config) (t : Translator) : Event → Option BleDevice
  | .connectDone k true =>
    match t.calls[k]? with
    | some (.connect proxy) => bleFindDeviceFromProxy cfg t proxy
    | _ => none
  | _ => none

/-- the changes an event may lead to -/
def Event.may (cfg : Config) (ans : Answers) (t : Translator) (e : Event) : Act → Prop
  | .create c => ∃ connected resolved, e = .objectAdded c.proxy connected resolved
  | .drop c => ∃ ble, connectedContext cfg t e = some ble ∧ c = ble.context ∧
      creationRefused ans t ble = true
  | .delete c => ∃ ble ∈ t.devices, c.ptr = ble.ptr ∧ c.deviceId = ble.deviceId ∧
      Unregisters cfg t ble e true
  | .send (.unregister id deleteContext) =>
    ∃ ble ∈ t.devices, id = ble.deviceId ∧ Unregisters cfg t ble e deleteContext
  | .call calls => ∀ id, .removeDevice id ∈ calls → shutsDown t e
  | .queue i => i = .gracefulShutdown → e = .translatorRegistrationFailed ∨ e = .connectionShutdown
  | .halt => e = .translatorRegistrationFailed ∨ e = .connectionShutdown ∨ shutsDown t e
  | .unregisterAll => shutsDown t e
  | .fire k _ => e = .retryTimer k
  | .tell i => e = .runIdle ∧ t.idle.head? = some i
  | .answer k ok => e = .answered k ok
  | .connect connection => e = .connectionReady connection
  | .disconnect => e = .disconnected
  | _ => True

section
variable {cfg : Config} {P : Act → Prop} {ans : Answers} {t t' : Translator} {ble ble' : BleDevice}
  {proxy : DeviceProxy}

/-! ## what the functions do to the life cycle -/

theorem context_mem (hble : ble ∈ t.devices) : ble.context ∈ t.life.contexts :=
  List.mem_map_of_mem hble

theorem life_set {f : Context → Context} (hptr : (t.devices.map (·.ptr)).Nodup)
    (hble : ble ∈ t.devices) (hsame : ble'.ptr = ble.ptr) (hf : ble'.context = f ble.context) :
    (t.set ble').life = t.life.update ble.ptr f := by
  have hcontexts : (devicesSet t.devices ble').map BleDevice.context =
      (t.devices.map BleDevice.context).map fun c => if c.ptr = ble.ptr then f c else c := by
    unfold devicesSet
    rw [List.map_map, List.map_map]
    refine List.map_congr_left fun d hd => ?_
    by_cases h : d.ptr = ble.ptr
    · obtain rfl := eq_of_ptr hptr hd hble h
      simp [BleDevice.context, hsame] at hf ⊢
      exact hf
    · have h' : ¬d.ptr = ble'.ptr := by rwa [hsame]
      simp [BleDevice.context, h, h']
  unfold Translator.set Translator.life Life.update
  rw [hcontexts]

theorem life_set_same (hptr : (t.devices.map (·.ptr)).Nodup) (hble : ble ∈ t.devices)
    (hsame : ble'.context = ble.context) : (t.set ble').life = t.life := by
  have hsame' : ble'.ptr = ble.ptr := congrArg Context.ptr hsame
  rw [life_set (f := id) hptr hble hsame' hsame]
  have hid : t.life.contexts.map (fun c => if c.ptr = ble.ptr then id c else c) =
      t.life.contexts := by
    simp
  unfold Life.update
  rw [hid]

theorem send_life (t : Translator) (r : Request) : (t.send r).life = t.life.send r := by
  unfold Translator.send Life.send
  cases hconnection : t.client.connection with
  | none =>
    have hlife : t.life.connection = none := hconnection
    rw [hlife]
  | some connection =>
    have hlife : t.life.connection = some connection := hconnection
    simp only [hlife]
    unfold Translator.life
    rw [hconnection]

theorem deviceStopRetryTimer_life (hptr : (t.devices.map (·.ptr)).Nodup) (hble : ble ∈ t.devices) :
    (deviceStopRetryTimer t ble).life = t.life.stop ble.context := by
  unfold deviceStopRetryTimer Life.stop
  by_cases h : ble.retryTimerSource = 0
  · rw [if_pos h, if_pos (show ble.context.retryTimerSource = 0 from h)]
  · rw [if_neg h, if_neg (show ¬ble.context.retryTimerSource = 0 from h)]
    exact life_set (t := { t with timers := _ }) hptr hble rfl rfl

theorem devicesDelDevice_life (hptr : (t.devices.map (·.ptr)).Nodup) (hble : ble ∈ t.devices) :
    (devicesDelDevice t ble).life = t.life.drop ble.context := by
  have hfilter : ∀ t₁ : Translator,
      Translator.life { t₁ with devices := t₁.devices.filter fun d => d.ptr ≠ ble.ptr } =
        { t₁.life with contexts := t₁.life.contexts.filter (·.ptr ≠ ble.context.ptr) } := by
    intro t₁
    unfold Translator.life
    simp only [List.filter_map]
    rfl
  unfold devicesDelDevice Life.drop
  rw [← deviceStopRetryTimer_life hptr hble]
  exact hfilter _

theorem ptEdgeDelDevice_life (hptr : (t.devices.map (·.ptr)).Nodup) (hble : ble ∈ t.devices) :
    (ptEdgeDelDevice t ble).life = t.life.delete ble.context := by
  have hdrop := devicesDelDevice_life hptr hble
  have hstop : (devicesDelDevice t ble).unregisteringDevices = t.life.unregisteringDevices := by
    unfold devicesDelDevice deviceStopRetryTimer
    split <;> rfl
  have hempty : (devicesDelDevice t ble).devices = [] ↔ (t.life.drop ble.context).contexts = [] := by
    rw [← hdrop]
    exact List.map_eq_nil_iff.symm
  unfold ptEdgeDelDevice Life.delete
  simp only [hstop, hempty]
  split
  · rw [← hdrop]
    rfl
  · exact hdrop

theorem armRetryTimer_life (hptr : (t.devices.map (·.ptr)).Nodup) (hble : ble ∈ t.devices)
    (delayMs : Nat) : (armRetryTimer t ble delayMs).life = t.life.arm ble.context delayMs := by
  unfold armRetryTimer Life.arm
  exact life_set (t := { t with timers := _, nextSource := _ }) hptr hble rfl rfl

/-! ## functions that are one change -/

theorem send_acts (t : Translator) {r : Request} (ha : P (.send r)) :
    Acts cfg P t.life (t.send r).life := by
  rw [send_life]
  exact .one (a := .send r) trivial ha

theorem addIdle_acts (t : Translator) {i : Idle} (hi : ∀ id, i.told? id = none)
    (ha : P (.queue i)) : Acts cfg P t.life (t.addIdle i).life :=
  .one (a := .queue i) hi ha

theorem devicesDelDevice_acts (hwf : WellFormed cfg t) (hble : ble ∈ t.devices)
    (ha : P (.drop ble.context)) : Acts cfg P t.life (devicesDelDevice t ble).life := by
  rw [devicesDelDevice_life hwf.ptr hble]
  exact .one (a := .drop _) (context_mem hble) ha

theorem ptEdgeDelDevice_acts (hwf : WellFormed cfg t) (hble : ble ∈ t.devices)
    (ha : P (.delete ble.context)) : Acts cfg P t.life (ptEdgeDelDevice t ble).life := by
  rw [ptEdgeDelDevice_life hwf.ptr hble]
  exact .one (a := .delete _) (context_mem hble) ha

theorem deviceStopRetryTimer_acts (hwf : WellFormed cfg t) (hble : ble ∈ t.devices)
    (ha : P (.stop ble.context)) : Acts cfg P t.life (deviceStopRetryTimer t ble).life := by
  rw [deviceStopRetryTimer_life hwf.ptr hble]
  exact .one (a := .stop _) (context_mem hble) ha

/-! ## the other functions -/

theorem edgeRegisterDevice_acts (ans : Answers) (t : Translator) {id : String}
    (ha : P (.send (.register id))) : Acts cfg P t.life (edgeRegisterDevice ans t id).life := by
  unfold edgeRegisterDevice
  simp only
  split
  · exact send_acts (t.addEffect _) ha
  · exact .refl

theorem deviceRegisterDevice_acts (ans : Answers) (t : Translator)
    (ha : P (.send (.register ble.deviceId))) :
    Acts cfg P t.life (deviceRegisterDevice ans t ble).life := by
  unfold deviceRegisterDevice
  split
  · exact .refl
  · exact edgeRegisterDevice_acts ans t ha

theorem protocolTranslatorRegistrationSuccess_acts (ans : Answers) (t : Translator)
    (ha : ∀ id, P (.send (.register id))) :
    Acts cfg P t.life (protocolTranslatorRegistrationSuccess ans t).life :=
  List.foldlRecOn (motive := fun t₁ : Translator => Acts cfg P t.life t₁.life) _ _ .refl
    fun t₁ h₁ d _ => h₁.trans (edgeRegisterDevice_acts ans t₁ (ha d.deviceId))

theorem resolve_life (ans : Answers) (hwf : WellFormed cfg t) (hble : ble ∈ t.devices) :
    (t.resolve cfg ans ble).life = t.life := by
  have hspec := resolveServices_spec cfg ans t ble
  obtain ⟨services, jsonList, translations, heq⟩ := hspec.fields
  have hclient : Translator.life { t with client := (resolveServices cfg ans t ble).2 } =
      t.life := by
    unfold Translator.life
    rw [hspec.grows.connection]
  rw [← hclient]
  exact life_set_same (t := { t with client := _ }) hwf.ptr hble (by rw [heq]; rfl)

theorem bleOnServicesResolved_acts (ans : Answers) (proxy : DeviceProxy) (hwf : WellFormed cfg t)
    (ha : ∀ id, P (.send (.register id))) :
    Acts cfg P t.life (bleOnServicesResolved cfg ans t proxy).life := by
  rcases bleOnServicesResolved_cases cfg ans t proxy with
    ⟨heq, -⟩ | ⟨ble, hfind, -, ⟨-, heq⟩ | ⟨-, heq⟩⟩
  · rw [heq]
    exact .refl
  · rw [heq]
    exact deviceRegisterDevice_acts ans t (ha _)
  · rw [heq, ← resolve_life ans hwf (mem_of_bleFindDeviceFromProxy hwf hfind).1]
    exact deviceRegisterDevice_acts ans _ (ha _)

theorem created_life {client : Client} {id : String} (h : Created id t.client client) :
    Translator.life { t with client } = t.life := by
  unfold Translator.life
  rw [h.connection]

theorem ptBlePtReady_acts (ans : Answers) (hwf : WellFormed cfg t)
    (ha : ∀ id, P (.send (.register id))) :
    Acts cfg P t.life (ptBlePtReady cfg ans t).life := by
  have hfold : WellFormed cfg (ptBlePtReady cfg ans t) ∧
      Acts cfg P t.life (ptBlePtReady cfg ans t).life := by
    refine List.foldlRecOn
      (motive := fun t₁ : Translator => WellFormed cfg t₁ ∧ Acts cfg P t.life t₁.life) _ _
      ⟨hwf, .refl⟩ fun t₁ ⟨hwf₁, h₁⟩ ptr _ => ⟨ptReadyDevice_wellFormed ans hwf₁ ptr, h₁.trans ?_⟩
    rcases ptReadyDevice_cases cfg ans t₁ ptr with heq | ⟨ble, -, -, -, -, client, hcreated, heq⟩
    · rw [heq]
      exact .refl
    · rw [heq, ← created_life hcreated]
      split
      · exact bleOnServicesResolved_acts ans _ (hwf₁.congr rfl rfl) ha
      · exact .refl
  exact hfold.2

theorem bleConnected_acts (ans : Answers) (proxy : DeviceProxy) (hwf : WellFormed cfg t)
    (hble : ble ∈ t.devices) (hdrop : creationRefused ans t ble = true → P (.drop ble.context))
    (ha : ∀ id, P (.send (.register id))) :
    Acts cfg P t.life (bleConnected cfg ans t proxy ble).life := by
  have hwf₁ : WellFormed cfg (t.set (refresh t ble)) := hwf.set hble rfl
  have hset : (t.set (refresh t ble)).life = t.life := life_set_same hwf.ptr hble rfl
  rcases bleConnected_cases cfg ans t proxy ble with
    ⟨-, heq⟩ | ⟨hconn, hmem, hcreate, heq⟩ | ⟨-, -, client, hcreated, heq⟩
  · rw [heq, hset]
    exact .refl
  · rw [heq, ← hset]
    refine devicesDelDevice_acts hwf₁ (refresh_mem hble) (hdrop ?_)
    simp [creationRefused, hconn, hmem, hcreate]
  · have hclient : Translator.life { t.set (refresh t ble) with client } = t.life := by
      rw [← hset]
      exact created_life (t := t.set (refresh t ble)) hcreated
    rw [heq, ← hclient]
    split
    · exact bleOnServicesResolved_acts ans proxy (hwf₁.congr rfl rfl) ha
    · exact .refl

theorem edgeUnregisterOrDelete_acts (ans : Answers) (hwf : WellFormed cfg t)
    (hble : ble ∈ t.devices) (hsend : P (.send (.unregister ble.deviceId true)))
    (hdelete : P (.delete ble.context)) :
    Acts cfg P t.life (edgeUnregisterOrDelete ans t ble).life := by
  unfold edgeUnregisterOrDelete
  rw [edgeUnregisterDevice_eq]
  by_cases h : unregisterFails ans t ble = true
  · rw [if_pos h]
    exact ptEdgeDelDevice_acts hwf hble hdelete
  · rw [if_neg h]
    exact send_acts t hsend

theorem giveUpDevice_acts (ans : Answers) (hwf : WellFormed cfg t) (hble : ble ∈ t.devices)
    {rm : Bool} (hsend : P (.send (.unregister ble.deviceId rm)))
    (hdelete : rm = true → P (.delete ble.context)) :
    Acts cfg P t.life (giveUpDevice ans t ble rm).life := by
  have hwf₁ : WellFormed cfg (t.addEffect (.gaveUp ble.deviceId rm)) := hwf.congr rfl rfl
  unfold giveUpDevice
  rw [edgeUnregisterDevice_eq]
  by_cases h : unregisterFails ans (t.addEffect (.gaveUp ble.deviceId rm)) ble = true
  · rw [if_pos h]
    cases rm with
    | true => exact ptEdgeDelDevice_acts hwf₁ hble (hdelete rfl)
    | false => exact .refl
  · rw [if_neg h]
    exact send_acts (t.addEffect (.gaveUp ble.deviceId rm)) hsend

theorem countRetry_context (ble : BleDevice) : (countRetry ble).context = ble.context := by
  unfold countRetry
  split <;> rfl

theorem bleStartReconnection_acts (ans : Answers) (hwf : WellFormed cfg t) (hble : ble ∈ t.devices)
    (hsend : ble.retryTimerSource = 0 → givesUp t ble = true →
      P (.send (.unregister ble.deviceId (removesDeviceContext t ble))))
    (hdelete : ble.retryTimerSource = 0 → givesUp t ble = true →
      removesDeviceContext t ble = true → P (.delete ble.context))
    (harm : ∀ delayMs, P (.arm ble.context delayMs)) :
    Acts cfg P t.life (bleStartReconnectionTimerOrUnregisterDevice ans t ble).life := by
  have hcontext := countRetry_context ble
  have hptr : (countRetry ble).ptr = ble.ptr := congrArg Context.ptr hcontext
  have hid : (countRetry ble).deviceId = ble.deviceId := congrArg Context.deviceId hcontext
  have hwf₁ : WellFormed cfg (t.set (countRetry ble)) := hwf.set hble (countRetry_quiet ble).key
  have hmem : countRetry ble ∈ (t.set (countRetry ble)).devices :=
    devicesSet_mem_of_ptr hble hptr.symm
  have hset : (t.set (countRetry ble)).life = t.life := life_set_same hwf.ptr hble hcontext
  -- the timer is armed for the context that is still there
  have harmed : ∀ t₁ : Translator, WellFormed cfg t₁ → countRetry ble ∈ t₁.devices →
      ble.retryTimerSource = 0 → ∀ delayMs,
        Acts cfg P t₁.life (armRetryTimer t₁ (countRetry ble) delayMs).life := by
    intro t₁ hwf₁ hmem₁ hzero delayMs
    rw [armRetryTimer_life hwf₁.ptr hmem₁, hcontext]
    have hmem' := context_mem hmem₁
    rw [hcontext] at hmem'
    exact .one (a := .arm _ _) ⟨hmem', hzero⟩ (harm delayMs)
  unfold bleStartReconnectionTimerOrUnregisterDevice
  by_cases hzero : ble.retryTimerSource = 0
  · rw [if_pos hzero]
    simp only
    rw [← hset]
    by_cases hgives : givesUp t ble = true
    · have hgiveUp : Acts cfg P (t.set (countRetry ble)).life
          (giveUpDevice ans (t.set (countRetry ble)) (countRetry ble)
            (removesDeviceContext t ble)).life := by
        refine giveUpDevice_acts ans hwf₁ hmem ?_ fun hrm => ?_
        · rw [hid]
          exact hsend hzero hgives
        · rw [hcontext]
          exact hdelete hzero hgives hrm
      rw [if_pos hgives]
      cases hrm : removesDeviceContext t ble with
      | true =>
        rw [hrm] at hgiveUp
        exact hgiveUp
      | false =>
        rw [hrm] at hgiveUp
        simp only [Bool.false_eq_true, if_false]
        refine hgiveUp.trans (harmed _ ?_ ?_ hzero _)
        · exact (giveUpDevice_frame ans hwf₁ hmem false).wellFormed hwf₁
        · rw [giveUpDevice_devices]
          exact hmem
    · have hno : removesDeviceContext t ble = false := by
        by_contra h
        exact hgives (givesUp_of_removesDeviceContext (by simpa using h))
      rw [if_neg hgives, hno]
      exact harmed _ hwf₁ hmem hzero _
  · rw [if_neg hzero]
    exact .refl

theorem bleRemoveDevice_acts (ans : Answers) (hwf : WellFormed cfg t) (hble : ble ∈ t.devices)
    (hstop : P (.stop ble.context)) (hcall : P (.call [.removeDevice ble.deviceId])) :
    Acts cfg P t.life (bleRemoveDevice ans t ble).life := by
  have hacts := deviceStopRetryTimer_acts hwf hble hstop
  unfold bleRemoveDevice
  simp only
  split
  · exact hacts.snoc (a := .call _) trivial hcall
  · exact hacts

theorem removeDevices_acts (ans : Answers) (devices : List BleDevice) (hwf : WellFormed cfg t)
    (hnodup : (devices.map (·.ptr)).Nodup) (hsub : devices ⊆ t.devices)
    (hstop : ∀ c, P (.stop c)) (hcall : ∀ id, P (.call [.removeDevice id])) :
    Acts cfg P t.life (devices.foldl (bleRemoveDevice ans) t).life := by
  induction devices generalizing t with
  | nil => exact .refl
  | cons d devices ih =>
    obtain ⟨hd, hnodup⟩ := List.nodup_cons.mp hnodup
    have hmem : d ∈ t.devices := hsub List.mem_cons_self
    have hwf₁ := (bleRemoveDevice_frame ans hwf hmem).wellFormed hwf
    refine (bleRemoveDevice_acts ans hwf hmem (hstop _) (hcall _)).trans
      (ih hwf₁ hnodup fun d' hd' => ?_)
    exact bleRemoveDevice_mem ans (hsub (List.mem_cons_of_mem _ hd')) fun hptr =>
      hd (List.mem_map.mpr ⟨d', hd', hptr⟩)

theorem unregisterDevices_acts (ans : Answers) (hwf : WellFormed cfg t)
    (hrunning : t.keepRunning = false) (hall : P .unregisterAll) (hstop : ∀ c, P (.stop c))
    (hcall : ∀ id, P (.call [.removeDevice id])) :
    Acts cfg P t.life (unregisterDevices ans t).life := by
  have hone : Acts cfg P t.life t.life.unregisterAll := .one (a := .unregisterAll) hrunning hall
  have hempty : t.life.contexts = [] ↔ t.devices = [] := List.map_eq_nil_iff
  unfold unregisterDevices
  split
  · exact .refl
  · unfold Life.unregisterAll at hone
    simp only [hempty] at hone ⊢
    split at hone
    · rename_i hnone
      rw [if_pos hnone]
      exact hone
    · rename_i hsome
      rw [if_neg hsome]
      exact hone.trans (removeDevices_acts (t := { t with unregisteringDevices := true }) ans
        t.devices (hwf.congr rfl rfl) hwf.ptr (List.Subset.refl _) hstop hcall)

theorem ptBleGracefulShutdown_acts (ans : Answers) (hwf : WellFormed cfg t)
    (hhalt : P .halt) (hall : P .unregisterAll) (hquit : P (.queue .quitLoop))
    (hstop : ∀ c, P (.stop c)) (hcall : ∀ id, P (.call [.removeDevice id])) :
    Acts cfg P t.life (ptBleGracefulShutdown ans t).life := by
  unfold ptBleGracefulShutdown
  split
  · have hflag : Acts cfg P t.life (Translator.life { t with keepRunning := false }) :=
      .one (a := .halt) trivial hhalt
    exact hflag.trans (unregisterDevices_acts (t := { t with keepRunning := false }) ans
      (hwf.congr rfl rfl) rfl hall hstop hcall)
  · rename_i hrunning
    rw [Bool.not_eq_true] at hrunning
    have hqueue : Acts cfg P t.life (t.addIdle .quitLoop).life :=
      addIdle_acts t (fun _ => rfl) hquit
    exact hqueue.trans (unregisterDevices_acts (t := t.addIdle .quitLoop) ans
      (hwf.congr rfl rfl) hrunning hall hstop hcall)

/-! ## the callbacks -/

theorem life_find (t : Translator) (id : String) :
    t.life.find id = (devicesFindDeviceByDeviceId t.devices id).map BleDevice.context := by
  unfold Life.find Translator.life devicesFindDeviceByDeviceId
  rw [List.find?_map]
  rfl

theorem deviceRegistered_life (hwf : WellFormed cfg t) (id : String) :
    (deviceRegistered t id).life = t.life.tell (.deviceRegistered id) := by
  simp only [deviceRegistered, Life.tell, life_find]
  cases hfind : devicesFindDeviceByDeviceId t.devices id with
  | none => rfl
  | some ble => exact life_set hwf.ptr (mem_of_devicesFindDeviceByDeviceId hfind).1 rfl rfl

theorem deviceUnregistered_life (hwf : WellFormed cfg t) (id : String) (deleteContext : Bool) :
    (deviceUnregistered t id deleteContext).life =
      t.life.tell (.deviceUnregistered id deleteContext) := by
  simp only [deviceUnregistered, Life.tell, life_find]
  cases hfind : devicesFindDeviceByDeviceId t.devices id with
  | none => rfl
  | some ble =>
    have hble := (mem_of_devicesFindDeviceByDeviceId hfind).1
    cases deleteContext with
    | true => exact ptEdgeDelDevice_life hwf.ptr hble
    | false => exact life_set hwf.ptr hble rfl rfl

/-- the first idle callback leaves the queue and runs -/
theorem runIdle_acts (ans : Answers) {i : Idle} {rest : List Idle} (hwf : WellFormed cfg t)
    (hidle : t.idle = i :: rest) (htell : P (.tell i)) (hregister : ∀ id, P (.send (.register id)))
    (hquit : P (.queue .quitLoop)) (hstop : ∀ c, P (.stop c))
    (hshutdown : i = .gracefulShutdown →
      P .halt ∧ P .unregisterAll ∧ ∀ id, P (.call [.removeDevice id])) :
    Acts cfg P t.life (runIdle cfg ans { t with idle := rest } i).life := by
  have hwf₁ : WellFormed cfg { t with idle := rest } := hwf.congr rfl rfl
  have hpop : Acts cfg P t.life (Life.tell { t.life with idle := rest } i) := by
    have hidle' : t.life.idle = i :: rest := hidle
    have hone : Acts cfg P t.life ((Act.tell i).apply t.life) :=
      .one (a := .tell i) (by rw [Act.Legal, hidle', List.head?_cons]) htell
    simp only [Act.apply, hidle', List.tail_cons] at hone
    exact hone
  cases i with
  | deviceRegistered id =>
    show Acts cfg P t.life (deviceRegistered { t with idle := rest } id).life
    rw [deviceRegistered_life hwf₁]
    exact hpop
  | deviceUnregistered id deleteContext =>
    show Acts cfg P t.life (deviceUnregistered { t with idle := rest } id deleteContext).life
    rw [deviceUnregistered_life hwf₁]
    exact hpop
  | ptReady => exact hpop.trans (ptBlePtReady_acts ans hwf₁ hregister)
  | quitLoop =>
    show Acts cfg P t.life (ptBleGMainQuitLoop { t with idle := rest }).life
    unfold ptBleGMainQuitLoop
    split <;> exact hpop
  | gracefulShutdown =>
    obtain ⟨hhalt, hall, hcall⟩ := hshutdown rfl
    exact hpop.trans (ptBleGracefulShutdown_acts ans hwf₁ hhalt hall hquit hstop hcall)

theorem answer_life (t : Translator) (request : Request) (ok : Bool) :
    (t.answer request ok).life = t.life.answer request ok := by
  cases request <;> cases ok <;> rfl

theorem protocolTranslatorRegistrationFailure_acts (t : Translator) (hhalt : P .halt)
    (hqueue : P (.queue .gracefulShutdown)) :
    Acts cfg P t.life (protocolTranslatorRegistrationFailure t).life := by
  have hflag : Acts cfg P t.life (Translator.life { t with keepRunning := false }) :=
    .one (a := .halt) trivial hhalt
  exact hflag.trans (addIdle_acts _ (fun _ => rfl) hqueue)

/-! ## values of characteristics -/

theorem life_set_client {client : Client} (hwf : WellFormed cfg t) (hble : ble ∈ t.devices)
    (hsame : ble'.context = ble.context) (hg : Grows t.client client) :
    Translator.life { t with devices := devicesSet t.devices ble', client } = t.life := by
  rw [← life_set_same hwf.ptr hble hsame]
  unfold Translator.life
  rw [hg.connection]
  rfl

theorem bleReadCharacteristicCallback_life (h : Host) {id : String} {i j : Nat}
    {outcome : ReadOutcome} {r : List BleDevice × Client} (hwf : WellFormed cfg t)
    (hr : bleReadCharacteristicCallback h t.client t.devices id i j outcome = some r) :
    Translator.life { t with devices := r.1, client := r.2 } = t.life := by
  have hclient := (bleReadCharacteristicCallback_frame h hwf hr).client
  unfold bleReadCharacteristicCallback at hr
  cases outcome with
  | failed =>
    cases hr
    rfl
  | reply reply =>
    simp only [Option.bind_eq_some_iff, Option.map_eq_some_iff] at hr
    obtain ⟨ble, hble, c, hc, rfl⟩ := hr
    exact life_set_client hwf (mem_of_devicesFindDeviceByDeviceId hble).1 rfl hclient

theorem deviceWriteCharacteristic_context (h : Host) (c : Client) (ble : BleDevice) (p : Path)
    (value : Bytes) (outcome : WriteOutcome) :
    (deviceWriteCharacteristic h c ble p value outcome).device.context = ble.context := by
  have hcases := deviceWriteCharacteristic_cases h c ble p value outcome
  generalize deviceWriteCharacteristic h c ble p value outcome = r at hcases ⊢
  cases hroute : writeRoute h c ble p value with
  | none =>
    rw [hroute] at hcases
    rw [hcases.device]
  | some route =>
    rw [hroute] at hcases
    by_cases hrc : r.rc = 0
    · rw [(hcases.stored hrc).1]
      rfl
    · rw [(hcases.failed hrc).1]

theorem resourceCallbackHandler_life (h : Host) (id : String) (p : Path) (operation : UInt8)
    (value : Bytes) (outcome : WriteOutcome) (hwf : WellFormed cfg t) :
    Translator.life { t with
      devices := (resourceCallbackHandler h t.keepRunning t.devices t.client id p operation value
        outcome).2.1
      client := (resourceCallbackHandler h t.keepRunning t.devices t.client id p operation value
        outcome).2.2 } = t.life := by
  unfold resourceCallbackHandler
  split
  · rfl
  · cases hfind : devicesFindDeviceByDeviceId t.devices id with
    | none => rfl
    | some ble =>
      simp only
      split
      · exact life_set_client hwf (mem_of_devicesFindDeviceByDeviceId hfind).1
          (deviceWriteCharacteristic_context ..) (deviceWriteCharacteristic_grows ..)
      · split <;> rfl

/-! ## events -/

theorem endCall_acts (t : Translator) {k : Nat} (ha : P (.endCall k)) :
    Acts cfg P t.life (Translator.life { t with calls := t.calls.eraseIdx k }) :=
  .one (a := .endCall k) trivial ha

theorem Event.may_connect {e : Event} (proxy : DeviceProxy) :
    e.may cfg ans t (.call [.connect proxy]) := by
  intro id hid
  cases List.mem_singleton.mp hid

theorem bleNewDevice_acts (proxy : DeviceProxy)
    (ha : ∀ c, c.proxy = proxy → P (.create c)) (hcall : P (.call [.connect proxy])) :
    Acts cfg P t.life (bleNewDevice cfg t proxy).life := by
  unfold bleNewDevice
  split
  · rename_i hrunning
    have hconnect : Acts cfg P (bleCreateDeviceContext cfg t proxy .persistentGattServer).life
        (bleProxyConnect (bleCreateDeviceContext cfg t proxy .persistentGattServer) proxy).life :=
      .one (a := .call _) trivial hcall
    refine Acts.trans ?_ hconnect
    rcases bleCreateDeviceContext_cases cfg t proxy .persistentGattServer with
      ⟨heq, -⟩ | ⟨a, haddr, hfind, heq⟩
    · rw [heq]
      exact .refl
    · have hlife : (bleCreateDeviceContext cfg t proxy .persistentGattServer).life =
          (Act.create (newContext cfg t proxy .persistentGattServer a).context).apply t.life := by
        rw [heq]
        simp only [Translator.life, Act.apply, List.map_append, List.map_cons, List.map_nil]
      have hnew : t.life.find (cfg.id a) = none := by
        rw [life_find]
        rw [bleFindDeviceFromProxy, haddr, Option.bind_some] at hfind
        rw [hfind]
        rfl
      rw [hlife]
      exact .one (a := .create _) ⟨hrunning, ⟨rfl, rfl, rfl⟩, rfl, hnew, a, haddr, rfl⟩ (ha _ rfl)
  · exact .refl

theorem retried_acts (ans : Answers) {e : Event} (hwf : WellFormed cfg t')
    (hble : ble' ∈ t'.devices) (hnow : t'.now = t.now) (hmem : ble ∈ t.devices)
    (hretried : retriedContext cfg t e = some ble)
    (hble' : ∃ connected, ble' = { ble with connected }) :
    Acts cfg (e.may cfg ans t) t'.life
      (bleStartReconnectionTimerOrUnregisterDevice ans t' ble').life := by
  obtain ⟨connected, rfl⟩ := hble'
  obtain ⟨hgives, hremoves⟩ := @giveUp_congr t t' ble { ble with connected } rfl rfl hnow
  refine bleStartReconnection_acts ans hwf hble (fun hzero h => ?_) (fun hzero h hrm => ?_)
    fun _ => trivial
  · rw [hremoves]
    exact ⟨ble, hmem, rfl, .unreachable hretried hzero (hgives ▸ h)⟩
  · have hwhy : Unregisters cfg t ble e (removesDeviceContext t ble) :=
      .unreachable hretried hzero (hgives ▸ h)
    rw [← hremoves, hrm] at hwhy
    exact ⟨ble, hmem, rfl, rfl, hwhy⟩

/-- the answer to a request, in the life cycle -/
theorem answered_life {k : Nat} {ok : Bool} {sent : Sent} (hk : t.requests[k]? = some sent) :
    Translator.life (Translator.answer { t with requests := t.requests.eraseIdx k } sent.request
      ok) = (Act.answer k ok).apply t.life := by
  have hk' : t.life.requests[k]? = some sent := hk
  rw [answer_life]
  simp only [Act.apply, hk']
  rfl

/-- **Every handler is a sequence of legal changes that its event may make.** -/
theorem handle_acts {e : Event} (hwf : WellFormed cfg t) (h : handle cfg ans t e = some t') :
    Acts cfg (e.may cfg ans t) t.life t'.life := by
  have hcalls : ∀ k, WellFormed cfg { t with calls := t.calls.eraseIdx k } :=
    fun k => hwf.congr rfl rfl
  cases handled_of_handle h with
  | tick _ | objectUnknown _ | linkUnknown _ _ | servicesUnresolved _ => exact .refl
  | @objectAdded proxy connected resolved links hlinks =>
    exact bleNewDevice_acts (t := { t with links }) proxy
      (fun c hc => ⟨connected, resolved, by rw [hc]⟩) (Event.may_connect proxy)
  | @objectRemoved _ ble hpath hfind =>
    have hble := List.mem_of_find?_eq_some hfind
    exact edgeUnregisterOrDelete_acts ans hwf hble ⟨ble, hble, rfl, .objectRemoved hpath hfind⟩
      ⟨ble, hble, rfl, rfl, .objectRemoved hpath hfind⟩
  | connectUnknown _ _ _ | removeUnknown _ => exact endCall_acts t trivial
  | @connected k proxy ble hcall hfind =>
    have hble := (mem_of_bleFindDeviceFromProxy hwf hfind).1
    refine (endCall_acts t trivial).trans (bleConnected_acts ans proxy (hcalls k) hble
      (fun hrefused => ⟨ble, ?_, rfl, hrefused⟩) fun _ => trivial)
    simp only [connectedContext, hcall, hfind]
  | @connectFailed k proxy ble hcall hfind =>
    have hble := (mem_of_bleFindDeviceFromProxy hwf hfind).1
    refine (endCall_acts t trivial).trans
      (retried_acts ans (hcalls k) hble rfl hble ?_ ⟨ble.connected, rfl⟩)
    simp only [retriedContext, hcall, hfind]
  | @removeDeviceDone k ble hcall hfind =>
    have hble := (mem_of_devicesFindDeviceByDeviceId hfind).1
    exact (endCall_acts t trivial).trans (edgeUnregisterOrDelete_acts ans (hcalls k) hble
      ⟨ble, hble, rfl, .removeDeviceDone hcall⟩ ⟨ble, hble, rfl, rfl, .removeDeviceDone hcall⟩)
  | @readReply k id srvc ch outcome r hcall hr =>
    have hsame := bleReadCharacteristicCallback_life (t := { t with calls := t.calls.eraseIdx k })
      cfg.host (hcalls k) hr
    exact (endCall_acts t trivial).trans (.of_eq hsame)
  | @linkUp proxy ble links hlinks hfind =>
    have hble := (mem_of_bleFindDeviceFromProxy hwf hfind).1
    exact .of_eq (life_set_same (t := { t with links }) hwf.ptr hble rfl)
  | @linkDown proxy ble links hlinks hfind =>
    have hlink : WellFormed cfg { t with links } := hwf.congr rfl rfl
    have hble := (mem_of_bleFindDeviceFromProxy hwf hfind).1
    have hset : Translator.life (Translator.set { t with links } { ble with connected := false }) =
        t.life := life_set_same (t := { t with links }) hwf.ptr hble rfl
    rw [← hset]
    exact retried_acts ans (hlink.set hble rfl) (devicesSet_mem_of_ptr hble rfl) rfl hble hfind
      ⟨false, rfl⟩
  | @servicesResolved proxy links hlinks =>
    exact bleOnServicesResolved_acts (t := { t with links }) ans proxy (hwf.congr rfl rfl)
      fun _ => trivial
  | @retryTimer k timer _ htimer hretry =>
    obtain ⟨ble, hfind, rfl⟩ := Option.map_eq_some_iff.mp hretry
    have hble := List.mem_of_find?_eq_some hfind
    have hptr : ble.ptr = timer.ptr := by
      have hyes := List.find?_some hfind
      simpa using hyes
    have hlife : Translator.life ((bleProxyConnect { t with timers := t.timers.eraseIdx k }
        ble.proxy).set { ble with retryTimerSource := 0 }) =
        (Act.call [.connect ble.proxy]).apply ((Act.fire k ble.context).apply t.life) :=
      life_set (t := bleProxyConnect { t with timers := t.timers.eraseIdx k } ble.proxy)
        hwf.ptr hble rfl rfl
    have hfire : Acts cfg (Event.may cfg ans t (.retryTimer k)) t.life
        ((Act.fire k ble.context).apply t.life) :=
      .one (a := .fire k _) ⟨context_mem hble, timer, htimer, hptr.symm⟩ rfl
    rw [hlife]
    exact hfire.snoc (a := .call _) trivial (Event.may_connect _)
  | @runIdle i rest hidle =>
    have hhead : t.idle.head? = some i := by rw [hidle, List.head?_cons]
    refine runIdle_acts ans hwf hidle ⟨rfl, hhead⟩ (fun _ => trivial) (fun heq => by cases heq)
      (fun _ => trivial) fun hi => ?_
    have hshuts : shutsDown t .runIdle := .inr ⟨rfl, by rw [hhead, hi]⟩
    exact ⟨.inr (.inr hshuts), hshuts, fun _ _ _ => hshuts⟩
  | readEverything =>
    obtain ⟨calls, heq, hreads⟩ := bleReadEverything_eq ans t
    rw [heq]
    refine .one (a := .call calls) trivial fun id hid => ?_
    obtain ⟨ble, -, i, j, hread, -⟩ := hreads _ hid
    cases hread
  | connectionReady connection =>
    have hconnect : Acts cfg (Event.may cfg ans t (.connectionReady connection)) t.life
        ((Act.connect connection).apply t.life) := .one trivial rfl
    exact hconnect.snoc (a := .queue .ptReady) (fun _ => rfl) fun heq => by cases heq
  | disconnected => exact .one (a := .disconnect) trivial rfl
  | translatorRegistered =>
    exact protocolTranslatorRegistrationSuccess_acts ans t fun _ => trivial
  | translatorRegistrationFailed =>
    exact protocolTranslatorRegistrationFailure_acts t (.inl rfl) fun _ => .inl rfl
  | connectionShutdown =>
    unfold shutdownCbHandler
    split
    · exact protocolTranslatorRegistrationFailure_acts t (.inr (.inl rfl)) fun _ => .inr rfl
    · exact .refl
  | shutdownSignal =>
    have hshuts : shutsDown t .shutdownSignal := .inl rfl
    exact ptBleGracefulShutdown_acts ans hwf (.inr (.inr hshuts)) hshuts
      (fun heq => by cases heq) (fun _ => trivial) fun _ _ _ => hshuts
  | @answered k ok sent hk hlive =>
    rw [answered_life hk]
    exact .one (a := .answer k ok) ⟨sent, hk, hlive⟩ rfl
  | resourceWrite id path operation value outcome hr =>
    rw [← hr]
    exact .of_eq (resourceCallbackHandler_life cfg.host id path operation value outcome hwf)

theorem Event.may_clear {e : Event} {a : Act} (h : e.may cfg ans { t with effects := [] } a) :
    e.may cfg ans t a := by
  have hwhy : ∀ {ble : BleDevice} {rm : Bool},
      Unregisters cfg { t with effects := [] } ble e rm → Unregisters cfg t ble e rm := by
    rintro ble rm (⟨hpath, hfind⟩ | hcall | ⟨hretried, hzero, hgives⟩)
    · exact .objectRemoved hpath hfind
    · exact .removeDeviceDone hcall
    · exact .unreachable hretried hzero hgives
  cases a with
  | delete c =>
    obtain ⟨ble, hble, hptr, hid, h⟩ := h
    exact ⟨ble, hble, hptr, hid, hwhy h⟩
  | send r =>
    cases r with
    | register id => trivial
    | unregister id deleteContext =>
      obtain ⟨ble, hble, hid, h⟩ := h
      exact ⟨ble, hble, hid, hwhy h⟩
  | _ => exact h

/-- **A step is a sequence of legal changes that its event may make.** -/
theorem step_acts {label : Event × Answers} (hwf : WellFormed cfg t)
    (h : step cfg t label = some t') : Acts cfg (label.1.may cfg label.2 t) t.life t'.life :=
  (handle_acts hwf.clear (handle_of_step h)).mono fun _ => Event.may_clear

theorem life_wellFormed (hwf : WellFormed cfg t) : t.life.WellFormed cfg where
  ptr := by
    show ((t.devices.map BleDevice.context).map (·.ptr)).Nodup
    rw [List.map_map]
    exact hwf.ptr
  fresh c hc := by
    obtain ⟨d, hd, rfl⟩ := List.mem_map.mp hc
    exact hwf.fresh d hd
  id := by
    show ((t.devices.map BleDevice.context).map (·.deviceId)).Nodup
    rw [List.map_map]
    exact hwf.id
  address c hc := by
    obtain ⟨d, hd, rfl⟩ := List.mem_map.mp hc
    exact hwf.address d hd

/-- what the changes of every step keep holds in every run -/
theorem run_life {Inv : Life → Prop} {ok : Translator → Event × Answers → Prop} {now : Nat}
    {connection : Option Nat} {labels : List (Event × Answers)}
    (h : Run (step cfg) ok (start now connection) labels t)
    (hstart : Inv (start now connection).life)
    (hkeep : ∀ (s : Translator) (label : Event × Answers), ok s label → ∀ (l : Life) (a : Act),
      l.WellFormed cfg → Inv l → a.Legal cfg l → label.1.may cfg label.2 s a → Inv (a.apply l)) :
    Inv t.life := by
  have hwf := Run.strengthen (J := WellFormed cfg) (fun _ _ hrun => run_wellFormed hrun) h
  have hstep : ∀ (s : Translator) (label : Event × Answers) (s' : Translator), Inv s.life →
      ok s label ∧ WellFormed cfg s → step cfg s label = some s' → Inv s'.life :=
    fun s label s' hs hok hstep =>
      (step_acts hok.2 hstep).keeps (life_wellFormed hok.2) hs (hkeep s label hok.1)
  exact @Run.invariant _ _ _ _ _ _ _ (fun t => Inv t.life) hwf hstart hstep

end

end EdgeTranslators.Ble
