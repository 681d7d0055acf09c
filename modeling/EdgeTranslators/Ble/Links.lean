import EdgeTranslators.Ble.Contexts

/-!
# The links and the clock in a run

* `Event.linkStep`     what an event does to the links and the clock, before its handler runs;
* `handle_links`       the handler leaves both alone;
* `retriedContext`     the context whose reconnection timer an event starts;
* `handle_gaveUp`      no other device is given up.
-/

namespace EdgeTranslators.Ble
open Lib Pt

/-- the links and the clock after an event -/
def Event.linkStep (cfg : Config) (t : Translator) : Event → Translator
  | .tick seconds => t.tick seconds
  | .objectAdded proxy connected servicesResolved =>
    if t.keepRunning ∧ bleFindDeviceFromProxy cfg t proxy = none then
      (t.connectedChanged proxy connected).servicesResolvedChanged proxy servicesResolved
    else t
  | .connectedChanged proxy value => t.connectedChanged proxy value
  | .servicesResolvedChanged proxy value => t.servicesResolvedChanged proxy value
  | _ => t

/-- the context of `ble_start_reconnection_timer_or_unregister_device`, if an event calls it -/
def retriedContext (cfg : Config) (t : Translator) : Event → Option BleDevice
  | .connectDone k false =>
    match t.calls[k]? with
    | some (.connect proxy) => bleFindDeviceFromProxy cfg t proxy
    | _ => none
  | .connectedChanged proxy false => bleFindDeviceFromProxy cfg t proxy
  | _ => none

/-- the links, the clock and the devices given up are those of before -/
structure SameLinks (t t' : Translator) : Prop where
  now : t'.now = t.now
  links : t'.links = t.links
  gaveUp : ∀ id rm, Effect.gaveUp id rm ∈ t'.effects → Effect.gaveUp id rm ∈ t.effects

section
variable {cfg : Config} {D : String → Prop} {R : Request → Prop} {E : Effect → Prop}
  {ans : Answers} {t t' t'' : Translator} {ble : BleDevice} {proxy : DeviceProxy}

theorem SameLinks.refl (t : Translator) : SameLinks t t := ⟨rfl, rfl, fun _ _ h => h⟩

theorem SameLinks.trans (h : SameLinks t t') (h' : SameLinks t' t'') : SameLinks t t'' :=
  ⟨h'.now.trans h.now, h'.links.trans h.links, fun id rm he => h.gaveUp id rm (h'.gaveUp id rm he)⟩

theorem SameLinks.congr (hnow : t'.now = t.now) (hlinks : t'.links = t.links)
    (heffects : t'.effects = t.effects) : SameLinks t t' :=
  ⟨hnow, hlinks, fun _ _ h => by rwa [heffects] at h⟩

theorem Frame.sameLinks (h : Frame D R E t t') (hE : ∀ id rm, ¬E (.gaveUp id rm)) :
    SameLinks t t' :=
  ⟨h.now, h.links, fun id rm he => (h.effects _ he).resolve_right (hE id rm)⟩

theorem Frame.sameLinks_of_still (h : Still t t') : SameLinks t t' := h.sameLinks fun _ _ hE => hE

/-! ## the handlers -/

theorem bleOnServicesResolved_sameLinks (cfg : Config) (ans : Answers) (t : Translator)
    (proxy : DeviceProxy) : SameLinks t (bleOnServicesResolved cfg ans t proxy) := by
  have hregister : ∀ t₁ d, SameLinks t₁ (deviceRegisterDevice ans t₁ d) := fun t₁ d =>
    (deviceRegisterDevice_frame (D := fun _ => False) ans t₁ d).sameLinks nofun
  rcases bleOnServicesResolved_cases cfg ans t proxy with
    ⟨heq, -⟩ | ⟨ble, -, -, ⟨-, heq⟩ | ⟨-, heq⟩⟩
  · rw [heq]
    exact .refl t
  · rw [heq]
    exact hregister t ble
  · rw [heq]
    have hresolve : SameLinks t (t.resolve cfg ans ble) := .congr rfl rfl rfl
    exact hresolve.trans (hregister _ _)

theorem bleConnected_sameLinks (ans : Answers) (proxy : DeviceProxy) (hwf : WellFormed cfg t)
    (hble : ble ∈ t.devices) : SameLinks t (bleConnected cfg ans t proxy ble) := by
  rcases bleConnected_cases cfg ans t proxy ble with
    ⟨-, heq⟩ | ⟨-, -, -, heq⟩ | ⟨-, -, client, -, heq⟩
  · rw [heq]
    exact .congr rfl rfl rfl
  · have hset : SameLinks t (t.set (refresh t ble)) := .congr rfl rfl rfl
    have hwf₁ : WellFormed cfg (t.set (refresh t ble)) := hwf.set hble rfl
    have hdel : Frame (· = ble.deviceId) (fun _ => False) (fun _ => False)
        (t.set (refresh t ble)) (devicesDelDevice (t.set (refresh t ble)) (refresh t ble)) :=
      devicesDelDevice_frame hwf₁ (refresh_mem hble)
    rw [heq]
    exact hset.trans (hdel.sameLinks fun _ _ hE => hE)
  · have hclient : SameLinks t { t.set (refresh t ble) with client } := .congr rfl rfl rfl
    rw [heq]
    split
    · exact hclient.trans (bleOnServicesResolved_sameLinks ..)
    · exact hclient

theorem ptBlePtReady_sameLinks (cfg : Config) (ans : Answers) (t : Translator) :
    SameLinks t (ptBlePtReady cfg ans t) := by
  refine List.foldlRecOn (motive := SameLinks t) _ _ (.refl t) fun t₁ h₁ ptr _ => h₁.trans ?_
  rcases ptReadyDevice_cases cfg ans t₁ ptr with heq | ⟨ble, -, -, -, -, client, -, heq⟩
  · rw [heq]
    exact .refl t₁
  · have hclient : SameLinks t₁ { t₁ with client } := .congr rfl rfl rfl
    rw [heq]
    split
    · exact hclient.trans (bleOnServicesResolved_sameLinks ..)
    · exact hclient

theorem edgeUnregisterOrDelete_sameLinks (ans : Answers) (hwf : WellFormed cfg t)
    (hble : ble ∈ t.devices) : SameLinks t (edgeUnregisterOrDelete ans t ble) :=
  (edgeUnregisterOrDelete_frame (E := fun _ => False) ans hwf hble).sameLinks fun _ _ hE => hE

theorem bleNewDevice_sameLinks (cfg : Config) (t : Translator) (proxy : DeviceProxy) :
    SameLinks t (bleNewDevice cfg t proxy) := by
  unfold bleNewDevice
  split
  · refine SameLinks.trans ?_ (Frame.sameLinks_of_still (addCall_frame _ nofun))
    rcases bleCreateDeviceContext_cases cfg t proxy .persistentGattServer with
      ⟨heq, -⟩ | ⟨a, -, -, heq⟩
    · rw [heq]
      exact .refl t
    · rw [heq]
      exact .congr rfl rfl rfl
  · exact .refl t

theorem runIdle_sameLinks (ans : Answers) (i : Idle) (hwf : WellFormed cfg t) :
    SameLinks t (runIdle cfg ans t i) := by
  cases i with
  | deviceRegistered id =>
    show SameLinks t (deviceRegistered t id)
    unfold deviceRegistered
    cases devicesFindDeviceByDeviceId t.devices id with
    | none => exact .refl t
    | some ble => exact .congr rfl rfl rfl
  | deviceUnregistered id deleteContext =>
    show SameLinks t (deviceUnregistered t id deleteContext)
    unfold deviceUnregistered
    cases hfind : devicesFindDeviceByDeviceId t.devices id with
    | none => exact .refl t
    | some ble =>
      cases deleteContext with
      | true =>
        have hdel : Frame (· = ble.deviceId) (fun _ => False) (fun _ => False) t
            (ptEdgeDelDevice t ble) :=
          ptEdgeDelDevice_frame hwf (mem_of_devicesFindDeviceByDeviceId hfind).1
        exact hdel.sameLinks fun _ _ hE => hE
      | false => exact .congr rfl rfl rfl
  | ptReady => exact ptBlePtReady_sameLinks cfg ans t
  | quitLoop => exact (ptBleGMainQuitLoop_frame t).sameLinks_of_still
  | gracefulShutdown => exact (ptBleGracefulShutdown_frame ans hwf).sameLinks_of_still

/-- what a handler does to the links, and whom it gives up -/
structure Linked (cfg : Config) (t : Translator) (e : Event) (t' : Translator) : Prop where
  now : t'.now = (e.linkStep cfg t).now
  links : t'.links = (e.linkStep cfg t).links
  gaveUp : ∀ id rm, Effect.gaveUp id rm ∈ t'.effects → Effect.gaveUp id rm ∈ t.effects ∨
    ∃ ble, retriedContext cfg t e = some ble ∧ id = ble.deviceId ∧ ble.retryTimerSource = 0 ∧
      givesUp t ble = true ∧ rm = removesDeviceContext t ble

theorem SameLinks.linked {e : Event} (h : SameLinks (e.linkStep cfg t) t')
    (heffects : (e.linkStep cfg t).effects = t.effects) : Linked cfg t e t' :=
  ⟨h.now, h.links, fun id rm he => .inl (heffects ▸ h.gaveUp id rm he)⟩

theorem bleStartReconnection_linked (ans : Answers) {e : Event} {ble' : BleDevice}
    (hwf : WellFormed cfg t') (hble : ble' ∈ t'.devices)
    (hnow : t'.now = t.now) (hlinks : t'.links = (e.linkStep cfg t).links)
    (hclock : (e.linkStep cfg t).now = t.now) (heffects : t'.effects = t.effects)
    (hretried : retriedContext cfg t e = some ble)
    (hble' : ∃ connected, ble' = { ble with connected }) :
    Linked cfg t e (bleStartReconnectionTimerOrUnregisterDevice ans t' ble') := by
  obtain ⟨connected, rfl⟩ := hble'
  have hframe := bleStartReconnection_frame ans hwf hble
  obtain ⟨hgives, hremoves⟩ := @giveUp_congr t t' ble { ble with connected } rfl rfl hnow
  refine ⟨hframe.now.trans (hnow.trans hclock.symm), hframe.links.trans hlinks, fun id rm he => ?_⟩
  rcases hframe.effects _ he with he | ⟨heq, hzero, hg⟩
  · exact .inl (heffects ▸ he)
  · obtain ⟨hid, hrm⟩ := Effect.gaveUp.inj heq
    exact .inr ⟨ble, hretried, hid, hzero, hgives ▸ hg, hrm.trans hremoves⟩

/-- **A handler gives up no device but the one it retries.** -/
theorem handle_linked {e : Event} (hwf : WellFormed cfg t) (h : handle cfg ans t e = some t') :
    Linked cfg t e t' := by
  have hcalls : ∀ k, WellFormed cfg { t with calls := t.calls.eraseIdx k } :=
    fun k => hwf.congr rfl rfl
  have hsame : ∀ k, SameLinks t { t with calls := t.calls.eraseIdx k } := fun _ => .congr rfl rfl rfl
  cases handled_of_handle h with
  | tick _ => exact SameLinks.linked (.refl _) rfl
  | objectUnknown _ => exact SameLinks.linked (.refl t) rfl
  | @objectAdded proxy connected resolved links hlinks =>
    have hstep : (Event.objectAdded proxy connected resolved).linkStep cfg t = { t with links } :=
      hlinks
    refine SameLinks.linked ?_ (by rw [hstep])
    rw [hstep]
    exact bleNewDevice_sameLinks ..
  | objectRemoved hpath hfind =>
    exact SameLinks.linked
      (edgeUnregisterOrDelete_sameLinks ans hwf (List.mem_of_find?_eq_some hfind)) rfl
  | connectUnknown _ _ _ | removeUnknown _ => exact SameLinks.linked (hsame _) rfl
  | connected hcall hfind =>
    have hble := (mem_of_bleFindDeviceFromProxy hwf hfind).1
    exact SameLinks.linked ((hsame _).trans (bleConnected_sameLinks ans _ (hcalls _) hble)) rfl
  | @connectFailed k _ ble hcall hfind =>
    have hble := (mem_of_bleFindDeviceFromProxy hwf hfind).1
    refine bleStartReconnection_linked ans (hcalls k) hble rfl rfl rfl rfl ?_ ⟨ble.connected, rfl⟩
    simp only [retriedContext, hcall, hfind]
  | removeDeviceDone hcall hfind =>
    have hble := (mem_of_devicesFindDeviceByDeviceId hfind).1
    exact SameLinks.linked
      ((hsame _).trans (edgeUnregisterOrDelete_sameLinks ans (hcalls _) hble)) rfl
  | readReply _ _ | connectionReady _ | disconnected =>
    exact SameLinks.linked (.congr rfl rfl rfl) rfl
  | @linkUnknown proxy value links hlinks hfind =>
    have hstep : (Event.connectedChanged proxy value).linkStep cfg t = { t with links } := hlinks
    refine SameLinks.linked ?_ (by rw [hstep])
    rw [hstep]
    exact .refl _
  | @linkUp proxy ble links hlinks hfind =>
    have hstep : (Event.connectedChanged proxy true).linkStep cfg t = { t with links } := hlinks
    refine SameLinks.linked ?_ (by rw [hstep])
    rw [hstep]
    exact .congr rfl rfl rfl
  | @linkDown proxy ble links hlinks hfind =>
    have hstep : (Event.connectedChanged proxy false).linkStep cfg t = { t with links } := hlinks
    have hlink : WellFormed cfg { t with links } := hwf.congr rfl rfl
    have hble := (mem_of_bleFindDeviceFromProxy hwf hfind).1
    refine bleStartReconnection_linked ans (hlink.set hble rfl) (devicesSet_mem_of_ptr hble rfl)
      rfl ?_ ?_ rfl hfind ⟨false, rfl⟩
    · rw [hstep]
      rfl
    · rw [hstep]
  | @servicesResolved proxy links hlinks =>
    have hstep : (Event.servicesResolvedChanged proxy true).linkStep cfg t = { t with links } :=
      hlinks
    refine SameLinks.linked ?_ (by rw [hstep])
    rw [hstep]
    exact bleOnServicesResolved_sameLinks ..
  | @servicesUnresolved proxy links hlinks =>
    have hstep : (Event.servicesResolvedChanged proxy false).linkStep cfg t = { t with links } :=
      hlinks
    refine SameLinks.linked ?_ (by rw [hstep])
    rw [hstep]
    exact .refl _
  | @retryTimer k _ _ htimer hretry =>
    have hwf₁ : WellFormed cfg { t with timers := t.timers.eraseIdx k } := hwf.congr rfl rfl
    have htimers : SameLinks t { t with timers := t.timers.eraseIdx k } := .congr rfl rfl rfl
    exact SameLinks.linked (htimers.trans (bleRetryConnect_frame hwf₁ hretry).sameLinks_of_still) rfl
  | @runIdle i rest hidle =>
    have hwf₁ : WellFormed cfg { t with idle := rest } := hwf.congr rfl rfl
    have hrest : SameLinks t { t with idle := rest } := .congr rfl rfl rfl
    exact SameLinks.linked (hrest.trans (runIdle_sameLinks ans i hwf₁)) rfl
  | readEverything =>
    obtain ⟨calls, heq, -⟩ := bleReadEverything_eq ans t
    rw [heq]
    exact SameLinks.linked (.congr rfl rfl rfl) rfl
  | translatorRegistered =>
    have hframe := protocolTranslatorRegistrationSuccess_frame (D := fun _ => False) ans t
    refine SameLinks.linked (hframe.sameLinks fun id rm hE => ?_) rfl
    obtain ⟨d, -, heq⟩ := hE
    cases heq
  | translatorRegistrationFailed =>
    exact SameLinks.linked (protocolTranslatorRegistrationFailure_frame t).sameLinks_of_still rfl
  | connectionShutdown =>
    exact SameLinks.linked (shutdownCbHandler_frame t).sameLinks_of_still rfl
  | shutdownSignal =>
    exact SameLinks.linked (ptBleGracefulShutdown_frame ans hwf).sameLinks_of_still rfl
  | @answered k ok sent hk hlive =>
    refine SameLinks.linked ?_ rfl
    cases sent.request <;> cases ok <;> exact .congr rfl rfl rfl
  | resourceWrite id path operation value outcome hr =>
    rw [← hr]
    have hframe := resourceCallbackHandler_frame cfg.host id path operation value outcome hwf
    exact SameLinks.linked hframe.sameLinks_of_still rfl

end

end EdgeTranslators.Ble
