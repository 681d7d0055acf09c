import EdgeTranslators.Ble.Acts

/-!
# Present devices stay tracked

* `Exporting`, `exportStep`     a run, and the device objects that BlueZ exports;
* `StaysUp`                     the translator does not shut down, and removes no device for good;
* `KeepsTracked`                no step deletes the context of a device that BlueZ exports, or leaves
                                an exported device without one;
* `Doomed l id`                 Edge is asked, or has just been asked, to unregister a device, and its
                                context is deleted when this is done;
* `tracked_of_exported`         in such runs every exported device has a context.
-/

namespace EdgeTranslators.Ble
open Lib Pt

/-! ## exported objects -/

structure Exporting where
  translator : Translator
  /-- the device objects that BlueZ exports, of those that were to be connected to when they were
  added -/
  exported : List DeviceProxy

def Event.exports (exported : List DeviceProxy) : Event → List DeviceProxy
  | .objectAdded proxy _ _ => proxy :: exported
  | .objectRemoved path => exported.filter (·.path ≠ path)
  | _ => exported

def exportStep (cfg : Config) (s : Exporting) (label : Event × Answers) : Option Exporting :=
  (step cfg s.translator label).map fun t' =>
    { translator := t', exported := label.1.exports s.exported }

/-! ## conditions -/

/-- the event starts a shutdown -/
def Event.shuts : Event → Bool
  | .translatorRegistrationFailed => true
  | .connectionShutdown => true
  | .shutdownSignal => true
  | _ => false

/-- no shutdown starts, and no context is removed because its device was gone for a day -/
def StaysUp (cfg : Config) (t : Translator) (label : Event × Answers) : Prop :=
  label.1.shuts = false ∧ ∀ ble ∈ retriedContext cfg t label.1,
    ble.retryTimerSource = 0 → removesDeviceContext t ble = false

/-- the context of the device is to be deleted when its unregistration is done -/
def Doomed (l : Life) (id : String) : Prop :=
  (∃ sent ∈ l.requests, sent.request = .unregister id true) ∨
    Idle.deviceUnregistered id true ∈ l.idle

/-- the object is of the device with the id -/
def DeviceProxy.isOf (cfg : Config) (proxy : DeviceProxy) (id : String) : Prop :=
  proxy.address.map cfg.id = some id

/-- an object is added that has an address, while its device is not doomed; an object is removed,
and no other of its device is exported; the context of an exported device is not freed when its
device connects -/
def KeepsTracked (cfg : Config) (s : Exporting) : Event × Answers → Prop
  | (.objectAdded proxy _ _, _) =>
    proxy.address ≠ none ∧ ∀ a ∈ proxy.address, ¬Doomed s.translator.life (cfg.id a)
  | (.objectRemoved path, _) =>
    path ≠ cfg.bluezHciPath → ∀ ble ∈ devicesFindDeviceByDbusPath s.translator.devices path,
      ∀ p ∈ s.exported, p.isOf cfg ble.deviceId → p.path = path
  | (.connectDone k ok, ans) =>
    ∀ ble ∈ connectedContext cfg s.translator (.connectDone k ok),
      creationRefused ans s.translator ble = true →
        ∀ p ∈ s.exported, ¬p.isOf cfg ble.deviceId
  | _ => True

instance (cfg : Config) (t : Translator) (label : Event × Answers) :
    Decidable (StaysUp cfg t label) := by
  unfold StaysUp
  infer_instance

instance (l : Life) (id : String) : Decidable (Doomed l id) := by
  unfold Doomed
  infer_instance

instance (cfg : Config) (proxy : DeviceProxy) (id : String) : Decidable (proxy.isOf cfg id) := by
  unfold DeviceProxy.isOf
  infer_instance

instance (cfg : Config) (s : Exporting) :
    (label : Event × Answers) → Decidable (KeepsTracked cfg s label)
  | (.objectAdded _ _ _, _) | (.objectRemoved _, _) | (.connectDone _ _, _) => by
    dsimp only [KeepsTracked]
    infer_instance
  | (.tick _, _) | (.removeDeviceDone _, _) | (.readReply _ _, _) | (.connectedChanged _ _, _)
  | (.servicesResolvedChanged _ _, _) | (.retryTimer _, _) | (.runIdle, _)
  | (.readEverything, _) | (.connectionReady _, _) | (.disconnected, _)
  | (.translatorRegistered, _) | (.translatorRegistrationFailed, _) | (.connectionShutdown, _)
  | (.shutdownSignal, _) | (.answered _ _, _) | (.resourceWrite _ _ _ _ _, _) =>
    .isTrue trivial

/-! ## what the changes of a step keep -/

/-- no shutdown is under way -/
structure Up (l : Life) : Prop where
  keepRunning : l.keepRunning = true
  idle : .gracefulShutdown ∉ l.idle
  calls : ∀ id, .removeDevice id ∉ l.calls

/-- a context has the id -/
def HasContext (l : Life) (id : String) : Prop := id ∈ l.contexts.map (·.deviceId)

section
variable {cfg : Config} {ans : Answers} {t : Translator} {l l' : Life} {a : Act} {c : Context}
  {id : String}

theorem hasContext_of_keys (hkeys : l'.contexts.map Context.key = l.contexts.map Context.key)
    (h : HasContext l id) : HasContext l' id := by
  have hids : ∀ cs : List Context, cs.map (·.deviceId) =
      (cs.map Context.key).map fun k => k.2.1 := fun cs => by
    rw [List.map_map]
    rfl
  unfold HasContext at h ⊢
  rw [hids] at h ⊢
  rwa [hkeys]

theorem hasContext_drop (hwf : l.WellFormed cfg) (hc : c ∈ l.contexts) (h : HasContext l id)
    (hne : c.deviceId ≠ id) : HasContext (l.drop c) id := by
  obtain ⟨d, hd, rfl⟩ := List.mem_map.mp h
  refine List.mem_map_of_mem (Life.mem_drop_of_ne hd fun hptr => hne ?_)
  rw [hwf.eq_of_ptr hc hd hptr]

theorem hasContext_delete (hwf : l.WellFormed cfg) (hc : c ∈ l.contexts) (h : HasContext l id)
    (hne : c.deviceId ≠ id) : HasContext (l.delete c) id := by
  unfold HasContext
  rw [(Life.delete_contexts l c).1]
  exact hasContext_drop hwf hc h hne

theorem hasContext_tell (hwf : l.WellFormed cfg) (h : HasContext l id) {i : Idle}
    (hi : i ≠ .deviceUnregistered id true) : HasContext (l.tell i) id := by
  cases i with
  | deviceRegistered id' =>
    simp only [Life.tell]
    cases l.find id' with
    | none => exact h
    | some c => exact hasContext_of_keys (Life.update_keys fun _ => rfl) h
  | deviceUnregistered id' deleteContext =>
    simp only [Life.tell]
    cases hfind : l.find id' with
    | none => exact h
    | some c =>
      cases deleteContext with
      | true =>
        obtain ⟨hc, hid⟩ := Life.mem_of_find hfind
        refine hasContext_delete hwf hc h fun heq => hi ?_
        rw [← heq, hid]
      | false => exact hasContext_of_keys (Life.update_keys fun _ => rfl) h
  | _ => exact h

/-- a device keeps its context, if it is not doomed and the context is not freed -/
theorem hasContext_apply (hwf : l.WellFormed cfg) (hlegal : a.Legal cfg l) (h : HasContext l id)
    (hkept : ¬Doomed l id) (hdrop : ∀ c, a = .drop c → c.deviceId ≠ id)
    (hdelete : ∀ c, a = .delete c → c.deviceId ≠ id) : HasContext (a.apply l) id := by
  cases a with
  | create c =>
    obtain ⟨d, hd, hid⟩ := List.mem_map.mp h
    exact List.mem_map.mpr ⟨d, List.mem_append_left _ hd, hid⟩
  | drop c => exact hasContext_drop hwf hlegal h (hdrop c rfl)
  | delete c => exact hasContext_delete hwf hlegal h (hdelete c rfl)
  | arm c delayMs => exact hasContext_of_keys (Life.update_keys fun _ => rfl) h
  | stop c => exact hasContext_of_keys (Life.stop_keys l c) h
  | send r =>
    unfold HasContext
    rw [Act.apply, Life.send_contexts]
    exact h
  | fire k c => exact hasContext_of_keys (Life.update_keys fun _ => rfl) h
  | unregisterAll =>
    simp only [Act.apply, Life.unregisterAll]
    split <;> exact h
  | tell i =>
    have hwf' : Life.WellFormed cfg { l with idle := l.idle.tail } := hwf.congr rfl rfl
    refine hasContext_tell hwf' h fun hi => hkept (.inr ?_)
    rw [← hi]
    exact List.mem_of_mem_head? hlegal
  | answer k ok =>
    simp only [Act.apply]
    split
    · exact h
    · rename_i sent _
      unfold HasContext
      rw [(Life.answer_contexts _ sent.request ok).1]
      exact h
  | _ => exact h

theorem not_doomed_of (h : ¬Doomed l id) (hrequests : l'.requests ⊆ l.requests)
    (hidle : ∀ i ∈ l'.idle, i ∈ l.idle ∨ i ≠ .deviceUnregistered id true) : ¬Doomed l' id := by
  rintro (⟨sent, hsent, hreq⟩ | hmem)
  · exact h (.inl ⟨sent, hrequests hsent, hreq⟩)
  · rcases hidle _ hmem with hold | hne
    · exact h (.inr hold)
    · exact hne rfl

theorem mem_append_or {i j : Idle} {idle : List Idle} (hj : i ∈ idle ++ [j])
    (hne : j ≠ .deviceUnregistered id true) : i ∈ idle ∨ i ≠ .deviceUnregistered id true := by
  rcases List.mem_append.mp hj with hi | hi
  · exact .inl hi
  · rw [List.mem_singleton.mp hi]
    exact .inr hne

/-- the quit of the loop may join the queue -/
theorem mem_quit_or {i : Idle} {idle idle' : List Idle}
    (hidle : idle' = idle ∨ idle' = idle ++ [Idle.quitLoop]) (hi : i ∈ idle') :
    i ∈ idle ∨ i = .quitLoop := by
  rcases hidle with rfl | rfl
  · exact .inl hi
  · exact (List.mem_append.mp hi).imp_right List.mem_singleton.mp

theorem not_doomed_quit (h : ¬Doomed l id) (hrequests : l'.requests = l.requests)
    (hidle : l'.idle = l.idle ∨ l'.idle = l.idle ++ [Idle.quitLoop]) : ¬Doomed l' id := by
  refine not_doomed_of h (by rw [hrequests]; exact List.Subset.refl _) fun i hi => ?_
  refine (mem_quit_or hidle hi).imp_right ?_
  rintro rfl
  exact nofun

/-- a device is doomed only by a request -/
theorem apply_not_doomed (hlegal : a.Legal cfg l) (h : ¬Doomed l id)
    (hsend : a ≠ .send (.unregister id true)) : ¬Doomed (a.apply l) id := by
  cases a with
  | drop c =>
    obtain ⟨contexts, timers, heq⟩ := Life.drop_eq l c
    rw [Act.apply, heq]
    exact h
  | delete c =>
    obtain ⟨contexts, timers, idle, hidle, heq⟩ := Life.delete_eq l c
    rw [Act.apply, heq]
    exact not_doomed_quit h rfl hidle
  | stop c =>
    obtain ⟨contexts, timers, heq⟩ := Life.stop_eq l c
    rw [Act.apply, heq]
    exact h
  | send r =>
    simp only [Act.apply, Life.send]
    split
    · exact h
    · rintro (⟨sent, hsent, hreq⟩ | hmem)
      · rcases List.mem_append.mp hsent with hsent | hsent
        · exact h (.inl ⟨sent, hsent, hreq⟩)
        · rw [List.mem_singleton.mp hsent] at hreq
          exact hsend (by rw [← hreq])
      · exact h (.inr hmem)
  | queue i =>
    refine not_doomed_of h (List.Subset.refl _) fun j hj => mem_append_or hj fun hi => ?_
    have hno := hlegal id
    rw [hi] at hno
    simp [Idle.told?] at hno
  | unregisterAll =>
    obtain ⟨idle, hidle, heq⟩ := Life.unregisterAll_eq l
    rw [Act.apply, heq]
    exact not_doomed_quit h rfl hidle
  | tell i =>
    have hpop : ¬Doomed { l with idle := l.idle.tail } id :=
      not_doomed_of h (List.Subset.refl _) fun j hj => .inl (List.mem_of_mem_tail hj)
    obtain ⟨contexts, timers, idle, hidle, heq⟩ := Life.tell_eq { l with idle := l.idle.tail } i
    rw [Act.apply, heq]
    exact not_doomed_quit hpop rfl hidle
  | answer k ok =>
    simp only [Act.apply]
    split
    · exact h
    · rename_i sent hk
      have herase : ¬Doomed { l with requests := l.requests.eraseIdx k } id :=
        not_doomed_of h (fun _ hs => List.mem_of_mem_eraseIdx hs) fun i hi => .inl hi
      have hqueue : ∀ {id' : String} {deleteContext : Bool},
          sent.request = .unregister id' deleteContext →
            Idle.deviceUnregistered id' deleteContext ≠ .deviceUnregistered id true := by
        intro id' deleteContext hreq heq
        obtain ⟨rfl, rfl⟩ := Idle.deviceUnregistered.inj heq
        exact h (.inl ⟨sent, List.mem_of_getElem? hk, hreq⟩)
      cases hreq : sent.request with
      | register id' =>
        cases ok with
        | true => exact not_doomed_of herase (List.Subset.refl _) fun i hi => mem_append_or hi fun heq => by cases heq
        | false => exact herase
      | unregister id' deleteContext =>
        cases ok <;> exact not_doomed_of herase (List.Subset.refl _) fun i hi =>
          mem_append_or hi (hqueue hreq)
  | _ => exact h

/-! ## runs that stay up -/

theorem Up.congr (h : Up l) (hkeep : l'.keepRunning = l.keepRunning)
    (hidle : ∀ i ∈ l'.idle, i ∈ l.idle ∨ i ≠ .gracefulShutdown) (hcalls : l'.calls ⊆ l.calls) :
    Up l' where
  keepRunning := hkeep.trans h.keepRunning
  idle hmem := (hidle _ hmem).elim h.idle fun hne => hne rfl
  calls id hmem := h.calls id (hcalls hmem)

theorem Up.quit (h : Up l) (hkeep : l'.keepRunning = l.keepRunning) (hcalls : l'.calls = l.calls)
    (hidle : l'.idle = l.idle ∨ l'.idle = l.idle ++ [Idle.quitLoop]) : Up l' := by
  refine h.congr hkeep (fun i hi => (mem_quit_or hidle hi).imp_right ?_)
    (by rw [hcalls]; exact List.Subset.refl _)
  rintro rfl
  exact nofun

theorem Up.apply (h : Up l) (hhalt : a ≠ .halt) (hqueue : a ≠ .queue .gracefulShutdown)
    (hcall : ∀ calls, a = .call calls → ∀ id, .removeDevice id ∉ calls) : Up (a.apply l) := by
  have hsame : ∀ i ∈ l.idle, i ∈ l.idle ∨ i ≠ Idle.gracefulShutdown := fun _ hi => .inl hi
  cases a with
  | drop c =>
    obtain ⟨contexts, timers, heq⟩ := Life.drop_eq l c
    rw [Act.apply, heq]
    exact h.quit rfl rfl (.inl rfl)
  | delete c =>
    obtain ⟨contexts, timers, idle, hidle, heq⟩ := Life.delete_eq l c
    rw [Act.apply, heq]
    exact h.quit rfl rfl hidle
  | stop c =>
    obtain ⟨contexts, timers, heq⟩ := Life.stop_eq l c
    rw [Act.apply, heq]
    exact h.quit rfl rfl (.inl rfl)
  | send r =>
    simp only [Act.apply, Life.send]
    split
    · exact h
    · exact h.congr rfl hsame (List.Subset.refl _)
  | call calls =>
    refine ⟨h.keepRunning, h.idle, fun id hmem => ?_⟩
    exact (List.mem_append.mp hmem).elim (h.calls id) (hcall calls rfl id)
  | endCall k => exact h.congr rfl hsame fun _ hc => List.mem_of_mem_eraseIdx hc
  | queue i =>
    refine h.congr rfl (fun j hj => ?_) (List.Subset.refl _)
    rcases List.mem_append.mp hj with hj | hj
    · exact .inl hj
    · refine .inr fun heq => hqueue ?_
      rw [← List.mem_singleton.mp hj, heq]
  | halt => exact absurd rfl hhalt
  | unregisterAll =>
    obtain ⟨idle, hidle, heq⟩ := Life.unregisterAll_eq l
    rw [Act.apply, heq]
    exact h.quit rfl rfl hidle
  | tell i =>
    have hpop : Up { l with idle := l.idle.tail } :=
      h.congr rfl (fun j hj => .inl (List.mem_of_mem_tail hj)) (List.Subset.refl _)
    obtain ⟨contexts, timers, idle, hidle, heq⟩ := Life.tell_eq { l with idle := l.idle.tail } i
    rw [Act.apply, heq]
    exact hpop.quit rfl rfl hidle
  | answer k ok =>
    have hqueued : ∀ {i : Idle}, i ≠ .gracefulShutdown →
        ∀ j ∈ l.idle ++ [i], j ∈ l.idle ∨ j ≠ .gracefulShutdown := by
      intro i hi j hj
      rcases List.mem_append.mp hj with hj | hj
      · exact .inl hj
      · rw [List.mem_singleton.mp hj]
        exact .inr hi
    simp only [Act.apply]
    split
    · exact h
    · rename_i sent _
      cases sent.request <;> cases ok
      · exact h.congr rfl hsame (List.Subset.refl _)
      all_goals exact h.congr rfl (hqueued fun heq => by cases heq) (List.Subset.refl _)
  | _ => exact h.congr rfl hsame (List.Subset.refl _)

/-- an event that starts no shutdown, in a state where none is under way -/
theorem Up.may (h : Up t.life) {e : Event} (hup : e.shuts = false) (hmay : e.may cfg ans t a) :
    a ≠ .halt ∧ a ≠ .queue .gracefulShutdown ∧
      ∀ calls, a = .call calls → ∀ id, .removeDevice id ∉ calls := by
  have hno : ¬shutsDown t e := by
    rintro (rfl | ⟨-, hhead⟩)
    · cases hup
    · exact h.idle (List.mem_of_mem_head? hhead)
  refine ⟨?_, ?_, ?_⟩
  · rintro rfl
    rcases hmay with rfl | rfl | hshuts
    · cases hup
    · cases hup
    · exact hno hshuts
  · rintro rfl
    rcases hmay rfl with rfl | rfl <;> cases hup
  · rintro calls rfl id hmem
    exact hno (hmay id hmem)

/-! ## steps -/

structure Present (cfg : Config) (s : Exporting) : Prop where
  wellFormed : WellFormed cfg s.translator
  up : Up s.translator.life
  tracked : ∀ p ∈ s.exported, ∃ a, p.address = some a ∧
    ¬Doomed s.translator.life (cfg.id a) ∧ HasContext s.translator.life (cfg.id a)

variable {s s' : Exporting} {e : Event} {ble : BleDevice} {p : DeviceProxy}

/-- an exported device is not asked to be unregistered with its context -/
theorem Unregisters.spares {rm : Bool} (h : Unregisters cfg s.translator ble e rm) (hrm : rm = true)
    (hup : Up s.translator.life) (hstays : StaysUp cfg s.translator (e, ans))
    (hkeeps : KeepsTracked cfg s (e, ans)) (hp : p ∈ e.exports s.exported) :
    ¬p.isOf cfg ble.deviceId := by
  intro hof
  cases h with
  | objectRemoved hpath hfind =>
    obtain ⟨hp, hne⟩ := List.mem_filter.mp hp
    exact absurd (hkeeps hpath ble hfind p hp hof) (of_decide_eq_true hne)
  | removeDeviceDone hcall => exact hup.calls _ (List.mem_of_getElem? hcall)
  | unreachable hretried hzero hgives =>
    exact Bool.false_ne_true ((hstays.2 ble hretried hzero).symm.trans hrm)

theorem connected_spares (hconnected : connectedContext cfg s.translator e = some ble)
    (hrefused : creationRefused ans s.translator ble = true)
    (hkeeps : KeepsTracked cfg s (e, ans)) (hp : p ∈ e.exports s.exported) :
    ¬p.isOf cfg ble.deviceId := by
  cases e with
  | connectDone k ok => exact hkeeps ble hconnected hrefused p hp
  | _ => cases hconnected

/-- the changes of a step leave the contexts of the exported devices alone -/
theorem may_spares (hup : Up s.translator.life) (hstays : StaysUp cfg s.translator (e, ans))
    (hkeeps : KeepsTracked cfg s (e, ans)) (hp : p ∈ e.exports s.exported) (hof : p.isOf cfg id)
    (hmay : e.may cfg ans s.translator a) :
    (∀ c, a = .drop c → c.deviceId ≠ id) ∧ (∀ c, a = .delete c → c.deviceId ≠ id) ∧
      a ≠ .send (.unregister id true) := by
  refine ⟨?_, ?_, ?_⟩
  · rintro c rfl rfl
    obtain ⟨ble, hconnected, rfl, hrefused⟩ := hmay
    exact connected_spares hconnected hrefused hkeeps hp hof
  · rintro c rfl rfl
    obtain ⟨ble, -, -, hid, hwhy⟩ := hmay
    rw [hid] at hof
    exact hwhy.spares rfl hup hstays hkeeps hp hof
  · rintro rfl
    obtain ⟨ble, -, rfl, hwhy⟩ := hmay
    exact hwhy.spares rfl hup hstays hkeeps hp hof

/-- a device that is added has a context, made now or before -/
theorem bleNewDevice_hasContext {proxy : DeviceProxy} {b : BtAddress}
    (hrunning : t.keepRunning = true) (haddr : proxy.address = some b) :
    HasContext (bleNewDevice cfg t proxy).life (cfg.id b) := by
  have hmem : ∃ d ∈ (bleCreateDeviceContext cfg t proxy .persistentGattServer).devices,
      d.deviceId = cfg.id b := by
    rcases bleCreateDeviceContext_cases cfg t proxy .persistentGattServer with
      ⟨heq, hno | hfind⟩ | ⟨b', haddr', -, heq⟩
    · exact absurd (hno.symm.trans haddr) nofun
    · rw [heq]
      obtain ⟨ble, hble⟩ := Option.ne_none_iff_exists'.mp hfind
      obtain ⟨b', haddr', hfind'⟩ := Option.bind_eq_some_iff.mp hble
      obtain rfl : b = b' := Option.some.inj (haddr.symm.trans haddr')
      exact ⟨ble, mem_of_devicesFindDeviceByDeviceId hfind'⟩
    · obtain rfl : b = b' := Option.some.inj (haddr.symm.trans haddr')
      rw [heq]
      exact ⟨_, List.mem_append_right _ (List.mem_singleton_self _), rfl⟩
  obtain ⟨d, hd, hid⟩ := hmem
  unfold bleNewDevice
  rw [if_pos hrunning]
  exact List.mem_map.mpr ⟨d.context, List.mem_map_of_mem hd, hid⟩

/-- a device is not doomed, and has a context if it had one -/
structure Kept (l₀ : Life) (id : String) (l : Life) : Prop where
  kept : ¬Doomed l id
  context : HasContext l₀ id → HasContext l id

theorem step_kept {t' : Translator} (hs : Present cfg s)
    (hstays : StaysUp cfg s.translator (e, ans)) (hkeeps : KeepsTracked cfg s (e, ans))
    (h : step cfg s.translator (e, ans) = some t') (hp : p ∈ e.exports s.exported)
    (hof : p.isOf cfg id) (hno : ¬Doomed s.translator.life id) :
    Kept s.translator.life id t'.life := by
  have hstart : Kept s.translator.life id s.translator.life := ⟨hno, fun hc => hc⟩
  refine (step_acts hs.wellFormed h).keeps (life_wellFormed hs.wellFormed) hstart ?_
  intro l a hwf hl hlegal hmay
  obtain ⟨hdrop, hdelete, hsend⟩ := may_spares hs.up hstays hkeeps hp hof hmay
  exact ⟨apply_not_doomed hlegal hl.kept hsend,
    fun hc => hasContext_apply hwf hlegal (hl.context hc) hl.kept hdrop hdelete⟩

theorem step_up {t' : Translator} (hs : Present cfg s)
    (hstays : StaysUp cfg s.translator (e, ans))
    (h : step cfg s.translator (e, ans) = some t') : Up t'.life := by
  refine (step_acts hs.wellFormed h).keeps (life_wellFormed hs.wellFormed) hs.up ?_
  intro l a _ hl _ hmay
  obtain ⟨hhalt, hqueue, hcall⟩ := hs.up.may hstays.1 hmay
  exact hl.apply hhalt hqueue hcall

theorem isOf_of_address {b : BtAddress} (haddr : p.address = some b) : p.isOf cfg (cfg.id b) := by
  unfold DeviceProxy.isOf
  rw [haddr, Option.map_some]

theorem step_present {label : Event × Answers} (hs : Present cfg s)
    (hstays : StaysUp cfg s.translator label) (hkeeps : KeepsTracked cfg s label)
    (h : exportStep cfg s label = some s') : Present cfg s' := by
  obtain ⟨t', hstep, rfl⟩ := Option.map_eq_some_iff.mp h
  obtain ⟨e, ans⟩ := label
  have hold : ∀ p ∈ e.exports s.exported, p ∈ s.exported → ∃ b, p.address = some b ∧
      ¬Doomed t'.life (cfg.id b) ∧ HasContext t'.life (cfg.id b) := by
    intro p hp hmem
    obtain ⟨b, haddr, hno, hcontext⟩ := hs.tracked p hmem
    have hkept := step_kept hs hstays hkeeps hstep hp (isOf_of_address haddr) hno
    exact ⟨b, haddr, hkept.kept, hkept.context hcontext⟩
  refine ⟨step_wellFormed hs.wellFormed hstep, step_up hs hstays hstep, fun p hp => ?_⟩
  cases e with
  | objectAdded proxy connected servicesResolved =>
    rcases List.mem_cons.mp hp with rfl | hmem
    · have hadded : p.address ≠ none ∧ ∀ b ∈ p.address, ¬Doomed s.translator.life (cfg.id b) :=
        hkeeps
      obtain ⟨hsome, hno⟩ := hadded
      obtain ⟨b, haddr⟩ := Option.ne_none_iff_exists'.mp hsome
      have hkept := step_kept hs hstays hkeeps hstep hp (isOf_of_address haddr) (hno b haddr)
      refine ⟨b, haddr, hkept.kept, ?_⟩
      cases handled_of_handle (handle_of_step hstep) with
      | objectAdded _ _ _ hlinks => exact bleNewDevice_hasContext hs.up.keepRunning haddr
    · exact hold p hp hmem
  | objectRemoved path => exact hold p hp (List.mem_filter.mp hp).1
  | _ => exact hold p hp hp

/-- **Present devices stay tracked: in every run that stays up and keeps them, BlueZ exports no
object whose device has no context.** -/
theorem tracked_of_exported {now : Nat} {connection : Option Nat}
    {labels : List (Event × Answers)}
    (h : Run (exportStep cfg)
      (fun s label => StaysUp cfg s.translator label ∧ KeepsTracked cfg s label)
      ⟨start now connection, []⟩ labels s)
    (hp : p ∈ s.exported) : ∃ ble ∈ s.translator.devices, p.isOf cfg ble.deviceId := by
  have hstart : Present cfg ⟨start now connection, []⟩ :=
    ⟨start_wellFormed cfg now connection, ⟨rfl, nofun, nofun⟩, nofun⟩
  have hpresent : Present cfg s :=
    h.invariant hstart fun _ _ _ hs hok hstep => step_present hs hok.1 hok.2 hstep
  obtain ⟨a, haddr, -, hcontext⟩ := hpresent.tracked p hp
  obtain ⟨c, hc, hid⟩ := List.mem_map.mp hcontext
  obtain ⟨ble, hble, rfl⟩ := List.mem_map.mp hc
  have hof : p.isOf cfg (cfg.id a) := isOf_of_address haddr
  rw [← hid] at hof
  exact ⟨ble, hble, hof⟩

end

/-- a device that is found, lost and found again -/
def returns : List Event :=
  joins ++ [.objectRemoved plainProxy.path, .answered 0 true, .runIdle,
    .objectAdded plainProxy true false]

theorem tracked_of_exported_returns : ∃ labels s,
    Run (exportStep plainConfig) (fun s label => StaysUp plainConfig s.translator label ∧
        KeepsTracked plainConfig s label) ⟨start 0 (some 0), []⟩ labels s ∧
      plainProxy ∈ s.exported ∧
      ∃ ble ∈ s.translator.devices, plainProxy.isOf plainConfig ble.deviceId := by
  have hany : (run (guarded (exportStep plainConfig) fun s label =>
      StaysUp plainConfig s.translator label ∧ KeepsTracked plainConfig s label)
        ⟨start 0 (some 0), []⟩ (plainLabels returns)).any
          (fun s => decide (plainProxy ∈ s.exported)) = true := by
    decide +kernel
  obtain ⟨s, hs, hp⟩ := exists_of_run_any hany
  exact ⟨_, s, Run.of_guarded hs, hp, tracked_of_exported (Run.of_guarded hs) hp⟩

/-- the device is found again before its unregistration is done -/
def returnsEarly : List Event :=
  joins ++ [.objectRemoved plainProxy.path, .objectAdded plainProxy true false, .answered 0 true,
    .runIdle]

theorem not_tracked_of_exported :
    ¬∀ labels s, Run (exportStep plainConfig) (fun s label => StaysUp plainConfig s.translator label)
        ⟨start 0 (some 0), []⟩ labels s →
      s.translator.requests = [] → s.translator.idle = [] → ∀ p ∈ s.exported,
        ∃ ble ∈ s.translator.devices, p.isOf plainConfig ble.deviceId := by
  intro h
  have hany : (run (guarded (exportStep plainConfig) fun s label =>
      StaysUp plainConfig s.translator label) ⟨start 0 (some 0), []⟩
        (plainLabels returnsEarly)).any (fun s => decide (s.translator.requests = [] ∧
          s.translator.idle = [] ∧ plainProxy ∈ s.exported ∧ s.translator.devices = [])) = true := by
    decide +kernel
  obtain ⟨s, hs, hrequests, hidle, hp, hnone⟩ := exists_of_run_any hany
  obtain ⟨ble, hble, -⟩ := h _ s (Run.of_guarded hs) hrequests hidle plainProxy hp
  rw [hnone] at hble
  cases hble

end EdgeTranslators.Ble
