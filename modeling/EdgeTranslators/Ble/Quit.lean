import EdgeTranslators.Ble.Acts

/-!
# Shutdown quits the main loop

The loop ends with `pt_ble_g_main_quit_loop`, which whoever frees the last context has to schedule.

* `Watched`, `watchQuit`        a run, and whether the quit was scheduled since the list is empty;
* `losesQuit`                   `ble_connect_done` frees the last context without scheduling it;
* `Quits l₀ l`, `Quits.apply`   what the changes of one step keep;
* `quitScheduled_of_empty`      no step loses the quit: then shutdown is never left without one.
-/

namespace EdgeTranslators.Ble
open Lib Pt

/-- `pt_ble_g_main_quit_loop` is put in the queue from `t` to `t'` -/
def schedulesQuit (t t' : Translator) : Bool := t.idle.count .quitLoop < t'.idle.count .quitLoop

structure Watched where
  translator : Translator
  /-- the list is empty, and the quit was scheduled at or after the moment it became so -/
  quitScheduled : Bool

def watchQuit (cfg : Config) (w : Watched) (label : Event × Answers) : Option Watched :=
  (step cfg w.translator label).map fun t' =>
    { translator := t'
      quitScheduled := t'.devices = [] ∧
        (schedulesQuit w.translator t' ∨ (w.translator.devices = [] ∧ w.quitScheduled)) }

/-- the last context is freed because its PT device object cannot be made, while all devices are
unregistered -/
def losesQuit (cfg : Config) (t : Translator) (label : Event × Answers) : Bool :=
  (connectedContext cfg t label.1).any fun ble =>
    creationRefused label.2 t ble && t.unregisteringDevices && t.devices.length == 1

/-- after the changes `l₀` to `l`: the loop's quit is scheduled if they emptied the list -/
structure Quits (l₀ l : Life) : Prop where
  halted : l.unregisteringDevices = true → l.keepRunning = false
  queued : l₀.idle.count .quitLoop ≤ l.idle.count .quitLoop
  quit : l.unregisteringDevices = true → l.contexts = [] →
    l₀.idle.count .quitLoop < l.idle.count .quitLoop ∨
      (l₀.unregisteringDevices = true ∧ l₀.contexts = [])

section
variable {cfg : Config} {l₀ l l' : Life} {a : Act} {c : Context} {t t' : Translator}

theorem Quits.refl (h : l.unregisteringDevices = true → l.keepRunning = false) : Quits l l :=
  ⟨h, le_refl _, fun hall hempty => .inr ⟨hall, hempty⟩⟩

/-- a change that leaves the list, or makes it longer -/
theorem Quits.congr (h : Quits l₀ l) (hall : l'.unregisteringDevices = l.unregisteringDevices)
    (hkeep : l'.keepRunning = l.keepRunning) (hcontexts : l'.contexts = [] → l.contexts = [])
    (hcount : l.idle.count .quitLoop ≤ l'.idle.count .quitLoop) : Quits l₀ l' := by
  refine ⟨fun hyes => ?_, h.queued.trans hcount, fun hyes hempty => ?_⟩
  · rw [hkeep]
    exact h.halted (hall ▸ hyes)
  · rcases h.quit (hall ▸ hyes) (hcontexts hempty) with hlt | hold
    · exact .inl (hlt.trans_le hcount)
    · exact .inr hold

theorem Life.update_contexts_nil {ptr : Nat} {f : Context → Context}
    (h : (l.update ptr f).contexts = []) : l.contexts = [] :=
  List.map_eq_nil_iff.mp h

theorem count_append_le (i : Idle) (idle : List Idle) :
    idle.count .quitLoop ≤ (idle ++ [i]).count .quitLoop := by
  rw [List.count_append]
  omega

theorem Quits.stop (h : Quits l₀ l) (c : Context) : Quits l₀ (l.stop c) := by
  unfold Life.stop
  split
  · exact h
  · exact h.congr rfl rfl Life.update_contexts_nil (le_refl _)

/-- who frees the last context schedules the quit -/
theorem Quits.delete (h : Quits l₀ l) (c : Context) : Quits l₀ (l.delete c) := by
  obtain ⟨hall, hkeep, hidle⟩ : (l.drop c).unregisteringDevices = l.unregisteringDevices ∧
      (l.drop c).keepRunning = l.keepRunning ∧ (l.drop c).idle = l.idle := by
    obtain ⟨contexts, timers, heq⟩ := Life.drop_eq l c
    rw [heq]
    exact ⟨rfl, rfl, rfl⟩
  have hhalted : (l.drop c).unregisteringDevices = true → (l.drop c).keepRunning = false := by
    rw [hall, hkeep]
    exact h.halted
  have hqueued := h.queued
  rw [← hidle] at hqueued
  unfold Life.delete
  by_cases hlast : l.unregisteringDevices = true ∧ (l.drop c).contexts = []
  · rw [if_pos hlast]
    refine ⟨hhalted, hqueued.trans (count_append_le _ _), fun _ _ => .inl ?_⟩
    show _ < ((l.drop c).idle ++ [Idle.quitLoop]).count Idle.quitLoop
    rw [List.count_append, List.count_singleton_self]
    omega
  · rw [if_neg hlast]
    refine ⟨hhalted, hqueued, fun hyes hempty => absurd ⟨?_, hempty⟩ hlast⟩
    rw [← hall]
    exact hyes

theorem Quits.unregisterAll (h : Quits l₀ l) (hkeep : l.keepRunning = false) :
    Quits l₀ l.unregisterAll := by
  unfold Life.unregisterAll
  by_cases hempty : l.contexts = []
  · rw [if_pos hempty]
    refine ⟨fun _ => hkeep, h.queued.trans (count_append_le _ _), fun _ _ => .inl ?_⟩
    show _ < (l.idle ++ [Idle.quitLoop]).count Idle.quitLoop
    have hqueued := h.queued
    rw [List.count_append, List.count_singleton_self]
    omega
  · rw [if_neg hempty]
    exact ⟨fun _ => hkeep, h.queued, fun _ hnone => absurd hnone hempty⟩

theorem Quits.tell (h : Quits l₀ l) (i : Idle) : Quits l₀ (l.tell i) := by
  cases i with
  | deviceRegistered id =>
    simp only [Life.tell]
    cases l.find id with
    | none => exact h
    | some c => exact h.congr rfl rfl Life.update_contexts_nil (le_refl _)
  | deviceUnregistered id deleteContext =>
    simp only [Life.tell]
    cases l.find id with
    | none => exact h
    | some c =>
      cases deleteContext with
      | true => exact h.delete c
      | false => exact h.congr rfl rfl Life.update_contexts_nil (le_refl _)
  | _ => exact h

theorem Quits.apply (h : Quits l₀ l) (hlegal : a.Legal cfg l) (hdrop : ∀ c, a ≠ .drop c)
    (htell : a ≠ .tell .quitLoop) : Quits l₀ (a.apply l) := by
  cases a with
  | create c =>
    -- no context is made while all devices are unregistered
    have hrunning : l.keepRunning = true := hlegal.1
    have hno : l.unregisteringDevices = true → False := fun hyes =>
      Bool.false_ne_true ((h.halted hyes).symm.trans hrunning)
    exact ⟨fun hyes => (hno hyes).elim, h.queued, fun hyes => (hno hyes).elim⟩
  | drop c => exact absurd rfl (hdrop c)
  | delete c => exact h.delete c
  | arm c delayMs => exact h.congr rfl rfl Life.update_contexts_nil (le_refl _)
  | stop c => exact h.stop c
  | send r =>
    simp only [Act.apply, Life.send]
    split
    · exact h
    · exact h.congr rfl rfl id (le_refl _)
  | call calls => exact h.congr rfl rfl id (le_refl _)
  | endCall k => exact h.congr rfl rfl id (le_refl _)
  | queue i => exact h.congr rfl rfl id (count_append_le i l.idle)
  | halt => exact ⟨fun _ => rfl, h.queued, h.quit⟩
  | unregisterAll => exact h.unregisterAll hlegal
  | fire k c => exact h.congr rfl rfl Life.update_contexts_nil (le_refl _)
  | tell i =>
    have hne : i ≠ .quitLoop := fun hi => htell (by rw [hi])
    have hcount : l.idle.count .quitLoop = l.idle.tail.count .quitLoop := by
      obtain ⟨rest, hidle⟩ := List.head?_eq_some_iff.mp hlegal
      rw [hidle, List.count_cons_of_ne hne, List.tail_cons]
    have hpop : Quits l₀ { l with idle := l.idle.tail } := h.congr rfl rfl id hcount.le
    exact hpop.tell i
  | answer k ok =>
    simp only [Act.apply]
    split
    · exact h
    · rename_i sent _
      have herase : Quits l₀ { l with requests := l.requests.eraseIdx k } :=
        h.congr rfl rfl id (le_refl _)
      cases sent.request <;> cases ok
      · exact herase
      all_goals exact herase.congr rfl rfl id (count_append_le _ _)
  | connect connection => exact h.congr rfl rfl id (le_refl _)
  | disconnect => exact h.congr rfl rfl id (le_refl _)

/-! ## steps -/

/-- all devices are unregistered only after the loop was told to stop, and the quit is scheduled once
there is none -/
structure QuitDue (cfg : Config) (w : Watched) : Prop where
  wellFormed : WellFormed cfg w.translator
  halted : w.translator.unregisteringDevices = true → w.translator.keepRunning = false
  quit : w.translator.unregisteringDevices = true → w.translator.devices = [] →
    w.quitScheduled = true

theorem QuitDue.of_quits {w : Watched} (hw : QuitDue cfg w) (hwf : WellFormed cfg t')
    (hquits : Quits w.translator.life t'.life) :
    QuitDue cfg ⟨t', t'.devices = [] ∧
      (schedulesQuit w.translator t' ∨ (w.translator.devices = [] ∧ w.quitScheduled))⟩ := by
  refine ⟨hwf, hquits.halted, fun hall hempty => decide_eq_true ⟨hempty, ?_⟩⟩
  rcases hquits.quit hall (List.map_eq_nil_iff.mpr hempty) with hlt | ⟨hall', hempty'⟩
  · exact .inl (decide_eq_true hlt)
  · have hnone := List.map_eq_nil_iff.mp hempty'
    exact .inr ⟨hnone, hw.quit hall' hnone⟩

theorem bleConnected_refused (cfg : Config) {ans : Answers} {ble : BleDevice} (proxy : DeviceProxy)
    (h : creationRefused ans t ble = true) :
    bleConnected cfg ans t proxy ble =
      devicesDelDevice (t.set (refresh t ble)) (refresh t ble) := by
  simp only [creationRefused, decide_eq_true_eq] at h
  obtain ⟨hconn, hmem, hcreate⟩ := h
  rcases bleConnected_cases cfg ans t proxy ble with
    ⟨hno, -⟩ | ⟨-, -, -, heq⟩ | ⟨-, hyes | hyes, -⟩
  · exact absurd (hno.symm.trans hconn) Bool.false_ne_true
  · exact heq
  · exact absurd hyes hmem
  · exact absurd (hcreate.symm.trans hyes) Bool.false_ne_true

/-- the list is empty after one of several contexts is freed in no case -/
theorem devicesDelDevice_ne_nil {ble : BleDevice} (hwf : WellFormed cfg t) (hble : ble ∈ t.devices)
    (hmany : t.devices.length ≠ 1) : (devicesDelDevice t ble).devices ≠ [] := by
  obtain ⟨d, hd, hne⟩ : ∃ d ∈ t.devices, d.deviceId ≠ ble.deviceId := by
    by_contra hall
    have hsame : ∀ d ∈ t.devices, d = ble := fun d hd => by
      by_contra hno
      exact hall ⟨d, hd, fun hid => hno (List.inj_on_of_nodup_map hwf.id hd hble hid)⟩
    have hnodup := hwf.ptr.of_map
    rw [List.eq_replicate_of_mem hsame, List.nodup_replicate] at hnodup
    have hpos := List.length_pos_of_mem hble
    omega
  have hdel : Frame (· = ble.deviceId) (fun _ => False) (fun _ => False) t
      (devicesDelDevice t ble) := devicesDelDevice_frame hwf hble
  obtain ⟨d', hd', -⟩ := hdel.forth d hd hne
  exact List.ne_nil_of_mem hd'

/-- the step of a `Connect` that went well, for a device that is tracked -/
theorem connected_of_step {label : Event × Answers} {ble : BleDevice}
    (h : step cfg t label = some t') (hconnected : connectedContext cfg t label.1 = some ble) :
    ble ∈ t.devices ∧ ∃ calls proxy,
      t' = bleConnected cfg label.2 { t with effects := [], calls } proxy ble := by
  obtain ⟨e, ans⟩ := label
  cases handled_of_handle (handle_of_step h) with
  | @connected k proxy d hcall hfind =>
    have hcall' : t.calls[k]? = some (.connect proxy) := hcall
    have hfind' : bleFindDeviceFromProxy cfg t proxy = some d := hfind
    simp only [connectedContext, hcall', hfind', Option.some.injEq] at hconnected
    subst hconnected
    obtain ⟨a, -, hmem⟩ := Option.bind_eq_some_iff.mp hfind'
    exact ⟨(mem_of_devicesFindDeviceByDeviceId hmem).1, _, proxy, rfl⟩
  | @connectUnknown k proxy ok hcall hfind =>
    have hcall' : t.calls[k]? = some (.connect proxy) := hcall
    have hfind' : bleFindDeviceFromProxy cfg t proxy = none := hfind
    cases ok with
    | true =>
      simp only [connectedContext, hcall', hfind'] at hconnected
      cases hconnected
    | false => cases hconnected
  | _ => cases hconnected

theorem step_quitDue {w w' : Watched} {label : Event × Answers} (hw : QuitDue cfg w)
    (hok : losesQuit cfg w.translator label = false) (h : watchQuit cfg w label = some w') :
    QuitDue cfg w' := by
  obtain ⟨t', hstep, rfl⟩ := Option.map_eq_some_iff.mp h
  have hwf := hw.wellFormed
  have hwf' := step_wellFormed hwf hstep
  by_cases hquit : label.1 = .runIdle ∧ w.translator.idle.head? = some .quitLoop
  · -- the quit runs, and the list is left alone
    obtain ⟨hevent, hhead⟩ := hquit
    obtain ⟨rest, hidle⟩ := List.head?_eq_some_iff.mp hhead
    have hrun := handle_of_step hstep
    simp only [hevent, handle, hidle, runIdle, ptBleGMainQuitLoop] at hrun
    have hsame : t'.unregisteringDevices = w.translator.unregisteringDevices ∧
        t'.keepRunning = w.translator.keepRunning ∧ t'.devices = w.translator.devices := by
      cases hrun
      split <;> exact ⟨rfl, rfl, rfl⟩
    obtain ⟨hall, hkeep, hdevices⟩ := hsame
    refine ⟨hwf', fun hyes => ?_, fun hyes hempty => decide_eq_true ⟨hempty, .inr ⟨?_, ?_⟩⟩⟩
    · rw [hkeep]
      exact hw.halted (hall ▸ hyes)
    · rw [← hdevices]
      exact hempty
    · exact hw.quit (hall ▸ hyes) (hdevices ▸ hempty)
  by_cases hrefused : ∃ ble, connectedContext cfg w.translator label.1 = some ble ∧
      creationRefused label.2 w.translator ble = true
  · -- a context is freed and no quit scheduled, but it is not the last one
    obtain ⟨ble, hconnected, hyes⟩ := hrefused
    obtain ⟨hble, calls, proxy, rfl⟩ := connected_of_step hstep hconnected
    have hyes' : creationRefused label.2
        { w.translator with effects := [], calls } ble = true := hyes
    have hwf₁ : WellFormed cfg { w.translator with effects := [], calls } := hwf.congr rfl rfl
    have hwf₂ : WellFormed cfg (Translator.set { w.translator with effects := [], calls }
        (refresh { w.translator with effects := [], calls } ble)) := hwf₁.set hble rfl
    have hdel := bleConnected_refused cfg proxy hyes'
    have hsame : (bleConnected cfg label.2 { w.translator with effects := [], calls } proxy
          ble).unregisteringDevices = w.translator.unregisteringDevices ∧
        (bleConnected cfg label.2 { w.translator with effects := [], calls } proxy
          ble).keepRunning = w.translator.keepRunning := by
      rw [hdel]
      unfold devicesDelDevice deviceStopRetryTimer
      split <;> exact ⟨rfl, rfl⟩
    refine ⟨hwf', fun hall => ?_, fun hall hempty => ?_⟩
    · exact hsame.2.trans (hw.halted (hsame.1.symm.trans hall))
    · have hall' := hsame.1.symm.trans hall
      have hmany : w.translator.devices.length ≠ 1 := fun hone => by
        simp [losesQuit, hconnected, hyes, hall', hone] at hok
      simp only at hempty
      rw [hdel] at hempty
      refine absurd hempty (devicesDelDevice_ne_nil hwf₂ (refresh_mem hble) ?_)
      show (devicesSet _ _).length ≠ 1
      rw [devicesSet, List.length_map]
      exact hmany
  · refine hw.of_quits hwf' ((step_acts hwf hstep).keeps (life_wellFormed hwf) (.refl hw.halted) ?_)
    intro l a _ hl hlegal hmay
    refine hl.apply hlegal (fun c hc => ?_) fun ha => ?_
    · subst hc
      obtain ⟨ble, hconnected, -, hyes⟩ := hmay
      exact hrefused ⟨ble, hconnected, hyes⟩
    · subst ha
      exact hquit hmay

/-- a step that loses the quit leaves shutdown without one -/
theorem losesQuit_unscheduled {w w' : Watched} {label : Event × Answers}
    (hlost : losesQuit cfg w.translator label = true) (h : watchQuit cfg w label = some w') :
    w'.translator.unregisteringDevices = true ∧ w'.translator.devices = [] ∧
      w'.quitScheduled = false := by
  obtain ⟨t', hstep, rfl⟩ := Option.map_eq_some_iff.mp h
  obtain ⟨ble, hconnected, hlost⟩ := (Option.any_eq_true _ _).mp hlost
  simp only [Bool.and_eq_true, beq_iff_eq] at hlost
  obtain ⟨⟨hyes, hall⟩, hone⟩ := hlost
  obtain ⟨hble, calls, proxy, rfl⟩ := connected_of_step hstep hconnected
  have hyes' : creationRefused label.2 { w.translator with effects := [], calls } ble = true := hyes
  rw [bleConnected_refused cfg proxy hyes']
  obtain ⟨d, hd⟩ := List.length_eq_one_iff.mp hone
  rw [hd] at hble
  obtain rfl := List.mem_singleton.mp hble
  simp only [devicesDelDevice, deviceStopRetryTimer]
  split
  · refine ⟨hall, ?_, ?_⟩
    · simp [Translator.set, devicesSet, refresh, hd]
    · simp [Translator.set, schedulesQuit, hd]
  · refine ⟨hall, ?_, ?_⟩
    · simp [Translator.set, devicesSet, refresh, hd]
    · simp [Translator.set, schedulesQuit, hd]

/-- **Shutdown is never left without a quit, in every run in which no step frees the last context
without scheduling it.** -/
theorem quitScheduled_of_empty {now : Nat} {connection : Option Nat}
    {labels : List (Event × Answers)} {w : Watched}
    (h : Run (watchQuit cfg) (fun w label => losesQuit cfg w.translator label = false)
      ⟨start now connection, false⟩ labels w)
    (hall : w.translator.unregisteringDevices = true) (hempty : w.translator.devices = []) :
    w.quitScheduled = true := by
  have hstart : QuitDue cfg ⟨start now connection, false⟩ :=
    ⟨start_wellFormed cfg now connection, nofun, nofun⟩
  have hdue : QuitDue cfg w := h.invariant hstart fun _ _ _ hs hok hstep => step_quitDue hs hok hstep
  exact hdue.quit hall hempty

end

/-- a device is found, the translator is told to stop, and the device is unregistered -/
def stops : List Event :=
  joins ++ [.shutdownSignal, .removeDeviceDone 0, .answered 0 true, .runIdle]

theorem quitScheduled_of_empty_stops : ∃ labels w,
    Run (watchQuit plainConfig) (fun w label => losesQuit plainConfig w.translator label = false)
        ⟨start 0 (some 0), false⟩ labels w ∧
      (w.translator.unregisteringDevices = true ∧ w.translator.devices = []) ∧
      w.quitScheduled = true := by
  have hany : (run (guarded (watchQuit plainConfig) fun w label =>
      losesQuit plainConfig w.translator label = false) ⟨start 0 (some 0), false⟩
        (plainLabels stops)).any (fun w => decide (w.translator.unregisteringDevices = true ∧
          w.translator.devices = [])) = true := by
    decide +kernel
  obtain ⟨w, hw, hall, hempty⟩ := exists_of_run_any hany
  exact ⟨_, w, Run.of_guarded hw, ⟨hall, hempty⟩,
    quitScheduled_of_empty (Run.of_guarded hw) hall hempty⟩

/-- the translator is told to stop while it connects to its only device, whose object is refused -/
def stopsWhileConnecting : List (Event × Answers) :=
  plainLabels [.objectAdded plainProxy true false, .shutdownSignal] ++
    [(.connectDone 0 true, { plainAnswers with create := fun _ => false })]

theorem not_quitScheduled_of_empty :
    ¬∀ labels w, Run (watchQuit plainConfig) (fun _ _ => True) ⟨start 0 (some 0), false⟩ labels w →
      w.translator.unregisteringDevices = true → w.translator.devices = [] →
        w.quitScheduled = true := by
  intro h
  have hany : (run (watchQuit plainConfig) ⟨start 0 (some 0), false⟩ stopsWhileConnecting).any
      (fun w => decide (w.translator.unregisteringDevices = true ∧ w.translator.devices = [] ∧
        w.quitScheduled = false)) = true := by
    decide +kernel
  obtain ⟨w, hw, hall, hempty, hno⟩ := exists_of_run_any hany
  exact Bool.false_ne_true (hno.symm.trans (h _ w (Run.of_run hw) hall hempty))

end EdgeTranslators.Ble
