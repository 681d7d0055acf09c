import EdgeTranslators.Ble.Links

/-!
# Devices that are given up

`ble_start_reconnection_timer_or_unregister_device` judges by the timestamp that
`ble_create_device_context` and a successful `Connect` set; nothing sets it while a link is up.

* `Timely`               `Link.lastUp` is the last moment a link was up;
* `run_lastUp`           it bounds every moment of a run at which the link was up;
* `GivesUpOnFresh`       no device is given up on a timestamp that is too old for that moment;
* `gaveUp_unreachable`   then no device is given up that was up in the time before.
-/

namespace EdgeTranslators.Ble
open Lib Pt

structure Timely (t : Translator) : Prop where
  up : ∀ a, (t.links a).connected = true → (t.links a).lastUp = t.now
  le : ∀ a, (t.links a).lastUp ≤ t.now

/-- the time without a connection after which a device is unregistered, or forgotten -/
def giveUpSecs (removeContext : Bool) : Nat :=
  if removeContext then maxConnectionRetryTimeSeconds else bleMaxBackOffTimeSecs

/-- how long the link of an address was up after the timestamp of its context -/
def Translator.staleSecs (t : Translator) (a : BtAddress) (ble : BleDevice) : Nat :=
  (t.links a).lastUp - ble.lastConnectedTimestampSecs

/-- a device is given up only when its link is down, and the age of the timestamp that the decision
is based on exceeds the time without a connection by what the link was up after it -/
def GivesUpOnFresh (cfg : Config) (t : Translator) (label : Event × Answers) : Prop :=
  ∀ ble ∈ retriedContext cfg t label.1, ble.retryTimerSource = 0 → givesUp t ble = true →
    ∀ a ∈ ble.proxy.address, (t.links a).connected = false ∧
      t.staleSecs a ble + giveUpSecs (removesDeviceContext t ble)
        ≤ devicesDurationInSecSinceLastConnection t ble

instance (cfg : Config) (t : Translator) (label : Event × Answers) :
    Decidable (GivesUpOnFresh cfg t label) := by
  unfold GivesUpOnFresh
  infer_instance

section
variable {cfg : Config} {ok : Translator → Event × Answers → Prop} {t t' : Translator}

/-! ## links -/

/-- an event only moves the last moment of a link forward -/
structure Forward (t t' : Translator) : Prop where
  timely : Timely t'
  mono : ∀ a, (t.links a).lastUp ≤ (t'.links a).lastUp

theorem Forward.refl (h : Timely t) : Forward t t := ⟨h, fun _ => le_refl _⟩

theorem connectedChanged_forward (h : Timely t) (proxy : DeviceProxy) (value : Bool) :
    Forward t (t.connectedChanged proxy value) := by
  unfold Translator.connectedChanged
  cases proxy.address with
  | none => exact .refl h
  | some a =>
    refine ⟨⟨fun b hb => ?_, fun b => ?_⟩, fun b => ?_⟩ <;>
      simp only [Translator.setLink] at * <;> by_cases hba : b = a
    · subst hba
      simp only [Function.update_self] at hb ⊢
      rw [if_pos hb]
    · rw [Function.update_of_ne hba] at hb ⊢
      exact h.up b hb
    · subst hba
      rw [Function.update_self]
      split
      · exact le_refl _
      · exact h.le b
    · rw [Function.update_of_ne hba]
      exact h.le b
    · subst hba
      rw [Function.update_self]
      split
      · exact h.le b
      · exact le_refl _
    · rw [Function.update_of_ne hba]

theorem servicesResolvedChanged_forward (h : Timely t) (proxy : DeviceProxy) (value : Bool) :
    Forward t (t.servicesResolvedChanged proxy value) := by
  unfold Translator.servicesResolvedChanged
  cases proxy.address with
  | none => exact .refl h
  | some a =>
    have hlink : ∀ b, ((t.setLink a { t.links a with servicesResolved := value }).links b).connected
          = (t.links b).connected ∧
        ((t.setLink a { t.links a with servicesResolved := value }).links b).lastUp
          = (t.links b).lastUp := by
      intro b
      simp only [Translator.setLink]
      by_cases hba : b = a
      · subst hba
        rw [Function.update_self]
        exact ⟨rfl, rfl⟩
      · rw [Function.update_of_ne hba]
        exact ⟨rfl, rfl⟩
    refine ⟨⟨fun b hb => ?_, fun b => ?_⟩, fun b => (hlink b).2.ge⟩
    · rw [(hlink b).1] at hb
      rw [(hlink b).2]
      exact h.up b hb
    · rw [(hlink b).2]
      exact h.le b

theorem tick_forward (h : Timely t) (seconds : Nat) : Forward t (t.tick seconds) := by
  have hle : ∀ a, (t.links a).lastUp ≤ t.now + seconds := fun a =>
    (h.le a).trans (Nat.le_add_right _ _)
  refine ⟨⟨fun a ha => ?_, fun a => ?_⟩, fun a => ?_⟩ <;> simp only [Translator.tick] at *
  · split at ha
    · rw [if_pos ‹_›]
    · exact absurd ha ‹_›
  · split
    · exact le_refl _
    · exact hle a
  · split
    · exact hle a
    · exact le_refl _

theorem linkStep_forward (cfg : Config) (h : Timely t) (e : Event) :
    Forward t (e.linkStep cfg t) := by
  cases e with
  | tick seconds => exact tick_forward h seconds
  | objectAdded proxy connected servicesResolved =>
    simp only [Event.linkStep]
    split
    · have hfirst := connectedChanged_forward h proxy connected
      have hsecond := servicesResolvedChanged_forward hfirst.timely proxy servicesResolved
      exact ⟨hsecond.timely, fun a => (hfirst.mono a).trans (hsecond.mono a)⟩
    · exact .refl h
  | connectedChanged proxy value => exact connectedChanged_forward h proxy value
  | servicesResolvedChanged proxy value => exact servicesResolvedChanged_forward h proxy value
  | _ => exact .refl h

theorem step_forward {label : Event × Answers} (hwf : WellFormed cfg t) (h : Timely t)
    (hstep : step cfg t label = some t') : Forward t t' := by
  have hlinked := handle_linked hwf.clear (handle_of_step hstep)
  have hclear : Timely { t with effects := [] } := ⟨h.up, h.le⟩
  have hforward := linkStep_forward cfg hclear label.1
  refine ⟨⟨fun a ha => ?_, fun a => ?_⟩, fun a => ?_⟩
  · rw [hlinked.links] at ha ⊢
    rw [hlinked.now]
    exact hforward.timely.up a ha
  · rw [hlinked.links, hlinked.now]
    exact hforward.timely.le a
  · rw [hlinked.links]
    exact hforward.mono a

theorem start_timely (now : Nat) (connection : Option Nat) : Timely (start now connection) :=
  ⟨nofun, fun _ => Nat.zero_le _⟩

theorem run_timely {now : Nat} {connection : Option Nat} {labels : List (Event × Answers)}
    (h : Run (step cfg) ok (start now connection) labels t) : Timely t := by
  have hwf := Run.strengthen (J := WellFormed cfg) (fun _ _ hrun => run_wellFormed hrun) h
  exact hwf.invariant (start_timely now connection) fun _ _ _ hs hok hstep =>
    (step_forward hok.2 hs hstep).timely

/-- **`lastUp` bounds every moment of the run at which the link was up.** -/
theorem run_lastUp {now : Nat} {connection : Option Nat} {labels : List (Event × Answers)}
    (h : Run (step cfg) ok (start now connection) labels t) {a : BtAddress} :
    ∀ before after u, labels = before ++ after →
      run (step cfg) (start now connection) before = some u → (u.links a).connected = true →
        u.now ≤ (t.links a).lastUp := by
  induction h with
  | nil =>
    intro before after u hsplit hu hup
    obtain ⟨rfl, -⟩ := List.append_eq_nil_iff.mp hsplit.symm
    cases hu
    cases hup
  | @snoc labels s s' label hrun hok hstep ih =>
    intro before after u hsplit hu hup
    have hforward := step_forward (run_wellFormed hrun) (run_timely hrun) hstep
    rcases List.eq_nil_or_concat after with rfl | ⟨after, last, rfl⟩
    · rw [List.append_nil] at hsplit
      subst hsplit
      have hs' := (hrun.snoc hok hstep).to_run
      obtain rfl := Option.some.inj (hu.symm.trans hs')
      exact (hforward.timely.up a hup).ge
    · rw [List.concat_eq_append, ← List.append_assoc] at hsplit
      have hprefix := (List.append_inj' hsplit rfl).1
      exact (ih before after u hprefix hu hup).trans (hforward.mono a)

/-! ## giving up -/

theorem duration_of_givesUp {ble : BleDevice} (h : givesUp t ble = true) :
    giveUpSecs (removesDeviceContext t ble) ≤ devicesDurationInSecSinceLastConnection t ble := by
  unfold giveUpSecs
  split
  · rename_i hremoves
    unfold removesDeviceContext at hremoves
    rw [decide_eq_true_eq] at hremoves
    exact hremoves.2
  · unfold givesUp at h
    rw [decide_eq_true_eq] at h
    exact h.2

/-- a link that was not up after the timestamp is in particular not up for too long -/
theorem fresh_of_lastUp_le {ble : BleDevice} (h : givesUp t ble = true) {a : BtAddress}
    (hlast : (t.links a).lastUp ≤ ble.lastConnectedTimestampSecs) :
    t.staleSecs a ble + giveUpSecs (removesDeviceContext t ble)
      ≤ devicesDurationInSecSinceLastConnection t ble := by
  have hstale : t.staleSecs a ble = 0 := Nat.sub_eq_zero_of_le hlast
  rw [hstale, Nat.zero_add]
  exact duration_of_givesUp h

/-- the link has been down for the whole time without a connection -/
theorem lastUp_of_fresh {ble : BleDevice} {a : BtAddress} {removeContext : Bool}
    (hfresh : t.staleSecs a ble + giveUpSecs removeContext
      ≤ devicesDurationInSecSinceLastConnection t ble) :
    (t.links a).lastUp + giveUpSecs removeContext ≤ t.now := by
  have hpos : 0 < giveUpSecs removeContext := by cases removeContext <;> decide
  unfold Translator.staleSecs devicesDurationInSecSinceLastConnection at hfresh
  omega

theorem mem_of_retriedContext {e : Event} {ble : BleDevice} (hwf : WellFormed cfg t)
    (h : retriedContext cfg t e = some ble) :
    ble ∈ t.devices ∧ ∃ a, ble.proxy.address = some a ∧ ble.deviceId = cfg.id a := by
  have hfind : ∃ proxy, bleFindDeviceFromProxy cfg t proxy = some ble := by
    unfold retriedContext at h
    split at h
    · split at h
      · exact ⟨_, h⟩
      · cases h
    · exact ⟨_, h⟩
    · cases h
  obtain ⟨proxy, hfind⟩ := hfind
  obtain ⟨hble, a, -, haddr, hid⟩ := mem_of_bleFindDeviceFromProxy hwf hfind
  exact ⟨hble, a, haddr, hid⟩

/-- an event that starts a reconnection timer takes no time and brings no link up -/
theorem linkStep_retried {e : Event} {ble : BleDevice}
    (hretried : retriedContext cfg t e = some ble) :
    (e.linkStep cfg t).now = t.now ∧
      ∀ a, ((e.linkStep cfg t).links a).connected = true → (t.links a).connected = true := by
  unfold retriedContext at hretried
  split at hretried
  · exact ⟨rfl, fun _ hup => hup⟩
  · rename_i proxy
    simp only [Event.linkStep, Translator.connectedChanged]
    cases proxy.address with
    | none => exact ⟨rfl, fun _ hup => hup⟩
    | some b =>
      refine ⟨rfl, fun a hup => ?_⟩
      simp only [Translator.setLink] at hup
      by_cases hab : a = b
      · subst hab
        rw [Function.update_self] at hup
        cases hup
      · rwa [Function.update_of_ne hab] at hup
  · cases hretried

end

end EdgeTranslators.Ble
