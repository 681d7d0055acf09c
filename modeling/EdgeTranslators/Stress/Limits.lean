import EdgeTranslators.Stress.Tester
import Mathlib.Data.List.Perm.Subperm

/-!
# The limits of the stress tester

`register_random_device` and `unregister_random_device` compare the length of the list with the
limits when they make their calls; a device leaves the list later, in a callback.

* `TestThread.settledIds`      the devices none of whose unregistrations is in flight;
* `TestThread.Spares`          an unregistration is started only while enough of them are left;
* `limits_hold`                in runs of such steps the list keeps within its limits;
* `limits_fail_of_not_spares`  after any other step it can fall below its minimum.

A negative maximum counts as zero.
-/

namespace EdgeTranslators.Stress
open Lib

namespace TestThread

/-- the devices none of whose unregistrations is in flight -/
def settledIds (s : TestThread) : List String :=
  s.ids.filter fun id => ⟨.unregister, id⟩ ∉ s.outstanding

/-- A call for a device none of whose unregistrations is in flight is made only while more than the
minimum of devices are like it. -/
def Spares (s : TestThread) : TestEvent → Prop
  | .unregisterRandomDevice rand call =>
    ∀ entry ∈ s.chosen rand, call ≠ .noConnection →
      ⟨.unregister, entry.id⟩ ∈ s.outstanding ∨ s.minNumberOfDevices < s.settledIds.length
  | _ => True

instance (s : TestThread) : (e : TestEvent) → Decidable (s.Spares e)
  | .unregisterRandomDevice rand call =>
    inferInstanceAs (Decidable (∀ entry ∈ s.chosen rand, call ≠ .noConnection →
      ⟨.unregister, entry.id⟩ ∈ s.outstanding ∨ s.minNumberOfDevices < s.settledIds.length))
  | .unregisterDevices _ | .ready _ | .registerRandomDevice _ _ | .setRandomValue
  | .deviceRegistrationSuccess _ | .deviceRegistrationFailure _ | .deviceUnregistrationSuccess _
  | .deviceUnregistrationFailure _ | .exits => .isTrue trivial

variable {s s' t : TestThread} {e : TestEvent} {es : List TestEvent}

theorem mem_settledIds {id : String} :
    id ∈ s.settledIds ↔ id ∈ s.ids ∧ ⟨.unregister, id⟩ ∉ s.outstanding := by
  unfold settledIds
  rw [List.mem_filter, decide_eq_true_iff]

theorem length_ids : s.ids.length = s.devices.length := List.length_map _

theorem settledIds_length_le (hnodup : s.ids.Nodup) {ids : List String}
    (h : ∀ id ∈ s.settledIds, id ∈ ids) : s.settledIds.length ≤ ids.length :=
  (List.subperm_of_subset (hnodup.filter _) h).length_le

/-- the requests of a step that does not answer or make an unregistration -/
theorem unregister_mem_erase {id id' : String} :
    ⟨.unregister, id⟩ ∈ s.outstanding.erase ⟨.register, id'⟩ ↔
      ⟨.unregister, id⟩ ∈ s.outstanding :=
  List.mem_erase_of_ne nofun

/-! ## what a step does to the limits -/

theorem limits_unregisterDeviceEntryCommon (entry : Entry) (call : Call) :
    (s.unregisterDeviceEntryCommon entry call).maxNumberOfDevices = s.maxNumberOfDevices ∧
      (s.unregisterDeviceEntryCommon entry call).minNumberOfDevices = s.minNumberOfDevices := by
  cases call <;> exact ⟨rfl, rfl⟩

theorem limits_callAll (ps : List (Entry × Call)) :
    (s.callAll ps).maxNumberOfDevices = s.maxNumberOfDevices ∧
      (s.callAll ps).minNumberOfDevices = s.minNumberOfDevices := by
  induction ps generalizing s with
  | nil => exact ⟨rfl, rfl⟩
  | cons p ps ih =>
    obtain ⟨hmax, hmin⟩ := limits_unregisterDeviceEntryCommon (s := s) p.1 p.2
    obtain ⟨hmax', hmin'⟩ := ih (s := s.unregisterDeviceEntryCommon p.1 p.2)
    exact ⟨hmax'.trans hmax, hmin'.trans hmin⟩

theorem limits_step (hstep : s.step e = some s') :
    s'.maxNumberOfDevices = s.maxNumberOfDevices ∧ s'.minNumberOfDevices = s.minNumberOfDevices := by
  cases taken_of_step hstep with
  | calls => exact limits_unregisterDeviceEntryCommon _ _
  | drains => exact limits_callAll (s := s) _
  | _ => exact ⟨rfl, rfl⟩

/-- the ids after a step are among those before it, but for a new one -/
theorem length_step (hnodup : s.ids.Nodup) (hstep : s.step e = some s') :
    s'.devices.length ≤ s.devices.length ∨
      s.devices.length < s.maxNumberOfDevices ∧ s'.devices.length = s.devices.length + 1 := by
  have hsub : (∀ id ∈ s'.ids, id ∈ s.ids) → s'.devices.length ≤ s.devices.length := by
    intro h
    rw [← length_ids, ← length_ids]
    exact (List.subperm_of_subset (nodup_step hnodup hstep) h).length_le
  cases taken_of_step hstep with
  | skips => exact .inl (Nat.le_refl _)
  | adds hphase hcount hnew => exact .inr ⟨hcount, List.length_append⟩
  | calls =>
    refine .inl (hsub fun id hid => ?_)
    exact ((mem_ids_unregisterDeviceEntryCommon hnodup _ _ id).mp hid).1
  | drains =>
    refine .inl (hsub fun id hid => ?_)
    exact ((mem_ids_callAll hnodup _ id).mp hid).1
  | registered hmem hset =>
    refine .inl (hsub fun id hid => ?_)
    rwa [ids, testDataSetDeviceRegistered_ids hset] at hid
  | registrationFails => exact .inl (Nat.le_refl _)
  | unregistered hmem hset =>
    refine .inl (hsub fun id hid => ?_)
    rw [ids, removeDevice_ids, testDataSetDeviceRegistered_ids hset] at hid
    exact List.mem_of_mem_erase hid
  | unregistrationFails => exact .inl (Nat.le_refl _)
  | exits => exact .inl (Nat.le_refl _)

/-- the list is as long as `register_random_device` lets it become -/
theorem length_le_max {ok : TestThread → TestEvent → Prop} {testThreadIndex : Nat}
    {maxNumberOfDevices minNumberOfDevices : Int}
    (h : Run step ok (start testThreadIndex maxNumberOfDevices minNumberOfDevices) es s) :
    s.devices.length ≤ maxNumberOfDevices.toNat ∧
      s.maxNumberOfDevices = maxNumberOfDevices ∧ s.minNumberOfDevices = minNumberOfDevices := by
  induction h with
  | nil => exact ⟨Nat.zero_le _, rfl, rfl⟩
  | snoc hrun _ hstep ih =>
    obtain ⟨hlength, hmax, hmin⟩ := ih
    obtain ⟨hmax', hmin'⟩ := limits_step hstep
    refine ⟨?_, hmax'.trans hmax, hmin'.trans hmin⟩
    rcases length_step (nodup_of_run hrun) hstep with hle | ⟨hlt, heq⟩ <;> omega

/-! ## the minimum -/

/-- enough devices are left when all the unregistrations in flight succeed -/
def Spared (s : TestThread) : Prop :=
  (∀ id, ⟨.unregister, id⟩ ∉ s.outstanding) ∨ s.minNumberOfDevices ≤ s.settledIds.length

/-- no settled device is lost -/
theorem Spared.of_settled (h : s.Spared) (hnodup : s.ids.Nodup)
    (hmin : s'.minNumberOfDevices = s.minNumberOfDevices)
    (hrequests : ∀ id, ⟨.unregister, id⟩ ∈ s'.outstanding → ⟨.unregister, id⟩ ∈ s.outstanding)
    (hids : ∀ id ∈ s.settledIds, id ∈ s'.ids) : s'.Spared := by
  rcases h with hnone | hmany
  · exact .inl fun id hid => hnone id (hrequests id hid)
  · refine .inr ?_
    have hle : s.settledIds.length ≤ s'.settledIds.length := by
      refine settledIds_length_le hnodup fun id hid => mem_settledIds.mpr ⟨hids id hid, ?_⟩
      exact fun hmem => (mem_settledIds.mp hid).2 (hrequests id hmem)
    omega

/-- a call for a device none of whose unregistrations is in flight costs one settled device -/
theorem settledIds_length_call (hnodup : s.ids.Nodup) (entry : Entry) (call : Call) :
    s.settledIds.length ≤ (s.unregisterDeviceEntryCommon entry call).settledIds.length + 1 := by
  have hsub : ∀ id ∈ s.settledIds,
      id ∈ entry.id :: (s.unregisterDeviceEntryCommon entry call).settledIds := by
    intro id hid
    obtain ⟨hids, hquiet⟩ := mem_settledIds.mp hid
    by_cases heq : id = entry.id
    · exact heq ▸ List.mem_cons_self
    · refine List.mem_cons_of_mem _ (mem_settledIds.mpr ⟨?_, ?_⟩)
      · exact (mem_ids_unregisterDeviceEntryCommon hnodup entry call id).mpr
          ⟨hids, fun _ => Ne.symm heq⟩
      · rw [outstanding_unregisterDeviceEntryCommon, List.mem_append, not_or]
        refine ⟨hquiet, ?_⟩
        cases call <;> simp [requested, heq]
  exact settledIds_length_le hnodup hsub

/-- a success takes no settled device from the list -/
theorem mem_ids_of_settled {id id' : String} {devices : List Entry}
    (hmem : ⟨.unregister, id⟩ ∈ s.outstanding)
    (hset : testDataSetDeviceRegistered id false s.devices = some devices)
    (hid : id' ∈ s.settledIds) : id' ∈ (removeDevice id devices).map Entry.id := by
  obtain ⟨hids, hquiet⟩ := mem_settledIds.mp hid
  rw [removeDevice_ids, testDataSetDeviceRegistered_ids hset]
  refine (List.mem_erase_of_ne ?_).mpr hids
  rintro rfl
  exact hquiet hmem

theorem spared_step (hnodup : s.ids.Nodup) (hspared : s.phase = .running → s.Spared)
    (hspares : s.Spares e) (hstep : s.step e = some s') : s'.phase = .running → s'.Spared := by
  intro hrunning
  cases taken_of_step hstep with
  | skips => exact hspared hrunning
  | @adds num call hphase hcount hnew =>
    refine (hspared hphase).of_settled hnodup rfl (fun id hid => ?_) fun id hid => ?_
    · by_cases hcall : call = .accepted
      · rw [if_pos hcall] at hid
        rcases List.mem_append.mp hid with hid | hid
        · exact hid
        · cases List.mem_singleton.mp hid
      · rwa [if_neg hcall] at hid
    · rw [ids_adds]
      exact List.mem_append_left _ (mem_settledIds.mp hid).1
  | @calls rand call entry hphase hchosen =>
    by_cases hcall : call = .noConnection
    · subst hcall
      exact hspared hphase
    · rcases hspares entry hchosen hcall with hflight | hmany
      · refine (hspared hphase).of_settled hnodup
          (limits_unregisterDeviceEntryCommon entry call).2 (fun id hid => ?_) fun id hid => ?_
        · rw [outstanding_unregisterDeviceEntryCommon] at hid
          rcases List.mem_append.mp hid with hid | hid
          · exact hid
          · cases call with
            | accepted =>
              cases List.mem_singleton.mp hid
              exact hflight
            | _ => cases hid
        · obtain ⟨hids, hquiet⟩ := mem_settledIds.mp hid
          refine (mem_ids_unregisterDeviceEntryCommon hnodup entry call id).mpr ⟨hids, ?_⟩
          rintro - rfl
          exact hquiet hflight
      · refine .inr ?_
        have hle := settledIds_length_call hnodup entry call
        rw [(limits_unregisterDeviceEntryCommon entry call).2]
        omega
  | drains => cases hrunning
  | registered hmem hset =>
    refine (hspared hrunning).of_settled hnodup rfl
      (fun id hid => unregister_mem_erase.mp hid) fun id hid => ?_
    rw [ids, testDataSetDeviceRegistered_ids hset]
    exact (mem_settledIds.mp hid).1
  | registrationFails hmem =>
    exact (hspared hrunning).of_settled hnodup rfl (fun id hid => unregister_mem_erase.mp hid)
      fun id hid => (mem_settledIds.mp hid).1
  | unregistered hmem hset =>
    refine (hspared hrunning).of_settled hnodup rfl
      (fun id hid => List.mem_of_mem_erase hid) fun id hid => ?_
    exact mem_ids_of_settled hmem hset hid
  | unregistrationFails hmem =>
    exact (hspared hrunning).of_settled hnodup rfl (fun id hid => List.mem_of_mem_erase hid)
      fun id hid => (mem_settledIds.mp hid).1
  | exits => cases hrunning

/-- a step before the drain that takes a device from the list leaves the minimum -/
theorem min_le_of_spared (hnodup : s.ids.Nodup) (hspared : s.phase = .running → s.Spared)
    (hstep : s.step e = some s') (hrunning : s'.phase = .running)
    (hless : s'.devices.length < s.devices.length) :
    s.minNumberOfDevices ≤ s'.devices.length := by
  cases taken_of_step hstep with
  | @calls rand call entry hphase hchosen =>
    obtain ⟨⟨-, hcount⟩, -⟩ := Option.ite_none_right_eq_some.mp hchosen
    have hlength : s.devices.length ≤
        (s.unregisterDeviceEntryCommon entry call).devices.length + 1 := by
      cases call with
      | rejected =>
        show _ ≤ (s.devices.eraseP _).length + 1
        rw [List.length_eraseP]
        split <;> omega
      | _ => exact Nat.le_succ _
    omega
  | @unregistered id devices hmem hset =>
    rcases hspared hrunning with hnone | hmany
    · exact absurd hmem (hnone id)
    · have hle := settledIds_length_le hnodup fun id' hid => mem_ids_of_settled hmem hset hid
      rw [List.length_map] at hle
      show _ ≤ ((removeDevice id devices).length : Int)
      omega
  | adds =>
    rw [List.length_append] at hless
    omega
  | registered hmem hset =>
    have hlength := congrArg List.length (testDataSetDeviceRegistered_ids hset)
    rw [List.length_map, List.length_map] at hlength
    exact absurd hless (hlength ▸ Nat.lt_irrefl _)
  | drains => cases hrunning
  | exits => cases hrunning
  | _ => exact absurd hless (Nat.lt_irrefl _)

/-- **The limits hold** before the drain, in runs where the unregistrations that are in flight leave
the minimum: the list is no longer than the maximum, and no step that takes a device from it brings
it below the minimum. -/
theorem limits_hold {testThreadIndex : Nat} {maxNumberOfDevices minNumberOfDevices : Int}
    (h : Run step Spares (start testThreadIndex maxNumberOfDevices minNumberOfDevices) es s) :
    s.devices.length ≤ maxNumberOfDevices.toNat ∧
      ∀ e s', s.step e = some s' → s'.phase = .running → s'.devices.length < s.devices.length →
        minNumberOfDevices ≤ s'.devices.length := by
  obtain ⟨hlength, -, hmin⟩ := length_le_max h
  have hspared : s.phase = .running → s.Spared := by
    have hstart : (start testThreadIndex maxNumberOfDevices minNumberOfDevices).phase = .running →
        (start testThreadIndex maxNumberOfDevices minNumberOfDevices).Spared := fun _ => .inl nofun
    refine @Run.invariant _ _ _ _ _ _ _ (fun s => s.phase = .running → s.Spared)
      (h.strengthen fun _ _ hrun => nodup_of_run hrun) hstart ?_
    intro s e s' hspared ⟨hspares, hnodup⟩ hstep
    exact spared_step hnodup hspared hspares hstep
  refine ⟨hlength, fun e s' hstep hrunning hless => ?_⟩
  rw [← hmin]
  exact min_le_of_spared (nodup_of_run h) hspared hstep hrunning hless

/-! ## the other steps -/

theorem step_success {id : String} (hid : id ∈ s.ids) (hmem : ⟨.unregister, id⟩ ∈ s.outstanding) :
    ∃ s', s.step (.deviceUnregistrationSuccess id) = some s' ∧ s'.phase = s.phase ∧
      s'.ids = s.ids.erase id ∧ s'.outstanding = s.outstanding.erase ⟨.unregister, id⟩ := by
  obtain ⟨devices, hset⟩ :=
    Option.isSome_iff_exists.mp ((@testDataSetDeviceRegistered_isSome id false s.devices).mpr hid)
  refine ⟨{ s with
    devices := removeDevice id devices
    outstanding := s.outstanding.erase ⟨.unregister, id⟩ }, ?_, rfl, ?_, rfl⟩
  · simp [step, answer, hmem, hset]
  · rw [ids, removeDevice_ids, testDataSetDeviceRegistered_ids hset]
    rfl

/-- when all the unregistrations in flight succeed, the settled devices are left -/
theorem exists_run_settled (hnodup : s.ids.Nodup) :
    ∃ es t, (∀ e ∈ es, ∃ id, e = .deviceUnregistrationSuccess id) ∧
      Run step (fun _ _ => True) s es t ∧ t.phase = s.phase ∧
        t.devices.length = s.settledIds.length := by
  induction hlength : s.ids.length generalizing s with
  | zero =>
    refine ⟨[], s, nofun, .nil, rfl, ?_⟩
    rw [← length_ids, hlength, settledIds, List.length_eq_zero_iff.mp hlength]
    rfl
  | succ n ih =>
    by_cases hflight : ∃ id ∈ s.ids, ⟨.unregister, id⟩ ∈ s.outstanding
    · obtain ⟨id, hid, hmem⟩ := hflight
      obtain ⟨s', hstep, hphase, hids, houtstanding⟩ := step_success hid hmem
      have hnodup' := nodup_step hnodup hstep
      have hlength' : s'.ids.length = n := by
        rw [hids, List.length_erase_of_mem hid, hlength]
        rfl
      have hsame : ∀ id', id' ∈ s'.settledIds ↔ id' ∈ s.settledIds := by
        intro id'
        rw [mem_settledIds, mem_settledIds, hids, houtstanding, hnodup.mem_erase_iff]
        have hother : id' ≠ id → (⟨.unregister, id'⟩ ∈ s.outstanding.erase ⟨.unregister, id⟩ ↔
            ⟨.unregister, id'⟩ ∈ s.outstanding) :=
          fun hne => List.mem_erase_of_ne fun heq => hne (by cases heq; rfl)
        constructor
        · rintro ⟨⟨hne, hid'⟩, hquiet⟩
          exact ⟨hid', fun hmem' => hquiet ((hother hne).mpr hmem')⟩
        · rintro ⟨hid', hquiet⟩
          have hne : id' ≠ id := by
            rintro rfl
            exact hquiet hmem
          exact ⟨⟨hne, hid'⟩, fun hmem' => hquiet ((hother hne).mp hmem')⟩
      have hsettled : s'.settledIds.length = s.settledIds.length :=
        Nat.le_antisymm (settledIds_length_le hnodup' fun id' h => (hsame id').mp h)
          (settledIds_length_le hnodup fun id' h => (hsame id').mpr h)
      obtain ⟨es, t, hes, hrun, hphase', hleft⟩ := ih hnodup' hlength'
      refine ⟨[TestEvent.deviceUnregistrationSuccess id] ++ es, t, ?_, ?_, hphase'.trans hphase,
        hleft.trans hsettled⟩
      · exact List.forall_mem_append.mpr ⟨List.forall_mem_singleton.mpr ⟨id, rfl⟩, hes⟩
      · exact (Run.snoc .nil trivial hstep).append hrun
    · refine ⟨[], s, nofun, .nil, rfl, ?_⟩
      rw [settledIds, List.filter_eq_self.mpr ?_, length_ids]
      exact fun id hid => decide_eq_true fun hmem => hflight ⟨id, hid, hmem⟩

/-- **The condition is exact.**  After a step that does not meet it the list falls below its minimum
when the unregistrations in flight succeed. -/
theorem limits_fail_of_not_spares (hnodup : s.ids.Nodup) (hnot : ¬ s.Spares e)
    (hstep : s.step e = some s') :
    ∃ es t, (∀ e ∈ es, ∃ id, e = .deviceUnregistrationSuccess id) ∧
      Run step (fun _ _ => True) s' es t ∧ t.phase = .running ∧
        t.devices.length < s.minNumberOfDevices := by
  cases taken_of_step hstep with
  | @skips e ready he hchosen =>
    cases e with
    | unregisterRandomDevice rand call =>
      refine absurd (fun entry hentry => ?_) hnot
      cases (hchosen rand call rfl).symm.trans hentry
    | ready | registerRandomDevice | setRandomValue => exact absurd trivial hnot
    | _ => cases he
  | @calls rand call entry hphase hchosen =>
    have hnot' : call ≠ .noConnection ∧ ⟨.unregister, entry.id⟩ ∉ s.outstanding ∧
        s.settledIds.length ≤ s.minNumberOfDevices := by
      refine ⟨fun hcall => ?_, fun hflight => ?_, Int.not_lt.mp fun hmany => ?_⟩
      · exact hnot fun _ _ h => absurd hcall h
      · refine hnot fun entry' hentry' _ => .inl ?_
        cases hchosen.symm.trans hentry'
        exact hflight
      · exact hnot fun _ _ _ => .inr hmany
    obtain ⟨hcall, hquiet, hfew⟩ := hnot'
    -- the call costs the settled device
    have hlost : ∀ id ∈ (s.unregisterDeviceEntryCommon entry call).settledIds,
        id ∈ s.settledIds.erase entry.id := by
      intro id hid
      rw [mem_settledIds, mem_ids_unregisterDeviceEntryCommon hnodup,
        outstanding_unregisterDeviceEntryCommon, List.mem_append, not_or] at hid
      obtain ⟨⟨hids, hkept⟩, hquiet', hrequested⟩ := hid
      refine (List.mem_erase_of_ne ?_).mpr (mem_settledIds.mpr ⟨hids, hquiet'⟩)
      rintro rfl
      cases call with
      | noConnection => exact hcall rfl
      | accepted => exact hrequested (List.mem_singleton_self _)
      | rejected => exact hkept rfl rfl
    have hmem : entry.id ∈ s.settledIds :=
      mem_settledIds.mpr ⟨List.mem_map_of_mem (chosen_mem hchosen), hquiet⟩
    have hnodup' := nodup_unregisterDeviceEntryCommon hnodup entry call
    have hle := settledIds_length_le hnodup' hlost
    rw [List.length_erase_of_mem hmem] at hle
    have hpos := List.length_pos_of_mem hmem
    obtain ⟨es, t, hes, hrun, hphase', hleft⟩ := exists_run_settled hnodup'
    refine ⟨es, t, hes, hrun, hphase'.trans ?_, ?_⟩
    · cases call <;> exact hphase
    · rw [hleft]
      omega
  | _ => exact absurd trivial hnot

/-- two devices, one of which is being unregistered -/
def twoDevices : List TestEvent :=
  [.ready true, .registerRandomDevice 1 .accepted, .registerRandomDevice 2 .accepted,
    .unregisterRandomDevice 0 .accepted]

theorem limits_hold_twoDevices :
    ∃ s s', Run step Spares (start 0 100 1) twoDevices s ∧ s.devices.length = 2 ∧
      s.step (.deviceUnregistrationSuccess "rand-0-1") = some s' ∧ (1 : Int) ≤ s'.devices.length := by
  have hrun : ∃ s, run (guarded step Spares) (start 0 100 1) twoDevices = some s ∧
      (s.devices.length = 2 ∧ ∃ s' ∈ s.step (.deviceUnregistrationSuccess "rand-0-1"),
        s'.phase = .running ∧ s'.devices.length < s.devices.length) :=
    exists_of_run_any (by decide +kernel)
  obtain ⟨s, hs, hlength, s', hs', hrunning, hless⟩ := hrun
  exact ⟨s, s', Run.of_guarded hs, hlength, hs',
    (limits_hold (Run.of_guarded hs)).2 _ s' hs' hrunning hless⟩

/-- both unregistrations are started while the list still has two devices -/
theorem limits_hold_fails :
    ∃ s s', run step (start 0 100 1) (twoDevices ++
        [TestEvent.unregisterRandomDevice randMax .accepted,
          .deviceUnregistrationSuccess "rand-0-1"]) = some s ∧ s.devices.length = 1 ∧
      s.step (.deviceUnregistrationSuccess "rand-0-2") = some s' ∧ s'.phase = .running ∧
        s'.devices.length = 0 := by
  have hrun : ∃ s, run step (start 0 100 1) (twoDevices ++
        [TestEvent.unregisterRandomDevice randMax .accepted,
          .deviceUnregistrationSuccess "rand-0-1"]) = some s ∧
      (s.devices.length = 1 ∧ ∃ s' ∈ s.step (.deviceUnregistrationSuccess "rand-0-2"),
        s'.phase = .running ∧ s'.devices.length = 0) := exists_of_run_any (by decide +kernel)
  obtain ⟨s, hs, hlength, s', hs', hphase, hnone⟩ := hrun
  exact ⟨s, s', hs, hlength, hs', hphase, hnone⟩

end TestThread

end EdgeTranslators.Stress
