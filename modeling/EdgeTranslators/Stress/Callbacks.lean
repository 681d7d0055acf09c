import EdgeTranslators.Stress.Tester

/-!
# The callbacks of the stress tester

`device_registration_success` and `device_unregistration_success` work on the entry of their device.

* `TestThread.Found`         every device with an outstanding request is in the list;
* `TestThread.Serves`        the steps that keep it so;
* `found_step_iff`           they do, and no others;
* `callbacks_find_device`    in runs of such steps the callbacks find their device.
-/

namespace EdgeTranslators.Stress
open Lib

namespace TestThread

/-- every device with an outstanding request is in the list -/
def Found (s : TestThread) : Prop := ∀ r ∈ s.outstanding, r.device ∈ s.ids

/-- no request for the device is outstanding -/
def Quiet (requests : List Request) (id : String) : Prop := ∀ r ∈ requests, r.device ≠ id

instance (requests : List Request) (id : String) : Decidable (Quiet requests id) :=
  inferInstanceAs (Decidable (∀ r ∈ requests, r.device ≠ id))

/-- An unregistration is rejected only if no request for its device is outstanding, and succeeds
only if no other one is. -/
def Serves (s : TestThread) : TestEvent → Prop
  | .unregisterRandomDevice rand call =>
    ∀ entry ∈ s.chosen rand, call = .rejected → Quiet s.outstanding entry.id
  | .unregisterDevices calls =>
    ∀ p ∈ s.devices.zip calls, p.2 = .rejected → Quiet s.outstanding p.1.id
  | .deviceUnregistrationSuccess id => Quiet (s.outstanding.erase ⟨.unregister, id⟩) id
  | _ => True

instance (s : TestThread) : (e : TestEvent) → Decidable (s.Serves e)
  | .unregisterRandomDevice rand call =>
    inferInstanceAs (Decidable (∀ entry ∈ s.chosen rand, call = .rejected →
      Quiet s.outstanding entry.id))
  | .unregisterDevices calls =>
    inferInstanceAs (Decidable (∀ p ∈ s.devices.zip calls, p.2 = .rejected →
      Quiet s.outstanding p.1.id))
  | .deviceUnregistrationSuccess id =>
    inferInstanceAs (Decidable (Quiet (s.outstanding.erase ⟨.unregister, id⟩) id))
  | .ready _ | .registerRandomDevice _ _ | .setRandomValue | .deviceRegistrationSuccess _
  | .deviceRegistrationFailure _ | .deviceUnregistrationFailure _ | .exits => .isTrue trivial

variable {s s' : TestThread} {e : TestEvent}

/-- the calls for some entries of the list leave a state where the callbacks find their device if
and only if the devices that are removed have no request -/
theorem found_callAll_iff (hnodup : s.ids.Nodup) (hfound : s.Found) {ps : List (Entry × Call)}
    (hmem : ∀ p ∈ ps, p.1 ∈ s.devices) (hdistinct : (ps.map fun p => p.1.id).Nodup) :
    (s.callAll ps).Found ↔ ∀ p ∈ ps, p.2 = .rejected → Quiet s.outstanding p.1.id := by
  unfold Found
  rw [outstanding_callAll, List.forall_mem_append]
  simp only [mem_ids_callAll hnodup]
  constructor
  · rintro ⟨hold, -⟩ p hp hrejected r hr heq
    exact (hold r hr).2 p hp hrejected heq.symm
  · intro hquiet
    constructor
    · exact fun r hr => ⟨hfound r hr, fun p hp hrejected heq => hquiet p hp hrejected r hr heq.symm⟩
    · -- the requests that the calls add are for devices whose call was accepted
      intro r hr
      obtain ⟨p, hp, hr⟩ := List.mem_flatMap.mp hr
      cases haccepted : p.2 with
      | accepted =>
        rw [haccepted] at hr
        rw [List.mem_singleton.mp hr]
        refine ⟨List.mem_map_of_mem (hmem p hp), fun q hq hrejected heq => ?_⟩
        have hsame := List.inj_on_of_nodup_map hdistinct hq hp heq
        rw [hsame, haccepted] at hrejected
        cases hrejected
      | _ =>
        rw [haccepted] at hr
        cases hr

theorem found_step_iff (hnodup : s.ids.Nodup) (hfound : s.Found) (hstep : s.step e = some s') :
    s'.Found ↔ s.Serves e := by
  cases taken_of_step hstep with
  | @skips e ready he hchosen =>
    refine iff_of_true hfound ?_
    cases e with
    | unregisterRandomDevice rand call =>
      intro entry hentry
      cases (hchosen rand call rfl).symm.trans hentry
    | ready | registerRandomDevice | setRandomValue => trivial
    | _ => cases he
  | @adds num call hphase hcount hnew =>
    refine iff_of_true ?_ trivial
    intro r hr
    rw [ids_adds]
    by_cases hcall : call = .accepted
    · rw [if_pos hcall] at hr
      rcases List.mem_append.mp hr with hr | hr
      · exact List.mem_append_left _ (hfound r hr)
      · rw [List.mem_singleton.mp hr]
        exact List.mem_append_right _ (List.mem_singleton_self _)
    · rw [if_neg hcall] at hr
      exact List.mem_append_left _ (hfound r hr)
  | @calls rand call entry hphase hchosen =>
    have hmem : ∀ p ∈ [(entry, call)], p.1 ∈ s.devices := by
      intro p hp
      rw [List.mem_singleton.mp hp]
      exact chosen_mem hchosen
    have hcalls := found_callAll_iff hnodup hfound hmem (List.nodup_singleton _)
    refine hcalls.trans ?_
    rw [List.forall_mem_singleton]
    refine ⟨fun h entry' hentry' => ?_, fun h => h entry hchosen⟩
    cases hchosen.symm.trans hentry'
    exact h
  | @drains calls hphase hlength =>
    exact found_callAll_iff hnodup hfound (fun p hp => (List.of_mem_zip hp).1)
      (nodup_zip_ids hnodup hlength)
  | registered hmem hset =>
    refine iff_of_true ?_ trivial
    intro r hr
    show r.device ∈ List.map Entry.id _
    rw [testDataSetDeviceRegistered_ids hset]
    exact hfound r (List.mem_of_mem_erase hr)
  | registrationFails hmem =>
    exact iff_of_true (fun r hr => hfound r (List.mem_of_mem_erase hr)) trivial
  | @unregistered id devices hmem hset =>
    show (∀ r ∈ s.outstanding.erase ⟨.unregister, id⟩, r.device ∈ _) ↔
      ∀ r ∈ s.outstanding.erase ⟨.unregister, id⟩, r.device ≠ id
    apply forall₂_congr
    intro r hr
    show r.device ∈ (removeDevice id devices).map Entry.id ↔ _
    rw [removeDevice_ids, testDataSetDeviceRegistered_ids hset]
    refine hnodup.mem_erase_iff.trans ?_
    exact and_iff_left (hfound r (List.mem_of_mem_erase hr))
  | unregistrationFails hmem =>
    exact iff_of_true (fun r hr => hfound r (List.mem_of_mem_erase hr)) trivial
  | exits => exact iff_of_true hfound trivial

/-- **The callbacks find their device** in runs where an unregistration is rejected only if no
request for its device is outstanding, and succeeds only if no other one is. -/
theorem callbacks_find_device {testThreadIndex : Nat} {maxNumberOfDevices minNumberOfDevices : Int}
    {es : List TestEvent}
    (h : Run step Serves (start testThreadIndex maxNumberOfDevices minNumberOfDevices) es s) :
    ∀ r ∈ s.outstanding, ∀ value,
      (findDevice s.devices r.device).isSome = true ∧
        (testDataSetDeviceRegistered r.device value s.devices).isSome = true := by
  have hfound : s.Found := by
    have hstart : (start testThreadIndex maxNumberOfDevices minNumberOfDevices).Found := nofun
    apply (h.strengthen fun _ _ hrun => nodup_of_run hrun).invariant hstart
    intro s e s' hfound ⟨hserves, hnodup⟩ hstep
    exact (found_step_iff hnodup hfound hstep).mpr hserves
  intro r hr value
  have hmem := hfound r hr
  refine ⟨?_, testDataSetDeviceRegistered_isSome.mpr hmem⟩
  rw [Option.isSome_iff_ne_none]
  exact fun hnone => findDevice_eq_none.mp hnone hmem

/-- a device is registered, and its unregistration is in flight -/
def unregistering : List TestEvent :=
  [.ready true, .registerRandomDevice 1 .accepted, .deviceRegistrationSuccess "rand-0-1",
    .unregisterRandomDevice 0 .accepted]

theorem callbacks_find_device_unregistering :
    ∃ s, Run step Serves (start 0 100 0) unregistering s ∧
      s.outstanding = [⟨.unregister, "rand-0-1"⟩] ∧
        (findDevice s.devices "rand-0-1").isSome = true := by
  have hrun : ∃ s, run (guarded step Serves) (start 0 100 0) unregistering = some s ∧
      s.outstanding = [⟨.unregister, "rand-0-1"⟩] := exists_of_run_any (by decide +kernel)
  obtain ⟨s, hs, houtstanding⟩ := hrun
  have hmem : ⟨.unregister, "rand-0-1"⟩ ∈ s.outstanding := by
    rw [houtstanding]
    exact List.mem_singleton_self _
  have hfind := callbacks_find_device (Run.of_guarded hs) _ hmem true
  exact ⟨s, Run.of_guarded hs, houtstanding, hfind.1⟩

/-- A second unregistration is rejected while the first is in flight, and the device is removed
forcefully; or both are accepted, and the first success removes it.  A success is still to come. -/
theorem callbacks_find_device_fails :
    (∃ s, run step (start 0 100 0)
        (unregistering ++ [TestEvent.unregisterRandomDevice 0 .rejected]) = some s ∧
      ⟨.unregister, "rand-0-1"⟩ ∈ s.outstanding ∧ findDevice s.devices "rand-0-1" = none ∧
        s.step (.deviceUnregistrationSuccess "rand-0-1") = none) ∧
    ∃ s, run step (start 0 100 0) (unregistering ++
        [TestEvent.unregisterRandomDevice 0 .accepted,
          .deviceUnregistrationSuccess "rand-0-1"]) = some s ∧
      ⟨.unregister, "rand-0-1"⟩ ∈ s.outstanding ∧ findDevice s.devices "rand-0-1" = none := by
  constructor
  · have hrun : ∃ s, run step (start 0 100 0)
          (unregistering ++ [TestEvent.unregisterRandomDevice 0 .rejected]) = some s ∧
        (⟨.unregister, "rand-0-1"⟩ ∈ s.outstanding ∧ findDevice s.devices "rand-0-1" = none ∧
          (s.step (.deviceUnregistrationSuccess "rand-0-1")).isNone = true) :=
      exists_of_run_any (by decide +kernel)
    obtain ⟨s, hs, hmem, hfind, hnone⟩ := hrun
    exact ⟨s, hs, hmem, hfind, Option.isNone_iff_eq_none.mp hnone⟩
  · exact exists_of_run_any (by decide +kernel)

end TestThread

end EdgeTranslators.Stress
