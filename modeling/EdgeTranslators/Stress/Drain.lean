import EdgeTranslators.Stress.Tester

/-!
# The drain of the stress tester

At its end a test thread unregisters all its devices, and waits until its list is empty.

* `TestThread.mem_ids_draining`    the ids that are still in the list after some callbacks;
* `TestThread.answered_of_run`     a request that is no longer outstanding was answered;
* `drain_empties_iff`              when the list becomes empty.
-/

namespace EdgeTranslators.Stress
open Lib

namespace TestThread
variable {s d t : TestThread} {e : TestEvent} {es : List TestEvent} {calls : List Call}

/-- after the drain a step takes an id from the list only when its unregistration succeeds -/
theorem draining_step (hphase : s.phase ≠ .running) (hnodup : s.ids.Nodup)
    (hstep : s.step e = some d) :
    d.phase ≠ .running ∧
      ∀ id, id ∈ d.ids ↔ id ∈ s.ids ∧ e ≠ .deviceUnregistrationSuccess id := by
  cases taken_of_step hstep with
  | skips he =>
    refine ⟨hphase, fun id => (and_iff_left ?_).symm⟩
    rintro rfl
    cases he
  | adds hrunning => exact absurd hrunning hphase
  | calls hrunning => exact absurd hrunning hphase
  | drains hrunning => exact absurd hrunning hphase
  | registered hmem hset =>
    refine ⟨hphase, fun id => ?_⟩
    show id ∈ List.map Entry.id _ ↔ _
    rw [testDataSetDeviceRegistered_ids hset]
    exact (and_iff_left nofun).symm
  | registrationFails => exact ⟨hphase, fun id => (and_iff_left nofun).symm⟩
  | @unregistered id' devices hmem hset =>
    refine ⟨hphase, fun id => ?_⟩
    show id ∈ (removeDevice id' devices).map Entry.id ↔ _
    rw [removeDevice_ids, testDataSetDeviceRegistered_ids hset]
    refine hnodup.mem_erase_iff.trans (and_comm.trans (and_congr_right fun _ => ?_))
    exact ⟨fun hne heq => hne (by cases heq; rfl), fun hne heq => hne (by rw [heq])⟩
  | unregistrationFails => exact ⟨hphase, fun id => (and_iff_left nofun).symm⟩
  | exits => exact ⟨nofun, fun id => (and_iff_left nofun).symm⟩

/-- after the drain an id is in the list until its unregistration succeeds -/
theorem mem_ids_draining (hphase : d.phase ≠ .running) (hnodup : d.ids.Nodup)
    (h : Run step (fun _ _ => True) d es t) :
    t.phase ≠ .running ∧ t.ids.Nodup ∧
      ∀ id, id ∈ t.ids ↔ id ∈ d.ids ∧ .deviceUnregistrationSuccess id ∉ es := by
  induction h with
  | nil => exact ⟨hphase, hnodup, fun id => (and_iff_left List.not_mem_nil).symm⟩
  | @snoc es s t e _ _ hstep ih =>
    obtain ⟨hphase, hnodup, hids⟩ := ih
    obtain ⟨hphase', hids'⟩ := draining_step hphase hnodup hstep
    refine ⟨hphase', nodup_step hnodup hstep, fun id => ?_⟩
    rw [hids', hids, and_assoc, List.mem_append, List.mem_singleton, not_or]
    exact and_congr_right fun _ => and_congr_right fun _ => ne_comm

/-- a request leaves the outstanding ones when it is answered -/
theorem answered_step {id : String} (hmem : ⟨.unregister, id⟩ ∈ s.outstanding)
    (hstep : s.step e = some d) :
    ⟨.unregister, id⟩ ∈ d.outstanding ∨ e = .deviceUnregistrationSuccess id ∨
      e = .deviceUnregistrationFailure id := by
  have herase : ∀ r : Request, r ≠ ⟨.unregister, id⟩ →
      ⟨.unregister, id⟩ ∈ s.outstanding.erase r :=
    fun r hr => (List.mem_erase_of_ne hr.symm).mpr hmem
  cases taken_of_step hstep with
  | skips => exact .inl hmem
  | adds =>
    left
    show _ ∈ ite _ _ _
    split
    · exact List.mem_append_left _ hmem
    · exact hmem
  | calls =>
    left
    rw [outstanding_unregisterDeviceEntryCommon]
    exact List.mem_append_left _ hmem
  | drains =>
    left
    refine (outstanding_callAll _).symm ▸ ?_
    exact List.mem_append_left _ hmem
  | registered => exact .inl (herase _ nofun)
  | registrationFails => exact .inl (herase _ nofun)
  | @unregistered id' devices hmem' hset =>
    by_cases hid : id' = id
    · exact .inr (.inl (by rw [hid]))
    · exact .inl (herase _ fun heq => hid (by cases heq; rfl))
  | @unregistrationFails id' hmem' =>
    by_cases hid : id' = id
    · exact .inr (.inr (by rw [hid]))
    · exact .inl (herase _ fun heq => hid (by cases heq; rfl))
  | exits => exact .inl hmem

theorem answered_of_run {id : String} (hmem : ⟨.unregister, id⟩ ∈ d.outstanding)
    (h : Run step (fun _ _ => True) d es t) :
    ⟨.unregister, id⟩ ∈ t.outstanding ∨ .deviceUnregistrationSuccess id ∈ es ∨
      .deviceUnregistrationFailure id ∈ es := by
  induction h with
  | nil => exact .inl hmem
  | @snoc es s t e _ _ hstep ih =>
    rcases ih with ih | hsuccess | hfailure
    · rcases answered_step ih hstep with hstill | rfl | rfl
      · exact .inl hstill
      · exact .inr (.inl (List.mem_append_right _ (List.mem_singleton_self _)))
      · exact .inr (.inr (List.mem_append_right _ (List.mem_singleton_self _)))
    · exact .inr (.inl (List.mem_append_left _ hsuccess))
    · exact .inr (.inr (List.mem_append_left _ hfailure))

/-! ## the drain -/

/-- the call for each device of the list -/
theorem exists_call (hlength : calls.length = s.devices.length) {entry : Entry}
    (hentry : entry ∈ s.devices) : ∃ call, (entry, call) ∈ s.devices.zip calls := by
  rw [← List.map_fst_zip (Nat.le_of_eq hlength.symm)] at hentry
  obtain ⟨⟨_, call⟩, hp, rfl⟩ := List.mem_map.mp hentry
  exact ⟨call, hp⟩

theorem devices_eq_nil_iff : s.devices = [] ↔ ∀ id, id ∉ s.ids := by
  unfold ids
  rw [← List.eq_nil_iff_forall_not_mem, List.map_eq_nil_iff]

/-- the final loop ends when the list is empty -/
theorem exits_iff (hphase : s.phase = .draining) :
    (s.step .exits).isSome = true ↔ s.devices = [] := by
  constructor
  · intro h
    obtain ⟨s', hstep⟩ := Option.isSome_iff_exists.mp h
    obtain ⟨⟨-, hlength, -⟩, -⟩ := Option.ite_none_right_eq_some.mp hstep
    exact List.length_eq_zero_iff.mp hlength
  · intro hdevices
    simp [step, hphase, hdevices, testDataCountRegisteredDevices]

theorem drained (hdrain : s.step (.unregisterDevices calls) = some d) :
    d.phase = .draining ∧ calls.length = s.devices.length ∧
      d.ids = (s.callAll (s.devices.zip calls)).ids ∧
        d.outstanding = (s.callAll (s.devices.zip calls)).outstanding := by
  obtain ⟨⟨-, hlength⟩, h⟩ := Option.ite_none_right_eq_some.mp hdrain
  cases h
  exact ⟨rfl, hlength, rfl, rfl⟩

/-- **When the drain empties the list.**  After some callbacks the list is empty if and only if for
every device in it the call of the drain was rejected, or an unregistration has succeeded since; then
the final loop ends.  With a connection and no failed unregistration it is empty once nothing is
outstanding. -/
theorem drain_empties_iff {testThreadIndex : Nat} {maxNumberOfDevices minNumberOfDevices : Int}
    {es₀ : List TestEvent}
    (hs : Run step (fun _ _ => True)
      (start testThreadIndex maxNumberOfDevices minNumberOfDevices) es₀ s)
    (hdrain : s.step (.unregisterDevices calls) = some d)
    (ht : Run step (fun _ _ => True) d es t) :
    (t.devices = [] ↔ ∀ p ∈ s.devices.zip calls,
      p.2 = .rejected ∨ .deviceUnregistrationSuccess p.1.id ∈ es) ∧
    (t.phase = .draining → (t.devices = [] ↔ (t.step .exits).isSome = true)) ∧
    (t.outstanding = [] → (∀ call ∈ calls, call ≠ .noConnection) →
      (∀ id, .deviceUnregistrationFailure id ∉ es) → t.devices = []) := by
  obtain ⟨hphase, hlength, hcalled, houtstanding⟩ := drained hdrain
  have hnodup := nodup_of_run hs
  have hnodup' : d.ids.Nodup := hcalled ▸ nodup_callAll hnodup _
  obtain ⟨-, -, hids⟩ := mem_ids_draining (by rw [hphase]; nofun) hnodup' ht
  rw [hcalled] at hids
  have hempty : t.devices = [] ↔ ∀ p ∈ s.devices.zip calls,
      p.2 = .rejected ∨ .deviceUnregistrationSuccess p.1.id ∈ es := by
    rw [devices_eq_nil_iff]
    constructor
    · intro hnone p hp
      by_contra hnot
      rw [not_or] at hnot
      refine hnone p.1.id ((hids _).mpr ⟨(mem_ids_callAll hnodup _ _).mpr ⟨?_, ?_⟩, hnot.2⟩)
      · exact List.mem_map_of_mem (List.of_mem_zip hp).1
      · intro q hq hrejected heq
        have hsame := List.inj_on_of_nodup_map (nodup_zip_ids hnodup hlength) hq hp heq
        exact hnot.1 (hsame ▸ hrejected)
    · intro hall id hid
      obtain ⟨hid, hnever⟩ := (hids id).mp hid
      obtain ⟨hid, hkept⟩ := (mem_ids_callAll hnodup _ id).mp hid
      obtain ⟨entry, hentry, rfl⟩ := List.mem_map.mp hid
      obtain ⟨call, hp⟩ := exists_call hlength hentry
      rcases hall _ hp with hrejected | hsuccess
      · exact hkept _ hp hrejected rfl
      · exact hnever hsuccess
  refine ⟨hempty, fun hphase => (exits_iff hphase).symm, ?_⟩
  intro hidle hconnection hfails
  refine hempty.mpr fun p hp => ?_
  cases hcall : p.2 with
  | noConnection => exact absurd hcall (hconnection _ (List.of_mem_zip hp).2)
  | rejected => exact .inl rfl
  | accepted =>
    have hrequest : ⟨.unregister, p.1.id⟩ ∈ d.outstanding := by
      rw [houtstanding, outstanding_callAll]
      refine List.mem_append_right _ (List.mem_flatMap.mpr ⟨p, hp, ?_⟩)
      rw [hcall]
      exact List.mem_singleton_self _
    rcases answered_of_run hrequest ht with hstill | hsuccess | hfailure
    · rw [hidle] at hstill
      cases hstill
    · exact .inr hsuccess
    · exact absurd hfailure (hfails _)

/-- a device is registered -/
def oneDevice : List TestEvent :=
  [.ready true, .registerRandomDevice 1 .accepted, .deviceRegistrationSuccess "rand-0-1"]

theorem drain_empties_iff_oneDevice :
    ∃ s d t, Run step (fun _ _ => True) (start 0 100 0) oneDevice s ∧
      s.step (.unregisterDevices [.accepted]) = some d ∧
        Run step (fun _ _ => True) d [.deviceUnregistrationSuccess "rand-0-1"] t ∧
          t.outstanding = [] ∧ t.devices = [] := by
  have hrun : ∃ s, run step (start 0 100 0) oneDevice = some s ∧
      ∃ d ∈ s.step (.unregisterDevices [.accepted]),
        ∃ t ∈ run step d [.deviceUnregistrationSuccess "rand-0-1"], t.outstanding = [] :=
    exists_of_run_any (by decide +kernel)
  obtain ⟨s, hs, d, hd, t, ht, hidle⟩ := hrun
  refine ⟨s, d, t, Run.of_run hs, hd, Run.of_run ht, hidle, ?_⟩
  exact (drain_empties_iff (Run.of_run hs) hd (Run.of_run ht)).2.2 hidle (by decide) (by simp)

/-- The connection is null when the drain comes to the device, or its unregistration fails: nothing
is outstanding, and the final loop never ends. -/
theorem drain_empties_fails :
    (∃ t, run step (start 0 100 0)
        (oneDevice ++ [TestEvent.unregisterDevices [.noConnection]]) = some t ∧
      t.outstanding = [] ∧ t.devices ≠ [] ∧ t.phase = .draining ∧ (t.step .exits).isNone = true) ∧
    ∃ t, run step (start 0 100 0) (oneDevice ++ [TestEvent.unregisterDevices [.accepted],
        .deviceUnregistrationFailure "rand-0-1"]) = some t ∧
      t.outstanding = [] ∧ t.devices ≠ [] ∧ t.phase = .draining ∧ (t.step .exits).isNone = true :=
  ⟨exists_of_run_any (by decide +kernel), exists_of_run_any (by decide +kernel)⟩

end TestThread

end EdgeTranslators.Stress
