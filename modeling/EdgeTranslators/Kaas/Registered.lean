import EdgeTranslators.Kaas.Server
import Mathlib.Data.List.Nodup
import Mathlib.Data.List.Perm.Basic

/-!
# The table and the devices of Edge Core

The server registers the device of a new row at Edge Core, and unregisters that of a row it is about
to delete, with other tasks at work in between.  Edge Core knows devices by their sanitised names.

* `registry`, `Server.registered`   the devices that Edge Core knows after some requests;
* `Stage.unregistered?`             a row whose device is not registered yet, or not any more;
* `Server.Agrees`                   Edge Core knows the devices of the other rows, and no others;
* `Server.Keeps`                    what a step must not do;
* `registered_at_rest`              after steps that keep to it and with all tasks done, Edge Core
                                    knows the devices of the table.
-/

namespace EdgeTranslators.Kaas
open Lib

section
variable {ν : Type} (r : Rust ν)

/-- the device ids that are registered, after a request that was granted -/
def registry (registered : List String) : Operation ν → List String
  | .deviceRegister device => deviceId r device.name :: registered
  | .deviceUnregister device => registered.filter (· ≠ deviceId r device.name)
  | .protocolTranslatorRegister _ | .write _ => registered

/-- the device ids of a table -/
def deviceIds (table : List (Device ν)) : List String := table.map fun row => deviceId r row.name

/-- the row whose device is not registered yet, or not any more -/
def Stage.unregistered? : Stage ν → Option Nat
  | registering device => some device.id
  | deleting id _ => some id
  | received | writing _ | unregistering _ _ | done _ => none

/-- the device that a task has read, with the id of its row -/
def Stage.device? : Stage ν → Option (Nat × String)
  | registering device => some (device.id, device.name)
  | unregistering id device | deleting id device => some (id, device.name)
  | received | writing _ | done _ => none

/-- the rows of a table by what neither updates nor writes change -/
def cores (table : List (Device ν)) : List (Nat × String) := table.map fun row => (row.id, row.name)

/-- a task has the row unregistered -/
def Unregistered (jobs : List (Job ν)) (id : Nat) : Prop :=
  ∃ job ∈ jobs, job.stage.unregistered? = some id

/-- a task other than the `i`-th has -/
def UnregisteredBut (jobs : List (Job ν)) (i id : Nat) : Prop := Unregistered (jobs.eraseIdx i) id

/-- Edge Core knows the devices of the rows that no task has unregistered, and no others; the rows
have different device ids, and a device that a task has read has the name of its row -/
structure Agrees (rows : List (Nat × String)) (jobs : List (Job ν)) (registered : List String) :
    Prop where
  ids : (rows.map Prod.fst).Nodup
  names : (rows.map fun row => deviceId r row.2).Nodup
  read : ∀ job ∈ jobs, ∀ id name, job.stage.device? = some (id, name) →
    ∀ row ∈ rows, row.1 = id → row.2 = name
  registered : ∀ n, n ∈ registered ↔
    ∃ row ∈ rows, deviceId r row.2 = n ∧ ¬Unregistered jobs row.1

/-- the name of a new device -/
def ApiRequest.newName? : ApiRequest ν → Option String
  | createDevice name _ => some name
  | _ => none

namespace Server
variable (s : Server ν)

/-- the device ids that Edge Core knows, if it knew those of `table₀` at first -/
def registered (table₀ : List (Device ν)) : List String :=
  s.granted.foldl (registry r) (deviceIds r table₀)

/-- What a task must not do where it stands: give a new row the id of another, or a name with the
device id of another; register a device whose row is gone or being deleted; fail to register or
unregister, unless there is nothing to unregister; unregister a device whose row is gone; fail to
delete. -/
def KeepsAt (table₀ : List (Device ν)) (i : Nat) (env : Env ν) (request : ApiRequest ν) :
    Stage ν → Prop
  | .received => ∀ name ∈ request.newName?, deviceId r name ∉ deviceIds r s.table ∧
      ∀ job ∈ s.jobs, ∀ device ∈ job.stage.device?, device.1 ≠ env.newV4
  | .registering device =>
    env.granted = true ∧ (∃ row ∈ s.table, row.id = device.id) ∧
      ¬UnregisteredBut s.jobs i device.id
  | .unregistering id device =>
    (env.granted = true → ∃ row ∈ s.table, row.id = id) ∧
      (env.granted = false → deviceId r device.name ∉ s.registered r table₀)
  | .deleting _ _ => env.fails = false
  | .writing _ | .done _ => True

def Keeps (table₀ : List (Device ν)) : ServerEvent ν → Prop
  | .receive _ | .applyWrite _ _ => True
  | .proceed i env => ∀ job ∈ s.jobs[i]?, s.KeepsAt r table₀ i env job.request job.stage

instance (jobs : List (Job ν)) (id : Nat) : Decidable (Unregistered jobs id) :=
  inferInstanceAs (Decidable (∃ job ∈ jobs, job.stage.unregistered? = some id))

instance (jobs : List (Job ν)) (i id : Nat) : Decidable (UnregisteredBut jobs i id) :=
  inferInstanceAs (Decidable (Unregistered (jobs.eraseIdx i) id))

instance decidableKeepsAt (table₀ : List (Device ν)) (i : Nat) (env : Env ν)
    (request : ApiRequest ν) : (stage : Stage ν) → Decidable (s.KeepsAt r table₀ i env request stage)
  | .received => inferInstanceAs (Decidable (∀ name ∈ request.newName?, _ ∧ ∀ job ∈ s.jobs,
      ∀ device ∈ job.stage.device?, device.1 ≠ env.newV4))
  | .registering _ | .unregistering _ _ => inferInstanceAs (Decidable (_ ∧ _))
  | .deleting _ _ => inferInstanceAs (Decidable (_ = _))
  | .writing _ | .done _ => .isTrue trivial

instance decidableKeeps (table₀ : List (Device ν)) :
    (e : ServerEvent ν) → Decidable (s.Keeps r table₀ e)
  | .receive _ | .applyWrite _ _ => .isTrue trivial
  | .proceed i env => inferInstanceAs (Decidable (∀ job ∈ s.jobs[i]?,
      s.KeepsAt r table₀ i env job.request job.stage))

/-- every task has its response -/
def AtRest (s : Server ν) : Prop := ∀ job ∈ s.jobs, job.stage matches .done _

instance : Decidable s.AtRest := inferInstanceAs (Decidable (∀ job ∈ s.jobs, _))

end Server

/-! ## tables -/

variable {r} {table : List (Device ν)} {id : Nat}

theorem cores_updateRow (state : Json ν) (now : Nat) :
    cores (updateRow id state now table) = cores table := by
  unfold cores updateRow
  rw [List.map_map]
  refine List.map_congr_left fun row _ => ?_
  show (Prod.mk _ _ : Nat × String) = _
  by_cases hid : row.id = id
  · simp only [if_pos hid]
  · simp only [if_neg hid]

theorem cores_applyWriteEvent (now : Nat) (event : WriteEvent) :
    cores (applyWriteEvent now event table) = cores table := by
  unfold cores applyWriteEvent
  rw [List.map_map]
  refine List.map_congr_left fun row _ => ?_
  show ((row.written now event).id, (row.written now event).name) = (row.id, row.name)
  unfold Device.written
  split
  · split
    · rfl
    · split <;> rfl
  · rfl

/-! ## tasks -/

section
variable {jobs : List (Job ν)} {i : Nat} {request : ApiRequest ν} {stage stage' : Stage ν}

theorem unregistered_iff (hjob : jobs[i]? = some ⟨request, stage⟩) :
    Unregistered jobs id ↔ stage.unregistered? = some id ∨ UnregisteredBut jobs i id := by
  obtain ⟨hlt, hget⟩ := List.getElem?_eq_some_iff.mp hjob
  have hmem : ∀ job, job ∈ jobs ↔ job = ⟨request, stage⟩ ∨ job ∈ jobs.eraseIdx i := by
    intro job
    rw [← (List.getElem_cons_eraseIdx_perm hlt).mem_iff, hget, List.mem_cons]
  unfold UnregisteredBut Unregistered
  simp only [hmem, or_and_right, exists_or, exists_eq_left]

/-- after the `i`-th task has gone on -/
theorem unregistered_set_iff (hjob : jobs[i]? = some ⟨request, stage⟩) :
    Unregistered (jobs.set i ⟨request, stage'⟩) id ↔
      stage'.unregistered? = some id ∨ UnregisteredBut jobs i id := by
  rw [unregistered_iff (Server.getElem?_set_eq hjob)]
  unfold UnregisteredBut
  rw [List.eraseIdx_set_eq]

/-! ## what the steps keep -/

namespace Agrees
variable {rows : List (Nat × String)} {registered : List String}

/-- rows with one id have one name -/
theorem eq_of_id (h : Agrees r rows jobs registered) {a b : Nat × String} (ha : a ∈ rows)
    (hb : b ∈ rows) (hid : a.1 = b.1) : a = b :=
  List.inj_on_of_nodup_map h.ids ha hb hid

/-- rows with one device id are one row -/
theorem eq_of_name (h : Agrees r rows jobs registered) {a b : Nat × String} (ha : a ∈ rows)
    (hb : b ∈ rows) (hname : deviceId r a.2 = deviceId r b.2) : a = b :=
  List.inj_on_of_nodup_map h.names ha hb hname

/-- what the tasks have read when one goes on -/
theorem read_set (h : Agrees r rows jobs registered)
    (hread : ∀ id name, stage'.device? = some (id, name) → ∀ row ∈ rows, row.1 = id → row.2 = name) :
    ∀ job ∈ jobs.set i ⟨request, stage'⟩, ∀ id name, job.stage.device? = some (id, name) →
      ∀ row ∈ rows, row.1 = id → row.2 = name := by
  intro job hj id name hdevice
  rcases List.mem_or_eq_of_mem_set hj with hold | rfl
  · exact h.read job hold id name hdevice
  · exact hread id name hdevice

/-- a task goes on, and registers or unregisters nothing -/
theorem goesOn (h : Agrees r rows jobs registered) (hjob : jobs[i]? = some ⟨request, stage⟩)
    (hsame : stage'.unregistered? = stage.unregistered?)
    (hread : ∀ id name, stage'.device? = some (id, name) → ∀ row ∈ rows, row.1 = id → row.2 = name) :
    Agrees r rows (jobs.set i ⟨request, stage'⟩) registered := by
  refine ⟨h.ids, h.names, h.read_set hread, fun n => ?_⟩
  rw [h.registered n]
  simp only [unregistered_set_iff hjob, unregistered_iff hjob, hsame]

/-- a row is inserted, and its task is about to register it -/
theorem inserts (h : Agrees r rows jobs registered) (hjob : jobs[i]? = some ⟨request, .received⟩)
    {device : Device ν} (hid : ∀ row ∈ rows, row.1 ≠ device.id)
    (hname : deviceId r device.name ∉ rows.map fun row => deviceId r row.2)
    (hfresh : ∀ job ∈ jobs, ∀ read ∈ job.stage.device?, read.1 ≠ device.id) :
    Agrees r (rows ++ [(device.id, device.name)]) (jobs.set i ⟨request, .registering device⟩)
      registered := by
  refine ⟨?_, ?_, ?_, ?_⟩
  · rw [List.map_append]
    refine List.nodup_append.mpr ⟨h.ids, List.pairwise_singleton _ _, fun a ha b hb heq => ?_⟩
    obtain ⟨row, hrow, rfl⟩ := List.mem_map.mp ha
    exact hid row hrow (heq.trans (List.mem_singleton.mp hb))
  · rw [List.map_append]
    refine List.nodup_append.mpr ⟨h.names, List.pairwise_singleton _ _, fun a ha b hb heq => ?_⟩
    rw [heq, List.mem_singleton.mp hb] at ha
    exact hname ha
  · intro job hj id name hdevice row hrow heq
    rcases List.mem_or_eq_of_mem_set hj with hold | rfl
    · rcases List.mem_append.mp hrow with hrow | hrow
      · exact h.read job hold id name hdevice row hrow heq
      · rw [List.mem_singleton.mp hrow] at heq
        exact absurd heq.symm (hfresh job hold (id, name) hdevice)
    · obtain ⟨rfl, rfl⟩ := Prod.mk.inj (Option.some.inj hdevice)
      rcases List.mem_append.mp hrow with hrow | hrow
      · exact absurd heq (hid row hrow)
      · rw [List.mem_singleton.mp hrow]
  · intro n
    rw [h.registered n]
    simp only [unregistered_set_iff hjob, unregistered_iff hjob]
    constructor
    · rintro ⟨row, hrow, hn, hnot⟩
      refine ⟨row, List.mem_append_left _ hrow, hn, ?_⟩
      rintro (heq | hbut)
      · exact hid row hrow (Option.some.inj heq).symm
      · exact hnot (.inr hbut)
    · rintro ⟨row, hrow, hn, hnot⟩
      rcases List.mem_append.mp hrow with hrow | hrow
      · refine ⟨row, hrow, hn, ?_⟩
        rintro (heq | hbut)
        · cases heq
        · exact hnot (.inr hbut)
      · -- the new row is not registered yet
        rw [List.mem_singleton.mp hrow] at hnot
        exact absurd (.inl rfl) hnot

/-- the device of a row that is there is registered -/
theorem registers (h : Agrees r rows jobs registered) {device : Device ν}
    (hjob : jobs[i]? = some ⟨request, .registering device⟩) (hrow : ∃ row ∈ rows, row.1 = device.id)
    (hbut : ¬UnregisteredBut jobs i device.id) (response : ApiResponse ν) :
    Agrees r rows (jobs.set i ⟨request, .done response⟩)
      (deviceId r device.name :: registered) := by
  have hread : ∀ id' name, (Stage.done response).device? = some (id', name) →
      ∀ row ∈ rows, row.1 = id' → row.2 = name := fun _ _ hnone => by cases hnone
  refine ⟨h.ids, h.names, h.read_set hread, fun n => ?_⟩
  obtain ⟨own, hown, hownId⟩ := hrow
  have hownName : own.2 = device.name :=
    h.read _ (List.mem_of_getElem? hjob) device.id device.name rfl own hown hownId
  rw [List.mem_cons, h.registered n]
  simp only [unregistered_set_iff hjob, unregistered_iff hjob]
  constructor
  · rintro (rfl | ⟨row, hrow, hn, hnot⟩)
    · refine ⟨own, hown, by rw [hownName], ?_⟩
      rintro (hnone | hbut')
      · cases hnone
      · exact hbut (hownId ▸ hbut')
    · refine ⟨row, hrow, hn, ?_⟩
      rintro (hnone | hbut')
      · cases hnone
      · exact hnot (.inr hbut')
  · rintro ⟨row, hrow, hn, hnot⟩
    by_cases hid : row.1 = device.id
    · left
      rw [← hn, h.eq_of_id hrow hown (hid.trans hownId.symm), hownName]
    · refine .inr ⟨row, hrow, hn, ?_⟩
      rintro (heq | hbut')
      · exact hid (Option.some.inj heq).symm
      · exact hnot (.inr hbut')

/-- the device of a row that is there is unregistered, before the row is deleted -/
theorem unregisters (h : Agrees r rows jobs registered) {id : Nat} {device : Device ν}
    (hjob : jobs[i]? = some ⟨request, .unregistering id device⟩) (hrow : ∃ row ∈ rows, row.1 = id) :
    Agrees r rows (jobs.set i ⟨request, .deleting id device⟩)
      (registered.filter (· ≠ deviceId r device.name)) := by
  obtain ⟨own, hown, hownId⟩ := hrow
  have hownName : own.2 = device.name :=
    h.read _ (List.mem_of_getElem? hjob) id device.name rfl own hown hownId
  have hread : ∀ id' name, (Stage.deleting id device).device? = some (id', name) →
      ∀ row ∈ rows, row.1 = id' → row.2 = name :=
    fun id' name hdevice => h.read _ (List.mem_of_getElem? hjob) id' name hdevice
  refine ⟨h.ids, h.names, h.read_set hread, fun n => ?_⟩
  rw [List.mem_filter, decide_eq_true_iff, h.registered n]
  simp only [unregistered_set_iff hjob, unregistered_iff hjob]
  constructor
  · rintro ⟨⟨row, hrow, hn, hnot⟩, hne⟩
    refine ⟨row, hrow, hn, ?_⟩
    rintro (heq | hbut)
    · apply hne
      rw [← hn, h.eq_of_id hrow hown ((Option.some.inj heq).symm.trans hownId.symm), hownName]
    · exact hnot (.inr hbut)
  · rintro ⟨row, hrow, hn, hnot⟩
    refine ⟨⟨row, hrow, hn, ?_⟩, ?_⟩
    · rintro (hnone | hbut)
      · cases hnone
      · exact hnot (.inr hbut)
    · intro heq
      have hsame := h.eq_of_name hrow hown (by rw [hn, heq, hownName])
      rw [hsame] at hnot
      exact hnot (.inl (congrArg some hownId.symm))

/-- there is nothing to unregister -/
theorem unregistersNot (h : Agrees r rows jobs registered) {id : Nat} {device : Device ν}
    (hjob : jobs[i]? = some ⟨request, .unregistering id device⟩)
    (hnot : deviceId r device.name ∉ registered) :
    Agrees r rows (jobs.set i ⟨request, .deleting id device⟩) registered := by
  have hread : ∀ id' name, (Stage.deleting id device).device? = some (id', name) →
      ∀ row ∈ rows, row.1 = id' → row.2 = name :=
    fun id' name hdevice => h.read _ (List.mem_of_getElem? hjob) id' name hdevice
  refine ⟨h.ids, h.names, h.read_set hread, fun n => ?_⟩
  rw [h.registered n]
  simp only [unregistered_set_iff hjob, unregistered_iff hjob]
  constructor
  · rintro ⟨row, hrow, hn, hrow'⟩
    refine ⟨row, hrow, hn, ?_⟩
    rintro (heq | hbut)
    · have hname := h.read _ (List.mem_of_getElem? hjob) id device.name rfl row hrow
        (Option.some.inj heq).symm
      apply hnot
      rw [← hname, hn, h.registered n]
      simp only [unregistered_iff hjob]
      exact ⟨row, hrow, hn, hrow'⟩
    · exact hrow' (.inr hbut)
  · rintro ⟨row, hrow, hn, hrow'⟩
    refine ⟨row, hrow, hn, ?_⟩
    rintro (hnone | hbut)
    · cases hnone
    · exact hrow' (.inr hbut)

/-- the row is deleted -/
theorem deletes (h : Agrees r rows jobs registered) {id : Nat} {device : Device ν}
    (hjob : jobs[i]? = some ⟨request, .deleting id device⟩) (response : ApiResponse ν) :
    Agrees r (rows.filter (·.1 ≠ id)) (jobs.set i ⟨request, .done response⟩) registered := by
  have hread : ∀ id' name, (Stage.done response).device? = some (id', name) →
      ∀ row ∈ rows, row.1 = id' → row.2 = name := fun _ _ hnone => by cases hnone
  refine ⟨?_, ?_, ?_, fun n => ?_⟩
  · exact h.ids.sublist (List.filter_sublist.map _)
  · exact h.names.sublist (List.filter_sublist.map _)
  · intro job hj id' name hdevice row hrow
    exact h.read_set hread job hj id' name hdevice row (List.mem_filter.mp hrow).1
  · rw [h.registered n]
    simp only [unregistered_set_iff hjob, unregistered_iff hjob]
    constructor
    · rintro ⟨row, hrow, hn, hnot⟩
      have hne : row.1 ≠ id := fun heq => hnot (.inl (congrArg some heq.symm))
      refine ⟨row, List.mem_filter.mpr ⟨hrow, decide_eq_true hne⟩, hn, ?_⟩
      rintro (hnone | hbut)
      · cases hnone
      · exact hnot (.inr hbut)
    · rintro ⟨row, hrow, hn, hnot⟩
      obtain ⟨hmem, hne⟩ := List.mem_filter.mp hrow
      refine ⟨row, hmem, hn, ?_⟩
      rintro (heq | hbut)
      · exact of_decide_eq_true hne (Option.some.inj heq).symm
      · exact hnot (.inr hbut)

end Agrees

end

/-! ## the server -/

theorem mem_cores {row : Nat × String} :
    row ∈ cores table ↔ ∃ device ∈ table, (device.id, device.name) = row := List.mem_map

theorem cores_deleteRow : cores (deleteRow id table) = (cores table).filter (·.1 ≠ id) := by
  unfold cores deleteRow
  rw [List.filter_map]
  rfl

/-- without the row there is nothing to delete -/
theorem cores_filter (h : selectById id table = none) :
    (cores table).filter (·.1 ≠ id) = cores table := by
  apply List.filter_eq_self.mpr
  intro row hrow
  obtain ⟨device, hdevice, rfl⟩ := mem_cores.mp hrow
  exact decide_eq_true (selectById_eq_none h device hdevice)

/-- a first statement that inserts no row -/
structure LeavesRows (table : List (Device ν)) (after : List (Device ν) × Stage ν) : Prop where
  cores : cores after.1 = cores table
  unregistered : after.2.unregistered? = none
  read : ∀ id name, after.2.device? = some (id, name) →
    ∀ row ∈ Kaas.cores table, row.1 = id → row.2 = name

theorem leavesRows_of {after : List (Device ν) × Stage ν} (hcores : cores after.1 = cores table)
    (hunregistered : after.2.unregistered? = none) (hdevice : after.2.device? = none) :
    LeavesRows table after :=
  ⟨hcores, hunregistered, fun id name hsome => by cases hdevice.symm.trans hsome⟩

/-- the first statement of a task inserts the row of a new device, or leaves the rows as they are -/
theorem firstStatement_rows (env : Env ν) (hids : ((cores table).map Prod.fst).Nodup)
    (request : ApiRequest ν) :
    LeavesRows table (firstStatement env table request) ∨
      ∃ name deviceType, request = .createDevice name deviceType ∧
        selectById env.newV4 table = none ∧
          firstStatement env table request = (table ++ [newRow env name deviceType],
            .registering (newRow env name deviceType)) := by
  unfold firstStatement
  by_cases hfails : env.fails = true
  · left
    cases request <;> simp only [if_pos hfails] <;> exact leavesRows_of rfl rfl rfl
  · cases request with
    | getDevices =>
      left
      simp only [if_neg hfails]
      exact leavesRows_of rfl rfl rfl
    | getDevice id =>
      left
      simp only [if_neg hfails]
      cases selectById id table with
      | none => exact leavesRows_of rfl rfl rfl
      | some row =>
        simp only [withRow_eq]
        exact leavesRows_of rfl rfl rfl
    | createDevice name deviceType =>
      simp only [if_neg hfails]
      unfold insertRow
      cases hrow : selectById (newRow env name deviceType).id table with
      | none =>
        simp only [Option.isSome_none, Bool.false_eq_true, if_false, withRow_eq]
        exact .inr ⟨name, deviceType, rfl, hrow, rfl⟩
      | some row =>
        simp only [Option.isSome_some, if_true]
        exact .inl (leavesRows_of rfl rfl rfl)
    | updateDeviceState id state =>
      left
      simp only [if_neg hfails]
      cases selectById id table with
      | none => exact leavesRows_of rfl rfl rfl
      | some row =>
        simp only [withRow_eq]
        exact leavesRows_of (cores_updateRow state env.now) rfl rfl
    | deleteDevice id =>
      left
      simp only [if_neg hfails]
      cases hrow : selectById id table with
      | none => exact leavesRows_of rfl rfl rfl
      | some row =>
        simp only [withRow_eq]
        refine ⟨rfl, rfl, fun id' name heq other hother hid => ?_⟩
        cases heq
        obtain ⟨hmem, hrowId⟩ := selectById_eq_some hrow
        have hsame := List.inj_on_of_nodup_map hids hother (mem_cores.mpr ⟨row, hmem, rfl⟩)
          (hid.trans hrowId.symm)
        rw [hsame]

namespace Server
variable {s s' : Server ν} {e : ServerEvent ν} {table₀ : List (Device ν)}

theorem registered_ask (env : Env ν) (operation : Operation ν) :
    (s.ask env operation).registered r table₀ =
      if env.granted then registry r (s.registered r table₀) operation
      else s.registered r table₀ := by
  unfold registered ask
  rw [List.foldl_append]
  split <;> rfl

theorem agrees_step (h : Agrees r (cores s.table) s.jobs (s.registered r table₀))
    (hkeeps : s.Keeps r table₀ e) (hstep : s.step e = some s') :
    Agrees r (cores s'.table) s'.jobs (s'.registered r table₀) := by
  cases e with
  | receive request =>
    cases hstep
    refine ⟨h.ids, h.names, ?_, fun n => ?_⟩
    · intro job hj id name hdevice
      rcases List.mem_append.mp hj with hj | hj
      · exact h.read job hj id name hdevice
      · rw [List.mem_singleton.mp hj] at hdevice
        cases hdevice
    · show n ∈ s.registered r table₀ ↔ _
      rw [h.registered n]
      have hsame : ∀ id, Unregistered (s.jobs ++ [⟨request, .received⟩]) id ↔
          Unregistered s.jobs id := by
        intro id
        constructor
        · rintro ⟨job, hj, hid⟩
          rcases List.mem_append.mp hj with hj | hj
          · exact ⟨job, hj, hid⟩
          · rw [List.mem_singleton.mp hj] at hid
            cases hid
        · rintro ⟨job, hj, hid⟩
          exact ⟨job, List.mem_append_left _ hj, hid⟩
      simp only [hsame]
  | applyWrite now event =>
    cases hstep
    rw [cores_applyWriteEvent]
    exact h
  | proceed i env =>
    dsimp only [step] at hstep
    split at hstep
    · cases hstep
    · rename_i request stage hjob
      have hkeeps := hkeeps _ hjob
      split at hstep
      · cases hstep
        rcases firstStatement_rows env h.ids request with
          hleaves | ⟨name, deviceType, rfl, hnew, hfirst⟩
        · show Agrees r (cores (firstStatement env s.table request).1) _ (s.registered r table₀)
          rw [hleaves.cores]
          exact h.goesOn hjob hleaves.unregistered hleaves.read
        · obtain ⟨hname, hfresh⟩ := hkeeps name rfl
          show Agrees r (cores (firstStatement env s.table _).1)
            (s.jobs.set i ⟨_, (firstStatement env s.table _).2⟩) (s.registered r table₀)
          rw [hfirst]
          have hids : ∀ row ∈ cores s.table, row.1 ≠ (newRow env name deviceType).id := by
            intro row hrow
            obtain ⟨device, hdevice, rfl⟩ := mem_cores.mp hrow
            exact selectById_eq_none hnew device hdevice
          have hnames : deviceId r (newRow env name deviceType).name ∉
              (cores s.table).map fun row => deviceId r row.2 := by
            unfold cores
            rw [List.map_map]
            exact hname
          have hcores : cores (s.table ++ [newRow env name deviceType]) =
              cores s.table ++ [((newRow env name deviceType).id, (newRow env name deviceType).name)] :=
            List.map_append
          rw [hcores]
          exact h.inserts hjob hids hnames hfresh
      · rename_i device
        cases hstep
        obtain ⟨hgranted, ⟨row, hrow, hid⟩, hbut⟩ := hkeeps
        show Agrees r (cores s.table) _ ((s.ask env _).registered r table₀)
        rw [registered_ask, if_pos hgranted]
        exact h.registers hjob ⟨_, mem_cores.mpr ⟨row, hrow, rfl⟩, hid⟩ hbut _
      · rename_i device
        cases hstep
        show Agrees r (cores s.table) _ ((s.ask env _).registered r table₀)
        rw [registered_ask]
        have hgoesOn : Agrees r (cores s.table)
            (s.jobs.set i ⟨request, .done (.device device)⟩) (s.registered r table₀) :=
          h.goesOn hjob rfl fun id name hnone => by cases hnone
        split
        · exact hgoesOn
        · exact hgoesOn
      · rename_i id device
        cases hstep
        show Agrees r (cores s.table) _ ((s.ask env _).registered r table₀)
        rw [registered_ask]
        split
        · rename_i hgranted
          obtain ⟨row, hrow, hid⟩ := hkeeps.1 hgranted
          exact h.unregisters hjob ⟨_, mem_cores.mpr ⟨row, hrow, rfl⟩, hid⟩
        · rename_i hgranted
          exact h.unregistersNot hjob (hkeeps.2 (Bool.eq_false_iff.mpr hgranted))
      · rename_i id device
        cases hstep
        have hfails : env.fails = false := hkeeps
        have hcores : cores (deleteStatement env s.table id).1 =
            (cores s.table).filter (·.1 ≠ id) := by
          unfold deleteStatement
          rw [hfails]
          cases hrow : selectById id s.table with
          | none => exact (cores_filter hrow).symm
          | some row => exact cores_deleteRow
        show Agrees r (cores (deleteStatement env s.table id).1) _ (s.registered r table₀)
        rw [hcores]
        exact h.deletes hjob _
      · cases hstep

end Server

end

/-! ## a new device and a deletion -/

/-- a device is added, and the lamp is deleted meanwhile -/
def addAndDelete (name : String) : List (ServerEvent Unit) :=
  [ .receive (.createDevice name .switch), .receive (.deleteDevice 1), .proceed 0 calm,
    .proceed 1 calm, .proceed 1 calm, .proceed 0 calm, .proceed 1 calm ]

namespace Server

/-- a new device with the name of the lamp: when the lamp is deleted, Edge Core knows neither -/
example : (run step (start [hallLamp]) [.receive (.createDevice "Hall" .switch), .proceed 0 calm,
    .proceed 0 calm, .receive (.deleteDevice 1), .proceed 1 calm, .proceed 1 calm,
    .proceed 1 calm]).any (fun s => decide (s.AtRest ∧ deviceIds ascii s.table = ["Hall"] ∧
      s.registered ascii [hallLamp] = [])) = true := by
  decide +kernel

end Server

end EdgeTranslators.Kaas
