import EdgeTranslators.Kaas.Device
import EdgeTranslators.Lib.Rows
import EdgeTranslators.Lib.Run

/-!
# The web portal (`web-portal/src/App.js`)

The portal shows a list of devices.  Each of its three handlers sends a request and goes on when the
response is there; it has closed over the list of the render in which it was started, and two of
them set the list from that one.

* `Response`, `Handler`, `Portal`   the responses, the handlers that wait for them, the component;
* `updateDeviceState`, `createDevice`, `deleteDevice`   what a response does;
* `Portal.step`                     a handler is started, a response arrives, a form is filled in;
* `Portal.UpToDate`                 the list agrees with the responses so far;
* `Portal.Current`                  a list that is set again has not gone out of date meanwhile;
* `upToDate_iff`                    the one holds in every state of a run exactly when the other
                                    does in every step.
-/

namespace EdgeTranslators.Kaas
open Lib

/-- a response: `success` with its data, without `success`, or an error -/
inductive Response (α : Type) where
  | success (data : α)
  | unsuccessful
  | failed

/-- the data of a response that is a success -/
def Response.data? {α : Type} : Response α → Option α
  | success data => some data
  | unsuccessful | failed => none

structure NewDevice where
  name : String
  deviceType : DeviceType
  deriving DecidableEq, Repr

inductive Request (ν : Type) where
  | update (deviceId : Nat) (newState : Json ν)
  | create (newDevice : NewDevice)
  | delete (deviceId : Nat)

/-- the device that a request names -/
def Request.deviceId? {ν : Type} : Request ν → Option Nat
  | update deviceId _ | delete deviceId => some deviceId
  | create _ => none

/-- a handler that waits for its response, with the `devices` of the render it was started in -/
structure Handler (ν : Type) where
  request : Request ν
  devices : List (Device ν)

/-- the last list that was fetched; `id` is the primary key of the table -/
structure Fetched (ν : Type) where
  devices : List (Device ν)
  nodup : (devices.map Device.id).Nodup

/-- a device of the table is changed -/
abbrev DeviceChange (ν : Type) := Change Nat (Device ν)

structure Portal (ν : Type) where
  devices : List (Device ν)
  error : Option String
  newDevice : NewDevice
  showAddDevice : Bool
  outstanding : List (Handler ν)
  /-- the changes that responses have brought since the last fetch -/
  changes : List (DeviceChange ν)

inductive PortalEvent (ν : Type) where
  | starts (request : Request ν)
  /-- the response for the `i`-th of the handlers that wait -/
  | updated (i : Nat) (response : Response (Device ν))
  | created (i : Nat) (response : Response (Device ν))
  | deleted (i : Nat) (response : Response String)
  | setNewDevice (newDevice : NewDevice)
  | setShowAddDevice (b : Bool)
  | dismiss

section
variable {ν : Type}

/-- `{ name: '', deviceType: 'LightBulb' }` -/
def blankDevice : NewDevice := ⟨"", .lightBulb⟩

/-! ## the handlers, from the response on -/

/-- `updateDeviceState`, which has closed over the list `devices` -/
def updateDeviceState (devices : List (Device ν)) (deviceId : Nat) (s : Portal ν) :
    Response (Device ν) → Portal ν
  | .success data =>
    { s with devices := devices.map fun device => if device.id = deviceId then data else device }
  | .unsuccessful => s
  | .failed => { s with error := some "Failed to update device state" }

/-- `createDevice`, which has closed over the list `devices` -/
def createDevice (devices : List (Device ν)) (s : Portal ν) : Response (Device ν) → Portal ν
  | .success data =>
    { s with devices := data :: devices, newDevice := blankDevice, showAddDevice := false }
  | .unsuccessful => s
  | .failed => { s with error := some "Failed to create device" }

/-- `deleteDevice`, which asks for the list that is there -/
def deleteDevice (deviceId : Nat) (s : Portal ν) : Response String → Portal ν
  | .success _ => { s with devices := s.devices.filter fun device => device.id ≠ deviceId }
  | .unsuccessful => s
  | .failed => { s with error := some "Failed to delete device" }

namespace Portal

/-- the handler is through, and its response has brought a change or none -/
def ended (s : Portal ν) (i : Nat) (change : Option (DeviceChange ν)) : Portal ν :=
  { s with outstanding := s.outstanding.eraseIdx i, changes := s.changes ++ change.toList }

def start (fetched : Fetched ν) : Portal ν :=
  { devices := fetched.devices, error := none, newDevice := blankDevice, showAddDevice := false
    outstanding := [], changes := [] }

/-- The buttons of a request are those of a device in the list.  The response for a device is that
device; the id of a new one was never used (`Uuid::new_v4`). -/
def step (fetched : Fetched ν) (s : Portal ν) : PortalEvent ν → Option (Portal ν)
  | .starts request =>
    if ∀ deviceId ∈ request.deviceId?, ∃ device ∈ s.devices, device.id = deviceId then
      some { s with outstanding := s.outstanding ++ [⟨request, s.devices⟩] }
    else none
  | .updated i response =>
    match s.outstanding[i]? with
    | some ⟨.update deviceId _, devices⟩ =>
      if ∀ data ∈ response.data?, data.id = deviceId then
        some ((updateDeviceState devices deviceId s response).ended i
          (response.data?.map .update))
      else none
    | _ => none
  | .created i response =>
    match s.outstanding[i]? with
    | some ⟨.create _, devices⟩ =>
      if ∀ data ∈ response.data?, data.id ∉ keys Device.id fetched.devices s.changes then
        some ((createDevice devices s response).ended i (response.data?.map .create))
      else none
    | _ => none
  | .deleted i response =>
    match s.outstanding[i]? with
    | some ⟨.delete deviceId, _⟩ =>
      some ((deleteDevice deviceId s response).ended i
        (response.data?.map fun _ => .delete deviceId))
    | _ => none
  | .setNewDevice newDevice => some { s with newDevice }
  | .setShowAddDevice showAddDevice => some { s with showAddDevice }
  | .dismiss => some { s with error := none }

/-! ## what a step does to the list -/

variable {fetched : Fetched ν} {s s' : Portal ν} {e : PortalEvent ν} {es : List (PortalEvent ν)}

/-- the change that a response brings, and the list that it is applied to -/
def brings (s : Portal ν) : PortalEvent ν → Option (DeviceChange ν × List (Device ν))
  | .updated i (.success data) => s.outstanding[i]?.map fun h => (.update data, h.devices)
  | .created i (.success data) => s.outstanding[i]?.map fun h => (.create data, h.devices)
  | .deleted i (.success _) =>
    (s.outstanding[i]?.bind (·.request.deviceId?)).map fun deviceId =>
      (.delete deviceId, s.devices)
  | _ => none

/-- a step without a change -/
structure Quiet (s s' : Portal ν) : Prop where
  devices : s'.devices = s.devices
  changes : s'.changes = s.changes

/-- a step that applies a change to a list -/
structure Applies (s s' : Portal ν) (c : DeviceChange ν) (l : List (Device ν)) : Prop where
  devices : s'.devices = c.apply Device.id l
  changes : s'.changes = s.changes ++ [c]

theorem updated_cases {i : Nat} {response : Response (Device ν)}
    (h : step fetched s (.updated i response) = some s') :
    ∃ deviceId newState devices, s.outstanding[i]? = some ⟨.update deviceId newState, devices⟩ ∧
      (∀ data ∈ response.data?, data.id = deviceId) ∧
      s' = (updateDeviceState devices deviceId s response).ended i
        (response.data?.map .update) := by
  simp only [step] at h
  split at h
  · rename_i deviceId newState devices hhandler
    obtain ⟨hid, heq⟩ := Option.ite_none_right_eq_some.mp h
    exact ⟨deviceId, newState, devices, hhandler, hid, (Option.some.inj heq).symm⟩
  · cases h

theorem created_cases {i : Nat} {response : Response (Device ν)}
    (h : step fetched s (.created i response) = some s') :
    ∃ newDevice devices, s.outstanding[i]? = some ⟨.create newDevice, devices⟩ ∧
      (∀ data ∈ response.data?, data.id ∉ keys Device.id fetched.devices s.changes) ∧
      s' = (createDevice devices s response).ended i (response.data?.map .create) := by
  simp only [step] at h
  split at h
  · rename_i newDevice devices hhandler
    obtain ⟨hid, heq⟩ := Option.ite_none_right_eq_some.mp h
    exact ⟨newDevice, devices, hhandler, hid, (Option.some.inj heq).symm⟩
  · cases h

theorem deleted_cases {i : Nat} {response : Response String}
    (h : step fetched s (.deleted i response) = some s') :
    ∃ deviceId devices, s.outstanding[i]? = some ⟨.delete deviceId, devices⟩ ∧
      s' = (deleteDevice deviceId s response).ended i
        (response.data?.map fun _ => .delete deviceId) := by
  simp only [step] at h
  split at h
  · rename_i deviceId devices hhandler
    exact ⟨deviceId, devices, hhandler, (Option.some.inj h).symm⟩
  · cases h

/-! ## known devices -/

/-- the devices of all lists, and those that requests name, have been in the table -/
structure Known (fetched : Fetched ν) (s : Portal ν) : Prop where
  devices : ∀ device ∈ s.devices, device.id ∈ keys Device.id fetched.devices s.changes
  captured : ∀ h ∈ s.outstanding, ∀ device ∈ h.devices,
    device.id ∈ keys Device.id fetched.devices s.changes
  named : ∀ h ∈ s.outstanding, ∀ deviceId ∈ h.request.deviceId?,
    deviceId ∈ keys Device.id fetched.devices s.changes

/-- **What a step does to the list.** -/
theorem step_cases (hknown : s.Known fetched) (h : step fetched s e = some s') :
    (s.brings e = none ∧ s.Quiet s') ∨
      ∃ c l, s.brings e = some (c, l) ∧ s.Applies s' c l ∧
        Admissible Device.id fetched.devices s.changes c := by
  cases e with
  | starts request =>
    obtain ⟨-, heq⟩ := Option.ite_none_right_eq_some.mp h
    cases heq
    exact .inl ⟨rfl, rfl, rfl⟩
  | setNewDevice newDevice | setShowAddDevice b | dismiss =>
    cases h
    exact .inl ⟨rfl, rfl, rfl⟩
  | updated i response =>
    obtain ⟨deviceId, newState, devices, hhandler, hid, rfl⟩ := updated_cases h
    cases response with
    | success data =>
      obtain rfl := hid data rfl
      refine .inr ⟨.update data, devices, ?_, ⟨rfl, rfl⟩, ?_⟩
      · exact congrArg (Option.map _) hhandler
      · exact hknown.named _ (List.mem_of_getElem? hhandler) data.id rfl
    | unsuccessful | failed => exact .inl ⟨rfl, rfl, List.append_nil _⟩
  | created i response =>
    obtain ⟨newDevice, devices, hhandler, hnew, rfl⟩ := created_cases h
    cases response with
    | success data =>
      refine .inr ⟨.create data, devices, ?_, ⟨rfl, rfl⟩, hnew data rfl⟩
      exact congrArg (Option.map _) hhandler
    | unsuccessful | failed => exact .inl ⟨rfl, rfl, List.append_nil _⟩
  | deleted i response =>
    obtain ⟨deviceId, devices, hhandler, rfl⟩ := deleted_cases h
    cases response with
    | success data =>
      refine .inr ⟨.delete deviceId, s.devices, ?_, ⟨rfl, rfl⟩, trivial⟩
      simp only [brings, hhandler]
      rfl
    | unsuccessful | failed => exact .inl ⟨rfl, rfl, List.append_nil _⟩

/-- a handler that waits has waited before, or has been started with the list that was there -/
theorem step_outstanding (h : step fetched s e = some s') : ∀ handler ∈ s'.outstanding,
    handler ∈ s.outstanding ∨ handler.devices = s.devices ∧
      ∀ deviceId ∈ handler.request.deviceId?, ∃ device ∈ s.devices, device.id = deviceId := by
  intro handler hmem
  cases e with
  | starts request =>
    obtain ⟨hlisted, heq⟩ := Option.ite_none_right_eq_some.mp h
    cases heq
    rcases List.mem_append.mp hmem with hmem | hmem
    · exact .inl hmem
    · obtain rfl := List.mem_singleton.mp hmem
      exact .inr ⟨rfl, hlisted⟩
  | setNewDevice newDevice | setShowAddDevice b | dismiss =>
    cases h
    exact .inl hmem
  | updated i response =>
    obtain ⟨deviceId, newState, devices, -, -, rfl⟩ := updated_cases h
    cases response <;> exact .inl (List.mem_of_mem_eraseIdx hmem)
  | created i response =>
    obtain ⟨newDevice, devices, -, -, rfl⟩ := created_cases h
    cases response <;> exact .inl (List.mem_of_mem_eraseIdx hmem)
  | deleted i response =>
    obtain ⟨deviceId, devices, -, rfl⟩ := deleted_cases h
    cases response <;> exact .inl (List.mem_of_mem_eraseIdx hmem)

/-- a change is applied to the list that is there, or to one that a handler has closed over -/
theorem brings_list {c : DeviceChange ν} {l : List (Device ν)} (h : s.brings e = some (c, l)) :
    l = s.devices ∨ ∃ handler ∈ s.outstanding, l = handler.devices := by
  unfold brings at h
  split at h
  · obtain ⟨handler, hhandler, heq⟩ := Option.map_eq_some_iff.mp h
    cases heq
    exact .inr ⟨handler, List.mem_of_getElem? hhandler, rfl⟩
  · obtain ⟨handler, hhandler, heq⟩ := Option.map_eq_some_iff.mp h
    cases heq
    exact .inr ⟨handler, List.mem_of_getElem? hhandler, rfl⟩
  · obtain ⟨deviceId, -, heq⟩ := Option.map_eq_some_iff.mp h
    cases heq
    exact .inl rfl
  · cases h

theorem Known.start (fetched : Fetched ν) : (Portal.start fetched).Known fetched :=
  ⟨fun _ hmem => List.mem_append_left _ (List.mem_map_of_mem hmem), nofun, nofun⟩

theorem Known.step (hknown : s.Known fetched) (h : Portal.step fetched s e = some s') :
    s'.Known fetched := by
  -- a device that has been in the table stays one
  have hkeys : ∀ k ∈ keys Device.id fetched.devices s.changes,
      k ∈ keys Device.id fetched.devices s'.changes := by
    intro k hk
    rcases step_cases hknown h with ⟨-, hquiet⟩ | ⟨c, l, -, happlies, -⟩
    · rwa [hquiet.changes]
    · rw [happlies.changes]
      exact (mem_keys_concat Device.id).mpr (.inl hk)
  refine ⟨fun device hmem => ?_, fun handler hmem => ?_, fun handler hmem => ?_⟩
  · rcases step_cases hknown h with ⟨-, hquiet⟩ | ⟨c, l, hbrings, happlies, -⟩
    · rw [hquiet.devices] at hmem
      exact hkeys _ (hknown.devices device hmem)
    · rw [happlies.devices] at hmem
      rcases key_of_mem_apply Device.id hmem with htarget | hmem
      · rw [happlies.changes, htarget]
        exact (mem_keys_concat Device.id).mpr (.inr rfl)
      · rcases brings_list hbrings with rfl | ⟨handler, hhandler, rfl⟩
        · exact hkeys _ (hknown.devices device hmem)
        · exact hkeys _ (hknown.captured handler hhandler device hmem)
  · rcases step_outstanding h handler hmem with hmem | ⟨hdevices, -⟩
    · exact fun device hdevice => hkeys _ (hknown.captured handler hmem device hdevice)
    · rw [hdevices]
      exact fun device hdevice => hkeys _ (hknown.devices device hdevice)
  · rcases step_outstanding h handler hmem with hmem | ⟨-, hlisted⟩
    · exact fun deviceId hid => hkeys _ (hknown.named handler hmem deviceId hid)
    · intro deviceId hid
      obtain ⟨device, hdevice, rfl⟩ := hlisted deviceId hid
      exact hkeys _ (hknown.devices device hdevice)

/-! ## the list and the responses -/

/-- The list has each device once with the data of the last response for it (as it was fetched, if
there was none), except those that were deleted, and has no other. -/
def UpToDate (fetched : Fetched ν) (s : Portal ν) : Prop :=
  Lib.UpToDate Device.id fetched.devices s.changes s.devices

/-- The list that a handler sets anew has the devices that are there now; if it changes one of them
this may differ. -/
def Current (s : Portal ν) (e : PortalEvent ν) : Prop :=
  ∀ c l, s.brings e = some (c, l) → StandsIn Device.id l s.devices c

theorem upToDate_step (hknown : s.Known fetched) (hinv : s.UpToDate fetched)
    (h : step fetched s e = some s') : s'.UpToDate fetched ↔ s.Current e := by
  unfold UpToDate Current
  rcases step_cases hknown h with ⟨hbrings, hquiet⟩ | ⟨c, l, hbrings, happlies, hc⟩
  · rw [hbrings, hquiet.devices, hquiet.changes]
    exact iff_of_true hinv nofun
  · rw [hbrings, happlies.devices, happlies.changes, Lib.UpToDate.apply_iff Device.id hinv hc]
    constructor
    · intro hstands c' l' heq
      cases heq
      exact hstands
    · exact fun hall => hall c l rfl

/-- a deletion never takes a list that is out of date -/
theorem current_deleted (s : Portal ν) (i : Nat) (response : Response String) :
    s.Current (.deleted i response) := by
  intro c l hbrings
  cases response with
  | success data =>
    obtain ⟨deviceId, -, heq⟩ := Option.map_eq_some_iff.mp hbrings
    cases heq
    exact StandsIn.refl Device.id s.devices _
  | unsuccessful | failed => cases hbrings

/-- **When no update is lost.**  The list agrees with the responses in every state of a run exactly
when none of its handlers sets a list that has gone out of date. -/
theorem upToDate_iff (h : run (step fetched) (start fetched) es = some s) :
    (∀ pre t, pre <+: es → run (step fetched) (start fetched) pre = some t →
      t.UpToDate fetched) ↔ Run (step fetched) Current (start fetched) es s :=
  run_invariant_iff h (Known.start fetched) (fun _ _ _ hknown hstep => hknown.step hstep)
    (UpToDate.nil Device.id fetched.nodup)
    fun _ _ _ hknown hinv hstep => upToDate_step hknown hinv hstep

/-! ## two lamps -/

/-- a lamp, by what distinguishes the states it goes through -/
def lamp (id updatedAt : Nat) (on : Bool) : Device Unit :=
  { id, name := "Lamp", deviceType := .lightBulb, state := .object [("on", .bool on)]
    createdAt := 0, updatedAt }

def lamps : Fetched Unit := ⟨[lamp 1 0 false, lamp 2 0 false], by decide⟩

/-- the lamp is switched on -/
def switchOn (id : Nat) : PortalEvent Unit := .starts (.update id (.object [("on", .bool true)]))

/-- the first lamp is switched on while the other is deleted -/
def oneOfThem : List (PortalEvent Unit) :=
  [switchOn 1, .starts (.delete 2), .updated 0 (.success (lamp 1 5 true)),
    .deleted 0 (.success "deleted")]

/-- both lamps are switched on before the first response is there -/
def bothAtOnce : List (PortalEvent Unit) :=
  [switchOn 1, switchOn 2, .updated 0 (.success (lamp 1 5 true)),
    .updated 0 (.success (lamp 2 5 true))]

theorem upToDate_iff_oneOfThem :
    ∃ s, run (step lamps) (start lamps) oneOfThem = some s ∧
      s.devices.map (fun device => (device.id, device.updatedAt)) = [(1, 5)] ∧
      ((∀ pre t, pre <+: oneOfThem → run (step lamps) (start lamps) pre = some t →
        t.UpToDate lamps) ↔ Run (step lamps) Current (start lamps) oneOfThem s) :=
  ⟨_, rfl, rfl, upToDate_iff rfl⟩

/-- the first lamp is on, and is shown as it was -/
theorem not_upToDate :
    ¬∀ (fetched : Fetched Unit) es s, run (step fetched) (start fetched) es = some s →
      s.outstanding = [] → s.UpToDate fetched := by
  intro hall
  have hrows := hall lamps bothAtOnce _ rfl rfl 1
  have htimes := congrArg (List.map Device.updatedAt) hrows
  exact absurd htimes (by decide)

end Portal

end

end EdgeTranslators.Kaas
