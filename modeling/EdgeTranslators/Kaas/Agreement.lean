import EdgeTranslators.Kaas.Device
import EdgeTranslators.Lib.Run
import Mathlib.Data.List.Perm.Basic

/-!
# The database row and Edge Core's value of a light

`update_device_state` stores the state of a `PUT` in the row and only then waits for the protocol
translator, to write the stored state to Edge Core; a write call of Edge Core reaches the row over
the socket reader, a channel and its consumer.  Nothing orders the two stores' updates.

* `System`, `Event`, `step`   the row, Edge Core's value of `/3311/0/5850`, the requests and messages
                              on their way, and who may take the next step;
* `inOrder`                   a step that overwrites a store makes the stores agree, or leaves the
                              update on its way that will;
* `Inv`                       the stores agree, or the update that makes them agree is on its way;
* `agree_at_rest`             runs of steps in order end in agreement;
* `Lost`, `lost_of_not_inOrder`   after any other step they disagree, until another update.
-/

namespace EdgeTranslators.Kaas
open Lib

/-! ## the value of a light -/

/-- the value a write request carries for `/3311/0/5850` -/
def onOffOf (params : DeviceRegistrationParams) : Option Bytes :=
  (params.objects.find? fun o => o.objectId = lightControl).bind fun o =>
    (o.objectInstances.find? fun i => i.objectInstanceId = 0).bind fun i =>
      (i.resources.find? fun res => res.resourceId = onOffValue).bind fun res =>
        base64Decode res.value

section
variable {ν : Type} (r : Rust ν)

/-- the on/off state of a row, as the translator reads it -/
def Device.isOn (device : Device ν) : Bool :=
  (onOffOf (createDeviceParams r device)).elim false Kaas.isOn

/-- the devices with an on/off value -/
def Device.IsLight (device : Device ν) : Prop :=
  device.deviceType = .lightBulb ∨ device.deviceType = .switch

theorem exists_encodeValue (value : Json ν) : ∃ bytes, encodeValue r value = base64Encode bytes := by
  cases value <;> exact ⟨_, rfl⟩

theorem onOffOf_createDeviceParams {device : Device ν} (hlight : device.IsLight) :
    onOffOf (createDeviceParams r device) =
      base64Decode (encodeValue r ((device.state.get "on").getD (.bool false))) := by
  unfold createDeviceParams
  rcases hlight with h | h <;> rw [h] <;> rfl

theorem Device.IsLight.onOff {device : Device ν} (hlight : device.IsLight) :
    (onOffOf (createDeviceParams r device)).map Kaas.isOn = some (device.isOn r) := by
  obtain ⟨bytes, hbytes⟩ := exists_encodeValue r ((device.state.get "on").getD (.bool false))
  have hsome : onOffOf (createDeviceParams r device) = some bytes := by
    rw [onOffOf_createDeviceParams r hlight, hbytes, base64Decode_encode]
  unfold Device.isOn
  rw [hsome]
  rfl

theorem Device.IsLight.isOn_switched {device : Device ν} (hlight : device.IsLight) (now : Nat)
    (on : Bool) : (device.switched now on).isOn r = on := by
  have hon : (device.switched now on).IsLight := hlight
  unfold Device.isOn
  rw [onOffOf_createDeviceParams r hon]
  have hget : ((device.switched now on).state.get "on").getD (.bool false) = .bool on := rfl
  rw [hget]
  unfold encodeValue
  rw [base64Decode_encode]
  cases on <;> rfl

end

/-! ## the system -/

/-- messages to Edge Core: a write request of the translator, the result of a write call -/
inductive ToEdge where
  | write (params : DeviceRegistrationParams)
  | result
  deriving DecidableEq, Repr

/-- messages from Edge Core: the result of a write request, a write call -/
inductive ToApp where
  | result
  | write (event : WriteEvent)
  deriving DecidableEq, Repr

/-- one device of the application, and what is in progress for it -/
structure System (ν : Type) where
  row : Device ν
  /-- Edge Core's value of `/3311/0/5850` -/
  edge : Bytes
  /-- `PUT` requests whose `UPDATE` has not run -/
  accepted : List (Json ν × Nat)
  /-- the rows of the requests that wait for the `protocol_translator` -/
  stored : List (Device ν)
  locked : Bool
  toEdge : List ToEdge
  toApp : List ToApp
  /-- the write call the socket reader has acknowledged and not yet queued -/
  reading : Option WriteEvent
  /-- the channel of write events -/
  writeEvents : List WriteEvent
  /-- the event the consumer has received -/
  consuming : Option WriteEvent

inductive Event (ν : Type) where
  /-- a `PUT` request arrives -/
  | put (state : Json ν) (now : Nat)
  /-- the `UPDATE` of the `k`-th of them -/
  | update (k : Nat)
  /-- the `k`-th of those waiting gets the translator, and sends its write request -/
  | lock (k : Nat)
  /-- Edge Core takes a message -/
  | edge
  /-- Edge Core's value is changed by somebody else -/
  | edgeWrite (bytes : Bytes)
  /-- the socket reader takes a message, or queues the event of the one it took -/
  | read
  | queue
  /-- the consumer receives an event, or updates the row -/
  | recv
  | consume (now : Nat)

/-- `mpsc::channel::<WriteEvent>(32)` -/
def channelCapacity : Nat := 32

section
variable {ν : Type} (r : Rust ν)

/-- the write call with which Edge Core tells of a new value -/
def edgeCall (device : Device ν) (bytes : Bytes) : WriteEvent :=
  { deviceId := deviceId r device.name, objectId := lightControl, objectInstanceId := 0,
    resourceId := onOffValue, valueBase64 := base64Encode bytes, operation := opWrite }

def step (s : System ν) : Event ν → Option (System ν)
  | .put state now => some { s with accepted := s.accepted ++ [(state, now)] }
  | .update k => s.accepted[k]?.map fun (state, now) =>
      let row := { s.row with state, updatedAt := now }
      { s with row, accepted := s.accepted.eraseIdx k, stored := s.stored ++ [row] }
  | .lock k =>
    if s.locked then none
    else s.stored[k]?.map fun device =>
      { s with
        stored := s.stored.eraseIdx k
        locked := true
        toEdge := s.toEdge ++ [.write (createDeviceParams r device)] }
  | .edge =>
    match s.toEdge with
    | [] => none
    | .write params :: rest =>
      some { s with
        edge := (onOffOf params).getD s.edge, toEdge := rest, toApp := s.toApp ++ [.result] }
    | .result :: rest => some { s with toEdge := rest }
  | .edgeWrite bytes =>
    some { s with
      edge := bytes
      toApp := s.toApp ++ [.write (edgeCall r s.row bytes)] }
  | .read =>
    match s.reading, s.toApp with
    | some _, _ | none, [] => none
    | none, .result :: rest => some { s with locked := false, toApp := rest }
    | none, .write event :: rest =>
      some { s with reading := some event, toEdge := s.toEdge ++ [.result], toApp := rest }
  | .queue =>
    if s.writeEvents.length < channelCapacity then
      s.reading.map fun event =>
        { s with reading := none, writeEvents := s.writeEvents ++ [event] }
    else none
  | .recv =>
    match s.consuming, s.writeEvents with
    | none, event :: rest => some { s with consuming := some event, writeEvents := rest }
    | _, _ => none
  | .consume now => s.consuming.map fun event =>
      { s with row := s.row.written now event, consuming := none }

/-- the device is registered and nothing is in progress -/
def start (device : Device ν) : System ν :=
  { row := device
    edge := (onOffOf (createDeviceParams r device)).getD []
    accepted := [], stored := [], locked := false, toEdge := [], toApp := [], reading := none,
    writeEvents := [], consuming := none }

/-- nothing is left in progress -/
def System.atRest (s : System ν) : Bool :=
  s.accepted.isEmpty && s.stored.isEmpty && !s.locked && s.toEdge.isEmpty && s.toApp.isEmpty &&
    s.reading.isNone && s.writeEvents.isEmpty && s.consuming.isNone

/-! ## the invariant -/

def ToEdge.params? : ToEdge → Option DeviceRegistrationParams
  | .write params => some params
  | .result => none

def ToApp.event? : ToApp → Option WriteEvent
  | .result => none
  | .write event => some event

@[simp] theorem ToEdge.params?_write (params : DeviceRegistrationParams) :
    (ToEdge.write params).params? = some params := rfl
@[simp] theorem ToEdge.params?_result : ToEdge.result.params? = none := rfl
@[simp] theorem ToApp.event?_result : ToApp.result.event? = none := rfl
@[simp] theorem ToApp.event?_write (event : WriteEvent) :
    (ToApp.write event).event? = some event := rfl

/-- the write requests on their way to Edge Core -/
def System.requests (s : System ν) : List DeviceRegistrationParams :=
  s.stored.map (createDeviceParams r) ++ s.toEdge.filterMap ToEdge.params?

/-- the write calls on their way to the row -/
def System.calls (s : System ν) : List WriteEvent :=
  s.toApp.filterMap ToApp.event? ++ s.reading.toList ++ s.writeEvents ++ s.consuming.toList

/-- the request carries the on/off state -/
def Carries (on : Bool) (params : DeviceRegistrationParams) : Prop :=
  (onOffOf params).map isOn = some on

/-- the event does -/
def Tells (on : Bool) (event : WriteEvent) : Prop :=
  (base64Decode event.valueBase64).map isOn = some on

instance (on : Bool) : DecidablePred (Carries on) := fun _ => by unfold Carries; infer_instance
instance (on : Bool) : DecidablePred (Tells on) := fun _ => by unfold Tells; infer_instance

/-- the on/off state of the row for which the consumer applies an event -/
def System.onAfter (s : System ν) (event : WriteEvent) : Bool :=
  if nameMatches event.deviceId s.row.name then Tells true event else s.row.isOn r

/-- a write request that Edge Core takes carries the row's on/off state, and an event that the
consumer applies leaves the row with Edge Core's; or else a write request with the row's state is
still on its way, or a call with Edge Core's -/
def inOrder (s : System ν) : Event ν → Bool
  | .edge =>
    match s.toEdge with
    | .write params :: rest =>
      Carries (s.row.isOn r) params ∨
        (∃ other ∈ s.stored.map (createDeviceParams r) ++ rest.filterMap ToEdge.params?,
          Carries (s.row.isOn r) other) ∨
        ∃ event ∈ s.calls, Tells (isOn ((onOffOf params).getD s.edge)) event
    | _ => true
  | .consume _ =>
    match s.consuming with
    | some event =>
      s.onAfter r event = isOn s.edge ∨
        (∃ params ∈ s.requests r, Carries (s.onAfter r event) params) ∨
        ∃ other ∈ s.toApp.filterMap ToApp.event? ++ s.reading.toList ++ s.writeEvents,
          Tells (isOn s.edge) other
    | none => true
  | _ => true

/-- the two stores agree, or what makes them agree is on its way -/
structure Inv (s : System ν) : Prop where
  light : s.row.IsLight
  requests : ∀ params ∈ s.requests r, ∃ on, Carries on params
  calls : ∀ event ∈ s.calls, ∃ bytes, event.OnOff bytes
  agree : s.row.isOn r = isOn s.edge ∨ (∃ params ∈ s.requests r, Carries (s.row.isOn r) params) ∨
    ∃ event ∈ s.calls, Tells (isOn s.edge) event

theorem Inv.start {device : Device ν} (hlight : device.IsLight) : Inv r (start r device) := by
  refine ⟨hlight, nofun, nofun, Or.inl ?_⟩
  have hon := hlight.onOff r
  obtain ⟨bytes, hbytes, hisOn⟩ := Option.map_eq_some_iff.mp hon
  show device.isOn r = isOn ((onOffOf (createDeviceParams r device)).getD [])
  rw [hbytes, Option.getD_some, hisOn]

/-- the request of a light carries its on/off state -/
theorem Device.IsLight.carries {device : Device ν} (hlight : device.IsLight) :
    Carries (device.isOn r) (createDeviceParams r device) := hlight.onOff r

/-- what is on its way, and the two stores, are what they were -/
structure SameStores (s s' : System ν) : Prop where
  row : s'.row = s.row
  edge : s'.edge = s.edge
  requests : ∀ params, params ∈ s'.requests r ↔ params ∈ s.requests r
  calls : ∀ event, event ∈ s'.calls ↔ event ∈ s.calls

theorem Inv.congr {s s' : System ν} (h : Inv r s) (hsame : SameStores r s s') : Inv r s' := by
  refine ⟨hsame.row ▸ h.light, fun params hp => h.requests params ((hsame.requests params).mp hp),
    fun event he => h.calls event ((hsame.calls event).mp he), ?_⟩
  rw [hsame.row, hsame.edge]
  rcases h.agree with hag | ⟨params, hp, hon⟩ | ⟨event, he, hon⟩
  · exact Or.inl hag
  · exact Or.inr (Or.inl ⟨params, (hsame.requests params).mpr hp, hon⟩)
  · exact Or.inr (Or.inr ⟨event, (hsame.calls event).mpr he, hon⟩)

/-- a step that writes neither store only moves what is on its way -/
inductive Moves (s : System ν) : Event ν → System ν → Prop where
  | same {e : Event ν} {s' : System ν} (h : SameStores r s s') (hok : inOrder r s e = true) :
      Moves s e s'
  | update (k : Nat) {row : Device ν} {accepted : List (Json ν × Nat)}
      (hlight : s.row.IsLight → row.IsLight) :
      Moves s (.update k) { s with row, accepted, stored := s.stored ++ [row] }
  | edge {params : DeviceRegistrationParams} {rest : List ToEdge}
      (hto : s.toEdge = .write params :: rest) :
      Moves s .edge { s with
        edge := (onOffOf params).getD s.edge, toEdge := rest, toApp := s.toApp ++ [.result] }
  | edgeWrite (bytes : Bytes) :
      Moves s (.edgeWrite bytes) { s with
        edge := bytes
        toApp := s.toApp ++ [.write (edgeCall r s.row bytes)] }
  | consume (now : Nat) {event : WriteEvent} (hconsuming : s.consuming = some event) :
      Moves s (.consume now) { s with row := s.row.written now event, consuming := none }

theorem moves_of_step {s s' : System ν} {e : Event ν} (hstep : step r s e = some s') :
    Moves r s e s' := by
  cases e with
  | put state now =>
    cases hstep
    exact .same ⟨rfl, rfl, fun _ => Iff.rfl, fun _ => Iff.rfl⟩ rfl
  | update k =>
    simp only [Kaas.step, Option.map_eq_some_iff] at hstep
    obtain ⟨⟨state, now⟩, -, rfl⟩ := hstep
    exact .update k id
  | lock k =>
    simp only [Kaas.step] at hstep
    split at hstep
    · cases hstep
    · obtain ⟨device, hk, rfl⟩ := Option.map_eq_some_iff.mp hstep
      refine .same ⟨rfl, rfl, fun params => ?_, fun _ => Iff.rfl⟩ rfl
      obtain ⟨hlt, hdevice⟩ := List.getElem?_eq_some_iff.mp hk
      have hperm := (List.getElem_cons_eraseIdx_perm hlt).map (createDeviceParams r)
      rw [hdevice, List.map_cons] at hperm
      have hstored := hperm.mem_iff (a := params)
      unfold System.requests
      rw [List.filterMap_append, List.mem_append, List.mem_append, List.mem_append, ← hstored,
        List.mem_cons]
      simp only [List.filterMap_cons, ToEdge.params?_write, List.filterMap_nil, List.mem_singleton]
      tauto
  | edge =>
    simp only [Kaas.step] at hstep
    split at hstep
    · cases hstep
    · rename_i params rest hto
      cases hstep
      exact .edge hto
    · rename_i rest hto
      cases hstep
      refine .same ⟨rfl, rfl, fun params => ?_, fun _ => Iff.rfl⟩ ?_
      · simp [System.requests, hto]
      · simp [inOrder, hto]
  | edgeWrite bytes =>
    cases hstep
    exact .edgeWrite bytes
  | read =>
    simp only [Kaas.step] at hstep
    split at hstep
    · cases hstep
    · cases hstep
    · rename_i rest hreading hto
      cases hstep
      refine .same ⟨rfl, rfl, fun _ => Iff.rfl, fun event => ?_⟩ rfl
      simp [System.calls, hto]
    · rename_i call rest hreading hto
      cases hstep
      refine .same ⟨rfl, rfl, fun params => ?_, fun event => ?_⟩ rfl
      · simp [System.requests]
      · simp [System.calls, hto, hreading, or_left_comm]
  | queue =>
    simp only [Kaas.step] at hstep
    split at hstep
    · obtain ⟨call, hreading, rfl⟩ := Option.map_eq_some_iff.mp hstep
      refine .same ⟨rfl, rfl, fun _ => Iff.rfl, fun event => ?_⟩ rfl
      simp [System.calls, hreading, or_left_comm]
    · cases hstep
  | recv =>
    simp only [Kaas.step] at hstep
    split at hstep
    · rename_i call rest hconsuming hevents
      cases hstep
      refine .same ⟨rfl, rfl, fun _ => Iff.rfl, fun event => ?_⟩ rfl
      simp [System.calls, hconsuming, hevents, or_comm]
    · cases hstep
  | consume now =>
    simp only [Kaas.step, Option.map_eq_some_iff] at hstep
    obtain ⟨call, hconsuming, rfl⟩ := hstep
    exact .consume now hconsuming

/-- what is on its way after Edge Core has taken a request, and what was before -/
theorem requests_edge {s : System ν} {params : DeviceRegistrationParams} {rest : List ToEdge}
    (hto : s.toEdge = .write params :: rest) (other : DeviceRegistrationParams) :
    other ∈ s.requests r ↔ other = params ∨
      other ∈ s.stored.map (createDeviceParams r) ++ rest.filterMap ToEdge.params? := by
  unfold System.requests
  rw [hto, List.filterMap_cons, ToEdge.params?_write]
  simp only [List.mem_append, List.mem_cons]
  exact or_left_comm

theorem calls_consume {s : System ν} {event : WriteEvent} (hconsuming : s.consuming = some event)
    (other : WriteEvent) :
    other ∈ s.calls ↔
      other ∈ s.toApp.filterMap ToApp.event? ++ s.reading.toList ++ s.writeEvents ∨
        other = event := by
  unfold System.calls
  rw [hconsuming, List.mem_append]
  simp only [Option.toList_some, List.mem_singleton]

/-- an on/off event tells one state -/
theorem tells_iff {event : WriteEvent} {bytes : Bytes} (hevent : event.OnOff bytes) {on : Bool} :
    Tells on event ↔ isOn bytes = on := by
  unfold Tells
  rw [hevent.2.2, Option.map_some, Option.some.injEq]

theorem decide_tells {event : WriteEvent} {bytes : Bytes} (hevent : event.OnOff bytes) :
    decide (Tells true event) = isOn bytes := by
  rw [Bool.eq_iff_iff, decide_eq_true_iff, tells_iff hevent]

/-- the row with an event applied -/
theorem isOn_written {s : System ν} (hlight : s.row.IsLight) {event : WriteEvent} {bytes : Bytes}
    (hevent : event.OnOff bytes) (now : Nat) :
    (s.row.written now event).IsLight ∧
      (s.row.written now event).isOn r = s.onAfter r event := by
  unfold System.onAfter
  rw [Device.written_onOff hevent, decide_tells hevent]
  split
  · exact ⟨hlight, hlight.isOn_switched r now (isOn bytes)⟩
  · exact ⟨hlight, rfl⟩

theorem Inv.step {s s' : System ν} {e : Event ν} (h : Inv r s) (hok : inOrder r s e)
    (hstep : step r s e = some s') : Inv r s' := by
  cases moves_of_step r hstep with
  | same hsame _ => exact h.congr r hsame
  | @update k row accepted hlight =>
    -- the request that stored the new state waits for the translator with it
    have hrow := hlight h.light
    have hmem : ∀ params, params ∈ System.requests r { s with
        row, accepted, stored := s.stored ++ [row] } ↔
          params ∈ s.requests r ∨ params = createDeviceParams r row := by
      intro params
      simp only [System.requests, List.map_append, List.mem_append, List.map_cons, List.map_nil,
        List.mem_singleton]
      tauto
    refine ⟨hrow, fun params hp => ?_, h.calls,
      Or.inr (Or.inl ⟨_, (hmem _).mpr (.inr rfl), hrow.carries r⟩)⟩
    rcases (hmem params).mp hp with hp | rfl
    · exact h.requests params hp
    · exact ⟨_, hrow.carries r⟩
  | @edge params rest hto =>
    obtain ⟨on, hon⟩ := h.requests params ((requests_edge r hto params).mpr (.inl rfl))
    obtain ⟨bytes, hbytes, hisOn⟩ := Option.map_eq_some_iff.mp hon
    refine ⟨h.light, fun other hother => h.requests other ((requests_edge r hto other).mpr
      (.inr hother)), fun event he => h.calls event (by simpa [System.calls] using he), ?_⟩
    simp only [inOrder, hto, decide_eq_true_eq] at hok
    rcases hok with hcarries | hrequest | ⟨event, he, htells⟩
    · left
      show s.row.isOn r = isOn ((onOffOf params).getD s.edge)
      unfold Carries at hcarries
      rw [hbytes, Option.map_some, Option.some.injEq] at hcarries
      rw [hbytes, Option.getD_some, hcarries]
    · exact .inr (.inl hrequest)
    · exact .inr (.inr ⟨event, by simpa [System.calls] using he, htells⟩)
  | edgeWrite bytes =>
    -- the call that tells of the new value is on its way
    have hmem : ∀ event, event ∈ System.calls { s with
        edge := bytes, toApp := s.toApp ++ [.write (edgeCall r s.row bytes)] } ↔
          event ∈ s.calls ∨ event = edgeCall r s.row bytes := by
      intro event
      simp only [System.calls, List.filterMap_append, List.filterMap_cons, ToApp.event?_write,
        List.filterMap_nil, List.mem_append, List.mem_singleton]
      tauto
    have hcall : (edgeCall r s.row bytes).OnOff bytes := ⟨rfl, rfl, base64Decode_encode bytes⟩
    refine ⟨h.light, h.requests, fun event he => ?_,
      Or.inr (Or.inr ⟨_, (hmem _).mpr (.inr rfl), (tells_iff hcall).mpr rfl⟩)⟩
    rcases (hmem event).mp he with he | rfl
    · exact h.calls event he
    · exact ⟨bytes, hcall⟩
  | @consume now event hconsuming =>
    obtain ⟨bytes, hevent⟩ := h.calls event ((calls_consume hconsuming event).mpr (.inr rfl))
    obtain ⟨hlight, hrow⟩ := isOn_written r h.light hevent now
    have hcalls : ∀ other, other ∈ System.calls { s with
        row := s.row.written now event, consuming := none } ↔
          other ∈ s.toApp.filterMap ToApp.event? ++ s.reading.toList ++ s.writeEvents := by
      intro other
      simp [System.calls]
    refine ⟨hlight, h.requests, fun other ho => h.calls other ((calls_consume hconsuming other).mpr
      (.inl ((hcalls other).mp ho))), ?_⟩
    simp only [inOrder, hconsuming, decide_eq_true_eq] at hok
    rw [← hrow] at hok
    rcases hok with hagree | hrequest | ⟨other, ho, htells⟩
    · exact .inl hagree
    · exact .inr (.inl hrequest)
    · exact .inr (.inr ⟨other, (hcalls other).mpr ho, htells⟩)

/-- nothing that could still make the stores agree is left at rest -/
theorem Inv.agree_of_atRest {s : System ν} (h : Inv r s) (hrest : s.atRest) :
    s.row.isOn r = isOn s.edge := by
  simp only [System.atRest, Bool.and_eq_true, List.isEmpty_iff, Option.isNone_iff_eq_none] at hrest
  obtain ⟨⟨⟨⟨⟨⟨⟨-, hstored⟩, -⟩, hto⟩, happ⟩, hreading⟩, hevents⟩, hconsuming⟩ := hrest
  rcases h.agree with hag | ⟨params, hp, -⟩ | ⟨event, he, -⟩
  · exact hag
  · simp [System.requests, hstored, hto] at hp
  · simp [System.calls, happ, hreading, hevents, hconsuming] at he

/-! ## a step out of order -/

/-- the stores disagree, and all that is on its way keeps them so -/
structure Lost (s : System ν) : Prop where
  light : s.row.IsLight
  differ : s.row.isOn r ≠ isOn s.edge
  requests : ∀ params ∈ s.requests r, Carries (isOn s.edge) params
  calls : ∀ event ∈ s.calls, (∃ bytes, event.OnOff bytes) ∧ Tells (s.row.isOn r) event

/-- what carries a state and not the one carries the other -/
theorem Carries.of_not {params : DeviceRegistrationParams} (h : ∃ on, Carries on params)
    {on other : Bool} (hno : ¬Carries on params) (hother : on ≠ other) : Carries other params := by
  obtain ⟨on', hon'⟩ := h
  have hne : on' ≠ on := fun heq => hno (heq ▸ hon')
  have heq : on' = other := by
    revert hne hother
    cases on' <;> cases on <;> cases other <;> decide
  exact heq ▸ hon'

theorem Tells.of_not {event : WriteEvent} {bytes : Bytes} (hevent : event.OnOff bytes)
    {on other : Bool} (hno : ¬Tells on event) (hother : on ≠ other) : Tells other event := by
  rw [tells_iff hevent] at hno ⊢
  revert hno hother
  cases isOn bytes <;> cases on <;> cases other <;> decide

/-- **A step that is not in order makes the stores disagree**, and leaves nothing on its way that
could help. -/
theorem lost_of_not_inOrder {s s' : System ν} {e : Event ν} (h : Inv r s)
    (hok : inOrder r s e = false) (hstep : step r s e = some s') : Lost r s' := by
  cases moves_of_step r hstep with
  | same _ hok' => exact absurd (hok.symm.trans hok') Bool.false_ne_true
  | update _ _ | edgeWrite _ => cases hok
  | @edge params rest hto =>
    simp only [inOrder, hto, decide_eq_false_iff_not, not_or, not_exists, not_and] at hok
    obtain ⟨hparams, hrequests, hcalls⟩ := hok
    obtain ⟨on, hon⟩ := h.requests params ((requests_edge r hto params).mpr (.inl rfl))
    obtain ⟨bytes, hbytes, hisOn⟩ := Option.map_eq_some_iff.mp hon
    have hdiffer : s.row.isOn r ≠ isOn ((onOffOf params).getD s.edge) := by
      rw [hbytes, Option.getD_some, hisOn]
      exact fun heq => hparams (heq ▸ hon)
    refine ⟨h.light, hdiffer, fun other hother => ?_, fun event he => ?_⟩
    · exact Carries.of_not (h.requests other ((requests_edge r hto other).mpr (.inr hother)))
        (hrequests other hother) hdiffer
    · have he : event ∈ s.calls := by simpa [System.calls] using he
      obtain ⟨bytes', hevent⟩ := h.calls event he
      exact ⟨⟨bytes', hevent⟩, Tells.of_not hevent (hcalls event he) hdiffer.symm⟩
  | @consume now event hconsuming =>
    simp only [inOrder, hconsuming, decide_eq_false_iff_not, not_or, not_exists, not_and] at hok
    obtain ⟨bytes, hevent⟩ := h.calls event ((calls_consume hconsuming event).mpr (.inr rfl))
    obtain ⟨hlight, hrow⟩ := isOn_written r h.light hevent now
    rw [← hrow] at hok
    obtain ⟨hagree, hrequests, hcalls⟩ := hok
    have hdiffer : (s.row.written now event).isOn r ≠ isOn s.edge := hagree
    refine ⟨hlight, hdiffer, fun params hp => ?_, fun other ho => ?_⟩
    · exact Carries.of_not (h.requests params hp) (hrequests params hp) hdiffer
    · have ho : other ∈ s.toApp.filterMap ToApp.event? ++ s.reading.toList ++ s.writeEvents := by
        simpa [System.calls] using ho
      obtain ⟨bytes', hevent'⟩ := h.calls other ((calls_consume hconsuming other).mpr (.inl ho))
      exact ⟨⟨bytes', hevent'⟩, Tells.of_not hevent' (hcalls other ho) hdiffer.symm⟩

/-- the row is updated for a `PUT`, or Edge Core's value by somebody else -/
def Event.Renews : Event ν → Prop
  | .update _ | .edgeWrite _ => True
  | _ => False

theorem Lost.step {s s' : System ν} {e : Event ν} (h : Lost r s) (he : ¬e.Renews)
    (hstep : step r s e = some s') : Lost r s' := by
  cases moves_of_step r hstep with
  | same hsame _ =>
    refine ⟨hsame.row ▸ h.light, ?_, fun params hp => ?_, fun event hevent => ?_⟩
    · rw [hsame.row, hsame.edge]
      exact h.differ
    · rw [hsame.edge]
      exact h.requests params ((hsame.requests params).mp hp)
    · rw [hsame.row]
      exact h.calls event ((hsame.calls event).mp hevent)
  | update _ _ | edgeWrite _ => exact absurd trivial he
  | @edge params rest hto =>
    -- the request writes what Edge Core has
    have hcarries := h.requests params ((requests_edge r hto params).mpr (.inl rfl))
    obtain ⟨bytes, hbytes, hisOn⟩ := Option.map_eq_some_iff.mp hcarries
    have hedge : isOn ((onOffOf params).getD s.edge) = isOn s.edge := by
      rw [hbytes, Option.getD_some, hisOn]
    refine ⟨h.light, fun heq => h.differ (heq.trans hedge), fun other hother => ?_,
      fun event hevent => h.calls event (by simpa [System.calls] using hevent)⟩
    show Carries (isOn ((onOffOf params).getD s.edge)) other
    rw [hedge]
    exact h.requests other ((requests_edge r hto other).mpr (.inr hother))
  | @consume now event hconsuming =>
    -- the event writes what the row has
    obtain ⟨⟨bytes, hevent⟩, htells⟩ := h.calls event ((calls_consume hconsuming event).mpr
      (.inr rfl))
    obtain ⟨hlight, hrow⟩ := isOn_written r h.light hevent now
    have hsame : (s.row.written now event).isOn r = s.row.isOn r := by
      rw [tells_iff hevent] at htells
      rw [hrow, System.onAfter, decide_tells hevent, htells, ite_self]
    refine ⟨hlight, fun heq => h.differ (hsame.symm.trans heq), h.requests, fun other ho => ?_⟩
    show _ ∧ Tells ((s.row.written now event).isOn r) other
    rw [hsame]
    refine h.calls other ((calls_consume hconsuming other).mpr (.inl ?_))
    simpa [System.calls] using ho

/-- **After a step out of order the stores disagree until one of them is renewed.** -/
theorem disagree_of_not_inOrder {device : Device ν} (hlight : device.IsLight)
    {es es' : List (Event ν)} {s s' s'' : System ν} {e : Event ν}
    (hrun : Run (Kaas.step r) (fun s e => inOrder r s e) (start r device) es s)
    (hok : inOrder r s e = false) (hstep : Kaas.step r s e = some s')
    (hafter : Run (Kaas.step r) (fun _ e => ¬e.Renews) s' es' s'') :
    s''.row.isOn r ≠ isOn s''.edge := by
  have hinv : Inv r s := hrun.invariant (Inv.start r hlight)
    fun _ _ _ h hok hstep => h.step r hok hstep
  have hlost : Lost r s'' := hafter.invariant (lost_of_not_inOrder r hinv hok hstep)
    fun _ _ _ h he hstep => h.step r he hstep
  exact hlost.differ

/-- **Runs in order end in agreement.** -/
theorem agree_at_rest {device : Device ν} (hlight : device.IsLight) {es : List (Event ν)}
    {s : System ν} (hrun : Run (step r) (fun s e => inOrder r s e) (start r device) es s)
    (hrest : s.atRest) : s.row.isOn r = isOn s.edge := by
  have hinv : Inv r s := hrun.invariant (Inv.start r hlight)
    fun _ _ _ h hok hstep => h.step r hok hstep
  exact hinv.agree_of_atRest r hrest

end

/-! ## runs of one light -/

def kitchenLight : Device Unit :=
  { id := 0, name := "Kitchen_Light", deviceType := .lightBulb, state := .null, createdAt := 0,
    updatedAt := 0 }

/-- switched on by a `PUT`, then off by Edge Core -/
def onThenOff : List (Event Unit) :=
  [.put (.object [("on", .bool true)]) 1, .update 0, .lock 0, .edge, .read,
    .edgeWrite [0], .read, .edge, .queue, .recv, .consume 2]

theorem agree_at_rest_onThenOff :
    ∃ s, run (step ascii) (start ascii kitchenLight) onThenOff = some s ∧ s.atRest ∧
      s.row.isOn ascii = isOn s.edge := by
  have hsome : (run (guarded (step ascii) fun s e => inOrder ascii s e = true)
      (start ascii kitchenLight) onThenOff).any System.atRest = true := by decide +kernel
  obtain ⟨s, hs, hrest⟩ := (Option.any_eq_true _ _).mp hsome
  have hrun := Run.of_guarded hs
  exact ⟨s, hrun.to_run, hrest, agree_at_rest ascii (Or.inl rfl) hrun hrest⟩

/-- switched on and off by two `PUT`s, the second of which gets the translator first -/
def onOffCrossed : List (Event Unit) :=
  [.put (.object [("on", .bool true)]) 1, .put (.object [("on", .bool false)]) 2, .update 0,
    .update 0, .lock 1, .edge, .read, .lock 0, .edge, .read]

/-- the row ends off and Edge Core's value on -/
theorem not_agree_at_rest_crossed :
    ¬∀ (es : List (Event Unit)) (s : System Unit),
        run (step ascii) (start ascii kitchenLight) es = some s → s.atRest →
          s.row.isOn ascii = isOn s.edge := by
  intro hall
  have hrun : (run (step ascii) (start ascii kitchenLight) onOffCrossed).map
      (fun s => (s.atRest, s.row.isOn ascii, isOn s.edge)) = some (true, false, true) := by
    decide +kernel
  obtain ⟨s, hs, hsnap⟩ := Option.map_eq_some_iff.mp hrun
  obtain ⟨hrest, hvalues⟩ := Prod.mk.inj hsnap
  obtain ⟨hrow, hedge⟩ := Prod.mk.inj hvalues
  have hagree := hall _ s hs hrest
  rw [hrow, hedge] at hagree
  cases hagree

end EdgeTranslators.Kaas
