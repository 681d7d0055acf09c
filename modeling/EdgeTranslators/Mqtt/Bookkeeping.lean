import EdgeTranslators.Lib.Run
import EdgeTranslators.Mqtt.Formats

/-!
# The list of registered devices (`mqttpt-example/mqttpt_example.c`)

`mqttpt_devices` tells the handlers of value messages whether to register a device or to write its
values.  A device joins it when its registration succeeds.

* `Bookkeeping`, `Event`, `step`   the translator with the registrations the PT client has taken;
* `Effect`                         what a value message does to the list and to the requests;
* `Taken`, `taken_of_step`         what a step does;
* `Good`                           the list has each device once, and only if it is registered on the
                                   current connection;
* `Keeps`                          the steps that keep it so;
* `devices_registered`, `good_iff_keeps`   they do, and no others.

A registration ends with its connection.
-/

namespace EdgeTranslators.Mqtt
open Lib Pt

/-! ## the system -/

/-- a registration the PT client has taken -/
structure Registration where
  connection : Nat
  device : String
  /-- the context has a copy of the device id -/
  copied : Bool
  deriving DecidableEq

structure Bookkeeping where
  /-- `g_connection_id` of its client is `none` while there is no connection -/
  gateway : Gateway
  /-- the connections made so far -/
  connections : Nat
  outstanding : List Registration
  /-- the registrations that succeeded: the connection and the device -/
  succeeded : List (Nat × String)

/-- `faults` are the outcomes of the resource calls to come -/
def Bookkeeping.initial (faults : List Bool) : Bookkeeping :=
  ⟨⟨false, ⟨none, ∅, faults, []⟩, [], []⟩, 0, [], []⟩

inductive Event where
  /-- a value message in either format; `accepted` is whether the PT client takes the registration
  it may ask for, `copied` whether the device id could be copied -/
  | message (edgeVal : Bool) (created : Bool → Bool) (gweui deveui payload : Option String)
      (accepted copied : Bool)
  /-- `mqttpt_device_register_success_handler` for an outstanding registration; `allocated` and
  `named` tell whether the entry and its copy of the id were allocated -/
  | registerSuccess (i : Nat) (allocated named : Bool)
  /-- `mqttpt_device_register_failure_handler` -/
  | registerFailure (i : Nat)
  /-- `mqttpt_disconnected_handler` -/
  | disconnected
  /-- `mqttpt_connection_ready_handler` -/
  | connectionReady

/-- `mqttpt_add_device`, the name of the entry is null if it could not be copied -/
def mqttptAddDevice (devices : List (Option String)) (deveui : String) (allocated named : Bool) :
    List (Option String) :=
  if allocated then devices ++ [if named then some deveui else none] else devices

namespace Bookkeeping
variable {ν : Type} (jsonLoads : String → Option (Json ν)) (s : Bookkeeping)

/-- the registrations among the requests a message has added -/
def taken (requests : List Request) (accepted copied : Bool) : List Registration :=
  match s.gateway.client.connection, requests, accepted with
  | some connection, [.register device], true => [⟨connection, device, copied⟩]
  | _, _, _ => []

/-- the handler of a value message in either format -/
def handle (edgeVal : Bool) (created : Bool → Bool) (gweui deveui payload : Option String) :
    Checked Gateway.Outcome :=
  if edgeVal then
    s.gateway.mqttptTranslateNodeEdgeValueMessage created jsonLoads gweui deveui payload
  else s.gateway.mqttptTranslateNodeValueMessage (created false) jsonLoads gweui deveui payload

def setConnection (connection : Option Nat) : Gateway :=
  { s.gateway with client := { s.gateway.client with connection } }

def step (s : Bookkeeping) : Event → Option Bookkeeping
  | .message edgeVal created gweui deveui payload accepted copied =>
    match s.handle jsonLoads edgeVal created gweui deveui payload with
    -- the handler passes a null pointer on
    | .error _ => none
    | .ok (g, _) =>
      some { s with
        gateway := g
        outstanding := s.outstanding ++
          s.taken (g.requests.drop s.gateway.requests.length) accepted copied }
  | .registerSuccess i allocated named =>
    match s.outstanding[i]? with
    | none => none
    | some r =>
      -- a registration does not outlive its connection
      if s.gateway.client.connection = some r.connection then
        some { s with
          gateway := { s.gateway with
            devices :=
              if r.copied then mqttptAddDevice s.gateway.devices r.device allocated named
              else s.gateway.devices }
          outstanding := s.outstanding.eraseIdx i
          succeeded := s.succeeded ++ [(r.connection, r.device)] }
      else none
  | .registerFailure i =>
    if i < s.outstanding.length then some { s with outstanding := s.outstanding.eraseIdx i }
    else none
  | .disconnected =>
    if s.gateway.client.connection.isSome then some { s with gateway := s.setConnection none }
    else none
  | .connectionReady =>
    if s.gateway.client.connection.isNone then
      some { s with
        gateway := s.setConnection (some (s.connections + 1))
        connections := s.connections + 1 }
    else none

/-- a registration of the device succeeded on the current connection -/
def RegisteredNow (device : String) : Prop :=
  ∃ connection, s.gateway.client.connection = some connection ∧ (connection, device) ∈ s.succeeded

/-- the step has called `pt_device_write_values` for the device -/
def Writes (device : String) (s' : Bookkeeping) : Prop :=
  s'.gateway.requests = s.gateway.requests ++ [.writeValues device]

/-- `mqttpt_devices` matches the registrations -/
structure Good : Prop where
  nodup : (s.gateway.devices.filterMap id).Nodup
  registered : ∀ device, some device ∈ s.gateway.devices → s.RegisteredNow device

end Bookkeeping

/-! ## what a value message does -/

section
variable {c : Client} {deveui : String}

theorem createForEntry_connection (deveui : String) (c : Client) (e : Entry) :
    (createForEntry deveui c e).2.2.connection = c.connection := by
  have hfault := (takeFault_grows c).connection
  unfold createForEntry
  split
  · rfl
  · split
    · unfold mqttptCreateSensorObject
      rcases hf : c.takeFault with ⟨_ | _, c₁⟩ <;> rw [hf] at hfault <;> simp only
      · exact ((deviceAddResource_grows _ deveui _ _).connection.trans
          (deviceAddResource_grows c₁ deveui _ _).connection).trans hfault
      · exact hfault
    · unfold mqttptCreateObject
      rcases hf : c.takeFault with ⟨_ | _, c₁⟩ <;> rw [hf] at hfault <;> simp only
      · exact (deviceAddResource_grows c₁ deveui _ _).connection.trans hfault
      · exact hfault

theorem translateEntry_connection (deveui : String) (c : Client) (e : Entry) :
    (translateEntry deveui c e).1.connection = c.connection := by
  unfold translateEntry
  exact (deviceSetResourceValue_grows _ deveui _ _).connection.trans
    (createForEntry_connection deveui c e)

theorem translateEntries_connection (deveui : String) (c : Client) (es : List Entry) :
    (translateEntries deveui c es).1.connection = c.connection := by
  induction es generalizing c with
  | nil => rfl
  | cons e es ih => exact (ih _).trans (translateEntry_connection deveui c e)

theorem translateAll_connection {ms : List Members} {r : Client × List Receipt}
    (h : translateAll deveui c ms = .ok r) : r.1.connection = c.connection := by
  have hoption := translateAll_toOption deveui c ms
  rw [h] at hoption
  obtain ⟨es, -, hes⟩ := Option.map_eq_some_iff.mp hoption.symm
  rw [← hes]
  exact translateEntries_connection deveui c es

theorem mqttptDeviceExists_ok {devices : List (Option String)} {known : Bool}
    (h : mqttptDeviceExists deveui devices = .ok known) :
    known = decide (some deveui ∈ devices) := by
  induction devices with
  | nil =>
    cases h
    rfl
  | cons device devices ih =>
    cases device with
    | none => cases h
    | some name =>
      by_cases hname : deveui = name
      · subst hname
        have hok : mqttptDeviceExists deveui (some deveui :: devices) = .ok true := by
          simp [mqttptDeviceExists, bind, Except.bind, pure, Except.pure]
        cases hok.symm.trans h
        simp
      · have hok : mqttptDeviceExists deveui (some name :: devices) =
            mqttptDeviceExists deveui devices := by
          simp [mqttptDeviceExists, bind, Except.bind, hname]
        rw [ih (hok.symm.trans h)]
        simp [hname]

end

/-- the device list and the connection stay, and at most one request is added -/
structure Effect (g g' : Gateway) : Prop where
  devices : g'.devices = g.devices
  connection : g'.client.connection = g.client.connection
  requests : g'.requests = g.requests ∨
    (∃ device, g'.requests = g.requests ++ [.writeValues device] ∧ some device ∈ g.devices) ∨
    ∃ device, g'.requests = g.requests ++ [.register device] ∧ some device ∉ g.devices

theorem Effect.refl (g : Gateway) : Effect g g := ⟨rfl, rfl, .inl rfl⟩

namespace Gateway
variable {ν : Type} {g g' : Gateway}

theorem publish_effect {deveui : String} (h : g.publish deveui = .ok g') : Effect g g' := by
  unfold publish at h
  cases hknown : mqttptDeviceExists deveui g.devices with
  | error e =>
    rw [hknown] at h
    cases h
  | ok known =>
    rw [hknown] at h
    have hmem := mqttptDeviceExists_ok hknown
    cases known with
    | true =>
      cases h
      exact ⟨rfl, rfl, .inr (.inl ⟨deveui, rfl, of_decide_eq_true hmem.symm⟩)⟩
    | false =>
      cases h
      exact ⟨rfl, rfl, .inr (.inr ⟨deveui, rfl, of_decide_eq_false hmem.symm⟩)⟩

theorem translate_effect {deveui : String} {members : Json ν → List Members}
    {payloadField : Json ν} {receipts : List Receipt}
    (h : g.translate deveui members payloadField = .ok (g', receipts)) : Effect g g' := by
  unfold translate at h
  cases hall : translateAll deveui g.client (members payloadField) with
  | error e =>
    rw [hall] at h
    cases h
  | ok r =>
    rw [hall] at h
    have hconnection := translateAll_connection hall
    replace h : (if payloadField.items = [] then
        .ok ({ g with client := r.1 }, r.2) else
        ({ g with client := r.1 } : Gateway).publish deveui >>= fun g => .ok (g, r.2) :
          Checked Outcome) = .ok (g', receipts) := h
    split at h
    · cases h
      exact ⟨rfl, hconnection, .inl rfl⟩
    · cases hpublish : ({ g with client := r.1 } : Gateway).publish deveui with
      | error e =>
        rw [hpublish] at h
        cases h
      | ok g₁ =>
        rw [hpublish] at h
        cases h
        obtain ⟨hdevices, hconn, hrequests⟩ := publish_effect hpublish
        exact ⟨hdevices, hconn.trans hconnection, hrequests⟩

theorem prepare_eq_client (g : Gateway) (deveui : String) (created : Bool) :
    ∃ client, client.connection = g.client.connection ∧
      (g.prepare deveui created).2 = { g with client } := by
  unfold prepare
  split
  · exact ⟨g.client, rfl, rfl⟩
  · refine ⟨_, ?_, rfl⟩
    unfold deviceCreate
    split
    · rfl
    · split
      · rfl
      · split <;> rfl

theorem handleValues_effect {members : Json ν → List Members} {created : Json ν → Bool}
    {jsonLoads : String → Option (Json ν)} {gweui deveui payload : Option String}
    {receipts : List Receipt}
    (h : g.handleValues members created jsonLoads gweui deveui payload = .ok (g', receipts)) :
    Effect g g' := by
  unfold handleValues at h
  split at h
  · cases h
    exact ⟨rfl, rfl, .inl rfl⟩
  · split at h
    · rename_i _ deveui payload
      cases hjson : jsonLoads payload with
      | none =>
        rw [hjson] at h
        cases h
        exact .refl g
      | some json =>
        simp only [hjson] at h
        cases hfield : json.get "payload_field" with
        | none =>
          rw [hfield] at h
          cases h
          exact .refl g
        | some payloadField =>
          simp only [hfield] at h
          obtain ⟨client, hconnection, hclient⟩ := g.prepare_eq_client deveui (created json)
          rcases hprepare : g.prepare deveui (created json) with ⟨_ | _, g₁⟩ <;>
            rw [hprepare] at h hclient <;> simp only at h hclient <;> subst hclient
          · cases h
            exact ⟨rfl, hconnection, .inl rfl⟩
          · obtain ⟨hdevices, hconn, hrequests⟩ := translate_effect h
            exact ⟨hdevices, hconn.trans hconnection, hrequests⟩
    · cases h
      exact .refl g

end Gateway

/-! ## what a step does -/

namespace Bookkeeping
section
variable {ν : Type} {jsonLoads : String → Option (Json ν)} {s s' : Bookkeeping} {e : Event}

/-- the next states -/
inductive Taken (s : Bookkeeping) : Event → Bookkeeping → Prop where
  | message {edgeVal : Bool} {created : Bool → Bool} {gweui deveui payload : Option String}
      {accepted copied : Bool} {g : Gateway} {outstanding : List Registration}
      (h : Effect s.gateway g) :
      Taken s (.message edgeVal created gweui deveui payload accepted copied)
        { s with gateway := g, outstanding }
  | registerSuccess {i : Nat} {allocated named : Bool} {r : Registration}
      (hr : s.outstanding[i]? = some r)
      (hconnection : s.gateway.client.connection = some r.connection) :
      Taken s (.registerSuccess i allocated named)
        { s with
          gateway := { s.gateway with
            devices :=
              if r.copied then mqttptAddDevice s.gateway.devices r.device allocated named
              else s.gateway.devices }
          outstanding := s.outstanding.eraseIdx i
          succeeded := s.succeeded ++ [(r.connection, r.device)] }
  | registerFailure {i : Nat} :
      Taken s (.registerFailure i) { s with outstanding := s.outstanding.eraseIdx i }
  | disconnected : Taken s .disconnected { s with gateway := s.setConnection none }
  | connectionReady (hnone : s.gateway.client.connection = none) :
      Taken s .connectionReady
        { s with
          gateway := s.setConnection (some (s.connections + 1))
          connections := s.connections + 1 }

theorem taken_of_step (h : s.step jsonLoads e = some s') : Taken s e s' := by
  cases e with
  | message edgeVal created gweui deveui payload accepted copied =>
    unfold step at h
    simp only at h
    cases hhandle : s.handle jsonLoads edgeVal created gweui deveui payload with
    | error e =>
      rw [hhandle] at h
      cases h
    | ok outcome =>
      rw [hhandle] at h
      cases h
      unfold handle at hhandle
      split at hhandle
      · exact .message (Gateway.handleValues_effect hhandle)
      · exact .message (Gateway.handleValues_effect hhandle)
  | registerSuccess i allocated named =>
    unfold step at h
    simp only at h
    cases hr : s.outstanding[i]? with
    | none =>
      rw [hr] at h
      cases h
    | some r =>
      simp only [hr, Option.ite_none_right_eq_some] at h
      obtain ⟨hconnection, h⟩ := h
      cases h
      exact .registerSuccess hr hconnection
  | registerFailure i =>
    obtain ⟨-, h⟩ := Option.ite_none_right_eq_some.mp h
    cases h
    exact .registerFailure
  | disconnected =>
    obtain ⟨-, h⟩ := Option.ite_none_right_eq_some.mp h
    cases h
    exact .disconnected
  | connectionReady =>
    obtain ⟨hnone, h⟩ := Option.ite_none_right_eq_some.mp h
    cases h
    exact .connectionReady (Option.isNone_iff_eq_none.mp hnone)

end

/-! ## the steps that keep the list right -/

/-- the name of a device a success adds is not in the list, and the connection is lost only while
no device is in it -/
def Keeps (s : Bookkeeping) : Event → Prop
  | .registerSuccess i allocated named =>
    ∀ r ∈ s.outstanding[i]?, r.copied = true → allocated = true → named = true →
      some r.device ∉ s.gateway.devices
  | .disconnected => ∀ device ∈ s.gateway.devices, device = none
  | _ => True

instance (s : Bookkeeping) : (e : Event) → Decidable (s.Keeps e)
  | .registerSuccess i allocated named =>
    inferInstanceAs (Decidable (∀ r ∈ s.outstanding[i]?, r.copied = true → allocated = true →
      named = true → some r.device ∉ s.gateway.devices))
  | .disconnected => inferInstanceAs (Decidable (∀ device ∈ s.gateway.devices, device = none))
  | .message .. | .registerFailure _ | .connectionReady => .isTrue trivial

section
variable {ν : Type} {jsonLoads : String → Option (Json ν)} {s s' : Bookkeeping} {e : Event}

theorem good_initial (faults : List Bool) : (initial faults).Good := ⟨.nil, nofun⟩

/-- a list that gains nothing but a device whose name could not be copied -/
theorem Good.of_filterMap {devices : List (Option String)} (h : s.Good)
    (hsame : devices.filterMap id = s.gateway.devices.filterMap id)
    (hdevices : s'.gateway.devices = devices)
    (hconnection : s'.gateway.client.connection = s.gateway.client.connection)
    (hsucceeded : s.succeeded ⊆ s'.succeeded) : s'.Good := by
  subst hdevices
  refine ⟨hsame ▸ h.nodup, ?_⟩
  intro device hdevice
  have hmem : device ∈ s'.gateway.devices.filterMap id :=
    List.mem_filterMap.mpr ⟨_, hdevice, rfl⟩
  rw [hsame] at hmem
  obtain ⟨name, hname, hid⟩ := List.mem_filterMap.mp hmem
  cases hid
  obtain ⟨connection, hcurrent, hsuccess⟩ := h.registered device hname
  exact ⟨connection, hconnection.trans hcurrent, hsucceeded hsuccess⟩

/-- a list that gains a device registered on the current connection -/
theorem Good.snoc {device : String} (h : s.Good) (hnot : some device ∉ s.gateway.devices)
    (hdevices : s'.gateway.devices = s.gateway.devices ++ [some device])
    (hconnection : s'.gateway.client.connection = s.gateway.client.connection)
    (hsucceeded : s.succeeded ⊆ s'.succeeded) (hnow : s'.RegisteredNow device) : s'.Good := by
  have hnames : s'.gateway.devices.filterMap id =
      s.gateway.devices.filterMap id ++ [device] := by
    rw [hdevices, List.filterMap_append]
    rfl
  constructor
  · rw [hnames, List.nodup_append]
    refine ⟨h.nodup, List.nodup_singleton device, ?_⟩
    intro name hname other hother heq
    rw [List.mem_singleton] at hother
    subst hother heq
    obtain ⟨x, hx, hid⟩ := List.mem_filterMap.mp hname
    cases hid
    exact hnot hx
  · intro name hname
    rw [hdevices, List.mem_append, List.mem_singleton] at hname
    rcases hname with hname | hname
    · obtain ⟨connection, hcurrent, hsuccess⟩ := h.registered name hname
      exact ⟨connection, hconnection.trans hcurrent, hsucceeded hsuccess⟩
    · cases hname
      exact hnow

theorem good_step (h : s.Good) (hkeeps : s.Keeps e) (hstep : s.step jsonLoads e = some s') :
    s'.Good := by
  cases taken_of_step hstep with
  | message heffect =>
    exact h.of_filterMap rfl heffect.devices heffect.connection (List.Subset.refl _)
  | @registerSuccess i allocated named r hr hconnection =>
    have hnow : ∀ devices outstanding, RegisteredNow
        { s with
          gateway := { s.gateway with devices }, outstanding
          succeeded := s.succeeded ++ [(r.connection, r.device)] } r.device := by
      intro devices outstanding
      exact ⟨r.connection, hconnection, List.mem_append_right _ (List.mem_singleton_self _)⟩
    have hsub := List.subset_append_left s.succeeded [(r.connection, r.device)]
    by_cases hcopied : r.copied = true
    · simp only [hcopied, if_true]
      unfold mqttptAddDevice
      cases allocated with
      | false => exact h.of_filterMap rfl rfl rfl hsub
      | true =>
        cases named with
        | false => exact h.of_filterMap (by simp) rfl rfl hsub
        | true => exact h.snoc (hkeeps r hr hcopied rfl rfl) rfl rfl hsub (hnow _ _)
    · exact h.of_filterMap rfl (if_neg hcopied) rfl hsub
  | registerFailure => exact h.of_filterMap rfl rfl rfl (List.Subset.refl _)
  | disconnected => exact ⟨h.nodup, fun device hdevice => nomatch hkeeps _ hdevice⟩
  | connectionReady hnone =>
    refine ⟨h.nodup, fun device hdevice => ?_⟩
    obtain ⟨connection, hcurrent, -⟩ := h.registered device hdevice
    cases hnone.symm.trans hcurrent

/-- the condition is exact: a step from a right list leaves one if and only if it meets it -/
theorem good_iff_keeps (h : s.Good) (hstep : s.step jsonLoads e = some s') :
    s'.Good ↔ s.Keeps e := by
  refine ⟨fun h' => ?_, fun hkeeps => good_step h hkeeps hstep⟩
  cases taken_of_step hstep with
  | @registerSuccess i allocated named r hr hconnection =>
    intro r' hr' hcopied hallocated hnamed hmem
    cases hr.symm.trans hr'
    have hnodup := h'.nodup
    simp only [hcopied, hallocated, hnamed, if_true, mqttptAddDevice, List.filterMap_append]
      at hnodup
    have hname : r.device ∈ s.gateway.devices.filterMap id :=
      List.mem_filterMap.mpr ⟨_, hmem, rfl⟩
    exact (List.nodup_append.mp hnodup).2.2 _ hname _ (List.mem_singleton_self _) rfl
  | disconnected =>
    intro device hdevice
    cases device with
    | none => rfl
    | some name =>
      obtain ⟨connection, hcurrent, -⟩ := h'.registered name hdevice
      cases hcurrent
  | _ => trivial

/-- the values of a device are written only if it is listed -/
theorem Writes.mem {device : String} (h : s.Writes device s')
    (hstep : s.step jsonLoads e = some s') : some device ∈ s.gateway.devices := by
  have hne : ∀ request : Request, s.gateway.requests ≠ s.gateway.requests ++ [request] := by
    intro request heq
    have hlength := congrArg List.length heq
    simp at hlength
  cases taken_of_step hstep with
  | message heffect =>
    rcases heffect.requests with hsame | ⟨name, hwrites, hmem⟩ | ⟨name, hregister, -⟩
    · exact absurd (hsame.symm.trans h) (hne _)
    · have hlast := List.append_cancel_left (hwrites.symm.trans h)
      cases hlast
      exact hmem
    · have hlast := List.append_cancel_left (hregister.symm.trans h)
      cases hlast
  | _ => exact absurd h (hne _)

/-- **The list of devices matches the registrations** in every run whose registrations succeed only
for devices not yet listed, and whose connection is lost only while no device is listed. -/
theorem devices_registered {faults : List Bool} {es : List Event}
    (h : Run (step jsonLoads) Keeps (initial faults) es s) :
    s.Good ∧ ∀ e s' device, s.step jsonLoads e = some s' → s.Writes device s' →
      s.RegisteredNow device := by
  have hgood : s.Good :=
    h.invariant (good_initial faults) fun _ _ _ hgood hkeeps hstep => good_step hgood hkeeps hstep
  exact ⟨hgood, fun e s' device hstep hwrites => hgood.registered device (hwrites.mem hstep)⟩

end

/-! ## two runs that break the list -/

/-- a message with one temperature -/
def sensorText : String :=
  "\x7b\"payload_field\":" ++
    "[[\"VALUE\",\"\",\"21.5\",\"\",\"\",\"\",\"3303\",\"0\",\"5700\",\"5\"]]\x7d"

def sensorLoads (payload : String) : Option (Json Empty) :=
  if payload = sensorText then
    some (.object [("payload_field", .array [valItem "21.5" "3303" "0" "5700" "5"])])
  else none

def sensorMessage : Event :=
  .message false (fun _ => true) (some "gw") (some "sensor") (some sensorText) true true

/-- the first message starts the translator, the second registers the device -/
def sensorRegistering : List Event := [sensorMessage, .connectionReady, sensorMessage]

def sensorRegistered : List Event := sensorRegistering ++ [Event.registerSuccess 0 true true]

theorem devices_registered_sensor :
    ∃ s s', Run (step sensorLoads) Keeps (initial []) sensorRegistered s ∧
      s.step sensorLoads sensorMessage = some s' ∧ s.Writes "sensor" s' ∧
        s.Good ∧ s.RegisteredNow "sensor" := by
  have hrun : ∃ s, run (guarded (step sensorLoads) Keeps) (initial []) sensorRegistered = some s ∧
      ∃ s' ∈ s.step sensorLoads sensorMessage, s.Writes "sensor" s' := by
    unfold Writes
    exact exists_of_run_any (by decide +kernel)
  obtain ⟨s, hs, s', hs', hwrites⟩ := hrun
  have hgood := devices_registered (Run.of_guarded hs)
  exact ⟨s, s', Run.of_guarded hs, hs', hwrites, hgood.1, hgood.2 _ _ _ hs' hwrites⟩

/-- Two messages before the first answer register a device twice, and both successes list it.  A
device listed on a connection that is lost is written to on the next one. -/
theorem devices_registered_fails :
    (∃ s, run (step sensorLoads) (initial []) (sensorRegistering ++
        [sensorMessage, .registerSuccess 0 true true, .registerSuccess 0 true true]) = some s ∧
      s.gateway.devices = [some "sensor", some "sensor"]) ∧
    ∃ s s', run (step sensorLoads) (initial []) (sensorRegistered ++
        [.disconnected, .connectionReady]) = some s ∧
      s.step sensorLoads sensorMessage = some s' ∧ s.Writes "sensor" s' ∧
        ¬ s.RegisteredNow "sensor" := by
  constructor
  · exact exists_of_run_any (by decide +kernel)
  · have hrun : ∃ s, run (step sensorLoads) (initial []) (sensorRegistered ++
          [.disconnected, .connectionReady]) = some s ∧
        (s.gateway.client.connection = some 2 ∧ s.succeeded = [(1, "sensor")]) ∧
          ∃ s' ∈ s.step sensorLoads sensorMessage, s.Writes "sensor" s' := by
      unfold Writes
      exact exists_of_run_any (by decide +kernel)
    obtain ⟨s, hs, ⟨hconnection, hsucceeded⟩, s', hs', hwrites⟩ := hrun
    refine ⟨s, s', hs, hs', hwrites, ?_⟩
    rintro ⟨connection, hcurrent, hmem⟩
    rw [hsucceeded, List.mem_singleton] at hmem
    cases hmem
    cases hconnection.symm.trans hcurrent

end Bookkeeping

end EdgeTranslators.Mqtt
