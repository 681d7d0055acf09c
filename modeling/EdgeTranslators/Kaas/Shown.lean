import EdgeTranslators.Kaas.Portal
import EdgeTranslators.Kaas.Server
import EdgeTranslators.Lib.Delivery
import Mathlib.Data.List.Perm.Basic

/-!
# The portal and its server (`web-portal/src/App.js`, `dummy-device-app/src/main.rs`)

Each request of the portal is a task of the server.  The response arrives some time after the task is
done, and responses may overtake each other.

* `Request.api`, `Request.arrival`   the request that is sent, and its response at the handler;
* `ApiRequest.change?`, `Server.changes`   the changes of the table that responses tell of;
* `upToDate_apply`                   the table is what these changes make of it;
* `Site`, `Site.step`                the portal, the server, and the tasks its handlers wait for;
* `Site.InTurn`, `Site.Current`      responses for one device arrive in order, and no handler sets a
                                     list that has gone out of date;
* `Site.shown`                       then the portal shows the devices of the table.
-/

namespace EdgeTranslators.Kaas
open Lib

section
variable {ν : Type}

/-! ## requests and responses -/

/-- the request that a handler sends -/
def Request.api : Request ν → ApiRequest ν
  | update deviceId newState => .updateDeviceState deviceId newState
  | create newDevice => .createDevice newDevice.name newDevice.deviceType
  | delete deviceId => .deleteDevice deviceId

/-- the response as the `k`-th handler gets it; `axios` throws for a status code -/
def Request.arrival (k : Nat) : Request ν → ApiResponse ν → Option (PortalEvent ν)
  | update _ _, .device data => some (.updated k (.success data))
  | update _ _, .notFound | update _ _, .internalServerError => some (.updated k .failed)
  | create _, .device data => some (.created k (.success data))
  | create _, .notFound | create _, .internalServerError => some (.created k .failed)
  | delete _, .deleted => some (.deleted k (.success "deleted"))
  | delete _, .notFound | delete _, .internalServerError => some (.deleted k .failed)
  | _, _ => none

/-- the change of the table that a response tells of -/
def ApiRequest.change? : ApiRequest ν → ApiResponse ν → Option (DeviceChange ν)
  | updateDeviceState _ _, .device row => some (.update row)
  | createDevice _ _, .device row => some (.create row)
  | deleteDevice id, .deleted => some (.delete id)
  | _, _ => none

/-- the task and the change -/
def Entry.change? : Entry ν → Option (Nat × DeviceChange ν)
  | .request job _ r response => (r.change? response).map fun c => (job, c)
  | .write _ _ => none

namespace Server

/-- the changes of the tasks, oldest first -/
def logged (s : Server ν) : List (Nat × DeviceChange ν) := s.log.filterMap Entry.change?

def changes (s : Server ν) : List (DeviceChange ν) := s.logged.map Prod.snd

end Server

/-! ## the table and the changes -/

section
variable {initial table table' : List (Device ν)} {changes : List (DeviceChange ν)} {env : Env ν}
  {request : ApiRequest ν} {response : ApiResponse ν}

theorem rows_singleton {row : Device ν} (h : Lib.UpToDate Device.id initial changes table)
    (hmem : row ∈ table) : rows Device.id row.id table = [row] := by
  have hrow := (mem_rows Device.id).mpr ⟨hmem, rfl⟩
  rw [h row.id] at hrow ⊢
  cases hlatest : latest Device.id initial changes row.id with
  | none =>
    rw [hlatest] at hrow
    cases hrow
  | some row' =>
    rw [hlatest] at hrow
    rw [List.mem_singleton.mp hrow]
    rfl

theorem mem_keys_of_mem {row : Device ν} (h : Lib.UpToDate Device.id initial changes table)
    (hmem : row ∈ table) : row.id ∈ keys Device.id initial changes := by
  by_cases hkey : row.id ∈ keys Device.id initial changes
  · exact hkey
  · have hrow := rows_singleton h hmem
    rw [h row.id, (latest_of_notMem_keys Device.id hkey).2] at hrow
    cases hrow

/-- the row that `UPDATE` changes is the only one with its id -/
theorem updateRow_eq {row : Device ν} (h : Lib.UpToDate Device.id initial changes table)
    (hmem : row ∈ table) (state : Json ν) (now : Nat) :
    updateRow row.id state now table =
      (Change.update { row with state, updatedAt := now }).apply Device.id table := by
  refine List.map_congr_left fun row' hrow' => ?_
  show (if row'.id = row.id then _ else _) = (if row'.id = row.id then _ else _)
  split
  · rename_i hid
    have hsame := rows_singleton h hmem
    rw [← hid, rows_singleton h hrow'] at hsame
    rw [(List.cons.inj hsame).1]
  · rfl

theorem upToDate_none (h : Lib.UpToDate Device.id initial changes table)
    (hnone : request.change? response = none) :
    Lib.UpToDate Device.id initial (changes ++ (request.change? response).toList) table ∧
      ∀ c ∈ request.change? response, Admissible Device.id initial changes c := by
  rw [hnone, Option.toList_none, List.append_nil]
  exact ⟨h, fun c hc => by cases hc⟩

theorem upToDate_some {c : DeviceChange ν} (h : Lib.UpToDate Device.id initial changes table)
    (hc : request.change? response = some c) (hadm : Admissible Device.id initial changes c)
    (hrows : ∀ k, rows Device.id k table' = rows Device.id k (c.apply Device.id table)) :
    Lib.UpToDate Device.id initial (changes ++ (request.change? response).toList) table' ∧
      ∀ c ∈ request.change? response, Admissible Device.id initial changes c := by
  rw [hc]
  refine ⟨fun k => (hrows k).trans (h.apply Device.id hadm k), fun c' hc' => ?_⟩
  cases hc'
  exact hadm

/-- the new row is at the end, and is the only one with its id -/
theorem rows_insert {row : Device ν} (h : Lib.UpToDate Device.id initial changes table)
    (hnew : row.id ∉ keys Device.id initial changes) (k : Nat) :
    rows Device.id k (table ++ [row]) =
      rows Device.id k ((Change.create row).apply Device.id table) := by
  show _ = rows Device.id k (row :: table)
  rw [rows_append, rows_cons, rows_cons]
  by_cases hk : row.id = k
  · have hnone : rows Device.id k table = [] := by
      rw [h k, ← hk, (latest_of_notMem_keys Device.id hnew).2]
      rfl
    rw [if_pos hk, if_pos hk, hnone]
    rfl
  · rw [if_neg hk, if_neg hk]
    exact List.append_nil _

/-- **What a request does to the table is the change its response tells of**, if any. -/
theorem upToDate_apply (h : Lib.UpToDate Device.id initial changes table)
    (hnew : env.newV4 ∉ keys Device.id initial changes)
    (happly : request.apply env table = (table', response)) :
    Lib.UpToDate Device.id initial (changes ++ (request.change? response).toList) table' ∧
      ∀ c ∈ request.change? response, Admissible Device.id initial changes c := by
  unfold ApiRequest.apply at happly
  by_cases hfails : env.fails = true
  · rw [if_pos hfails] at happly
    cases happly
    exact upToDate_none h (by cases request <;> rfl)
  · rw [if_neg hfails] at happly
    cases request with
    | getDevices =>
      cases happly
      exact upToDate_none h rfl
    | getDevice id =>
      cases happly
      exact upToDate_none h (by cases selectById id table <;> rfl)
    | createDevice name deviceType =>
      dsimp only at happly
      unfold insertRow at happly
      split at happly
      · cases happly
        exact upToDate_none h rfl
      · cases happly
        exact upToDate_some h rfl hnew (rows_insert h hnew)
    | updateDeviceState id state =>
      dsimp only at happly
      cases hrow : selectById id table with
      | none =>
        rw [hrow] at happly
        cases happly
        exact upToDate_none h rfl
      | some row =>
        rw [hrow] at happly
        cases happly
        obtain ⟨hmem, rfl⟩ := selectById_eq_some hrow
        have hknown : row.id ∈ keys Device.id initial changes := mem_keys_of_mem h hmem
        refine upToDate_some h rfl hknown fun k => ?_
        rw [updateRow_eq h hmem]
    | deleteDevice id =>
      dsimp only at happly
      split at happly
      · cases happly
        exact upToDate_some h rfl trivial fun k => rfl
      · cases happly
        exact upToDate_none h rfl

end

/-! ## the portal with its server -/

/-- the response that a task sends -/
def Stage.sent? : Stage ν → Option (ApiResponse ν)
  | done response => some response
  | received | registering _ | writing _ | unregistering _ _ | deleting _ _ => none

structure Site (ν : Type) where
  portal : Portal ν
  server : Server ν
  /-- the task of each handler that waits -/
  tasks : List Nat

inductive SiteEvent (ν : Type) where
  | starts (request : Request ν)
  /-- the `i`-th task goes on -/
  | proceed (i : Nat) (env : Env ν)
  /-- the response for the `k`-th of the handlers that wait -/
  | arrives (k : Nat)
  | setNewDevice (newDevice : NewDevice)
  | setShowAddDevice (b : Bool)
  | dismiss

namespace Site

/-- the list has been fetched -/
def start (fetched : Fetched ν) (table : List (Device ν)) : Site ν :=
  ⟨Portal.start fetched, Server.start table, []⟩

/-- the response for the `k`-th handler, once it is sent -/
def response? (s : Site ν) (k : Nat) : Option (ApiResponse ν) :=
  s.tasks[k]?.bind fun task => s.server.jobs[task]?.bind fun job => job.stage.sent?

def arrival? (s : Site ν) (k : Nat) : Option (PortalEvent ν) :=
  s.portal.outstanding[k]?.bind fun handler => (s.response? k).bind (handler.request.arrival k)

/-- No other client is there and Edge Core writes nothing.  The id of a new device was never used
(`Uuid::new_v4`). -/
def step (fetched : Fetched ν) (s : Site ν) : SiteEvent ν → Option (Site ν)
  | .starts request =>
    (Portal.step fetched s.portal (.starts request)).bind fun portal =>
      (s.server.step (.receive request.api)).map fun server =>
        ⟨portal, server, s.tasks ++ [s.server.jobs.length]⟩
  | .proceed i env =>
    if env.newV4 ∈ keys Device.id fetched.devices s.server.changes then none
    else (s.server.step (.proceed i env)).map fun server => { s with server }
  | .arrives k =>
    (s.arrival? k).bind fun e => (Portal.step fetched s.portal e).map fun portal =>
      { s with portal, tasks := s.tasks.eraseIdx k }
  | .setNewDevice newDevice =>
    (Portal.step fetched s.portal (.setNewDevice newDevice)).map fun portal => { s with portal }
  | .setShowAddDevice b =>
    (Portal.step fetched s.portal (.setShowAddDevice b)).map fun portal => { s with portal }
  | .dismiss => (Portal.step fetched s.portal .dismiss).map fun portal => { s with portal }

/-- the changes whose responses have not arrived -/
def inFlight (s : Site ν) : List (DeviceChange ν) := Lib.inFlight s.server.logged s.tasks

/-- no change of the same device, with its response still on the way, was made before -/
def InTurn (s : Site ν) : SiteEvent ν → Prop
  | .arrives k =>
    ∀ task ∈ s.tasks[k]?, Lib.InTurn (Change.target Device.id) s.server.logged s.tasks task
  | _ => True

/-- the list that the handler sets anew may stand in for the one that is there -/
def Current (s : Site ν) : SiteEvent ν → Prop
  | .arrives k => ∀ e ∈ s.arrival? k, s.portal.Current e
  | _ => True

/-! ## what a response does to the portal -/

section
variable {fetched : Fetched ν} {p p' : Portal ν} {handler : Handler ν} {k : Nat}
  {response : ApiResponse ν} {e : PortalEvent ν}

theorem portal_of_arrival (hhandler : p.outstanding[k]? = some handler)
    (harrival : handler.request.arrival k response = some e)
    (h : Portal.step fetched p e = some p') :
    p'.outstanding = p.outstanding.eraseIdx k ∧
      p'.changes = p.changes ++ (handler.request.api.change? response).toList := by
  obtain ⟨request, devices⟩ := handler
  cases request with
  | update deviceId newState =>
    cases response with
    | device data =>
      cases harrival
      obtain ⟨_, _, _, -, -, rfl⟩ := Portal.updated_cases h
      exact ⟨rfl, rfl⟩
    | notFound | internalServerError =>
      cases harrival
      obtain ⟨_, _, _, -, -, rfl⟩ := Portal.updated_cases h
      exact ⟨rfl, rfl⟩
    | devices data | deleted => cases harrival
  | create newDevice =>
    cases response with
    | device data =>
      cases harrival
      obtain ⟨_, _, -, -, rfl⟩ := Portal.created_cases h
      exact ⟨rfl, rfl⟩
    | notFound | internalServerError =>
      cases harrival
      obtain ⟨_, _, -, -, rfl⟩ := Portal.created_cases h
      exact ⟨rfl, rfl⟩
    | devices data | deleted => cases harrival
  | delete deviceId =>
    cases response with
    | deleted =>
      cases harrival
      obtain ⟨deviceId', devices', hhandler', rfl⟩ := Portal.deleted_cases h
      obtain ⟨rfl, rfl⟩ := Request.delete.inj (Handler.mk.inj
        (Option.some.inj (hhandler.symm.trans hhandler'))).1
      exact ⟨rfl, rfl⟩
    | notFound | internalServerError =>
      cases harrival
      obtain ⟨_, _, -, rfl⟩ := Portal.deleted_cases h
      exact ⟨rfl, rfl⟩
    | devices data | device data => cases harrival

/-- a response for the device that the request names, or with a new one, is taken -/
theorem accepted_of_arrival (hhandler : p.outstanding[k]? = some handler)
    (harrival : handler.request.arrival k response = some e)
    (hnamed : ∀ c ∈ handler.request.api.change? response, ∀ id ∈ handler.request.deviceId?,
      c.target Device.id = id)
    (hcreated : ∀ row, handler.request.api.change? response = some (.create row) →
      row.id ∉ keys Device.id fetched.devices p.changes) :
    ∃ p', Portal.step fetched p e = some p' := by
  obtain ⟨request, devices⟩ := handler
  cases request with
  | update deviceId newState =>
    cases response with
    | device data =>
      cases harrival
      simp only [Portal.step, hhandler]
      rw [if_pos]
      · exact ⟨_, rfl⟩
      · intro data' hdata
        cases hdata
        exact hnamed (.update data) rfl deviceId rfl
    | notFound | internalServerError =>
      cases harrival
      simp only [Portal.step, hhandler]
      rw [if_pos]
      · exact ⟨_, rfl⟩
      · intro data' hdata
        cases hdata
    | devices data | deleted => cases harrival
  | create newDevice =>
    cases response with
    | device data =>
      cases harrival
      simp only [Portal.step, hhandler]
      rw [if_pos]
      · exact ⟨_, rfl⟩
      · intro data' hdata
        cases hdata
        exact hcreated data rfl
    | notFound | internalServerError =>
      cases harrival
      simp only [Portal.step, hhandler]
      rw [if_pos]
      · exact ⟨_, rfl⟩
      · intro data' hdata
        cases hdata
    | devices data | deleted => cases harrival
  | delete deviceId =>
    cases response with
    | deleted | notFound | internalServerError =>
      cases harrival
      simp only [Portal.step, hhandler]
      exact ⟨_, rfl⟩
    | devices data | device data => cases harrival

end

/-- a request of the portal gets a response that its handler reads, for the device it names -/
theorem response_of_apply {request : Request ν} {env : Env ν} {table table' : List (Device ν)}
    {response : ApiResponse ν} (h : request.api.apply env table = (table', response)) (k : Nat) :
    (∃ e, request.arrival k response = some e) ∧
      ∀ c ∈ request.api.change? response, ∀ id ∈ request.deviceId?, c.target Device.id = id := by
  unfold ApiRequest.apply at h
  by_cases hfails : env.fails = true
  · rw [if_pos hfails] at h
    cases h
    refine ⟨?_, fun c hc => ?_⟩
    · cases request <;> exact ⟨_, rfl⟩
    · cases request <;> cases hc
  · rw [if_neg hfails] at h
    cases request with
    | create newDevice =>
      refine ⟨?_, fun c hc id hid => by cases hid⟩
      dsimp only [Request.api] at h
      cases hrow : insertRow (newRow env newDevice.name newDevice.deviceType) table with
      | none =>
        rw [hrow] at h
        cases h
        exact ⟨_, rfl⟩
      | some table' =>
        rw [hrow] at h
        cases h
        exact ⟨_, rfl⟩
    | update deviceId newState =>
      dsimp only [Request.api] at h
      cases hrow : selectById deviceId table with
      | none =>
        rw [hrow] at h
        cases h
        exact ⟨⟨_, rfl⟩, fun c hc => by cases hc⟩
      | some row =>
        rw [hrow] at h
        cases h
        refine ⟨⟨_, rfl⟩, fun c hc id hid => ?_⟩
        cases hc
        cases hid
        exact (selectById_eq_some hrow).2
    | delete deviceId =>
      dsimp only [Request.api] at h
      split at h
      · cases h
        refine ⟨⟨_, rfl⟩, fun c hc id hid => ?_⟩
        cases hc
        cases hid
        rfl
      · cases h
        exact ⟨⟨_, rfl⟩, fun c hc => by cases hc⟩

/-! ## the server's log -/

theorem apply_of_mem {table₀ table : List (Device ν)} {log : List (Entry ν)}
    (h : Replay table₀ log table) {i : Nat} {env : Env ν} {request : ApiRequest ν}
    {response : ApiResponse ν} (hmem : .request i env request response ∈ log) :
    ∃ before after, request.apply env before = (after, response) := by
  induction h with
  | nil => cases hmem
  | snoc _ hleads ih =>
    rcases List.mem_append.mp hmem with hmem | hmem
    · exact ih hmem
    · cases List.mem_singleton.mp hmem
      cases hleads with
      | request happly => exact ⟨_, _, happly⟩

theorem entry_of_mem {s : Server ν} {i : Nat} {c : DeviceChange ν} (h : (i, c) ∈ s.logged) :
    ∃ env request response, .request i env request response ∈ s.log ∧
      request.change? response = some c := by
  obtain ⟨entry, hentry, hchange⟩ := List.mem_filterMap.mp h
  cases entry with
  | write now event => cases hchange
  | request job env request response =>
    obtain ⟨c', hc', heq⟩ := Option.map_eq_some_iff.mp hchange
    cases heq
    exact ⟨env, request, response, hentry, hc'⟩

theorem logged_sublist (log : List (Entry ν)) :
    ((log.filterMap Entry.change?).map Prod.fst).Sublist (log.filterMap Entry.job?) := by
  induction log with
  | nil => exact .slnil
  | cons entry log ih =>
    cases entry with
    | write now event => exact ih
    | request job env request response =>
      rw [List.filterMap_cons, List.filterMap_cons]
      show List.Sublist _ (job :: _)
      cases hc : request.change? response with
      | none =>
        rw [show (Entry.request job env request response).change? = none from
          congrArg (Option.map _) hc]
        exact ih.cons job
      | some c =>
        rw [show (Entry.request job env request response).change? = some (job, c) from
          congrArg (Option.map _) hc]
        exact ih.cons_cons job

/-- what a task that is settled adds to the changes -/
theorem logged_settles {s s' : Server ν} {i : Nat} {env : Env ν} {request : ApiRequest ν}
    {response : ApiResponse ν} (h : s'.log = s.log ++ [.request i env request response]) :
    s'.logged = s.logged ++ ((request.change? response).map fun c => (i, c)).toList := by
  unfold Server.logged
  rw [h, List.filterMap_append]
  congr 1

/-! ## what holds in every state -/

variable {fetched : Fetched ν} {table₀ : List (Device ν)} {s s' : Site ν} {e : SiteEvent ν}

/-- the table is what its changes say, each handler has a task of its own, and of every device the
changes that the portal has heard of are followed by those on the way -/
structure Sound (fetched : Fetched ν) (table₀ : List (Device ν)) (s : Site ν) : Prop where
  fits : s.server.Fits
  linear : s.server.Linearized table₀
  table : Lib.UpToDate Device.id fetched.devices s.server.changes s.server.table
  justified : Justified Device.id fetched.devices s.server.changes
  nodup : s.tasks.Nodup
  length : s.tasks.length = s.portal.outstanding.length
  asked : ∀ (k task : Nat) (handler : Handler ν), s.tasks[k]? = some task →
    s.portal.outstanding[k]? = some handler →
      ∃ stage, s.server.jobs[task]? = some ⟨handler.request.api, stage⟩
  settled : ∀ (i : Nat) (job : Job ν), s.server.jobs[i]? = some job →
    i ∈ s.tasks ∨ job.stage.response?.isSome
  order : InOrder (Change.target Device.id) s.server.logged s.tasks s.portal.changes
  known : s.portal.Known fetched

/-- the handler of a task -/
theorem Sound.handler (h : s.Sound fetched table₀) {k task : Nat} (htask : s.tasks[k]? = some task) :
    ∃ handler stage, s.portal.outstanding[k]? = some handler ∧
      s.server.jobs[task]? = some ⟨handler.request.api, stage⟩ := by
  have hlt : k < s.portal.outstanding.length :=
    h.length ▸ (List.getElem?_eq_some_iff.mp htask).1
  obtain ⟨stage, hstage⟩ := h.asked k task _ htask (List.getElem?_eq_getElem hlt)
  exact ⟨_, stage, List.getElem?_eq_getElem hlt, hstage⟩

theorem Sound.lt (h : s.Sound fetched table₀) : ∀ task ∈ s.tasks, task < s.server.jobs.length := by
  intro task htask
  obtain ⟨k, hk⟩ := List.getElem?_of_mem htask
  obtain ⟨handler, stage, -, hstage⟩ := h.handler hk
  exact (List.getElem?_eq_some_iff.mp hstage).1

theorem Sound.logged_lt (h : s.Sound fetched table₀) :
    ∀ entry ∈ s.server.logged, entry.1 < s.server.jobs.length := by
  rintro ⟨i, c⟩ hentry
  obtain ⟨env, request, response, hmem, -⟩ := entry_of_mem hentry
  obtain ⟨stage, hstage, -⟩ := h.linear.logged i env request response hmem
  exact (List.getElem?_eq_some_iff.mp hstage).1

/-! ## the steps -/

theorem Sound.starts (h : s.Sound fetched table₀) {request : Request ν} {portal : Portal ν}
    {server : Server ν} (hportal : Portal.step fetched s.portal (.starts request) = some portal)
    (hserver : s.server.step (.receive request.api) = some server) :
    Sound fetched table₀ ⟨portal, server, s.tasks ++ [s.server.jobs.length]⟩ := by
  have hfits := h.fits.step hserver
  have hlinear := h.linear.step h.fits hserver
  have hknown := h.known.step hportal
  obtain ⟨-, heq⟩ := Option.ite_none_right_eq_some.mp hportal
  cases heq
  cases hserver
  refine ⟨hfits, hlinear, h.table, h.justified, ?_, ?_, ?_, ?_, ?_, hknown⟩
  · refine List.nodup_append.mpr ⟨h.nodup, List.pairwise_singleton _ _, fun a ha b hb => ?_⟩
    rw [List.mem_singleton.mp hb]
    exact Nat.ne_of_lt (h.lt a ha)
  · show (s.tasks ++ [_]).length = (s.portal.outstanding ++ [_]).length
    rw [List.length_append, List.length_append, h.length]
    rfl
  · intro k task handler htask hhandler
    dsimp only at htask hhandler ⊢
    rcases Nat.lt_or_ge k s.tasks.length with hlt | hge
    · rw [List.getElem?_append_left hlt] at htask
      rw [List.getElem?_append_left (h.length ▸ hlt)] at hhandler
      obtain ⟨stage, hstage⟩ := h.asked k task handler htask hhandler
      refine ⟨stage, ?_⟩
      rwa [List.getElem?_append_left (h.lt task (List.mem_of_getElem? htask))]
    · rw [List.getElem?_append_right hge] at htask
      rw [List.getElem?_append_right (h.length ▸ hge)] at hhandler
      obtain rfl := List.mem_singleton.mp (List.mem_of_getElem? htask)
      obtain rfl := List.mem_singleton.mp (List.mem_of_getElem? hhandler)
      exact ⟨.received, List.getElem?_concat_length⟩
  · intro i job hjob
    dsimp only at hjob ⊢
    rcases Nat.lt_or_ge i s.server.jobs.length with hlt | hge
    · rw [List.getElem?_append_left hlt] at hjob
      exact (h.settled i job hjob).imp_left fun hi => List.mem_append_left _ hi
    · have hlast := (List.getElem?_eq_some_iff.mp hjob).1
      rw [List.length_append, List.length_singleton] at hlast
      obtain rfl : i = s.server.jobs.length := by omega
      exact .inl (List.mem_append_right _ (List.mem_singleton_self _))
  · refine h.order.settle fun entry hentry => ?_
    show _ ↔ entry.1 ∈ s.tasks ++ [_]
    rw [List.mem_append, List.mem_singleton]
    exact (or_iff_left (Nat.ne_of_lt (h.logged_lt entry hentry))).symm

theorem asked_set {jobs : List (Job ν)} {i task : Nat} {r request : ApiRequest ν}
    {stage stage' : Stage ν} (hjob : jobs[i]? = some ⟨r, stage⟩)
    (h : ∃ stage, jobs[task]? = some ⟨request, stage⟩) :
    ∃ stage, (jobs.set i ⟨r, stage'⟩)[task]? = some ⟨request, stage⟩ := by
  obtain ⟨before, hbefore⟩ := h
  by_cases hi : i = task
  · subst hi
    obtain ⟨rfl, rfl⟩ := Job.mk.inj (Option.some.inj (hbefore.symm.trans hjob))
    exact ⟨stage', Server.getElem?_set_eq hjob⟩
  · refine ⟨before, ?_⟩
    rwa [List.getElem?_set, if_neg hi]

theorem Sound.proceed (h : s.Sound fetched table₀) {i : Nat} {env : Env ν} {server : Server ν}
    (hnew : env.newV4 ∉ keys Device.id fetched.devices s.server.changes)
    (hserver : s.server.step (.proceed i env) = some server) :
    Sound fetched table₀ { s with server } := by
  have hfits := h.fits.step hserver
  have hlinear := h.linear.step h.fits hserver
  cases Server.effect_of_step h.fits hserver with
  | moves i request stage stage' hjob hjobs hresponse _ htable hlog =>
    have hlogged : server.logged = s.server.logged := congrArg (List.filterMap Entry.change?) hlog
    have hchanges : server.changes = s.server.changes := congrArg (List.map Prod.snd) hlogged
    refine ⟨hfits, hlinear, ?_, ?_, h.nodup, h.length, ?_, ?_, ?_, h.known⟩
    · show Lib.UpToDate _ _ server.changes server.table
      rw [hchanges, htable]
      exact h.table
    · show Justified _ _ server.changes
      rw [hchanges]
      exact h.justified
    · intro k task handler htask hhandler
      show ∃ stage, server.jobs[task]? = _
      rw [hjobs]
      exact asked_set hjob (h.asked k task handler htask hhandler)
    · intro j job hj
      dsimp only at hj
      rw [hjobs] at hj
      rcases Server.getElem?_set_cases hj with ⟨rfl, rfl⟩ | ⟨-, hj⟩
      · show _ ∨ stage'.response?.isSome = true
        rw [hresponse]
        exact h.settled i ⟨request, stage⟩ hjob
      · exact h.settled j job hj
    · show InOrder _ server.logged _ _
      rw [hlogged]
      exact h.order
  | settles i env request stage stage' response hjob hjobs hbefore hafter _ happly hlog =>
    have hlogged := logged_settles hlog
    have hchanges : server.changes = s.server.changes ++ (request.change? response).toList := by
      unfold Server.changes
      rw [hlogged, List.map_append]
      congr 1
      cases request.change? response <;> rfl
    obtain ⟨htable, hadm⟩ := upToDate_apply h.table hnew happly
    have hi : i ∈ s.tasks := by
      refine (h.settled i _ hjob).resolve_right ?_
      show ¬stage.response?.isSome = true
      rw [hbefore]
      exact Bool.false_ne_true
    refine ⟨hfits, hlinear, ?_, ?_, h.nodup, h.length, ?_, ?_, ?_, h.known⟩
    · show Lib.UpToDate _ _ server.changes server.table
      rw [hchanges]
      exact htable
    · show Justified _ _ server.changes
      rw [hchanges]
      cases hc : request.change? response with
      | none =>
        rw [Option.toList_none, List.append_nil]
        exact h.justified
      | some c => exact h.justified.concat Device.id (hadm c hc)
    · intro k task handler htask hhandler
      show ∃ stage, server.jobs[task]? = _
      rw [hjobs]
      exact asked_set hjob (h.asked k task handler htask hhandler)
    · intro j job hj
      dsimp only at hj
      rw [hjobs] at hj
      rcases Server.getElem?_set_cases hj with ⟨rfl, rfl⟩ | ⟨-, hj⟩
      · right
        show stage'.response?.isSome = true
        rw [hafter]
        rfl
      · exact h.settled j job hj
    · show InOrder _ server.logged _ _
      rw [hlogged]
      cases request.change? response with
      | none =>
        rw [Option.map_none, Option.toList_none, List.append_nil]
        exact h.order
      | some c => exact h.order.append hi c

/-- a task whose response is there, its handler, and what is in the log -/
theorem Sound.answered (h : s.Sound fetched table₀) {k task : Nat} {job : Job ν}
    {response : ApiResponse ν} (htask : s.tasks[k]? = some task)
    (hjob : s.server.jobs[task]? = some job) (hsent : job.stage.sent? = some response) :
    ∃ handler env before after, s.portal.outstanding[k]? = some handler ∧
      handler.request.api.apply env before = (after, response) ∧
        .request task env handler.request.api response ∈ s.server.log := by
  obtain ⟨handler, stage, hhandler, hstage⟩ := h.handler htask
  obtain rfl := Option.some.inj (hjob.symm.trans hstage)
  have hresponse : stage.response? = some response := by
    cases stage <;> first | exact hsent | cases hsent
  obtain ⟨env, hmem⟩ := h.linear.settled task _ response hstage hresponse
  obtain ⟨before, after, happly⟩ := apply_of_mem h.linear.replay hmem
  exact ⟨handler, env, before, after, hhandler, happly, hmem⟩

theorem response_cases {k : Nat} {response : ApiResponse ν} (h : s.response? k = some response) :
    ∃ task job, s.tasks[k]? = some task ∧ s.server.jobs[task]? = some job ∧
      job.stage.sent? = some response := by
  obtain ⟨task, htask, h⟩ := Option.bind_eq_some_iff.mp h
  obtain ⟨job, hjob, hsent⟩ := Option.bind_eq_some_iff.mp h
  exact ⟨task, job, htask, hjob, hsent⟩

theorem Sound.logged_nodup (h : s.Sound fetched table₀) : (s.server.logged.map Prod.fst).Nodup :=
  h.linear.once.sublist (logged_sublist s.server.log)

/-- what is in the log for a task whose response is there -/
theorem Sound.change_of_logged (h : s.Sound fetched table₀) {task : Nat} {env : Env ν}
    {request : ApiRequest ν} {response : ApiResponse ν} {c : DeviceChange ν}
    (hmem : .request task env request response ∈ s.server.log) (hc : (task, c) ∈ s.server.logged) :
    request.change? response = some c := by
  obtain ⟨env', request', response', hmem', hchange⟩ := entry_of_mem hc
  obtain ⟨stage, hstage, hresponse⟩ := h.linear.logged task env request response hmem
  obtain ⟨stage', hstage', hresponse'⟩ := h.linear.logged task env' request' response' hmem'
  obtain ⟨rfl, rfl⟩ := Job.mk.inj (Option.some.inj (hstage.symm.trans hstage'))
  obtain rfl := Option.some.inj (hresponse.symm.trans hresponse')
  exact hchange

theorem mem_eraseIdx_iff {α : Type} {l : List α} (hnodup : l.Nodup) {k : Nat} {a : α}
    (h : l[k]? = some a) (b : α) : b ∈ l.eraseIdx k ↔ b ∈ l ∧ b ≠ a := by
  rw [List.mem_eraseIdx_iff_getElem?]
  constructor
  · rintro ⟨j, hjk, hj⟩
    refine ⟨List.mem_of_getElem? hj, ?_⟩
    rintro rfl
    have hlt := (List.getElem?_eq_some_iff.mp hj).1
    exact hjk ((List.getElem?_inj hlt hnodup).mp (hj.trans h.symm))
  · rintro ⟨hmem, hne⟩
    obtain ⟨j, hj⟩ := List.getElem?_of_mem hmem
    refine ⟨j, ?_, hj⟩
    rintro rfl
    exact hne (Option.some.inj (hj.symm.trans h))

theorem Sound.arrives (h : s.Sound fetched table₀) {k : Nat} {event : PortalEvent ν}
    {portal : Portal ν} (hturn : s.InTurn (.arrives k)) (harrival : s.arrival? k = some event)
    (hportal : Portal.step fetched s.portal event = some portal) :
    Sound fetched table₀ { s with portal, tasks := s.tasks.eraseIdx k } := by
  have hknown := h.known.step hportal
  obtain ⟨handler, hhandler, harrival⟩ := Option.bind_eq_some_iff.mp harrival
  obtain ⟨response, hresponse, harrival⟩ := Option.bind_eq_some_iff.mp harrival
  obtain ⟨task, job, htask, hjob, hsent⟩ := response_cases hresponse
  obtain ⟨handler', env, _, _, hhandler', -, hmem⟩ := h.answered htask hjob hsent
  obtain rfl := Option.some.inj (hhandler.symm.trans hhandler')
  obtain ⟨houtstanding, hchanges⟩ := portal_of_arrival hhandler harrival hportal
  have htasks := mem_eraseIdx_iff h.nodup htask
  have hlt := (List.getElem?_eq_some_iff.mp htask).1
  refine ⟨h.fits, h.linear, h.table, h.justified, ?_, ?_, ?_, ?_, ?_, hknown⟩
  · exact h.nodup.sublist (List.eraseIdx_sublist _ _)
  · show (s.tasks.eraseIdx k).length = portal.outstanding.length
    rw [houtstanding, List.length_eraseIdx_of_lt hlt,
      List.length_eraseIdx_of_lt (h.length ▸ hlt), h.length]
  · intro j task' handler' htask' hhandler'
    dsimp only at htask' hhandler'
    rw [houtstanding] at hhandler'
    rw [List.getElem?_eraseIdx] at htask' hhandler'
    by_cases hj : j < k
    · rw [if_pos hj] at htask' hhandler'
      exact h.asked j task' handler' htask' hhandler'
    · rw [if_neg hj] at htask' hhandler'
      exact h.asked (j + 1) task' handler' htask' hhandler'
  · intro i job' hjob'
    by_cases hi : i = task
    · right
      rw [hi] at hjob'
      obtain rfl := Option.some.inj (hjob.symm.trans hjob')
      cases hstage : job.stage with
      | done response => rfl
      | _ =>
        rw [hstage] at hsent
        cases hsent
    · exact (h.settled i job' hjob').imp_left fun hmem' => (htasks i).mpr ⟨hmem', hi⟩
  · show InOrder _ _ (s.tasks.eraseIdx k) portal.changes
    rw [hchanges]
    cases hc : handler.request.api.change? response with
    | none =>
      rw [Option.toList_none, List.append_nil]
      refine h.order.settle fun entry hentry => ?_
      rw [htasks, and_iff_left]
      rintro rfl
      exact Option.some_ne_none _ ((h.change_of_logged hmem hentry).symm.trans hc)
    | some c =>
      have hlogged : (task, c) ∈ s.server.logged :=
        List.mem_filterMap.mpr ⟨_, hmem, congrArg (Option.map _) hc⟩
      exact h.order.deliver h.logged_nodup hlogged (List.mem_of_getElem? htask)
        (hturn task htask) htasks

/-- the id of a new device, whose response comes in its turn, is new to the portal -/
theorem Sound.created_new (h : s.Sound fetched table₀) {task : Nat} {row : Device ν}
    (htask : task ∈ s.tasks) (hlogged : (task, .create row) ∈ s.server.logged) :
    row.id ∉ keys Device.id fetched.devices s.portal.changes := by
  obtain ⟨a, b, hab⟩ := List.append_of_mem hlogged
  have hsplit : s.server.changes = a.map Prod.snd ++ .create row :: b.map Prod.snd := by
    unfold Server.changes
    rw [hab, List.map_append]
    rfl
  have hnew := h.justified _ _ _ hsplit
  have honce := (hsplit ▸ h.justified).create_notMem
  -- no change before was one of its id
  have hbefore : rows (Change.target Device.id) row.id (a.map Prod.snd) = [] := by
    refine List.eq_nil_iff_forall_not_mem.mpr fun c hc => hnew ?_
    obtain ⟨hmem, htarget⟩ := (mem_rows _).mp hc
    exact List.mem_append_right _ (List.mem_map.mpr ⟨c, hmem, htarget⟩)
  have horder := h.order row.id
  have hrows : rows (Change.target Device.id) row.id (s.server.logged.map Prod.snd) =
      .create row :: rows (Change.target Device.id) row.id (b.map Prod.snd) := by
    rw [show s.server.logged.map Prod.snd = _ from hsplit, rows_append, hbefore, rows_cons,
      if_pos (show (Change.create row).target Device.id = row.id from rfl)]
    rfl
  have hflight : .create row ∈ rows (Change.target Device.id) row.id
      (Lib.inFlight s.server.logged s.tasks) :=
    (mem_rows _).mpr ⟨mem_inFlight.mpr ⟨task, htask, hlogged⟩, rfl⟩
  rw [hrows] at horder
  -- so none of it has been delivered
  have hdelivered : rows (Change.target Device.id) row.id s.portal.changes = [] := by
    cases hd : rows (Change.target Device.id) row.id s.portal.changes with
    | nil => rfl
    | cons c cs =>
      rw [hd, List.cons_append] at horder
      have hlater := List.mem_append_right cs hflight
      rw [(List.cons.inj horder).2] at hlater
      exact absurd ((mem_rows _).mp hlater).1 honce
  intro hkey
  rcases List.mem_append.mp hkey with hfetched | hchanged
  · exact hnew (List.mem_append_left _ hfetched)
  · obtain ⟨c, hc, htarget⟩ := List.mem_map.mp hchanged
    have hrow := (mem_rows _).mpr ⟨hc, htarget⟩
    rw [hdelivered] at hrow
    cases hrow

theorem Sound.start {table : List (Device ν)} (h : fetched.devices = selectAll table) :
    (Site.start fetched table).Sound fetched table := by
  refine ⟨Server.fits_start table, Server.linearized_start table, fun k => ?_, .nil Device.id,
    List.nodup_nil, rfl, ?_, ?_, .start _, Portal.Known.start fetched⟩
  · have hperm : (rows Device.id k table).Perm (rows Device.id k fetched.devices) := by
      rw [h]
      exact (List.mergeSort_perm table _).symm.filter _
    have huptodate := UpToDate.nil Device.id fetched.nodup k
    rw [huptodate] at hperm
    show rows Device.id k table = _
    cases hlatest : latest Device.id fetched.devices ([] : List (DeviceChange ν)) k with
    | none =>
      rw [hlatest] at hperm
      exact (List.perm_nil.mp hperm).trans (congrArg Option.toList hlatest).symm
    | some row =>
      rw [hlatest] at hperm
      exact (List.perm_singleton.mp hperm).trans (congrArg Option.toList hlatest).symm
  · intro k task handler htask
    cases htask
  · intro i job hjob
    cases hjob

theorem Sound.form (h : s.Sound fetched table₀) (portal : Portal ν) (hknown : portal.Known fetched)
    (houtstanding : portal.outstanding = s.portal.outstanding)
    (hchanges : portal.changes = s.portal.changes) :
    Sound fetched table₀ { s with portal } := by
  refine ⟨h.fits, h.linear, h.table, h.justified, h.nodup, ?_, ?_, h.settled, ?_, hknown⟩
  · show s.tasks.length = portal.outstanding.length
    rw [houtstanding]
    exact h.length
  · intro k task handler htask hhandler
    dsimp only at hhandler
    rw [houtstanding] at hhandler
    exact h.asked k task handler htask hhandler
  · show InOrder _ _ _ portal.changes
    rw [hchanges]
    exact h.order

theorem Sound.step (h : s.Sound fetched table₀) (hturn : s.InTurn e)
    (hstep : step fetched s e = some s') : s'.Sound fetched table₀ := by
  cases e with
  | starts request =>
    obtain ⟨portal, hportal, hstep⟩ := Option.bind_eq_some_iff.mp hstep
    obtain ⟨server, hserver, rfl⟩ := Option.map_eq_some_iff.mp hstep
    exact h.starts hportal hserver
  | proceed i env =>
    obtain ⟨hnew, hstep⟩ := Option.ite_none_left_eq_some.mp hstep
    obtain ⟨server, hserver, rfl⟩ := Option.map_eq_some_iff.mp hstep
    exact h.proceed hnew hserver
  | arrives k =>
    obtain ⟨event, harrival, hstep⟩ := Option.bind_eq_some_iff.mp hstep
    obtain ⟨portal, hportal, rfl⟩ := Option.map_eq_some_iff.mp hstep
    exact h.arrives hturn harrival hportal
  | setNewDevice newDevice =>
    cases hstep
    exact h.form _ (h.known.step (e := .setNewDevice newDevice) rfl) rfl rfl
  | setShowAddDevice b =>
    cases hstep
    exact h.form _ (h.known.step (e := .setShowAddDevice b) rfl) rfl rfl
  | dismiss =>
    cases hstep
    exact h.form _ (h.known.step (e := .dismiss) rfl) rfl rfl

/-- the list of the portal agrees with the responses -/
theorem upToDate_step (h : s.Sound fetched table₀) (hlist : s.portal.UpToDate fetched)
    (hcurrent : s.Current e) (hstep : step fetched s e = some s') :
    s'.portal.UpToDate fetched := by
  cases e with
  | starts request =>
    obtain ⟨portal, hportal, hstep⟩ := Option.bind_eq_some_iff.mp hstep
    obtain ⟨server, hserver, rfl⟩ := Option.map_eq_some_iff.mp hstep
    exact (Portal.upToDate_step h.known hlist hportal).mpr fun c l hbrings => by cases hbrings
  | proceed i env =>
    obtain ⟨-, hstep⟩ := Option.ite_none_left_eq_some.mp hstep
    obtain ⟨server, -, rfl⟩ := Option.map_eq_some_iff.mp hstep
    exact hlist
  | arrives k =>
    obtain ⟨event, harrival, hstep⟩ := Option.bind_eq_some_iff.mp hstep
    obtain ⟨portal, hportal, rfl⟩ := Option.map_eq_some_iff.mp hstep
    exact (Portal.upToDate_step h.known hlist hportal).mpr (hcurrent event harrival)
  | setNewDevice newDevice | setShowAddDevice b | dismiss =>
    cases hstep
    exact hlist

/-- no response is refused: it is one that the handler reads, for the device it has named or with one
that is new -/
theorem Sound.accepts (h : s.Sound fetched table₀) {k : Nat} {response : ApiResponse ν}
    (hresponse : s.response? k = some response) : ∃ s', Site.step fetched s (.arrives k) = some s' := by
  obtain ⟨task, job, htask, hjob, hsent⟩ := response_cases hresponse
  obtain ⟨handler, env, _, _, hhandler, happly, hmem⟩ := h.answered htask hjob hsent
  obtain ⟨⟨event, harrival⟩, hnamed⟩ := response_of_apply happly k
  have hcreated : ∀ row, handler.request.api.change? response = some (.create row) →
      row.id ∉ keys Device.id fetched.devices s.portal.changes := by
    intro row hrow
    exact h.created_new (List.mem_of_getElem? htask)
      (List.mem_filterMap.mpr ⟨_, hmem, congrArg (Option.map _) hrow⟩)
  obtain ⟨portal, hportal⟩ := accepted_of_arrival hhandler harrival hnamed hcreated
  refine ⟨{ s with portal, tasks := s.tasks.eraseIdx k }, ?_⟩
  have hevent : s.arrival? k = some event := by
    unfold arrival?
    rw [hhandler, Option.bind_some, hresponse, Option.bind_some, harrival]
  show (s.arrival? k).bind _ = _
  rw [hevent, Option.bind_some, hportal]
  rfl

/-- **The portal shows the devices of the table.**  In every run whose responses for one device arrive
in order, and none of whose handlers sets a list that has gone out of date: a device that no response
on the way is about is shown as it is in the table, or is in neither; with no handler waiting this is
so for all devices; and no response is refused. -/
theorem shown {es : List (SiteEvent ν)} (hfetched : fetched.devices = selectAll table₀)
    (h : Run (step fetched) (fun s e => s.InTurn e ∧ s.Current e) (Site.start fetched table₀) es s) :
    (∀ id, (∀ c ∈ s.inFlight, c.target Device.id ≠ id) →
        rows Device.id id s.portal.devices = rows Device.id id s.server.table) ∧
      (s.tasks = [] → s.portal.devices.Perm s.server.table) ∧
      ∀ k response, s.response? k = some response → ∃ s', step fetched s (.arrives k) = some s' := by
  obtain ⟨hsound, hlist⟩ : s.Sound fetched table₀ ∧ s.portal.UpToDate fetched := by
    induction h with
    | nil => exact ⟨.start hfetched, UpToDate.nil Device.id fetched.nodup⟩
    | snoc _ hok hstep ih =>
      exact ⟨ih.1.step hok.1 hstep, upToDate_step ih.1 ih.2 hok.2 hstep⟩
  have hshown : ∀ id, (∀ c ∈ s.inFlight, c.target Device.id ≠ id) →
      rows Device.id id s.portal.devices = rows Device.id id s.server.table := by
    intro id hid
    rw [hlist id, hsound.table id, latest_congr Device.id (hsound.order.arrived hid)]
    rfl
  refine ⟨hshown, fun hrest => perm_of_rows Device.id fun id => hshown id fun c hc => ?_,
    fun k response hresponse => hsound.accepts hresponse⟩
  unfold inFlight at hc
  rw [hrest, inFlight_nil] at hc
  cases hc

end Site

end

/-! ## responses that overtake each other -/

namespace Site

/-- what the statements take from outside at a time -/
def at' (now : Nat) : Env Unit := ⟨false, now, 9, fun _ => (), true⟩

/-- the first lamp is switched on while the other is deleted, which is done first -/
def switchAndDelete : List (SiteEvent Unit) :=
  [ .starts (.update 1 (.object [("on", .bool true)])), .starts (.delete 2), .proceed 1 (at' 5),
    .proceed 1 (at' 6), .proceed 1 (at' 7), .proceed 0 (at' 8), .proceed 0 (at' 8) ]

/-- no response arrives -/
def Waits : SiteEvent Unit → Bool
  | .arrives _ => false
  | _ => true

theorem shown_switchAndDelete :
    ∃ s, run (step Portal.lamps) (start Portal.lamps Portal.lamps.devices)
        (switchAndDelete ++ [.arrives 0] ++ [.arrives 0]) = some s ∧
      s.portal.devices.map (fun device => (device.id, device.updatedAt)) = [(1, 8)] ∧
        s.portal.devices.Perm s.server.table := by
  have hfetched : Portal.lamps.devices = selectAll Portal.lamps.devices := by
    refine (List.mergeSort_of_pairwise ?_).symm
    decide
  have hwaits : ∀ t, run (step Portal.lamps) (start Portal.lamps Portal.lamps.devices)
      switchAndDelete = some t → Run (step Portal.lamps) (fun s e => s.InTurn e ∧ s.Current e)
        (start Portal.lamps Portal.lamps.devices) switchAndDelete t := by
    intro t ht
    have hall : ∀ e ∈ switchAndDelete, Waits e = true := by decide
    refine (run_all_iff.mpr ⟨ht, hall⟩).mono fun s e he => ?_
    cases e with
    | arrives k => cases he
    | _ => exact ⟨trivial, trivial⟩
  -- the list that the first handler has closed over is still there
  have hfirst := (hwaits _ rfl).snoc (e := .arrives 0) (by
    refine ⟨by unfold InTurn; decide, ?_⟩
    unfold Current
    rintro e ⟨⟩ c l ⟨⟩
    exact StandsIn.refl Device.id _ _) rfl
  have hsecond := hfirst.snoc (e := .arrives 0) (by
    refine ⟨by unfold InTurn; decide, ?_⟩
    unfold Current
    rintro e ⟨⟩
    exact Portal.current_deleted _ _ _) rfl
  exact ⟨_, hsecond.to_run, rfl, (shown hfetched hsecond).2.1 rfl⟩

end Site

end EdgeTranslators.Kaas
