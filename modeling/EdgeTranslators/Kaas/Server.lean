import EdgeTranslators.Kaas.Connection
import EdgeTranslators.Lib.Run

/-!
# The server of the devices (`dummy-device-app/src/main.rs`)

Each request is handled by a task of its own, which goes through one or two statements on the table
and one request to Edge Core, with the statements of other tasks and the writes of Edge Core in
between.

* `ApiRequest`, `ApiResponse`     the requests of the portal, and what is sent back;
* `selectAll` … `deleteRow`       the statements;
* `Job`, `Server`, `Server.step`  a task and where it stands, the server, and its steps;
* `ApiRequest.apply`              what a request does when nothing comes in between;
* `Entry`, `replay`               a sequence of whole requests and writes, with their responses;
* `linearizable`                  every run is such a sequence, in an order that respects real time.
-/

namespace EdgeTranslators.Kaas
open Lib

/-! ## requests and responses -/

/-- `DeviceType::to_string` -/
def DeviceType.text : DeviceType → String
  | lightBulb => "LightBulb"
  | switch => "Switch"
  | temperatureSensor => "TemperatureSensor"
  | humiditySensor => "HumiditySensor"

/-- `DeviceType::from_string` -/
def DeviceType.fromString : String → Option DeviceType
  | "LightBulb" => some lightBulb
  | "Switch" => some switch
  | "TemperatureSensor" => some temperatureSensor
  | "HumiditySensor" => some humiditySensor
  | _ => none

theorem DeviceType.fromString_text (deviceType : DeviceType) :
    fromString deviceType.text = some deviceType := by
  cases deviceType <;> decide

inductive ApiRequest (ν : Type) where
  | getDevices
  | getDevice (id : Nat)
  | createDevice (name : String) (deviceType : DeviceType)
  | updateDeviceState (id : Nat) (state : Json ν)
  | deleteDevice (id : Nat)

/-- an `ApiResponse` with its data, or a status code -/
inductive ApiResponse (ν : Type) where
  | devices (data : List (Device ν))
  | device (data : Device ν)
  | deleted
  | notFound
  | internalServerError

/-- what a step of a task takes from outside: whether its statement fails, the time, a new id,
numbers of the source, and whether Edge Core grants the request -/
structure Env (ν : Type) where
  fails : Bool
  now : Nat
  newV4 : Nat
  number : String → ν
  granted : Bool

section
variable {ν : Type}

/-! ## the table -/

/-- a row, with the type that its text names -/
def readRow (row : Device ν) : Option (Device ν) :=
  (DeviceType.fromString row.deviceType.text).map fun deviceType => { row with deviceType }

theorem readRow_eq (row : Device ν) : readRow row = some row := by
  unfold readRow
  rw [DeviceType.fromString_text]
  rfl

/-- `SELECT … ORDER BY created_at DESC` -/
def selectAll (table : List (Device ν)) : List (Device ν) :=
  table.mergeSort fun a b => b.createdAt ≤ a.createdAt

/-- `SELECT … WHERE id = $1` -/
def selectById (id : Nat) (table : List (Device ν)) : Option (Device ν) :=
  table.find? fun row => row.id = id

theorem selectById_eq_some {id : Nat} {table : List (Device ν)} {row : Device ν}
    (h : selectById id table = some row) : row ∈ table ∧ row.id = id := by
  unfold selectById at h
  exact ⟨List.mem_of_find?_eq_some h, of_decide_eq_true (List.find?_some h :)⟩

theorem selectById_eq_none {id : Nat} {table : List (Device ν)}
    (h : selectById id table = none) : ∀ row ∈ table, row.id ≠ id := by
  intro row hrow heq
  exact List.find?_eq_none.mp h row hrow (decide_eq_true heq)

/-- `INSERT … RETURNING`, which fails for an id that is there -/
def insertRow (row : Device ν) (table : List (Device ν)) : Option (List (Device ν)) :=
  if (selectById row.id table).isSome then none else some (table ++ [row])

/-- `UPDATE … SET state = $1, updated_at = $2 WHERE id = $3` -/
def updateRow (id : Nat) (state : Json ν) (now : Nat) (table : List (Device ν)) :
    List (Device ν) :=
  table.map fun row => if row.id = id then { row with state, updatedAt := now } else row

/-- `DELETE FROM devices WHERE id = $1` -/
def deleteRow (id : Nat) (table : List (Device ν)) : List (Device ν) :=
  table.filter fun row => row.id ≠ id

/-- the state of a new device -/
def defaultState (number : String → ν) : DeviceType → Json ν
  | .lightBulb | .switch => .object [("on", .bool false)]
  | .temperatureSensor => .object [("temperature", .number (number "22.0"))]
  | .humiditySensor => .object [("humidity", .number (number "50.0"))]

/-- the row of a new device -/
def newRow (env : Env ν) (name : String) (deviceType : DeviceType) : Device ν :=
  { id := env.newV4, name, deviceType, state := defaultState env.number deviceType
    createdAt := env.now, updatedAt := env.now }

/-! ## the tasks -/

/-- where a task stands -/
inductive Stage (ν : Type) where
  /-- before its first statement -/
  | received
  /-- before the request to Edge Core, with the device of the response -/
  | registering (device : Device ν)
  | writing (device : Device ν)
  /-- before the request to Edge Core, and before the `DELETE` -/
  | unregistering (id : Nat) (device : Device ν)
  | deleting (id : Nat) (device : Device ν)
  | done (response : ApiResponse ν)

/-- the response of a task, once it is settled -/
def Stage.response? : Stage ν → Option (ApiResponse ν)
  | registering device | writing device => some (.device device)
  | done response => some response
  | received | unregistering _ _ | deleting _ _ => none

structure Job (ν : Type) where
  request : ApiRequest ν
  stage : Stage ν

/-- the device of a row, or an error if it cannot be read -/
def withRow (row : Device ν) (next : Device ν → Stage ν) : Stage ν :=
  match readRow row with
  | none => .done .internalServerError
  | some device => next device

/-- the first statement of a task -/
def firstStatement (env : Env ν) (table : List (Device ν)) :
    ApiRequest ν → List (Device ν) × Stage ν
  | .getDevices =>
    if env.fails then (table, .done .internalServerError)
    else (table, .done (.devices ((selectAll table).filterMap readRow)))
  | .getDevice id =>
    if env.fails then (table, .done .internalServerError)
    else
      match selectById id table with
      | none => (table, .done .notFound)
      | some row => (table, withRow row fun device => .done (.device device))
  | .createDevice name deviceType =>
    if env.fails then (table, .done .internalServerError)
    else
      let row := newRow env name deviceType
      match insertRow row table with
      | none => (table, .done .internalServerError)
      | some table => (table, withRow row .registering)
  | .updateDeviceState id state =>
    if env.fails then (table, .done .internalServerError)
    else
      match selectById id table with
      | none => (table, .done .notFound)
      | some row =>
        (updateRow id state env.now table,
          withRow { row with state, updatedAt := env.now } .writing)
  | .deleteDevice id =>
    if env.fails then (table, .done .internalServerError)
    else
      match selectById id table with
      | none => (table, .done .notFound)
      | some row => (table, withRow row (.unregistering id))

/-- the `DELETE` of a task -/
def deleteStatement (env : Env ν) (table : List (Device ν)) (id : Nat) :
    List (Device ν) × ApiResponse ν :=
  if env.fails then (table, .internalServerError)
  else if (selectById id table).isSome then (deleteRow id table, .deleted)
  else (table, .notFound)

/-! ## whole requests -/

/-- what a request does when nothing comes in between, and its response -/
def ApiRequest.apply (env : Env ν) (table : List (Device ν)) :
    ApiRequest ν → List (Device ν) × ApiResponse ν
  | request =>
    if env.fails then (table, .internalServerError)
    else
      match request with
      | .getDevices => (table, .devices (selectAll table))
      | .getDevice id => (table, (selectById id table).elim .notFound .device)
      | .createDevice name deviceType =>
        let row := newRow env name deviceType
        (insertRow row table).elim (table, .internalServerError) (·, .device row)
      | .updateDeviceState id state =>
        (selectById id table).elim (table, .notFound) fun row =>
          (updateRow id state env.now table, .device { row with state, updatedAt := env.now })
      | .deleteDevice id =>
        if (selectById id table).isSome then (deleteRow id table, .deleted) else (table, .notFound)

/-- a whole request of the `job`-th task with its response, or a write of Edge Core -/
inductive Entry (ν : Type) where
  | request (job : Nat) (env : Env ν) (request : ApiRequest ν) (response : ApiResponse ν)
  | write (now : Nat) (event : WriteEvent)

def Entry.job? : Entry ν → Option Nat
  | request job _ _ _ => some job
  | write _ _ => none

/-- the entry is what happens next, and leads from one table to the other -/
inductive Entry.Leads : Entry ν → List (Device ν) → List (Device ν) → Prop where
  | request {job : Nat} {env : Env ν} {request : ApiRequest ν} {response : ApiResponse ν}
      {table table' : List (Device ν)} (h : request.apply env table = (table', response)) :
      Leads (.request job env request response) table table'
  | write {now : Nat} {event : WriteEvent} {table : List (Device ν)} :
      Leads (.write now event) table (applyWriteEvent now event table)

/-- the entries lead from one table to the other, one after the other -/
inductive Replay (table₀ : List (Device ν)) : List (Entry ν) → List (Device ν) → Prop where
  | nil : Replay table₀ [] table₀
  | snoc {log : List (Entry ν)} {table table' : List (Device ν)} {entry : Entry ν}
      (h : Replay table₀ log table) (hleads : entry.Leads table table') :
      Replay table₀ (log ++ [entry]) table'

/-! ## the server -/

structure Server (ν : Type) where
  table : List (Device ν)
  jobs : List (Job ν)
  /-- the requests to Edge Core that were granted -/
  granted : List (Operation ν)
  /-- what has taken effect, oldest first -/
  log : List (Entry ν)

inductive ServerEvent (ν : Type) where
  | receive (request : ApiRequest ν)
  /-- the `i`-th task goes on -/
  | proceed (i : Nat) (env : Env ν)
  /-- the consumer of the writes of Edge Core -/
  | applyWrite (now : Nat) (event : WriteEvent)

namespace Server

def start (table : List (Device ν)) : Server ν := ⟨table, [], [], []⟩

/-- the task stands at a stage -/
def at' (s : Server ν) (i : Nat) (request : ApiRequest ν) (stage : Stage ν) : Server ν :=
  { s with jobs := s.jobs.set i ⟨request, stage⟩ }

/-- a request to Edge Core, under the lock of the translator -/
def ask (s : Server ν) (env : Env ν) (operation : Operation ν) : Server ν :=
  { s with granted := s.granted ++ if env.granted then [operation] else [] }

def step (s : Server ν) : ServerEvent ν → Option (Server ν)
  | .receive request => some { s with jobs := s.jobs ++ [⟨request, .received⟩] }
  | .proceed i env =>
    match s.jobs[i]? with
    | none => none
    | some ⟨request, stage⟩ =>
      match stage with
      | .received =>
        let (table, stage) := firstStatement env s.table request
        let entries := stage.response?.toList.map fun response =>
          Entry.request i env request response
        some (({ s with table, log := s.log ++ entries } : Server ν).at' i request stage)
      | .registering device =>
        some ((s.ask env (.deviceRegister device)).at' i request (.done (.device device)))
      | .writing device =>
        some ((s.ask env (.write device)).at' i request (.done (.device device)))
      | .unregistering id device =>
        some ((s.ask env (.deviceUnregister device)).at' i request (.deleting id device))
      | .deleting id _ =>
        let (table, response) := deleteStatement env s.table id
        some (({ s with table, log := s.log ++ [.request i env request response] } : Server ν).at' i
          request (.done response))
      | .done _ => none
  | .applyWrite now event =>
    some { s with
      table := applyWriteEvent now event s.table, log := s.log ++ [.write now event] }

end Server

/-! ## the statements and the whole requests -/

theorem withRow_eq (row : Device ν) (next : Device ν → Stage ν) : withRow row next = next row := by
  unfold withRow
  rw [readRow_eq]

/-- the first statement settles the response, as the whole request would, or is the first of two that
a deletion takes -/
theorem firstStatement_cases (env : Env ν) (table : List (Device ν)) (request : ApiRequest ν) :
    (∃ response, (firstStatement env table request).2.response? = some response ∧
        request.apply env table = ((firstStatement env table request).1, response)) ∨
      ∃ id device, request = .deleteDevice id ∧ selectById id table = some device ∧
        firstStatement env table request = (table, .unregistering id device) := by
  unfold firstStatement ApiRequest.apply
  by_cases hfails : env.fails = true
  · left
    cases request <;> simp only [if_pos hfails] <;> exact ⟨_, rfl, rfl⟩
  · cases request with
    | getDevices =>
      left
      simp only [if_neg hfails]
      refine ⟨_, rfl, ?_⟩
      have hread : (selectAll table).filterMap readRow = selectAll table := by
        rw [funext readRow_eq]
        exact List.filterMap_some
      rw [hread]
    | getDevice id =>
      left
      simp only [if_neg hfails]
      cases selectById id table with
      | none => exact ⟨_, rfl, rfl⟩
      | some row =>
        simp only [withRow_eq]
        exact ⟨_, rfl, rfl⟩
    | createDevice name deviceType =>
      left
      simp only [if_neg hfails]
      cases insertRow (newRow env name deviceType) table with
      | none => exact ⟨_, rfl, rfl⟩
      | some table' =>
        simp only [withRow_eq]
        exact ⟨_, rfl, rfl⟩
    | updateDeviceState id state =>
      left
      simp only [if_neg hfails]
      cases selectById id table with
      | none => exact ⟨_, rfl, rfl⟩
      | some row =>
        simp only [withRow_eq]
        exact ⟨_, rfl, rfl⟩
    | deleteDevice id =>
      simp only [if_neg hfails]
      cases hrow : selectById id table with
      | none => exact .inl ⟨_, rfl, rfl⟩
      | some row =>
        right
        simp only [withRow_eq]
        exact ⟨id, row, rfl, hrow, rfl⟩

theorem deleteStatement_eq (env : Env ν) (table : List (Device ν)) (id : Nat) :
    deleteStatement env table id = (ApiRequest.deleteDevice id).apply env table := by
  unfold deleteStatement ApiRequest.apply
  split <;> rfl

/-- only a deletion takes two statements -/
def Stage.Fits (request : ApiRequest ν) : Stage ν → Prop
  | unregistering id _ | deleting id _ => request = .deleteDevice id
  | received | registering _ | writing _ | done _ => True

namespace Server
variable {s s' : Server ν} {e : ServerEvent ν}

def Fits (s : Server ν) : Prop :=
  ∀ (i : Nat) (job : Job ν), s.jobs[i]? = some job → job.stage.Fits job.request

/-- what a step does to the table, the tasks and the log -/
inductive Effect (s s' : Server ν) : ServerEvent ν → Prop where
  | receives (request : ApiRequest ν) (hjobs : s'.jobs = s.jobs ++ [⟨request, .received⟩])
      (htable : s'.table = s.table) (hlog : s'.log = s.log) : Effect s s' (.receive request)
  | moves {env : Env ν} (i : Nat) (request : ApiRequest ν) (stage stage' : Stage ν)
      (hjob : s.jobs[i]? = some ⟨request, stage⟩)
      (hjobs : s'.jobs = s.jobs.set i ⟨request, stage'⟩)
      (hresponse : stage'.response? = stage.response?) (hfits : stage'.Fits request)
      (htable : s'.table = s.table) (hlog : s'.log = s.log) : Effect s s' (.proceed i env)
  | settles (i : Nat) (env : Env ν) (request : ApiRequest ν) (stage stage' : Stage ν)
      (response : ApiResponse ν) (hjob : s.jobs[i]? = some ⟨request, stage⟩)
      (hjobs : s'.jobs = s.jobs.set i ⟨request, stage'⟩) (hbefore : stage.response? = none)
      (hafter : stage'.response? = some response) (hfits : stage'.Fits request)
      (happly : request.apply env s.table = (s'.table, response))
      (hlog : s'.log = s.log ++ [.request i env request response]) : Effect s s' (.proceed i env)
  | writes (now : Nat) (event : WriteEvent) (hjobs : s'.jobs = s.jobs)
      (htable : s'.table = applyWriteEvent now event s.table)
      (hlog : s'.log = s.log ++ [.write now event]) : Effect s s' (.applyWrite now event)

theorem fits_of_response {stage : Stage ν} {request : ApiRequest ν} {response : ApiResponse ν}
    (h : stage.response? = some response) : stage.Fits request := by
  cases stage with
  | unregistering id device | deleting id device => cases h
  | received | registering device | writing device | done response => trivial

/-- **What a step does.** -/
theorem effect_of_step (hfits : s.Fits) (h : s.step e = some s') : Effect s s' e := by
  cases e with
  | receive request =>
    cases h
    exact .receives request rfl rfl rfl
  | applyWrite now event =>
    cases h
    exact .writes now event rfl rfl rfl
  | proceed i env =>
    dsimp only [step] at h
    split at h
    · cases h
    · rename_i request stage hjob
      split at h
      · cases h
        rcases firstStatement_cases env s.table request with
          ⟨response, hresponse, happly⟩ | ⟨id, device, hrequest, -, hfirst⟩
        · refine .settles i env request _ _ response hjob rfl rfl hresponse
            (fits_of_response hresponse) happly ?_
          show s.log ++ _ = _
          rw [hresponse]
          rfl
        · refine .moves i request _ (.unregistering id device) hjob ?_ rfl hrequest ?_ ?_
          · show s.jobs.set i _ = _
            rw [hfirst]
          · show (firstStatement env s.table request).1 = s.table
            rw [hfirst]
          · show s.log ++ _ = s.log
            rw [hfirst]
            exact List.append_nil s.log
      · cases h
        exact .moves i request _ _ hjob rfl rfl trivial rfl rfl
      · cases h
        exact .moves i request _ _ hjob rfl rfl trivial rfl rfl
      · rename_i id device
        cases h
        exact .moves i request _ (.deleting id device) hjob rfl rfl (hfits i _ hjob) rfl rfl
      · rename_i id device
        cases h
        have hrequest : request = .deleteDevice id := hfits i _ hjob
        refine .settles i env request _ _ _ hjob rfl rfl rfl trivial ?_ rfl
        rw [hrequest, ← deleteStatement_eq]
        rfl
      · cases h

/-! ## what has taken effect -/

/-- the log is a sequence of whole requests and writes that leads to the table, and it has each task
that has a response, once, with this response -/
structure Linearized (table₀ : List (Device ν)) (s : Server ν) : Prop where
  replay : Replay table₀ s.log s.table
  once : (s.log.filterMap Entry.job?).Nodup
  settled : ∀ (i : Nat) (job : Job ν) response, s.jobs[i]? = some job →
    job.stage.response? = some response → ∃ env, Entry.request i env job.request response ∈ s.log
  logged : ∀ i env request response, Entry.request i env request response ∈ s.log →
    ∃ stage, s.jobs[i]? = some ⟨request, stage⟩ ∧ stage.response? = some response

theorem linearized_start (table₀ : List (Device ν)) : (start table₀).Linearized table₀ := by
  refine ⟨.nil, List.nodup_nil, ?_, ?_⟩
  · intro i job response hjob
    cases hjob
  · intro i env request response hmem
    cases hmem

theorem getElem?_set_cases {α : Type} {l : List α} {i j : Nat} {a b : α}
    (h : (l.set i a)[j]? = some b) : i = j ∧ b = a ∨ i ≠ j ∧ l[j]? = some b := by
  rw [List.getElem?_set] at h
  split at h
  · rename_i hij
    split at h
    · exact .inl ⟨hij, (Option.some.inj h).symm⟩
    · cases h
  · rename_i hij
    exact .inr ⟨hij, h⟩

theorem getElem?_set_eq {α : Type} {l : List α} {i : Nat} {a b : α} (h : l[i]? = some b) :
    (l.set i a)[i]? = some a := by
  have hlt := (List.getElem?_eq_some_iff.mp h).1
  rw [List.getElem?_set, if_pos rfl, if_pos hlt]

theorem Fits.step (hfits : s.Fits) (h : s.step e = some s') : s'.Fits := by
  intro i job hjob
  cases effect_of_step hfits h with
  | receives request hjobs =>
    rw [hjobs] at hjob
    rcases List.mem_append.mp (List.mem_of_getElem? hjob) with hmem | hmem
    · obtain ⟨k, hk⟩ := List.getElem?_of_mem hmem
      exact hfits k job hk
    · rw [List.mem_singleton.mp hmem]
      trivial
  | moves k request stage stage' _ hjobs _ hstage =>
    rw [hjobs] at hjob
    rcases getElem?_set_cases hjob with ⟨-, rfl⟩ | ⟨-, hold⟩
    · exact hstage
    · exact hfits i job hold
  | settles k env request stage stage' response _ hjobs _ _ hstage =>
    rw [hjobs] at hjob
    rcases getElem?_set_cases hjob with ⟨-, rfl⟩ | ⟨-, hold⟩
    · exact hstage
    · exact hfits i job hold
  | writes now event hjobs =>
    rw [hjobs] at hjob
    exact hfits i job hjob

/-- the tasks that are not at `i` stand where they stood, and that at `i` goes on -/
theorem Linearized.moves {table₀ : List (Device ν)} (hl : s.Linearized table₀) {i : Nat}
    {request : ApiRequest ν} {stage stage' : Stage ν} (hjob : s.jobs[i]? = some ⟨request, stage⟩)
    (hjobs : s'.jobs = s.jobs.set i ⟨request, stage'⟩) (hresponse : stage'.response? = stage.response?)
    (htable : s'.table = s.table) (hlog : s'.log = s.log) : s'.Linearized table₀ := by
  refine ⟨?_, ?_, ?_, ?_⟩
  · rw [htable, hlog]
    exact hl.replay
  · rw [hlog]
    exact hl.once
  · intro k job response hk hr
    rw [hjobs] at hk
    rw [hlog]
    rcases getElem?_set_cases hk with ⟨rfl, rfl⟩ | ⟨-, hk⟩
    · exact hl.settled i ⟨request, stage⟩ response hjob (hresponse.symm.trans hr)
    · exact hl.settled k job response hk hr
  · intro k env q response hmem
    rw [hlog] at hmem
    obtain ⟨st, hst, hr⟩ := hl.logged k env q response hmem
    rw [hjobs]
    by_cases hik : i = k
    · subst hik
      obtain ⟨rfl, rfl⟩ := Job.mk.inj (Option.some.inj (hst.symm.trans hjob))
      exact ⟨stage', getElem?_set_eq hjob, hresponse.trans hr⟩
    · refine ⟨st, ?_, hr⟩
      rw [List.getElem?_set, if_neg hik]
      exact hst

/-- a task whose response is settled now is not in the log yet -/
theorem Linearized.notMem {table₀ : List (Device ν)} (hl : s.Linearized table₀) {i : Nat}
    {request : ApiRequest ν} {stage : Stage ν} (hjob : s.jobs[i]? = some ⟨request, stage⟩)
    (hnone : stage.response? = none) : i ∉ s.log.filterMap Entry.job? := by
  intro hmem
  obtain ⟨entry, hentry, hi⟩ := List.mem_filterMap.mp hmem
  cases entry with
  | write now event => cases hi
  | request k env q response =>
    cases hi
    obtain ⟨st, hst, hr⟩ := hl.logged i env q response hentry
    obtain ⟨-, rfl⟩ := Job.mk.inj (Option.some.inj (hst.symm.trans hjob))
    cases hr.symm.trans hnone

theorem Linearized.settles {table₀ : List (Device ν)} (hl : s.Linearized table₀) {i : Nat}
    {env : Env ν} {request : ApiRequest ν} {stage stage' : Stage ν} {response : ApiResponse ν}
    (hjob : s.jobs[i]? = some ⟨request, stage⟩)
    (hjobs : s'.jobs = s.jobs.set i ⟨request, stage'⟩) (hbefore : stage.response? = none)
    (hafter : stage'.response? = some response)
    (happly : request.apply env s.table = (s'.table, response))
    (hlog : s'.log = s.log ++ [.request i env request response]) : s'.Linearized table₀ := by
  refine ⟨?_, ?_, ?_, ?_⟩
  · rw [hlog]
    exact hl.replay.snoc (.request happly)
  · rw [hlog, List.filterMap_append]
    refine List.nodup_append.mpr ⟨hl.once, List.pairwise_singleton _ i, fun a ha b hb heq => ?_⟩
    rw [heq, List.mem_singleton.mp hb] at ha
    exact hl.notMem hjob hbefore ha
  · intro k job r hk hr
    rw [hjobs] at hk
    rw [hlog]
    rcases getElem?_set_cases hk with ⟨rfl, rfl⟩ | ⟨-, hk⟩
    · obtain rfl := Option.some.inj (hr.symm.trans hafter)
      exact ⟨env, List.mem_append_right _ (List.mem_singleton_self _)⟩
    · obtain ⟨env', hmem⟩ := hl.settled k job r hk hr
      exact ⟨env', List.mem_append_left _ hmem⟩
  · intro k env' q r hmem
    rw [hlog] at hmem
    rw [hjobs]
    rcases List.mem_append.mp hmem with hmem | hmem
    · obtain ⟨st, hst, hr⟩ := hl.logged k env' q r hmem
      by_cases hik : i = k
      · subst hik
        refine absurd ?_ (hl.notMem hjob hbefore)
        exact List.mem_filterMap.mpr ⟨_, hmem, rfl⟩
      · refine ⟨st, ?_, hr⟩
        rw [List.getElem?_set, if_neg hik]
        exact hst
    · cases List.mem_singleton.mp hmem
      exact ⟨stage', getElem?_set_eq hjob, hafter⟩

theorem Linearized.step {table₀ : List (Device ν)} (hl : s.Linearized table₀) (hfits : s.Fits)
    (h : s.step e = some s') : s'.Linearized table₀ := by
  cases effect_of_step hfits h with
  | receives request hjobs htable hlog =>
    refine ⟨?_, ?_, ?_, ?_⟩
    · rw [htable, hlog]
      exact hl.replay
    · rw [hlog]
      exact hl.once
    · intro k job response hk hr
      rw [hjobs] at hk
      rw [hlog]
      rw [List.getElem?_append] at hk
      split at hk
      · exact hl.settled k job response hk hr
      · have hmem := List.mem_of_getElem? hk
        rw [List.mem_singleton.mp hmem] at hr
        cases hr
    · intro k env q response hmem
      rw [hlog] at hmem
      obtain ⟨st, hst, hr⟩ := hl.logged k env q response hmem
      refine ⟨st, ?_, hr⟩
      rw [hjobs, List.getElem?_append_left (List.getElem?_eq_some_iff.mp hst).1]
      exact hst
  | moves i request stage stage' hjob hjobs hresponse _ htable hlog =>
    exact hl.moves hjob hjobs hresponse htable hlog
  | settles i env request stage stage' response hjob hjobs hbefore hafter _ happly hlog =>
    exact hl.settles hjob hjobs hbefore hafter happly hlog
  | writes now event hjobs htable hlog =>
    refine ⟨?_, ?_, ?_, ?_⟩
    · rw [htable, hlog]
      exact hl.replay.snoc .write
    · rw [hlog, List.filterMap_append]
      show (s.log.filterMap Entry.job? ++ []).Nodup
      rw [List.append_nil]
      exact hl.once
    · intro k job response hk hr
      rw [hjobs] at hk
      rw [hlog]
      obtain ⟨env, hmem⟩ := hl.settled k job response hk hr
      exact ⟨env, List.mem_append_left _ hmem⟩
    · intro k env q response hmem
      rw [hlog] at hmem
      rw [hjobs]
      rcases List.mem_append.mp hmem with hmem | hmem
      · exact hl.logged k env q response hmem
      · cases List.mem_singleton.mp hmem

/-! ## runs -/

theorem log_step (hfits : s.Fits) (h : s.step e = some s') : s.log <+: s'.log := by
  cases effect_of_step hfits h with
  | receives request _ _ hlog | moves i request stage stage' _ _ _ _ _ hlog =>
    exact hlog ▸ List.prefix_refl _
  | settles i env request stage stage' response _ _ _ _ _ _ hlog =>
    rw [hlog]
    exact List.prefix_append _ _
  | writes now event _ _ hlog =>
    rw [hlog]
    exact List.prefix_append _ _

theorem fits_start (table₀ : List (Device ν)) : (start table₀).Fits := by
  intro i job hjob
  cases hjob

/-- a run that goes on: what has taken effect stays at the front of the log -/
theorem log_grows {t : Server ν} {es : List (ServerEvent ν)} (hfits : t.Fits)
    (h : run step t es = some s) : t.log <+: s.log := by
  induction es generalizing t with
  | nil =>
    cases h
    exact List.prefix_refl _
  | cons e es ih =>
    rw [run_cons, Option.bind_eq_some_iff] at h
    obtain ⟨u, hu, hes⟩ := h
    exact (log_step hfits hu).trans (ih (hfits.step hu) hes)

/-- what has taken effect by the time of the state `t`, and what takes effect later: none of the tasks
that are settled at `t` is among the latter, and none that are received later among the former -/
structure InRealTime (t s : Server ν) : Prop where
  ordered : ∃ later, s.log = t.log ++ later ∧
    ∀ i ∈ later.filterMap Entry.job?, ∀ (job : Job ν) response, t.jobs[i]? = some job →
      job.stage.response? ≠ some response
  received : ∀ i ∈ t.log.filterMap Entry.job?, i < t.jobs.length

/-- **The server is linearizable.**  In every run the table and the responses are those of whole
requests and writes in some order, each task with a response once; and at any time of the run those
that have their response come before those that are still to be received. -/
theorem linearizable {table₀ : List (Device ν)} {es : List (ServerEvent ν)}
    (h : run step (start table₀) es = some s) :
    s.Linearized table₀ ∧ ∀ pre rest t, es = pre ++ rest → run step (start table₀) pre = some t →
      InRealTime t s := by
  have hreach : ∀ es s, run step (start table₀) es = some s → s.Fits ∧ s.Linearized table₀ := by
    intro es s hs
    induction Run.of_run hs with
    | nil => exact ⟨fits_start table₀, linearized_start table₀⟩
    | snoc hbefore _ hstep ih =>
      obtain ⟨hfits, hl⟩ := ih hbefore.to_run
      exact ⟨hfits.step hstep, hl.step hfits hstep⟩
  obtain ⟨-, hl⟩ := hreach es s h
  refine ⟨hl, fun pre rest t hes ht => ?_⟩
  obtain ⟨hfits, htl⟩ := hreach pre t ht
  rw [hes, run_append, ht, Option.bind_some] at h
  obtain ⟨later, hlater⟩ := log_grows hfits h
  refine ⟨⟨later, hlater.symm, ?_⟩, ?_⟩
  · intro i hi job response hjob hresponse
    -- a task with a response is in the log already, and is there once
    obtain ⟨env, hmem⟩ := htl.settled i job response hjob hresponse
    have honce := hl.once
    rw [← hlater, List.filterMap_append] at honce
    have hbefore : i ∈ t.log.filterMap Entry.job? := List.mem_filterMap.mpr ⟨_, hmem, rfl⟩
    exact (List.nodup_append.mp honce).2.2 i hbefore i hi rfl
  · intro i hi
    obtain ⟨entry, hentry, hjob⟩ := List.mem_filterMap.mp hi
    cases entry with
    | write now event => cases hjob
    | request k env q response =>
      cases hjob
      obtain ⟨stage, hstage, -⟩ := htl.logged i env q response hentry
      exact (List.getElem?_eq_some_iff.mp hstage).1

end Server

end

/-! ## a deletion with an update in between -/

/-- what every step takes from outside -/
def calm : Env Unit := ⟨false, 7, 3, fun _ => (), true⟩

def hallLamp : Device Unit :=
  { id := 1, name := "Hall", deviceType := .lightBulb, state := .object [("on", .bool false)]
    createdAt := 0, updatedAt := 0 }

/-- the lamp is switched on after the deletion has found it -/
def updateWhileDeleting : List (ServerEvent Unit) :=
  [ .receive (.deleteDevice 1), .proceed 0 calm,
    .receive (.updateDeviceState 1 (.object [("on", .bool true)])), .proceed 1 calm,
    .proceed 0 calm, .proceed 0 calm, .proceed 1 calm ]

namespace Server

theorem linearizable_updateWhileDeleting :
    ∃ s, run step (start [hallLamp]) updateWhileDeleting = some s ∧
      s.log.filterMap Entry.job? = [1, 0] ∧ s.Linearized [hallLamp] := by
  have hrun : (run step (start [hallLamp]) updateWhileDeleting).any (fun s => decide
      (s.log.filterMap Entry.job? = [1, 0])) = true := by
    decide +kernel
  obtain ⟨s, hs, hlog⟩ := exists_of_run_any hrun
  exact ⟨s, hs, hlog, (linearizable hs).1⟩

end Server

end EdgeTranslators.Kaas
