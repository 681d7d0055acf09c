import EdgeTranslators.Ble.Contexts

/-!
# The life cycle of the contexts

What the translator does with its contexts, their timers and flags, and with Edge and BlueZ; the
tables, the values and the links are left out.

* `Life`              the state, and `Translator.life` what a translator has of it;
* `Act`               one change of it, with `Act.apply` and the states it is `Act.Legal` in;
* `Acts cfg P l l'`   legal changes that meet `P` lead from `l` to `l'`;
* `Life.WellFormed`   pointers and device ids are unique;
* `Acts.keeps`        what every legal change keeps, in a well-formed state.
-/

namespace EdgeTranslators.Ble
open Lib Pt

/-- what a life cycle has of a `struct ble_device` -/
structure Context where
  ptr : Nat
  deviceId : String
  dbusPath : String
  proxy : DeviceProxy
  retryTimerSource : Nat
  registered : Bool
  deriving DecidableEq

def Context.setTimer (source : Nat) (c : Context) : Context := { c with retryTimerSource := source }

def Context.setFlag (value : Bool) (c : Context) : Context := { c with registered := value }

def BleDevice.context (ble : BleDevice) : Context :=
  ⟨ble.ptr, ble.deviceId, ble.dbusPath, ble.proxy, ble.retryTimerSource, ble.registered⟩

structure Life where
  keepRunning : Bool
  unregisteringDevices : Bool
  contexts : List Context
  connection : Option Nat
  registered : List String
  requests : List Sent
  calls : List Call
  timers : List Timer
  idle : List Idle
  nextPtr : Nat
  nextSource : Nat

def Translator.life (t : Translator) : Life :=
  { keepRunning := t.keepRunning, unregisteringDevices := t.unregisteringDevices,
    contexts := t.devices.map BleDevice.context, connection := t.client.connection,
    registered := t.registered, requests := t.requests, calls := t.calls, timers := t.timers, idle := t.idle,
    nextPtr := t.nextPtr, nextSource := t.nextSource }

/-! ## changes -/

namespace Life

/-- a write through a pointer -/
def update (l : Life) (ptr : Nat) (f : Context → Context) : Life :=
  { l with contexts := l.contexts.map fun c => if c.ptr = ptr then f c else c }

def find (l : Life) (id : String) : Option Context := l.contexts.find? (·.deviceId = id)

def queue (l : Life) (i : Idle) : Life := { l with idle := l.idle ++ [i] }

def send (l : Life) (r : Request) : Life :=
  match l.connection with
  | none => l
  | some connection => { l with requests := l.requests ++ [⟨r, connection⟩] }

def stop (l : Life) (c : Context) : Life :=
  if c.retryTimerSource = 0 then l
  else
    { l with timers := l.timers.filter fun timer => timer.source ≠ c.retryTimerSource }.update
      c.ptr (Context.setTimer 0)

/-- the context is freed -/
def drop (l : Life) (c : Context) : Life :=
  { l.stop c with contexts := (l.stop c).contexts.filter (·.ptr ≠ c.ptr) }

/-- the context is freed, and the loop is quit after the last one -/
def delete (l : Life) (c : Context) : Life :=
  if l.unregisteringDevices ∧ (l.drop c).contexts = [] then (l.drop c).queue .quitLoop
  else l.drop c

def arm (l : Life) (c : Context) (delayMs : Nat) : Life :=
  { l with
    timers := l.timers ++ [Timer.mk l.nextSource c.ptr delayMs]
    nextSource := l.nextSource + 1 }.update c.ptr (Context.setTimer l.nextSource)

def flag (l : Life) (c : Context) (value : Bool) : Life :=
  l.update c.ptr (Context.setFlag value)

/-- a callback that tells of a registration or an unregistration runs -/
def tell (l : Life) : Idle → Life
  | .deviceRegistered id =>
    match l.find id with
    | none => l
    | some c => l.flag c true
  | .deviceUnregistered id deleteContext =>
    match l.find id with
    | none => l
    | some c => if deleteContext then l.delete c else l.flag c false
  | _ => l

/-- all devices are to be unregistered, and the loop is quit if there is none -/
def unregisterAll (l : Life) : Life :=
  if l.contexts = [] then { l with unregisteringDevices := true }.queue .quitLoop
  else { l with unregisteringDevices := true }

def answer (l : Life) : Request → Bool → Life
  | .register id, true => { l with registered := id :: l.registered }.queue (.deviceRegistered id)
  | .register _, false => l
  | .unregister id deleteContext, true =>
    { l with registered := l.registered.filter (· ≠ id) }.queue
      (.deviceUnregistered id deleteContext)
  | .unregister id deleteContext, false => l.queue (.deviceUnregistered id deleteContext)

end Life

inductive Act where
  | create (c : Context)
  | drop (c : Context)
  | delete (c : Context)
  | arm (c : Context) (delayMs : Nat)
  | stop (c : Context)
  | send (r : Request)
  | call (calls : List Call)
  | endCall (k : Nat)
  | queue (i : Idle)
  | halt
  | unregisterAll
  /-- the `k`-th timer fires, for a context -/
  | fire (k : Nat) (c : Context)
  /-- the first idle callback leaves the queue, and tells what it has to tell -/
  | tell (i : Idle)
  | answer (k : Nat) (ok : Bool)
  | connect (connection : Nat)
  | disconnect

namespace Act

def apply (l : Life) : Act → Life
  | create c => { l with contexts := l.contexts ++ [c], nextPtr := l.nextPtr + 1 }
  | drop c => l.drop c
  | delete c => l.delete c
  | arm c delayMs => l.arm c delayMs
  | stop c => l.stop c
  | send r => l.send r
  | call calls => { l with calls := l.calls ++ calls }
  | endCall k => { l with calls := l.calls.eraseIdx k }
  | queue i => l.queue i
  | halt => { l with keepRunning := false }
  | unregisterAll => l.unregisterAll
  | fire k c =>
    { l with timers := l.timers.eraseIdx k }.update c.ptr (Context.setTimer 0)
  | tell i => { l with idle := l.idle.tail }.tell i
  | answer k ok =>
    match l.requests[k]? with
    | none => l
    | some sent => { l with requests := l.requests.eraseIdx k }.answer sent.request ok
  | connect connection => { l with connection := some connection }
  | disconnect => { l with connection := none, registered := [] }

def Legal (cfg : Config) (l : Life) : Act → Prop
  | create c =>
    l.keepRunning = true ∧ (c.ptr = l.nextPtr ∧ c.retryTimerSource = 0 ∧ c.registered = false) ∧
      c.dbusPath = c.proxy.path ∧ l.find c.deviceId = none ∧
      ∃ a, c.proxy.address = some a ∧ c.deviceId = cfg.id a
  | drop c | delete c | stop c => c ∈ l.contexts
  | arm c _ => c ∈ l.contexts ∧ c.retryTimerSource = 0
  | queue i => ∀ id, i.told? id = none
  | unregisterAll => l.keepRunning = false
  | tell i => l.idle.head? = some i
  | fire k c => c ∈ l.contexts ∧ ∃ timer, l.timers[k]? = some timer ∧ timer.ptr = c.ptr
  | answer k ok => ∃ sent, l.requests[k]? = some sent ∧
      (ok = true → l.connection = some sent.connection)
  | _ => True

end Act

/-- legal changes that meet `P` -/
inductive Acts (cfg : Config) (P : Act → Prop) (l : Life) : Life → Prop where
  | refl : Acts cfg P l l
  | snoc {l' : Life} {a : Act} (h : Acts cfg P l l') (hlegal : a.Legal cfg l') (ha : P a) :
    Acts cfg P l (a.apply l')

section
variable {cfg : Config} {P : Act → Prop} {l l' l'' : Life} {a : Act} {c d : Context}

theorem Acts.trans (h : Acts cfg P l l') (h' : Acts cfg P l' l'') : Acts cfg P l l'' := by
  induction h' with
  | refl => exact h
  | snoc _ hlegal ha ih => exact ih.snoc hlegal ha

theorem Acts.mono {Q : Act → Prop} (h : Acts cfg P l l') (himp : ∀ a, P a → Q a) :
    Acts cfg Q l l' := by
  induction h with
  | refl => exact .refl
  | snoc _ hlegal ha ih => exact ih.snoc hlegal (himp _ ha)

theorem Acts.one (hlegal : a.Legal cfg l) (ha : P a) : Acts cfg P l (a.apply l) :=
  Acts.refl.snoc hlegal ha

theorem Acts.of_eq (h : l' = l) : Acts cfg P l l' := h ▸ .refl

/-! ## the fields that a change leaves alone -/

@[simp] theorem Life.send_contexts (l : Life) (r : Request) :
    (l.send r).contexts = l.contexts := by
  unfold send
  split <;> rfl

@[simp] theorem Life.send_nextPtr (l : Life) (r : Request) : (l.send r).nextPtr = l.nextPtr := by
  unfold send
  split <;> rfl

theorem Life.answer_contexts (l : Life) (r : Request) (ok : Bool) :
    (l.answer r ok).contexts = l.contexts ∧ (l.answer r ok).nextPtr = l.nextPtr := by
  cases r <;> cases ok <;> exact ⟨rfl, rfl⟩

theorem Life.stop_eq (l : Life) (c : Context) :
    ∃ contexts timers, l.stop c = { l with contexts, timers } := by
  unfold stop
  split <;> exact ⟨_, _, rfl⟩

theorem Life.drop_eq (l : Life) (c : Context) :
    ∃ contexts timers, l.drop c = { l with contexts, timers } := by
  obtain ⟨contexts, timers, heq⟩ := stop_eq l c
  unfold drop
  rw [heq]
  exact ⟨_, timers, rfl⟩

theorem Life.delete_eq (l : Life) (c : Context) :
    ∃ contexts timers idle, (idle = l.idle ∨ idle = l.idle ++ [Idle.quitLoop]) ∧
      l.delete c = { l with contexts, timers, idle } := by
  obtain ⟨contexts, timers, heq⟩ := drop_eq l c
  unfold delete
  rw [heq]
  split
  · exact ⟨contexts, timers, _, .inr rfl, rfl⟩
  · exact ⟨contexts, timers, _, .inl rfl, rfl⟩

theorem Life.tell_eq (l : Life) (i : Idle) :
    ∃ contexts timers idle, (idle = l.idle ∨ idle = l.idle ++ [Idle.quitLoop]) ∧
      l.tell i = { l with contexts, timers, idle } := by
  cases i with
  | deviceRegistered id =>
    simp only [tell]
    cases l.find id <;> exact ⟨_, _, _, .inl rfl, rfl⟩
  | deviceUnregistered id deleteContext =>
    simp only [tell]
    cases l.find id with
    | none => exact ⟨_, _, _, .inl rfl, rfl⟩
    | some c =>
      cases deleteContext with
      | true => exact delete_eq l c
      | false => exact ⟨_, _, _, .inl rfl, rfl⟩
  | _ => exact ⟨_, _, _, .inl rfl, rfl⟩

theorem Life.unregisterAll_eq (l : Life) :
    ∃ idle, (idle = l.idle ∨ idle = l.idle ++ [Idle.quitLoop]) ∧
      l.unregisterAll = { l with unregisteringDevices := true, idle } := by
  unfold unregisterAll
  split
  · exact ⟨_, .inr rfl, rfl⟩
  · exact ⟨_, .inl rfl, rfl⟩

/-! ## contexts -/

/-- the fields of a context that are never written after it is linked -/
def Context.key (c : Context) : Nat × String × String × DeviceProxy :=
  (c.ptr, c.deviceId, c.dbusPath, c.proxy)

structure Life.WellFormed (cfg : Config) (l : Life) : Prop where
  ptr : (l.contexts.map (·.ptr)).Nodup
  fresh : ∀ c ∈ l.contexts, c.ptr < l.nextPtr
  id : (l.contexts.map (·.deviceId)).Nodup
  address : ∀ c ∈ l.contexts, ∃ a, c.proxy.address = some a ∧ c.deviceId = cfg.id a

theorem Life.mem_update {f : Context → Context} {ptr : Nat} (h : d ∈ (l.update ptr f).contexts) :
    ∃ c ∈ l.contexts, d = if c.ptr = ptr then f c else c := by
  obtain ⟨c, hc, rfl⟩ := List.mem_map.mp h
  exact ⟨c, hc, rfl⟩

theorem Life.mem_update_of_ne {f : Context → Context} {ptr : Nat} (hc : c ∈ l.contexts)
    (hne : c.ptr ≠ ptr) : c ∈ (l.update ptr f).contexts :=
  List.mem_map.mpr ⟨c, hc, if_neg hne⟩

theorem Life.update_keys {f : Context → Context} {ptr : Nat} (hf : ∀ c, (f c).key = c.key) :
    (l.update ptr f).contexts.map Context.key = l.contexts.map Context.key := by
  unfold update
  rw [List.map_map]
  refine List.map_congr_left fun c _ => ?_
  simp only [Function.comp_apply]
  split
  · exact hf c
  · rfl

theorem Life.stop_keys (l : Life) (c : Context) :
    (l.stop c).contexts.map Context.key = l.contexts.map Context.key := by
  unfold stop
  split
  · rfl
  · exact update_keys fun _ => rfl

theorem Life.drop_keys (l : Life) (c : Context) :
    ((l.drop c).contexts.map Context.key).Sublist (l.contexts.map Context.key) := by
  rw [← stop_keys l c]
  exact List.filter_sublist.map _

theorem Life.stop_nextPtr (l : Life) (c : Context) : (l.stop c).nextPtr = l.nextPtr := by
  obtain ⟨contexts, timers, heq⟩ := stop_eq l c
  rw [heq]

theorem Life.delete_contexts (l : Life) (c : Context) :
    (l.delete c).contexts = (l.drop c).contexts ∧ (l.delete c).nextPtr = l.nextPtr := by
  unfold delete
  split <;> exact ⟨rfl, stop_nextPtr l c⟩

/-- a freed context is gone, and the others stay -/
theorem Life.mem_drop (h : d ∈ (l.drop c).contexts) : d.ptr ≠ c.ptr ∧ d ∈ l.contexts := by
  obtain ⟨hd, hne⟩ := List.mem_filter.mp h
  have hne' : d.ptr ≠ c.ptr := by simpa using hne
  refine ⟨hne', ?_⟩
  unfold stop at hd
  split at hd
  · exact hd
  · obtain ⟨d₀, hd₀, heq⟩ := mem_update hd
    split at heq
    · rename_i hptr
      exact absurd (by rw [heq]; exact hptr) hne'
    · rw [heq]
      exact hd₀

theorem Life.mem_drop_of_ne (hd : d ∈ l.contexts) (hne : d.ptr ≠ c.ptr) :
    d ∈ (l.drop c).contexts := by
  refine List.mem_filter.mpr ⟨?_, by simpa using hne⟩
  unfold stop
  split
  · exact hd
  · exact mem_update_of_ne hd hne

theorem Life.WellFormed.of_keys (h : l.WellFormed cfg)
    (hkeys : (l'.contexts.map Context.key).Sublist (l.contexts.map Context.key))
    (hnext : l'.nextPtr = l.nextPtr) : l'.WellFormed cfg := by
  have hmem : ∀ d ∈ l'.contexts, ∃ c ∈ l.contexts, d.key = c.key := fun d hd => by
    obtain ⟨c, hc, hkey⟩ := List.mem_map.mp (hkeys.subset (List.mem_map_of_mem hd))
    exact ⟨c, hc, hkey.symm⟩
  have hptr := hkeys.map Prod.fst
  have hid := hkeys.map fun k => k.2.1
  rw [List.map_map, List.map_map] at hptr hid
  refine ⟨h.ptr.sublist hptr, fun d hd => ?_, h.id.sublist hid, fun d hd => ?_⟩
  · obtain ⟨c, hc, hkey⟩ := hmem d hd
    rw [(Prod.mk.inj hkey).1, hnext]
    exact h.fresh c hc
  · obtain ⟨c, hc, hkey⟩ := hmem d hd
    simp only [Context.key, Prod.mk.injEq] at hkey
    rw [hkey.2.1, hkey.2.2.2]
    exact h.address c hc

theorem Life.WellFormed.of_keys_eq (h : l.WellFormed cfg)
    (hkeys : l'.contexts.map Context.key = l.contexts.map Context.key)
    (hnext : l'.nextPtr = l.nextPtr) : l'.WellFormed cfg :=
  h.of_keys (by rw [hkeys]) hnext

theorem Life.WellFormed.congr (h : l.WellFormed cfg) (hcontexts : l'.contexts = l.contexts)
    (hnext : l'.nextPtr = l.nextPtr) : l'.WellFormed cfg :=
  h.of_keys_eq (by rw [hcontexts]) hnext

theorem Life.WellFormed.delete (h : l.WellFormed cfg) (c : Context) :
    (l.delete c).WellFormed cfg := by
  obtain ⟨hcontexts, hnext⟩ := delete_contexts l c
  refine h.of_keys ?_ hnext
  rw [hcontexts]
  exact drop_keys l c

theorem Life.WellFormed.flag (h : l.WellFormed cfg) (c : Context) (value : Bool) :
    (l.flag c value).WellFormed cfg :=
  h.of_keys_eq (update_keys fun _ => rfl) rfl

theorem Life.WellFormed.eq_of_ptr (h : l.WellFormed cfg) (hc : c ∈ l.contexts)
    (hd : d ∈ l.contexts) (hptr : d.ptr = c.ptr) : d = c :=
  List.inj_on_of_nodup_map h.ptr hd hc hptr

theorem Life.WellFormed.eq_of_id (h : l.WellFormed cfg) (hc : c ∈ l.contexts)
    (hd : d ∈ l.contexts) (hid : d.deviceId = c.deviceId) : d = c :=
  List.inj_on_of_nodup_map h.id hd hc hid

theorem Life.mem_of_find {id : String} (h : l.find id = some c) :
    c ∈ l.contexts ∧ c.deviceId = id :=
  ⟨List.mem_of_find?_eq_some h, by simpa using List.find?_some h⟩

theorem Life.ne_of_find {id : String} (h : l.find id = none) (hd : d ∈ l.contexts) :
    d.deviceId ≠ id := by
  have hno := List.find?_eq_none.mp h d hd
  simpa using hno

theorem Life.create_wellFormed (h : l.WellFormed cfg) (hlegal : (Act.create c).Legal cfg l) :
    ((Act.create c).apply l).WellFormed cfg := by
  obtain ⟨-, ⟨hptr, -⟩, -, hnew, haddr⟩ := hlegal
  refine ⟨?_, fun d hd => ?_, ?_, fun d hd => ?_⟩
  · show ((l.contexts ++ [c]).map (·.ptr)).Nodup
    rw [List.map_append, List.nodup_append]
    refine ⟨h.ptr, List.nodup_singleton _, fun p hp p' hp' => ?_⟩
    obtain ⟨d, hd, rfl⟩ := List.mem_map.mp hp
    obtain rfl : p' = c.ptr := List.mem_singleton.mp hp'
    have hlt := h.fresh d hd
    show d.ptr ≠ c.ptr
    omega
  · show d.ptr < l.nextPtr + 1
    rcases List.mem_append.mp hd with hd | hd
    · exact Nat.lt_succ_of_lt (h.fresh d hd)
    · rw [List.mem_singleton.mp hd, hptr]
      exact Nat.lt_succ_self _
  · show ((l.contexts ++ [c]).map (·.deviceId)).Nodup
    rw [List.map_append, List.nodup_append]
    refine ⟨h.id, List.nodup_singleton _, fun i hi i' hi' => ?_⟩
    obtain ⟨d, hd, rfl⟩ := List.mem_map.mp hi
    rw [List.mem_singleton.mp hi']
    exact ne_of_find hnew hd
  · rcases List.mem_append.mp hd with hd | hd
    · exact h.address d hd
    · rw [List.mem_singleton.mp hd]
      exact haddr

theorem Life.tell_wellFormed (h : l.WellFormed cfg) (i : Idle) : (l.tell i).WellFormed cfg := by
  cases i with
  | deviceRegistered id =>
    simp only [tell]
    cases l.find id with
    | none => exact h
    | some c => exact h.flag c true
  | deviceUnregistered id deleteContext =>
    simp only [tell]
    cases l.find id with
    | none => exact h
    | some c =>
      cases deleteContext with
      | true => exact h.delete c
      | false => exact h.flag c false
  | _ => exact h

theorem Life.apply_wellFormed (h : l.WellFormed cfg) (hlegal : a.Legal cfg l) :
    (a.apply l).WellFormed cfg := by
  cases a with
  | create c => exact create_wellFormed h hlegal
  | drop c => exact h.of_keys (drop_keys l c) (stop_nextPtr l c)
  | delete c => exact h.delete c
  | arm c delayMs => exact h.of_keys_eq (update_keys fun _ => rfl) rfl
  | stop c => exact h.of_keys_eq (stop_keys l c) (stop_nextPtr l c)
  | send r => exact h.congr (send_contexts l r) (send_nextPtr l r)
  | fire k c => exact h.of_keys_eq (update_keys fun _ => rfl) rfl
  | unregisterAll =>
    simp only [Act.apply, unregisterAll]
    split <;> exact h.congr rfl rfl
  | tell i =>
    have hpop : Life.WellFormed cfg { l with idle := l.idle.tail } := h.congr rfl rfl
    exact tell_wellFormed hpop i
  | answer k ok =>
    simp only [Act.apply]
    split
    · exact h
    · rename_i sent _
      obtain ⟨hcontexts, hnext⟩ :=
        answer_contexts { l with requests := l.requests.eraseIdx k } sent.request ok
      exact h.congr hcontexts hnext
  | _ => exact h.congr rfl rfl

/-- **The invariant rule for the changes of one step.** -/
theorem Acts.keeps {Inv : Life → Prop} (h : Acts cfg P l l') (hwf : l.WellFormed cfg) (hl : Inv l)
    (hkeep : ∀ l a, l.WellFormed cfg → Inv l → a.Legal cfg l → P a → Inv (a.apply l)) :
    Inv l' := by
  have hboth : l'.WellFormed cfg ∧ Inv l' := by
    induction h with
    | refl => exact ⟨hwf, hl⟩
    | snoc _ hlegal ha ih =>
      exact ⟨Life.apply_wellFormed ih.1 hlegal, hkeep _ _ ih.1 ih.2 hlegal ha⟩
  exact hboth.2

end

end EdgeTranslators.Ble
