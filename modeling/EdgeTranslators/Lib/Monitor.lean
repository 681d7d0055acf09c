import Mathlib.Data.List.Basic

/-!
# A mutex and a condition variable

Threads of a type `τ` share a mutex and wait for a condition under it, as POSIX threads do with a
mutex of the default kind and a condition variable.

* `Monitor`                                      who holds the mutex, who waits, and the unlocks;
* `lock`, `unlock`, `wait`, `signal`, `wake`, `resume`   the operations;
* `Monitor.Sound`                                every unlock was made by the thread that held it;
* `Monitor.Parked`                               one thread waits, and what the operations do to it;
* `Monitor.Parks`                                the same for the threads of a set.

A signal wakes the thread that waits longest, and none if none waits.  A thread that was woken goes
on once it has the mutex again; it may wake without a signal.
-/

namespace EdgeTranslators.Lib

structure Monitor (τ : Type*) where
  /-- the thread that holds the mutex -/
  owner : Option τ
  /-- the threads blocked on the condition -/
  waiting : List τ
  /-- the threads that were woken, and need the mutex to go on -/
  woken : List τ
  /-- who unlocked the mutex, and who held it -/
  unlocks : List (τ × Option τ)

namespace Monitor
variable {τ : Type*} [DecidableEq τ] (m : Monitor τ) (t : τ)

def new : Monitor τ := ⟨none, [], [], []⟩

/-- blocks while a thread holds the mutex, be it the thread itself -/
def lock : Option (Monitor τ) :=
  if m.owner = none then some { m with owner := some t } else none

/-- the mutex does not check its owner -/
def unlock : Monitor τ := { m with owner := none, unlocks := m.unlocks ++ [(t, m.owner)] }

def wait : Monitor τ := { m.unlock t with waiting := m.waiting ++ [t] }

def signal : Monitor τ :=
  match m.waiting with
  | [] => m
  | u :: us => { m with waiting := us, woken := m.woken ++ [u] }

/-- a wakeup without a signal -/
def wake : Option (Monitor τ) :=
  if t ∈ m.waiting then some { m with waiting := m.waiting.erase t, woken := m.woken ++ [t] }
  else none

def resume : Option (Monitor τ) :=
  if t ∈ m.woken ∧ m.owner = none then some { m with owner := some t, woken := m.woken.erase t }
  else none

/-- every unlock was made by the thread that held the mutex -/
def Sound : Prop := ∀ u ∈ m.unlocks, u.2 = some u.1

variable {m t} {m' : Monitor τ}

omit [DecidableEq τ] in
theorem sound_new : (new : Monitor τ).Sound := nofun

omit [DecidableEq τ] in
theorem sound_unlock_iff : (m.unlock t).Sound ↔ m.Sound ∧ m.owner = some t := by
  show (∀ u ∈ m.unlocks ++ [(t, m.owner)], u.2 = some u.1) ↔ _
  rw [List.forall_mem_append, List.forall_mem_singleton]
  rfl

omit [DecidableEq τ] in
theorem sound_wait_iff : (m.wait t).Sound ↔ m.Sound ∧ m.owner = some t := sound_unlock_iff

omit [DecidableEq τ] in
theorem signal_owner : m.signal.owner = m.owner := by
  unfold signal
  split <;> rfl

omit [DecidableEq τ] in
theorem signal_unlocks : m.signal.unlocks = m.unlocks := by
  unfold signal
  split <;> rfl

omit [DecidableEq τ] in
theorem signal_waiting : m.signal.waiting = m.waiting.tail := by
  unfold signal
  split
  · rename_i hnil
    rw [hnil]
    rfl
  · rename_i hcons
    rw [hcons]
    rfl

omit [DecidableEq τ] in
theorem lock_owner (h : m.lock t = some m') : m.owner = none ∧ m'.owner = some t := by
  obtain ⟨howner, h⟩ := Option.ite_none_right_eq_some.mp h
  cases h
  exact ⟨howner, rfl⟩

omit [DecidableEq τ] in
theorem Sound.lock (hm : m.Sound) (h : m.lock t = some m') : m'.Sound := by
  obtain ⟨-, h⟩ := Option.ite_none_right_eq_some.mp h
  cases h
  exact hm

theorem wake_owner (h : m.wake t = some m') : m'.owner = m.owner := by
  obtain ⟨-, h⟩ := Option.ite_none_right_eq_some.mp h
  cases h
  rfl

theorem Sound.wake (hm : m.Sound) (h : m.wake t = some m') : m'.Sound := by
  obtain ⟨-, h⟩ := Option.ite_none_right_eq_some.mp h
  cases h
  exact hm

theorem resume_owner (h : m.resume t = some m') : m.owner = none ∧ m'.owner = some t := by
  obtain ⟨⟨-, howner⟩, h⟩ := Option.ite_none_right_eq_some.mp h
  cases h
  exact ⟨howner, rfl⟩

theorem Sound.resume (hm : m.Sound) (h : m.resume t = some m') : m'.Sound := by
  obtain ⟨-, h⟩ := Option.ite_none_right_eq_some.mp h
  cases h
  exact hm

/-! ## a monitor where one thread waits -/

/-- only `t` waits, and whether it does -/
def Parked (m : Monitor τ) (t : τ) (waits : Bool) : Prop :=
  (m.waiting ++ m.woken).Perm (if waits then [t] else [])

variable {waits : Bool}

omit [DecidableEq τ] in
theorem parked_new : (new : Monitor τ).Parked t false := .refl _

omit [DecidableEq τ] in
theorem Parked.eq_nil (h : m.Parked t false) : m.waiting = [] ∧ m.woken = [] :=
  List.append_eq_nil_iff.mp (List.Perm.eq_nil h)

omit [DecidableEq τ] in
theorem Parked.waiting_cases (h : m.Parked t waits) :
    m.waiting = [] ∨ m.waiting = [t] ∧ waits = true := by
  cases waits with
  | false => exact .inl h.eq_nil.1
  | true =>
    have hlists : m.waiting ++ m.woken = [t] := List.Perm.eq_singleton h
    rcases List.append_eq_singleton_iff.mp hlists with ⟨hwaiting, -⟩ | ⟨hwaiting, -⟩
    · exact .inl hwaiting
    · exact .inr ⟨hwaiting, rfl⟩

omit [DecidableEq τ] in
/-- a thread that waits and was woken -/
theorem Parked.woken (h : m.Parked t true) (hwaiting : m.waiting = []) : t ∈ m.woken := by
  unfold Parked at h
  rw [hwaiting] at h
  exact h.mem_iff.mpr (List.mem_singleton_self t)

omit [DecidableEq τ] in
theorem Parked.lock (h : m.Parked t waits) {u : τ} (hlock : m.lock u = some m') :
    m'.Parked t waits ∧ m'.waiting = m.waiting := by
  obtain ⟨-, hlock⟩ := Option.ite_none_right_eq_some.mp hlock
  cases hlock
  exact ⟨h, rfl⟩

omit [DecidableEq τ] in
theorem Parked.signal (h : m.Parked t waits) : m.signal.Parked t waits ∧ m.signal.waiting = [] := by
  constructor
  · refine List.Perm.trans ?_ h
    unfold Monitor.signal
    cases hwaiting : m.waiting with
    | nil => simp [hwaiting]
    | cons u us =>
      show (us ++ (m.woken ++ [u])).Perm (u :: us ++ m.woken)
      rw [← List.append_assoc]
      exact List.perm_append_singleton u (us ++ m.woken)
  · rw [signal_waiting]
    rcases h.waiting_cases with hwaiting | ⟨hwaiting, -⟩ <;> rw [hwaiting] <;> rfl

omit [DecidableEq τ] in
theorem Parked.wait (h : m.Parked t false) :
    (m.wait t).Parked t true ∧ (m.wait t).waiting = [t] := by
  obtain ⟨hwaiting, hwoken⟩ := h.eq_nil
  constructor
  · show (m.waiting ++ [t] ++ m.woken).Perm [t]
    rw [hwaiting, hwoken]
    exact .refl _
  · show m.waiting ++ [t] = [t]
    rw [hwaiting]
    rfl

theorem Parked.wake (h : m.Parked t waits) (hwake : m.wake t = some m') :
    m'.Parked t waits ∧ m'.waiting = [] := by
  obtain ⟨hmem, hwake⟩ := Option.ite_none_right_eq_some.mp hwake
  cases hwake
  constructor
  · refine List.Perm.trans ?_ h
    show (m.waiting.erase t ++ (m.woken ++ [t])).Perm _
    rw [← List.append_assoc]
    refine (List.perm_append_singleton _ _).trans ?_
    exact (List.perm_cons_erase hmem).symm.append_right _
  · rcases h.waiting_cases with hwaiting | ⟨hwaiting, -⟩
    · rw [hwaiting] at hmem
      cases hmem
    · show m.waiting.erase t = []
      rw [hwaiting]
      exact List.erase_cons_head t []

theorem Parked.resume (h : m.Parked t true) (hresume : m.resume t = some m') :
    m'.Parked t false ∧ m'.waiting = m.waiting := by
  obtain ⟨⟨hmem, -⟩, hresume⟩ := Option.ite_none_right_eq_some.mp hresume
  cases hresume
  refine ⟨?_, rfl⟩
  apply (List.perm_cons t).mp
  refine List.Perm.trans ?_ h
  exact List.perm_middle.symm.trans ((List.perm_cons_erase hmem).symm.append_left _)

/-! ## a monitor where some threads wait -/

/-- the threads that wait are those of a set, and each waits once -/
structure Parks (m : Monitor τ) (P : τ → Prop) : Prop where
  nodup : (m.waiting ++ m.woken).Nodup
  mem_iff : ∀ u, u ∈ m.waiting ++ m.woken ↔ P u

variable {P Q : τ → Prop}

omit [DecidableEq τ] in
theorem parks_new : (new : Monitor τ).Parks fun _ => False :=
  ⟨List.nodup_nil, fun u => List.mem_nil_iff u⟩

omit [DecidableEq τ] in
theorem Parks.congr (h : m.Parks P) (hPQ : ∀ u, P u ↔ Q u) : m.Parks Q :=
  ⟨h.nodup, fun u => (h.mem_iff u).trans (hPQ u)⟩

omit [DecidableEq τ] in
theorem Parks.of_perm (h : m.Parks P)
    (hperm : (m'.waiting ++ m'.woken).Perm (m.waiting ++ m.woken)) : m'.Parks P :=
  ⟨hperm.nodup_iff.mpr h.nodup, fun u => hperm.mem_iff.trans (h.mem_iff u)⟩

omit [DecidableEq τ] in
theorem Parks.mem_waiting (h : m.Parks P) {u : τ} (hu : u ∈ m.waiting) : P u :=
  (h.mem_iff u).mp (List.mem_append_left _ hu)

omit [DecidableEq τ] in
/-- a thread that waits, and that no signal is needed for any more -/
theorem Parks.woken (h : m.Parks P) {u : τ} (hu : P u) (hwaiting : u ∉ m.waiting) :
    u ∈ m.woken :=
  (List.mem_append.mp ((h.mem_iff u).mpr hu)).resolve_left hwaiting

omit [DecidableEq τ] in
theorem Parks.lock (h : m.Parks P) {u : τ} (hlock : m.lock u = some m') :
    m'.Parks P ∧ m'.waiting = m.waiting := by
  obtain ⟨-, hlock⟩ := Option.ite_none_right_eq_some.mp hlock
  cases hlock
  exact ⟨⟨h.nodup, h.mem_iff⟩, rfl⟩

omit [DecidableEq τ] in
theorem Parks.wait (h : m.Parks P) (ht : ¬P t) : (m.wait t).Parks fun u => u = t ∨ P u := by
  have hperm : ((m.wait t).waiting ++ (m.wait t).woken).Perm (t :: (m.waiting ++ m.woken)) := by
    show (m.waiting ++ [t] ++ m.woken).Perm (t :: (m.waiting ++ m.woken))
    rw [List.append_assoc]
    exact List.perm_middle
  refine ⟨hperm.nodup_iff.mpr (List.nodup_cons.mpr ⟨?_, h.nodup⟩), fun u => ?_⟩
  · rwa [h.mem_iff]
  · rw [hperm.mem_iff, List.mem_cons, h.mem_iff]

omit [DecidableEq τ] in
theorem Parks.signal (h : m.Parks P) : m.signal.Parks P := by
  refine h.of_perm ?_
  unfold Monitor.signal
  split
  · rename_i hwaiting
    rw [hwaiting]
  · rename_i u us hwaiting
    rw [hwaiting, ← List.append_assoc]
    exact List.perm_append_singleton u (us ++ m.woken)

theorem Parks.wake (h : m.Parks P) (hwake : m.wake t = some m') :
    m'.Parks P ∧ m'.waiting = m.waiting.erase t := by
  obtain ⟨hmem, hwake⟩ := Option.ite_none_right_eq_some.mp hwake
  cases hwake
  refine ⟨h.of_perm ?_, rfl⟩
  show (m.waiting.erase t ++ (m.woken ++ [t])).Perm _
  rw [← List.append_assoc]
  refine (List.perm_append_singleton _ _).trans ?_
  exact (List.perm_cons_erase hmem).symm.append_right _

theorem Parks.resume (h : m.Parks P) (hresume : m.resume t = some m') :
    (m'.Parks fun u => u ≠ t ∧ P u) ∧ m'.waiting = m.waiting := by
  obtain ⟨⟨hmem, -⟩, hresume⟩ := Option.ite_none_right_eq_some.mp hresume
  cases hresume
  have hperm : (m.waiting ++ m.woken).Perm (t :: (m.waiting ++ m.woken.erase t)) :=
    ((List.perm_cons_erase hmem).append_left _).trans List.perm_middle
  obtain ⟨hnotMem, hnodup⟩ := List.nodup_cons.mp (hperm.nodup_iff.mp h.nodup)
  refine ⟨⟨hnodup, fun u => ?_⟩, rfl⟩
  constructor
  · intro hu
    refine ⟨fun heq => hnotMem (heq ▸ hu), ?_⟩
    exact (h.mem_iff u).mp (hperm.mem_iff.mpr (List.mem_cons_of_mem _ hu))
  · rintro ⟨hne, hu⟩
    exact (List.mem_cons.mp (hperm.mem_iff.mp ((h.mem_iff u).mpr hu))).resolve_left hne

end Monitor

end EdgeTranslators.Lib
