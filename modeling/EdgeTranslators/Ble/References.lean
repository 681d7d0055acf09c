import EdgeTranslators.Lib.Run
import Mathlib.Data.List.Nodup

/-!
# The references of `ble_start`

`ble_start` connects to D-Bus, allocates a main loop and makes an object manager, and its label
`out` gives back what it finds in its variables.  Two of them are globals that outlive an iteration.

* `Setup`                        what the calls of an iteration return;
* `bleStartSetUp`, `bleStartRound`   an iteration up to `out`, and with its cleanup;
* `ReleasesOnce`                 what is obtained in an iteration is released there, once;
* `references_releasedOnce_iff`  it is so exactly when no iteration but the first fails to connect.
-/

namespace EdgeTranslators.Ble
open Lib

/-- a reference that the `n`-th iteration obtained -/
inductive Ref where
  | connection (n : Nat)
  | loop (n : Nat)
  | manager (n : Nat)
  deriving DecidableEq, Repr

def Ref.iteration : Ref → Nat
  | .connection n | .loop n | .manager n => n

/-- what the calls of an iteration return -/
structure Setup where
  /-- `g_bus_get_sync` or `g_dbus_connection_new_for_address_sync` returns a connection -/
  connects : Bool
  /-- `g_main_loop_new` -/
  loop : Bool
  /-- `g_dbus_object_manager_client_new_sync` -/
  manager : Bool
  /-- `ble_adapter_is_powered`, `ble_adapter_set_powered` -/
  powered : Bool
  powersOn : Bool
  /-- `ble_discover` returns 0 -/
  discovers : Bool
  /-- `global_keep_running` after the cleanup -/
  keepRunning : Bool
  deriving DecidableEq, Repr

/-- the variables of `ble_start` at its label `out`, and what the iteration obtained before -/
structure AtOut where
  retVal : Nat
  /-- `g_config.g_loop`, `g_config.connection` and `bluez_manager` -/
  loop : Option Ref
  connection : Option Ref
  manager : Option Ref
  /-- the main loop was run -/
  ran : Bool
  obtained : List Ref

/-- an iteration of `ble_start` up to `out`; `loop` is `g_config.g_loop` before it -/
def bleStartSetUp (loop : Option Ref) (n : Nat) (o : Setup) : AtOut :=
  -- `ble_connect_to_dbus` sets `g_config.connection` also when it fails
  if !o.connects then
    { retVal := 2, loop, connection := none, manager := none, ran := false, obtained := [] }
  else
    let connection := Ref.connection n
    if !o.loop then
      { retVal := 3, loop := none, connection, manager := none, ran := false,
        obtained := [connection] }
    else
      let loop := Ref.loop n
      if !o.manager then
        { retVal := 0, loop, connection, manager := none, ran := false,
          obtained := [connection, loop] }
      else
        let manager := Ref.manager n
        let obtained := [connection, loop, manager]
        if !o.powered && !o.powersOn then
          { retVal := 0, loop, connection, manager, ran := false, obtained }
        else if !o.discovers then
          { retVal := 0, loop, connection, manager, ran := false, obtained }
        else { retVal := 0, loop, connection, manager, ran := true, obtained }

/-- what the cleanup of an iteration releases, in this order -/
def AtOut.released (out : AtOut) : List Ref :=
  out.loop.toList ++ out.manager.toList ++ out.connection.toList

/-- the references of an iteration -/
structure Round where
  obtained : List Ref
  released : List Ref
  deriving DecidableEq, Repr

structure StartState where
  /-- `g_config.g_loop` and `g_config.connection` -/
  loop : Option Ref
  connection : Option Ref
  /-- whether there is one more iteration -/
  retry : Bool
  rounds : List Round

/-- an iteration of `ble_start` -/
def bleStartRound (s : StartState) (o : Setup) : Option StartState :=
  if s.retry then
    let out := bleStartSetUp s.loop s.rounds.length o
    some
      { loop := out.loop, connection := out.connection, retry := out.retVal = 0 ∧ o.keepRunning,
        rounds := s.rounds ++ [⟨out.obtained, out.released⟩] }
  else none

/-- `ble_start` with the white list read, if one is given; the globals are zero -/
def bleStartEntered : StartState :=
  { loop := none, connection := none, retry := true, rounds := [] }

/-- every reference is released once in the iteration that obtained it, and in no later one -/
def ReleasesOnce (rounds : List Round) : Prop :=
  (∀ round ∈ rounds, ∀ r ∈ round.obtained, round.released.count r = 1) ∧
    rounds.Pairwise fun earlier later => ∀ r ∈ earlier.obtained, r ∉ later.released

section
variable {ok : StartState → Setup → Prop} {loop : Option Ref} {n : Nat} {o : Setup}
  {s s' : StartState} {os : List Setup} {rounds : List Round}

/-! ## one iteration -/

theorem bleStartSetUp_failed (h : o.connects = false) :
    (bleStartSetUp loop n o).obtained = [] ∧ (bleStartSetUp loop n o).released = loop.toList ∧
      (bleStartSetUp loop n o).retVal = 2 := by
  have heq : bleStartSetUp loop n o =
      { retVal := 2, loop, connection := none, manager := none, ran := false, obtained := [] } := by
    unfold bleStartSetUp
    rw [h]
    rfl
  rw [heq]
  refine ⟨rfl, ?_, rfl⟩
  unfold AtOut.released
  rw [Option.toList_none, List.append_nil, List.append_nil]

/-- an iteration that connects releases what it obtained, in another order -/
structure Balanced (n : Nat) (out : AtOut) : Prop where
  perm : out.released.Perm out.obtained
  nodup : out.obtained.Nodup
  fresh : ∀ r ∈ out.obtained, r.iteration = n
  loop : out.retVal = 0 → ∃ r ∈ out.obtained, out.loop = some r

theorem bleStartSetUp_balanced (h : o.connects = true) :
    Balanced n (bleStartSetUp loop n o) := by
  -- the main loop, and the object manager, are obtained after the connection
  have hthree : ∀ ran, Balanced n
      { retVal := 0, loop := some (.loop n), connection := some (.connection n),
        manager := some (.manager n), ran,
        obtained := [.connection n, .loop n, .manager n] } := by
    intro ran
    refine ⟨?_, by simp, by simp [Ref.iteration], fun _ => ⟨.loop n, by simp, rfl⟩⟩
    exact @List.perm_append_comm _ [Ref.loop n, Ref.manager n] [Ref.connection n]
  unfold bleStartSetUp
  rw [h]
  simp only [Bool.not_true, Bool.false_eq_true, if_false]
  split
  · exact ⟨.refl _, by simp, by simp [Ref.iteration], nofun⟩
  split
  · refine ⟨?_, by simp, by simp [Ref.iteration], fun _ => ⟨.loop n, by simp, rfl⟩⟩
    exact List.Perm.swap ..
  split
  · exact hthree false
  split
  · exact hthree false
  · exact hthree true

theorem releasesOnce_snoc (new : Round) :
    ReleasesOnce (rounds ++ [new]) ↔
      ReleasesOnce rounds ∧ (∀ r ∈ new.obtained, new.released.count r = 1) ∧
        ∀ earlier ∈ rounds, ∀ r ∈ earlier.obtained, r ∉ new.released := by
  unfold ReleasesOnce
  rw [List.forall_mem_append, List.forall_mem_singleton, List.pairwise_append]
  simp only [List.pairwise_singleton, List.forall_mem_singleton, true_and]
  exact and_and_and_comm

/-! ## all iterations -/

/-- what is known after some iterations -/
structure Entered (s : StartState) : Prop where
  obtained : ∀ round ∈ s.rounds, ∀ r ∈ round.obtained, r.iteration < s.rounds.length
  first : s.rounds = [] → s.loop = none
  /-- the main loop of the last iteration is still in `g_config.g_loop` -/
  stale : s.retry = true → s.rounds ≠ [] →
    ∃ round ∈ s.rounds, ∃ r ∈ round.obtained, s.loop = some r

theorem bleStartEntered_entered : Entered bleStartEntered :=
  ⟨nofun, fun _ => rfl, fun _ h => absurd rfl h⟩

theorem bleStartRound_eq_some (h : bleStartRound s o = some s') :
    s.retry = true ∧ s' =
      { loop := (bleStartSetUp s.loop s.rounds.length o).loop
        connection := (bleStartSetUp s.loop s.rounds.length o).connection
        retry := (bleStartSetUp s.loop s.rounds.length o).retVal = 0 ∧ o.keepRunning
        rounds := s.rounds ++ [⟨(bleStartSetUp s.loop s.rounds.length o).obtained,
          (bleStartSetUp s.loop s.rounds.length o).released⟩] } := by
  unfold bleStartRound at h
  split at h
  · rename_i hretry
    exact ⟨hretry, (Option.some.inj h).symm⟩
  · cases h

theorem bleStartRound_entered (hs : Entered s) (h : bleStartRound s o = some s') : Entered s' := by
  obtain ⟨hretry, rfl⟩ := bleStartRound_eq_some h
  refine ⟨?_, fun hnil => ?_, fun hagain _ => ?_⟩
  · intro round hround r hr
    show r.iteration < (s.rounds ++ [_]).length
    rw [List.length_append, List.length_singleton]
    rcases List.mem_append.mp hround with hround | hround
    · exact Nat.lt_succ_of_lt (hs.obtained round hround r hr)
    · rw [List.mem_singleton.mp hround] at hr
      cases hconnects : o.connects with
      | false =>
        rw [(bleStartSetUp_failed hconnects).1] at hr
        cases hr
      | true =>
        rw [(bleStartSetUp_balanced hconnects).fresh r hr]
        exact Nat.lt_succ_self _
  · exact absurd hnil (List.append_ne_nil_of_right_ne_nil _ nofun)
  · have hzero := (of_decide_eq_true hagain).1
    cases hconnects : o.connects with
    | false =>
      rw [(bleStartSetUp_failed hconnects).2.2] at hzero
      cases hzero
    | true =>
      obtain ⟨r, hr, hloop⟩ := (bleStartSetUp_balanced hconnects).loop hzero
      exact ⟨_, List.mem_append_right _ List.mem_cons_self, r, hr, hloop⟩

/-- **An iteration keeps the references balanced exactly when it is the first or connects.** -/
theorem bleStartRound_releasesOnce (hs : Entered s) (h : bleStartRound s o = some s') :
    ReleasesOnce s'.rounds ↔
      ReleasesOnce s.rounds ∧ (s.rounds = [] ∨ o.connects = true) := by
  obtain ⟨hretry, rfl⟩ := bleStartRound_eq_some h
  rw [releasesOnce_snoc, and_congr_right_iff]
  intro _
  cases hconnects : o.connects with
  | true =>
    have hbalanced := @bleStartSetUp_balanced s.loop s.rounds.length o hconnects
    refine iff_of_true ⟨?_, ?_⟩ (.inr rfl)
    · intro r hr
      show List.count r (bleStartSetUp s.loop s.rounds.length o).released = 1
      rw [hbalanced.perm.count_eq]
      exact List.count_eq_one_of_mem hbalanced.nodup hr
    · intro earlier hearlier r hr hreleased
      have hlt := hs.obtained earlier hearlier r hr
      have heq := hbalanced.fresh r (hbalanced.perm.mem_iff.mp hreleased)
      omega
  | false =>
    obtain ⟨hnone, hreleased, -⟩ := @bleStartSetUp_failed s.loop s.rounds.length o hconnects
    rw [hnone, hreleased]
    constructor
    · intro ⟨_, hearlier⟩
      by_cases hnil : s.rounds = []
      · exact .inl hnil
      · obtain ⟨round, hround, r, hr, hloop⟩ := hs.stale hretry hnil
        refine absurd ?_ (hearlier round hround r hr)
        rw [hloop]
        exact List.mem_singleton_self r
    · intro hfirst
      have hnil := hfirst.resolve_right nofun
      refine ⟨nofun, ?_⟩
      rw [hnil]
      exact nofun

/-- **`ble_start` releases each reference once, in the iteration that obtained it, exactly in the
runs in which no iteration after the first fails to connect to D-Bus.** -/
theorem references_releasedOnce_iff (h : Run bleStartRound ok bleStartEntered os s) :
    ReleasesOnce s.rounds ↔ ∀ o ∈ os.tail, o.connects = true := by
  have hinv : Entered s ∧ (s.rounds = [] ↔ os = []) ∧
      (ReleasesOnce s.rounds ↔ ∀ o ∈ os.tail, o.connects = true) := by
    induction h with
    | nil => exact ⟨bleStartEntered_entered, iff_of_true rfl rfl, iff_of_true ⟨nofun, .nil⟩ nofun⟩
    | @snoc os s s' o _ _ hstep ih =>
      obtain ⟨hs, hempty, hiff⟩ := ih
      have hrounds : s'.rounds ≠ [] := by
        obtain ⟨-, rfl⟩ := bleStartRound_eq_some hstep
        exact List.append_ne_nil_of_right_ne_nil _ nofun
      refine ⟨bleStartRound_entered hs hstep, iff_of_false hrounds (by simp), ?_⟩
      rw [bleStartRound_releasesOnce hs hstep, hiff, hempty]
      cases os with
      | nil => simp
      | cons first os =>
        rw [List.cons_append, List.tail_cons, List.tail_cons, List.forall_mem_append,
          List.forall_mem_singleton]
        simp
  exact hinv.2.2

end

/-- everything goes well until the adapter goes -/
def plainSetup : Setup :=
  { connects := true, loop := true, manager := true, powered := true, powersOn := true,
    discovers := true, keepRunning := true }

/-- what the iterations of a start that tries twice again find -/
def retriedSetups : List Setup :=
  [plainSetup, { plainSetup with manager := false }, { plainSetup with loop := false }]

theorem references_releasedOnce_retries :
    ∃ s, Run bleStartRound (fun _ _ => True) bleStartEntered retriedSetups s ∧
      (ReleasesOnce s.rounds ↔ ∀ o ∈ retriedSetups.tail, o.connects = true) := by
  have hrun : Run bleStartRound (fun _ _ => True) bleStartEntered retriedSetups _ := Run.of_run rfl
  exact ⟨_, hrun, references_releasedOnce_iff hrun⟩

/-- the D-Bus daemon is gone when the adapter is looked for again -/
theorem not_references_releasedOnce :
    ¬∀ os s, Run bleStartRound (fun _ _ => True) bleStartEntered os s → ReleasesOnce s.rounds := by
  intro h
  have hboth := h [plainSetup, { plainSetup with connects := false }] _ (Run.of_run rfl)
  exact List.pairwise_cons.mp hboth.2 |>.1 _ List.mem_cons_self (.loop 0) (by decide) (by decide)

end EdgeTranslators.Ble
