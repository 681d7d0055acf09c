import EdgeTranslators.Ble.Acts

/-!
# Retry timers

* `TimersSound l`         timers and contexts refer to each other, and no source is used twice;
* `Life.stop_timers`, `Life.drop_timers`, `Life.arm_timers`, `Life.fire_timers`
                          what changes a timer keeps it;
* `retryTimers_sound`     it holds in every run.
-/

namespace EdgeTranslators.Ble
open Lib Pt

structure TimersSound (l : Life) : Prop where
  armed : ∀ timer ∈ l.timers, ∃ c ∈ l.contexts,
    c.ptr = timer.ptr ∧ c.retryTimerSource = timer.source
  linked : ∀ c ∈ l.contexts, c.retryTimerSource ≠ 0 → ∃ timer ∈ l.timers,
    timer.ptr = c.ptr ∧ timer.source = c.retryTimerSource
  source : ∀ timer ∈ l.timers, 0 < timer.source ∧ timer.source < l.nextSource
  nodup : (l.timers.map (·.source)).Nodup
  next : 0 < l.nextSource

section
variable {cfg : Config} {l l' : Life} {a : Act} {c d : Context}

theorem TimersSound.eq_of_source (h : TimersSound l) {timer timer' : Timer}
    (htimer : timer ∈ l.timers) (htimer' : timer' ∈ l.timers)
    (hsource : timer.source = timer'.source) : timer = timer' :=
  List.inj_on_of_nodup_map h.nodup htimer htimer' hsource

/-- contexts whose timers have the same source are one -/
theorem TimersSound.eq_of_retryTimerSource (h : TimersSound l) (hwf : l.WellFormed cfg)
    (hc : c ∈ l.contexts) (hd : d ∈ l.contexts) (hne : c.retryTimerSource ≠ 0)
    (hsource : d.retryTimerSource = c.retryTimerSource) : d = c := by
  obtain ⟨timer, htimer, hptr, hcs⟩ := h.linked c hc hne
  obtain ⟨timer', htimer', hptr', hds⟩ := h.linked d hd (by rwa [hsource])
  have htt : timer' = timer := h.eq_of_source htimer' htimer (by rw [hds, hcs, hsource])
  refine hwf.eq_of_ptr hc hd ?_
  rw [← hptr', htt, hptr]

theorem TimersSound.congr (h : TimersSound l) (hcontexts : l'.contexts = l.contexts)
    (htimers : l'.timers = l.timers) (hnext : l'.nextSource = l.nextSource) : TimersSound l' := by
  obtain ⟨harmed, hlinked, hsource, hnodup, hpos⟩ := h
  refine ⟨?_, ?_, ?_, ?_, ?_⟩
  · rwa [hcontexts, htimers]
  · rwa [hcontexts, htimers]
  · rwa [htimers, hnext]
  · rwa [htimers]
  · rwa [hnext]

/-! ## what changes a timer -/

theorem Life.stop_timers (hwf : l.WellFormed cfg) (h : TimersSound l) (hc : c ∈ l.contexts) :
    TimersSound (l.stop c) ∧
      ∀ d ∈ (l.stop c).contexts, d.ptr = c.ptr → d.retryTimerSource = 0 := by
  unfold stop
  by_cases hzero : c.retryTimerSource = 0
  · rw [if_pos hzero]
    refine ⟨h, fun d hd hptr => ?_⟩
    rw [hwf.eq_of_ptr hc hd hptr]
    exact hzero
  · rw [if_neg hzero]
    refine ⟨⟨?_, ?_, ?_, ?_, h.next⟩, fun d hd hptr => ?_⟩
    · intro timer htimer
      obtain ⟨htimer, hne⟩ := List.mem_filter.mp htimer
      obtain ⟨d, hd, hptr, hsource⟩ := h.armed timer htimer
      have hne' : timer.source ≠ c.retryTimerSource := by simpa using hne
      refine ⟨d, mem_update_of_ne hd fun hdc => ?_, hptr, hsource⟩
      rw [hwf.eq_of_ptr hc hd hdc] at hsource
      exact hne' hsource.symm
    · intro d' hd' hset
      obtain ⟨d, hd, rfl⟩ := mem_update hd'
      split at hset
      · exact absurd rfl hset
      · rename_i hdc
        rw [if_neg hdc]
        obtain ⟨timer, htimer, hptr, hsource⟩ := h.linked d hd hset
        refine ⟨timer, List.mem_filter.mpr ⟨htimer, decide_eq_true fun heq => hdc ?_⟩, hptr, hsource⟩
        rw [h.eq_of_retryTimerSource hwf hc hd hzero (hsource.symm.trans heq)]
    · intro timer htimer
      exact h.source timer (List.mem_filter.mp htimer).1
    · exact h.nodup.sublist (List.filter_sublist.map _)
    · obtain ⟨d₀, hd₀, rfl⟩ := mem_update hd
      split
      · rfl
      · rename_i hne
        rw [if_neg hne] at hptr
        exact absurd hptr hne

theorem Life.drop_timers (hwf : l.WellFormed cfg) (h : TimersSound l) (hc : c ∈ l.contexts) :
    TimersSound (l.drop c) := by
  obtain ⟨hstop, hzero⟩ := stop_timers hwf h hc
  refine ⟨fun timer htimer => ?_, fun d hd hset => ?_, hstop.source, hstop.nodup, hstop.next⟩
  · obtain ⟨d, hd, hptr, hsource⟩ := hstop.armed timer htimer
    refine ⟨d, List.mem_filter.mpr ⟨hd, decide_eq_true fun hdc => ?_⟩, hptr, hsource⟩
    have hpos := (hstop.source timer htimer).1
    rw [← hsource, hzero d hd hdc] at hpos
    omega
  · exact hstop.linked d (List.mem_filter.mp hd).1 hset

theorem Life.delete_timers (hwf : l.WellFormed cfg) (h : TimersSound l) (hc : c ∈ l.contexts) :
    TimersSound (l.delete c) := by
  have hdrop := drop_timers hwf h hc
  unfold delete
  split
  · exact hdrop.congr rfl rfl rfl
  · exact hdrop

theorem Life.arm_timers (hwf : l.WellFormed cfg) (h : TimersSound l) (hc : c ∈ l.contexts)
    (hzero : c.retryTimerSource = 0) (delayMs : Nat) : TimersSound (l.arm c delayMs) := by
  have hnew : ∀ timer ∈ l.timers, timer.source ≠ l.nextSource := fun timer htimer => by
    have hlt := (h.source timer htimer).2
    omega
  refine ⟨fun timer htimer => ?_, fun d' hd' hset => ?_, fun timer htimer => ?_, ?_,
    Nat.succ_pos _⟩
  · rcases List.mem_append.mp htimer with htimer | htimer
    · obtain ⟨d, hd, hptr, hsource⟩ := h.armed timer htimer
      refine ⟨d, mem_update_of_ne hd fun hdc => ?_, hptr, hsource⟩
      have hpos := (h.source timer htimer).1
      rw [← hsource, hwf.eq_of_ptr hc hd hdc, hzero] at hpos
      omega
    · rw [List.mem_singleton.mp htimer]
      exact ⟨_, List.mem_map.mpr ⟨c, hc, if_pos rfl⟩, rfl, rfl⟩
  · obtain ⟨d, hd, rfl⟩ := mem_update hd'
    by_cases hdc : d.ptr = c.ptr
    · rw [if_pos hdc]
      exact ⟨_, List.mem_append_right _ (List.mem_singleton_self _), hdc.symm, rfl⟩
    · rw [if_neg hdc] at hset ⊢
      obtain ⟨timer, htimer, hptr, hsource⟩ := h.linked d hd hset
      exact ⟨timer, List.mem_append_left _ htimer, hptr, hsource⟩
  · have hnext : (l.arm c delayMs).nextSource = l.nextSource + 1 := rfl
    rw [hnext]
    rcases List.mem_append.mp htimer with htimer | htimer
    · have hlt := h.source timer htimer
      omega
    · have hpos := h.next
      rw [List.mem_singleton.mp htimer]
      show 0 < l.nextSource ∧ l.nextSource < l.nextSource + 1
      omega
  · show ((l.timers ++ [Timer.mk l.nextSource c.ptr delayMs]).map Timer.source).Nodup
    rw [List.map_append, List.nodup_append]
    refine ⟨h.nodup, List.nodup_singleton _, fun s hs s' hs' => ?_⟩
    obtain ⟨timer, htimer, rfl⟩ := List.mem_map.mp hs
    rw [List.mem_singleton.mp hs']
    exact hnew timer htimer

/-- the context that a timer fires for has no timer after it -/
theorem Life.fire_timers {k : Nat} {timer : Timer} (hwf : l.WellFormed cfg) (h : TimersSound l)
    (hc : c ∈ l.contexts) (hk : l.timers[k]? = some timer) (hptr : timer.ptr = c.ptr) :
    TimersSound ((Act.fire k c).apply l) := by
  have hmem := List.mem_of_getElem? hk
  have hsource : c.retryTimerSource = timer.source := by
    obtain ⟨d, hd, hdptr, hds⟩ := h.armed timer hmem
    rwa [hwf.eq_of_ptr hc hd (hdptr.trans hptr)] at hds
  have hsub : ∀ timer' ∈ l.timers.eraseIdx k, timer' ∈ l.timers := fun _ hmem' =>
    List.mem_of_mem_eraseIdx hmem'
  refine ⟨fun timer' htimer' => ?_, fun d' hd' hset => ?_, fun timer' htimer' => ?_, ?_, h.next⟩
  · obtain ⟨d, hd, hdptr, hds⟩ := h.armed timer' (hsub timer' htimer')
    refine ⟨d, mem_update_of_ne hd fun hdc => ?_, hdptr, hds⟩
    -- another timer with the same source would be at another index
    rw [hwf.eq_of_ptr hc hd hdc, hsource] at hds
    obtain rfl := h.eq_of_source hmem (hsub timer' htimer') hds
    obtain ⟨j, hj, hjk⟩ := List.mem_eraseIdx_iff_getElem?.mp htimer'
    refine hj ?_
    have hj' : (l.timers.map (·.source))[j]? = some timer.source := by
      rw [List.getElem?_map, hjk]
      rfl
    have hk' : (l.timers.map (·.source))[k]? = some timer.source := by
      rw [List.getElem?_map, hk]
      rfl
    have hlt : j < (l.timers.map (·.source)).length := (List.getElem?_eq_some_iff.mp hj').1
    exact (List.getElem?_inj hlt h.nodup).mp (hj'.trans hk'.symm)
  · obtain ⟨d, hd, rfl⟩ := mem_update hd'
    by_cases hdc : d.ptr = c.ptr
    · rw [if_pos hdc] at hset
      exact absurd rfl hset
    · rw [if_neg hdc] at hset ⊢
      obtain ⟨timer', htimer', hdptr, hds⟩ := h.linked d hd hset
      obtain ⟨j, hj⟩ := List.mem_iff_getElem?.mp htimer'
      refine ⟨timer', List.mem_eraseIdx_iff_getElem?.mpr ⟨j, fun hjk => ?_, hj⟩, hdptr, hds⟩
      subst hjk
      obtain rfl := Option.some.inj (hk.symm.trans hj)
      exact hdc (hdptr.symm.trans hptr)
  · exact h.source timer' (hsub timer' htimer')
  · exact h.nodup.sublist ((List.eraseIdx_sublist _ _).map _)

theorem TimersSound.flag (h : TimersSound l) (c : Context) (value : Bool) :
    TimersSound (l.flag c value) := by
  refine ⟨fun timer htimer => ?_, fun d' hd' hset => ?_, h.source, h.nodup, h.next⟩
  · obtain ⟨d, hd, hptr, hsource⟩ := h.armed timer htimer
    refine ⟨_, List.mem_map.mpr ⟨d, hd, rfl⟩, ?_⟩
    split <;> exact ⟨hptr, hsource⟩
  · obtain ⟨d, hd, rfl⟩ := Life.mem_update hd'
    split at hset
    · rename_i hdc
      rw [if_pos hdc]
      exact h.linked d hd hset
    · rename_i hdc
      rw [if_neg hdc]
      exact h.linked d hd hset

theorem Life.tell_timers (hwf : l.WellFormed cfg) (h : TimersSound l) (i : Idle) :
    TimersSound (l.tell i) := by
  cases i with
  | deviceRegistered id =>
    simp only [tell]
    cases l.find id with
    | none => exact h
    | some c => exact h.flag c true
  | deviceUnregistered id deleteContext =>
    simp only [tell]
    cases hfind : l.find id with
    | none => exact h
    | some c =>
      cases deleteContext with
      | true => exact delete_timers hwf h (mem_of_find hfind).1
      | false => exact h.flag c false
  | _ => exact h

theorem Life.apply_timers (hwf : l.WellFormed cfg) (h : TimersSound l) (hlegal : a.Legal cfg l) :
    TimersSound (a.apply l) := by
  cases a with
  | create c =>
    obtain ⟨-, ⟨-, hzero, -⟩, -⟩ := hlegal
    refine ⟨fun timer htimer => ?_, fun d hd hset => ?_, h.source, h.nodup, h.next⟩
    · obtain ⟨d, hd, hd'⟩ := h.armed timer htimer
      exact ⟨d, List.mem_append_left _ hd, hd'⟩
    · rcases List.mem_append.mp hd with hd | hd
      · exact h.linked d hd hset
      · rw [List.mem_singleton.mp hd] at hset
        exact absurd hzero hset
  | drop c => exact drop_timers hwf h hlegal
  | delete c => exact delete_timers hwf h hlegal
  | arm c delayMs => exact arm_timers hwf h hlegal.1 hlegal.2 delayMs
  | stop c => exact (stop_timers hwf h hlegal).1
  | send r =>
    simp only [Act.apply, send]
    split
    · exact h
    · exact h.congr rfl rfl rfl
  | fire k c =>
    obtain ⟨hc, timer, hk, hptr⟩ := hlegal
    exact fire_timers hwf h hc hk hptr
  | unregisterAll =>
    simp only [Act.apply, unregisterAll]
    split <;> exact h.congr rfl rfl rfl
  | tell i =>
    have hpop : TimersSound { l with idle := l.idle.tail } := h.congr rfl rfl rfl
    exact tell_timers (l := { l with idle := l.idle.tail }) (hwf.congr rfl rfl) hpop i
  | answer k ok =>
    simp only [Act.apply]
    split
    · exact h
    · rename_i sent _
      cases sent.request <;> cases ok <;> exact h.congr rfl rfl rfl
  | _ => exact h.congr rfl rfl rfl

end

/-- **Retry timers are sound in every run: each is armed for a tracked device, no device has two, and
a device has a source, that of its timer, exactly while one is armed for it.** -/
theorem retryTimers_sound {cfg : Config} {t : Translator} {now : Nat} {connection : Option Nat}
    {labels : List (Event × Answers)}
    (h : Run (step cfg) (fun _ _ => True) (start now connection) labels t) :
    (∀ timer ∈ t.timers, ∃ ble ∈ t.devices, ble.ptr = timer.ptr) ∧
      (t.timers.map (·.ptr)).Nodup ∧
      ∀ ble ∈ t.devices,
        (ble.retryTimerSource ≠ 0 ↔ ∃ timer ∈ t.timers, timer.ptr = ble.ptr) ∧
          ∀ timer ∈ t.timers, timer.ptr = ble.ptr → timer.source = ble.retryTimerSource := by
  have hstart : TimersSound (start now connection).life :=
    ⟨nofun, nofun, nofun, List.nodup_nil, Nat.one_pos⟩
  have hsound : TimersSound t.life :=
    run_life h hstart fun _ _ _ _ _ hwf hl hlegal _ => Life.apply_timers hwf hl hlegal
  have hwf := run_wellFormed h
  have harmed : ∀ timer ∈ t.timers, ∃ ble ∈ t.devices, ble.ptr = timer.ptr ∧
      ble.retryTimerSource = timer.source := by
    intro timer htimer
    obtain ⟨c, hc, hptr, hsource⟩ := hsound.armed timer htimer
    obtain ⟨ble, hble, rfl⟩ := List.mem_map.mp hc
    exact ⟨ble, hble, hptr, hsource⟩
  have hown : ∀ ble ∈ t.devices, ∀ timer ∈ t.timers, timer.ptr = ble.ptr →
      timer.source = ble.retryTimerSource := by
    intro ble hble timer htimer hptr
    obtain ⟨ble', hble', hptr', hsource⟩ := harmed timer htimer
    obtain rfl := eq_of_ptr hwf.ptr hble' hble (hptr'.trans hptr)
    exact hsource.symm
  refine ⟨fun timer htimer => ?_, ?_, fun ble hble => ⟨⟨fun hset => ?_, ?_⟩, hown ble hble⟩⟩
  · obtain ⟨ble, hble, hptr, -⟩ := harmed timer htimer
    exact ⟨ble, hble, hptr⟩
  · refine List.Nodup.map_on (fun timer htimer timer' htimer' hptr => ?_) hsound.nodup.of_map
    obtain ⟨ble, hble, hble', hsource⟩ := harmed timer htimer
    have hsource' := hown ble hble timer' htimer' (hptr.symm.trans hble'.symm)
    exact hsound.eq_of_source htimer htimer' (hsource.symm.trans hsource'.symm)
  · obtain ⟨timer, htimer, hptr, -⟩ := hsound.linked ble.context (context_mem hble) hset
    exact ⟨timer, htimer, hptr⟩
  · rintro ⟨timer, htimer, hptr⟩ hzero
    have hpos := (hsound.source timer htimer).1
    rw [hown ble hble timer htimer hptr] at hpos
    omega

/-- a device that was lost has its timer -/
theorem retryTimers_sound_lost : ∃ labels t,
    Run (step plainConfig) (fun _ _ => True) (start 0 (some 0)) labels t ∧
      t.timers = [⟨1, 0, 4000⟩] ∧
      ((∀ timer ∈ t.timers, ∃ ble ∈ t.devices, ble.ptr = timer.ptr) ∧
        (t.timers.map (·.ptr)).Nodup ∧
        ∀ ble ∈ t.devices,
          (ble.retryTimerSource ≠ 0 ↔ ∃ timer ∈ t.timers, timer.ptr = ble.ptr) ∧
            ∀ timer ∈ t.timers, timer.ptr = ble.ptr → timer.source = ble.retryTimerSource) := by
  have hany : (run (step plainConfig) (start 0 (some 0))
      (plainLabels (joins ++ [Event.connectedChanged plainProxy false]))).any
        (fun t => decide (t.timers = [⟨1, 0, 4000⟩])) = true := by
    decide +kernel
  obtain ⟨t, ht, htimers⟩ := exists_of_run_any hany
  exact ⟨_, t, Run.of_run ht, htimers, retryTimers_sound (Run.of_run ht)⟩

end EdgeTranslators.Ble
