import EdgeTranslators.Ble.Acts

/-!
# The back-off of the reconnections

`ble_start_reconnection_timer_or_unregister_device` counts a retry and arms a timer for it; a
`Connect` that goes well starts the count again.

* `bleBackOffTimeInMs_eq`     the delay is a capped power of three;
* `bleBackOffTimeInMsInt32`   the function on `int32_t`, with its assertion and its loop;
* `Unarmed`                   no timer is armed and no retry counted, with one lemma a function;
* `Retries`, `step_retries`   what a step does to the retries of the contexts;
* `RetryHistory`, `recordRetries`   a run, and the delays of the timers that were armed;
* `retryDelays_exponential`   the delays of every run.
-/

namespace EdgeTranslators.Ble
open Lib Pt

/-! ## the delay -/

theorem backOffLoop_of_le {retries sleepTime : Nat} (h : bleMaxBackOffTimeSecs ≤ sleepTime) :
    backOffLoop retries sleepTime = sleepTime := by
  cases retries with
  | zero => rfl
  | succ retries => exact if_neg (Nat.not_lt.mpr h)

/-- 4, 12, 36 and 108 seconds, and 324 from the fifth retry on -/
theorem bleBackOffTimeInMs_eq (k : Nat) :
    bleBackOffTimeInMs (k + 1) = 1000 * min (4 * 3 ^ k) 324 := by
  match k with
  | 0 | 1 | 2 | 3 => rfl
  | k + 4 =>
    have hloop : bleBackOffTimeInMs (k + 4 + 1) = backOffLoop k 324 * 1000 := rfl
    have hpow : 324 ≤ 4 * 3 ^ (k + 4) := by
      have hpos : 0 < 3 ^ k := Nat.pow_pos (by decide)
      rw [pow_add]
      omega
    rw [hloop, backOffLoop_of_le (by decide), Nat.min_eq_right hpow]

theorem bleBackOffTimeInMs_of_le {i : Nat} (h : 5 ≤ i) : bleBackOffTimeInMs i = 324000 := by
  obtain ⟨k, rfl⟩ := Nat.exists_eq_add_of_le' h
  have hloop : bleBackOffTimeInMs (k + 5) = backOffLoop k 324 * 1000 := rfl
  rw [hloop, backOffLoop_of_le (by decide)]

theorem bleBackOffTimeInMs_of_lt {i : Nat} (h : i < 5) :
    bleBackOffTimeInMs i ≤ bleMaxBackOffTimeSecs * 1000 := by
  match i with
  | 0 | 1 | 2 | 3 | 4 => decide
  | i + 5 => omega

/-- the result of an `int32_t` computation; `none` is an overflow -/
def int32 (x : Int) : Option Int := if -2 ^ 31 ≤ x ∧ x < 2 ^ 31 then some x else none

/-- the loop of `ble_back_off_time_in_ms`, of which `fuel` rounds are run -/
def backOffLoopInt32 : (fuel : Nat) → (retryIndex sleepTime : Int) → Option Int
  | 0, _, _ => none
  | fuel + 1, retryIndex, sleepTime =>
    if retryIndex > 1 ∧ sleepTime < bleMaxBackOffTimeSecs then do
      let product ← int32 (sleepTime * bleSleepTimeMultiplier)
      let sleepTime ← int32 (sleepTime + product)
      let retryIndex ← int32 (retryIndex - 1)
      backOffLoopInt32 fuel retryIndex sleepTime
    else some sleepTime

/-- `ble_back_off_time_in_ms`; `none` if its assertion fails, a computation overflows or the loop
goes on after `fuel` rounds -/
def bleBackOffTimeInMsInt32 (fuel : Nat) (retryIndex : Int) : Option Int :=
  if retryIndex > 0 then
    (backOffLoopInt32 fuel retryIndex bleRetrySleepTimeInitialSecs).bind fun sleepTime =>
      int32 (sleepTime * 1000)
  else none

theorem int32_eq {x : Int} (h : -2 ^ 31 ≤ x ∧ x < 2 ^ 31) : int32 x = some x := if_pos h

/-- a round of the loop makes the sleep time three times as long, and keeps both numbers small -/
theorem backOffLoopInt32_round {fuel retries sleepTime : Nat} (hretries : retries < 2 ^ 31 - 2)
    (hlt : sleepTime < bleMaxBackOffTimeSecs) :
    backOffLoopInt32 (fuel + 1) ((retries + 2 : Nat) : Int) (sleepTime : Int) =
      backOffLoopInt32 fuel ((retries + 1 : Nat) : Int) ((sleepTime * 3 : Nat) : Int) := by
  have hsmall : sleepTime < 300 := hlt
  have hproduct : int32 ((sleepTime : Int) * bleSleepTimeMultiplier) =
      some ((sleepTime : Int) * bleSleepTimeMultiplier) :=
    int32_eq (by unfold bleSleepTimeMultiplier; omega)
  have htriple : (sleepTime : Int) + (sleepTime : Int) * bleSleepTimeMultiplier =
      ((sleepTime * 3 : Nat) : Int) := by
    unfold bleSleepTimeMultiplier
    omega
  have hsum : int32 ((sleepTime : Int) + (sleepTime : Int) * bleSleepTimeMultiplier) =
      some ((sleepTime * 3 : Nat) : Int) := by
    rw [htriple]
    exact int32_eq (by omega)
  have hindex : int32 (((retries + 2 : Nat) : Int) - 1) = some ((retries + 1 : Nat) : Int) := by
    have heq : ((retries + 2 : Nat) : Int) - 1 = ((retries + 1 : Nat) : Int) := by omega
    rw [heq]
    exact int32_eq (by omega)
  conv_lhs => unfold backOffLoopInt32
  rw [if_pos (by omega), hproduct, Option.bind_eq_bind, Option.bind_some, hsum, Option.bind_some,
    hindex, Option.bind_some]

theorem backOffLoopInt32_eq {fuel retries sleepTime : Nat} (hretries : retries < 2 ^ 31 - 1)
    (hfuel : bleMaxBackOffTimeSecs ≤ sleepTime * 3 ^ fuel) :
    backOffLoopInt32 (fuel + 1) ((retries + 1 : Nat) : Int) (sleepTime : Int) =
      some ((backOffLoop retries sleepTime : Nat) : Int) := by
  induction fuel generalizing retries sleepTime with
  | zero =>
    have hle : bleMaxBackOffTimeSecs ≤ sleepTime := by simpa using hfuel
    unfold backOffLoopInt32
    rw [if_neg (by omega), backOffLoop_of_le hle]
  | succ fuel ih =>
    by_cases hlt : sleepTime < bleMaxBackOffTimeSecs
    · cases retries with
      | zero =>
        unfold backOffLoopInt32
        rw [if_neg (by omega)]
        rfl
      | succ retries =>
        have hnat : backOffLoop (retries + 1) sleepTime = backOffLoop retries (sleepTime * 3) := by
          have htriple : sleepTime + sleepTime * bleSleepTimeMultiplier = sleepTime * 3 := by
            unfold bleSleepTimeMultiplier
            omega
          exact (if_pos hlt).trans (by rw [htriple])
        rw [backOffLoopInt32_round (by omega) hlt, hnat]
        refine ih (by omega) ?_
        rw [Nat.mul_assoc, ← Nat.pow_succ']
        exact hfuel
    · have hle : bleMaxBackOffTimeSecs ≤ sleepTime := Nat.le_of_not_lt hlt
      unfold backOffLoopInt32
      rw [if_neg (by omega), backOffLoop_of_le hle]

/-- **No computation of `ble_back_off_time_in_ms` overflows, and its loop ends after four
rounds.** -/
theorem bleBackOffTimeInMsInt32_eq {fuel i : Nat} (hfuel : 5 ≤ fuel) (hpos : 1 ≤ i)
    (hle : i ≤ bleMaxConnectionRetries) :
    bleBackOffTimeInMsInt32 fuel (i : Int) = some ((bleBackOffTimeInMs i : Nat) : Int) := by
  obtain ⟨fuel, rfl⟩ := Nat.exists_eq_add_of_le' hfuel
  obtain ⟨k, rfl⟩ := Nat.exists_eq_add_of_le' hpos
  have hsmall : k + 1 ≤ 10000 := hle
  have hpow : bleMaxBackOffTimeSecs ≤ bleRetrySleepTimeInitialSecs * 3 ^ (fuel + 4) := by
    have hge : 1 ≤ 3 ^ fuel := Nat.pow_pos (by decide)
    have hfour : bleRetrySleepTimeInitialSecs * 3 ^ (fuel + 4) = 324 * 3 ^ fuel := by
      unfold bleRetrySleepTimeInitialSecs
      rw [pow_add]
      omega
    rw [hfour]
    unfold bleMaxBackOffTimeSecs
    omega
  have hdelay := bleBackOffTimeInMs_eq k
  unfold bleBackOffTimeInMsInt32
  rw [if_pos (by omega), backOffLoopInt32_eq (by omega) hpow, Option.bind_some]
  have heq : ((backOffLoop k bleRetrySleepTimeInitialSecs : Nat) : Int) * 1000 =
      ((bleBackOffTimeInMs (k + 1) : Nat) : Int) := by
    have hdef : bleBackOffTimeInMs (k + 1) =
        backOffLoop k bleRetrySleepTimeInitialSecs * 1000 := rfl
    rw [hdef]
    push_cast
    rfl
  rw [heq]
  exact int32_eq (by omega)

/-! ## functions that arm no timer -/

/-- no timer is armed, no context is created and no retry counted -/
structure Unarmed (t t' : Translator) : Prop where
  timers : ∀ timer ∈ t'.timers, timer ∈ t.timers
  nextSource : t'.nextSource = t.nextSource
  nextPtr : t'.nextPtr = t.nextPtr
  devices : ∀ d' ∈ t'.devices, ∃ d ∈ t.devices, d'.ptr = d.ptr ∧
    d'.connectionRetries = d.connectionRetries

section
variable {cfg : Config} {ans : Answers} {t t' t'' : Translator} {ble ble' : BleDevice}
  {proxy : DeviceProxy}

theorem Unarmed.refl (t : Translator) : Unarmed t t :=
  ⟨fun _ h => h, rfl, rfl, fun d hd => ⟨d, hd, rfl, rfl⟩⟩

theorem Unarmed.trans (h : Unarmed t t') (h' : Unarmed t' t'') : Unarmed t t'' := by
  refine ⟨fun timer htimer => h.timers timer (h'.timers timer htimer),
    h'.nextSource.trans h.nextSource, h'.nextPtr.trans h.nextPtr, ?_⟩
  intro d'' hd''
  obtain ⟨d', hd', hptr', hretries'⟩ := h'.devices d'' hd''
  obtain ⟨d, hd, hptr, hretries⟩ := h.devices d' hd'
  exact ⟨d, hd, hptr'.trans hptr, hretries'.trans hretries⟩

theorem Unarmed.congr (hdevices : t'.devices = t.devices) (htimers : t'.timers = t.timers)
    (hsource : t'.nextSource = t.nextSource) (hptr : t'.nextPtr = t.nextPtr) : Unarmed t t' := by
  refine ⟨?_, hsource, hptr, ?_⟩
  · rw [htimers]
    exact fun _ h => h
  · rw [hdevices]
    exact fun d hd => ⟨d, hd, rfl, rfl⟩

theorem devicesSet_unarmed (hble : ble ∈ t.devices) (hptr : ble'.ptr = ble.ptr)
    (hretries : ble'.connectionRetries = ble.connectionRetries) :
    Unarmed t (t.set ble') := by
  refine ⟨fun _ h => h, rfl, rfl, ?_⟩
  intro d hd
  rcases mem_devicesSet hd with rfl | hd
  · exact ⟨ble, hble, hptr, hretries⟩
  · exact ⟨d, hd, rfl, rfl⟩

theorem send_unarmed (t : Translator) (r : Request) : Unarmed t (t.send r) := by
  unfold Translator.send
  split <;> exact .congr rfl rfl rfl rfl

theorem deviceStopRetryTimer_unarmed (hble : ble ∈ t.devices) :
    Unarmed t (deviceStopRetryTimer t ble) := by
  unfold deviceStopRetryTimer
  split
  · exact .refl t
  · have hfilter : Unarmed t
        { t with timers := t.timers.filter fun timer => timer.source ≠ ble.retryTimerSource } :=
      { Unarmed.refl t with timers := fun _ h => List.mem_of_mem_filter h }
    exact hfilter.trans (devicesSet_unarmed hble rfl rfl)

theorem devicesDelDevice_unarmed (hble : ble ∈ t.devices) :
    Unarmed t (devicesDelDevice t ble) := by
  refine (deviceStopRetryTimer_unarmed hble).trans ?_
  refine { Unarmed.refl _ with devices := ?_ }
  intro d hd
  exact ⟨d, List.mem_of_mem_filter hd, rfl, rfl⟩

theorem ptEdgeDelDevice_unarmed (hble : ble ∈ t.devices) :
    Unarmed t (ptEdgeDelDevice t ble) := by
  have hdel := devicesDelDevice_unarmed hble
  unfold ptEdgeDelDevice
  simp only
  split
  · exact hdel.trans (.congr rfl rfl rfl rfl)
  · exact hdel

theorem edgeRegisterDevice_unarmed (ans : Answers) (t : Translator) (id : String) :
    Unarmed t (edgeRegisterDevice ans t id) := by
  have heffect : ∀ e, Unarmed t (t.addEffect e) := fun _ => .congr rfl rfl rfl rfl
  unfold edgeRegisterDevice
  simp only
  split
  · exact (heffect _).trans (send_unarmed _ _)
  · exact heffect _

theorem deviceRegisterDevice_unarmed (ans : Answers) (t : Translator) (ble : BleDevice) :
    Unarmed t (deviceRegisterDevice ans t ble) := by
  unfold deviceRegisterDevice
  split
  · exact .refl t
  · exact edgeRegisterDevice_unarmed ans t ble.deviceId

theorem protocolTranslatorRegistrationSuccess_unarmed (ans : Answers) (t : Translator) :
    Unarmed t (protocolTranslatorRegistrationSuccess ans t) :=
  List.foldlRecOn (motive := Unarmed t) _ _ (.refl t) fun _ h _ _ =>
    h.trans (edgeRegisterDevice_unarmed ans _ _)

theorem edgeUnregisterOrDelete_unarmed (ans : Answers) (hble : ble ∈ t.devices) :
    Unarmed t (edgeUnregisterOrDelete ans t ble) := by
  unfold edgeUnregisterOrDelete
  rw [edgeUnregisterDevice_eq]
  by_cases h : unregisterFails ans t ble = true
  · rw [if_pos h]
    exact ptEdgeDelDevice_unarmed hble
  · rw [if_neg h]
    exact send_unarmed t _

theorem giveUpDevice_unarmed (ans : Answers) (hble : ble ∈ t.devices) (rm : Bool) :
    Unarmed t (giveUpDevice ans t ble rm) := by
  have heffect : Unarmed t (t.addEffect (.gaveUp ble.deviceId rm)) := .congr rfl rfl rfl rfl
  unfold giveUpDevice
  rw [edgeUnregisterDevice_eq]
  by_cases h : unregisterFails ans (t.addEffect (.gaveUp ble.deviceId rm)) ble = true
  · rw [if_pos h]
    cases rm with
    | true => exact heffect.trans (ptEdgeDelDevice_unarmed hble)
    | false => exact heffect
  · rw [if_neg h]
    exact heffect.trans (send_unarmed _ _)

theorem resolve_unarmed (ans : Answers) (hble : ble ∈ t.devices) :
    Unarmed t (t.resolve cfg ans ble) := by
  obtain ⟨services, jsonList, translations, heq⟩ := (resolveServices_spec cfg ans t ble).fields
  have hclient : Unarmed t { t with client := (resolveServices cfg ans t ble).2 } :=
    .congr rfl rfl rfl rfl
  have hmem : ble ∈ ({ t with client := (resolveServices cfg ans t ble).2 } : Translator).devices :=
    hble
  refine hclient.trans (devicesSet_unarmed hmem ?_ ?_) <;> rw [heq]

theorem bleOnServicesResolved_unarmed (ans : Answers) (proxy : DeviceProxy)
    (hwf : WellFormed cfg t) : Unarmed t (bleOnServicesResolved cfg ans t proxy) := by
  rcases bleOnServicesResolved_cases cfg ans t proxy with
    ⟨heq, -⟩ | ⟨ble, hfind, -, ⟨-, heq⟩ | ⟨-, heq⟩⟩
  · rw [heq]
    exact .refl t
  · rw [heq]
    exact deviceRegisterDevice_unarmed ans t ble
  · rw [heq]
    exact (resolve_unarmed ans (mem_of_bleFindDeviceFromProxy hwf hfind).1).trans
      (deviceRegisterDevice_unarmed ans _ _)

theorem ptReadyDevice_unarmed (ans : Answers) (hwf : WellFormed cfg t) (ptr : Nat) :
    Unarmed t (ptReadyDevice cfg ans t ptr) := by
  rcases ptReadyDevice_cases cfg ans t ptr with heq | ⟨ble, -, -, -, -, client, -, heq⟩
  · rw [heq]
    exact .refl t
  · have hclient : Unarmed t { t with client } := .congr rfl rfl rfl rfl
    rw [heq]
    split
    · exact hclient.trans (bleOnServicesResolved_unarmed ans _ (hwf.congr rfl rfl))
    · exact hclient

theorem ptBlePtReady_unarmed (ans : Answers) (hwf : WellFormed cfg t) :
    Unarmed t (ptBlePtReady cfg ans t) := by
  have hfold : WellFormed cfg (ptBlePtReady cfg ans t) ∧ Unarmed t (ptBlePtReady cfg ans t) := by
    refine List.foldlRecOn (motive := fun t₁ : Translator => WellFormed cfg t₁ ∧ Unarmed t t₁) _ _
      ⟨hwf, .refl t⟩ ?_
    intro t₁ ⟨hwf₁, h₁⟩ ptr _
    exact ⟨ptReadyDevice_wellFormed ans hwf₁ ptr, h₁.trans (ptReadyDevice_unarmed ans hwf₁ ptr)⟩
  exact hfold.2

theorem bleRemoveDevice_unarmed (ans : Answers) (hble : ble ∈ t.devices) :
    Unarmed t (bleRemoveDevice ans t ble) := by
  have hstop := deviceStopRetryTimer_unarmed hble
  unfold bleRemoveDevice
  simp only
  split
  · exact hstop.trans (.congr rfl rfl rfl rfl)
  · exact hstop

theorem removeDevices_unarmed (ans : Answers) (devices : List BleDevice)
    (hnodup : (devices.map (·.ptr)).Nodup) (hsub : devices ⊆ t.devices) :
    Unarmed t (devices.foldl (bleRemoveDevice ans) t) := by
  induction devices generalizing t with
  | nil => exact .refl t
  | cons d devices ih =>
    obtain ⟨hd, hnodup⟩ := List.nodup_cons.mp hnodup
    refine (bleRemoveDevice_unarmed ans (hsub List.mem_cons_self)).trans (ih hnodup ?_)
    intro d' hd'
    apply bleRemoveDevice_mem ans (hsub (List.mem_cons_of_mem _ hd'))
    intro hptr
    exact hd (List.mem_map.mpr ⟨d', hd', hptr⟩)

theorem unregisterDevices_unarmed (ans : Answers) (hptr : (t.devices.map (·.ptr)).Nodup) :
    Unarmed t (unregisterDevices ans t) := by
  have hflag : Unarmed t { t with unregisteringDevices := true } := .congr rfl rfl rfl rfl
  unfold unregisterDevices
  split
  · exact .refl t
  · simp only
    split
    · exact hflag.trans (.congr rfl rfl rfl rfl)
    · exact hflag.trans (removeDevices_unarmed ans t.devices hptr (List.Subset.refl _))

theorem ptBleGracefulShutdown_unarmed (ans : Answers) (hptr : (t.devices.map (·.ptr)).Nodup) :
    Unarmed t (ptBleGracefulShutdown ans t) := by
  have hflag : Unarmed t { t with keepRunning := false } := .congr rfl rfl rfl rfl
  have hquit : Unarmed t (t.addIdle .quitLoop) := .congr rfl rfl rfl rfl
  unfold ptBleGracefulShutdown
  split
  · exact hflag.trans (unregisterDevices_unarmed ans hptr)
  · exact hquit.trans (unregisterDevices_unarmed ans hptr)

theorem runIdle_unarmed (ans : Answers) (i : Idle) (hwf : WellFormed cfg t) :
    Unarmed t (runIdle cfg ans t i) := by
  cases i with
  | deviceRegistered id =>
    show Unarmed t (deviceRegistered t id)
    unfold deviceRegistered
    cases hfind : devicesFindDeviceByDeviceId t.devices id with
    | none => exact .refl t
    | some ble =>
      exact devicesSet_unarmed (mem_of_devicesFindDeviceByDeviceId hfind).1 rfl rfl
  | deviceUnregistered id deleteContext =>
    show Unarmed t (deviceUnregistered t id deleteContext)
    unfold deviceUnregistered
    cases hfind : devicesFindDeviceByDeviceId t.devices id with
    | none => exact .refl t
    | some ble =>
      have hble := (mem_of_devicesFindDeviceByDeviceId hfind).1
      cases deleteContext with
      | true => exact ptEdgeDelDevice_unarmed hble
      | false => exact devicesSet_unarmed hble rfl rfl
  | ptReady => exact ptBlePtReady_unarmed ans hwf
  | quitLoop =>
    show Unarmed t (ptBleGMainQuitLoop t)
    unfold ptBleGMainQuitLoop
    split <;> exact .congr rfl rfl rfl rfl
  | gracefulShutdown => exact ptBleGracefulShutdown_unarmed ans hwf.ptr

/-! ## values of characteristics -/

theorem deviceWriteCharacteristic_retries (h : Host) (c : Client) (ble : BleDevice) (p : Path)
    (value : Bytes) (outcome : WriteOutcome) :
    (deviceWriteCharacteristic h c ble p value outcome).device.ptr = ble.ptr ∧
      (deviceWriteCharacteristic h c ble p value outcome).device.connectionRetries =
        ble.connectionRetries := by
  have hcases := deviceWriteCharacteristic_cases h c ble p value outcome
  generalize deviceWriteCharacteristic h c ble p value outcome = r at hcases ⊢
  cases hroute : writeRoute h c ble p value with
  | none =>
    rw [hroute] at hcases
    rw [hcases.device]
    exact ⟨rfl, rfl⟩
  | some route =>
    rw [hroute] at hcases
    by_cases hrc : r.rc = 0
    · rw [(hcases.stored hrc).1]
      exact ⟨rfl, rfl⟩
    · rw [(hcases.failed hrc).1]
      exact ⟨rfl, rfl⟩

theorem resourceCallbackHandler_unarmed (h : Host) (id : String) (p : Path) (operation : UInt8)
    (value : Bytes) (outcome : WriteOutcome) :
    Unarmed t { t with
      devices := (resourceCallbackHandler h t.keepRunning t.devices t.client id p operation value
        outcome).2.1
      client := (resourceCallbackHandler h t.keepRunning t.devices t.client id p operation value
        outcome).2.2 } := by
  unfold resourceCallbackHandler
  split
  · exact .refl t
  · cases hfind : devicesFindDeviceByDeviceId t.devices id with
    | none => exact .refl t
    | some ble =>
      simp only
      split
      · have hble := (mem_of_devicesFindDeviceByDeviceId hfind).1
        have hsame := deviceWriteCharacteristic_retries h t.client ble p value outcome
        exact (devicesSet_unarmed hble hsame.1 hsame.2).trans (.congr rfl rfl rfl rfl)
      · split <;> exact .refl t

theorem bleReadCharacteristicCallback_unarmed (h : Host) {id : String} {i j : Nat}
    {outcome : ReadOutcome} {r : List BleDevice × Client}
    (hr : bleReadCharacteristicCallback h t.client t.devices id i j outcome = some r) :
    Unarmed t { t with devices := r.1, client := r.2 } := by
  unfold bleReadCharacteristicCallback at hr
  cases outcome with
  | failed =>
    cases hr
    exact .refl t
  | reply reply =>
    simp only [Option.bind_eq_some_iff, Option.map_eq_some_iff] at hr
    obtain ⟨ble, hfind, c, -, rfl⟩ := hr
    have hble := (mem_of_devicesFindDeviceByDeviceId hfind).1
    have hset : Unarmed t (t.set ((ble.setChar i j (c.parse h reply)).setChar i j
        ((c.parse h reply).swap h.byteOrder))) := devicesSet_unarmed hble rfl rfl
    exact hset.trans (.congr rfl rfl rfl rfl)

theorem bleRetryConnect_unarmed {ptr : Nat} (h : bleRetryConnect t ptr = some t') :
    Unarmed t t' := by
  obtain ⟨ble, hfind, rfl⟩ := Option.map_eq_some_iff.mp h
  have hcall : Unarmed t (bleProxyConnect t ble.proxy) := .congr rfl rfl rfl rfl
  exact hcall.trans (devicesSet_unarmed (List.mem_of_find?_eq_some hfind) rfl rfl)

/-! ## functions that count a retry or start the count again -/

/-- no timer is armed; the retries of the context at `ptr` are `n`, those of the others the same -/
structure Counts (ptr n : Nat) (t t' : Translator) : Prop where
  timers : ∀ timer ∈ t'.timers, timer ∈ t.timers
  nextSource : t'.nextSource = t.nextSource
  nextPtr : t'.nextPtr = t.nextPtr
  at_ : ∀ d' ∈ t'.devices, d'.ptr = ptr → d'.connectionRetries = n
  others : ∀ d' ∈ t'.devices, d'.ptr ≠ ptr → ∃ d ∈ t.devices, d'.ptr = d.ptr ∧
    d'.connectionRetries = d.connectionRetries

theorem Counts.trans_unarmed {ptr n : Nat} (h : Counts ptr n t t') (h' : Unarmed t' t'') :
    Counts ptr n t t'' := by
  refine ⟨fun timer htimer => h.timers timer (h'.timers timer htimer),
    h'.nextSource.trans h.nextSource, h'.nextPtr.trans h.nextPtr, ?_, ?_⟩
  · intro d'' hd'' hptr
    obtain ⟨d', hd', hptr', hretries⟩ := h'.devices d'' hd''
    exact hretries.trans (h.at_ d' hd' (hptr'.symm.trans hptr))
  · intro d'' hd'' hne
    obtain ⟨d', hd', hptr', hretries'⟩ := h'.devices d'' hd''
    obtain ⟨d, hd, hptr, hretries⟩ := h.others d' hd' (fun heq => hne (hptr'.trans heq))
    exact ⟨d, hd, hptr'.trans hptr, hretries'.trans hretries⟩

theorem Unarmed.trans_counts {ptr n : Nat} (h : Unarmed t t') (h' : Counts ptr n t' t'') :
    Counts ptr n t t'' := by
  refine ⟨fun timer htimer => h.timers timer (h'.timers timer htimer),
    h'.nextSource.trans h.nextSource, h'.nextPtr.trans h.nextPtr, h'.at_, ?_⟩
  intro d'' hd'' hne
  obtain ⟨d', hd', hptr', hretries'⟩ := h'.others d'' hd'' hne
  obtain ⟨d, hd, hptr, hretries⟩ := h.devices d' hd'
  exact ⟨d, hd, hptr'.trans hptr, hretries'.trans hretries⟩

theorem set_counts (t : Translator) (ble : BleDevice) :
    Counts ble.ptr ble.connectionRetries t (t.set ble) := by
  have hmem : ∀ d ∈ (t.set ble).devices, (d = ble) ∨ (d ∈ t.devices ∧ d.ptr ≠ ble.ptr) := by
    intro d hd
    obtain ⟨d₀, hd₀, rfl⟩ := List.mem_map.mp hd
    split
    · exact .inl rfl
    · rename_i hne
      exact .inr ⟨hd₀, hne⟩
  refine ⟨fun _ h => h, rfl, rfl, ?_, ?_⟩
  · intro d hd hptr
    rcases hmem d hd with rfl | ⟨-, hne⟩
    · rfl
    · exact absurd hptr hne
  · intro d hd hne
    rcases hmem d hd with rfl | ⟨hd, -⟩
    · exact absurd rfl hne
    · exact ⟨d, hd, rfl, rfl⟩

theorem Counts.trans_set {ptr n : Nat} (h : Counts ptr n t t') (hptr : ble.ptr = ptr)
    (hretries : ble.connectionRetries = n) : Counts ptr n t (t'.set ble) := by
  have hset := set_counts t' ble
  rw [hptr, hretries] at hset
  refine ⟨h.timers, h.nextSource, h.nextPtr, hset.at_, ?_⟩
  intro d'' hd'' hne
  obtain ⟨d', hd', hptr', hretries'⟩ := hset.others d'' hd'' hne
  obtain ⟨d, hd, hptr, hretries⟩ := h.others d' hd' (fun heq => hne (hptr'.trans heq))
  exact ⟨d, hd, hptr'.trans hptr, hretries'.trans hretries⟩

/-- the count of retries after one more -/
def nextRetry (retries : Nat) : Nat :=
  if retries < bleMaxConnectionRetries then retries + 1 else retries

/-- a context with no retry is made -/
structure AddsDevice (t t' : Translator) : Prop where
  timers : ∀ timer ∈ t'.timers, timer ∈ t.timers
  nextSource : t'.nextSource = t.nextSource
  nextPtr : t'.nextPtr = t.nextPtr + 1
  devices : ∀ d' ∈ t'.devices, (d'.ptr = t.nextPtr ∧ d'.connectionRetries = 0) ∨
    ∃ d ∈ t.devices, d'.ptr = d.ptr ∧ d'.connectionRetries = d.connectionRetries

/-- what a step does to the retries, and the context that it connects -/
inductive Retries (t t' : Translator) : (connected : Option Nat) → Prop where
  | unarmed (h : Unarmed t t') : Retries t t' none
  | created (h : AddsDevice t t') : Retries t t' none
  | connected {ble : BleDevice} (hble : ble ∈ t.devices) (h : Counts ble.ptr 0 t t') :
      Retries t t' (some ble.ptr)
  | skipped {ble : BleDevice} (hble : ble ∈ t.devices)
      (hexceeded : bleMaxBackOffTimeSecs * 1000 <
        bleBackOffTimeInMs (nextRetry ble.connectionRetries))
      (h : Counts ble.ptr (nextRetry ble.connectionRetries) t t') : Retries t t' none
  | armed {ble ble' : BleDevice} {t₁ : Translator} (hble : ble ∈ t.devices)
      (hptr : ble'.ptr = ble.ptr)
      (hretries : ble'.connectionRetries = nextRetry ble.connectionRetries)
      (h : Counts ble'.ptr ble'.connectionRetries t t₁)
      (heq : t' = armRetryTimer t₁ ble' (bleBackOffTimeInMs ble'.connectionRetries)) :
      Retries t t' none

theorem Unarmed.trans_retries {connected : Option Nat} (h : Unarmed t t')
    (h' : Retries t' t'' connected) : Retries t t'' connected := by
  cases h' with
  | unarmed h' => exact .unarmed (h.trans h')
  | created h' =>
    refine .created ⟨fun timer htimer => h.timers timer (h'.timers timer htimer),
      h'.nextSource.trans h.nextSource, by rw [h'.nextPtr, h.nextPtr], ?_⟩
    intro d'' hd''
    rw [← h.nextPtr]
    rcases h'.devices d'' hd'' with hnew | ⟨d', hd', hptr', hretries'⟩
    · exact .inl hnew
    · obtain ⟨d, hd, hptr, hretries⟩ := h.devices d' hd'
      exact .inr ⟨d, hd, hptr'.trans hptr, hretries'.trans hretries⟩
  | connected hble h' =>
    obtain ⟨d, hd, hptr, -⟩ := h.devices _ hble
    rw [hptr] at h' ⊢
    exact .connected hd (h.trans_counts h')
  | skipped hble hexceeded h' =>
    obtain ⟨d, hd, hptr, hretries⟩ := h.devices _ hble
    rw [hptr, hretries] at h'
    rw [hretries] at hexceeded
    exact .skipped hd hexceeded (h.trans_counts h')
  | armed hble hptr' hretries' h' heq =>
    obtain ⟨d, hd, hptr, hretries⟩ := h.devices _ hble
    exact .armed hd (hptr'.trans hptr) (hretries'.trans (by rw [hretries])) (h.trans_counts h') heq

theorem bleStartReconnection_retries (ans : Answers) (hble : ble ∈ t.devices) :
    Retries t (bleStartReconnectionTimerOrUnregisterDevice ans t ble) none := by
  have hptr : (countRetry ble).ptr = ble.ptr := congrArg Context.ptr (countRetry_context ble)
  have hretries : (countRetry ble).connectionRetries = nextRetry ble.connectionRetries :=
    countRetry_connectionRetries ble
  have hset := set_counts t (countRetry ble)
  have hmem : countRetry ble ∈ (t.set (countRetry ble)).devices :=
    devicesSet_mem_of_ptr hble hptr.symm
  unfold bleStartReconnectionTimerOrUnregisterDevice
  by_cases hzero : ble.retryTimerSource = 0
  · rw [if_pos hzero]
    simp only
    -- the device may be given up before its timer is armed
    have hgiven : Counts (countRetry ble).ptr (countRetry ble).connectionRetries t
        (if givesUp t ble then
          giveUpDevice ans (t.set (countRetry ble)) (countRetry ble) (removesDeviceContext t ble)
        else t.set (countRetry ble)) := by
      split
      · exact hset.trans_unarmed (giveUpDevice_unarmed ans hmem _)
      · exact hset
    by_cases hremoves : removesDeviceContext t ble = true
    · have hexceeded : backOffExceeded ble = true := by
        unfold removesDeviceContext at hremoves
        exact (of_decide_eq_true hremoves).1
      unfold backOffExceeded at hexceeded
      rw [if_pos hremoves]
      rw [hptr, hretries] at hgiven
      rw [hretries] at hexceeded
      exact .skipped hble (of_decide_eq_true hexceeded) hgiven
    · rw [if_neg hremoves]
      exact .armed hble hptr hretries hgiven rfl
  · rw [if_neg hzero]
    exact .unarmed (.refl t)

theorem bleConnected_counts (ans : Answers) (proxy : DeviceProxy) (hwf : WellFormed cfg t)
    (hble : ble ∈ t.devices) : Counts ble.ptr 0 t (bleConnected cfg ans t proxy ble) := by
  have hset : Counts ble.ptr 0 t (t.set (refresh t ble)) := set_counts t (refresh t ble)
  have hwf₁ : WellFormed cfg (t.set (refresh t ble)) := hwf.set hble rfl
  rcases bleConnected_cases cfg ans t proxy ble with
    ⟨-, heq⟩ | ⟨-, -, -, heq⟩ | ⟨-, -, client, -, heq⟩
  · rw [heq]
    exact hset
  · rw [heq]
    exact hset.trans_unarmed (devicesDelDevice_unarmed (refresh_mem hble))
  · have hclient : Unarmed (t.set (refresh t ble)) { t.set (refresh t ble) with client } :=
      .congr rfl rfl rfl rfl
    rw [heq]
    split
    · exact hset.trans_unarmed
        (hclient.trans (bleOnServicesResolved_unarmed ans proxy (hwf₁.congr rfl rfl)))
    · exact hset.trans_unarmed hclient

theorem bleNewDevice_retries (cfg : Config) (t : Translator) (proxy : DeviceProxy) :
    Retries t (bleNewDevice cfg t proxy) none := by
  unfold bleNewDevice
  split
  · rcases bleCreateDeviceContext_cases cfg t proxy .persistentGattServer with
      ⟨heq, -⟩ | ⟨a, -, -, heq⟩
    · rw [heq]
      exact .unarmed (.congr rfl rfl rfl rfl)
    · rw [heq]
      refine .created ⟨fun _ h => h, rfl, rfl, ?_⟩
      intro d hd
      rcases List.mem_append.mp hd with hd | hd
      · exact .inr ⟨d, hd, rfl, rfl⟩
      · obtain rfl := List.mem_singleton.mp hd
        exact .inl ⟨rfl, rfl⟩
  · exact .unarmed (.refl t)

theorem answer_unarmed (t : Translator) (request : Request) (ok : Bool) :
    Unarmed t (t.answer request ok) := by
  cases request <;> cases ok <;> exact .congr rfl rfl rfl rfl

/-- **What a handler does to the retries.** -/
theorem handle_retries {e : Event} (hwf : WellFormed cfg t) (h : handle cfg ans t e = some t') :
    Retries t t' ((connectedContext cfg t e).map (·.ptr)) := by
  have hcalls : ∀ k, WellFormed cfg { t with calls := t.calls.eraseIdx k } :=
    fun k => hwf.congr rfl rfl
  have hcall : ∀ k, Unarmed t { t with calls := t.calls.eraseIdx k } :=
    fun _ => .congr rfl rfl rfl rfl
  have hlink : ∀ links, Unarmed t { t with links } := fun _ => .congr rfl rfl rfl rfl
  cases handled_of_handle h with
  | tick _ | disconnected => exact .unarmed (.congr rfl rfl rfl rfl)
  | objectUnknown _ => exact .unarmed (.refl t)
  | @objectAdded proxy connected resolved links hlinks =>
    exact (hlink links).trans_retries (bleNewDevice_retries cfg { t with links } proxy)
  | @objectRemoved _ ble hpath hfind =>
    exact .unarmed (edgeUnregisterOrDelete_unarmed ans (List.mem_of_find?_eq_some hfind))
  | @connectUnknown k proxy ok hcall' hfind =>
    have hnone : connectedContext cfg t (.connectDone k ok) = none := by
      cases ok with
      | true => simp only [connectedContext, hcall', hfind]
      | false => rfl
    rw [hnone]
    exact .unarmed (hcall k)
  | @connected k proxy ble hcall' hfind =>
    have hsome : connectedContext cfg t (.connectDone k true) = some ble := by
      simp only [connectedContext, hcall', hfind]
    have hble := (mem_of_bleFindDeviceFromProxy hwf hfind).1
    rw [hsome]
    exact .connected hble
      ((hcall k).trans_counts (bleConnected_counts ans proxy (hcalls k) hble))
  | @connectFailed k proxy ble hcall' hfind =>
    have hble : ble ∈ ({ t with calls := t.calls.eraseIdx k } : Translator).devices :=
      (mem_of_bleFindDeviceFromProxy hwf hfind).1
    exact (hcall k).trans_retries (bleStartReconnection_retries ans hble)
  | removeUnknown _ => exact .unarmed (hcall _)
  | @removeDeviceDone k ble hcall' hfind =>
    have hble : ble ∈ ({ t with calls := t.calls.eraseIdx k } : Translator).devices :=
      (mem_of_devicesFindDeviceByDeviceId hfind).1
    exact .unarmed ((hcall k).trans (edgeUnregisterOrDelete_unarmed ans hble))
  | @readReply k id srvc ch outcome r hcall' hr =>
    have hread : Unarmed { t with calls := t.calls.eraseIdx k }
        { t with calls := t.calls.eraseIdx k, devices := r.1, client := r.2 } :=
      bleReadCharacteristicCallback_unarmed cfg.host hr
    exact .unarmed ((hcall k).trans hread)
  | linkUnknown hlinks hfind =>
    exact .unarmed (hlink _)
  | @linkUp proxy ble links hlinks hfind =>
    have hble : ble ∈ ({ t with links } : Translator).devices :=
      (mem_of_bleFindDeviceFromProxy hwf hfind).1
    exact .unarmed ((hlink links).trans (devicesSet_unarmed hble rfl rfl))
  | @linkDown proxy ble links hlinks hfind =>
    have hble : ble ∈ ({ t with links } : Translator).devices :=
      (mem_of_bleFindDeviceFromProxy hwf hfind).1
    have hset : Unarmed { t with links }
        (Translator.set { t with links } { ble with connected := false }) :=
      devicesSet_unarmed hble rfl rfl
    exact ((hlink links).trans hset).trans_retries
      (bleStartReconnection_retries ans (devicesSet_mem_of_ptr hble rfl))
  | @servicesResolved proxy links hlinks =>
    exact .unarmed ((hlink links).trans
      (bleOnServicesResolved_unarmed ans proxy (hwf.congr rfl rfl)))
  | servicesUnresolved _ => exact .unarmed (hlink _)
  | @retryTimer k timer _ htimer hretry =>
    have herase : Unarmed t { t with timers := t.timers.eraseIdx k } :=
      { Unarmed.refl t with timers := fun _ h => List.mem_of_mem_eraseIdx h }
    exact .unarmed (herase.trans (bleRetryConnect_unarmed hretry))
  | @runIdle i rest hidle =>
    have hrest : Unarmed t { t with idle := rest } := .congr rfl rfl rfl rfl
    exact .unarmed (hrest.trans (runIdle_unarmed ans i (hwf.congr rfl rfl)))
  | readEverything =>
    obtain ⟨calls, heq, -⟩ := bleReadEverything_eq ans t
    rw [heq]
    exact .unarmed (.congr rfl rfl rfl rfl)
  | connectionReady connection => exact .unarmed (.congr rfl rfl rfl rfl)
  | translatorRegistered =>
    exact .unarmed (protocolTranslatorRegistrationSuccess_unarmed ans t)
  | translatorRegistrationFailed => exact .unarmed (.congr rfl rfl rfl rfl)
  | connectionShutdown =>
    unfold shutdownCbHandler
    split
    · exact .unarmed (.congr rfl rfl rfl rfl)
    · exact .unarmed (.refl t)
  | shutdownSignal => exact .unarmed (ptBleGracefulShutdown_unarmed ans hwf.ptr)
  | @answered k ok sent hk hlive =>
    have hrequest : Unarmed t { t with requests := t.requests.eraseIdx k } :=
      .congr rfl rfl rfl rfl
    exact .unarmed (hrequest.trans (answer_unarmed _ _ _))
  | resourceWrite id path operation value outcome hr =>
    subst hr
    exact .unarmed (resourceCallbackHandler_unarmed cfg.host id path operation value outcome)

theorem step_retries {label : Event × Answers} (hwf : WellFormed cfg t)
    (h : step cfg t label = some t') :
    Retries t t' ((connectedContext cfg t label.1).map (·.ptr)) := by
  have hclear : Unarmed t { t with effects := [] } := .congr rfl rfl rfl rfl
  exact hclear.trans_retries (handle_retries hwf.clear (handle_of_step h))

end

/-! ## the delays of a run -/

/-- a run, and the delays of the timers armed for a context since it was made or last connected -/
structure RetryHistory where
  translator : Translator
  delays : Nat → List Nat

/-- the delays of the timers that a step armed for a context -/
def armedDelays (t t' : Translator) (ptr : Nat) : List Nat :=
  (t'.timers.filter fun timer => timer.ptr = ptr ∧ t.nextSource ≤ timer.source).map (·.delayMs)

/-- a step, and what it adds to the delays; a `Connect` that goes well starts them again -/
def recordRetries (cfg : Config) (s : RetryHistory) (label : Event × Answers) :
    Option RetryHistory :=
  (step cfg s.translator label).map fun t' =>
    { translator := t'
      delays := fun ptr =>
        (if (connectedContext cfg s.translator label.1).map (·.ptr) = some ptr then []
          else s.delays ptr) ++ armedDelays s.translator t' ptr }

/-- the retries of a context fit the delays of its timers; a device that is forgotten at Edge has a
retry with no timer, but then both are past the fourth -/
def CountFits (retries armed : Nat) : Prop :=
  retries ≤ bleMaxConnectionRetries ∧ (retries = armed ∨ (4 ≤ retries ∧ 4 ≤ armed))

structure Counted (s : RetryHistory) : Prop where
  source : ∀ timer ∈ s.translator.timers, timer.source < s.translator.nextSource
  fresh : ∀ ptr, s.translator.nextPtr ≤ ptr → s.delays ptr = []
  delay : ∀ ptr k delayMs, (s.delays ptr)[k]? = some delayMs → delayMs = 1000 * min (4 * 3 ^ k) 324
  count : ∀ ble ∈ s.translator.devices, CountFits ble.connectionRetries (s.delays ble.ptr).length

theorem nextRetry_pos (retries : Nat) : 1 ≤ nextRetry retries := by
  unfold nextRetry bleMaxConnectionRetries
  split <;> omega

theorem nextRetry_le {retries : Nat} (h : retries ≤ bleMaxConnectionRetries) :
    nextRetry retries ≤ bleMaxConnectionRetries := by
  unfold nextRetry
  split <;> omega

theorem CountFits.zero : CountFits 0 0 := ⟨Nat.zero_le _, .inl rfl⟩

/-- a retry with a timer: the delay is that of the timers armed so far -/
theorem CountFits.arm {retries armed : Nat} (h : CountFits retries armed) :
    CountFits (nextRetry retries) (armed + 1) ∧
      bleBackOffTimeInMs (nextRetry retries) = 1000 * min (4 * 3 ^ armed) 324 := by
  obtain ⟨hle, hcount⟩ := h
  have hmax : bleMaxConnectionRetries = 10000 := rfl
  by_cases hlate : 4 ≤ retries ∧ 4 ≤ armed
  · have hnext : 5 ≤ nextRetry retries := by
      unfold nextRetry
      split <;> omega
    refine ⟨⟨nextRetry_le hle, .inr ⟨by omega, by omega⟩⟩, ?_⟩
    rw [bleBackOffTimeInMs_of_le hnext, ← bleBackOffTimeInMs_eq,
      bleBackOffTimeInMs_of_le (by omega)]
  · have heq : retries = armed := by omega
    have hnext : nextRetry retries = armed + 1 := by
      unfold nextRetry
      rw [if_pos (by omega), heq]
    rw [hnext]
    exact ⟨⟨by omega, .inl rfl⟩, bleBackOffTimeInMs_eq armed⟩

/-- a retry with no timer, since its delay is past the maximum -/
theorem CountFits.skip {retries armed : Nat} (h : CountFits retries armed)
    (hexceeded : bleMaxBackOffTimeSecs * 1000 < bleBackOffTimeInMs (nextRetry retries)) :
    CountFits (nextRetry retries) armed := by
  obtain ⟨hle, hcount⟩ := h
  have hnext : 5 ≤ nextRetry retries := by
    by_contra hlt
    have hsmall := bleBackOffTimeInMs_of_lt (Nat.not_le.mp hlt)
    omega
  have hlate : 4 ≤ retries := by
    unfold nextRetry at hnext
    split at hnext <;> omega
  exact ⟨nextRetry_le hle, .inr ⟨by omega, by omega⟩⟩

section
variable {cfg : Config} {t t' : Translator} {s s' : RetryHistory}

theorem armedDelays_of_sub (hsource : ∀ timer ∈ t.timers, timer.source < t.nextSource)
    (hsub : ∀ timer ∈ t'.timers, timer ∈ t.timers) (ptr : Nat) : armedDelays t t' ptr = [] := by
  unfold armedDelays
  rw [List.map_eq_nil_iff, List.filter_eq_nil_iff]
  intro timer htimer
  have hlt := hsource timer (hsub timer htimer)
  rw [decide_eq_true_iff]
  omega

theorem armedDelays_arm {t₁ : Translator} {ble : BleDevice} {delayMs : Nat}
    (hsource : ∀ timer ∈ t.timers, timer.source < t.nextSource)
    (hsub : ∀ timer ∈ t₁.timers, timer ∈ t.timers) (hnext : t₁.nextSource = t.nextSource)
    (ptr : Nat) :
    armedDelays t (armRetryTimer t₁ ble delayMs) ptr =
      if ptr = ble.ptr then [delayMs] else [] := by
  have hbefore := armedDelays_of_sub hsource hsub ptr
  have htimers : (armRetryTimer t₁ ble delayMs).timers =
      t₁.timers ++ [Timer.mk t₁.nextSource ble.ptr delayMs] := rfl
  unfold armedDelays at hbefore ⊢
  rw [htimers, List.filter_append, List.map_append, hbefore, List.nil_append]
  by_cases hptr : ptr = ble.ptr
  · rw [if_pos hptr, List.filter_cons_of_pos (by simp [hptr, hnext])]
    rfl
  · rw [if_neg hptr, List.filter_cons_of_neg (by simp [Ne.symm hptr])]
    rfl

/-- the delays after a step that arms no timer and connects no context -/
theorem Counted.of_silent {delays' : Nat → List Nat} (hs : Counted s)
    (htimers : ∀ timer ∈ t'.timers, timer ∈ s.translator.timers)
    (hsource : t'.nextSource = s.translator.nextSource)
    (hnext : s.translator.nextPtr ≤ t'.nextPtr)
    (hdelays : ∀ ptr, delays' ptr = s.delays ptr ∨ delays' ptr = [])
    (hcount : ∀ ble ∈ t'.devices, CountFits ble.connectionRetries (delays' ble.ptr).length) :
    Counted ⟨t', delays'⟩ := by
  refine ⟨?_, ?_, ?_, hcount⟩
  · intro timer htimer
    show timer.source < t'.nextSource
    rw [hsource]
    exact hs.source timer (htimers timer htimer)
  · intro ptr hptr
    have hbefore := hs.fresh ptr (hnext.trans hptr)
    rcases hdelays ptr with heq | heq
    · exact heq.trans hbefore
    · exact heq
  · intro ptr k delayMs hk
    have hk' : (delays' ptr)[k]? = some delayMs := hk
    rcases hdelays ptr with heq | heq
    · rw [heq] at hk'
      exact hs.delay ptr k delayMs hk'
    · rw [heq] at hk'
      cases hk'

/-- the delays after a step that arms a timer -/
theorem Counted.of_armed {ble ble' : BleDevice} {t₁ : Translator} {delays' : Nat → List Nat}
    (hwf : WellFormed cfg s.translator) (hs : Counted s) (hble : ble ∈ s.translator.devices)
    (hptr : ble'.ptr = ble.ptr) (hnext : ble'.connectionRetries = nextRetry ble.connectionRetries)
    (h : Counts ble'.ptr ble'.connectionRetries s.translator t₁)
    (hdelays : ∀ ptr, delays' ptr = s.delays ptr ++
      if ptr = ble'.ptr then [bleBackOffTimeInMs ble'.connectionRetries] else []) :
    Counted ⟨armRetryTimer t₁ ble' (bleBackOffTimeInMs ble'.connectionRetries), delays'⟩ := by
  obtain ⟨hcount, hdelay⟩ := (hs.count ble hble).arm
  rw [← hnext, ← hptr] at hcount hdelay
  refine ⟨?_, ?_, ?_, ?_⟩
  · intro timer htimer
    show timer.source < t₁.nextSource + 1
    rcases List.mem_append.mp htimer with htimer | htimer
    · have hlt := hs.source timer (h.timers timer htimer)
      rw [h.nextSource]
      omega
    · rw [List.mem_singleton.mp htimer]
      exact Nat.lt_succ_self _
  · intro ptr hfresh
    have hfresh' : s.translator.nextPtr ≤ ptr := by
      rw [← h.nextPtr]
      exact hfresh
    have hlt := hwf.fresh ble hble
    show delays' ptr = []
    rw [hdelays, hs.fresh ptr hfresh', if_neg (by omega)]
    rfl
  · intro ptr k delayMs hk
    have hk' : (delays' ptr)[k]? = some delayMs := hk
    rw [hdelays] at hk'
    by_cases hlt : k < (s.delays ptr).length
    · rw [List.getElem?_append_left hlt] at hk'
      exact hs.delay ptr k delayMs hk'
    · rw [List.getElem?_append_right (by omega)] at hk'
      by_cases hat : ptr = ble'.ptr
      · subst hat
        rw [if_pos rfl] at hk'
        have hlast : k = (s.delays ble'.ptr).length := by
          have hbound := (List.getElem?_eq_some_iff.mp hk').1
          rw [List.length_singleton] at hbound
          omega
        rw [hlast, Nat.sub_self] at hk'
        rw [← Option.some.inj hk', hdelay, hlast]
      · rw [if_neg hat] at hk'
        cases hk'
  · have hset : Counts ble'.ptr ble'.connectionRetries s.translator
        { armRetryTimer t₁ ble' (bleBackOffTimeInMs ble'.connectionRetries) with
          timers := t₁.timers, nextSource := t₁.nextSource } :=
      h.trans_set rfl rfl
    intro d' hd'
    show CountFits d'.connectionRetries (delays' d'.ptr).length
    rw [hdelays]
    by_cases hat : d'.ptr = ble'.ptr
    · rw [hset.at_ d' hd' hat, hat, if_pos rfl, List.length_append]
      exact hcount
    · obtain ⟨d, hd, hptr', hsame⟩ := hset.others d' hd' hat
      rw [if_neg hat, List.append_nil, hptr', hsame]
      exact hs.count d hd

/-- **A step keeps the counts and the delays in line.** -/
theorem recordRetries_counted {label : Event × Answers} (hwf : WellFormed cfg s.translator)
    (hs : Counted s) (h : recordRetries cfg s label = some s') : Counted s' := by
  obtain ⟨t', hstep, rfl⟩ := Option.map_eq_some_iff.mp h
  have hretries := step_retries hwf hstep
  clear h hstep
  generalize (connectedContext cfg s.translator label.1).map (·.ptr) = connected at hretries ⊢
  have hkept : ∀ {d d' : BleDevice}, d ∈ s.translator.devices → d'.ptr = d.ptr →
      d'.connectionRetries = d.connectionRetries →
        CountFits d'.connectionRetries (s.delays d'.ptr).length := by
    intro d d' hd hptr hsame
    rw [hptr, hsame]
    exact hs.count d hd
  -- the delays after a step that arms no timer
  have hsilent : (∀ timer ∈ t'.timers, timer ∈ s.translator.timers) → ∀ ptr,
      (if none = some ptr then [] else s.delays ptr) ++ armedDelays s.translator t' ptr =
        s.delays ptr := by
    intro hsub ptr
    rw [armedDelays_of_sub hs.source hsub, List.append_nil]
    exact if_neg nofun
  cases hretries with
  | unarmed h =>
    have hdelays := hsilent h.timers
    refine hs.of_silent h.timers h.nextSource h.nextPtr.ge (fun ptr => .inl (hdelays ptr)) ?_
    intro d' hd'
    obtain ⟨d, hd, hptr, hsame⟩ := h.devices d' hd'
    rw [hdelays]
    exact hkept hd hptr hsame
  | created h =>
    have hdelays := hsilent h.timers
    refine hs.of_silent h.timers h.nextSource (by rw [h.nextPtr]; omega)
      (fun ptr => .inl (hdelays ptr)) ?_
    intro d' hd'
    rw [hdelays]
    rcases h.devices d' hd' with ⟨hptr, hzero⟩ | ⟨d, hd, hptr, hsame⟩
    · rw [hzero, hptr, hs.fresh _ (Nat.le_refl _)]
      exact .zero
    · exact hkept hd hptr hsame
  | @connected ble hble h =>
    have hdelays : ∀ ptr, (if some ble.ptr = some ptr then [] else s.delays ptr) ++
        armedDelays s.translator t' ptr = if ble.ptr = ptr then [] else s.delays ptr := by
      intro ptr
      rw [armedDelays_of_sub hs.source h.timers, List.append_nil]
      exact if_congr Option.some_inj rfl rfl
    refine hs.of_silent h.timers h.nextSource h.nextPtr.ge (fun ptr => ?_) ?_
    · rw [hdelays]
      split
      · exact .inr rfl
      · exact .inl rfl
    · intro d' hd'
      rw [hdelays]
      by_cases hptr : d'.ptr = ble.ptr
      · rw [h.at_ d' hd' hptr, if_pos hptr.symm]
        exact .zero
      · obtain ⟨d, hd, hptr', hsame⟩ := h.others d' hd' hptr
        rw [if_neg (Ne.symm hptr)]
        exact hkept hd hptr' hsame
  | @skipped ble hble hexceeded h =>
    have hdelays := hsilent h.timers
    refine hs.of_silent h.timers h.nextSource h.nextPtr.ge (fun ptr => .inl (hdelays ptr)) ?_
    intro d' hd'
    rw [hdelays]
    by_cases hptr : d'.ptr = ble.ptr
    · rw [h.at_ d' hd' hptr, hptr]
      exact (hs.count ble hble).skip hexceeded
    · obtain ⟨d, hd, hptr', hsame⟩ := h.others d' hd' hptr
      exact hkept hd hptr' hsame
  | @armed ble ble' t₁ hble hptr hnext h heq =>
    subst heq
    refine hs.of_armed hwf hble hptr hnext h fun ptr => ?_
    rw [armedDelays_arm hs.source h.timers h.nextSource, if_neg nofun]

/-- **Retries back off: in every run, the `k`-th timer armed for a context since it was made or last
connected waits 4, 12, 36, 108 and then 324 seconds, and `ble_back_off_time_in_ms` is only called
with an index for which it ends and nothing overflows.** -/
theorem retryDelays_exponential {now : Nat} {connection : Option Nat}
    {labels : List (Event × Answers)}
    (h : Run (recordRetries cfg) (fun _ _ => True) ⟨start now connection, fun _ => []⟩ labels s) :
    (∀ ptr k delayMs, (s.delays ptr)[k]? = some delayMs →
      delayMs = 1000 * min (4 * 3 ^ k) 324) ∧
    ∀ ble ∈ s.translator.devices,
      1 ≤ (countRetry ble).connectionRetries ∧
      (countRetry ble).connectionRetries ≤ 10000 ∧
      ∀ fuel, 5 ≤ fuel → bleBackOffTimeInMsInt32 fuel ((countRetry ble).connectionRetries : Int) =
        some ((bleBackOffTimeInMs (countRetry ble).connectionRetries : Nat) : Int) := by
  have hinv : WellFormed cfg s.translator ∧ Counted s := by
    refine @Run.invariant _ _ _ _ _ _ _
      (fun s : RetryHistory => WellFormed cfg s.translator ∧ Counted s) h
      ⟨start_wellFormed cfg now connection, nofun, fun _ _ => rfl, nofun, nofun⟩ ?_
    intro s label s' ⟨hwf, hs⟩ _ hrecord
    refine ⟨?_, recordRetries_counted hwf hs hrecord⟩
    obtain ⟨t', hstep, rfl⟩ := Option.map_eq_some_iff.mp hrecord
    exact step_wellFormed hwf hstep
  refine ⟨hinv.2.delay, ?_⟩
  intro ble hble
  have hretries : (countRetry ble).connectionRetries = nextRetry ble.connectionRetries :=
    countRetry_connectionRetries ble
  have hpos := nextRetry_pos ble.connectionRetries
  have hle := nextRetry_le (hinv.2.count ble hble).1
  rw [hretries]
  exact ⟨hpos, hle, fun fuel hfuel => bleBackOffTimeInMsInt32_eq hfuel hpos hle⟩

end

/-- six retries after the device joined, two of them with the longest delay -/
theorem retryDelays_exponential_drops : ∃ labels s,
    Run (recordRetries plainConfig) (fun _ _ => True) ⟨start 0 (some 0), fun _ => []⟩ labels s ∧
      s.delays 0 = [4000, 12000, 36000, 108000, 324000, 324000] ∧
      (∀ ptr k delayMs, (s.delays ptr)[k]? = some delayMs →
        delayMs = 1000 * min (4 * 3 ^ k) 324) ∧
      ∀ ble ∈ s.translator.devices,
        1 ≤ (countRetry ble).connectionRetries ∧
        (countRetry ble).connectionRetries ≤ 10000 ∧
        ∀ fuel, 5 ≤ fuel → bleBackOffTimeInMsInt32 fuel ((countRetry ble).connectionRetries : Int) =
          some ((bleBackOffTimeInMs (countRetry ble).connectionRetries : Nat) : Int) := by
  have hany : (run (recordRetries plainConfig) ⟨start 0 (some 0), fun _ => []⟩
      (plainLabels (joins ++ drops ++ failsAfter 324))).any (fun s => decide
        (s.delays 0 = [4000, 12000, 36000, 108000, 324000, 324000])) = true := by
    decide +kernel
  obtain ⟨s, hs, hdelays⟩ := exists_of_run_any hany
  exact ⟨_, s, Run.of_run hs, hdelays, retryDelays_exponential (Run.of_run hs)⟩

end EdgeTranslators.Ble
