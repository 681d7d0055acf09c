import Mathlib.Data.List.Induction
import EdgeTranslators.Lib.Extreme
import EdgeTranslators.Pt.Ipso

/-!
# The minimum and the maximum of a sensor

`ipso_update_min_max_fields` and `ipso_reset_min_max_object` change two resources one after the
other, through a store that keeps them in network byte order.

* `Tracks`           what the two resources hold while nothing fails;
* `…_tracks`         what setting up, an update and a reset do to them;
* `minMax_exact`     after any updates and resets they are the least and the greatest value since
                     the last reset.
-/

namespace EdgeTranslators.Pt
open Lib Extreme

/-! ## finite floats -/

theorem floatIsNaN_of_finite {f : UInt32} (h : floatIsFinite f = true) : floatIsNaN f = false := by
  unfold floatIsFinite at h
  unfold floatIsNaN
  have hlt := of_decide_eq_true h
  exact decide_eq_false (by omega)

theorem floatLt_iff {a b : UInt32} (ha : floatIsFinite a = true) (hb : floatIsFinite b = true) :
    floatLt a b = true ↔ floatKey a < floatKey b := by
  unfold floatLt
  rw [floatIsNaN_of_finite ha, floatIsNaN_of_finite hb]
  simp

theorem floatEq_iff {a b : UInt32} (ha : floatIsFinite a = true) (hb : floatIsFinite b = true) :
    floatEq a b = true ↔ floatKey a = floatKey b := by
  unfold floatEq
  rw [floatIsNaN_of_finite ha, floatIsNaN_of_finite hb]
  simp

theorem floatLt_self (f : UInt32) : floatLt f f = false := by
  unfold floatLt
  simp

/-- `FLT_MAX` is greater than every other finite float -/
theorem floatKey_lt_fltMax {f : UInt32} (h : floatIsFinite f = true) :
    floatKey f < floatKey fltMax ∨ f = fltMax := by
  have hmag := of_decide_eq_true (show decide (f.toNat % 2 ^ 31 < 0x7F800000) = true from h)
  have hmax : floatKey fltMax = 0x7F7FFFFF := by decide
  have hlt : f.toNat < 2 ^ 32 := f.toNat_lt
  rw [hmax]
  unfold floatKey
  by_cases hsign : f.toNat < 2 ^ 31
  · rw [if_pos hsign]
    by_cases heq : f.toNat = 0x7F7FFFFF
    · exact .inr (UInt32.toNat_inj.mp heq)
    · left
      omega
  · rw [if_neg hsign]
    left
    omega

/-- `-FLT_MAX` is less than every other finite float -/
theorem negFltMax_lt_floatKey {f : UInt32} (h : floatIsFinite f = true) :
    -floatKey f < -floatKey negFltMax ∨ f = negFltMax := by
  have hmag := of_decide_eq_true (show decide (f.toNat % 2 ^ 31 < 0x7F800000) = true from h)
  have hmin : floatKey negFltMax = -0x7F7FFFFF := by decide
  have hlt : f.toNat < 2 ^ 32 := f.toNat_lt
  rw [hmin]
  unfold floatKey
  by_cases hsign : f.toNat < 2 ^ 31
  · rw [if_pos hsign]
    left
    omega
  · rw [if_neg hsign]
    by_cases heq : f.toNat = 0xFF7FFFFF
    · exact .inr (UInt32.toNat_inj.mp heq)
    · left
      omega

/-! ## the calls when nothing fails -/

section
variable {c : Client} {id : String} {p : Path} {v : Bytes}

theorem deviceGetResourceValue_ready (hr : Ready c id) (hv : c.value id p = some v) :
    deviceGetResourceValue c id p = (.success, some v, c) := by
  obtain ⟨hstatus, hvalue⟩ := Client.api_lawful.get_value_of (fault_of_nil hr.1 0) hr.2 hv
  have hclient := (deviceGetResourceValue_client c id p).trans (afterFault_of_nil hr.1)
  exact Prod.ext hstatus (Prod.ext hvalue hclient)

theorem deviceSetResourceValue_ready (hr : Ready c id) (hsome : (c.value id p).isSome) :
    Ready (deviceSetResourceValue c id p v).2 id ∧
      (deviceSetResourceValue c id p v).2.value id
        = Function.update (c.value id) p (some v) := by
  refine ⟨(deviceSetResourceValue_grows c id p v).ready hr, ?_⟩
  rw [(deviceSetResourceValue_value hr p v).1]
  exact if_pos hsome

theorem deviceAddResource_ready (hr : Ready c id) (hnone : c.value id p = none) (r : Resource) :
    Ready (deviceAddResource c id p r).2 id ∧
      (deviceAddResource c id p r).2.value id
        = Function.update (c.value id) p (some r.value) := by
  refine ⟨(deviceAddResource_grows c id p r).ready hr, ?_⟩
  rw [(deviceAddResource_value hr p r).1]
  exact if_neg (by rw [hnone]; exact Bool.false_ne_true)

theorem deviceAddResource_other (hr : Ready c id) {q : Path} (hq : q ≠ p) (r : Resource) :
    (deviceAddResource c id p r).2.value id q = c.value id q := by
  rw [(deviceAddResource_value hr p r).1]
  exact addValue_of_ne hq _ _

theorem updateBound_ready (hr : Ready c id) (hsome : (c.value id p).isSome) (beyond : Bool) :
    (updateBound c id p beyond v).1 = true ∧ Ready (updateBound c id p beyond v).2 id ∧
      (updateBound c id p beyond v).2.value id
        = if beyond then Function.update (c.value id) p (some v) else c.value id := by
  unfold updateBound
  cases beyond with
  | false => exact ⟨rfl, hr, rfl⟩
  | true =>
    rw [if_pos rfl, takeFault_of_nil hr.1]
    exact ⟨rfl, deviceSetResourceValue_ready hr hsome⟩

end

/-! ## what the resources hold -/

theorem minMeasuredValue_ne (objectId inst : UInt16) :
    (⟨objectId, inst, minMeasuredValue⟩ : Path) ≠ ⟨objectId, inst, maxMeasuredValue⟩ :=
  Path.ne_of_resourceId (by decide) objectId inst

/-- the minimum is `m` and the maximum is `x`, and nothing fails -/
structure Tracks (o : ByteOrder) (id : String) (objectId inst : UInt16) (c : Client)
    (m x : UInt32) : Prop where
  ready : Ready c id
  min : c.value id ⟨objectId, inst, minMeasuredValue⟩
    = some (convertFloatValueToNetworkByteOrder o m)
  max : c.value id ⟨objectId, inst, maxMeasuredValue⟩
    = some (convertFloatValueToNetworkByteOrder o x)

theorem convertFloatValueToNetworkByteOrder_ne_nil (o : ByteOrder) (f : UInt32) :
    convertFloatValueToNetworkByteOrder o f ≠ [] := by
  intro h
  have hlen := length_convertFloatValueToNetworkByteOrder o f
  rw [h] at hlen
  cases hlen

section
variable {o : ByteOrder} {id : String} {objectId inst : UInt16} {c : Client} {m x : UInt32}

theorem ipsoAddMinMaxFields_tracks (hr : Ready c id)
    (hmin : c.value id ⟨objectId, inst, minMeasuredValue⟩ = none)
    (hmax : c.value id ⟨objectId, inst, maxMeasuredValue⟩ = none) :
    Tracks o id objectId inst (ipsoAddMinMaxFields o c id objectId inst) fltMax negFltMax := by
  have hne := minMeasuredValue_ne objectId inst
  unfold ipsoAddMinMaxFields
  rw [takeFault_of_nil hr.1]
  simp only
  rw [takeFault_of_nil hr.1]
  simp only [ipsoAddResource]
  obtain ⟨hr₁, hv₁⟩ := deviceAddResource_ready hr hmin
    ⟨.float, operationRead, convertFloatValueToNetworkByteOrder o fltMax⟩
  generalize (deviceAddResource c id ⟨objectId, inst, minMeasuredValue⟩
    ⟨.float, operationRead, convertFloatValueToNetworkByteOrder o fltMax⟩).2 = c₁ at hr₁ hv₁ ⊢
  have hmax₁ : c₁.value id ⟨objectId, inst, maxMeasuredValue⟩ = none := by
    rw [hv₁, Function.update_of_ne hne.symm]
    exact hmax
  obtain ⟨hr₂, hv₂⟩ := deviceAddResource_ready hr₁ hmax₁
    ⟨.float, operationRead, convertFloatValueToNetworkByteOrder o negFltMax⟩
  generalize (deviceAddResource c₁ id ⟨objectId, inst, maxMeasuredValue⟩
    ⟨.float, operationRead, convertFloatValueToNetworkByteOrder o negFltMax⟩).2 = c₂ at hr₂ hv₂ ⊢
  refine ⟨(deviceAddResource_grows c₂ id _ _).ready hr₂, ?_, ?_⟩
  · rw [deviceAddResource_other hr₂ (Path.ne_of_resourceId (by decide) objectId inst), hv₂,
      Function.update_of_ne hne, hv₁, Function.update_self]
  · rw [deviceAddResource_other hr₂ (Path.ne_of_resourceId (by decide) objectId inst), hv₂,
      Function.update_self]

/-- setting up the minimum and the maximum leaves the other values alone -/
theorem ipsoAddMinMaxFields_other (hr : Ready c id) {q : Path}
    (hq : q ≠ ⟨objectId, inst, minMeasuredValue⟩ ∧ q ≠ ⟨objectId, inst, maxMeasuredValue⟩ ∧
      q ≠ ⟨objectId, inst, resetMinMaxMeasuredValues⟩) :
    (ipsoAddMinMaxFields o c id objectId inst).value id q = c.value id q := by
  unfold ipsoAddMinMaxFields
  rw [takeFault_of_nil hr.1]
  simp only
  rw [takeFault_of_nil hr.1]
  simp only [ipsoAddResource]
  have hr₁ := (deviceAddResource_grows c id ⟨objectId, inst, minMeasuredValue⟩
    ⟨.float, operationRead, convertFloatValueToNetworkByteOrder o fltMax⟩).ready hr
  have hr₂ := (deviceAddResource_grows _ id ⟨objectId, inst, maxMeasuredValue⟩
    ⟨.float, operationRead, convertFloatValueToNetworkByteOrder o negFltMax⟩).ready hr₁
  rw [deviceAddResource_other hr₂ hq.2.2, deviceAddResource_other hr₁ hq.2.1,
    deviceAddResource_other hr hq.1]

/-- an update moves each bound that the value is beyond -/
theorem ipsoUpdateMinMaxFields_tracks (h : Tracks o id objectId inst c m x) (v : UInt32) :
    (ipsoUpdateMinMaxFields o c id objectId inst v).1 = .success ∧
      Tracks o id objectId inst (ipsoUpdateMinMaxFields o c id objectId inst v).2
        (if floatLt v m then v else m) (if floatLt x v then v else x) := by
  have hne := minMeasuredValue_ne objectId inst
  unfold ipsoUpdateMinMaxFields
  simp only [deviceGetResourceValue_ready h.ready h.min, deviceGetResourceValue_ready h.ready h.max,
    Option.getD_some, convertFloatValueToNetworkByteOrder_ne_nil, ne_eq, not_true_eq_false,
    or_self, if_false, convertValueToHostOrderFloat_convert]
  generalize floatLt v m = below
  generalize floatLt x v = above
  obtain ⟨hok₁, hr₁, hv₁⟩ := updateBound_ready (v := convertFloatValueToNetworkByteOrder o v)
    h.ready (p := ⟨objectId, inst, minMeasuredValue⟩) (by rw [h.min]; rfl) below
  generalize updateBound c id ⟨objectId, inst, minMeasuredValue⟩ below
    (convertFloatValueToNetworkByteOrder o v) = r₁ at hok₁ hr₁ hv₁ ⊢
  obtain ⟨ok₁, c₁⟩ := r₁
  obtain rfl : ok₁ = true := hok₁
  simp only at hr₁ hv₁ ⊢
  have hmax₁ : c₁.value id ⟨objectId, inst, maxMeasuredValue⟩
      = some (convertFloatValueToNetworkByteOrder o x) := by
    rw [hv₁]
    split
    · rw [Function.update_of_ne hne.symm, h.max]
    · exact h.max
  obtain ⟨hok₂, hr₂, hv₂⟩ := updateBound_ready (v := convertFloatValueToNetworkByteOrder o v)
    hr₁ (p := ⟨objectId, inst, maxMeasuredValue⟩) (by rw [hmax₁]; rfl) above
  generalize updateBound c₁ id ⟨objectId, inst, maxMeasuredValue⟩ above
    (convertFloatValueToNetworkByteOrder o v) = r₂ at hok₂ hr₂ hv₂ ⊢
  obtain ⟨ok₂, c₂⟩ := r₂
  obtain rfl : ok₂ = true := hok₂
  refine ⟨rfl, hr₂, ?_, ?_⟩
  · have hmin₂ : c₂.value id ⟨objectId, inst, minMeasuredValue⟩
        = c₁.value id ⟨objectId, inst, minMeasuredValue⟩ := by
      rw [hv₂]
      split
      · exact Function.update_of_ne hne _ _
      · rfl
    rw [hmin₂, hv₁]
    cases below with
    | false => exact h.min
    | true => exact Function.update_self ..
  · rw [hv₂]
    cases above with
    | false => exact hmax₁
    | true => exact Function.update_self ..

theorem ipsoResetMinMaxObject_tracks (h : Tracks o id objectId inst c m x) :
    (ipsoResetMinMaxObject o c id objectId inst).1 = .success ∧
      Tracks o id objectId inst (ipsoResetMinMaxObject o c id objectId inst).2 fltMax
        negFltMax := by
  have hne := minMeasuredValue_ne objectId inst
  obtain ⟨hr₁, hv₁⟩ := deviceSetResourceValue_ready h.ready
    (v := convertFloatValueToNetworkByteOrder o fltMax)
    (p := ⟨objectId, inst, minMeasuredValue⟩) (by rw [h.min]; rfl)
  unfold ipsoResetMinMaxObject
  rw [takeFault_of_nil h.ready.1]
  simp only
  generalize (deviceSetResourceValue c id ⟨objectId, inst, minMeasuredValue⟩
    (convertFloatValueToNetworkByteOrder o fltMax)).2 = c₁ at hr₁ hv₁ ⊢
  have hmax₁ : (c₁.value id ⟨objectId, inst, maxMeasuredValue⟩).isSome := by
    rw [hv₁, Function.update_of_ne hne.symm, h.max]
    rfl
  obtain ⟨hr₂, hv₂⟩ := deviceSetResourceValue_ready hr₁
    (v := convertFloatValueToNetworkByteOrder o negFltMax) hmax₁
  rw [takeFault_of_nil hr₁.1]
  refine ⟨rfl, hr₂, ?_, ?_⟩
  · show (deviceSetResourceValue c₁ id _ _).2.value id _ = _
    rw [hv₂, Function.update_of_ne hne, hv₁, Function.update_self]
  · show (deviceSetResourceValue c₁ id _ _).2.value id _ = _
    rw [hv₂, Function.update_self]

end

/-! ## updates and resets -/

inductive MinMaxEvent where
  /-- `ipso_update_min_max_fields` with a value -/
  | update (newValue : UInt32)
  /-- `ipso_reset_min_max_object` -/
  | reset
  deriving DecidableEq, Repr

def minMaxStep (o : ByteOrder) (id : String) (objectId inst : UInt16) (c : Client) :
    MinMaxEvent → Client
  | .update newValue => (ipsoUpdateMinMaxFields o c id objectId inst newValue).2
  | .reset => (ipsoResetMinMaxObject o c id objectId inst).2

/-- the values since the last reset -/
def sinceReset (es : List MinMaxEvent) : List UInt32 :=
  es.foldl (fun vs e =>
    match e with
    | .update newValue => vs ++ [newValue]
    | .reset => []) []

/-- the float in a resource, read in network byte order -/
def storedFloat (o : ByteOrder) (c : Client) (id : String) (p : Path) : Option UInt32 :=
  (c.value id p).map (convertValueToHostOrderFloat o)

theorem sinceReset_snoc (es : List MinMaxEvent) (e : MinMaxEvent) :
    sinceReset (es ++ [e]) =
      match e with
      | .update newValue => sinceReset es ++ [newValue]
      | .reset => [] := by
  unfold sinceReset
  rw [List.foldl_append]
  rfl

/-- the stored minimum compares with a new value as floats do -/
theorem least_floatKey {m v : UInt32} (hm : floatIsFinite m = true) (hv : floatIsFinite v = true) :
    (if floatLt v m then v else m) = least floatKey m v := by
  unfold least
  simp only [floatLt_iff hv hm]

theorem least_neg_floatKey {x v : UInt32} (hx : floatIsFinite x = true)
    (hv : floatIsFinite v = true) :
    (if floatLt x v then v else x) = least (fun f => -floatKey f) x v := by
  unfold least
  simp only [floatLt_iff hx hv, neg_lt_neg_iff]

theorem LeastSoFar.finite {key : UInt32 → Int} {top m : UInt32} {vs : List UInt32}
    (h : LeastSoFar key top m vs) (htop : floatIsFinite top = true)
    (hvs : ∀ v ∈ vs, floatIsFinite v = true) : floatIsFinite m = true := by
  rcases h with ⟨-, rfl⟩ | ⟨hm, -⟩
  · exact htop
  · exact hvs m hm

theorem sinceReset_finite {es : List MinMaxEvent}
    (hfinite : ∀ v, .update v ∈ es → floatIsFinite v = true) :
    ∀ v ∈ sinceReset es, floatIsFinite v = true := by
  induction es using List.reverseRecOn with
  | nil => exact fun v hv => absurd hv List.not_mem_nil
  | append_singleton es e ih =>
    rw [sinceReset_snoc]
    cases e with
    | reset => exact fun v hv => absurd hv List.not_mem_nil
    | update newValue =>
      intro v hv
      rcases List.mem_append.mp hv with hv | hv
      · exact ih (fun w hw => hfinite w (List.mem_append_left _ hw)) v hv
      · obtain rfl := List.mem_singleton.mp hv
        exact hfinite v (List.mem_append_right _ List.mem_cons_self)

/-- the run lemma: the induction is on the events, and `Tracks` carries it -/
theorem minMax_tracks {o : ByteOrder} {id : String} {objectId inst : UInt16} {c₁ : Client}
    (h₁ : Tracks o id objectId inst c₁ fltMax negFltMax) {es : List MinMaxEvent}
    (hfinite : ∀ v, .update v ∈ es → floatIsFinite v = true) :
    ∃ m x, Tracks o id objectId inst (es.foldl (minMaxStep o id objectId inst) c₁) m x ∧
      LeastSoFar floatKey fltMax m (sinceReset es) ∧
      LeastSoFar (fun f => -floatKey f) negFltMax x (sinceReset es) := by
  induction es using List.reverseRecOn with
  | nil => exact ⟨fltMax, negFltMax, h₁, leastSoFar_nil, leastSoFar_nil⟩
  | append_singleton es e ih =>
    have hbefore : ∀ v, .update v ∈ es → floatIsFinite v = true :=
      fun v hv => hfinite v (List.mem_append_left _ hv)
    obtain ⟨m, x, htracks, hm, hx⟩ := ih hbefore
    rw [List.foldl_append, sinceReset_snoc]
    cases e with
    | reset =>
      exact ⟨fltMax, negFltMax, (ipsoResetMinMaxObject_tracks htracks).2, leastSoFar_nil,
        leastSoFar_nil⟩
    | update v =>
      have hv : floatIsFinite v = true :=
        hfinite v (List.mem_append_right _ List.mem_cons_self)
      have hmfin := LeastSoFar.finite hm (by decide) (sinceReset_finite hbefore)
      have hxfin := LeastSoFar.finite hx (by decide) (sinceReset_finite hbefore)
      refine ⟨least floatKey m v, least (fun f => -floatKey f) x v, ?_,
        hm.snoc (floatKey_lt_fltMax hv), hx.snoc (negFltMax_lt_floatKey hv)⟩
      rw [← least_floatKey hmfin hv, ← least_neg_floatKey hxfin hv]
      exact (ipsoUpdateMinMaxFields_tracks htracks v).2

theorem Tracks.storedFloat {o : ByteOrder} {id : String} {objectId inst : UInt16} {c : Client}
    {m x : UInt32} (h : Tracks o id objectId inst c m x) :
    Pt.storedFloat o c id ⟨objectId, inst, minMeasuredValue⟩ = some m ∧
      Pt.storedFloat o c id ⟨objectId, inst, maxMeasuredValue⟩ = some x := by
  unfold Pt.storedFloat
  rw [h.min, h.max, Option.map_some, Option.map_some, convertValueToHostOrderFloat_convert,
    convertValueToHostOrderFloat_convert]
  exact ⟨rfl, rfl⟩

/-- **The stored minimum and maximum are the least and the greatest value since the last reset**,
and where they were set up when there was none. -/
theorem minMax_exact (o : ByteOrder) {c : Client} {id : String} (objectId inst : UInt16)
    (hr : Ready c id) (hmin : c.value id ⟨objectId, inst, minMeasuredValue⟩ = none)
    (hmax : c.value id ⟨objectId, inst, maxMeasuredValue⟩ = none) {es : List MinMaxEvent}
    (hfinite : ∀ v, .update v ∈ es → floatIsFinite v = true) :
    let c' := es.foldl (minMaxStep o id objectId inst) (ipsoAddMinMaxFields o c id objectId inst)
    ∃ m x, storedFloat o c' id ⟨objectId, inst, minMeasuredValue⟩ = some m ∧
      storedFloat o c' id ⟨objectId, inst, maxMeasuredValue⟩ = some x ∧
      ((sinceReset es = [] ∧ m = fltMax) ∨
        (m ∈ sinceReset es ∧ ∀ v ∈ sinceReset es, floatKey m ≤ floatKey v)) ∧
      ((sinceReset es = [] ∧ x = negFltMax) ∨
        (x ∈ sinceReset es ∧ ∀ v ∈ sinceReset es, floatKey v ≤ floatKey x)) := by
  obtain ⟨m, x, htracks, hm, hx⟩ := minMax_tracks
    (ipsoAddMinMaxFields_tracks (o := o) hr hmin hmax) hfinite
  refine ⟨m, x, htracks.storedFloat.1, htracks.storedFloat.2, hm, ?_⟩
  rcases hx with hnone | ⟨hmem, hle⟩
  · exact .inl hnone
  · refine .inr ⟨hmem, fun v hv => ?_⟩
    have hneg : -floatKey x ≤ -floatKey v := hle v hv
    omega

/-- a client with one device that has no resources -/
def sensorClient : Client :=
  { connection := some 0, devices := (∅ : AList fun _ : String => Resources).insert "sensor" ∅,
    faults := [], setCalls := [] }

/-- 1.0 and 2.0, a reset, and 2.0 again -/
def someMeasurements : List MinMaxEvent :=
  [MinMaxEvent.update 0x3F800000, MinMaxEvent.update 0x40000000, MinMaxEvent.reset,
    MinMaxEvent.update 0x40000000]

theorem minMax_exact_someMeasurements :
    let c' := someMeasurements.foldl (minMaxStep .little "sensor" temperatureSensor 0)
      (ipsoAddMinMaxFields .little sensorClient "sensor" temperatureSensor 0)
    ∃ m x, storedFloat .little c' "sensor" ⟨temperatureSensor, 0, minMeasuredValue⟩ = some m ∧
      storedFloat .little c' "sensor" ⟨temperatureSensor, 0, maxMeasuredValue⟩ = some x ∧
      ((sinceReset someMeasurements = [] ∧ m = fltMax) ∨ (m ∈ sinceReset someMeasurements ∧
        ∀ v ∈ sinceReset someMeasurements, floatKey m ≤ floatKey v)) ∧
      ((sinceReset someMeasurements = [] ∧ x = negFltMax) ∨ (x ∈ sinceReset someMeasurements ∧
        ∀ v ∈ sinceReset someMeasurements, floatKey v ≤ floatKey x)) := by
  refine minMax_exact .little temperatureSensor 0 ⟨rfl, by decide⟩ (by decide) (by decide) ?_
  intro v hv
  simp only [someMeasurements, List.mem_cons, List.not_mem_nil, or_false, reduceCtorEq,
    MinMaxEvent.update.injEq, false_or] at hv
  rcases hv with rfl | rfl | rfl <;> decide

end EdgeTranslators.Pt
