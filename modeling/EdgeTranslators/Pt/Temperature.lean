import EdgeTranslators.Lib.Run
import EdgeTranslators.Pt.AllOrNothing
import EdgeTranslators.Pt.V1.Resources

/-!
# The two temperature updates

pt-example and the stress tester each have an `update_temperature_to_device`, the one for a device
of the PT client and the other for a device of its own.

* `PtExample.updateTemperatureToDevice`, `Stress.updateTemperatureToDevice`   the two functions;
* `SensorHolds`          what the sensor, the minimum and the maximum hold;
* `…_holds`              what the updates and the resets do to them;
* `Twin`, `twinStep`     both devices, measuring the same temperatures and reset together;
* `Twin.Agree`           they hold the same, and the bounds are right after an update;
* `Twin.Covered`         an update that repeats the temperature finds it within the bounds: what
                         keeps `Agree`, and nothing else does;
* `Reading.Unrepeated`   the same of the events alone: behind a reset no temperature is repeated
                         before another comes.
-/

namespace EdgeTranslators

namespace PtExample
open Lib Pt

/-- half of the check of the bounds: a bound that exists is moved if the temperature is beyond it;
the result is false when it cannot be read -/
def checkBound (o : ByteOrder) (c : Client) (id : String) (p : Path) (isBeyond : UInt32 → Bool)
    (data : Bytes) : Bool × Client :=
  if deviceResourceExists c id p then
    match deviceGetResourceValue c id p with
    | (status, value, c) =>
      if status ≠ .success then (false, c)
      else if isBeyond (convertValueToHostOrderFloat o (value.getD [])) then
        match c.takeFault with
        | (true, c) => (true, c)
        | (false, c) => (true, (deviceSetResourceValue c id p data).2)
      else (true, c)
  else (true, c)

/-- `update_temperature_to_device`; `none` when it writes through the NULL pointer of a failed
allocation -/
def updateTemperatureToDevice (o : ByteOrder) (c : Client) (id : String) (temperature : UInt32) :
    Option Client :=
  match deviceGetResourceValue c id ⟨temperatureSensor, 0, sensorValue⟩ with
  | (status, value, c) =>
    if status ≠ .success then some c
    -- the bounds are not looked at either when the value is the same
    else if floatEq (convertValueToHostOrderFloat o (value.getD [])) temperature then some c
    else
      match c.takeFault with
      | (true, _) => none
      | (false, c) =>
        let data := convertFloatValueToNetworkByteOrder o temperature
        let c := (deviceSetResourceValue c id ⟨temperatureSensor, 0, sensorValue⟩ data).2
        match checkBound o c id ⟨temperatureSensor, 0, minMeasuredValue⟩ (floatLt temperature)
            data with
        | (false, c) => some c
        | (true, c) =>
          some (checkBound o c id ⟨temperatureSensor, 0, maxMeasuredValue⟩
            (fun max => floatLt max temperature) data).2

end PtExample

namespace Stress
open Lib Pt V1

/-- half of the check of the bounds: a bound that exists takes the bytes of the sensor if the
temperature is beyond it -/
def checkBound (o : ByteOrder) (d : Device) (p : Path) (isBeyond : UInt32 → Bool) (data : Bytes) :
    Device :=
  match d.value p with
  | none => d
  | some value =>
    if isBeyond (convertValueToHostOrderFloat o value) then
      d.store p (memcpy value data data.length)
    else d

/-- `update_temperature_to_device` -/
def updateTemperatureToDevice (o : ByteOrder) (d : Device) (temperature : UInt32) : Device :=
  let p : Path := ⟨temperatureSensor, 0, sensorValue⟩
  match d.value p with
  | none => d
  | some value =>
    let current := convertValueToHostOrderFloat o value
    let changed := !floatEq current temperature
    let current := if changed then temperature else current
    let value := if changed then
      memcpy value (convertFloatValueToNetworkByteOrder o temperature) value.length else value
    let d := if changed then d.store p value else d
    -- the bounds are looked at when the value is the same, too
    let d := checkBound o d ⟨temperatureSensor, 0, minMeasuredValue⟩ (floatLt current) value
    checkBound o d ⟨temperatureSensor, 0, maxMeasuredValue⟩ (fun max => floatLt max current) value

end Stress

namespace Pt
open Lib

/-- the sensor, the minimum and the maximum of a thermometer, by its resource values -/
structure SensorHolds (o : ByteOrder) (value : Path → Option Bytes) (v m x : UInt32) : Prop where
  sensor : value ⟨temperatureSensor, 0, sensorValue⟩
    = some (convertFloatValueToNetworkByteOrder o v)
  min : value ⟨temperatureSensor, 0, minMeasuredValue⟩
    = some (convertFloatValueToNetworkByteOrder o m)
  max : value ⟨temperatureSensor, 0, maxMeasuredValue⟩
    = some (convertFloatValueToNetworkByteOrder o x)

section
variable {o : ByteOrder} {value : Path → Option Bytes} {v m x : UInt32}

theorem SensorHolds.set_sensor (h : SensorHolds o value v m x) (t : UInt32) :
    SensorHolds o (Function.update value ⟨temperatureSensor, 0, sensorValue⟩
      (some (convertFloatValueToNetworkByteOrder o t))) t m x :=
  ⟨Function.update_self .., (Function.update_of_ne (by decide) _ _).trans h.min,
    (Function.update_of_ne (by decide) _ _).trans h.max⟩

theorem SensorHolds.set_min (h : SensorHolds o value v m x) (beyond : Bool) (t : UInt32) :
    SensorHolds o (if beyond then Function.update value ⟨temperatureSensor, 0, minMeasuredValue⟩
      (some (convertFloatValueToNetworkByteOrder o t)) else value)
      v (if beyond then t else m) x := by
  cases beyond with
  | false => exact h
  | true =>
    simp only [if_true]
    exact ⟨(Function.update_of_ne (by decide) _ _).trans h.sensor, Function.update_self ..,
      (Function.update_of_ne (by decide) _ _).trans h.max⟩

theorem SensorHolds.set_max (h : SensorHolds o value v m x) (beyond : Bool) (t : UInt32) :
    SensorHolds o (if beyond then Function.update value ⟨temperatureSensor, 0, maxMeasuredValue⟩
      (some (convertFloatValueToNetworkByteOrder o t)) else value)
      v m (if beyond then t else x) := by
  cases beyond with
  | false => exact h
  | true =>
    simp only [if_true]
    exact ⟨(Function.update_of_ne (by decide) _ _).trans h.sensor,
      (Function.update_of_ne (by decide) _ _).trans h.min, Function.update_self ..⟩

/-! ## the device of the PT client -/

theorem checkBound_ready {c : Client} {id : String} (hr : Ready c id) {p : Path} {b : UInt32}
    (hb : c.value id p = some (convertFloatValueToNetworkByteOrder o b))
    (isBeyond : UInt32 → Bool) (data : Bytes) :
    let r := PtExample.checkBound o c id p isBeyond data
    r.1 = true ∧ Ready r.2 id ∧
      r.2.value id = if isBeyond b then Function.update (c.value id) p (some data)
        else c.value id := by
  have hsome : (c.value id p).isSome = true := by
    rw [hb]
    rfl
  unfold PtExample.checkBound
  rw [deviceResourceExists_eq hr, hsome, if_pos rfl]
  simp only [deviceGetResourceValue_ready hr hb, Option.getD_some, ne_eq, not_true_eq_false,
    if_false, convertValueToHostOrderFloat_convert]
  cases isBeyond b with
  | false => exact ⟨rfl, hr, rfl⟩
  | true =>
    rw [if_pos rfl, takeFault_of_nil hr.1]
    exact ⟨rfl, deviceSetResourceValue_ready hr hsome⟩

/-- an update that repeats the temperature does nothing, and every other one moves each bound that
the temperature is beyond -/
theorem ptExample_update_holds {c : Client} {id : String} (hr : Ready c id)
    (h : SensorHolds o (c.value id) v m x) (t : UInt32) :
    ∃ c', PtExample.updateTemperatureToDevice o c id t = some c' ∧ Ready c' id ∧
      if floatEq v t then SensorHolds o (c'.value id) v m x
      else SensorHolds o (c'.value id) t (if floatLt t m then t else m)
        (if floatLt x t then t else x) := by
  unfold PtExample.updateTemperatureToDevice
  simp only [deviceGetResourceValue_ready hr h.sensor, Option.getD_some, ne_eq,
    not_true_eq_false, if_false, convertValueToHostOrderFloat_convert]
  cases floatEq v t with
  | true => exact ⟨c, rfl, hr, h⟩
  | false =>
    simp only [Bool.false_eq_true, if_false]
    rw [takeFault_of_nil hr.1]
    simp only
    obtain ⟨hr₁, hv₁⟩ := deviceSetResourceValue_ready hr
      (v := convertFloatValueToNetworkByteOrder o t)
      (p := ⟨temperatureSensor, 0, sensorValue⟩) (by rw [h.sensor]; rfl)
    have h₁ := h.set_sensor t
    rw [← hv₁] at h₁
    generalize (deviceSetResourceValue c id ⟨temperatureSensor, 0, sensorValue⟩
      (convertFloatValueToNetworkByteOrder o t)).2 = c₁ at hr₁ h₁ ⊢
    obtain ⟨hok₂, hr₂, hv₂⟩ := checkBound_ready hr₁ h₁.min (floatLt t)
      (convertFloatValueToNetworkByteOrder o t)
    have h₂ := h₁.set_min (floatLt t m) t
    rw [← hv₂] at h₂
    generalize PtExample.checkBound o c₁ id ⟨temperatureSensor, 0, minMeasuredValue⟩ (floatLt t)
      (convertFloatValueToNetworkByteOrder o t) = r₂ at hok₂ hr₂ h₂ ⊢
    obtain ⟨ok₂, c₂⟩ := r₂
    obtain rfl : ok₂ = true := hok₂
    obtain ⟨-, hr₃, hv₃⟩ := checkBound_ready hr₂ h₂.max (fun max => floatLt max t)
      (convertFloatValueToNetworkByteOrder o t)
    have h₃ := h₂.set_max (floatLt x t) t
    rw [← hv₃] at h₃
    exact ⟨_, rfl, hr₃, h₃⟩

theorem ptExample_reset_holds {c : Client} {id : String} (hr : Ready c id)
    (h : SensorHolds o (c.value id) v m x) :
    Ready (ipsoResetMinMaxObject o c id temperatureSensor 0).2 id ∧
      SensorHolds o ((ipsoResetMinMaxObject o c id temperatureSensor 0).2.value id) v fltMax
        negFltMax := by
  obtain ⟨-, htracks⟩ := ipsoResetMinMaxObject_tracks
    (⟨hr, h.min, h.max⟩ : Tracks o id temperatureSensor 0 c m x)
  refine ⟨htracks.ready, ?_, htracks.min, htracks.max⟩
  have hspec := ipsoResetMinMaxObject_spec o c id temperatureSensor 0
  simp only [fault_of_nil hr.1, Bool.false_eq_true, if_false] at hspec
  rw [(Prod.mk.inj hspec).2]
  unfold resetMax resetMin
  rw [settled_other _ (by decide), settled_other _ (by decide)]
  exact h.sensor

/-! ## the device of the stress tester -/

section
variable {d : V1.Device}

theorem checkBound_value {p : Path} {b u : UInt32}
    (hb : d.value p = some (convertFloatValueToNetworkByteOrder o b)) (isBeyond : UInt32 → Bool) :
    let d' := Stress.checkBound o d p isBeyond (convertFloatValueToNetworkByteOrder o u)
    d'.faults = d.faults ∧
      d'.value = if isBeyond b then
        Function.update d.value p (some (convertFloatValueToNetworkByteOrder o u))
      else d.value := by
  unfold Stress.checkBound
  rw [hb]
  simp only [convertValueToHostOrderFloat_convert, length_convertFloatValueToNetworkByteOrder]
  cases isBeyond b with
  | false => exact ⟨rfl, rfl⟩
  | true =>
    simp only [if_true]
    rw [V1.memcpy_eq (length_convertFloatValueToNetworkByteOrder o b)
      (length_convertFloatValueToNetworkByteOrder o u)]
    exact V1.store_value (by rw [hb]; rfl) _

/-- every update moves each bound that the value of the sensor is beyond -/
theorem stress_update_holds (h : SensorHolds o d.value v m x) (t : UInt32) :
    let v' := if floatEq v t then v else t
    (Stress.updateTemperatureToDevice o d t).faults = d.faults ∧
      SensorHolds o (Stress.updateTemperatureToDevice o d t).value v'
        (if floatLt v' m then v' else m) (if floatLt x v' then v' else x) := by
  unfold Stress.updateTemperatureToDevice
  simp only [h.sensor, convertValueToHostOrderFloat_convert]
  have hcurrent : (if (!floatEq v t) = true then t else v) = if floatEq v t then v else t := by
    cases floatEq v t <;> rfl
  have hbytes : (if (!floatEq v t) = true then
      V1.memcpy (convertFloatValueToNetworkByteOrder o v) (convertFloatValueToNetworkByteOrder o t)
        (convertFloatValueToNetworkByteOrder o v).length
      else convertFloatValueToNetworkByteOrder o v)
        = convertFloatValueToNetworkByteOrder o (if floatEq v t then v else t) := by
    cases floatEq v t with
    | true => rfl
    | false =>
      exact V1.memcpy_eq rfl ((length_convertFloatValueToNetworkByteOrder o t).trans
        (length_convertFloatValueToNetworkByteOrder o v).symm)
  rw [hbytes, hcurrent]
  have hfirst : ∃ d₁, (if (!floatEq v t) = true then
      d.store ⟨temperatureSensor, 0, sensorValue⟩
        (convertFloatValueToNetworkByteOrder o (if floatEq v t then v else t)) else d) = d₁ ∧
      d₁.faults = d.faults ∧ SensorHolds o d₁.value (if floatEq v t then v else t) m x := by
    cases floatEq v t with
    | true => exact ⟨d, rfl, rfl, h⟩
    | false =>
      obtain ⟨hf, hv⟩ := V1.store_value (d := d) (p := ⟨temperatureSensor, 0, sensorValue⟩)
        (by rw [h.sensor]; rfl) (convertFloatValueToNetworkByteOrder o t)
      have h₁ := h.set_sensor t
      rw [← hv] at h₁
      exact ⟨_, rfl, hf, h₁⟩
  obtain ⟨d₁, heq, hf₁, h₁⟩ := hfirst
  rw [heq]
  generalize (if floatEq v t then v else t) = u at h₁ ⊢
  obtain ⟨hf₂, hv₂⟩ := checkBound_value (u := u) h₁.min (floatLt u)
  have h₂ := h₁.set_min (floatLt u m) u
  rw [← hv₂] at h₂
  obtain ⟨hf₃, hv₃⟩ := checkBound_value (u := u) h₂.max (fun max => floatLt max u)
  have h₃ := h₂.set_max (floatLt x u) u
  rw [← hv₃] at h₃
  exact ⟨hf₃.trans (hf₂.trans hf₁), h₃⟩

theorem resetBound_value {p : Path} {b u : UInt32} (hd : d.faults = [])
    (hb : d.value p = some (convertFloatValueToNetworkByteOrder o b)) :
    let r := V1.resetBound d p (convertFloatValueToNetworkByteOrder o u)
    r.1 = true ∧ r.2.faults = [] ∧
      r.2.value = Function.update d.value p (some (convertFloatValueToNetworkByteOrder o u)) := by
  unfold V1.resetBound
  rw [hb, V1.takeFault_faults hd]
  simp only
  rw [V1.memcpy_eq (length_convertFloatValueToNetworkByteOrder o b)
    (length_convertFloatValueToNetworkByteOrder o u)]
  obtain ⟨hf, hv⟩ := V1.store_value (d := d) (p := p) (by rw [hb]; rfl)
    (convertFloatValueToNetworkByteOrder o u)
  exact ⟨trivial, hf.trans hd, hv⟩

theorem stress_reset_holds (hd : d.faults = []) (h : SensorHolds o d.value v m x) :
    (V1.ipsoResetMinMaxObject o d ⟨temperatureSensor, 0⟩).faults = [] ∧
      SensorHolds o (V1.ipsoResetMinMaxObject o d ⟨temperatureSensor, 0⟩).value v fltMax
        negFltMax := by
  unfold V1.ipsoResetMinMaxObject V1.InstanceId.path
  obtain ⟨hok₁, hd₁, hv₁⟩ := resetBound_value (u := fltMax) hd h.min
  have h₁ := h.set_min true fltMax
  rw [if_pos rfl, if_pos rfl, ← hv₁] at h₁
  generalize V1.resetBound d ⟨temperatureSensor, 0, minMeasuredValue⟩
    (convertFloatValueToNetworkByteOrder o fltMax) = r₁ at hok₁ hd₁ h₁ ⊢
  obtain ⟨ok₁, d₁⟩ := r₁
  obtain rfl : ok₁ = true := hok₁
  obtain ⟨-, hd₂, hv₂⟩ := resetBound_value (u := negFltMax) hd₁ h₁.max
  have h₂ := h₁.set_max true negFltMax
  rw [if_pos rfl, if_pos rfl, ← hv₂] at h₂
  exact ⟨hd₂, h₂⟩

end

end

/-! ## both of them -/

inductive TemperatureEvent where
  /-- `update_temperature_to_device` with a temperature -/
  | update (temperature : UInt32)
  /-- `ipso_reset_min_max_object` -/
  | reset
  deriving DecidableEq, Repr

def TemperatureEvent.Finite (e : TemperatureEvent) : Prop :=
  ∀ t, e = .update t → floatIsFinite t = true

/-- the two devices, and the temperature of the update just made -/
structure Twin where
  client : Client
  device : V1.Device
  last : Option UInt32

def twinStep (o : ByteOrder) (id : String) (s : Twin) : TemperatureEvent → Option Twin
  | .update temperature =>
    (PtExample.updateTemperatureToDevice o s.client id temperature).map fun client =>
      { client, device := Stress.updateTemperatureToDevice o s.device temperature,
        last := some temperature }
  | .reset =>
    some
      { client := (ipsoResetMinMaxObject o s.client id temperatureSensor 0).2
        device := V1.ipsoResetMinMaxObject o s.device ⟨temperatureSensor, 0⟩
        last := none }

/-- the temperature is not below the minimum nor above the maximum -/
def Within (m t x : UInt32) : Prop := floatKey m ≤ floatKey t ∧ floatKey t ≤ floatKey x

instance (m t x : UInt32) : Decidable (Within m t x) := by
  unfold Within
  infer_instance

/-- both devices hold the same, and the bounds are right after an update -/
structure Twin.Agree (o : ByteOrder) (id : String) (s : Twin) : Prop where
  sensor : s.client.value id ⟨temperatureSensor, 0, sensorValue⟩
    = s.device.value ⟨temperatureSensor, 0, sensorValue⟩
  min : s.client.value id ⟨temperatureSensor, 0, minMeasuredValue⟩
    = s.device.value ⟨temperatureSensor, 0, minMeasuredValue⟩
  max : s.client.value id ⟨temperatureSensor, 0, maxMeasuredValue⟩
    = s.device.value ⟨temperatureSensor, 0, maxMeasuredValue⟩
  bounds : ∀ t, s.last = some t → ∃ m x,
    storedFloat o s.client id ⟨temperatureSensor, 0, minMeasuredValue⟩ = some m ∧
      storedFloat o s.client id ⟨temperatureSensor, 0, maxMeasuredValue⟩ = some x ∧ Within m t x

/-- an update to the temperature that the sensor has finds it within the bounds -/
def Twin.Covered (o : ByteOrder) (id : String) (s : Twin) (e : TemperatureEvent) : Prop :=
  ∀ t, e = .update t → ∃ v m x,
    storedFloat o s.client id ⟨temperatureSensor, 0, sensorValue⟩ = some v ∧
      storedFloat o s.client id ⟨temperatureSensor, 0, minMeasuredValue⟩ = some m ∧
      storedFloat o s.client id ⟨temperatureSensor, 0, maxMeasuredValue⟩ = some x ∧
      (floatEq v t = true → Within m t x)

/-- the temperature that was measured last, and whether its bounds are known to be right -/
structure Reading where
  temperature : UInt32
  bounded : Bool

def Reading.next (reading : Reading) : TemperatureEvent → Reading
  | .update t => ⟨if floatEq reading.temperature t then reading.temperature else t, true⟩
  | .reset => ⟨reading.temperature, false⟩

theorem Reading.next_of_eq {reading : Reading} {t : UInt32}
    (heq : floatEq reading.temperature t = true) :
    reading.next (.update t) = ⟨reading.temperature, true⟩ := by
  simp only [Reading.next, heq, if_true]

theorem Reading.next_of_ne {reading : Reading} {t : UInt32}
    (heq : floatEq reading.temperature t = false) : reading.next (.update t) = ⟨t, true⟩ := by
  simp only [Reading.next, heq, Bool.false_eq_true, if_false]

/-- the event does not repeat a temperature whose bounds were reset -/
def Reading.Meets (reading : Reading) : TemperatureEvent → Prop
  | .update t => floatEq reading.temperature t = true → reading.bounded = true
  | .reset => True

instance (reading : Reading) : DecidablePred reading.Meets
  | .update _ => inferInstanceAs (Decidable (_ → _))
  | .reset => .isTrue trivial

/-- no event does -/
def Reading.Unrepeated : Reading → List TemperatureEvent → Prop
  | _, [] => True
  | reading, e :: es => reading.Meets e ∧ (reading.next e).Unrepeated es

instance : ∀ (reading : Reading) (es : List TemperatureEvent), Decidable (reading.Unrepeated es)
  | _, [] => .isTrue trivial
  | reading, e :: es =>
    have := instDecidableUnrepeated (reading.next e) es
    inferInstanceAs (Decidable (_ ∧ _))

theorem Reading.unrepeated_snoc {reading : Reading} {es : List TemperatureEvent}
    {e : TemperatureEvent} :
    reading.Unrepeated (es ++ [e]) ↔
      reading.Unrepeated es ∧ (es.foldl Reading.next reading).Meets e := by
  induction es generalizing reading with
  | nil => exact and_comm
  | cons e' es ih =>
    show _ ∧ (reading.next e').Unrepeated (es ++ [e]) ↔ (_ ∧ (reading.next e').Unrepeated es) ∧ _
    rw [ih, and_assoc]
    rfl

/-- three finite floats -/
structure FiniteHolds (o : ByteOrder) (value : Path → Option Bytes) (v m x : UInt32) : Prop where
  holds : SensorHolds o value v m x
  sensor : floatIsFinite v = true
  min : floatIsFinite m = true
  max : floatIsFinite x = true

/-- what both devices are like whatever the events are -/
structure Twin.Held (o : ByteOrder) (id : String) (s : Twin) : Prop where
  ready : Ready s.client id
  faults : s.device.faults = []
  client : ∃ v m x, FiniteHolds o (s.client.value id) v m x
  device : ∃ v m x, FiniteHolds o s.device.value v m x

section
variable {o : ByteOrder} {id : String} {s : Twin} {v m x v' m' x' : UInt32}

theorem SensorHolds.storedFloat {c : Client} (h : SensorHolds o (c.value id) v m x) :
    Pt.storedFloat o c id ⟨temperatureSensor, 0, sensorValue⟩ = some v ∧
      Pt.storedFloat o c id ⟨temperatureSensor, 0, minMeasuredValue⟩ = some m ∧
      Pt.storedFloat o c id ⟨temperatureSensor, 0, maxMeasuredValue⟩ = some x := by
  unfold Pt.storedFloat
  rw [h.sensor, h.min, h.max]
  simp only [Option.map_some, convertValueToHostOrderFloat_convert]
  exact ⟨trivial, trivial, trivial⟩

/-- the property, by what the devices hold -/
theorem agree_iff (hc : SensorHolds o (s.client.value id) v m x)
    (hd : SensorHolds o s.device.value v' m' x') :
    s.Agree o id ↔ (v = v' ∧ m = m' ∧ x = x') ∧ ∀ t, s.last = some t → Within m t x := by
  obtain ⟨-, hmin, hmax⟩ := hc.storedFloat
  constructor
  · intro h
    have hsensor := h.sensor
    have hsameMin := h.min
    have hsameMax := h.max
    rw [hc.sensor, hd.sensor] at hsensor
    rw [hc.min, hd.min] at hsameMin
    rw [hc.max, hd.max] at hsameMax
    refine ⟨⟨convertFloatValueToNetworkByteOrder_inj (Option.some.inj hsensor),
      convertFloatValueToNetworkByteOrder_inj (Option.some.inj hsameMin),
      convertFloatValueToNetworkByteOrder_inj (Option.some.inj hsameMax)⟩, fun t ht => ?_⟩
    obtain ⟨m₁, x₁, hm, hx, hwithin⟩ := h.bounds t ht
    obtain rfl := Option.some.inj (hmin.symm.trans hm)
    obtain rfl := Option.some.inj (hmax.symm.trans hx)
    exact hwithin
  · rintro ⟨⟨rfl, rfl, rfl⟩, hwithin⟩
    exact ⟨hc.sensor.trans hd.sensor.symm, hc.min.trans hd.min.symm, hc.max.trans hd.max.symm,
      fun t ht => ⟨m, x, hmin, hmax, hwithin t ht⟩⟩

theorem covered_iff (hc : SensorHolds o (s.client.value id) v m x) (t : UInt32) :
    s.Covered o id (.update t) ↔ (floatEq v t = true → Within m t x) := by
  obtain ⟨hsensor, hmin, hmax⟩ := hc.storedFloat
  constructor
  · intro h
    obtain ⟨v₁, m₁, x₁, hv, hm, hx, hwithin⟩ := h t rfl
    obtain rfl := Option.some.inj (hsensor.symm.trans hv)
    obtain rfl := Option.some.inj (hmin.symm.trans hm)
    obtain rfl := Option.some.inj (hmax.symm.trans hx)
    exact hwithin
  · intro h t' ht'
    cases ht'
    exact ⟨v, m, x, hsensor, hmin, hmax, h⟩

/-- the bounds are right where both have been looked at -/
theorem within_update {t : UInt32} (hm : floatIsFinite m = true) (hx : floatIsFinite x = true)
    (ht : floatIsFinite t = true) :
    Within (if floatLt t m then t else m) t (if floatLt x t then t else x) := by
  have hbelow := floatLt_iff ht hm
  have habove := floatLt_iff hx ht
  unfold Within
  constructor
  · split
    · exact le_refl _
    · rename_i hlt
      exact not_lt.mp fun h => hlt (hbelow.mpr h)
  · split
    · exact le_refl _
    · rename_i hlt
      exact not_lt.mp fun h => hlt (habove.mpr h)

/-- a value within the bounds moves none of them -/
theorem within_iff {t : UInt32} (hv : floatIsFinite v = true) (hm : floatIsFinite m = true)
    (hx : floatIsFinite x = true) (ht : floatIsFinite t = true) (heq : floatEq v t = true) :
    Within m t x ↔ floatLt v m = false ∧ floatLt x v = false := by
  have hkey := (floatEq_iff hv ht).mp heq
  unfold Within
  rw [← hkey, ← not_lt, ← not_lt, ← floatLt_iff hv hm, ← floatLt_iff hx hv, Bool.not_eq_true,
    Bool.not_eq_true]

theorem ite_finite {a b : UInt32} (ha : floatIsFinite a = true) (hb : floatIsFinite b = true)
    (p : Bool) : floatIsFinite (if p then a else b) = true := by
  cases p with
  | false => exact hb
  | true => exact ha

/-- **The step lemma.**  Both devices are as before, and agree exactly if the update was covered. -/
theorem twin_step (hheld : s.Held o id) {e : TemperatureEvent} (he : e.Finite) :
    ∃ s', twinStep o id s e = some s' ∧ s'.Held o id ∧
      (s.Agree o id → (s'.Agree o id ↔ s.Covered o id e)) := by
  obtain ⟨hready, hfaults, ⟨v, m, x, hc, hv, hm, hx⟩, ⟨v', m', x', hd, hv', hm', hx'⟩⟩ := hheld
  cases e with
  | reset =>
    obtain ⟨hready₁, hc₁⟩ := ptExample_reset_holds hready hc
    obtain ⟨hfaults₁, hd₁⟩ := stress_reset_holds hfaults hd
    refine ⟨_, rfl, ⟨hready₁, hfaults₁, ⟨v, fltMax, negFltMax, hc₁, hv, by decide, by decide⟩,
      ⟨v', fltMax, negFltMax, hd₁, hv', by decide, by decide⟩⟩, fun hagree => ?_⟩
    obtain ⟨⟨rfl, -, -⟩, -⟩ := (agree_iff hc hd).mp hagree
    exact iff_of_true ((agree_iff hc₁ hd₁).mpr ⟨⟨rfl, rfl, rfl⟩, nofun⟩) nofun
  | update t =>
    have ht := he t rfl
    obtain ⟨c₁, hupdate, hready₁, hc₁⟩ := ptExample_update_holds hready hc t
    obtain ⟨hfaults₁, hd₁⟩ := stress_update_holds hd t
    have hstep : twinStep o id s (.update t) = some
        { client := c₁, device := Stress.updateTemperatureToDevice o s.device t,
          last := some t } := by
      show (PtExample.updateTemperatureToDevice o s.client id t).map _ = _
      rw [hupdate]
      rfl
    -- the device of the stress tester from here on by what it holds
    generalize Stress.updateTemperatureToDevice o s.device t = d₁ at hstep hfaults₁ hd₁
    have hdevice := ite_finite hv' ht (floatEq v' t)
    have hheldDevice : ∃ v m x, FiniteHolds o d₁.value v m x :=
      ⟨_, _, _, hd₁, hdevice, ite_finite hdevice hm' _, ite_finite hdevice hx' _⟩
    refine ⟨_, hstep, ?_⟩
    cases heq : floatEq v t with
    | true =>
      rw [heq, if_pos rfl] at hc₁
      refine ⟨⟨hready₁, hfaults₁.trans hfaults, ⟨v, m, x, hc₁, hv, hm, hx⟩, hheldDevice⟩,
        fun hagree => ?_⟩
      obtain ⟨⟨rfl, rfl, rfl⟩, -⟩ := (agree_iff hc hd).mp hagree
      rw [heq, if_pos rfl] at hd₁
      rw [agree_iff hc₁ hd₁, covered_iff hc, heq]
      constructor
      · intro h _
        exact h.2 t rfl
      · intro h
        have hwithin := h rfl
        obtain ⟨hbelow, habove⟩ := (within_iff hv hm hx ht heq).mp hwithin
        rw [hbelow, habove]
        refine ⟨⟨rfl, rfl, rfl⟩, fun t' ht' => ?_⟩
        cases ht'
        exact hwithin
    | false =>
      rw [heq, if_neg Bool.false_ne_true] at hc₁
      refine ⟨⟨hready₁, hfaults₁.trans hfaults,
        ⟨_, _, _, hc₁, ht, ite_finite ht hm _, ite_finite ht hx _⟩, hheldDevice⟩, fun hagree => ?_⟩
      obtain ⟨⟨rfl, rfl, rfl⟩, -⟩ := (agree_iff hc hd).mp hagree
      rw [heq, if_neg Bool.false_ne_true] at hd₁
      rw [agree_iff hc₁ hd₁, covered_iff hc, heq]
      refine iff_of_true ⟨⟨rfl, rfl, rfl⟩, fun t' ht' => ?_⟩ nofun
      cases ht'
      exact within_update hm hx ht

theorem twinHeld_of_run {s₀ : Twin} (hheld : s₀.Held o id) {es : List TemperatureEvent}
    (hrun : Run (twinStep o id) (fun _ e => e.Finite) s₀ es s) : s.Held o id := by
  apply hrun.invariant hheld
  intro s e s' hs he hstep
  obtain ⟨s₁, hstep₁, hs₁, -⟩ := twin_step hs he
  rw [hstep] at hstep₁
  cases hstep₁
  exact hs₁

/-- no event is impossible -/
theorem twin_run {s₀ : Twin} (hheld : s₀.Held o id) {es : List TemperatureEvent}
    (hfinite : ∀ e ∈ es, e.Finite) :
    ∃ s, Run (twinStep o id) (fun _ e => e.Finite) s₀ es s := by
  induction es using List.reverseRecOn with
  | nil => exact ⟨s₀, .nil⟩
  | append_singleton es e ih =>
    obtain ⟨s, hs⟩ := ih fun e he => hfinite e (List.mem_append_left _ he)
    have he := hfinite e (List.mem_append_right _ List.mem_cons_self)
    obtain ⟨s', hstep, -⟩ := twin_step (twinHeld_of_run hheld hs) he
    exact ⟨s', hs.snoc he hstep⟩

end

/-! ### what the events say -/

/-- the client has the reading, and its bounds are right if they are known to be -/
structure Reading.Of (o : ByteOrder) (id : String) (s : Twin) (reading : Reading) : Prop where
  ready : Ready s.client id
  holds : ∃ m x, FiniteHolds o (s.client.value id) reading.temperature m x ∧
    (reading.bounded = true ↔ Within m reading.temperature x)

section
variable {o : ByteOrder} {id : String} {s s' : Twin} {v m x : UInt32} {reading : Reading}

theorem within_congr {t : UInt32} (hv : floatIsFinite v = true) (ht : floatIsFinite t = true)
    (heq : floatEq v t = true) : Within m t x ↔ Within m v x := by
  have hkey := (floatEq_iff hv ht).mp heq
  unfold Within
  rw [hkey]

/-- no temperature is within the bounds that a reset leaves -/
theorem not_within_reset (t : UInt32) : ¬Within fltMax t negFltMax := by
  rintro ⟨hmin, hmax⟩
  have hlt : floatKey negFltMax < floatKey fltMax := by decide
  exact absurd (hmin.trans hmax) (not_le.mpr hlt)

theorem Reading.Of.covered_iff (h : reading.Of o id s) {e : TemperatureEvent} (he : e.Finite) :
    s.Covered o id e ↔ reading.Meets e := by
  obtain ⟨-, m, x, ⟨hholds, hv, -, -⟩, hbounded⟩ := h
  cases e with
  | reset => exact iff_of_true (fun t ht => by cases ht) trivial
  | update t =>
    rw [Pt.covered_iff hholds]
    show (_ → _) ↔ (_ → _)
    exact imp_congr_right fun heq => (within_congr hv (he t rfl) heq).trans hbounded.symm

/-- an update that meets the condition, or a reset, leaves the next reading -/
theorem Reading.Of.step (h : reading.Of o id s) {e : TemperatureEvent} (he : e.Finite)
    (hmeets : reading.Meets e) (hstep : twinStep o id s e = some s') :
    (reading.next e).Of o id s' := by
  obtain ⟨hready, m, x, ⟨hholds, hv, hm, hx⟩, hbounded⟩ := h
  cases e with
  | reset =>
    cases hstep
    obtain ⟨hready₁, hholds₁⟩ := ptExample_reset_holds hready hholds
    exact ⟨hready₁, fltMax, negFltMax, ⟨hholds₁, hv, by decide, by decide⟩,
      iff_of_false Bool.false_ne_true (not_within_reset _)⟩
  | update t =>
    have ht := he t rfl
    obtain ⟨c₁, hupdate, hready₁, hholds₁⟩ := ptExample_update_holds hready hholds t
    obtain ⟨c₂, hupdate₂, rfl⟩ := Option.map_eq_some_iff.mp hstep
    obtain rfl := Option.some.inj (hupdate.symm.trans hupdate₂)
    cases heq : floatEq reading.temperature t with
    | true =>
      -- the update changes nothing
      rw [Reading.next_of_eq heq]
      rw [heq, if_pos rfl] at hholds₁
      exact ⟨hready₁, m, x, ⟨hholds₁, hv, hm, hx⟩,
        iff_of_true rfl (hbounded.mp (hmeets heq))⟩
    | false =>
      rw [Reading.next_of_ne heq]
      rw [heq, if_neg Bool.false_ne_true] at hholds₁
      exact ⟨hready₁, _, _, ⟨hholds₁, ht, ite_finite ht hm _, ite_finite ht hx _⟩,
        iff_of_true rfl (within_update hm hx ht)⟩

/-- **The updates of a run are covered exactly when the events repeat no temperature whose bounds
were reset.** -/
theorem covered_run_iff {s₀ : Twin} (h₀ : reading.Of o id s₀) {es : List TemperatureEvent}
    (hs : Run (twinStep o id) (fun _ e => e.Finite) s₀ es s) :
    (Run (twinStep o id) (fun u e => e.Finite ∧ u.Covered o id e) s₀ es s ↔
      reading.Unrepeated es) ∧
      (reading.Unrepeated es → (es.foldl Reading.next reading).Of o id s) := by
  induction hs with
  | nil => exact ⟨iff_of_true .nil trivial, fun _ => h₀⟩
  | @snoc es s s' e hs he hstep ih =>
    obtain ⟨hiff, hof⟩ := ih
    rw [Reading.unrepeated_snoc, List.foldl_append]
    refine ⟨⟨fun hrun => ?_, fun ⟨hbefore, hmeets⟩ => ?_⟩, fun ⟨hbefore, hmeets⟩ =>
      (hof hbefore).step he hmeets hstep⟩
    · obtain ⟨u, hu, ⟨-, hcovered⟩, -⟩ := Run.snoc_iff.mp hrun
      obtain rfl := Option.some.inj (hs.to_run.symm.trans hu.to_run)
      have hbefore := hiff.mp hu
      exact ⟨hbefore, ((hof hbefore).covered_iff he).mp hcovered⟩
    · exact (hiff.mpr hbefore).snoc ⟨he, ((hof hbefore).covered_iff he).mpr hmeets⟩ hstep

end

section
variable (o : ByteOrder) {id : String} {c : Client} {d : V1.Device} {v m x : UInt32}

/-- **The two updates agree and keep the bounds right exactly in the runs** in which each update to
the temperature that the sensor has finds it within the bounds: those in which no temperature is
repeated first behind a reset. -/
theorem temperature_agree_iff (hready : Ready c id) (hfaults : d.faults = [])
    (hc : FiniteHolds o (c.value id) v m x) (hd : SensorHolds o d.value v m x)
    {es : List TemperatureEvent} (hfinite : ∀ e ∈ es, e.Finite) :
    ∃ s, run (twinStep o id) ⟨c, d, none⟩ es = some s ∧
      ((∀ pre u, pre <+: es → run (twinStep o id) ⟨c, d, none⟩ pre = some u → u.Agree o id) ↔
        Run (twinStep o id) (fun u e => e.Finite ∧ u.Covered o id e) ⟨c, d, none⟩ es s) ∧
      (Run (twinStep o id) (fun u e => e.Finite ∧ u.Covered o id e) ⟨c, d, none⟩ es s ↔
        Reading.Unrepeated ⟨v, decide (Within m v x)⟩ es) := by
  have hheld : Twin.Held o id ⟨c, d, none⟩ :=
    ⟨hready, hfaults, ⟨v, m, x, hc⟩, ⟨v, m, x, hd, hc.sensor, hc.min, hc.max⟩⟩
  have hinit : Twin.Agree o id ⟨c, d, none⟩ :=
    (agree_iff hc.holds hd).mpr ⟨⟨rfl, rfl, rfl⟩, nofun⟩
  obtain ⟨s, hs⟩ := twin_run hheld hfinite
  have hreading : Reading.Of o id ⟨c, d, none⟩ ⟨v, decide (Within m v x)⟩ :=
    ⟨hready, m, x, hc, decide_eq_true_iff⟩
  refine ⟨s, hs.to_run, ?_, (covered_run_iff hreading hs).1⟩
  have hstep : ∀ u e u', u.Held o id → Twin.Agree o id u → e.Finite →
      twinStep o id u e = some u' → (u'.Agree o id ↔ u.Covered o id e) := by
    intro u e u' hheld hagree hfinite hu'
    obtain ⟨u₁, hu₁, -, hiff⟩ := twin_step hheld hfinite
    rw [hu'] at hu₁
    cases hu₁
    exact hiff hagree
  exact hs.invariant_iff_of (fun _ _ => twinHeld_of_run hheld) hinit hstep

/-- a new thermometer of the PT client has what one of the stress tester has -/
theorem ipsoCreateThermometer_holds (hr : Ready c id)
    (hnew : ∀ r, c.value id ⟨temperatureSensor, 0, r⟩ = none) (temperature : UInt32) :
    ∃ c', ipsoCreateThermometer o c id 0 temperature true = some c' ∧ Ready c' id ∧
      SensorHolds o (c'.value id) temperature fltMax negFltMax := by
  unfold ipsoCreateThermometer
  rw [takeFault_of_nil hr.1]
  simp only [if_true, ipsoAddResource]
  obtain ⟨hr₁, hv₁⟩ := deviceAddResource_ready hr (hnew sensorValue)
    ⟨.float, operationRead, convertFloatValueToNetworkByteOrder o temperature⟩
  generalize (deviceAddResource c id ⟨temperatureSensor, 0, sensorValue⟩
    ⟨.float, operationRead, convertFloatValueToNetworkByteOrder o temperature⟩).2 = c₁
    at hr₁ hv₁ ⊢
  have hr₂ := (deviceAddResource_grows c₁ id ⟨temperatureSensor, 0, sensorUnits⟩
    ⟨.string, operationRead, cBytes "Cel"⟩).ready hr₁
  have hother : ∀ {q : Path}, q ≠ ⟨temperatureSensor, 0, sensorUnits⟩ →
      (deviceAddResource c₁ id ⟨temperatureSensor, 0, sensorUnits⟩
        ⟨.string, operationRead, cBytes "Cel"⟩).2.value id q = c₁.value id q :=
    fun hq => deviceAddResource_other hr₁ hq _
  generalize (deviceAddResource c₁ id ⟨temperatureSensor, 0, sensorUnits⟩
    ⟨.string, operationRead, cBytes "Cel"⟩).2 = c₂ at hr₂ hother ⊢
  have hmin : c₂.value id ⟨temperatureSensor, 0, minMeasuredValue⟩ = none := by
    rw [hother (by decide), hv₁, Function.update_of_ne (by decide)]
    exact hnew _
  have hmax : c₂.value id ⟨temperatureSensor, 0, maxMeasuredValue⟩ = none := by
    rw [hother (by decide), hv₁, Function.update_of_ne (by decide)]
    exact hnew _
  have htracks := ipsoAddMinMaxFields_tracks (o := o) hr₂ hmin hmax
  refine ⟨_, rfl, htracks.ready, ?_, htracks.min, htracks.max⟩
  rw [ipsoAddMinMaxFields_other hr₂ (by decide), hother (by decide), hv₁, Function.update_self]

end

/-! ## a thermometer at 20.0 -/

def thermometerClient : Client :=
  (ipsoCreateThermometer .little sensorClient "sensor" 0 0x41A00000 true).getD sensorClient

def thermometerDevice : V1.Device :=
  (V1.ipsoCreateThermometer .little ⟨∅, []⟩ 0x41A00000 true).getD ⟨∅, []⟩

theorem thermometerClient_holds : Ready thermometerClient "sensor" ∧
    FiniteHolds .little (thermometerClient.value "sensor") 0x41A00000 fltMax negFltMax := by
  have hnew : ∀ r, sensorClient.value "sensor" ⟨temperatureSensor, 0, r⟩ = none := by
    intro r
    rfl
  obtain ⟨c, hc, hready, hholds⟩ := ipsoCreateThermometer_holds .little ⟨rfl, by decide⟩ hnew
    0x41A00000
  unfold thermometerClient
  rw [hc]
  exact ⟨hready, hholds, by decide, by decide, by decide⟩

theorem thermometerDevice_holds : thermometerDevice.faults = [] ∧
    SensorHolds .little thermometerDevice.value 0x41A00000 fltMax negFltMax := by
  obtain ⟨d, hd, hfaults, hsensor, hmin, hmax⟩ := V1.ipsoCreateThermometer_first (o := .little)
    (d := ⟨∅, []⟩) 0x41A00000 rfl rfl
  unfold thermometerDevice
  rw [hd]
  exact ⟨hfaults, hsensor, hmin, hmax⟩

/-- 21.5 twice, a reset, 20.0 and 21.5 -/
def measuredTemperature : List TemperatureEvent :=
  [TemperatureEvent.update 0x41AC0000, TemperatureEvent.update 0x41AC0000, TemperatureEvent.reset,
    TemperatureEvent.update 0x41A00000, TemperatureEvent.update 0x41AC0000]

/-- 21.5, a reset, and 21.5 again -/
def repeatedTemperature : List TemperatureEvent :=
  [TemperatureEvent.update 0x41AC0000, TemperatureEvent.reset, TemperatureEvent.update 0x41AC0000]

theorem finite_of_all {es : List TemperatureEvent}
    (h : (es.all fun
      | .update t => floatIsFinite t
      | .reset => true) = true) : ∀ e ∈ es, e.Finite := by
  rintro e he t rfl
  exact List.all_eq_true.mp h _ he

/-- every update of the first list agrees -/
theorem temperature_agree_iff_measured :
    ∃ s, run (twinStep .little "sensor") ⟨thermometerClient, thermometerDevice, none⟩
        measuredTemperature = some s ∧
      ∀ pre u, pre <+: measuredTemperature →
        run (twinStep .little "sensor") ⟨thermometerClient, thermometerDevice, none⟩ pre
          = some u → u.Agree .little "sensor" := by
  obtain ⟨s, hs, hagree, hunrepeated⟩ := temperature_agree_iff .little thermometerClient_holds.1
    thermometerDevice_holds.1 thermometerClient_holds.2 thermometerDevice_holds.2
    (@finite_of_all measuredTemperature (by decide))
  exact ⟨s, hs, hagree.mpr (hunrepeated.mpr (by decide))⟩

/-- after the reset, pt-example does not look at the bounds and the stress tester does -/
theorem repeated_not_agree :
    ¬∀ (o : ByteOrder) (id : String) (c : Client) (d : V1.Device) (v m x : UInt32)
      (es : List TemperatureEvent) (s : Twin), Ready c id → d.faults = [] →
      FiniteHolds o (c.value id) v m x → SensorHolds o d.value v m x → (∀ e ∈ es, e.Finite) →
      run (twinStep o id) ⟨c, d, none⟩ es = some s → s.Agree o id := by
  intro h
  obtain ⟨s, hs, hne⟩ : ∃ s, run (twinStep .little "sensor")
      ⟨thermometerClient, thermometerDevice, none⟩ repeatedTemperature = some s ∧
      s.client.value "sensor" ⟨temperatureSensor, 0, minMeasuredValue⟩
        ≠ s.device.value ⟨temperatureSensor, 0, minMeasuredValue⟩ :=
    exists_of_run_any (by decide +kernel)
  exact hne (h .little "sensor" thermometerClient thermometerDevice _ _ _ repeatedTemperature s
    thermometerClient_holds.1 thermometerDevice_holds.1 thermometerClient_holds.2
    thermometerDevice_holds.2 (finite_of_all (by decide)) hs).min

end Pt

end EdgeTranslators
