import EdgeTranslators.Pt.V1.Instances

/-!
# The resources of a new instance

What the constructors of the first client add to an instance that is new, when nothing fails.

* `Holds`                       nothing fails, and the resources of the device are these;
* `Holds.add`                   a resource that is not there yet is added;
* `ipsoCreateThermometer_first`   the floats of the first thermometer of a device.
-/

namespace EdgeTranslators.Pt.V1
open Lib

/-- nothing fails, the instance is there, and the resources are `f` -/
structure Holds (d : Device) (inst : InstanceId) (f : Path → Option Resource) : Prop where
  faults : d.faults = []
  there : (d.findObjectInstance inst.objectId inst.instanceId).isSome
  resources : d.findResource = f

theorem update_path {f : Path → Option Resource} {inst : InstanceId} {resourceId other : UInt16}
    (hne : resourceId ≠ other) (r : Option Resource) :
    Function.update f (inst.path other) r (inst.path resourceId) = f (inst.path resourceId) :=
  Function.update_of_ne (Path.ne_of_resourceId hne inst.objectId inst.instanceId) _ _

theorem Holds.add {d : Device} {inst : InstanceId} {f : Path → Option Resource}
    (h : Holds d inst f) (resourceId : UInt16) (hnew : f (inst.path resourceId) = none)
    (type : Lwm2mResourceType) (operations : UInt8) (value : Bytes) :
    Holds (ipsoAddResource d inst resourceId type operations value) inst
      (Function.update f (inst.path resourceId) (some ⟨type, operations, value⟩)) := by
  obtain ⟨hd, hi, rfl⟩ := h
  obtain ⟨hd', hi', hr'⟩ := objectInstanceAddResource_ready ⟨type, operations, value⟩ hd hi hnew
  exact ⟨hd', hi', hr'⟩

/-- **A new thermometer**, when nothing fails: its three floats, and the device they are on -/
theorem ipsoCreateThermometer_first {o : ByteOrder} {d : Device} (temperature : UInt32)
    (hd : d.faults = []) (hobject : d.findObject temperatureSensor = none) :
    ∃ d', ipsoCreateThermometer o d temperature true = some d' ∧ d'.faults = [] ∧
      d'.value ⟨temperatureSensor, 0, sensorValue⟩
        = some (convertFloatValueToNetworkByteOrder o temperature) ∧
      d'.value ⟨temperatureSensor, 0, minMeasuredValue⟩
        = some (convertFloatValueToNetworkByteOrder o fltMax) ∧
      d'.value ⟨temperatureSensor, 0, maxMeasuredValue⟩
        = some (convertFloatValueToNetworkByteOrder o negFltMax) := by
  obtain ⟨hinst, hd₀, hi₀, hnone⟩ := ipsoCreateNextFreeObjectInstance_first hd hobject
  unfold ipsoCreateThermometer ipsoAddMinMaxFields
  generalize ipsoCreateNextFreeObjectInstance d temperatureSensor = r₀ at hinst hd₀ hi₀ hnone ⊢
  obtain ⟨inst, d₀⟩ := r₀
  obtain rfl : inst = some ⟨temperatureSensor, 0⟩ := hinst
  simp only at hd₀ hi₀ hnone ⊢
  have h₀ : Holds d₀ ⟨temperatureSensor, 0⟩ d₀.findResource := ⟨hd₀, hi₀, rfl⟩
  generalize d₀.findResource = f at h₀ hnone
  have hf : ∀ r, f (InstanceId.path ⟨temperatureSensor, 0⟩ r) = none := fun r => hnone _ rfl
  -- the five resources are new, each after those before it
  have h₁ := h₀.add sensorValue (hf sensorValue) .float operationRead
    (convertFloatValueToNetworkByteOrder o temperature)
  have h₂ := h₁.add sensorUnits
    (by simp (disch := decide) only [update_path, hf]) .string operationRead (cBytes "Cel")
  have h₃ := h₂.add minMeasuredValue
    (by simp (disch := decide) only [update_path, hf]) .float operationRead
    (convertFloatValueToNetworkByteOrder o fltMax)
  have h₄ := h₃.add maxMeasuredValue
    (by simp (disch := decide) only [update_path, hf]) .float operationRead
    (convertFloatValueToNetworkByteOrder o negFltMax)
  have h₅ := h₄.add resetMinMaxMeasuredValues
    (by simp (disch := decide) only [update_path, hf]) .opaqueBytes operationExecute []
  rw [takeFault_faults hd₀]
  simp only [if_true]
  rw [strdup_faults h₁.faults]
  simp only
  rw [takeFault_faults h₂.faults]
  simp only
  rw [takeFault_faults h₂.faults]
  have hvalue : ∀ r, Device.value _ (InstanceId.path ⟨temperatureSensor, 0⟩ r) = _ :=
    fun r => congrArg (Option.map Resource.value)
      (congrFun h₅.resources (InstanceId.path ⟨temperatureSensor, 0⟩ r))
  refine ⟨_, rfl, h₅.faults, (hvalue sensorValue).trans ?_, (hvalue minMeasuredValue).trans ?_,
    (hvalue maxMeasuredValue).trans ?_⟩
  all_goals simp (disch := decide) only [update_path, Function.update_self, Option.map_some]

end EdgeTranslators.Pt.V1
