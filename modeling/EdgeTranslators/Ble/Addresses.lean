import EdgeTranslators.Ble.Contexts

/-!
# One context for each BLE address

A context is looked up by its device id, which is cut off at the size of the id buffer; the address
is in the part that is always kept.

* `TrackEvent`, `trackStep`      `ble_create_device_context` and `devices_del_device`;
* `bleFindDeviceFromAddress`     the lookup by address;
* `Tracked`                      the contexts are well formed, and have the id of their address;
* `addresses_tracked`            the context of an address is the only one, and it is found.
-/

namespace EdgeTranslators.Ble
open Lib Pt

inductive TrackEvent where
  | create (proxy : DeviceProxy) (deviceType : BleDeviceType)
  /-- the context at a pointer of the list is deleted -/
  | delete (ptr : Nat)
  deriving DecidableEq

def trackStep (cfg : Config) (t : Translator) : TrackEvent → Option Translator
  | .create proxy deviceType => some (bleCreateDeviceContext cfg t proxy deviceType)
  | .delete ptr => (t.devices.find? fun d => d.ptr = ptr).map (devicesDelDevice t)

/-- `ble_find_device_from_address`, with which `ble_find_device_from_proxy` looks for the address of
the proxy -/
def bleFindDeviceFromAddress (cfg : Config) (t : Translator) (a : BtAddress) : Option BleDevice :=
  devicesFindDeviceByDeviceId t.devices (cfg.id a)

/-- the context is that of the address -/
def BleDevice.IsFor (cfg : Config) (ble : BleDevice) (a : BtAddress) : Prop :=
  ble.addr = a.1 ∧ ble.deviceId = cfg.id a

structure Tracked (cfg : Config) (t : Translator) : Prop where
  wellFormed : WellFormed cfg t
  addr : ∀ ble ∈ t.devices, ∃ a, ble.IsFor cfg a

section
variable {cfg : Config} {t t' : Translator} {ble : BleDevice}

/-! ## what a step keeps -/

theorem Tracked.of_empty (h : t.devices = []) : Tracked cfg t := by
  refine ⟨⟨?_, ?_, ?_, ?_⟩, ?_⟩ <;> rw [h]
  · exact List.nodup_nil
  · nofun
  · exact List.nodup_nil
  · nofun
  · nofun

theorem Tracked.create (h : Tracked cfg t) (proxy : DeviceProxy) (deviceType : BleDeviceType) :
    Tracked cfg (bleCreateDeviceContext cfg t proxy deviceType) := by
  refine ⟨bleCreateDeviceContext_wellFormed proxy deviceType h.wellFormed, ?_⟩
  rcases bleCreateDeviceContext_cases cfg t proxy deviceType with ⟨heq, -⟩ | ⟨a, -, -, heq⟩
  · rw [heq]
    exact h.addr
  · rw [heq]
    intro d hd
    rcases List.mem_append.mp hd with hd | hd
    · exact h.addr d hd
    · rw [List.mem_singleton.mp hd]
      exact ⟨a, rfl, rfl⟩

/-- the contexts after one was deleted were there before -/
theorem mem_devicesDelDevice {d : BleDevice} (hd : d ∈ (devicesDelDevice t ble).devices) :
    d ∈ t.devices := by
  obtain ⟨hd, hne⟩ := List.mem_filter.mp hd
  have hptr : d.ptr ≠ ble.ptr := of_decide_eq_true hne
  unfold deviceStopRetryTimer at hd
  split at hd
  · exact hd
  · rcases mem_devicesSet hd with heq | hd
    · rw [heq] at hptr
      exact absurd rfl hptr
    · exact hd

theorem Tracked.delete (h : Tracked cfg t) (hble : ble ∈ t.devices) :
    Tracked cfg (devicesDelDevice t ble) := by
  have hframe : Frame (· = ble.deviceId) (fun _ => False) (fun _ => False) t
      (devicesDelDevice t ble) := devicesDelDevice_frame h.wellFormed hble
  exact ⟨hframe.wellFormed h.wellFormed, fun d hd => h.addr d (mem_devicesDelDevice hd)⟩

theorem Tracked.step {e : TrackEvent} (h : Tracked cfg t) (hstep : trackStep cfg t e = some t') :
    Tracked cfg t' := by
  cases e with
  | create proxy deviceType =>
    cases hstep
    exact h.create proxy deviceType
  | delete ptr =>
    obtain ⟨ble, hfind, rfl⟩ := Option.map_eq_some_iff.mp hstep
    exact h.delete (List.mem_of_find?_eq_some hfind)

/-! ## addresses and ids -/

theorem Tracked.isFor_of_addr (h : Tracked cfg t) (hble : ble ∈ t.devices) {a : BtAddress}
    (haddr : ble.addr = a.1) : ble.IsFor cfg a := by
  obtain ⟨b, hb, hid⟩ := h.addr ble hble
  obtain rfl : b = a := Subtype.ext (hb.symm.trans haddr)
  exact ⟨hb, hid⟩

theorem Tracked.isFor_of_id (h : Tracked cfg t) (hble : ble ∈ t.devices) {a : BtAddress}
    (hid : ble.deviceId = cfg.id a) : ble.IsFor cfg a := by
  obtain ⟨b, hb, hid'⟩ := h.addr ble hble
  obtain rfl : b = a := bleDeviceId_inj (hid'.symm.trans hid)
  exact ⟨hb, hid⟩

theorem Tracked.nodup_addr (h : Tracked cfg t) : (t.devices.map (·.addr)).Nodup := by
  refine List.Nodup.map_on ?_ h.wellFormed.id.of_map
  intro d hd d' hd' haddr
  obtain ⟨a, ha, hid⟩ := h.addr d hd
  have hid' := (h.isFor_of_addr hd' (haddr.symm.trans ha)).2
  exact List.inj_on_of_nodup_map h.wellFormed.id hd hd' (hid.trans hid'.symm)

theorem Tracked.find_iff (h : Tracked cfg t) {a : BtAddress} :
    bleFindDeviceFromAddress cfg t a = some ble ↔ ble ∈ t.devices ∧ ble.addr = a.1 := by
  constructor
  · intro hfind
    obtain ⟨hble, hid⟩ := mem_of_devicesFindDeviceByDeviceId hfind
    exact ⟨hble, (h.isFor_of_id hble hid).1⟩
  · rintro ⟨hble, haddr⟩
    have hid := (h.isFor_of_addr hble haddr).2
    cases hfind : bleFindDeviceFromAddress cfg t a with
    | none =>
      have hno := List.find?_eq_none.mp hfind ble hble
      exact absurd (decide_eq_true hid) hno
    | some d =>
      obtain ⟨hd, hid'⟩ := mem_of_devicesFindDeviceByDeviceId hfind
      rw [List.inj_on_of_nodup_map h.wellFormed.id hd hble (hid'.trans hid.symm)]

/-- **One context for each address, and one id; the lookup finds exactly it.** -/
theorem addresses_tracked {t₀ : Translator} {es : List TrackEvent} (hempty : t₀.devices = [])
    (h : Run (trackStep cfg) (fun _ _ => True) t₀ es t) :
    (t.devices.map (·.addr)).Nodup ∧ (t.devices.map (·.deviceId)).Nodup ∧
      (∀ a b : BtAddress, cfg.id a = cfg.id b → a = b) ∧
      ∀ a : BtAddress,
        (∀ ble, bleFindDeviceFromAddress cfg t a = some ble ↔ ble ∈ t.devices ∧ ble.addr = a.1) ∧
          (bleFindDeviceFromAddress cfg t a = none ↔ ∀ ble ∈ t.devices, ble.addr ≠ a.1) := by
  have htracked : Tracked cfg t :=
    h.invariant (Tracked.of_empty hempty) fun _ _ _ hs _ hstep => hs.step hstep
  refine ⟨htracked.nodup_addr, htracked.wellFormed.id, fun _ _ => bleDeviceId_inj, fun a =>
    ⟨fun _ => htracked.find_iff, ?_⟩⟩
  rw [Option.eq_none_iff_forall_ne_some]
  constructor
  · intro hnone ble hble haddr
    exact hnone ble (htracked.find_iff.mpr ⟨hble, haddr⟩)
  · intro hnone ble hfind
    obtain ⟨hble, haddr⟩ := htracked.find_iff.mp hfind
    exact hnone ble hble haddr

end

/-- two devices with a postfix longer than the id buffer, of which the first is deleted -/
theorem addresses_tracked_twoDevices : ∃ es t, es.length = 4 ∧ t.devices.length = 1 ∧
    Run (trackStep { plainConfig with endpointPostfix := "-a-postfix-of-any-length-at-all" })
      (fun _ _ => True) (start 0 none) es t ∧ (t.devices.map (·.addr)).Nodup := by
  have hany : (run (trackStep { plainConfig with
      endpointPostfix := "-a-postfix-of-any-length-at-all" }) (start 0 none)
      [TrackEvent.create plainProxy .persistentGattServer,
        .create ⟨"/org/bluez/hci0/dev_AA_BB_CC_DD_EE_00", some ⟨"AA:BB:CC:DD:EE:00", rfl⟩⟩
          .persistentGattServer,
        .create plainProxy .persistentGattServer, .delete 0]).any
        (fun t => decide (t.devices.length = 1)) = true := by
    decide +kernel
  obtain ⟨t, ht, hlength⟩ := exists_of_run_any hany
  exact ⟨_, t, rfl, hlength, Run.of_run ht, (addresses_tracked rfl (Run.of_run ht)).1⟩

end EdgeTranslators.Ble
