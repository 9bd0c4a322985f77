import HardwareTest.Config.Definitions
import HardwareTest.Lib.Join

/-!
# The device manager: `services/dm.c`

`prepareDeviceInfo` joins the platform bindings with the device definitions: one registry entry
for every pair of a binding and a definition of the same name whose binding is enabled. The
registry lives in a block from `malloc`, so its counter has no value until the first entry is
stored; the block is an argument of the model. A store outside `devices[128]` is `none`.

`prepareDeviceInfo_eq` says that the two nested loops are one series of stores of `deviceMatches`,
and `prepareDeviceInfo_of_distinct` what the registry holds when the device names are distinct.
-/

namespace HardwareTest

open Lib

abbrev deviceManagerMaxDevices : ℕ := 128

/-- Source: `services/dm.h`, `DeviceState_e` -/
inductive DeviceState
  | unknown | registered | enabled | disabled | error
deriving DecidableEq

/-- Source: `services/dm.h`, `Device_t` -/
structure Device where
  name : CharBuf deviceNameLength
  state : DeviceState
  definition : DeviceDef
  binding : DeviceBinding

/-- Source: `services/dm.c`, `device_manager_t` -/
structure DeviceManager where
  devices : FixedTable Device deviceManagerMaxDevices

/-- The registry entry for an enabled binding of a defined device. -/
def registeredDevice (deviceBinding : DeviceBinding) (deviceConfiguration : DeviceDef) : Device where
  name := safeStringCopy deviceConfiguration.name.chars deviceNameLength
  state := .registered
  definition := deviceConfiguration
  binding := deviceBinding

/-- The registry under construction and `dm_count`. -/
abbrev DeviceFill := FixedTable Device deviceManagerMaxDevices × ℕ

/-- The inner loop of `prepare_device_info`: register every definition the binding refers to.
Source: `services/dm.c`, `prepare_device_info` -/
def registerBinding (cfgMan : ConfigManager) (st : DeviceFill) (deviceBinding : DeviceBinding) :
    Option DeviceFill :=
  cfgMan.deviceConfig.devices.loop
    (fun st deviceConfiguration =>
      if safeStringCompare deviceConfiguration.name.chars deviceBinding.device.chars then
        if deviceBinding.isEnabled then
          FixedTable.store st (registeredDevice deviceBinding deviceConfiguration)
        else some st
      else some st)
    st

/-- Fill the registry; `-1` when the platform has no bindings.
Source: `services/dm.c`, `prepare_device_info` -/
def prepareDeviceInfo (dm : DeviceManager) (cfgMan : ConfigManager) : Option (ℤ × DeviceManager) :=
  if cfgMan.getPlatformDeviceCount = 0 then some (-1, dm)
  else
    (cfgMan.platformConfig.bindings.loop (registerBinding cfgMan) (dm.devices, 0)).map
      fun st => (0, ⟨st.1⟩)

/-- Allocate and fill a registry. `init` is the function's static flag and `block` what `malloc`
returns (`none` for `NULL`); the result is the manager returned and the flag afterwards.
Source: `services/dm.c`, `device_manager_init` -/
def deviceManagerInit (init : Bool) (block : Option DeviceManager) (cfgMan : ConfigManager) :
    Option (Option DeviceManager × Bool) :=
  if init then some (none, init)
  else match block with
    | none => some (none, init)
    | some dm => (prepareDeviceInfo dm cfgMan).map fun r =>
        if r.1 ≠ 0 then (none, init) else (some r.2, true)

namespace DeviceManager

variable (dm : DeviceManager)

/-- Source: `services/dm.c`, `device_manager_get_count` -/
def getCount : ℕ := dm.devices.count

/-- Source: `services/dm.c`, `device_manager_get_device_by_index` -/
def getDeviceByIndex (index : ℕ) : Option Device := dm.devices.get? index

/-- Source: `services/dm.c`, `device_manager_get_device_by_name` -/
def getDeviceByName (name : CString) : Option Device :=
  dm.devices.items.find? fun d => safeStringCompare name d.name.chars

/-- The names in the registry, in order. -/
def names : List (CharBuf deviceNameLength) := dm.devices.items.map Device.name

end DeviceManager

/-! ## The registry as a join -/

/-- The definitions an enabled binding refers to, as registry entries. -/
def bindingMatches (defs : List DeviceDef) (b : DeviceBinding) : List Device :=
  (defs.filter fun d => decide (d.name.chars = b.device.chars) && b.isEnabled).map
    (registeredDevice b)

/-- The registry entries of a configuration, in the order of the bindings. -/
def deviceMatches (cfgMan : ConfigManager) : List Device :=
  cfgMan.bindings.flatMap (bindingMatches cfgMan.devices)

/-- The inner loop stores the definitions the binding refers to. -/
lemma registerBinding_eq (cfgMan : ConfigManager) (st : DeviceFill) (b : DeviceBinding) :
    registerBinding cfgMan st b = FixedTable.storeAll st (bindingMatches cfgMan.devices b) := by
  unfold registerBinding
  rw [FixedTable.loop_eq_items, bindingMatches, ← FixedTable.foldlM_store_filter]
  congr 1
  funext st d
  by_cases hname : d.name.chars = b.device.chars
  · simp [hname]
  · simp [hname]

/-- The nested loops are one series of stores. -/
lemma prepareDeviceInfo_eq (dm : DeviceManager) {cfgMan : ConfigManager}
    (h : cfgMan.getPlatformDeviceCount ≠ 0) :
    prepareDeviceInfo dm cfgMan =
      (FixedTable.storeAll (dm.devices, 0) (deviceMatches cfgMan)).map fun st => (0, ⟨st.1⟩) := by
  have hinner : registerBinding cfgMan =
      fun st b => FixedTable.storeAll st (bindingMatches cfgMan.devices b) := by
    funext st b
    exact registerBinding_eq cfgMan st b
  unfold prepareDeviceInfo
  rw [if_neg h, FixedTable.loop_eq_items, deviceMatches, ← FixedTable.foldlM_storeAll_flatMap,
    hinner]
  rfl

/-- With distinct device names a binding refers to at most one definition. -/
lemma length_bindingMatches_le {defs : List DeviceDef} (h : (defs.map DeviceDef.name).Nodup)
    (b : DeviceBinding) : (bindingMatches defs b).length ≤ 1 := by
  have hone := length_filter_key_le_one h b.device
  unfold bindingMatches
  rw [List.length_map]
  refine Nat.le_trans (List.Sublist.length_le ?_) hone
  refine List.monotone_filter_right defs fun d hd => ?_
  simp only [Bool.and_eq_true, decide_eq_true_eq] at hd ⊢
  exact CharBuf.ext hd.1

/-- A name is in the join iff it is a defined device with an enabled binding. -/
lemma exists_mem_deviceMatches_iff (cfgMan : ConfigManager) (x : CharBuf deviceNameLength) :
    (∃ d ∈ deviceMatches cfgMan, d.name = x) ↔
      (∃ d ∈ cfgMan.devices, d.name = x) ∧
        ∃ b ∈ cfgMan.bindings, b.isEnabled = true ∧ b.device = x := by
  constructor
  · rintro ⟨e, he, rfl⟩
    unfold deviceMatches at he
    rw [List.mem_flatMap] at he
    obtain ⟨b, hb, he⟩ := he
    unfold bindingMatches at he
    rw [List.mem_map] at he
    obtain ⟨d, hd, rfl⟩ := he
    simp only [List.mem_filter, Bool.and_eq_true, decide_eq_true_eq] at hd
    refine ⟨⟨d, hd.1, by simp [registeredDevice]⟩, b, hb, hd.2.2, ?_⟩
    simpa [registeredDevice] using (CharBuf.ext hd.2.1).symm
  · rintro ⟨⟨d, hd, rfl⟩, b, hb, hen, hbd⟩
    refine ⟨registeredDevice b d, ?_, by simp [registeredDevice]⟩
    unfold deviceMatches
    rw [List.mem_flatMap]
    refine ⟨b, hb, List.mem_map_of_mem ?_⟩
    simp [hd, hen, hbd]

/-- **The filled registry.** With distinct device names and tables within their limits, a
configuration that yields at least one entry fills the registry without leaving it, whatever the
block held before. -/
theorem prepareDeviceInfo_of_distinct (dm : DeviceManager) {cfgMan : ConfigManager}
    (hlim : cfgMan.WithinLimits) (hnames : (cfgMan.devices.map DeviceDef.name).Nodup)
    (hne : deviceMatches cfgMan ≠ []) :
    ∃ dm', prepareDeviceInfo dm cfgMan = some (0, dm') ∧
      dm'.devices.items = deviceMatches cfgMan := by
  have hcount : cfgMan.getPlatformDeviceCount ≠ 0 := by
    intro h0
    apply hne
    have hnil : cfgMan.bindings = [] := by
      rw [← List.length_eq_zero_iff, ConfigManager.bindings, hlim.bindingLimit.length_items]
      exact h0
    unfold deviceMatches
    rw [hnil, List.flatMap_nil]
  have hfit : (deviceMatches cfgMan).length ≤ deviceManagerMaxDevices := by
    have h1 : (deviceMatches cfgMan).length ≤ cfgMan.bindings.length :=
      length_join_le fun b _ => length_bindingMatches_le hnames b
    have h2 : cfgMan.bindings.length ≤ maxBindings := FixedTable.length_items_le _
    simp only [deviceManagerMaxDevices, maxBindings] at h2 ⊢
    omega
  obtain ⟨devices, hstore, hitems⟩ := FixedTable.storeAll_fresh dm.devices hne hfit
  exact ⟨⟨devices⟩, by rw [prepareDeviceInfo_eq dm hcount, hstore]; rfl, hitems⟩

end HardwareTest
