import HardwareTest.Services.Registries
import Mathlib.Data.List.Induction

/-!
# Enabling and disabling devices: `services/dm.c`

A query reads the first entry of a name, `device_manager_enable` and `device_manager_disable` write
all of them. `items_runCommands` puts any sequence of calls in closed form: every entry has the
state of the last call made with its name, or the state it had.

* `DeviceManager.Tracked`: the states follow the calls, and nothing else changes.
* `tracked_iff`: so it is for a registry that `device_manager_init` has just built iff it stored an
  entry, or found a sound table of registered devices in the block from `malloc`.
-/

namespace HardwareTest

open Lib

/-! ## The model -/

namespace DeviceManager

variable (dm : DeviceManager)

/-- `none` is a NULL name. Source: `services/dm.c`, `device_manager_get_state` -/
def getState : Option CString → DeviceState
  | none => .error
  | some name =>
      match dm.devices.items.find? fun d => safeStringCompare name d.name.chars with
      | some d => d.state
      | none => .unknown

/-- The loop of `device_manager_enable` and `device_manager_disable`, which differ in the state that
they write. -/
def setState (state : DeviceState) : Option CString → ℤ × DeviceManager
  | none => (-1, dm)
  | some name =>
      (0, ⟨dm.devices.mapItems fun d =>
        if safeStringCompare name d.name.chars then { d with state } else d⟩)

/-- Source: `services/dm.c`, `device_manager_enable` -/
def enable (name : Option CString) : ℤ × DeviceManager := dm.setState .enabled name

/-- Source: `services/dm.c`, `device_manager_disable` -/
def disable (name : Option CString) : ℤ × DeviceManager := dm.setState .disabled name

end DeviceManager

/-- A call that changes states, with its name. -/
inductive DeviceCommand
  | enable (name : Option CString)
  | disable (name : Option CString)

namespace DeviceCommand

/-- The name that a call is made with. -/
def name : DeviceCommand → Option CString
  | enable name => name
  | disable name => name

/-- The state that a call writes. -/
def state : DeviceCommand → DeviceState
  | enable _ => .enabled
  | disable _ => .disabled

end DeviceCommand

namespace DeviceManager

/-- The registry after a call. -/
def command (dm : DeviceManager) : DeviceCommand → DeviceManager
  | .enable name => (dm.enable name).2
  | .disable name => (dm.disable name).2

/-- The registry after a sequence of calls. -/
def runCommands (dm : DeviceManager) (commands : List DeviceCommand) : DeviceManager :=
  commands.foldl command dm

end DeviceManager

/-- The state that the last call with a name writes. -/
def lastState (commands : List DeviceCommand) (name : CString) : Option DeviceState :=
  (commands.reverse.find? fun c => c.name = some name).map DeviceCommand.state

/-! ## One call -/

/-- The frame of a call with a name: the counter, the other entries and all other fields. -/
structure KeepsOthers (name : Option CString) (dm dm' : DeviceManager) : Prop where
  count : dm'.devices.count = dm.devices.count
  fields : ∀ i : Fin deviceManagerMaxDevices, ∃ state,
    dm'.devices.entries[i] = { dm.devices.entries[i] with state }
  others : ∀ i : Fin deviceManagerMaxDevices, some dm.devices.entries[i].name.chars ≠ name →
    dm'.devices.entries[i] = dm.devices.entries[i]

/-- What a call does to an entry. -/
def DeviceCommand.apply (c : DeviceCommand) (d : Device) : Device :=
  if c.name = some d.name.chars then { d with state := c.state } else d

/-- A call keeps the name of an entry. -/
@[simp] lemma DeviceCommand.name_apply (c : DeviceCommand) (d : Device) :
    (c.apply d).name = d.name := by
  unfold DeviceCommand.apply
  split_ifs <;> rfl

namespace DeviceManager

variable (dm : DeviceManager) (c : DeviceCommand)

/-- Both calls are the loop, over the state that they write. -/
lemma command_eq : dm.command c = (dm.setState c.state c.name).2 := by
  rcases c with name | name <;> rfl

/-- A call rewrites the entries of its name. -/
lemma items_command : (dm.command c).devices.items = dm.devices.items.map c.apply := by
  rw [command_eq]
  rcases hname : c.name with _ | name
  · have happly : c.apply = id := by
      funext d
      simp [DeviceCommand.apply, hname]
    rw [happly, List.map_id]
    rfl
  · simp [setState, DeviceCommand.apply, hname, safeStringCompare]

/-- **The frame of a call.** -/
lemma keepsOthers_command : KeepsOthers c.name dm (dm.command c) := by
  rw [command_eq]
  rcases hname : c.name with _ | name
  · exact ⟨rfl, fun i => ⟨_, rfl⟩, fun i _ => rfl⟩
  · refine ⟨rfl, fun i => ?_, fun i hi => ?_⟩
    · show ∃ state, (FixedTable.mapItems _ dm.devices).entries[i.val] = _
      rw [FixedTable.getElem_mapItems _ _ i.isLt]
      split_ifs
      · exact ⟨c.state, rfl⟩
      · exact ⟨_, rfl⟩
      · exact ⟨_, rfl⟩
    · show (FixedTable.mapItems _ dm.devices).entries[i.val] = _
      have hother : safeStringCompare name dm.devices.entries[i.val].name.chars = false :=
        safeStringCompare_eq_false.mpr fun heq => hi (congrArg some heq.symm)
      rw [FixedTable.getElem_mapItems _ _ i.isLt, hother]
      simp

end DeviceManager

/-! ## A sequence of calls -/

/-- One more call. -/
lemma lastState_append (commands : List DeviceCommand) (c : DeviceCommand) (name : CString) :
    lastState (commands ++ [c]) name =
      if c.name = some name then some c.state else lastState commands name := by
  unfold lastState
  rw [List.reverse_append, List.reverse_singleton, List.singleton_append, List.find?_cons]
  by_cases hname : c.name = some name
  · simp [hname]
  · simp [hname]

/-- An entry after some calls. -/
def Device.after (commands : List DeviceCommand) (d : Device) : Device :=
  { d with state := (lastState commands d.name.chars).getD d.state }

/-- One more call is applied to the entry. -/
lemma Device.after_append (commands : List DeviceCommand) (c : DeviceCommand) (d : Device) :
    d.after (commands ++ [c]) = c.apply (d.after commands) := by
  unfold Device.after DeviceCommand.apply
  rw [lastState_append]
  split_ifs <;> rfl

namespace DeviceManager

variable (dm : DeviceManager) (commands : List DeviceCommand)

/-- One more call. -/
lemma runCommands_append (c : DeviceCommand) :
    dm.runCommands (commands ++ [c]) = (dm.runCommands commands).command c := by
  unfold runCommands
  rw [List.foldl_append, List.foldl_cons, List.foldl_nil]

/-- **The registry after a sequence of calls.** -/
lemma items_runCommands :
    (dm.runCommands commands).devices.items = dm.devices.items.map (Device.after commands) := by
  induction commands using List.reverseRecOn with
  | nil =>
      have hafter : Device.after [] = id := rfl
      rw [hafter, List.map_id]
      rfl
  | append_singleton commands c ih =>
      rw [runCommands_append, items_command, ih, List.map_map]
      refine List.map_congr_left fun d _ => ?_
      exact (d.after_append commands c).symm

/-- The first entry of a name, after a sequence of calls. -/
lemma getDeviceByName_runCommands (name : CString) :
    (dm.runCommands commands).getDeviceByName name =
      (dm.getDeviceByName name).map (Device.after commands) := by
  unfold getDeviceByName
  rw [items_runCommands, List.find?_map]
  rfl

/-- The query reads the first entry of a name. -/
lemma getState_eq (name : CString) :
    dm.getState (some name) = ((dm.getDeviceByName name).map Device.state).getD .unknown := by
  have hfind : dm.devices.items.find? (fun d => safeStringCompare name d.name.chars) =
      dm.getDeviceByName name := rfl
  simp only [getState, hfind]
  rcases dm.getDeviceByName name with _ | d <;> rfl

/-- A registry has an entry of a name. -/
def Has (name : CString) : Prop := ∃ d ∈ dm.devices.items, d.name.chars = name

instance (name : CString) : Decidable (dm.Has name) :=
  inferInstanceAs (Decidable (∃ d ∈ dm.devices.items, d.name.chars = name))

/-- A name without an entry is not found. -/
lemma getDeviceByName_of_not_has {name : CString} (h : ¬ dm.Has name) :
    dm.getDeviceByName name = none := by
  unfold getDeviceByName
  rw [List.find?_eq_none]
  intro d hd hname
  exact h ⟨d, hd, (safeStringCompare_eq_true.mp hname).symm⟩

/-- A name with an entry is found, under that name. -/
lemma exists_getDeviceByName {name : CString} (h : dm.Has name) :
    ∃ d, dm.getDeviceByName name = some d ∧ d.name.chars = name := by
  obtain ⟨d, hd, hname⟩ := h
  have hfound : (dm.getDeviceByName name).isSome = true := by
    unfold getDeviceByName
    rw [List.find?_isSome]
    exact ⟨d, hd, safeStringCompare_eq_true.mpr hname.symm⟩
  obtain ⟨first, hfirst⟩ := Option.isSome_iff_exists.mp hfound
  have hcompare := List.find?_some hfirst
  exact ⟨first, hfirst, (safeStringCompare_eq_true.mp hcompare).symm⟩

/-! ## Tracking -/

/-- **The states follow the calls**: no loop leaves the table; after any sequence of calls a name
has the state of the last call made with it, `REGISTERED` before the first one, and `UNKNOWN` when
the registry does not have it; the device found by name has the same state; and no call changes an
entry of another name, or another field. -/
structure Tracked : Prop where
  within : dm.devices.WithinLimit
  state : ∀ commands name, (dm.runCommands commands).getState (some name) =
    if dm.Has name then (lastState commands name).getD .registered else .unknown
  byName : ∀ commands name, ((dm.runCommands commands).getDeviceByName name).map Device.state =
    if dm.Has name then some ((dm.runCommands commands).getState (some name)) else none
  frame : ∀ commands c,
    KeepsOthers c.name (dm.runCommands commands) ((dm.runCommands commands).command c)

/-- A table within its array whose names all start as `REGISTERED`. -/
def StartsRegistered : Prop :=
  dm.devices.WithinLimit ∧ ∀ name d, dm.getDeviceByName name = some d → d.state = .registered

/-- The states are tracked from such a table, and from no other. -/
lemma tracked_iff_startsRegistered : dm.Tracked ↔ dm.StartsRegistered := by
  constructor
  · intro h
    refine ⟨h.within, fun name d hd => ?_⟩
    have hhas : dm.Has name := by
      by_contra hno
      rw [dm.getDeviceByName_of_not_has hno] at hd
      cases hd
    have hstate := h.state [] name
    rw [getState_eq, getDeviceByName_runCommands, hd, if_pos hhas] at hstate
    exact hstate
  · rintro ⟨hwithin, hregistered⟩
    refine ⟨hwithin, fun commands name => ?_, fun commands name => ?_, fun commands c =>
      (dm.runCommands commands).keepsOthers_command c⟩
    · rw [getState_eq, getDeviceByName_runCommands]
      split_ifs with hhas
      · obtain ⟨d, hd, rfl⟩ := dm.exists_getDeviceByName hhas
        rw [hd, ← hregistered _ d hd]
        rfl
      · rw [dm.getDeviceByName_of_not_has hhas]
        rfl
    · rw [getState_eq, getDeviceByName_runCommands]
      split_ifs with hhas
      · obtain ⟨d, hd, -⟩ := dm.exists_getDeviceByName hhas
        rw [hd]
        rfl
      · rw [dm.getDeviceByName_of_not_has hhas]
        rfl

end DeviceManager

/-! ## A fresh registry -/

/-- Every stored entry is `REGISTERED`. -/
lemma state_of_mem_deviceMatches {cfgMan : ConfigManager} {d : Device}
    (h : d ∈ deviceMatches cfgMan) : d.state = .registered := by
  unfold deviceMatches at h
  rw [List.mem_flatMap] at h
  obtain ⟨b, -, hd⟩ := h
  unfold bindingMatches at hd
  rw [List.mem_map] at hd
  obtain ⟨-, -, rfl⟩ := hd
  rfl

section fresh

variable {cfgMan : ConfigManager} {dm₀ dm : DeviceManager} {flag : Bool}

/-- What `device_manager_init` returns is the block with the entries stored in it. -/
lemma storeAll_of_deviceManagerInit
    (h : deviceManagerInit false (some dm₀) cfgMan = some (some dm, flag)) :
    ∃ k, FixedTable.storeAll (dm₀.devices, 0) (deviceMatches cfgMan) = some (dm.devices, k) := by
  unfold deviceManagerInit at h
  simp only [Bool.false_eq_true, if_false, Option.map_eq_some_iff] at h
  obtain ⟨⟨code, dm'⟩, hprepare, h⟩ := h
  split_ifs at h with hcode
  · cases h
  obtain rfl : dm' = dm := Option.some.inj (Prod.mk.inj h).1
  have hbindings : cfgMan.getPlatformDeviceCount ≠ 0 := by
    intro hzero
    rw [prepareDeviceInfo, if_pos hzero] at hprepare
    cases hprepare
    exact hcode (by decide : (-1 : ℤ) ≠ 0)
  rw [prepareDeviceInfo_eq dm₀ hbindings, Option.map_eq_some_iff] at hprepare
  obtain ⟨st, hst, hdm⟩ := hprepare
  cases hdm
  exact ⟨st.2, hst⟩

/-- **Device states follow the calls exactly** when `device_manager_init` stored an entry, or the
block that `malloc` returned happens to hold a sound table of registered devices.
Source: `services/dm.c`, `prepare_device_info`, `device_manager_enable`,
`device_manager_disable`, `device_manager_get_state`, `device_manager_get_device_by_name` -/
theorem tracked_iff (h : deviceManagerInit false (some dm₀) cfgMan = some (some dm, flag)) :
    dm.Tracked ↔ deviceMatches cfgMan ≠ [] ∨ dm₀.StartsRegistered := by
  obtain ⟨k, hstore⟩ := storeAll_of_deviceManagerInit h
  rw [dm.tracked_iff_startsRegistered]
  by_cases hnone : deviceMatches cfgMan = []
  · -- nothing is stored: the registry is the block
    rw [hnone] at hstore
    have hsame : dm = dm₀ := congrArg DeviceManager.mk (Prod.mk.inj (Option.some.inj hstore)).1.symm
    rw [hsame]
    simp [hnone]
  · refine iff_of_true ⟨?_, fun name d hd => ?_⟩ (.inl hnone)
    · obtain ⟨hfits, -⟩ := FixedTable.storeAll_eq_some (Nat.zero_le _) hstore
      have hcount := (FixedTable.count_storeAll_iff hstore).mpr (.inl hnone)
      show dm.devices.count ≤ _
      rw [hcount]
      simpa using hfits
    · have hitems := FixedTable.items_storeAll hstore (.inl hnone)
      have hmem := List.mem_of_find?_eq_some hd
      rw [hitems] at hmem
      exact state_of_mem_deviceMatches hmem

end fresh

/-- The one-LED platform tracks its device, whatever the counter of the block. -/
theorem tracked_ledConfig :
    ∃ dm, deviceManagerInit false (some (ledBlocks 7 0).devices) ledConfig =
        some (some dm, true) ∧ dm.Tracked := by
  obtain ⟨dm, hinit⟩ : ∃ dm, deviceManagerInit false (some (ledBlocks 7 0).devices) ledConfig =
      some (some dm, true) := ⟨_, rfl⟩
  exact ⟨dm, hinit, (tracked_iff hinit).mpr (.inl (by decide))⟩

/-- A block whose counter and first entry are left over from an enabled device. -/
def staleRegistry : DeviceManager :=
  ⟨.ofList _ enabledDevice [enabledDevice]⟩
where
  enabledDevice : Device :=
    { registeredDevice ledConfig.ledBinding ledConfig.ledDevice with state := .enabled }

/-- With its binding disabled nothing is stored, and a device nobody has enabled is `ENABLED`. -/
theorem staleRegistry_not_tracked :
    ∃ dm, deviceManagerInit false (some staleRegistry) disabledConfig = some (some dm, true) ∧
      dm.getState (some (cstr "status_led")) = .enabled ∧ ¬ dm.Tracked := by
  refine ⟨staleRegistry, rfl, by decide, fun h => ?_⟩
  have hstate := h.state [] (cstr "status_led")
  exact absurd hstate (by decide)

end HardwareTest
