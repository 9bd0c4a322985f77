import HardwareTest.Services.DeviceManager

/-!
# The function manager: `services/function-manager.c`

`prepareFunctionInfo` keeps a configured function when each device it needs is in the device
registry, and marks it available. The lookups (`isAvailable`, `getDeviceCount`,
`getDeviceByIndex`) each scan the table for the first entry of a name.

* `FunctionManager.devicesOf` is the device list of the first entry of a name; the lookups are
  stated in its terms (`getDeviceByIndex_eq` for an index below the reported count).
* `FunctionManager.AllAvailable` is the shape `prepare_function_info` gives the table, and
  `prepareFunctionInfo_of_distinct` what the table holds.
-/

namespace HardwareTest

open Lib

/-- Source: `services/function-manager.h`, `Function_t` -/
structure FunctionEntry where
  name : CharBuf functionNameLength
  available : Bool
  definition : FunctionDef

/-- Source: `services/function-manager.c`, `function_manager_t` -/
structure FunctionManager where
  functions : FixedTable FunctionEntry maxFunctions

/-! ## Building the table -/

/-- Whether a device of that name is registered: the loop that sets `match_found`.
Source: `services/function-manager.c`, `prepare_function_info` -/
def matchFound (dm : DeviceManager) (deviceName : CharBuf functionNameLength) : Bool :=
  dm.devices.items.any fun device => safeStringCompare device.name.chars deviceName.chars

/-- `total_match_found`: the devices matched before the first one that is missing.
Source: `services/function-manager.c`, `prepare_function_info` -/
def totalMatchFound (dm : DeviceManager) : List (CharBuf functionNameLength) → ℕ
  | [] => 0
  | deviceName :: rest => if matchFound dm deviceName then totalMatchFound dm rest + 1 else 0

/-- The table entry for a function whose devices are all present. -/
def availableFunction (functionDef : FunctionDef) : FunctionEntry where
  name := safeStringCopy functionDef.name.chars functionNameLength
  available := true
  definition := functionDef

/-- Fill the function table.
Source: `services/function-manager.c`, `prepare_function_info` -/
def prepareFunctionInfo (fm : FunctionManager) (cfgMan : ConfigManager) (dm : DeviceManager) :
    Option (ℤ × FunctionManager) :=
  (cfgMan.functionConfig.functions.loop
    (fun st functionDef =>
      if functionDef.deviceName.count = 0 then some st
      else if totalMatchFound dm functionDef.deviceName.items = functionDef.deviceName.count then
        FixedTable.store st (availableFunction functionDef)
      else some st)
    (fm.functions, 0)).map fun st => (0, ⟨st.1⟩)

/-- Allocate and fill a function table; `block` is what `malloc` returns.
Source: `services/function-manager.c`, `function_manager_init` -/
def functionManagerInit (block : Option FunctionManager) (cfgMan : ConfigManager)
    (dm : DeviceManager) : Option (Option FunctionManager) :=
  match block with
  | none => some none
  | some fm => (prepareFunctionInfo fm cfgMan dm).map fun r => if r.1 ≠ 0 then none else some r.2

/-! ## Lookups -/

namespace FunctionManager

variable (fm : FunctionManager)

/-- The first entry of a name: the scan all lookups share. -/
def find (name : CString) : Option FunctionEntry :=
  fm.functions.items.find? fun entry => safeStringCompare name entry.name.chars

/-- Source: `services/function-manager.c`, `function_manager_is_available` -/
def isAvailable (name : CString) : Bool :=
  match fm.find name with
  | some entry => entry.available
  | none => false

/-- Source: `services/function-manager.c`, `function_manager_get_function` -/
def getFunction (name : CString) : Option FunctionDef :=
  (fm.find name).map FunctionEntry.definition

/-- `none` when the function returns 0 (no such function).
Source: `services/function-manager.c`, `function_manager_get_device_count` -/
def getDeviceCount (name : CString) : Option ℕ :=
  (fm.find name).map fun entry => entry.definition.deviceName.count

/-- The scan goes on past an entry of the name that has too few devices.
Source: `services/function-manager.c`, `function_manager_get_device_by_index` -/
def getDeviceByIndex (name : CString) (deviceIndex : ℕ) : Option (CharBuf functionNameLength) :=
  fm.functions.items.findSome? fun entry =>
    if safeStringCompare name entry.name.chars then entry.definition.deviceName.get? deviceIndex
    else none

/-- The devices of the first entry of a name, none for an unknown name. -/
def devicesOf (name : CString) : List (CharBuf functionNameLength) :=
  match fm.find name with
  | some entry => entry.definition.deviceName.items
  | none => []

/-- Every entry is marked available and counts no more devices than it has cells: what
`prepare_function_info` stores. -/
structure AllAvailable : Prop where
  available : ∀ entry ∈ fm.functions.items, entry.available = true
  withinLimit : ∀ entry ∈ fm.functions.items, entry.definition.deviceName.WithinLimit

variable {fm}

/-- A function is known when the scan finds an entry. -/
lemma isAvailable_eq_isSome (h : fm.AllAvailable) (name : CString) :
    fm.isAvailable name = (fm.find name).isSome := by
  unfold isAvailable
  cases hfind : fm.find name with
  | none => rfl
  | some entry => exact h.available entry (List.mem_of_find?_eq_some hfind)

/-- Below the reported count, the device at an index is the one the first entry lists there. -/
lemma getDeviceByIndex_eq (h : fm.AllAvailable) {name : CString} {n i : ℕ}
    (hn : fm.getDeviceCount name = some n) (hi : i < n) :
    fm.getDeviceByIndex name i = (fm.devicesOf name)[i]? := by
  unfold getDeviceCount at hn
  rw [Option.map_eq_some_iff] at hn
  obtain ⟨entry, hfind, rfl⟩ := hn
  have hlen := (h.withinLimit entry (List.mem_of_find?_eq_some hfind)).length_items
  have hget : entry.definition.deviceName.get? i =
      some (entry.definition.deviceName.items.get ⟨i, by omega⟩) := by
    rw [FixedTable.get?_eq_items, List.getElem?_eq_getElem]
    rfl
  unfold devicesOf
  rw [hfind, getDeviceByIndex,
    FixedTable.findSome?_of_find? (g := fun e => e.definition.deviceName.get? i) hfind hget]
  exact (List.getElem?_eq_getElem _).symm

/-- The reported count is the length of the device list. -/
lemma getDeviceCount_eq (h : fm.AllAvailable) {name : CString} {n : ℕ}
    (hn : fm.getDeviceCount name = some n) : n = (fm.devicesOf name).length := by
  unfold getDeviceCount at hn
  rw [Option.map_eq_some_iff] at hn
  obtain ⟨entry, hfind, rfl⟩ := hn
  unfold devicesOf
  rw [hfind]
  exact ((h.withinLimit entry (List.mem_of_find?_eq_some hfind)).length_items).symm

/-- The counted loop over a function's devices, `continue` on a failed lookup, is a fold over its
device list. -/
theorem foldlM_devices {β : Type*} (h : fm.AllAvailable) {name : CString} {n : ℕ}
    (hn : fm.getDeviceCount name = some n)
    (f : β → CharBuf functionNameLength → Option β) (b : β) :
    (List.range n).foldlM (fun b i => FixedTable.orContinue f b (fm.getDeviceByIndex name i)) b =
      (fm.devicesOf name).foldlM f b := by
  rw [← FixedTable.foldlM_range_getElem? (fm.devicesOf name) f
    (Nat.le_of_eq (getDeviceCount_eq h hn).symm) b]
  apply FixedTable.foldlM_congr_mem b
  intro b i hi
  rw [getDeviceByIndex_eq h hn (List.mem_range.mp hi)]

/-- The same for a loop whose body cannot fail. -/
theorem foldl_devices {β : Type*} (h : fm.AllAvailable) {name : CString} {n : ℕ}
    (hn : fm.getDeviceCount name = some n) (f : β → CharBuf functionNameLength → β) (b : β) :
    (List.range n).foldl (fun b i => (fm.getDeviceByIndex name i).elim b (f b)) b =
      (fm.devicesOf name).foldl f b := by
  have hM := foldlM_devices h hn (fun b d => some (f b d)) b
  have hbody : ∀ b i, FixedTable.orContinue (fun b d => some (f b d)) b
      (fm.getDeviceByIndex name i) = some ((fm.getDeviceByIndex name i).elim b (f b)) := by
    intro b i
    cases fm.getDeviceByIndex name i <;> rfl
  simp only [hbody] at hM
  rw [← Option.some_inj]
  simpa only [← Option.pure_def, List.foldlM_pure] using hM

/-- A test over a function's devices, passed by a failed lookup, is a test of its device list. -/
theorem all_devices (h : fm.AllAvailable) {name : CString} {n : ℕ}
    (hn : fm.getDeviceCount name = some n) (p : CharBuf functionNameLength → Bool) :
    ((List.range n).all fun i => (fm.getDeviceByIndex name i).elim true p) =
      (fm.devicesOf name).all p := by
  have hlen := getDeviceCount_eq h hn
  rw [Bool.eq_iff_iff, List.all_eq_true, List.all_eq_true]
  constructor
  · intro hall d hd
    obtain ⟨i, hi, rfl⟩ := List.mem_iff_getElem.mp hd
    have := hall i (List.mem_range.mpr (by omega))
    rwa [getDeviceByIndex_eq h hn (by omega), List.getElem?_eq_getElem hi] at this
  · intro hall i hi
    rw [List.mem_range] at hi
    rw [getDeviceByIndex_eq h hn hi, List.getElem?_eq_getElem (by omega)]
    exact hall _ (List.getElem_mem _)

/-! ### Whether the lookups see the same entry -/

variable (fm) in
/-- The three lookups of a name describe one definition. -/
structure OneDefinition (name : CString) : Prop where
  count : ∀ d, fm.getFunction name = some d → fm.getDeviceCount name = some d.deviceName.count
  found : ∀ d, fm.getFunction name = some d →
    ∀ i, (fm.getDeviceByIndex name i).isSome ↔ i < d.deviceName.count
  device : ∀ d, fm.getFunction name = some d → ∀ i device,
    fm.getDeviceByIndex name i = some device → d.deviceName.entries[i]? = some device
  missing : fm.getFunction name = none →
    fm.getDeviceCount name = none ∧ ∀ i, fm.getDeviceByIndex name i = none

variable (fm) in
/-- No entry of a name lists more devices than the first one. -/
def FirstIsLongest (name : CString) : Prop :=
  ∀ first, fm.find name = some first → ∀ entry ∈ fm.functions.items, entry.name.chars = name →
    entry.definition.deviceName.count ≤ first.definition.deviceName.count

/-- A name without an entry is found by no lookup. -/
lemma getDeviceByIndex_of_missing {name : CString} (h : fm.find name = none) (i : ℕ) :
    fm.getDeviceByIndex name i = none := by
  unfold getDeviceByIndex
  rw [List.findSome?_eq_none_iff]
  intro entry hentry
  exact if_neg (List.find?_eq_none.mp h entry hentry)

/-- The device at an index is found iff some entry of the name counts that many. -/
lemma isSome_getDeviceByIndex_iff
    (hlim : ∀ entry ∈ fm.functions.items, entry.definition.deviceName.WithinLimit) (name : CString)
    (i : ℕ) : (fm.getDeviceByIndex name i).isSome ↔
      ∃ entry ∈ fm.functions.items, entry.name.chars = name ∧
        i < entry.definition.deviceName.count := by
  unfold getDeviceByIndex
  rw [List.findSome?_isSome_iff]
  apply exists_congr
  intro entry
  apply and_congr_right
  intro hentry
  split_ifs with hname
  · have hsame : entry.name.chars = name := (safeStringCompare_eq_true.mp hname).symm
    have hlen := (hlim entry hentry).length_items
    rw [FixedTable.get?_eq_items, Option.isSome_iff_ne_none, Ne, List.getElem?_eq_none_iff, hlen,
      Nat.not_le]
    exact ⟨fun hi => ⟨hsame, hi⟩, And.right⟩
  · have hother : entry.name.chars ≠ name := fun hsame =>
      hname (safeStringCompare_eq_true.mpr hsame.symm)
    simp [hother]

/-- Below the count of the first entry its own devices are found. -/
lemma getDeviceByIndex_of_first {name : CString} {first : FunctionEntry}
    (hfirst : fm.find name = some first) (hlim : first.definition.deviceName.WithinLimit) {i : ℕ}
    (hi : i < first.definition.deviceName.count) :
    fm.getDeviceByIndex name i = first.definition.deviceName.entries[i]? := by
  have hcells : first.definition.deviceName.count ≤ maxDevices := hlim
  have hinside : i < maxDevices := by omega
  have hcell : first.definition.deviceName.entries[i]? =
      some first.definition.deviceName.entries[i] := Vector.getElem?_eq_getElem hinside
  have hget : first.definition.deviceName.get? i = first.definition.deviceName.entries[i]? := by
    unfold FixedTable.get?
    rw [if_pos hi, Vector.getElem?_toList]
  rw [hcell] at hget ⊢
  exact FixedTable.findSome?_of_find? (g := fun e => e.definition.deviceName.get? i) hfirst hget

/-- The first entry of a name is the one that is looked up. -/
lemma getFunction_of_find {name : CString} {first : FunctionEntry} (h : fm.find name = some first) :
    fm.getFunction name = some first.definition := by
  unfold getFunction
  rw [h]
  rfl

/-- When the first entry is the longest, the devices of its name are found below its count. -/
lemma FirstIsLongest.isSome_getDeviceByIndex_iff {name : CString} (h : fm.FirstIsLongest name)
    (hlim : ∀ entry ∈ fm.functions.items, entry.definition.deviceName.WithinLimit)
    {first : FunctionEntry} (hfirst : fm.find name = some first) (i : ℕ) :
    (fm.getDeviceByIndex name i).isSome ↔ i < first.definition.deviceName.count := by
  rw [FunctionManager.isSome_getDeviceByIndex_iff hlim]
  constructor
  · rintro ⟨entry, hentry, hsame, hi⟩
    exact Nat.lt_of_lt_of_le hi (h first hfirst entry hentry hsame)
  · intro hi
    have hname : name = first.name.chars := by
      unfold find at hfirst
      have hsame := List.find?_some hfirst
      exact safeStringCompare_eq_true.mp hsame
    exact ⟨first, List.mem_of_find?_eq_some hfirst, hname.symm, hi⟩

/-- **One definition.** In a table whose device lists are within their limits the lookups of a name
describe one definition exactly when the first entry of the name is its longest. -/
theorem oneDefinition_iff (fm : FunctionManager)
    (hlim : ∀ entry ∈ fm.functions.items, entry.definition.deviceName.WithinLimit)
    (name : CString) : fm.OneDefinition name ↔ fm.FirstIsLongest name := by
  constructor
  · intro h first hfirst entry hentry hname
    by_contra hlonger
    -- the first index behind the first entry is found in the longer one
    have hfound := (isSome_getDeviceByIndex_iff hlim name first.definition.deviceName.count).mpr
      ⟨entry, hentry, hname, Nat.lt_of_not_le hlonger⟩
    exact Nat.lt_irrefl _ ((h.found _ (getFunction_of_find hfirst) _).mp hfound)
  · intro h
    rcases hfind : fm.find name with _ | first
    · refine ⟨?_, ?_, ?_, fun _ => ⟨?_, fun i => getDeviceByIndex_of_missing hfind i⟩⟩
      all_goals simp [getFunction, getDeviceCount, hfind]
    · have hfunction := getFunction_of_find hfind
      have hfound := h.isSome_getDeviceByIndex_iff hlim hfind
      refine ⟨fun d hd => ?_, fun d hd => ?_, fun d hd i device hi => ?_, fun hnone => ?_⟩
      · obtain rfl := Option.some.inj (hfunction.symm.trans hd)
        unfold getDeviceCount
        rw [hfind]
        rfl
      · obtain rfl := Option.some.inj (hfunction.symm.trans hd)
        exact hfound
      · obtain rfl := Option.some.inj (hfunction.symm.trans hd)
        have hlt := (hfound i).mp (by rw [hi]; rfl)
        have hmem := List.mem_of_find?_eq_some hfind
        rw [← getDeviceByIndex_of_first hfind (hlim first hmem) hlt, hi]
      · rw [hfunction] at hnone
        cases hnone

/-- A function that needs the given devices. -/
def ledFunction (devices : List CString) : FunctionDef where
  name := safeStringCopy (cstr "leds") functionNameLength
  description := .empty _
  deviceName := .ofList _ (.empty _)
    (devices.map fun device => safeStringCopy device functionNameLength)

/-- The table of two functions of one name. -/
def ledFunctions (first second : List CString) : FunctionManager :=
  ⟨.ofList _ (availableFunction (ledFunction []))
    [availableFunction (ledFunction first), availableFunction (ledFunction second)]⟩

/-- With the longer entry first the lookups describe it. -/
theorem oneDefinition_iff_longest :
    (ledFunctions [cstr "led0", cstr "led1"] [cstr "led0"]).OneDefinition (cstr "leds") := by
  refine (oneDefinition_iff _ ?_ _).mpr ?_
  · decide
  · intro first hfirst
    obtain rfl := Option.some.inj hfirst
    decide

/-- With the longer entry second its last device is found behind the count of the first one. -/
theorem getDeviceByIndex_behind :
    (ledFunctions [cstr "led0"] [cstr "led0", cstr "led1"]).getDeviceCount (cstr "leds") = some 1 ∧
      ¬ (ledFunctions [cstr "led0"] [cstr "led0", cstr "led1"]).OneDefinition (cstr "leds") := by
  refine ⟨by decide, fun h => ?_⟩
  have hfound := h.found (ledFunction [cstr "led0"]) rfl 1
  revert hfound
  decide

end FunctionManager

/-! ## What the table holds -/

/-- A function qualifies when it needs at least one device and all of them are registered. -/
def Supported (dm : DeviceManager) (f : FunctionDef) : Prop :=
  0 < f.deviceName.count ∧ ∀ d ∈ f.deviceName.items, d ∈ dm.names

instance (dm : DeviceManager) (f : FunctionDef) : Decidable (Supported dm f) :=
  inferInstanceAs (Decidable (_ ∧ _))

/-- The table entries of a configuration. -/
def functionMatches (cfgMan : ConfigManager) (dm : DeviceManager) : List FunctionEntry :=
  (cfgMan.functions.filter fun f => decide (Supported dm f)).map availableFunction

/-- A device is matched iff its name is in the registry. -/
lemma matchFound_iff (dm : DeviceManager) (d : CharBuf functionNameLength) :
    matchFound dm d = true ↔ d ∈ dm.names := by
  simp only [matchFound, List.any_eq_true, safeStringCompare_eq_true, DeviceManager.names,
    List.mem_map]
  constructor
  · rintro ⟨e, he, hname⟩
    exact ⟨e, he, CharBuf.ext hname⟩
  · rintro ⟨e, he, rfl⟩
    exact ⟨e, he, rfl⟩

/-- Every device is matched iff the count reaches the length of the list. -/
lemma totalMatchFound_eq_length_iff (dm : DeviceManager) (ds : List (CharBuf functionNameLength)) :
    totalMatchFound dm ds = ds.length ↔ ∀ d ∈ ds, d ∈ dm.names := by
  induction ds with
  | nil => simp [totalMatchFound]
  | cons d ds ih =>
      unfold totalMatchFound
      rw [List.length_cons, List.forall_mem_cons, ← matchFound_iff]
      split_ifs with hd
      · simpa [hd] using ih
      · simp [hd]

/-- The configured functions that the loop stores. -/
def storedFunctions (cfgMan : ConfigManager) (dm : DeviceManager) : List FunctionDef :=
  cfgMan.functions.filter fun f => decide (f.deviceName.count ≠ 0) &&
    decide (totalMatchFound dm f.deviceName.items = f.deviceName.count)

/-- The loop is one series of stores. -/
lemma prepareFunctionInfo_stores (fm : FunctionManager) (cfgMan : ConfigManager)
    (dm : DeviceManager) : prepareFunctionInfo fm cfgMan dm =
      (FixedTable.storeAll (fm.functions, 0)
        ((storedFunctions cfgMan dm).map availableFunction)).map fun st => (0, ⟨st.1⟩) := by
  unfold prepareFunctionInfo storedFunctions
  rw [FixedTable.loop_eq_items, ← FixedTable.foldlM_store_filter]
  congr 2
  funext st f
  by_cases h0 : f.deviceName.count = 0
  · simp [h0]
  · simp [h0]

/-- Device lists within their tables make the stored functions the supported ones. -/
lemma prepareFunctionInfo_eq (fm : FunctionManager) {cfgMan : ConfigManager} (dm : DeviceManager)
    (h : ∀ f ∈ cfgMan.functions, f.deviceName.WithinLimit) :
    prepareFunctionInfo fm cfgMan dm =
      (FixedTable.storeAll (fm.functions, 0) (functionMatches cfgMan dm)).map
        fun st => (0, ⟨st.1⟩) := by
  have hstored : (storedFunctions cfgMan dm).map availableFunction = functionMatches cfgMan dm := by
    unfold storedFunctions functionMatches
    congr 1
    apply List.filter_congr
    intro f hf
    have hall := totalMatchFound_eq_length_iff dm f.deviceName.items
    rw [(h f hf).length_items] at hall
    rw [Bool.eq_iff_iff]
    simp only [Supported, Bool.and_eq_true, decide_eq_true_eq, hall, Nat.pos_iff_ne_zero]
  rw [prepareFunctionInfo_stores, hstored]

/-- Every entry of a filled table is available and within its limit. -/
lemma allAvailable_of_items {fm : FunctionManager} {cfgMan : ConfigManager} {dm : DeviceManager}
    (hlim : ∀ f ∈ cfgMan.functions, f.deviceName.WithinLimit)
    (h : fm.functions.items = functionMatches cfgMan dm) : fm.AllAvailable := by
  have hentry : ∀ entry ∈ fm.functions.items,
      ∃ f ∈ cfgMan.functions, availableFunction f = entry := by
    intro entry hentry
    rw [h, functionMatches, List.mem_map] at hentry
    obtain ⟨f, hf, rfl⟩ := hentry
    exact ⟨f, (List.mem_filter.mp hf).1, rfl⟩
  constructor
  · intro entry he
    obtain ⟨f, -, rfl⟩ := hentry entry he
    rfl
  · intro entry he
    obtain ⟨f, hf, rfl⟩ := hentry entry he
    exact hlim f hf

/-- **The filled function table.** A configuration within its limits that yields at least one
entry fills the table without leaving it, whatever the block held before, and every entry of the
table is available. -/
theorem prepareFunctionInfo_of_limits (fm : FunctionManager) {cfgMan : ConfigManager}
    (dm : DeviceManager) (hlim : cfgMan.WithinLimits) (hne : functionMatches cfgMan dm ≠ []) :
    ∃ fm', prepareFunctionInfo fm cfgMan dm = some (0, fm') ∧
      fm'.functions.items = functionMatches cfgMan dm ∧ fm'.AllAvailable := by
  have hfit : (functionMatches cfgMan dm).length ≤ maxFunctions := by
    unfold functionMatches
    rw [List.length_map]
    exact Nat.le_trans (List.length_filter_le _ _) (FixedTable.length_items_le _)
  obtain ⟨functions, hstore, hitems⟩ := FixedTable.storeAll_fresh fm.functions hne hfit
  refine ⟨⟨functions⟩, ?_, hitems, allAvailable_of_items hlim.functionDeviceLimit hitems⟩
  rw [prepareFunctionInfo_eq fm dm hlim.functionDeviceLimit, hstore]
  rfl

end HardwareTest
