import HardwareTest.Config.Loaders
import HardwareTest.Services.TestManager
import HardwareTest.Services.TestScheduler

/-!
# The registries after start-up

The three registries and the scheduler are filled in blocks from `malloc`, whose contents are
arbitrary. A counter is assigned only where an entry is stored.

* `countsIndependent_iff`: two start-ups on two heaps count what they store, and the same, iff each
  counter is assigned on the way or was zero in its block.
* `registriesWithin_iff`: each fill stays inside its table iff the pairs that it joins fit, and a
  counter that is not assigned was within the table before.
-/

namespace HardwareTest

open Lib

/-! ## Start-up -/

/-- The blocks that `malloc` returns to the four `init` functions. -/
structure HeapBlocks (ι : Type*) where
  devices : DeviceManager
  functions : FunctionManager
  tests : TestManager
  scheduler : TestScheduler ι

/-- What the four `init` functions return. -/
structure Registries (ι : Type*) where
  deviceManager : DeviceManager
  functionManager : FunctionManager
  testManager : TestManager
  scheduler : TestScheduler ι

variable {ι : Type*}

/-- The four `init` functions return these registries, without a write outside a table.
Source: `runtime.c`, `runtime_manager_init` -/
structure Initialises (blocks : HeapBlocks ι) (cfgMan : ConfigManager) (r : Registries ι) :
    Prop where
  devices : deviceManagerInit false (some blocks.devices) cfgMan = some (some r.deviceManager, true)
  functions : functionManagerInit (some blocks.functions) cfgMan r.deviceManager =
    some (some r.functionManager)
  tests : testManagerInit (some blocks.tests) cfgMan r.functionManager = some (some r.testManager)
  scheduler : testSchedulerInit (some blocks.scheduler) testEngineMaxWorkers = some r.scheduler

/-- The numbers of devices, functions, tests and pending instances. -/
def Registries.counts (r : Registries ι) : List ℕ :=
  [r.deviceManager.devices.count, r.functionManager.functions.count, r.testManager.tests.count,
    r.scheduler.pendingInstances.count]

/-- The functions in the table, as `prepare_test_manager_info` reads them. -/
def FunctionManager.definitions (fm : FunctionManager) : List FunctionDef :=
  fm.functions.items.map FunctionEntry.definition

/-- Every counter is the number of entries that were stored, and nothing is pending. -/
structure Registries.CountsStored (cfgMan : ConfigManager) (r : Registries ι) : Prop where
  devices : r.deviceManager.devices.count = (deviceMatches cfgMan).length
  functions : r.functionManager.functions.count =
    (functionMatches cfgMan r.deviceManager).length
  tests : r.testManager.tests.count = (testMatches cfgMan r.functionManager.definitions).length
  pending : r.scheduler.pendingInstances.count = 0

/-- Every counter is assigned on the way, because the configuration has something to store, or is
zero in its block. -/
structure HeapBlocks.Counted (cfgMan : ConfigManager) (blocks : HeapBlocks ι) : Prop where
  devices : (∃ d, DevicePresent cfgMan d) ∨ blocks.devices.devices.count = 0
  functions : supportedFunctions cfgMan ≠ [] ∨ blocks.functions.functions.count = 0
  tests : (∃ t ∈ cfgMan.tests, Satisfied cfgMan t) ∨ blocks.tests.tests.count = 0
  pending : blocks.scheduler.pendingInstances.count = 0

/-! ## The fills -/

variable {cfgMan : ConfigManager} {blocks : HeapBlocks ι} {r : Registries ι}

/-- The device registry is one series of stores. -/
lemma Initialises.storeDevices (h : Initialises blocks cfgMan r) :
    ∃ k, FixedTable.storeAll (blocks.devices.devices, 0) (deviceMatches cfgMan) =
      some (r.deviceManager.devices, k) := by
  have hdevices := h.devices
  unfold deviceManagerInit at hdevices
  simp only [Bool.false_eq_true, if_false, Option.map_eq_some_iff] at hdevices
  obtain ⟨⟨code, dm⟩, hprepare, hresult⟩ := hdevices
  by_cases hcount : cfgMan.getPlatformDeviceCount = 0
  · rw [prepareDeviceInfo, if_pos hcount] at hprepare
    cases hprepare
    simp at hresult
  · rw [prepareDeviceInfo_eq _ hcount, Option.map_eq_some_iff] at hprepare
    obtain ⟨⟨devices, k⟩, hst, hdm⟩ := hprepare
    cases hdm
    simp only [ne_eq, not_true_eq_false, if_false, Prod.mk.injEq, Option.some_inj] at hresult
    refine ⟨k, ?_⟩
    rw [hst, ← hresult.1]

/-- The function table is one series of stores. -/
lemma Initialises.storeFunctions (h : Initialises blocks cfgMan r)
    (hlim : ∀ f ∈ cfgMan.functions, f.deviceName.WithinLimit) :
    ∃ k, FixedTable.storeAll (blocks.functions.functions, 0)
      (functionMatches cfgMan r.deviceManager) = some (r.functionManager.functions, k) := by
  have hfunctions := h.functions
  rw [functionManagerInit, prepareFunctionInfo_eq _ _ hlim, Option.map_map,
    Option.map_eq_some_iff] at hfunctions
  obtain ⟨⟨functions, k⟩, hst, hfm⟩ := hfunctions
  simp only [Function.comp_apply, ne_eq, not_true_eq_false, if_false, Option.some_inj] at hfm
  refine ⟨k, ?_⟩
  rw [hst, ← hfm]

/-- The test table is one series of stores. -/
lemma Initialises.storeTests (h : Initialises blocks cfgMan r) :
    ∃ k, FixedTable.storeAll (blocks.tests.tests, 0)
      (testMatches cfgMan r.functionManager.definitions) = some (r.testManager.tests, k) := by
  have htests := h.tests
  rw [testManagerInit, prepareTestManagerInfo_eq, Option.map_map,
    Option.map_eq_some_iff] at htests
  obtain ⟨⟨tests, k⟩, hst, htm⟩ := htests
  simp only [Function.comp_apply, ne_eq, not_true_eq_false, if_false, Option.some_inj] at htm
  refine ⟨k, ?_⟩
  rw [FunctionManager.definitions, hst, ← htm]

/-- Some device is registered iff one is present. -/
lemma deviceMatches_ne_nil_iff (cfgMan : ConfigManager) :
    deviceMatches cfgMan ≠ [] ↔ ∃ d, DevicePresent cfgMan d := by
  constructor
  · intro hne
    obtain ⟨e, he⟩ := List.exists_mem_of_ne_nil _ hne
    exact ⟨e.name, (exists_mem_deviceMatches_iff cfgMan e.name).mp ⟨e, he, rfl⟩⟩
  · rintro ⟨d, hd⟩
    obtain ⟨e, he, -⟩ := (exists_mem_deviceMatches_iff cfgMan d).mpr hd
    exact List.ne_nil_of_mem he

/-- Over the supported functions, some test is registered iff one is satisfied. -/
lemma testMatches_ne_nil_iff (cfgMan : ConfigManager) :
    testMatches cfgMan (supportedFunctions cfgMan) ≠ [] ↔ ∃ t ∈ cfgMan.tests, Satisfied cfgMan t := by
  constructor
  · intro hne
    obtain ⟨e, he⟩ := List.exists_mem_of_ne_nil _ hne
    obtain ⟨t, ht, -, hf⟩ :=
      (exists_mem_testMatches_iff cfgMan _ e.name.chars).mp ⟨e, he, rfl⟩
    exact ⟨t, ht, (satisfied_iff cfgMan t).mpr hf⟩
  · rintro ⟨t, ht, hsat⟩
    obtain ⟨e, he, -⟩ := (exists_mem_testMatches_iff cfgMan (supportedFunctions cfgMan)
      t.name.chars).mpr ⟨t, ht, rfl, (satisfied_iff cfgMan t).mp hsat⟩
    exact List.ne_nil_of_mem he

/-- A table that counts its matches holds the functions that the configuration supports. -/
lemma Initialises.definitions (h : Initialises blocks cfgMan r)
    (hlim : ∀ f ∈ cfgMan.functions, f.deviceName.WithinLimit)
    (hdevices : deviceMatches cfgMan ≠ [] ∨ blocks.devices.devices.count = 0) :
    (functionMatches cfgMan r.deviceManager).map FunctionEntry.definition =
        supportedFunctions cfgMan ∧
      (functionMatches cfgMan r.deviceManager ≠ [] ∨ blocks.functions.functions.count = 0 →
        r.functionManager.definitions = supportedFunctions cfgMan) := by
  obtain ⟨k, hst⟩ := h.storeDevices
  have hdefs := functionMatches_definitions (FixedTable.items_storeAll hst hdevices)
  refine ⟨hdefs, fun hfunctions => ?_⟩
  obtain ⟨k, hst⟩ := h.storeFunctions hlim
  have hitems := FixedTable.items_storeAll hst hfunctions
  simp only at hitems
  rw [FunctionManager.definitions, hitems, hdefs]

/-- **One start-up** counts what it stores iff its counters are assigned or were zero. -/
theorem countsStored_iff (h : Initialises blocks cfgMan r)
    (hlim : ∀ f ∈ cfgMan.functions, f.deviceName.WithinLimit) :
    r.CountsStored cfgMan ↔ blocks.Counted cfgMan := by
  obtain ⟨k, hdevices⟩ := h.storeDevices
  obtain ⟨k', hfunctions⟩ := h.storeFunctions hlim
  obtain ⟨k'', htests⟩ := h.storeTests
  have hpending : r.scheduler.pendingInstances = blocks.scheduler.pendingInstances := by
    have hscheduler := h.scheduler
    rw [testSchedulerInit, Option.map_some, Option.some_inj] at hscheduler
    rw [← hscheduler]
  have hd := FixedTable.count_storeAll_iff hdevices
  have hf := FixedTable.count_storeAll_iff hfunctions
  have ht := FixedTable.count_storeAll_iff htests
  rw [deviceMatches_ne_nil_iff] at hd
  constructor
  · rintro ⟨hcd, hcf, hct, hcp⟩
    have hdev := hd.mp hcd
    have hfun := hf.mp hcf
    obtain ⟨hdefs, hread⟩ := h.definitions hlim
      (hdev.imp_left (deviceMatches_ne_nil_iff cfgMan).mpr)
    have htest := ht.mp hct
    rw [hread hfun, testMatches_ne_nil_iff] at htest
    refine ⟨hdev, ?_, htest, hpending ▸ hcp⟩
    rwa [← hdefs, ne_eq, List.map_eq_nil_iff]
  · rintro ⟨hdev, hfun, htest, hpend⟩
    obtain ⟨hdefs, hread⟩ := h.definitions hlim
      (hdev.imp_left (deviceMatches_ne_nil_iff cfgMan).mpr)
    rw [← hdefs, ne_eq, List.map_eq_nil_iff] at hfun
    rw [← testMatches_ne_nil_iff, ← hread hfun] at htest
    exact ⟨hd.mpr hdev, hf.mpr hfun, ht.mpr htest, hpending ▸ hpend⟩

/-- The counts of a start-up that counts what it stores are those of the configuration. -/
lemma Registries.CountsStored.counts_eq (hc : r.CountsStored cfgMan)
    (h : Initialises blocks cfgMan r) (hlim : ∀ f ∈ cfgMan.functions, f.deviceName.WithinLimit) :
    r.counts = [(deviceMatches cfgMan).length, (supportedFunctions cfgMan).length,
      (testMatches cfgMan (supportedFunctions cfgMan)).length, 0] := by
  obtain ⟨hdev, hfun, -, -⟩ := (countsStored_iff h hlim).mp hc
  obtain ⟨hdefs, hread⟩ := h.definitions hlim
    (hdev.imp_left (deviceMatches_ne_nil_iff cfgMan).mpr)
  have hlen : (functionMatches cfgMan r.deviceManager).length =
      (supportedFunctions cfgMan).length := by
    rw [← hdefs, List.length_map]
  rw [← hdefs, ne_eq, List.map_eq_nil_iff] at hfun
  rw [Registries.counts, hc.devices, hc.functions, hc.tests, hc.pending, hlen, hread hfun]

/-- **The counts of two start-ups** on two heaps, with the device lists of the configured functions
within their arrays: they are the same, and the numbers of stored entries, iff in both every counter
is assigned on the way or was zero in its block.
Source: `services/dm.c`, `services/function-manager.c`, `services/test-manager.c`,
`services/test-scheduler.c` -/
theorem countsIndependent_iff {blocks' : HeapBlocks ι} {r' : Registries ι}
    (hlim : ∀ f ∈ cfgMan.functions, f.deviceName.WithinLimit) (h : Initialises blocks cfgMan r)
    (h' : Initialises blocks' cfgMan r') :
    (r.counts = r'.counts ∧ r.CountsStored cfgMan ∧ r'.CountsStored cfgMan) ↔
      blocks.Counted cfgMan ∧ blocks'.Counted cfgMan := by
  rw [← countsStored_iff h hlim, ← countsStored_iff h' hlim]
  constructor
  · exact And.right
  · intro hc
    exact ⟨by rw [hc.1.counts_eq h hlim, hc.2.counts_eq h' hlim], hc⟩

/-- Blocks full of LED entries, with a counter for the three tables and one for the pending list. -/
def ledBlocks (count pending : ℕ) : HeapBlocks ℕ where
  devices := ⟨⟨.replicate _ (registeredDevice ledConfig.ledBinding ledConfig.ledDevice), count⟩⟩
  functions := ⟨⟨.replicate _ (availableFunction ledConfig.ledFunction), count⟩⟩
  tests := ⟨⟨.replicate _ (availableTest ledConfig.ledTest), count⟩⟩
  scheduler := ⟨0, 0, ⟨.replicate _ none, pending⟩⟩

/-- The one-LED platform counts the same over stale and over zero counters. -/
theorem countsIndependent_ledConfig :
    ∃ r r', Initialises (ledBlocks 7 0) ledConfig r ∧ Initialises (ledBlocks 0 0) ledConfig r' ∧
      r.counts = r'.counts := by
  have h : Initialises (ledBlocks 7 0) ledConfig ⟨_, _, _, _⟩ := ⟨rfl, rfl, rfl, rfl⟩
  have h' : Initialises (ledBlocks 0 0) ledConfig ⟨_, _, _, _⟩ := ⟨rfl, rfl, rfl, rfl⟩
  have hpresent : ∃ d, DevicePresent ledConfig d := ⟨ledConfig.ledName, by decide⟩
  have hcounted : ∀ count, (ledBlocks count 0).Counted ledConfig := fun count =>
    ⟨.inl hpresent, .inl (by decide), .inl (by decide), rfl⟩
  exact ⟨_, _, h, h',
    ((countsIndependent_iff (by decide) h h').mpr ⟨hcounted 7, hcounted 0⟩).1⟩

/-- The one-LED platform with its binding disabled. -/
def disabledConfig : ConfigManager :=
  { ledConfig with
    platformConfig := { ledConfig.platformConfig with
      bindings := .ofList _ ledConfig.ledBinding
        [{ ledConfig.ledBinding with isEnabled := false }] } }

/-- Nothing is stored, and the counters are the ones of the blocks. -/
theorem staleCounts_disabledConfig :
    ∃ r r', Initialises (ledBlocks 0 0) disabledConfig r ∧
      Initialises (ledBlocks 7 3) disabledConfig r' ∧
      r.counts = [0, 0, 0, 0] ∧ r'.counts = [7, 1, 1, 3] ∧ ¬ r'.CountsStored disabledConfig := by
  refine ⟨⟨_, _, _, _⟩, ⟨_, _, _, _⟩, ⟨rfl, rfl, rfl, rfl⟩, ⟨rfl, rfl, rfl, rfl⟩, rfl, rfl, ?_⟩
  intro hstored
  exact absurd hstored.pending (by decide)

/-! ## Capacity -/

/-- The pairs of an enabled binding and a device definition of its name. -/
def devicePairs (cfgMan : ConfigManager) : ℕ :=
  (cfgMan.bindings ×ˢ cfgMan.devices).countP fun x =>
    x.1.isEnabled && decide (x.2.name = x.1.device)

/-- The pairs of a function in the table and a configured test of that function. -/
def testPairs (cfgMan : ConfigManager) (fm : FunctionManager) : ℕ :=
  (fm.definitions ×ˢ cfgMan.tests).countP fun x => decide (x.2.function = x.1.name)

/-- The device registry gets an entry for every pair. -/
lemma length_deviceMatches (cfgMan : ConfigManager) :
    (deviceMatches cfgMan).length = devicePairs cfgMan := by
  unfold deviceMatches bindingMatches devicePairs
  rw [length_join_eq_countP]
  apply List.countP_congr
  intro x _
  simp [CharBuf.ext_iff, and_comm]

/-- The test table gets an entry for every pair. -/
lemma length_testMatches (cfgMan : ConfigManager) (fm : FunctionManager) :
    (testMatches cfgMan fm.definitions).length = testPairs cfgMan fm :=
  length_join_eq_countP fm.definitions cfgMan.tests (fun f t => decide (t.function = f.name))
    fun _ => availableTest

/-- A fill that is one series of stores stays inside its table iff the stores fit, or, when there
are none, the counter was within the table before. -/
lemma loadsWithin_storeAll_iff {κ α : Type} {n : ℕ} {table : κ → FixedTable α n}
    {result : FixedTable α n → κ} (hresult : ∀ t, table (result t) = t) (t : FixedTable α n)
    (l : List α) :
    LoadsWithin table ((FixedTable.storeAll (t, 0) l).map fun st => (0, result st.1)) ↔
      l.length ≤ n ∧ (l.length = 0 → t.WithinLimit) := by
  rw [← FixedTable.storeAll_within_iff]
  constructor
  · rintro ⟨code, k, hk, hwithin⟩
    rw [Option.map_eq_some_iff] at hk
    obtain ⟨s, hs, hk⟩ := hk
    cases hk
    exact ⟨s, hs, by rwa [hresult] at hwithin⟩
  · rintro ⟨s, hs, hwithin⟩
    exact ⟨0, result s.1, by rw [hs]; rfl, by rwa [hresult]⟩

/-- **The registries stay inside their tables**, for tables of the configuration within their limits
and any names, registries to read from and blocks: the device registry iff there are at most
`DEVICE_MANAGER_MAX_DEVICES` pairs of an enabled binding and an equally named definition, the
function table always, the test table iff there are at most `MAX_TESTS` pairs of a function in the
table and a test of it; and each of them, where there is nothing to store, iff the counter in its
block was within the table.
Source: `services/dm.c`, `services/function-manager.c`, `services/test-manager.c` -/
theorem registriesWithin_iff (hlim : cfgMan.WithinLimits) (dm dm₀ : DeviceManager)
    (fm fm₀ : FunctionManager) (tm₀ : TestManager) :
    (LoadsWithin DeviceManager.devices (prepareDeviceInfo dm₀ cfgMan) ↔
      devicePairs cfgMan ≤ deviceManagerMaxDevices ∧
        (devicePairs cfgMan = 0 → dm₀.devices.WithinLimit)) ∧
    (LoadsWithin FunctionManager.functions (prepareFunctionInfo fm₀ cfgMan dm) ↔
      ((∃ f ∈ cfgMan.functions, Supported dm f) ∨ fm₀.functions.WithinLimit)) ∧
    (LoadsWithin TestManager.tests (prepareTestManagerInfo tm₀ cfgMan fm) ↔
      testPairs cfgMan fm ≤ maxTests ∧ (testPairs cfgMan fm = 0 → tm₀.tests.WithinLimit)) := by
  refine ⟨?_, ?_, ?_⟩
  · rw [← length_deviceMatches]
    by_cases hcount : cfgMan.getPlatformDeviceCount = 0
    · have hbindings : cfgMan.bindings = [] := by
        rw [← List.length_eq_zero_iff, ConfigManager.bindings, hlim.bindingLimit.length_items]
        exact hcount
      have hnil : deviceMatches cfgMan = [] := by
        rw [deviceMatches, hbindings, List.flatMap_nil]
      rw [prepareDeviceInfo, if_pos hcount, hnil]
      constructor
      · rintro ⟨code, dm, hdm, hwithin⟩
        cases hdm
        exact ⟨Nat.zero_le _, fun _ => hwithin⟩
      · rintro ⟨-, hwithin⟩
        exact ⟨-1, dm₀, rfl, hwithin rfl⟩
    · rw [prepareDeviceInfo_eq _ hcount]
      exact loadsWithin_storeAll_iff (fun _ => rfl) _ _
  · have hfit : (functionMatches cfgMan dm).length ≤ maxFunctions := by
      rw [functionMatches, List.length_map]
      exact Nat.le_trans (List.length_filter_le _ _) (FixedTable.length_items_le _)
    have hnone : (functionMatches cfgMan dm).length = 0 ↔
        ¬ ∃ f ∈ cfgMan.functions, Supported dm f := by
      simp [functionMatches]
    rw [prepareFunctionInfo_eq _ _ hlim.functionDeviceLimit,
      loadsWithin_storeAll_iff (fun _ => rfl), hnone]
    constructor
    · rintro ⟨-, hwithin⟩
      by_cases hsome : ∃ f ∈ cfgMan.functions, Supported dm f
      · exact .inl hsome
      · exact .inr (hwithin hsome)
    · rintro (hsome | hwithin)
      · exact ⟨hfit, fun hnot => absurd hsome hnot⟩
      · exact ⟨hfit, fun _ => hwithin⟩
  · rw [← length_testMatches, prepareTestManagerInfo_eq]
    exact loadsWithin_storeAll_iff (fun _ => rfl) _ _

/-- On the one-LED platform every fill stays inside its table, over counters beyond it. -/
theorem registriesWithin_ledConfig :
    LoadsWithin DeviceManager.devices
        (prepareDeviceInfo (ledBlocks 200 0).devices ledConfig) ∧
      LoadsWithin FunctionManager.functions
        (prepareFunctionInfo (ledBlocks 200 0).functions ledConfig (ledBlocks 1 0).devices) ∧
      LoadsWithin TestManager.tests
        (prepareTestManagerInfo (ledBlocks 200 0).tests ledConfig (ledBlocks 1 0).functions) := by
  have hlim : ledConfig.WithinLimits := ⟨by decide, by decide, by decide, by decide, by decide⟩
  obtain ⟨hdevices, hfunctions, htests⟩ := registriesWithin_iff hlim (ledBlocks 1 0).devices
    (ledBlocks 200 0).devices (ledBlocks 1 0).functions (ledBlocks 200 0).functions
    (ledBlocks 200 0).tests
  refine ⟨hdevices.mpr ⟨by decide, ?_⟩, hfunctions.mpr (.inl (by decide)),
    htests.mpr ⟨by decide, ?_⟩⟩
  · intro hzero
    exact absurd hzero (by decide)
  · intro hzero
    exact absurd hzero (by decide)

/-- A platform with 64 enabled bindings of one device that is defined three times. -/
def crowdedConfig : ConfigManager :=
  { ledConfig with
    deviceConfig := ⟨1, .ofList _ ledConfig.ledDevice (.replicate 3 ledConfig.ledDevice)⟩
    platformConfig := { ledConfig.platformConfig with
      bindings := .ofList _ ledConfig.ledBinding (.replicate 64 ledConfig.ledBinding) } }

/-- All its tables are within their limits, and the device registry is written outside its array. -/
theorem deviceRegistry_overflows :
    crowdedConfig.WithinLimits ∧
      prepareDeviceInfo (ledBlocks 0 0).devices crowdedConfig = none := by
  refine ⟨⟨by decide, by decide, by decide, by decide, by decide⟩, ?_⟩
  have hpairs : devicePairs crowdedConfig = 192 := by
    have hbindings : crowdedConfig.bindings = .replicate 64 ledConfig.ledBinding :=
      FixedTable.items_ofList _ (by decide)
    have hdevices : crowdedConfig.devices = .replicate 3 ledConfig.ledDevice :=
      FixedTable.items_ofList _ (by decide)
    rw [devicePairs, hbindings, hdevices, List.countP_eq_length.mpr, List.length_product]
    · simp
    · intro x hx
      rw [List.mem_product, List.mem_replicate, List.mem_replicate] at hx
      rw [hx.1.2, hx.2.2]
      decide
  rw [prepareDeviceInfo_eq _ (by decide), Option.map_eq_none_iff, ← Option.not_isSome_iff_eq_none,
    FixedTable.storeAll_isSome_iff (Nat.zero_le _), length_deviceMatches, hpairs]
  decide

end HardwareTest
