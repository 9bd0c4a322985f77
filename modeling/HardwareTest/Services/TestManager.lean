import HardwareTest.Services.FunctionManager

/-!
# The test manager and test availability: `services/test-manager.c`

`prepareTestManagerInfo` joins the function table with the configured tests. Together with the
two tables before it (`DeviceManager.lean`, `FunctionManager.lean`) this is a chain of three
nested-loop joins; `Satisfied` is what the chain is for, stated on the configuration alone:

* a test is satisfied when its function is configured with at least one device, and every device
  of the function is defined and bound by an enabled binding.

`testIsAvailable_iff_satisfied` says that the three `init` functions compute exactly this, and
that the test manager holds every satisfied test once.
-/

namespace HardwareTest

open Lib

/-- Source: `services/test-manager.h`, `TestState_e` -/
inductive TestState
  | unknown | available | unavailable | error
deriving DecidableEq

/-- Source: `services/test-manager.h`, `Test_t` -/
structure Test where
  name : CharBuf testNameLength
  state : TestState
  definition : TestDef

/-- Source: `services/test-manager.c`, `test_manager_t` -/
structure TestManager where
  tests : FixedTable Test maxTests

/-! ## Building the table -/

/-- The table entry for a test whose function is available. -/
def availableTest (testDef : TestDef) : Test where
  name := safeStringCopy testDef.name.chars testNameLength
  state := .available
  definition := testDef

/-- The table under construction and `tmp_count`. -/
abbrev TestFill := FixedTable Test maxTests × ℕ

/-- The inner loop of `prepare_test_manager_info`: register the tests of one function.
Source: `services/test-manager.c`, `prepare_test_manager_info` -/
def registerTests (cfgMan : ConfigManager) (st : TestFill) (functionDef : FunctionDef) :
    Option TestFill :=
  cfgMan.testConfig.tests.loop
    (fun st testDef =>
      if safeStringCompare testDef.function.chars functionDef.name.chars then
        FixedTable.store st (availableTest testDef)
      else some st)
    st

/-- Fill the test table.
Source: `services/test-manager.c`, `prepare_test_manager_info` -/
def prepareTestManagerInfo (tm : TestManager) (cfgMan : ConfigManager) (fm : FunctionManager) :
    Option (ℤ × TestManager) :=
  (fm.functions.loop (fun st entry => registerTests cfgMan st entry.definition) (tm.tests, 0)).map
    fun st => (0, ⟨st.1⟩)

/-- Allocate and fill a test table; `block` is what `malloc` returns.
Source: `services/test-manager.c`, `test_manager_init` -/
def testManagerInit (block : Option TestManager) (cfgMan : ConfigManager) (fm : FunctionManager) :
    Option (Option TestManager) :=
  match block with
  | none => some none
  | some tm => (prepareTestManagerInfo tm cfgMan fm).map fun r => if r.1 ≠ 0 then none else some r.2

namespace TestManager

variable (tm : TestManager)

/-- The first entry of a name. -/
def find (name : CString) : Option Test :=
  tm.tests.items.find? fun test => safeStringCompare name test.name.chars

/-- Source: `services/test-manager.c`, `test_manager_test_is_available` -/
def testIsAvailable (name : CString) : Bool := (tm.find name).isSome

/-- Source: `services/test-manager.c`, `test_manager_get_test` -/
def getTest (name : CString) : Option TestDef := (tm.find name).map Test.definition

/-- The function of a test, `none` for an unknown test.
Source: `services/test-manager.c`, `test_manager_get_function_name` -/
def getFunctionName (name : CString) : Option (CharBuf functionNameLength) :=
  (tm.find name).map fun test => safeStringCopy test.definition.function.chars functionNameLength

end TestManager

/-! ## The table as a join -/

/-- The table entries of a configuration, in the order of the function table. -/
def testMatches (cfgMan : ConfigManager) (fs : List FunctionDef) : List Test :=
  fs.flatMap fun f =>
    (cfgMan.tests.filter fun t => decide (t.function = f.name)).map availableTest

/-- The nested loops are one series of stores. -/
lemma prepareTestManagerInfo_eq (tm : TestManager) (cfgMan : ConfigManager)
    (fm : FunctionManager) :
    prepareTestManagerInfo tm cfgMan fm =
      (FixedTable.storeAll (tm.tests, 0)
        (testMatches cfgMan (fm.functions.items.map FunctionEntry.definition))).map
          fun st => (0, ⟨st.1⟩) := by
  have hinner : ∀ st f, registerTests cfgMan st f = FixedTable.storeAll st
      ((cfgMan.tests.filter fun t => decide (t.function = f.name)).map availableTest) := by
    intro st f
    unfold registerTests
    rw [FixedTable.loop_eq_items, ← FixedTable.foldlM_store_filter]
    congr 1
    funext st t
    simp [safeStringCompare, CharBuf.ext_iff]
  unfold prepareTestManagerInfo
  rw [FixedTable.loop_eq_items, testMatches, List.flatMap_map, ← FixedTable.foldlM_storeAll_flatMap]
  simp only [hinner]

/-- The definitions in the table are the tests whose function is in it, up to order. -/
lemma testMatches_perm (cfgMan : ConfigManager) {fs : List FunctionDef}
    (h : (fs.map FunctionDef.name).Nodup) :
    ((testMatches cfgMan fs).map Test.definition).Perm
      (cfgMan.tests.filter fun t => decide (t.function ∈ fs.map FunctionDef.name)) := by
  have hdef : (testMatches cfgMan fs).map Test.definition =
      fs.flatMap fun f => cfgMan.tests.filter fun t => decide (t.function = f.name) := by
    unfold testMatches
    rw [List.map_flatMap]
    simp only [List.map_map, Function.comp_def, availableTest, List.map_id']
  rw [hdef]
  exact join_perm_semijoin h cfgMan.tests TestDef.function

/-- A name is in the table iff a configured test of that name has its function in it. -/
lemma exists_mem_testMatches_iff (cfgMan : ConfigManager) (fs : List FunctionDef)
    (name : CString) :
    (∃ t ∈ testMatches cfgMan fs, name = t.name.chars) ↔
      ∃ t ∈ cfgMan.tests, t.name.chars = name ∧ ∃ f ∈ fs, f.name = t.function := by
  constructor
  · rintro ⟨e, he, rfl⟩
    unfold testMatches at he
    rw [List.mem_flatMap] at he
    obtain ⟨f, hf, he⟩ := he
    rw [List.mem_map] at he
    obtain ⟨t, ht, rfl⟩ := he
    rw [List.mem_filter, decide_eq_true_eq] at ht
    exact ⟨t, ht.1, by simp [availableTest], f, hf, ht.2.symm⟩
  · rintro ⟨t, ht, rfl, f, hf, hname⟩
    refine ⟨availableTest t, ?_, by simp [availableTest]⟩
    unfold testMatches
    rw [List.mem_flatMap]
    refine ⟨f, hf, List.mem_map_of_mem ?_⟩
    rw [List.mem_filter, decide_eq_true_eq]
    exact ⟨ht, hname.symm⟩

/-! ## Dependency satisfaction -/

/-- A device is present: it is defined, and an enabled binding refers to it. -/
def DevicePresent (cfgMan : ConfigManager) (d : CharBuf deviceNameLength) : Prop :=
  (∃ dv ∈ cfgMan.devices, dv.name = d) ∧
    ∃ b ∈ cfgMan.bindings, b.isEnabled = true ∧ b.device = d

/-- **Dependency satisfaction**: the function of the test is configured with at least one device,
and each of its devices is present. -/
def Satisfied (cfgMan : ConfigManager) (t : TestDef) : Prop :=
  ∃ f ∈ cfgMan.functions, f.name = t.function ∧ 0 < f.deviceName.count ∧
    ∀ d ∈ f.deviceName.items, DevicePresent cfgMan d

instance (cfgMan : ConfigManager) (d : CharBuf deviceNameLength) :
    Decidable (DevicePresent cfgMan d) := inferInstanceAs (Decidable (_ ∧ _))

instance (cfgMan : ConfigManager) (t : TestDef) : Decidable (Satisfied cfgMan t) :=
  inferInstanceAs (Decidable (∃ f ∈ _, _))

/-- The functions all of whose devices are present. -/
def supportedFunctions (cfgMan : ConfigManager) : List FunctionDef :=
  cfgMan.functions.filter fun f =>
    decide (0 < f.deviceName.count ∧ ∀ d ∈ f.deviceName.items, DevicePresent cfgMan d)

/-- Satisfaction reads the supported functions by name. -/
lemma satisfied_iff (cfgMan : ConfigManager) (t : TestDef) :
    Satisfied cfgMan t ↔ ∃ f ∈ supportedFunctions cfgMan, f.name = t.function := by
  simp only [Satisfied, supportedFunctions, List.mem_filter, decide_eq_true_eq]
  constructor
  · rintro ⟨f, hf, hname, hdev⟩
    exact ⟨f, ⟨hf, hdev⟩, hname⟩
  · rintro ⟨f, ⟨hf, hdev⟩, hname⟩
    exact ⟨f, hf, hname, hdev⟩

/-- Over a filled device registry, the function table holds the supported functions. -/
lemma functionMatches_definitions {cfgMan : ConfigManager} {dm : DeviceManager}
    (h : dm.devices.items = deviceMatches cfgMan) :
    (functionMatches cfgMan dm).map FunctionEntry.definition = supportedFunctions cfgMan := by
  have hpresent : ∀ d : CharBuf deviceNameLength, d ∈ dm.names ↔ DevicePresent cfgMan d := by
    intro d
    unfold DeviceManager.names
    rw [h, List.mem_map, exists_mem_deviceMatches_iff]
    rfl
  unfold functionMatches
  rw [List.map_map, supportedFunctions]
  simp only [Function.comp_def, availableFunction, List.map_id', Supported, hpresent]

/-- The supported functions keep the distinct names of the configured ones. -/
lemma supportedFunctions_nodup {cfgMan : ConfigManager}
    (h : (cfgMan.functions.map FunctionDef.name).Nodup) :
    ((supportedFunctions cfgMan).map FunctionDef.name).Nodup :=
  h.sublist (List.filter_sublist.map _)

/-- A test reads its function among the supported ones iff it is satisfied. -/
lemma function_mem_supportedFunctions_iff (cfgMan : ConfigManager) (t : TestDef) :
    t.function ∈ (supportedFunctions cfgMan).map FunctionDef.name ↔ Satisfied cfgMan t := by
  rw [satisfied_iff, List.mem_map]

/-- **The filled test table.** Over a function table that holds the supported functions, a
configuration with distinct function names and a satisfied test fills the test table without
leaving it. -/
theorem prepareTestManagerInfo_of_distinct (tm : TestManager) {cfgMan : ConfigManager}
    {fm : FunctionManager} (hfunctions : (cfgMan.functions.map FunctionDef.name).Nodup)
    (hdefs : fm.functions.items.map FunctionEntry.definition = supportedFunctions cfgMan)
    (hsat : ∃ t ∈ cfgMan.tests, Satisfied cfgMan t) :
    ∃ tm', prepareTestManagerInfo tm cfgMan fm = some (0, tm') ∧
      tm'.tests.items = testMatches cfgMan (supportedFunctions cfgMan) := by
  have hperm := testMatches_perm cfgMan (supportedFunctions_nodup hfunctions)
  have hfit : (testMatches cfgMan (supportedFunctions cfgMan)).length ≤ maxTests := by
    have hlen := hperm.length_eq
    rw [List.length_map] at hlen
    rw [hlen]
    exact Nat.le_trans (List.length_filter_le _ _) (FixedTable.length_items_le _)
  have hne : testMatches cfgMan (supportedFunctions cfgMan) ≠ [] := by
    obtain ⟨t, ht, hsat⟩ := hsat
    obtain ⟨f, hf, hft⟩ := (satisfied_iff cfgMan t).mp hsat
    obtain ⟨e, he, -⟩ := (exists_mem_testMatches_iff cfgMan (supportedFunctions cfgMan)
      t.name.chars).mpr ⟨t, ht, rfl, f, hf, hft⟩
    exact List.ne_nil_of_mem he
  obtain ⟨tests, hstore, hitems⟩ := FixedTable.storeAll_fresh tm.tests hne hfit
  refine ⟨⟨tests⟩, ?_, hitems⟩
  rw [prepareTestManagerInfo_eq, hdefs, hstore]
  rfl

/-- A satisfied test puts a device into the registry. -/
lemma deviceMatches_ne_nil {cfgMan : ConfigManager} (hlim : cfgMan.WithinLimits)
    (hsat : ∃ t, Satisfied cfgMan t) : deviceMatches cfgMan ≠ [] := by
  obtain ⟨t, f, hf, -, hpos, hpresent⟩ := hsat
  have hlen := (hlim.functionDeviceLimit f hf).length_items
  obtain ⟨d, hd⟩ := List.exists_mem_of_length_pos (l := f.deviceName.items) (by omega)
  obtain ⟨e, he, -⟩ := (exists_mem_deviceMatches_iff cfgMan d).mpr (hpresent d hd)
  exact List.ne_nil_of_mem he

/-- **Availability is dependency satisfaction.** For a configuration within its limits with
distinct device names, distinct function names and at least one satisfied test, the three `init`
functions succeed on any heap contents; a name is then available iff it names a satisfied test,
and the test manager holds the satisfied tests, each exactly once.
Source: `services/dm.c`, `services/function-manager.c`, `services/test-manager.c` -/
theorem testIsAvailable_iff_satisfied (cfgMan : ConfigManager) (hlim : cfgMan.WithinLimits)
    (hdevices : (cfgMan.devices.map DeviceDef.name).Nodup)
    (hfunctions : (cfgMan.functions.map FunctionDef.name).Nodup)
    (hsat : ∃ t ∈ cfgMan.tests, Satisfied cfgMan t)
    (dm₀ : DeviceManager) (fm₀ : FunctionManager) (tm₀ : TestManager) :
    ∃ dm fm tm, deviceManagerInit false (some dm₀) cfgMan = some (some dm, true) ∧
      functionManagerInit (some fm₀) cfgMan dm = some (some fm) ∧
      testManagerInit (some tm₀) cfgMan fm = some (some tm) ∧
      (∀ name, tm.testIsAvailable name = true ↔
        ∃ t ∈ cfgMan.tests, t.name.chars = name ∧ Satisfied cfgMan t) ∧
      (tm.tests.items.map Test.definition).Perm
        (cfgMan.tests.filter fun t => decide (Satisfied cfgMan t)) := by
  have hsat' : ∃ t, Satisfied cfgMan t := by
    obtain ⟨t, -, ht⟩ := hsat
    exact ⟨t, ht⟩
  -- the three tables, each filled from the one before
  obtain ⟨dm, hdm, hdmItems⟩ :=
    prepareDeviceInfo_of_distinct dm₀ hlim hdevices (deviceMatches_ne_nil hlim hsat')
  have hdefs := functionMatches_definitions hdmItems
  have hfun : functionMatches cfgMan dm ≠ [] := by
    obtain ⟨t, ht⟩ := hsat'
    obtain ⟨f, hf, -⟩ := (satisfied_iff cfgMan t).mp ht
    rw [← hdefs] at hf
    intro hnil
    rw [hnil] at hf
    exact absurd hf List.not_mem_nil
  obtain ⟨fm, hfm, hfmItems, -⟩ := prepareFunctionInfo_of_limits fm₀ dm hlim hfun
  rw [← hfmItems] at hdefs
  obtain ⟨tm, htm, htmItems⟩ := prepareTestManagerInfo_of_distinct tm₀ hfunctions hdefs hsat
  refine ⟨dm, fm, tm, ?_, ?_, ?_, ?_, ?_⟩
  · simp [deviceManagerInit, hdm]
  · simp [functionManagerInit, hfm]
  · simp [testManagerInit, htm]
  · intro name
    unfold TestManager.testIsAvailable TestManager.find
    rw [List.find?_isSome, htmItems]
    simp only [safeStringCompare_eq_true, exists_mem_testMatches_iff, satisfied_iff]
  · rw [htmItems]
    have hperm := testMatches_perm cfgMan (supportedFunctions_nodup hfunctions)
    simpa only [function_mem_supportedFunctions_iff] using hperm

/-- A platform with one LED: a device, its binding, a function that needs it and a test. -/
def ledConfig : ConfigManager where
  deviceConfig := ⟨1, .ofList _ ledDevice [ledDevice]⟩
  functionConfig := ⟨1, .ofList _ ledFunction [ledFunction]⟩
  testConfig := ⟨1, .ofList _ ledTest [ledTest]⟩
  platformConfig :=
    ⟨1, ⟨.empty 64, .empty 64, .empty 64, .empty 256, .empty 256⟩, .ofList _ ledBinding [ledBinding]⟩
where
  ledName : CharBuf 64 := safeStringCopy (cstr "status_led") 64
  functionName : CharBuf 64 := safeStringCopy (cstr "status_indication") 64
  ledDevice : DeviceDef := ⟨.empty 64, .led, ledName, .empty 128⟩
  ledFunction : FunctionDef := ⟨functionName, .empty 128, .ofList _ ledName [ledName]⟩
  ledTest : TestDef := ⟨safeStringCopy (cstr "status_indication_test") 64, .empty 128, functionName⟩
  ledParameter : ConfigParameter := ⟨.empty 64, .string, .empty 128, 0, false⟩
  ledBinding : DeviceBinding :=
    ⟨ledName, .empty 64, .empty 32, true, .empty 64, .ofList _ ledParameter []⟩

/-- The function table of the one-LED platform. -/
def ledFunctions : FunctionManager :=
  ⟨.ofList _ (availableFunction ledConfig.ledFunction) [availableFunction ledConfig.ledFunction]⟩

/-- The device registry of the one-LED platform. -/
def ledDevices : DeviceManager :=
  ⟨.ofList _ (registeredDevice ledConfig.ledBinding ledConfig.ledDevice)
    [registeredDevice ledConfig.ledBinding ledConfig.ledDevice]⟩

/-- The one-LED platform meets the hypotheses: over heap blocks with stale counters its test
becomes available, and no other name does. -/
theorem testIsAvailable_ledConfig :
    ∃ dm fm tm, deviceManagerInit false
        (some ⟨⟨.replicate _ (registeredDevice ledConfig.ledBinding ledConfig.ledDevice), 7⟩⟩)
        ledConfig = some (some dm, true) ∧
      functionManagerInit (some ⟨⟨.replicate _ (availableFunction ledConfig.ledFunction), 200⟩⟩)
        ledConfig dm = some (some fm) ∧
      testManagerInit (some ⟨⟨.replicate _ (availableTest ledConfig.ledTest), 31⟩⟩)
        ledConfig fm = some (some tm) ∧
      tm.testIsAvailable (cstr "status_indication_test") = true ∧
      tm.testIsAvailable (cstr "user_input_test") = false := by
  obtain ⟨dm, fm, tm, hdm, hfm, htm, havail, -⟩ :=
    testIsAvailable_iff_satisfied ledConfig ⟨by decide, by decide, by decide, by decide, by decide⟩
      (by decide) (by decide) (by decide) _ _ _
  refine ⟨dm, fm, tm, hdm, hfm, htm, (havail _).mpr (by decide), ?_⟩
  rw [← Bool.not_eq_true, havail]
  decide

end HardwareTest
