import HardwareTest.Program.Main
import HardwareTest.Validation.Implemented

/-!
# The program on a directory of JSON texts

What a run prints and its exit status, said of the documents of the four configuration files, of the
linked validations and of the command line alone.

* `headingFor`: a test is available when a configured test of its name has its function configured
  and all devices of it present; it is implemented when a linked validation has its name.
* `specifiedEnd`: the exit status and the output that this asks for.
* `mainEnds_texts_iff`: **the program meets it**: from the bytes of JSON texts, over the parser, the
  loaders, the three managers and the validation system, with the workers taking any steps, and
  whatever the allocated blocks held before.
-/

namespace HardwareTest

open Lib CJson LocatedManager

/-! ## What is asked for -/

section specification

variable (cfgMan : ConfigManager) (registry : List ValidationDescriptor)

/-- A configured test of the name can be run on the platform. -/
def NameSatisfied (name : CharBuf testNameLength) : Prop :=
  ∃ test ∈ cfgMan.tests, test.name = name ∧ Satisfied cfgMan test

/-- A validation of the name is linked. -/
def NameLinked (name : CharBuf testNameLength) : Prop :=
  ∃ descriptor ∈ registry, descriptor.name = name.chars

instance (name : CharBuf testNameLength) : Decidable (NameSatisfied cfgMan name) :=
  inferInstanceAs (Decidable (∃ test ∈ _, _))

instance (name : CharBuf testNameLength) : Decidable (NameLinked registry name) :=
  inferInstanceAs (Decidable (∃ descriptor ∈ _, _))

/-- The heading of a test. -/
def headingFor (test : TestDef) : ListHeading :=
  if NameSatisfied cfgMan test.name then
    if NameLinked registry test.name then .runnable else .unimplemented
  else .unavailable

/-- The tests under a heading, in configuration order. -/
def testsFor (heading : ListHeading) : List TestDef :=
  cfgMan.tests.filter fun test => headingFor cfgMan registry test = heading

/-- The lists of a filter: one, or all three. -/
def specifiedListing (filter : CliListFilter) : List (ListHeading × List TestDef) :=
  ([.runnable, .unimplemented, .unavailable].filter fun heading : ListHeading =>
      filter = .all ∨ filter = heading.filter).map fun heading =>
    (heading, testsFor cfgMan registry heading)

/-- A runnable test cannot be run all the same. -/
def specifiedRefusal (test : TestDef) : RunMessage :=
  match headingFor cfgMan registry test with
  | .runnable => .unable test.name.chars
  | .unimplemented => .notImplemented test.name.chars
  | .unavailable => .unavailable test.name.chars

/-- Every runnable test fails, every other one is skipped. -/
def specifiedSummary : RunSummary where
  lines := cfgMan.tests.map fun test =>
    (test.name, if headingFor cfgMan registry test = .runnable then .fail else .skip)
  passed := 0
  failed := (testsFor cfgMan registry .runnable).length
  skipped := (testsFor cfgMan registry .unimplemented).length +
    (testsFor cfgMan registry .unavailable).length

/-- The first configured test of the name that is asked for. -/
def namedTest (options : CliOptions) : Option TestDef :=
  options.testName.bind fun name => cfgMan.tests.find? fun test => decide (test.name.chars = name)

/-- The exit status and the output for the options of a command line. -/
def specifiedEnd (options : CliOptions) : ℤ × CommandOutput :=
  match options.action with
  | .list => (exitSuccess, .listing (specifiedListing cfgMan registry options.listFilter))
  | .run =>
      match namedTest cfgMan options with
      | none => (exitFailure, .unknownTest options.testName)
      | some test => (exitFailure, .ran (specifiedRefusal cfgMan registry test))
  | .runAll =>
      (if testsFor cfgMan registry .runnable = [] then exitSuccess else exitFailure,
        .ranAll (some (specifiedSummary cfgMan registry)))
  | .invalid => (exitFailure, .nothing)

end specification

/-! ## The managers -/

/-- Every allocation of a run succeeds, and every thread starts. -/
structure Invocation.Allocates (inv : Invocation) : Prop where
  runtime : inv.runtimeBlock = true
  configManager : inv.configManagerBlock = true
  deviceManager : inv.deviceManagerBlock.isSome = true
  functionManager : inv.functionManagerBlock.isSome = true
  testManager : inv.testManagerBlock.isSome = true
  testEngine : inv.testEngineBlock.isSome = true
  resourceManager : inv.resourceManagerBlock = true
  scheduler : inv.schedulerBlock.isSome = true
  threads : inv.threadsStart = true
  pluginManager : inv.pluginManagerBlock = true
  validationSystem : inv.validationSystemBlock.isSome = true

/-- A configuration within its tables: the pairs of a binding and its device and those of a function
and its test have room, and some test is satisfied. -/
structure ConfigManager.Startable (cfgMan : ConfigManager) : Prop where
  limits : cfgMan.WithinLimits
  devices : (deviceMatches cfgMan).length ≤ deviceManagerMaxDevices
  tests : (testMatches cfgMan (supportedFunctions cfgMan)).length ≤ maxTests
  satisfied : ∃ test ∈ cfgMan.tests, Satisfied cfgMan test

/-- A non-empty list that fits is stored, and counted within the table. -/
lemma exists_stored {α : Type} {n : ℕ} (t : FixedTable α n) {l : List α} (hne : l ≠ [])
    (hfit : l.length ≤ n) :
    ∃ t' : FixedTable α n, FixedTable.storeAll (t, 0) l = some (t', l.length) ∧ t'.items = l ∧
      t'.WithinLimit := by
  obtain ⟨t', hstore, hitems⟩ := FixedTable.storeAll_fresh t hne hfit
  have hcount : t'.count = l.length := (FixedTable.count_storeAll_iff hstore).mpr (.inl hne)
  exact ⟨t', hstore, hitems, hcount.trans_le hfit⟩

section managers

variable {cfgMan : ConfigManager}

/-- With a satisfied test a function is supported. -/
lemma supportedFunctions_ne_nil (h : ∃ test ∈ cfgMan.tests, Satisfied cfgMan test) :
    supportedFunctions cfgMan ≠ [] := by
  obtain ⟨test, -, hsat⟩ := h
  obtain ⟨f, hf, -⟩ := (satisfied_iff cfgMan test).mp hsat
  exact List.ne_nil_of_mem hf

/-- With a satisfied test there is something to store in the test table. -/
lemma testMatches_ne_nil (h : ∃ test ∈ cfgMan.tests, Satisfied cfgMan test) :
    testMatches cfgMan (supportedFunctions cfgMan) ≠ [] := by
  obtain ⟨test, htest, hsat⟩ := h
  obtain ⟨f, hf, hname⟩ := (satisfied_iff cfgMan test).mp hsat
  obtain ⟨entry, hentry, -⟩ := (exists_mem_testMatches_iff cfgMan (supportedFunctions cfgMan)
    test.name.chars).mpr ⟨test, htest, rfl, f, hf, hname⟩
  exact List.ne_nil_of_mem hentry

/-- **The three managers**: each of them stores what the one before gives it. -/
lemma exists_managers (h : cfgMan.Startable) (dm₀ : DeviceManager) (fm₀ : FunctionManager)
    (tm₀ : TestManager) : ∃ dm fm tm,
      deviceManagerInit false (some dm₀) cfgMan = some (some dm, true) ∧
      functionManagerInit (some fm₀) cfgMan dm = some (some fm) ∧
      testManagerInit (some tm₀) cfgMan fm = some (some tm) ∧
      dm.devices.WithinLimit ∧ fm.functions.WithinLimit ∧ tm.tests.WithinLimit ∧
      tm.tests.items = testMatches cfgMan (supportedFunctions cfgMan) := by
  have hsat : ∃ test, Satisfied cfgMan test := h.satisfied.imp fun _ => And.right
  have hdevices := deviceMatches_ne_nil h.limits hsat
  have hcount : cfgMan.getPlatformDeviceCount ≠ 0 := by
    intro hzero
    have hnil : cfgMan.bindings = [] := by
      rw [← List.length_eq_zero_iff, ConfigManager.bindings, h.limits.bindingLimit.length_items]
      exact hzero
    exact hdevices (by rw [deviceMatches, hnil, List.flatMap_nil])
  obtain ⟨devices, hstored, hitems, hwithin⟩ := exists_stored dm₀.devices hdevices h.devices
  have hdefs : (functionMatches cfgMan ⟨devices⟩).map FunctionEntry.definition =
      supportedFunctions cfgMan := functionMatches_definitions hitems
  have hfunctions : functionMatches cfgMan ⟨devices⟩ ≠ [] := by
    intro hnil
    rw [hnil] at hdefs
    exact supportedFunctions_ne_nil h.satisfied hdefs.symm
  have hfit : (functionMatches cfgMan ⟨devices⟩).length ≤ maxFunctions := by
    unfold functionMatches
    rw [List.length_map]
    exact Nat.le_trans (List.length_filter_le _ _) (FixedTable.length_items_le _)
  obtain ⟨functions, hstored', hitems', hwithin'⟩ := exists_stored fm₀.functions hfunctions hfit
  rw [← hitems'] at hdefs
  obtain ⟨tests, hstored'', hitems'', hwithin''⟩ :=
    exists_stored tm₀.tests (testMatches_ne_nil h.satisfied) h.tests
  refine ⟨⟨devices⟩, ⟨functions⟩, ⟨tests⟩, ?_, ?_, ?_, hwithin, hwithin', hwithin'', hitems''⟩
  · simp [deviceManagerInit, prepareDeviceInfo_eq dm₀ hcount, hstored]
  · simp [functionManagerInit, prepareFunctionInfo_eq fm₀ _ h.limits.functionDeviceLimit, hstored']
  · simp [testManagerInit, prepareTestManagerInfo_eq, hdefs, hstored'']

end managers

/-! ## The start-up -/

/-- The directory, as the configuration manager stores its path, holds JSON files of four documents,
none nested too deep, that load into this configuration. -/
structure LoadsFrom (contents : CString → Option (List UInt8)) (configPath : CString)
    (cfgMan : ConfigManager) : Prop where
  documents : ∃ (documents : Parser → CJson) (located : LocatedManager),
    configManagerInit configPath true = some located ∧
      JsonDirectory contents located.configPath documents ∧
      (∀ parser, NestedWithin nestingLimit (documents parser)) ∧
      LoadsParts (fun parser => some (documents parser)) .zeroed cfgMan

section start

variable {inv : Invocation} {configPath : CString} {cfgMan : ConfigManager}

/-- **The start-up from texts.** -/
lemma startRuntime_of_texts (halloc : inv.Allocates)
    (hload : LoadsFrom inv.contents configPath cfgMan) (hstart : cfgMan.Startable) :
    ∃ managers, startRuntime inv (some configPath) = some (some managers) ∧
      managers.configManager = cfgMan ∧ managers.WithinTables ∧
      managers.testEngine.isSome = true ∧
      managers.testManager.tests.items = testMatches cfgMan (supportedFunctions cfgMan) := by
  obtain ⟨documents, located, hlocated, hdirectory, hnested, hparts⟩ := hload.documents
  have hresult : (configManagerLoad (fileDocument inv.contents) located).result =
      some (0, ⟨cfgMan, located.configPath⟩) := by
    obtain rfl := Option.some.inj hlocated
    exact (configManagerLoad_of_texts hdirectory hnested _ _).mpr ⟨rfl, hparts⟩
  obtain ⟨dm₀, hdm₀⟩ := Option.isSome_iff_exists.mp halloc.deviceManager
  obtain ⟨fm₀, hfm₀⟩ := Option.isSome_iff_exists.mp halloc.functionManager
  obtain ⟨tm₀, htm₀⟩ := Option.isSome_iff_exists.mp halloc.testManager
  obtain ⟨e₀, he₀⟩ := Option.isSome_iff_exists.mp halloc.testEngine
  obtain ⟨scheduler₀, hscheduler₀⟩ := Option.isSome_iff_exists.mp halloc.scheduler
  obtain ⟨dm, fm, tm, hdm, hfm, htm, hdevices, hfunctions, htests, hitems⟩ :=
    exists_managers hstart dm₀ fm₀ tm₀
  obtain ⟨e, he⟩ : ∃ e, testEngineInit (some e₀) (some scheduler₀) tm fm inv.functionManagerAddr
      dm inv.deviceManagerAddr = some e := ⟨_, rfl⟩
  refine ⟨⟨cfgMan, dm, fm, tm, some e⟩, ?_, rfl, ⟨hstart.limits, hdevices, hfunctions, htests⟩, rfl,
    hitems⟩
  simp only [startRuntime, halloc.runtime, Bool.not_true, Bool.false_eq_true, if_false,
    halloc.configManager, hlocated, hresult, Option.bind_eq_bind,
    Option.bind_some, ne_eq, not_true_eq_false, startManagers, hdm₀, hfm₀, htm₀, he₀, hscheduler₀,
    hdm, hfm, htm, halloc.resourceManager, halloc.threads, Bool.and_self, he,
    halloc.pluginManager]
  rfl

end start

/-! ## The headings -/

section headings

variable {cfgMan : ConfigManager} {registry : List ValidationDescriptor} {tm : TestManager}
  {system : ValidationSystem}

/-- The stored names are those of the definitions. -/
lemma name_of_mem_testMatches {fs : List FunctionDef} {entry : Test}
    (h : entry ∈ testMatches cfgMan fs) : entry.definition.name = entry.name := by
  rw [testMatches, List.mem_flatMap] at h
  obtain ⟨f, -, h⟩ := h
  obtain ⟨test, -, rfl⟩ := List.mem_map.mp h
  simp [availableTest]

/-- A name is stored iff a test of it is satisfied. -/
lemma exists_stored_name_iff (name : CharBuf testNameLength) :
    (∃ entry ∈ testMatches cfgMan (supportedFunctions cfgMan), name.chars = entry.name.chars) ↔
      NameSatisfied cfgMan name := by
  rw [exists_mem_testMatches_iff]
  unfold NameSatisfied
  simp only [satisfied_iff, ← CharBuf.ext_iff]

/-- **Available means satisfied.** -/
lemma testIsAvailable_iff (hitems : tm.tests.items = testMatches cfgMan (supportedFunctions cfgMan))
    (name : CharBuf testNameLength) :
    tm.testIsAvailable name.chars = true ↔ NameSatisfied cfgMan name := by
  unfold TestManager.testIsAvailable TestManager.find
  rw [List.find?_isSome, hitems]
  simp only [safeStringCompare_eq_true, exists_stored_name_iff]

/-- **Implemented means linked**, for a name that is available. -/
lemma isImplemented_iff (hitems : tm.tests.items = testMatches cfgMan (supportedFunctions cfgMan))
    (hjoins : system.Joins registry (tm.tests.items.map fun test => test.definition.name.chars))
    {name : CharBuf testNameLength} (hname : NameSatisfied cfgMan name) :
    system.isImplemented name.chars = true ↔ NameLinked registry name := by
  obtain ⟨entry, hentry, heq⟩ := (exists_stored_name_iff name).mpr hname
  have hmem : name.chars ∈ tm.tests.items.map fun test => test.definition.name.chars := by
    rw [hitems, List.mem_map]
    exact ⟨entry, hentry, by rw [name_of_mem_testMatches hentry, heq]⟩
  unfold ValidationSystem.isImplemented
  rw [hjoins.lookup, if_pos hmem, linkedDescriptor_isSome_iff]
  rfl

/-- The two questions give the heading. -/
lemma headingOf_eq (hitems : tm.tests.items = testMatches cfgMan (supportedFunctions cfgMan))
    (hjoins : system.Joins registry (tm.tests.items.map fun test => test.definition.name.chars))
    (test : TestDef) : headingOf tm system test = headingFor cfgMan registry test := by
  unfold headingOf headingFor
  by_cases hname : NameSatisfied cfgMan test.name
  · rw [if_pos ((testIsAvailable_iff hitems _).mpr hname), if_pos hname]
    by_cases hlinked : NameLinked registry test.name
    · rw [if_pos ((isImplemented_iff hitems hjoins hname).mpr hlinked), if_pos hlinked]
    · rw [if_neg fun h => hlinked ((isImplemented_iff hitems hjoins hname).mp h), if_neg hlinked]
  · rw [if_neg fun h => hname ((testIsAvailable_iff hitems _).mp h), if_neg hname]

/-- A test is runnable iff it has that heading. -/
lemma runnableTest_eq (test : TestDef) :
    runnableTest tm system test = decide (headingOf tm system test = .runnable) := by
  unfold runnableTest headingOf
  rcases tm.testIsAvailable test.name.chars with _ | _
  · simp
  · rcases system.isImplemented test.name.chars with _ | _
    · simp
    · simp

/-- The lists of `list_tests` are the specified ones. -/
lemma listTests_eq (hheading : ∀ test, headingOf tm system test = headingFor cfgMan registry test)
    (filter : CliListFilter) :
    (listTests cfgMan tm system filter).2 = specifiedListing cfgMan registry filter := by
  have hunder : ∀ heading, listedUnder heading (listTests cfgMan tm system .all).2 =
      testsFor cfgMan registry heading := by
    intro heading
    rw [listedUnder_eq_filter_headingOf, testsFor]
    simp only [hheading]
  have hfiltered := (partitionedBy_listTests tm system cfgMan).filtered
  simp only [hunder] at hfiltered
  rcases filter with _ | _ | _ | _
  · have hrunnable := hunder .runnable
    have hunimplemented := hunder .unimplemented
    have hunavailable := hunder .unavailable
    simp only [listTests, listedUnder, true_or, if_true, List.cons_append, List.nil_append,
      List.flatMap_cons, List.flatMap_nil, reduceCtorEq, if_false, List.append_nil]
      at hrunnable hunimplemented hunavailable
    simp [listTests, specifiedListing, hrunnable, hunimplemented, hunavailable]
  · exact (hfiltered .runnable).trans rfl
  · exact (hfiltered .unimplemented).trans rfl
  · exact (hfiltered .unavailable).trans rfl

/-- The refusal of a test is the specified one. -/
lemma refusal_eq (hheading : ∀ test, headingOf tm system test = headingFor cfgMan registry test)
    (test : TestDef) : refusal tm system test = specifiedRefusal cfgMan registry test := by
  unfold specifiedRefusal
  rw [← hheading, refusal, headingOf]
  rcases tm.testIsAvailable test.name.chars with _ | _
  · rfl
  · rcases system.isImplemented test.name.chars with _ | _
    · rfl
    · rfl

/-- The tests that are not runnable are those of the two other headings. -/
lemma countP_not_runnable : cfgMan.tests.countP (fun test =>
      !decide (headingFor cfgMan registry test = .runnable)) =
    (testsFor cfgMan registry .unimplemented).length +
      (testsFor cfgMan registry .unavailable).length := by
  unfold testsFor
  rw [← List.countP_eq_length_filter, ← List.countP_eq_length_filter]
  induction cfgMan.tests with
  | nil => rfl
  | cons test tests ih =>
      simp only [List.countP_cons, ih]
      rcases headingFor cfgMan registry test with _ | _ | _
      · simp
      · simp
        omega
      · simp
        omega

/-- So many tests are runnable. -/
lemma countP_runnable (hheading : ∀ test, headingOf tm system test =
      headingFor cfgMan registry test) :
    cfgMan.tests.countP (runnableTest tm system) = (testsFor cfgMan registry .runnable).length := by
  rw [testsFor, ← List.countP_eq_length_filter]
  refine List.countP_congr fun test _ => ?_
  rw [runnableTest_eq, hheading]

/-- The summary of a run without results is the specified one. -/
lemma unrunSummary_eq (hheading : ∀ test, headingOf tm system test =
      headingFor cfgMan registry test) :
    unrunSummary tm system cfgMan.tests = specifiedSummary cfgMan registry := by
  unfold unrunSummary specifiedSummary
  rw [countP_runnable hheading]
  simp only [runnableTest_eq, hheading, decide_eq_true_eq, countP_not_runnable]

/-- A search by index is a search in the list. -/
lemma findSome?_range {α : Type} (p : α → Bool) (l : List α) :
    ((List.range l.length).findSome? fun index => l[index]?.filter p) = l.find? p := by
  induction l with
  | nil => rfl
  | cons a l ih =>
      rw [List.length_cons, List.range_succ_eq_map, List.findSome?_cons, List.findSome?_map,
        List.find?_cons, ← ih]
      rcases hp : p a with _ | _
      · simp [Option.filter_some, hp, Function.comp_def]
      · simp [Option.filter_some, hp]

/-- The loop of `find_configured_test` is a search in the list of tests. -/
lemma findConfiguredTest_eq (hlim : cfgMan.testConfig.tests.WithinLimit) (name : CString) :
    findConfiguredTest cfgMan name =
      cfgMan.tests.find? fun test => decide (test.name.chars = name) := by
  have hcount : cfgMan.getTestCount = cfgMan.tests.length := hlim.length_items.symm
  unfold findConfiguredTest ConfigManager.getTestByIndex
  rw [hcount, ← findSome?_range]
  simp only [FixedTable.get?_eq_items]
  rfl

end headings

/-- **The program on JSON texts**: in every run over a directory of JSON texts, with a command line
that is accepted, the exit status and the output are the specified ones; and such a run ends.
Source: `main.c`, `main` -/
theorem mainEnds_texts_iff {inv : Invocation} {options : CliOptions} {configPath : CString}
    {cfgMan : ConfigManager} (hlogger : inv.loggerStarts = true) (halloc : inv.Allocates)
    (hparse : cliParse inv.argv = (0, options)) (hpath : options.configPath = some configPath)
    (hload : LoadsFrom inv.contents configPath cfgMan) (hstart : cfgMan.Startable)
    (result : ℤ × CommandOutput) :
    MainEnds inv result ↔ result = specifiedEnd cfgMan inv.validationRegistry options := by
  obtain ⟨managers, hruntime, hconfig, hwithin, hengine, hitems⟩ :=
    startRuntime_of_texts halloc hload hstart
  obtain ⟨block, hblock⟩ := Option.isSome_iff_exists.mp halloc.validationSystem
  obtain ⟨system, hsystem, hjoins⟩ := joins_init block inv.validationRegistry managers.testManager
  have hcommand : mainStart inv = some (.command managers system options) :=
    mainStart_command_iff.mpr ⟨hlogger, hparse, hpath ▸ hruntime, hwithin, hblock ▸ hsystem⟩
  have hheading := headingOf_eq hitems hjoins
  have hend : commandEnd managers system options =
      specifiedEnd cfgMan inv.validationRegistry options := by
    have hnamed : options.testName.bind (findConfiguredTest managers.configManager) =
        namedTest cfgMan options := by
      rw [hconfig, namedTest]
      exact congrArg _ (funext (findConfiguredTest_eq hstart.limits.testLimit))
    unfold commandEnd specifiedEnd
    rw [hnamed]
    rcases options.action with _ | _ | _ | _
    · rfl
    · simp only [hconfig, listTests_eq hheading]
    · rcases namedTest cfgMan options with _ | test
      · rfl
      · simp only [refusal_eq hheading]
    · simp only [hengine, if_true, hconfig, unrunSummary_eq hheading, countP_runnable hheading,
        List.length_eq_zero_iff]
  rw [mainEnds_iff, mainResult_of_command hcommand, hend]
  exact ⟨fun h => (Option.some.inj h).symm, fun h => congrArg some h.symm⟩

/-! ## The platform with one LED -/

/-- The configuration that the documents of the platform load into. -/
def ledLoaded : ConfigManager where
  deviceConfig := ((deviceParserLoad (some (ledDocument .device))
    ConfigManager.zeroed.deviceConfig).getD (0, ConfigManager.zeroed.deviceConfig)).2
  functionConfig := ((functionParserLoad (some (ledDocument .function))
    ConfigManager.zeroed.functionConfig).getD (0, ConfigManager.zeroed.functionConfig)).2
  testConfig := ((testParserLoad (some (ledDocument .test))
    ConfigManager.zeroed.testConfig).getD (0, ConfigManager.zeroed.testConfig)).2
  platformConfig := ((platformParserLoad (some (ledDocument .platform))
    ConfigManager.zeroed.platformConfig).getD (0, ConfigManager.zeroed.platformConfig)).2

lemma ledLoaded_startable : ledLoaded.Startable := by
  refine ⟨?_, ?_, ?_, ?_⟩
  all_goals decide +kernel

lemma ledDocument_nulFree (parser : Parser) : CJson.NulFree (ledDocument parser) := by
  rcases parser with _ | _ | _ | _
  all_goals
    simp only [ledDocument, nulFree_object_iff, nulFree_array_iff, nulFree_string_iff,
      List.forall_mem_singleton, List.forall_mem_cons, nulFree_bool]
    decide

lemma ledDocument_nested (parser : Parser) : NestedWithin nestingLimit (ledDocument parser) := by
  have hfour : NestedWithin 4 (ledDocument parser) := by
    rcases parser with _ | _ | _ | _
    all_goals simp [ledDocument, NestedWithin]
  exact hfour.mono (by decide)

lemma ledFiles_loadsFrom : LoadsFrom ledFiles (cstr "config") ledLoaded := by
  refine ⟨ledDocument, _, rfl, fun parser => ⟨cJSONPrint true (ledDocument parser), ?_,
    jsonFile_print (ledDocument_nulFree parser) true ?_⟩, ledDocument_nested, ⟨rfl, rfl, rfl, rfl⟩⟩
  · rcases parser with _ | _ | _ | _
    all_goals decide +kernel
  · rcases parser with _ | _ | _ | _
    all_goals decide +kernel

/-- The LED test is available and linked, and cannot be run. -/
theorem mainEnds_texts_iff_led :
    MainEnds ledInvocation (exitFailure, .ran (.unable (cstr "led_test"))) := by
  have hparse : cliParse ledInvocation.argv =
      (0, ⟨.run, some (cstr "config"), some (cstr "led_test"), .all⟩) := by decide
  exact (mainEnds_texts_iff rfl ⟨rfl, rfl, rfl, rfl, rfl, rfl, rfl, rfl, rfl, rfl, rfl⟩ hparse rfl
    ledFiles_loadsFrom ledLoaded_startable _).mpr rfl

end HardwareTest
