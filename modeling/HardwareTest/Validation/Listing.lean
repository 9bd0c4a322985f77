import HardwareTest.Engine.Registration
import HardwareTest.Validation.System

/-!
# Listed tests and registered tests: `main.c`

`list_tests` reads the configuration, the test manager and the validation system;
`validation_system_register_all` goes through the test manager to the engine.

* `BuiltFrom`: the function and test tables of a configuration.
* `registeredAsListed_iff`: the two agree iff no test is linked, or the test manager holds exactly
  one linked test and its validation has operations. The duplicate check of
  `test_engine_register` refuses every name other than the ones already registered.
-/

namespace HardwareTest

open Lib

/-! ## The listing -/

/-- Source: `cli/cli-parser.h`, `cli_list_filter_t` -/
inductive CliListFilter
  | all | runnable | unimplemented | unavailable
deriving DecidableEq

/-- The heading above a list of tests. Source: `main.c`, `list_tests` -/
inductive ListHeading
  | runnable | unimplemented | unavailable
deriving DecidableEq

/-- What is printed: each heading with the tests under it. Source: `main.c`, `list_tests` -/
def listTests (cfgMan : ConfigManager) (testManager : TestManager) (system : ValidationSystem)
    (filter : CliListFilter) : ℤ × List (ListHeading × List TestDef) :=
  let runnable := cfgMan.tests.filter fun test =>
    testManager.testIsAvailable test.name.chars && system.isImplemented test.name.chars
  let unimplemented := cfgMan.tests.filter fun test =>
    testManager.testIsAvailable test.name.chars && !system.isImplemented test.name.chars
  let unavailable := cfgMan.tests.filter fun test =>
    !testManager.testIsAvailable test.name.chars
  (0,
    (if filter = .all ∨ filter = .runnable then [(.runnable, runnable)] else []) ++
    (if filter = .all ∨ filter = .unimplemented then [(.unimplemented, unimplemented)] else []) ++
    (if filter = .all ∨ filter = .unavailable then [(.unavailable, unavailable)] else []))

/-- The tests printed under a heading. -/
def listedUnder (heading : ListHeading) (listing : List (ListHeading × List TestDef)) :
    List TestDef :=
  listing.flatMap fun part => if part.1 = heading then part.2 else []

/-- Both filters that print the heading print the same tests under it. -/
lemma listedUnder_runnable (cfgMan : ConfigManager) (testManager : TestManager)
    (system : ValidationSystem) {filter : CliListFilter}
    (h : filter = .all ∨ filter = .runnable) :
    listedUnder .runnable (listTests cfgMan testManager system filter).2 =
      cfgMan.tests.filter fun test =>
        testManager.testIsAvailable test.name.chars && system.isImplemented test.name.chars := by
  rcases h with rfl | rfl
  · simp [listTests, listedUnder]
  · simp [listTests, listedUnder]

/-! ## The tables of a configuration -/

/-- The function table and the test table hold what `prepare_function_info`, over some device
registry, and `prepare_test_manager_info` store. -/
structure BuiltFrom (cfgMan : ConfigManager) (fm : FunctionManager) (tm : TestManager) : Prop where
  functions : ∃ dm, fm.functions.items = functionMatches cfgMan dm
  tests : tm.tests.items = testMatches cfgMan (fm.functions.items.map FunctionEntry.definition)

section built

variable {cfgMan : ConfigManager} {fm : FunctionManager} {tm : TestManager}

/-- The two `init` functions build the tables, when something matched or the block that `malloc`
returned counts no entries. -/
lemma builtFrom_init {fm₀ : FunctionManager} {tm₀ : TestManager} {dm : DeviceManager}
    (hlim : ∀ f ∈ cfgMan.functions, f.deviceName.WithinLimit)
    (hfm : functionManagerInit (some fm₀) cfgMan dm = some (some fm))
    (htm : testManagerInit (some tm₀) cfgMan fm = some (some tm))
    (hfunctions : functionMatches cfgMan dm ≠ [] ∨ fm₀.functions.count = 0)
    (htests : testMatches cfgMan (fm.functions.items.map FunctionEntry.definition) ≠ [] ∨
      tm₀.tests.count = 0) : BuiltFrom cfgMan fm tm := by
  constructor
  · rw [functionManagerInit, prepareFunctionInfo_eq fm₀ dm hlim, Option.map_map,
      Option.map_eq_some_iff] at hfm
    obtain ⟨st, hst, hfm⟩ := hfm
    cases hfm
    exact ⟨dm, FixedTable.items_storeAll hst hfunctions⟩
  · rw [testManagerInit, prepareTestManagerInfo_eq, Option.map_map, Option.map_eq_some_iff] at htm
    obtain ⟨st, hst, htm⟩ := htm
    cases htm
    exact FixedTable.items_storeAll hst htests

/-- Every entry of the test table is a configured test whose function is in the function table. -/
lemma BuiltFrom.exists_definition (h : BuiltFrom cfgMan fm tm) {test : Test}
    (ht : test ∈ tm.tests.items) :
    ∃ t ∈ cfgMan.tests, test = availableTest t ∧
      ∃ entry ∈ fm.functions.items, entry.definition.name = t.function := by
  rw [h.tests, testMatches, List.mem_flatMap] at ht
  obtain ⟨f, hf, ht⟩ := ht
  rw [List.mem_map] at hf ht
  obtain ⟨entry, hentry, rfl⟩ := hf
  obtain ⟨t, ht, rfl⟩ := ht
  rw [List.mem_filter, decide_eq_true_eq] at ht
  exact ⟨t, ht.1, rfl, entry, hentry, ht.2.symm⟩

/-- Every entry of the function table is available under the name of its definition. -/
lemma BuiltFrom.functionEntry (h : BuiltFrom cfgMan fm tm) {entry : FunctionEntry}
    (hentry : entry ∈ fm.functions.items) :
    entry.available = true ∧ entry.name = entry.definition.name := by
  obtain ⟨dm, hdm⟩ := h.functions
  rw [hdm, functionMatches, List.mem_map] at hentry
  obtain ⟨f, -, rfl⟩ := hentry
  exact ⟨rfl, by simp [availableFunction]⟩

/-- A test of the table is stored under the name of its definition. -/
lemma BuiltFrom.name_eq (h : BuiltFrom cfgMan fm tm) {test : Test} (ht : test ∈ tm.tests.items) :
    test.name = test.definition.name := by
  obtain ⟨t, -, rfl, -⟩ := h.exists_definition ht
  simp [availableTest]

/-- The function of a test of the table is known and available. -/
lemma BuiltFrom.function_available (h : BuiltFrom cfgMan fm tm) {test : Test}
    (ht : test ∈ tm.tests.items) :
    fm.isAvailable test.definition.function.chars = true ∧
      (fm.getFunction test.definition.function.chars).isSome = true := by
  obtain ⟨t, -, rfl, entry, hentry, hname⟩ := h.exists_definition ht
  have hfound : (fm.find t.function.chars).isSome = true := by
    unfold FunctionManager.find
    rw [List.find?_isSome]
    refine ⟨entry, hentry, ?_⟩
    rw [safeStringCompare_eq_true, (h.functionEntry hentry).2, hname]
  obtain ⟨first, hfirst⟩ := Option.isSome_iff_exists.mp hfound
  have hfirstMem : first ∈ fm.functions.items := List.mem_of_find?_eq_some hfirst
  show fm.isAvailable t.function.chars = true ∧ (fm.getFunction t.function.chars).isSome = true
  unfold FunctionManager.isAvailable FunctionManager.getFunction
  rw [hfirst]
  exact ⟨(h.functionEntry hfirstMem).1, rfl⟩

/-- The test found under the name of an entry has its function available. -/
lemma BuiltFrom.getTest (h : BuiltFrom cfgMan fm tm) {test : Test} (ht : test ∈ tm.tests.items) :
    ∃ first ∈ tm.tests.items, tm.getTest test.definition.name.chars = some first.definition := by
  have hfound : (tm.find test.definition.name.chars).isSome = true := by
    unfold TestManager.find
    rw [List.find?_isSome]
    exact ⟨test, ht, by rw [safeStringCompare_eq_true, h.name_eq ht]⟩
  obtain ⟨first, hfirst⟩ := Option.isSome_iff_exists.mp hfound
  refine ⟨first, List.mem_of_find?_eq_some hfirst, ?_⟩
  unfold TestManager.getTest
  rw [hfirst]
  rfl

/-! ## Registration -/

/-- The operations of the first validation linked for a name. -/
def linkedOps (registry : List ValidationDescriptor) (name : CString) :
    Option (Option Address × TestOperations) :=
  (linkedDescriptor registry name).bind fun descriptor =>
    descriptor.ops.map fun ops => (descriptor.context, ops)

/-- For an entry of the test table all lookups on the way succeed: what counts is whether a
validation with operations is linked. -/
lemma validationSystemRegister_eq (h : BuiltFrom cfgMan fm tm)
    {registry : List ValidationDescriptor} {system : ValidationSystem}
    (hjoins : system.Joins registry (tm.tests.items.map fun test => test.definition.name.chars))
    (e : TestEngine) {test : Test} (ht : test ∈ tm.tests.items) :
    validationSystemRegister system tm fm e test.definition.name.chars =
      match linkedOps registry test.definition.name.chars with
      | some (context, ops) => e.register test.definition.name.chars context ops
      | none => (-1, e) := by
  obtain ⟨first, hfirst, hget⟩ := h.getTest ht
  obtain ⟨havailable, hfunction⟩ := h.function_available hfirst
  obtain ⟨function, hfunction⟩ := Option.isSome_iff_exists.mp hfunction
  have hlookup := hjoins.lookup test.definition.name.chars
  rw [if_pos (List.mem_map_of_mem ht)] at hlookup
  unfold validationSystemRegister linkedOps
  rw [hget, hlookup]
  simp only [havailable, hfunction, Bool.not_true, Bool.false_eq_true, if_false]
  rcases linkedDescriptor registry test.definition.name.chars with _ | ⟨name, context, _ | ops⟩
  · rfl
  · rfl
  · rfl

end built

/-- The names of the registered tests. -/
def TestEngine.testNames (e : TestEngine) : List (CharBuf testNameLength) :=
  e.tests.items.map TestEntry.name

/-- **The inverted duplicate check**: a test is registered only beside tests of its own name.
Source: `services/test-engine.c`, `test_engine_register` -/
lemma testNames_register (e : TestEngine) (name : CharBuf testNameLength)
    (context : Option Address) (ops : TestOperations) :
    ((e.register name.chars context ops).2.testNames = e.testNames ∧
      (e.register name.chars context ops).2.tests.count = e.tests.count ∧
      (e.tests.count < maxTests → ∃ n ∈ e.testNames, n ≠ name)) ∨
    ((∀ n ∈ e.testNames, n = name) ∧
      (e.register name.chars context ops).2.testNames = e.testNames ++ [name] ∧
      (e.register name.chars context ops).2.tests.count = e.tests.count + 1) := by
  rcases e.register_cases name.chars context ops with ⟨hwhy, hregister⟩ | ⟨hroom, hsame, hregister⟩
  · left
    rw [hregister]
    refine ⟨rfl, rfl, fun hroom => ?_⟩
    obtain ⟨entry, hentry, hne⟩ := hwhy.resolve_left (Nat.not_le.mpr hroom)
    exact ⟨entry.name, List.mem_map_of_mem hentry, fun heq => hne (congrArg CharBuf.chars heq)⟩
  · right
    rw [hregister]
    refine ⟨?_, ?_, rfl⟩
    · intro n hn
      obtain ⟨entry, hentry, rfl⟩ := List.mem_map.mp hn
      exact CharBuf.ext (hsame entry hentry)
    · unfold TestEngine.testNames RegisterCall.entry
      rw [FixedTable.items_push, List.map_append, List.map_singleton, safeStringCopy_self]

/-- The tests that have a linked validation, with or without operations. -/
def linkedTests (registry : List ValidationDescriptor) (tests : List Test) : List Test :=
  tests.filter fun test => (linkedDescriptor registry test.definition.name.chars).isSome

/-- A test without a linked validation has no operations. -/
lemma linkedOps_of_not_linked {registry : List ValidationDescriptor} {name : CString}
    (h : ¬ (linkedDescriptor registry name).isSome = true) : linkedOps registry name = none := by
  rw [Bool.not_eq_true, Option.isSome_eq_false_iff, Option.isNone_iff_eq_none] at h
  rw [linkedOps, h]
  rfl

section rounds

variable {cfgMan : ConfigManager} {fm : FunctionManager} {tm : TestManager}
  {registry : List ValidationDescriptor} {system : ValidationSystem}

/-- The rounds register every linked test when all of them have one name and operations. -/
lemma testNames_rounds_of_same (h : BuiltFrom cfgMan fm tm)
    (hjoins : system.Joins registry (tm.tests.items.map fun test => test.definition.name.chars))
    {name : CharBuf testNameLength} {tests : List Test} (hsub : ∀ test ∈ tests, test ∈ tm.tests.items)
    (hops : ∀ test ∈ linkedTests registry tests, test.definition.name = name ∧
      (linkedOps registry test.definition.name.chars).isSome = true)
    {e : TestEngine} (hroom : e.tests.count + tests.length ≤ maxTests)
    (hname : ∀ n ∈ e.testNames, n = name) :
    (tests.foldl (fun e test => (validationSystemRegister system tm fm e
      test.definition.name.chars).2) e).testNames =
        e.testNames ++ (linkedTests registry tests).map fun test => test.definition.name := by
  induction tests generalizing e with
  | nil => simp [linkedTests]
  | cons test tests ih =>
      rw [List.length_cons] at hroom
      have hsub' := fun t ht => hsub t (List.mem_cons_of_mem _ ht)
      have htest := validationSystemRegister_eq h hjoins e (hsub test (by simp))
      rw [List.foldl_cons, htest]
      by_cases hlinked : (linkedDescriptor registry test.definition.name.chars).isSome = true
      · have hcons : linkedTests registry (test :: tests) = test :: linkedTests registry tests :=
          List.filter_cons_of_pos hlinked
        rw [hcons] at hops ⊢
        obtain ⟨hthis, hsome⟩ := hops test (by simp)
        obtain ⟨⟨context, ops⟩, hlinkedOps⟩ := Option.isSome_iff_exists.mp hsome
        rw [hlinkedOps]
        rcases testNames_register e test.definition.name context ops with
          ⟨-, -, hother⟩ | ⟨-, hnames, hcount⟩
        · obtain ⟨n, hn, hne⟩ := hother (by omega)
          exact absurd (hname n hn) (hthis ▸ hne)
        · have hrest := ih hsub' (fun t ht => hops t (List.mem_cons_of_mem _ ht))
            (e := (e.register test.definition.name.chars context ops).2) (by omega) (by
              rw [hnames]
              intro n hn
              rw [List.mem_append, List.mem_singleton] at hn
              rcases hn with hn | rfl
              · exact hname n hn
              · exact hthis)
          rw [hrest, hnames]
          simp
      · have hcons : linkedTests registry (test :: tests) = linkedTests registry tests :=
          List.filter_cons_of_neg hlinked
        rw [hcons] at hops ⊢
        rw [linkedOps_of_not_linked hlinked]
        exact ih hsub' hops (e := e) (by omega) hname

/-- The registered tests have one name, and the validation linked for it has operations. -/
def OneTestName (registry : List ValidationDescriptor) (e : TestEngine) : Prop :=
  (∀ n ∈ e.testNames, ∀ m ∈ e.testNames, n = m) ∧
    ∀ n ∈ e.testNames, (linkedOps registry n.chars).isSome = true

/-- The rounds keep the tests under one name. -/
lemma oneTestName_rounds (h : BuiltFrom cfgMan fm tm)
    (hjoins : system.Joins registry (tm.tests.items.map fun test => test.definition.name.chars))
    {tests : List Test} (hsub : ∀ test ∈ tests, test ∈ tm.tests.items) {e : TestEngine}
    (hone : OneTestName registry e) :
    OneTestName registry (tests.foldl (fun e test => (validationSystemRegister system tm fm e
      test.definition.name.chars).2) e) := by
  induction tests generalizing e with
  | nil => exact hone
  | cons test tests ih =>
      have htest := validationSystemRegister_eq h hjoins e (hsub test (by simp))
      rw [List.foldl_cons, htest]
      apply ih fun t ht => hsub t (List.mem_cons_of_mem _ ht)
      rcases hops : linkedOps registry test.definition.name.chars with _ | ⟨context, ops⟩
      · exact hone
      · unfold OneTestName
        simp only
        rcases testNames_register e test.definition.name context ops with
          ⟨hnames, -, -⟩ | ⟨hsame, hnames, -⟩
        · rw [hnames]
          exact hone
        · have hmem : ∀ n ∈ e.testNames ++ [test.definition.name], n = test.definition.name := by
            intro n hn
            rw [List.mem_append, List.mem_singleton] at hn
            rcases hn with hn | rfl
            · exact hsame n hn
            · rfl
          rw [hnames]
          refine ⟨fun n hn m hm => (hmem n hn).trans (hmem m hm).symm, fun n hn => ?_⟩
          rw [hmem n hn, hops]
          rfl

/-- The tests printed as runnable are, by name, the linked tests of the test manager. -/
lemma listedUnder_iff_linked (h : BuiltFrom cfgMan fm tm)
    (hjoins : system.Joins registry (tm.tests.items.map fun test => test.definition.name.chars))
    {filter : CliListFilter} (hfilter : filter = .all ∨ filter = .runnable)
    (name : CharBuf testNameLength) :
    (∃ t ∈ listedUnder .runnable (listTests cfgMan tm system filter).2, t.name = name) ↔
      ∃ test ∈ linkedTests registry tm.tests.items, test.definition.name = name := by
  have havailable : tm.testIsAvailable name.chars = true ↔
      ∃ test ∈ tm.tests.items, test.definition.name = name := by
    unfold TestManager.testIsAvailable TestManager.find
    rw [List.find?_isSome]
    constructor
    · rintro ⟨test, ht, hname⟩
      rw [safeStringCompare_eq_true, ← CharBuf.ext_iff] at hname
      exact ⟨test, ht, by rw [← h.name_eq ht, hname]⟩
    · rintro ⟨test, ht, rfl⟩
      exact ⟨test, ht, by rw [safeStringCompare_eq_true, h.name_eq ht]⟩
  have himplemented : (∃ test ∈ tm.tests.items, test.definition.name = name) →
      system.isImplemented name.chars = (linkedDescriptor registry name.chars).isSome := by
    rintro ⟨test, ht, rfl⟩
    unfold ValidationSystem.isImplemented
    rw [hjoins.lookup, if_pos (List.mem_map_of_mem ht)]
  rw [listedUnder_runnable _ _ _ hfilter]
  simp only [linkedTests, List.mem_filter, Bool.and_eq_true]
  constructor
  · rintro ⟨t, ⟨-, hav, himp⟩, rfl⟩
    have hex := havailable.mp hav
    rw [himplemented hex] at himp
    obtain ⟨test, ht, hname⟩ := hex
    exact ⟨test, ⟨ht, by rwa [hname]⟩, hname⟩
  · rintro ⟨test, ⟨ht, hlinked⟩, rfl⟩
    obtain ⟨t, ht', rfl, -⟩ := h.exists_definition ht
    have hex : ∃ test ∈ tm.tests.items, test.definition.name = t.name := ⟨_, ht, rfl⟩
    exact ⟨t, ⟨ht', havailable.mpr hex, (himplemented hex).trans hlinked⟩, rfl⟩

end rounds

/-! ## Agreement -/

/-- **What is listed is what is registered**: the names of the registered tests are the names
printed as runnable, each registered once. -/
def RegisteredAsListed (listing : List (ListHeading × List TestDef)) (e : TestEngine) : Prop :=
  e.testNames.Nodup ∧
    ∀ name, name ∈ e.testNames ↔ ∃ t ∈ listedUnder .runnable listing, t.name = name

section agreement

variable {cfgMan : ConfigManager} {fm : FunctionManager} {tm : TestManager}
  {registry : List ValidationDescriptor} {system : ValidationSystem} {e : TestEngine}

/-- An engine that counts no tests has no names. -/
lemma testNames_of_empty (hempty : e.tests.count = 0) : e.testNames = [] := by
  simp [TestEngine.testNames, FixedTable.items, hempty]

/-- Into an empty engine, linked tests of one name that all have operations are registered as they
come. -/
lemma testNames_registerAll_of_same (h : BuiltFrom cfgMan fm tm)
    (hjoins : system.Joins registry (tm.tests.items.map fun test => test.definition.name.chars))
    (hempty : e.tests.count = 0) (name : CharBuf testNameLength)
    (hops : ∀ test ∈ linkedTests registry tm.tests.items, test.definition.name = name ∧
      (linkedOps registry test.definition.name.chars).isSome = true) :
    (validationSystemRegisterAll system tm fm e).2.testNames =
      (linkedTests registry tm.tests.items).map fun test => test.definition.name := by
  have hroom : e.tests.count + tm.tests.items.length ≤ maxTests := by
    have hlen := FixedTable.length_items_le tm.tests
    omega
  have hnone := testNames_of_empty hempty
  have hrounds := testNames_rounds_of_same h hjoins (fun _ ht => ht) hops hroom (by simp [hnone])
  rw [hnone] at hrounds
  exact hrounds

/-- When the registered tests are the linked ones, each once, there is at most one, and it has
operations. -/
lemma atMostOneLinked (h : BuiltFrom cfgMan fm tm)
    (hjoins : system.Joins registry (tm.tests.items.map fun test => test.definition.name.chars))
    (hempty : e.tests.count = 0)
    (hnodup : (validationSystemRegisterAll system tm fm e).2.testNames.Nodup)
    (hregistered : ∀ test ∈ linkedTests registry tm.tests.items,
      test.definition.name ∈ (validationSystemRegisterAll system tm fm e).2.testNames) :
    linkedTests registry tm.tests.items = [] ∨
      ∃ test, linkedTests registry tm.tests.items = [test] ∧
        (linkedOps registry test.definition.name.chars).isSome = true := by
  have hstart : OneTestName registry e := by simp [OneTestName, testNames_of_empty hempty]
  obtain ⟨hsame, hops⟩ := oneTestName_rounds h hjoins (fun _ ht => ht) hstart
  rcases hlinked : linkedTests registry tm.tests.items with _ | ⟨test, rest⟩
  · exact .inl rfl
  · right
    have htest := hregistered test (by simp [hlinked])
    have hnames := testNames_registerAll_of_same h hjoins hempty test.definition.name fun t ht =>
      ⟨hsame _ (hregistered t ht) _ htest, hops _ (hregistered t ht)⟩
    rw [hnames, hlinked, List.map_cons, List.nodup_cons] at hnodup
    rcases rest with _ | ⟨other, rest⟩
    · exact ⟨test, rfl, hops _ htest⟩
    · -- a second linked test would have the same name
      have hother := hsame _ (hregistered other (by simp [hlinked])) _ htest
      exact absurd (by simp [hother]) hnodup.1

/-- No linked test, or one with operations, is registered as it is linked, each once. -/
lemma testNames_registerAll_of_atMostOne (h : BuiltFrom cfgMan fm tm)
    (hjoins : system.Joins registry (tm.tests.items.map fun test => test.definition.name.chars))
    (hempty : e.tests.count = 0)
    (hcond : linkedTests registry tm.tests.items = [] ∨
      ∃ test, linkedTests registry tm.tests.items = [test] ∧
        (linkedOps registry test.definition.name.chars).isSome = true) :
    (validationSystemRegisterAll system tm fm e).2.testNames =
        (linkedTests registry tm.tests.items).map (fun test => test.definition.name) ∧
      ((linkedTests registry tm.tests.items).map fun test => test.definition.name).Nodup := by
  rcases hcond with hnil | ⟨test, hone, hops⟩
  · refine ⟨?_, by simp [hnil]⟩
    exact testNames_registerAll_of_same h hjoins hempty (.empty _) (by simp [hnil])
  · refine ⟨testNames_registerAll_of_same h hjoins hempty test.definition.name ?_,
      by simp [hone]⟩
    rw [hone]
    simpa using hops

end agreement

/-- **Listing and registration agree exactly** when no test of the test manager is linked, or
exactly one is, counted as often as the table holds it, and its validation has operations.
Source: `main.c`, `list_tests`; `validation/validation-system.c`,
`validation_system_register_all`; `services/test-engine.c`, `test_engine_register` -/
theorem registeredAsListed_iff {cfgMan : ConfigManager} {fm : FunctionManager} {tm : TestManager}
    (hbuilt : BuiltFrom cfgMan fm tm) (registry : List ValidationDescriptor)
    (block : ValidationSystem) {e : TestEngine} (hempty : e.tests.count = 0)
    {filter : CliListFilter} (hfilter : filter = .all ∨ filter = .runnable) :
    ∃ system, validationSystemInit (some block) registry tm = some system ∧
      (RegisteredAsListed (listTests cfgMan tm system filter).2
          (validationSystemRegisterAll system tm fm e).2 ↔
        linkedTests registry tm.tests.items = [] ∨
          ∃ test, linkedTests registry tm.tests.items = [test] ∧
            (linkedOps registry test.definition.name.chars).isSome = true) := by
  obtain ⟨system, hsystem, hjoins⟩ := joins_init block registry tm
  refine ⟨system, hsystem, ?_⟩
  unfold RegisteredAsListed
  simp only [listedUnder_iff_linked hbuilt hjoins hfilter]
  constructor
  · rintro ⟨hnodup, hset⟩
    exact atMostOneLinked hbuilt hjoins hempty hnodup fun t ht => (hset _).mpr ⟨t, ht, rfl⟩
  · intro hcond
    obtain ⟨hnames, hnodup⟩ := testNames_registerAll_of_atMostOne hbuilt hjoins hempty hcond
    rw [hnames]
    exact ⟨hnodup, fun name => List.mem_map⟩

/-- A linked validation. -/
def linkedValidation (name : CString) : ValidationDescriptor :=
  ⟨name, some 64, some ⟨some 16, some 32, some 48⟩⟩

/-- On the one-LED platform with its validation linked, the listed test is registered. -/
theorem registeredAsListed_ledConfig :
    ∃ system, validationSystemInit (some ⟨⟨.replicate _ .zeroed, 5⟩⟩)
        [linkedValidation (cstr "status_indication_test")] ledEngine.testManager = some system ∧
      RegisteredAsListed (listTests ledConfig ledEngine.testManager system .all).2
        (validationSystemRegisterAll system ledEngine.testManager ledFunctions
          { ledEngine with tests := ⟨.replicate _ .zeroed, 0⟩ }).2 := by
  have hbuilt : BuiltFrom ledConfig ledFunctions ledEngine.testManager := ⟨⟨ledDevices, rfl⟩, rfl⟩
  obtain ⟨system, hsystem, hiff⟩ := registeredAsListed_iff hbuilt
    [linkedValidation (cstr "status_indication_test")] ⟨⟨.replicate _ .zeroed, 5⟩⟩
    (e := { ledEngine with tests := ⟨.replicate _ .zeroed, 0⟩ }) rfl (.inl rfl)
  exact ⟨system, hsystem, hiff.mpr (.inr ⟨_, rfl, rfl⟩)⟩

/-- A platform with two tests for its LED. -/
def twoTestsConfig : ConfigManager :=
  { ledConfig with
    testConfig := ⟨1, .ofList _ ledConfig.ledTest [ledConfig.ledTest, blinkTest]⟩ }
where
  blinkTest : TestDef :=
    ⟨safeStringCopy (cstr "led_blink_test") 64, .empty 128, ledConfig.functionName⟩

/-- Both tests are linked and listed as runnable; the second is not registered. -/
theorem blinkTest_not_registered :
    ∃ tm system, BuiltFrom twoTestsConfig ledFunctions tm ∧
      validationSystemInit (some ⟨⟨.replicate _ .zeroed, 0⟩⟩)
        [linkedValidation (cstr "status_indication_test"),
          linkedValidation (cstr "led_blink_test")] tm = some system ∧
      ¬ RegisteredAsListed (listTests twoTestsConfig tm system .all).2
        (validationSystemRegisterAll system tm ledFunctions
          { ledEngine with tests := ⟨.replicate _ .zeroed, 0⟩ }).2 := by
  refine ⟨⟨.ofList _ (availableTest ledConfig.ledTest)
    [availableTest ledConfig.ledTest, availableTest twoTestsConfig.blinkTest]⟩, _,
    ⟨⟨ledDevices, rfl⟩, rfl⟩, rfl, ?_⟩
  rintro ⟨-, hset⟩
  have hlisted := (hset twoTestsConfig.blinkTest.name).mpr ⟨twoTestsConfig.blinkTest, by decide, rfl⟩
  exact absurd hlisted (by decide)

end HardwareTest
