import HardwareTest.Validation.Listing

/-!
# Listing and running all tests: `main.c`

`list_tests` sorts the configured tests under three headings by what the test manager and the
validation system say of their names. `run_all_tests` asks the same questions again, skips what it
cannot run, and waits for the result of everything else.

* `wait_for_test_result` polls an engine that other threads change. `engines attempt` is the engine
  that an attempt finds, any engine at all.
* `waitForTestResult_eq_some_iff`, `arrivesPassed_iff`: what it returns is the first finished result
  that an attempt finds.
* `PartitionedBy`: each configured test under one heading, and each filter prints one list.
* `Recounts`: what the summary of a run says, read against that listing.
* `listing_and_runAll_agree`: both hold for every configured table.
-/

namespace HardwareTest

open Lib

/-! ## Waiting -/

/-- The result has arrived: the test is no longer queued or running. -/
def TestResult.Finished (result : TestResult) : Prop :=
  result.state ≠ .queued ∧ result.state ≠ .running

instance (result : TestResult) : Decidable result.Finished := inferInstanceAs (Decidable (_ ∧ _))

/-- The number of attempts to fetch a result. Source: `main.c`, `wait_for_test_result` -/
abbrev waitAttempts : ℕ := 3000

/-- The first finished result that an attempt finds, `none` for the return code `-1`.
Source: `main.c`, `wait_for_test_result` -/
def waitForTestResult (engines : ℕ → TestEngine) (name : CString) : Option TestResult :=
  (List.range waitAttempts).findSome? fun attempt =>
    ((engines attempt).getResult name).filter fun result => decide result.Finished

/-- The result of a test arrives within the attempts and says that the test passed. -/
def ArrivesPassed (engines : ℕ → TestEngine) (name : CString) : Prop :=
  ∃ result, waitForTestResult engines name = some result ∧ result.state = .pass

/-- The engine of an attempt has a finished result of the test. -/
def FindsFinished (engines : ℕ → TestEngine) (name : CString) (attempt : ℕ)
    (result : TestResult) : Prop :=
  (engines attempt).getResult name = some result ∧ result.Finished

section waiting

variable {engines : ℕ → TestEngine} {name : CString}

/-- A search through the numbers below a bound ends at the first one that gives something. -/
lemma findSome?_range_eq_some_iff {α : Type*} {f : ℕ → Option α} {n : ℕ} {b : α} :
    (List.range n).findSome? f = some b ↔ ∃ i < n, f i = some b ∧ ∀ j < i, f j = none := by
  induction n with
  | zero => simp
  | succ n ih =>
      rw [List.range_succ, List.findSome?_append, Option.or_eq_some_iff, ih,
        List.findSome?_eq_none_iff]
      constructor
      · rintro (⟨i, hi, hfirst⟩ | ⟨hnone, hlast⟩)
        · exact ⟨i, Nat.lt_succ_of_lt hi, hfirst⟩
        · exact ⟨n, Nat.lt_succ_self n, by simpa using hlast,
            fun j hj => hnone j (List.mem_range.mpr hj)⟩
      · rintro ⟨i, hi, hfound, hbefore⟩
        rcases Nat.lt_succ_iff_lt_or_eq.mp hi with hlt | rfl
        · exact .inl ⟨i, hlt, hfound, hbefore⟩
        · exact .inr ⟨fun j hj => hbefore j (List.mem_range.mp hj), by simpa using hfound⟩

/-- The result that an attempt keeps is finished. -/
lemma filter_finished_eq_some_iff {attempt : ℕ} {result : TestResult} :
    (((engines attempt).getResult name).filter fun r => decide r.Finished) = some result ↔
      FindsFinished engines name attempt result := by
  rw [Option.filter_eq_some_iff, decide_eq_true_iff]
  rfl

/-- An attempt keeps nothing iff no finished result is there. -/
lemma filter_finished_eq_none_iff {attempt : ℕ} :
    (((engines attempt).getResult name).filter fun r => decide r.Finished) = none ↔
      ∀ result, ¬ FindsFinished engines name attempt result := by
  simp only [Option.eq_none_iff_forall_ne_some, ne_eq, filter_finished_eq_some_iff]

/-- **Waiting** gives the first finished result that an attempt finds. -/
theorem waitForTestResult_eq_some_iff {result : TestResult} :
    waitForTestResult engines name = some result ↔ ∃ attempt < waitAttempts,
      FindsFinished engines name attempt result ∧
        ∀ earlier < attempt, ∀ r, ¬ FindsFinished engines name earlier r := by
  unfold waitForTestResult
  rw [findSome?_range_eq_some_iff]
  simp only [filter_finished_eq_some_iff, filter_finished_eq_none_iff]

/-- It fails iff no attempt finds one. -/
theorem waitForTestResult_eq_none_iff :
    waitForTestResult engines name = none ↔
      ∀ attempt < waitAttempts, ∀ r, ¬ FindsFinished engines name attempt r := by
  unfold waitForTestResult
  rw [List.findSome?_eq_none_iff]
  simp only [List.mem_range, filter_finished_eq_none_iff]

/-- A test has passed iff the first finished result that an attempt finds says so. -/
theorem arrivesPassed_iff :
    ArrivesPassed engines name ↔ ∃ attempt < waitAttempts,
      (∃ result, FindsFinished engines name attempt result ∧ result.state = .pass) ∧
        ∀ earlier < attempt, ∀ r, ¬ FindsFinished engines name earlier r := by
  unfold ArrivesPassed
  simp only [waitForTestResult_eq_some_iff]
  constructor
  · rintro ⟨result, ⟨attempt, hattempt, hfinds, hfirst⟩, hpass⟩
    exact ⟨attempt, hattempt, ⟨result, hfinds, hpass⟩, hfirst⟩
  · rintro ⟨attempt, hattempt, ⟨result, hfinds, hpass⟩, hfirst⟩
    exact ⟨result, ⟨attempt, hattempt, hfinds, hfirst⟩, hpass⟩

end waiting

/-! ## Running all tests -/

/-- What is printed about a test. Source: `main.c`, `run_all_tests` -/
inductive Verdict
  | skip
  | fail
  | pass (executionTimeMs : UInt32)

/-- The printed lines, each with its name, and the counters. Source: `main.c`, `run_all_tests` -/
structure RunSummary where
  lines : List (CharBuf testNameLength × Verdict)
  passed : ℕ
  failed : ℕ
  skipped : ℕ

/-- The summary before the first test. -/
def RunSummary.zero : RunSummary := ⟨[], 0, 0, 0⟩

section model

variable (cfgMan : ConfigManager) (testManager : TestManager) (system : ValidationSystem)
  (engines : ℕ → ℕ → TestEngine)

/-- One pass of the loop; `engines index` is what waiting in that pass finds.
Source: `main.c`, `run_all_tests` -/
def runRound (s : RunSummary) (index : ℕ) : RunSummary :=
  match cfgMan.getTestByIndex index with
  | none => { s with failed := s.failed + 1 }
  | some test =>
      if !testManager.testIsAvailable test.name.chars || !system.isImplemented test.name.chars then
        { s with lines := s.lines ++ [(test.name, .skip)], skipped := s.skipped + 1 }
      else
        match waitForTestResult (engines index) test.name.chars with
        | none => { s with lines := s.lines ++ [(test.name, .fail)], failed := s.failed + 1 }
        | some result =>
            if result.state ≠ .pass then
              { s with lines := s.lines ++ [(test.name, .fail)], failed := s.failed + 1 }
            else
              { s with
                lines := s.lines ++ [(result.name, .pass result.executionTimeMs)]
                passed := s.passed + 1 }

/-- The return code with the summary, which is printed unless registration or execution fails;
`registered` and `executed` are the codes of these two calls. Source: `main.c`, `run_all_tests` -/
def runAllTests (registered executed : ℤ) : ℤ × Option RunSummary :=
  if registered ≠ 0 ∨ executed ≠ 0 then (-1, none)
  else
    let s := (List.range cfgMan.getTestCount).foldl
      (runRound cfgMan testManager system engines) .zero
    (if s.failed = 0 then 0 else -1, some s)

end model

/-! ## The listing as a partition -/

/-- The filter that prints a heading alone. -/
def ListHeading.filter : ListHeading → CliListFilter
  | .runnable => .runnable
  | .unimplemented => .unimplemented
  | .unavailable => .unavailable

/-- **The lists partition the tests**: some classification puts every test under one heading, each
list holds the tests of its heading in configuration order, and the filter of a heading prints the
list of that heading only. -/
structure PartitionedBy (tests : List TestDef)
    (listing : CliListFilter → ℤ × List (ListHeading × List TestDef)) : Prop where
  headings : (listing .all).2.map Prod.fst = [.runnable, .unimplemented, .unavailable]
  classified : ∃ headingOf : TestDef → ListHeading, ∀ heading,
    listedUnder heading (listing .all).2 = tests.filter fun test => headingOf test = heading
  filtered : ∀ heading : ListHeading,
    (listing heading.filter).2 = [(heading, listedUnder heading (listing .all).2)]
  returns : ∀ filter, (listing filter).1 = 0

section agreement

variable {cfgMan : ConfigManager} (testManager : TestManager) (system : ValidationSystem)

/-- Whether a test can be run: it is available and implemented. -/
def runnableTest (test : TestDef) : Bool :=
  testManager.testIsAvailable test.name.chars && system.isImplemented test.name.chars

/-- The heading of a test. -/
def headingOf (test : TestDef) : ListHeading :=
  if testManager.testIsAvailable test.name.chars then
    if system.isImplemented test.name.chars then .runnable else .unimplemented
  else .unavailable

/-- The three conditions of `list_tests` are those of the headings. -/
lemma listedUnder_eq_filter_headingOf (cfgMan : ConfigManager) (heading : ListHeading) :
    listedUnder heading (listTests cfgMan testManager system .all).2 =
      cfgMan.tests.filter fun test => headingOf testManager system test = heading := by
  have hfilter : ∀ p : TestDef → Bool,
      (∀ test, p test = decide (headingOf testManager system test = heading)) →
      cfgMan.tests.filter p =
        cfgMan.tests.filter fun test => headingOf testManager system test = heading :=
    fun p hp => List.filter_congr fun test _ => hp test
  rcases heading with _ | _ | _
  all_goals
    simp only [listTests, listedUnder, true_or, if_true, List.cons_append, List.nil_append,
      List.flatMap_cons, List.flatMap_nil, reduceCtorEq, if_false, List.append_nil]
    apply hfilter
    intro test
    unfold headingOf
    rcases testManager.testIsAvailable test.name.chars with _ | _
    · simp
    · rcases system.isImplemented test.name.chars with _ | _
      · simp
      · simp

/-- The listing of a configuration partitions its tests. -/
lemma partitionedBy_listTests (cfgMan : ConfigManager) :
    PartitionedBy cfgMan.tests (listTests cfgMan testManager system) where
  headings := rfl
  classified := ⟨headingOf testManager system, fun heading =>
    listedUnder_eq_filter_headingOf testManager system cfgMan heading⟩
  filtered heading := by
    rcases heading with _ | _ | _
    · simp [ListHeading.filter, listTests, listedUnder]
    · simp [ListHeading.filter, listTests, listedUnder]
    · simp [ListHeading.filter, listTests, listedUnder]
  returns _ := rfl

/-- A configured test is listed as runnable iff both answers are yes. -/
lemma mem_listedUnder_runnable {test : TestDef} (ht : test ∈ cfgMan.tests) :
    test ∈ listedUnder .runnable (listTests cfgMan testManager system .all).2 ↔
      runnableTest testManager system test = true := by
  rw [listedUnder_runnable cfgMan testManager system (.inl rfl), List.mem_filter]
  exact ⟨And.right, And.intro ht⟩

/-! ## The loop of `run_all_tests` -/

/-- The names on the lines of skipped tests. -/
def skippedNames (lines : List (CharBuf testNameLength × Verdict)) :
    List (CharBuf testNameLength) :=
  lines.filterMap fun line =>
    match line.2 with
    | .skip => some line.1
    | _ => none

/-- The skipped names of a longer output. -/
@[simp] lemma skippedNames_append (l k : List (CharBuf testNameLength × Verdict)) :
    skippedNames (l ++ k) = skippedNames l ++ skippedNames k := List.filterMap_append

@[simp] lemma skippedNames_skip (name : CharBuf testNameLength) :
    skippedNames [(name, .skip)] = [name] := rfl

@[simp] lemma skippedNames_fail (name : CharBuf testNameLength) :
    skippedNames [(name, .fail)] = [] := rfl

@[simp] lemma skippedNames_pass (name : CharBuf testNameLength) (ms : UInt32) :
    skippedNames [(name, .pass ms)] = [] := rfl

variable (engines : ℕ → ℕ → TestEngine)

/-- What a pass does with a configured test: it skips, fails or passes it. -/
lemma runRound_cases {index : ℕ} {test : TestDef} (h : cfgMan.tests[index]? = some test)
    (s : RunSummary) :
    (runnableTest testManager system test = false ∧
      runRound cfgMan testManager system engines s index =
        { s with lines := s.lines ++ [(test.name, .skip)], skipped := s.skipped + 1 }) ∨
    (runnableTest testManager system test = true ∧
      ¬ ArrivesPassed (engines index) test.name.chars ∧
      runRound cfgMan testManager system engines s index =
        { s with lines := s.lines ++ [(test.name, .fail)], failed := s.failed + 1 }) ∨
    (runnableTest testManager system test = true ∧
      ∃ result, waitForTestResult (engines index) test.name.chars = some result ∧
        result.state = .pass ∧
        runRound cfgMan testManager system engines s index =
          { s with
            lines := s.lines ++ [(result.name, .pass result.executionTimeMs)]
            passed := s.passed + 1 }) := by
  have hget : cfgMan.getTestByIndex index = some test := by
    rw [ConfigManager.getTestByIndex, FixedTable.get?_eq_items]
    exact h
  have hskip : (!testManager.testIsAvailable test.name.chars ||
      !system.isImplemented test.name.chars) = !runnableTest testManager system test := by
    rw [runnableTest, Bool.not_and]
  unfold runRound ArrivesPassed
  simp only [hget, hskip]
  rcases hrunnable : runnableTest testManager system test with _ | _
  · exact .inl ⟨rfl, rfl⟩
  · right
    simp only [Bool.not_true, Bool.false_eq_true, if_false]
    rcases hwait : waitForTestResult (engines index) test.name.chars with _ | result
    · exact .inl ⟨trivial, by simp, rfl⟩
    · by_cases hpass : result.state = .pass
      · exact .inr ⟨trivial, result, rfl, hpass, by simp [hpass]⟩
      · exact .inl ⟨trivial, by simpa using hpass, by simp [hpass]⟩

/-- The counters and the lines after the first `n` passes. -/
structure Tally (cfgMan : ConfigManager) (n : ℕ) (s : RunSummary) : Prop where
  total : s.passed + s.failed + s.skipped = n
  lines : s.lines.length = n
  skippedLines : skippedNames s.lines =
    ((cfgMan.tests.take n).filter fun test => !runnableTest testManager system test).map
      TestDef.name
  skipped : s.skipped = (skippedNames s.lines).length
  failed : s.failed = 0 ↔ ∀ index < n, ∀ test, cfgMan.tests[index]? = some test →
    runnableTest testManager system test = true → ArrivesPassed (engines index) test.name.chars

/-- A condition on the passes below `n + 1` is one on those below `n` and on pass `n`. -/
lemma forall_passes_succ {P : ℕ → TestDef → Prop} {n : ℕ} {test : TestDef}
    {tests : List TestDef} (h : tests[n]? = some test) :
    (∀ index < n + 1, ∀ t, tests[index]? = some t → P index t) ↔
      (∀ index < n, ∀ t, tests[index]? = some t → P index t) ∧ P n test := by
  constructor
  · intro hall
    exact ⟨fun index hindex => hall index (by omega), hall n (by omega) test h⟩
  · rintro ⟨hbefore, hlast⟩ index hindex t ht
    rcases Nat.lt_succ_iff_lt_or_eq.mp hindex with hlt | rfl
    · exact hbefore index hlt t ht
    · rw [h] at ht
      exact Option.some.inj ht ▸ hlast

/-- **One more line**: the counters move by what the line says of the test. -/
lemma Tally.extend {n : ℕ} {test : TestDef} (htest : cfgMan.tests[n]? = some test)
    {s : RunSummary} (h : Tally testManager system engines cfgMan n s)
    {line : CharBuf testNameLength × Verdict} {passed failed skipped : ℕ}
    (htotal : passed + failed + skipped = s.passed + s.failed + s.skipped + 1)
    (hline : skippedNames [line] = if runnableTest testManager system test then [] else [test.name])
    (hskipped : skipped = s.skipped + (skippedNames [line]).length)
    (hfailed : failed = 0 ↔ s.failed = 0 ∧ (runnableTest testManager system test = true →
      ArrivesPassed (engines n) test.name.chars)) :
    Tally testManager system engines cfgMan (n + 1)
      ⟨s.lines ++ [line], passed, failed, skipped⟩ where
  total := htotal.trans (congrArg (· + 1) h.total)
  lines := by rw [List.length_append, h.lines, List.length_singleton]
  skippedLines := by
    rw [skippedNames_append, h.skippedLines, hline, List.take_add_one, htest, Option.toList_some,
      List.filter_append, List.map_append]
    rcases hrunnable : runnableTest testManager system test with _ | _
    · simp [hrunnable]
    · simp [hrunnable]
  skipped := by
    rw [skippedNames_append, List.length_append, ← h.skipped]
    exact hskipped
  failed := by
    rw [forall_passes_succ htest, ← h.failed]
    exact hfailed

/-- **One pass** extends the tally by one test. -/
lemma Tally.round {n : ℕ} {test : TestDef} (htest : cfgMan.tests[n]? = some test) {s : RunSummary}
    (h : Tally testManager system engines cfgMan n s) :
    Tally testManager system engines cfgMan (n + 1)
      (runRound cfgMan testManager system engines s n) := by
  rcases runRound_cases testManager system engines htest s with
    ⟨hrunnable, hround⟩ | ⟨hrunnable, hfails, hround⟩ | ⟨hrunnable, result, hwait, hpass, hround⟩
  · rw [hround]
    refine h.extend testManager system engines htest (by omega) ?_ rfl ?_
    · simp [hrunnable]
    · simp [hrunnable]
  · rw [hround]
    refine h.extend testManager system engines htest (by omega) ?_ rfl ?_
    · simp [hrunnable]
    · simp [hrunnable, hfails]
  · have harrives : ArrivesPassed (engines n) test.name.chars := ⟨result, hwait, hpass⟩
    rw [hround]
    refine h.extend testManager system engines htest (by omega) ?_ rfl ?_
    · simp [hrunnable]
    · simp [harrives]

/-- The tally of the first `n` configured tests. -/
lemma tally_foldl {n : ℕ} (hn : n ≤ cfgMan.tests.length) :
    Tally testManager system engines cfgMan n
      ((List.range n).foldl (runRound cfgMan testManager system engines) .zero) := by
  induction n with
  | zero =>
      refine ⟨rfl, rfl, by simp [skippedNames, RunSummary.zero], rfl, ?_⟩
      simp [RunSummary.zero]
  | succ n ih =>
      have htest : cfgMan.tests[n]? = some cfgMan.tests[n] := List.getElem?_eq_getElem hn
      rw [List.range_succ, List.foldl_append, List.foldl_cons, List.foldl_nil]
      exact (ih (by omega)).round testManager system engines htest

end agreement

/-! ## Agreement -/

/-- **The summary recounts the listing**: a line for each test; the skipped tests are those that are
not listed as runnable, in configuration order; the counters add up to the number of tests; and the
return code is 0 iff the result of every test listed as runnable arrives with `PASS`. -/
structure Recounts (cfgMan : ConfigManager) (listing : List (ListHeading × List TestDef))
    (engines : ℕ → ℕ → TestEngine) (code : ℤ) (s : RunSummary) : Prop where
  lines : s.lines.length = cfgMan.getTestCount
  skippedLines : skippedNames s.lines =
    (cfgMan.tests.filter fun test => test ∉ listedUnder .runnable listing).map TestDef.name
  skipped : s.skipped = (cfgMan.tests.filter fun test =>
    test ∉ listedUnder .runnable listing).length
  total : s.passed + s.failed + s.skipped = cfgMan.getTestCount
  status : code = 0 ↔ ∀ index test, cfgMan.tests[index]? = some test →
    test ∈ listedUnder .runnable listing → ArrivesPassed (engines index) test.name.chars

/-- **Listing and running partition the tests the same way**, for every test table within its
array, every test manager, every validation system and every outcome of waiting.
Source: `main.c`, `list_tests`, `run_all_tests`, `wait_for_test_result` -/
theorem listing_and_runAll_agree {cfgMan : ConfigManager}
    (hlim : cfgMan.testConfig.tests.WithinLimit) (testManager : TestManager)
    (system : ValidationSystem) (engines : ℕ → ℕ → TestEngine) :
    PartitionedBy cfgMan.tests (listTests cfgMan testManager system) ∧
      ∃ code s, runAllTests cfgMan testManager system engines 0 0 = (code, some s) ∧
        Recounts cfgMan (listTests cfgMan testManager system .all).2 engines code s := by
  refine ⟨partitionedBy_listTests testManager system cfgMan, _, _, rfl, ?_⟩
  have hcount : cfgMan.getTestCount = cfgMan.tests.length := hlim.length_items.symm
  have htally : Tally testManager system engines cfgMan cfgMan.getTestCount
      ((List.range cfgMan.getTestCount).foldl (runRound cfgMan testManager system engines) .zero) :=
    tally_foldl testManager system engines hcount.le
  have hskipped : ((cfgMan.tests.take cfgMan.getTestCount).filter fun test =>
      !runnableTest testManager system test) = cfgMan.tests.filter fun test =>
        test ∉ listedUnder .runnable (listTests cfgMan testManager system .all).2 := by
    rw [hcount, List.take_length]
    refine List.filter_congr fun test ht => ?_
    simp [mem_listedUnder_runnable testManager system ht]
  refine ⟨htally.lines, ?_, ?_, htally.total, ?_⟩
  · rw [htally.skippedLines, hskipped]
  · rw [htally.skipped, htally.skippedLines, hskipped, List.length_map]
  · have hcode : ∀ failed : ℕ, (if failed = 0 then (0 : ℤ) else -1) = 0 ↔ failed = 0 := by
      intro failed
      split_ifs with hzero
      · exact iff_of_true rfl hzero
      · exact iff_of_false (by decide) hzero
    rw [hcode, htally.failed, hcount]
    constructor
    · intro hall index test htest hlisted
      have hmem := List.mem_of_getElem? htest
      exact hall index (List.getElem?_eq_some_iff.mp htest).1 test htest
        ((mem_listedUnder_runnable testManager system hmem).mp hlisted)
    · intro hall index hindex test htest hrunnable
      have hmem := List.mem_of_getElem? htest
      exact hall index test htest
        ((mem_listedUnder_runnable testManager system hmem).mpr hrunnable)

/-- The validation system with the test of the one-LED platform linked. -/
def ledValidations : ValidationSystem :=
  ⟨.ofList _ .zeroed [⟨ledConfig.ledTest.name,
    some ⟨ledConfig.ledTest.name.chars, some 64, some ⟨some 16, some 32, some 48⟩⟩⟩]⟩

/-- On the one-LED platform, whatever the engine answers. -/
theorem listing_and_runAll_agree_led :
    PartitionedBy ledConfig.tests (listTests ledConfig ledEngine.testManager ledValidations) ∧
      ∃ code s, runAllTests ledConfig ledEngine.testManager ledValidations
          (fun _ _ => ledEngine) 0 0 = (code, some s) ∧
        Recounts ledConfig (listTests ledConfig ledEngine.testManager ledValidations .all).2
          (fun _ _ => ledEngine) code s :=
  listing_and_runAll_agree (by decide) _ _ _

example : (listTests ledConfig ledEngine.testManager ledValidations .runnable).2 =
    [(.runnable, [ledConfig.ledTest])] := rfl

end HardwareTest
