import HardwareTest.Engine.State
import HardwareTest.Lib.Transition

/-!
# The test reporter: `services/test-reporter.c`

The reporter keeps the results it collects in a table and counts them by their state on the way.
`test_engine_get_result` is whatever the engine answers at that moment: a call carries its code and
what it leaves in the zeroed local result. The body of `test_reporter_collect` behind the lookup
holds the lock, so that concurrent calls are a sequence.

* `recount results`: the summary of a list of results, counted afresh.
* `updateSummary_recount`: counting one more result on the way is counting afresh.
* `collected_eq_take`: what is collected are the results of the calls that the engine answers, up to
  the limit.
* `summaryExact_of_run`: in every state that any calls reach, the stored results are those
  collected, in order, and the summary is their recount.
-/

namespace HardwareTest

open Lib

/-- Source: `services/test-reporter.h`, `TEST_REPORTER_MAX_RESULTS` -/
abbrev testReporterMaxResults : ℕ := 128

/-- Source: `services/test-reporter.h`, `test_summary_t` -/
structure TestSummary where
  totalTests : UInt32
  passedTests : UInt32
  failedTests : UInt32
  timeoutTests : UInt32
  skippedTests : UInt32
deriving DecidableEq

/-- The summary after `memset`. -/
def TestSummary.zeroed : TestSummary := ⟨0, 0, 0, 0, 0⟩

/-- Source: `services/test-reporter.c`, `test_reporter_t` -/
structure TestReporter where
  results : FixedTable TestResult testReporterMaxResults
  summary : TestSummary

/-- A call of `test_reporter_collect`: the name, NULL or not, and what `test_engine_get_result`
returns for it and leaves in the local result. -/
structure CollectCall where
  name : Option CString
  code : ℤ
  result : TestResult

/-- The name is given, and the engine has a result of that name. -/
def CollectCall.answered (call : CollectCall) : Bool := call.name.isSome && call.code = 0

namespace TestReporter

/-- Source: `services/test-reporter.c`, `test_reporter_update_summary` -/
def updateSummary (summary : TestSummary) (result : TestResult) : TestSummary :=
  let summary := { summary with totalTests := summary.totalTests + 1 }
  match result.state with
  | .pass => { summary with passedTests := summary.passedTests + 1 }
  | .fail => { summary with failedTests := summary.failedTests + 1 }
  | .timeout => { summary with timeoutTests := summary.timeoutTests + 1 }
  | .skip => { summary with skippedTests := summary.skippedTests + 1 }
  | _ => summary

/-- A new reporter; its cells hold whatever `malloc` gave.
Source: `services/test-reporter.c`, `test_reporter_init` -/
def testReporterInit (cells : Vector TestResult testReporterMaxResults) : TestReporter :=
  ⟨⟨cells, 0⟩, .zeroed⟩

/-- Source: `services/test-reporter.c`, `test_reporter_collect` -/
def testReporterCollect (reporter : TestReporter) (call : CollectCall) : ℤ × TestReporter :=
  if call.name = none then (-1, reporter)
  else if call.code ≠ 0 then (-1, reporter)
  else if h : reporter.results.count < testReporterMaxResults then
    (0, { results := reporter.results.push call.result h
          summary := updateSummary reporter.summary call.result })
  else (-1, reporter)

/-- A call either fails and changes nothing, or it appends its result and counts it. -/
lemma testReporterCollect_cases (reporter : TestReporter) (call : CollectCall) :
    reporter.testReporterCollect call = (-1, reporter) ∨
      ∃ h : reporter.results.count < testReporterMaxResults,
        reporter.testReporterCollect call = (0, ⟨reporter.results.push call.result h,
          updateSummary reporter.summary call.result⟩) := by
  unfold testReporterCollect
  split_ifs with hname hcode hroom
  · exact .inl rfl
  · exact .inl rfl
  · exact .inr ⟨hroom, rfl⟩
  · exact .inl rfl

/-- **A call returns 0** exactly when it is answered and there is room for the result. -/
theorem testReporterCollect_eq_zero_iff (reporter : TestReporter) (call : CollectCall) :
    (reporter.testReporterCollect call).1 = 0 ↔
      call.answered = true ∧ reporter.results.count < testReporterMaxResults := by
  unfold testReporterCollect CollectCall.answered
  rw [Bool.and_eq_true, decide_eq_true_iff, ← Option.ne_none_iff_isSome]
  split_ifs with hname hcode hroom
  · simp [hname]
  · simp [hcode]
  · exact iff_of_true rfl ⟨⟨hname, not_not.mp hcode⟩, hroom⟩
  · exact iff_of_false (by simp) fun h => hroom h.2

/-! ## Counting afresh -/

/-- How many results have a state. -/
def countState (state : TestExecutionState) (results : List TestResult) : ℕ :=
  results.countP fun result => result.state = state

/-- The summary of some results, counted afresh. -/
def recount (results : List TestResult) : TestSummary where
  totalTests := .ofNat results.length
  passedTests := .ofNat (countState .pass results)
  failedTests := .ofNat (countState .fail results)
  timeoutTests := .ofNat (countState .timeout results)
  skippedTests := .ofNat (countState .skip results)

/-- One more result has a state or not. -/
lemma countState_append (state : TestExecutionState) (results : List TestResult)
    (result : TestResult) : countState state (results ++ [result]) =
      countState state results + if result.state = state then 1 else 0 := by
  unfold countState
  rw [List.countP_append, List.countP_singleton]
  simp only [decide_eq_true_eq]

/-- Counting one more result on the way is counting afresh. -/
lemma updateSummary_recount (results : List TestResult) (result : TestResult) :
    updateSummary (recount results) result = recount (results ++ [result]) := by
  unfold recount updateSummary
  simp only [countState_append, List.length_append, List.length_singleton, UInt32.ofNat_add]
  rcases result.state with _ | _ | _ | _ | _ | _ | _
  all_goals simp

/-! ## Runs -/

/-- One call of `test_reporter_collect`. -/
def CollectStep (reporter : TestReporter) (call : CollectCall) (after : TestReporter) : Prop :=
  (reporter.testReporterCollect call).2 = after

/-- The results that a run has collected: those of its calls that returned 0. -/
def collected (tr : List (TestReporter × CollectCall)) : List TestResult :=
  tr.filterMap fun p => if (p.1.testReporterCollect p.2).1 = 0 then some p.2.result else none

/-- The results of the calls that the engine answers. -/
def answers (tr : List (TestReporter × CollectCall)) : List TestResult :=
  (tr.filter fun p => p.2.answered).map fun p => p.2.result

/-- The stored results are those of a list, and the summary is counted from them. -/
structure Recounted (results : List TestResult) (reporter : TestReporter) : Prop where
  within : reporter.results.WithinLimit
  stored : reporter.results.items = results
  summary : reporter.summary = recount reporter.results.items

/-- A new reporter has no results. -/
lemma recounted_init (cells : Vector TestResult testReporterMaxResults) :
    Recounted [] (testReporterInit cells) := ⟨Nat.zero_le _, rfl, rfl⟩

/-- A call that appends its result. -/
lemma Recounted.push {results : List TestResult} {reporter : TestReporter}
    (h : Recounted results reporter) (result : TestResult)
    (hroom : reporter.results.count < testReporterMaxResults) :
    Recounted (results ++ [result])
      ⟨reporter.results.push result hroom, updateSummary reporter.summary result⟩ := by
  refine ⟨hroom, ?_, ?_⟩
  · show (reporter.results.push result hroom).items = _
    rw [FixedTable.items_push, h.stored]
  · show updateSummary reporter.summary result = recount (reporter.results.push result hroom).items
    rw [FixedTable.items_push, h.summary, updateSummary_recount]

variable {tr : List (TestReporter × CollectCall)} {reporter : TestReporter}
  {cells : Vector TestResult testReporterMaxResults}

/-- Every run stores what it collects and counts it. -/
lemma recounted_of_run (h : Run CollectStep (testReporterInit cells) tr reporter) :
    Recounted (collected tr) reporter := by
  induction h with
  | start => exact recounted_init cells
  | @next tr before call after _ hstep ih =>
      have hcollected : collected (tr ++ [(before, call)]) = collected tr ++
          collected [(before, call)] := List.filterMap_append
      obtain rfl : (before.testReporterCollect call).2 = after := hstep
      rcases before.testReporterCollect_cases call with hrefused | ⟨hroom, happended⟩
      · have hnone : collected [(before, call)] = [] := by
          simp [collected, hrefused]
        rw [hcollected, hnone, List.append_nil, hrefused]
        exact ih
      · have hone : collected [(before, call)] = [call.result] := by
          simp [collected, happended]
        rw [hcollected, hone, happended]
        exact ih.push call.result hroom

/-- **What a run collects** are the results of its answered calls, as many as there is room for. -/
theorem collected_eq_take (h : Run CollectStep (testReporterInit cells) tr reporter) :
    collected tr = (answers tr).take testReporterMaxResults := by
  induction h with
  | start => rfl
  | @next tr before call after hrun hstep ih =>
      have hcollected : collected (tr ++ [(before, call)]) = collected tr ++
          collected [(before, call)] := List.filterMap_append
      have hanswers : answers (tr ++ [(before, call)]) = answers tr ++ answers [(before, call)] := by
        unfold answers
        rw [List.filter_append, List.map_append]
      have hbefore := recounted_of_run hrun
      have hcount : before.results.count = (collected tr).length := by
        rw [← hbefore.stored, hbefore.within.length_items]
      have hzero := testReporterCollect_eq_zero_iff before call
      rw [hcount, ih, List.length_take] at hzero
      rw [hcollected, hanswers, List.take_append, ← ih, List.append_cancel_left_eq]
      rcases hanswered : call.answered with _ | _
      · simp [collected, answers, hzero, hanswered]
      · by_cases hroom : (answers tr).length < testReporterMaxResults
        · obtain ⟨room, hroom'⟩ : ∃ room, testReporterMaxResults - (answers tr).length = room + 1 :=
            ⟨testReporterMaxResults - (answers tr).length - 1, by omega⟩
          have hcollects := hzero.mpr ⟨hanswered, by omega⟩
          rw [hroom']
          simp [collected, answers, hcollects, hanswered]
        · have hfull : testReporterMaxResults - (answers tr).length = 0 := by omega
          have hrefuses : ¬ (before.testReporterCollect call).1 = 0 := fun h =>
            absurd (hzero.mp h).2 (by omega)
          rw [hfull]
          simp [collected, hrefuses]

/-- What a reporter holds that has collected some results. -/
structure SummaryExact (results : List TestResult) (reporter : TestReporter) : Prop where
  bounded : reporter.results.count ≤ testReporterMaxResults
  stored : reporter.results.items = results
  total : reporter.summary.totalTests.toNat = reporter.results.count
  passed : reporter.summary.passedTests.toNat = countState .pass reporter.results.items
  failed : reporter.summary.failedTests.toNat = countState .fail reporter.results.items
  timedOut : reporter.summary.timeoutTests.toNat = countState .timeout reporter.results.items
  skipped : reporter.summary.skippedTests.toNat = countState .skip reporter.results.items

/-- The counters are far from their limit. -/
lemma Recounted.summaryExact {results : List TestResult} (h : Recounted results reporter) :
    SummaryExact results reporter := by
  have hlength := h.within.length_items
  have hwithin : reporter.results.count ≤ 128 := h.within
  have hcount (state : TestExecutionState) : (UInt32.ofNat
      (countState state reporter.results.items)).toNat =
        countState state reporter.results.items := by
    have hle : countState state reporter.results.items ≤ reporter.results.items.length :=
      List.countP_le_length
    apply UInt32.toNat_ofNat_of_lt'
    show _ < 4294967296
    omega
  refine ⟨h.within, h.stored, ?_, ?_, ?_, ?_, ?_⟩
  · rw [h.summary, ← hlength]
    apply UInt32.toNat_ofNat_of_lt'
    show _ < 4294967296
    omega
  all_goals
    rw [h.summary]
    exact hcount _

/-- **The summary of a report.** In every state that any calls of `test_reporter_collect` reach,
whatever the engine answers them, the stored results are those collected, in order, the summary is
their recount, and a call that returns -1 changes nothing.
Source: `services/test-reporter.c`, `test_reporter_collect` -/
theorem summaryExact_of_run (h : Run CollectStep (testReporterInit cells) tr reporter) :
    SummaryExact (collected tr) reporter ∧ ∀ call,
      (reporter.testReporterCollect call).1 = -1 →
        (reporter.testReporterCollect call).2 = reporter := by
  refine ⟨(recounted_of_run h).summaryExact, fun call hcode => ?_⟩
  rcases reporter.testReporterCollect_cases call with hrefused | ⟨hroom, happended⟩
  · rw [hrefused]
  · rw [happended] at hcode
    cases hcode

/-- A test that passed. -/
def passedTest : TestResult := ⟨.empty _, .pass, 0, 5⟩

/-- A reporter that has collected it. -/
def onePassed : TestReporter :=
  ((testReporterInit (.replicate _ passedTest)).testReporterCollect
    ⟨some (cstr "led"), 0, passedTest⟩).2

/-- It holds the one result after a call for a test that the engine does not know. -/
theorem summaryExact_of_run_twoCalls : SummaryExact [passedTest]
    (onePassed.testReporterCollect ⟨some (cstr "fan"), -1, passedTest⟩).2 := by
  have hled : CollectStep (testReporterInit (.replicate _ passedTest))
    ⟨some (cstr "led"), 0, passedTest⟩ onePassed := rfl
  have hfan : CollectStep onePassed ⟨some (cstr "fan"), -1, passedTest⟩ _ := rfl
  exact (summaryExact_of_run ((Run.start.next hled).next hfan)).1

end TestReporter

end HardwareTest
