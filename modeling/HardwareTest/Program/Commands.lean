import HardwareTest.Program.EngineService
import HardwareTest.Validation.RunAll

/-!
# The commands: `main.c`

`run_test` and `run_all_tests` as programs of the main thread.

* `registerValidation`, `registerAllValidations`: `validation_system_register` and its loop, with
  the registration as an operation of the engine; against an inert one they are those of the
  validation system (`eval_registerAllValidations_eq`).
* `waitForResult`: the polling of `wait_for_test_result`.
* `runTest`, `runAllCommand`: the commands, with what they print.
* `eval_runTest`, `eval_runAllCommand`: with an inert engine, and so with none, every command says
  that it ran nothing.
-/

namespace HardwareTest

open Lib

/-! ## Waiting -/

/-- The attempts that are left. -/
def pollResult (name : CString) : ℕ → EngineClient (Option TestResult)
  | 0 => pure none
  | attempts + 1 => do
      let result ← EngineClient.getResult name
      match result.filter fun result => decide result.Finished with
      | some result => pure (some result)
      | none => pollResult name attempts

/-- Source: `main.c`, `wait_for_test_result` -/
def waitForResult (name : CString) : EngineClient (Option TestResult) :=
  pollResult name waitAttempts

/-- Source: `main.c`, `result_state_name` -/
def resultStateName : TestExecutionState → CString
  | .pass => cstr "PASS"
  | .fail => cstr "FAIL"
  | .skip => cstr "SKIP"
  | .timeout => cstr "TIMEOUT"
  | _ => cstr "UNKNOWN"

/-- What `run_test` prints. Source: `main.c`, `run_test` -/
inductive RunMessage
  | unavailable (name : CString)
  | notImplemented (name : CString)
  | unable (name : CString)
  | verdict (name : CString) (state : CString) (executionTimeMs : UInt32)

/-! ## The commands -/

section commands

variable (cfgMan : ConfigManager) (testManager : TestManager) (functionManager : FunctionManager)
  (system : ValidationSystem) (engineExists : Bool)

/-- Source: `validation/validation-system.c`, `validation_system_register` -/
def registerValidation (name : CString) : EngineClient ℤ :=
  match testManager.getTest name with
  | none => pure (-1)
  | some test =>
    if !functionManager.isAvailable test.function.chars then pure (-1)
    else match functionManager.getFunction test.function.chars with
    | none => pure (-1)
    | some _ =>
      match system.getDescriptor name with
      | none => pure (-1)
      | some descriptor =>
        if !engineExists then pure (-1)
        else match descriptor.ops with
        | none => pure (-1)
        | some ops => EngineClient.register name descriptor.context ops

/-- Source: `validation/validation-system.c`, `validation_system_register_all` -/
def registerAllValidations : EngineClient ℤ := do
  testManager.tests.items.foldlM (fun _ test => do
    let _ ← registerValidation testManager functionManager system engineExists
      test.definition.name.chars
    pure ()) ()
  pure 0

/-- The loop of `test_engine_execute_all`: at most as many rounds as `tests[MAX_TESTS]` has
cells. -/
def executeFrom : ℕ → ℕ → EngineClient Unit
  | 0, _ => pure ()
  | rounds + 1, index => do
      match ← EngineClient.testName index with
      | none => pure ()
      | some name => do
          let _ ← EngineClient.execute name
          executeFrom rounds (index + 1)

/-- Source: `services/test-engine.c`, `test_engine_execute_all` -/
def testEngineExecuteAll : EngineClient ℤ :=
  if !engineExists then pure (-1)
  else do
    executeFrom maxTests 0
    pure 0

/-- The return code with the message. Source: `main.c`, `run_test` -/
def runTest (test : TestDef) : EngineClient (ℤ × RunMessage) :=
  let name := test.name.chars
  if !testManager.testIsAvailable name then pure (-1, .unavailable name)
  else if !system.isImplemented name then pure (-1, .notImplemented name)
  else do
    let registered ← registerValidation testManager functionManager system engineExists name
    if registered ≠ 0 then pure (-1, .unable name)
    else
      let executed ← EngineClient.execute name
      if executed ≠ 0 then pure (-1, .unable name)
      else
        match ← waitForResult name with
        | none => pure (-1, .unable name)
        | some result =>
            pure (if result.state = .pass then 0 else -1,
              .verdict result.name.chars (resultStateName result.state) result.executionTimeMs)

/-- One pass of the loop. Source: `main.c`, `run_all_tests` -/
def runAllRound (s : RunSummary) (index : ℕ) : EngineClient RunSummary :=
  match cfgMan.getTestByIndex index with
  | none => pure { s with failed := s.failed + 1 }
  | some test =>
      if !testManager.testIsAvailable test.name.chars || !system.isImplemented test.name.chars then
        pure { s with lines := s.lines ++ [(test.name, .skip)], skipped := s.skipped + 1 }
      else do
        match ← waitForResult test.name.chars with
        | none => pure { s with lines := s.lines ++ [(test.name, .fail)], failed := s.failed + 1 }
        | some result =>
            if result.state ≠ .pass then
              pure { s with lines := s.lines ++ [(test.name, .fail)], failed := s.failed + 1 }
            else
              pure { s with
                lines := s.lines ++ [(result.name, .pass result.executionTimeMs)]
                passed := s.passed + 1 }

/-- The return code with the summary, which is printed unless registration or execution fails.
Source: `main.c`, `run_all_tests` -/
def runAllCommand : EngineClient (ℤ × Option RunSummary) := do
  let registered ← registerAllValidations testManager functionManager system engineExists
  if registered ≠ 0 then pure (-1, none)
  else
    let executed ← testEngineExecuteAll engineExists
    if executed ≠ 0 then pure (-1, none)
    else
      let s ← (List.range cfgMan.getTestCount).foldlM (runAllRound cfgMan testManager system) .zero
      pure (if s.failed = 0 then 0 else -1, some s)

end commands

/-! ## What is said of a test that was not run -/

/-- The message is not about a result. -/
def RunMessage.Refuses : RunMessage → Prop
  | .verdict .. => False
  | _ => True

/-- The summary has no passed test, in its counter and in its lines. -/
structure RunSummary.PassesNone (s : RunSummary) : Prop where
  passed : s.passed = 0
  lines : ∀ line ∈ s.lines, ∀ executionTimeMs, line.2 ≠ .pass executionTimeMs

section silent

variable {cfgMan : ConfigManager} (testManager : TestManager) (system : ValidationSystem)

/-- What `run_test` says of a test without a result. -/
def refusal (test : TestDef) : RunMessage :=
  if !testManager.testIsAvailable test.name.chars then .unavailable test.name.chars
  else if !system.isImplemented test.name.chars then .notImplemented test.name.chars
  else .unable test.name.chars

lemma refusal_refuses (test : TestDef) : (refusal testManager system test).Refuses := by
  unfold refusal
  split_ifs
  · trivial
  · trivial
  · trivial

/-- The summary of tests without results: the runnable ones fail, the others are skipped. -/
def unrunSummary (tests : List TestDef) : RunSummary where
  lines := tests.map fun test =>
    (test.name, if runnableTest testManager system test then .fail else .skip)
  passed := 0
  failed := tests.countP (runnableTest testManager system)
  skipped := tests.countP fun test => !runnableTest testManager system test

lemma unrunSummary_passesNone (tests : List TestDef) :
    (unrunSummary testManager system tests).PassesNone := by
  refine ⟨rfl, fun line hline executionTimeMs => ?_⟩
  obtain ⟨test, -, rfl⟩ := List.mem_map.mp hline
  simp only
  split_ifs
  · simp
  · simp

/-- Waiting for an engine without results is in vain. -/
lemma waitForTestResult_eq_none {e : TestEngine} (he : ∀ name, e.getResult name = none)
    (name : CString) : waitForTestResult (fun _ => e) name = none := by
  simp [waitForTestResult, he]

/-- **One pass** without a result adds a line. -/
lemma runRound_unrun {e : TestEngine} (he : ∀ name, e.getResult name = none) {n : ℕ}
    {test : TestDef} (htest : cfgMan.tests[n]? = some test) :
    runRound cfgMan testManager system (fun _ _ => e)
        (unrunSummary testManager system (cfgMan.tests.take n)) n =
      unrunSummary testManager system (cfgMan.tests.take (n + 1)) := by
  have htake : cfgMan.tests.take (n + 1) = cfgMan.tests.take n ++ [test] := by
    rw [List.take_add_one, htest, Option.toList_some]
  rcases runRound_cases testManager system (fun _ _ => e) htest
      (unrunSummary testManager system (cfgMan.tests.take n)) with
    ⟨hrunnable, hround⟩ | ⟨hrunnable, -, hround⟩ | ⟨-, result, hwait, -⟩
  · rw [hround, htake]
    simp [unrunSummary, hrunnable]
  · rw [hround, htake]
    simp [unrunSummary, hrunnable]
  · rw [waitForTestResult_eq_none he] at hwait
    cases hwait

/-- **All passes.** -/
lemma rounds_unrun {e : TestEngine} (he : ∀ name, e.getResult name = none) {n : ℕ}
    (hn : n ≤ cfgMan.tests.length) :
    (List.range n).foldl (runRound cfgMan testManager system fun _ _ => e) .zero =
      unrunSummary testManager system (cfgMan.tests.take n) := by
  induction n with
  | zero => rfl
  | succ n ih =>
      rw [List.range_succ, List.foldl_append, ih (by omega), List.foldl_cons, List.foldl_nil]
      exact runRound_unrun testManager system he (List.getElem?_eq_getElem hn)

/-- **Without results** the return code is 0 iff no test is runnable. -/
theorem runAllTests_of_no_result (hlim : cfgMan.testConfig.tests.WithinLimit) {e : TestEngine}
    (he : ∀ name, e.getResult name = none) :
    runAllTests cfgMan testManager system (fun _ _ => e) 0 0 =
      (if cfgMan.tests.countP (runnableTest testManager system) = 0 then 0 else -1,
        some (unrunSummary testManager system cfgMan.tests)) := by
  have hcount : cfgMan.getTestCount = cfgMan.tests.length := hlim.length_items.symm
  simp only [runAllTests, ne_eq, not_true_eq_false, or_self, if_false]
  rw [hcount, rounds_unrun testManager system he le_rfl, List.take_length]
  rfl

end silent

/-! ## Without results -/

section commands

variable {cfgMan : ConfigManager} {testManager : TestManager} {functionManager : FunctionManager}
  {system : ValidationSystem} {x : InertEngine}

/-- The registration is that of the validation system. -/
lemma eval_registerValidation (e : TestEngine) (name : CString) :
    (registerValidation testManager functionManager system true name).eval InertEngine.serve
        ⟨e.tests, x.submitted⟩ =
      ((validationSystemRegister system testManager functionManager e name).1,
        ⟨(validationSystemRegister system testManager functionManager e name).2.tests,
          x.submitted⟩) := by
  unfold registerValidation validationSystemRegister
  rcases testManager.getTest name with _ | test
  · rfl
  simp only [Bool.not_true, Bool.false_eq_true, if_false]
  split_ifs with havailable
  · rfl
  rcases functionManager.getFunction test.function.chars with _ | _
  · rfl
  rcases system.getDescriptor name with _ | ⟨_, context, _ | ops⟩
  · rfl
  · rfl
  · simp only [register_eq]
    rfl

/-- The loop over some tests. -/
lemma eval_registrations (tests : List Test) (e : TestEngine) :
    (tests.foldlM (fun _ (test : Test) => do
        let _ ← registerValidation testManager functionManager system true
          test.definition.name.chars
        pure ()) ()).eval InertEngine.serve ⟨e.tests, x.submitted⟩ =
      ((), ⟨(tests.foldl (fun e (test : Test) => (validationSystemRegister system testManager
        functionManager e test.definition.name.chars).2) e).tests, x.submitted⟩) := by
  induction tests generalizing e with
  | nil => rfl
  | cons test tests ih =>
      rw [List.foldlM_cons, Client.eval_bind, Client.eval_bind, eval_registerValidation,
        List.foldl_cons]
      exact ih _

/-- So is the registration of all tests. -/
lemma eval_registerAllValidations_eq (e : TestEngine) :
    (registerAllValidations testManager functionManager system true).eval InertEngine.serve
        ⟨e.tests, x.submitted⟩ =
      ((validationSystemRegisterAll system testManager functionManager e).1,
        ⟨(validationSystemRegisterAll system testManager functionManager e).2.tests,
          x.submitted⟩) := by
  rw [registerAllValidations, Client.eval_bind, eval_registrations]
  rfl

variable {τ : Type*} {serve : τ → (op : EngineOp) → op.Reply × τ} {y : τ}

/-- No result is ever found. -/
def Resultless (serve : τ → (op : EngineOp) → op.Reply × τ) : Prop :=
  ∀ y name, (serve y (.getResult name)).1 = none

lemma resultless_inertEngine : Resultless InertEngine.serve := fun _ _ => rfl

/-- No attempt finds a result. -/
lemma eval_pollResult (h : Resultless serve) (name : CString) (attempts : ℕ) :
    ((pollResult name attempts).eval serve y).1 = none := by
  induction attempts generalizing y with
  | zero => rfl
  | succ attempts ih =>
      have hnone : ((EngineClient.getResult name).eval serve y).1 = none := h y name
      rw [pollResult, Client.eval_bind, hnone]
      exact ih

/-- **No test is run**: the command fails, whatever is registered, and says so. -/
theorem eval_runTest (h : Resultless serve) (engineExists : Bool) (test : TestDef) :
    ((runTest testManager functionManager system engineExists test).eval serve y).1 =
      (-1, refusal testManager system test) := by
  unfold runTest refusal
  simp only
  split_ifs
  · rfl
  · rfl
  · rw [Client.eval_bind]
    split_ifs
    · rfl
    · rw [Client.eval_bind]
      split_ifs
      · rfl
      · rw [Client.eval_bind, waitForResult, eval_pollResult h]
        rfl

/-- A pass is the one that finds no result. -/
lemma eval_runAllRound (h : Resultless serve) {e : TestEngine}
    (he : ∀ name, e.getResult name = none) (s : RunSummary) (index : ℕ) :
    ((runAllRound cfgMan testManager system s index).eval serve y).1 =
      runRound cfgMan testManager system (fun _ _ => e) s index := by
  unfold runAllRound runRound
  rcases cfgMan.getTestByIndex index with _ | test
  · rfl
  simp only [waitForTestResult_eq_none he]
  split_ifs
  · rfl
  · rw [Client.eval_bind, waitForResult, eval_pollResult h]
    rfl

/-- The passes, one after the other. -/
lemma eval_rounds (h : Resultless serve) {e : TestEngine} (he : ∀ name, e.getResult name = none)
    (indices : List ℕ) (s : RunSummary) :
    ((indices.foldlM (runAllRound cfgMan testManager system) s).eval serve y).1 =
      indices.foldl (runRound cfgMan testManager system fun _ _ => e) s := by
  induction indices generalizing s y with
  | nil => rfl
  | cons index indices ih =>
      rw [List.foldlM_cons, Client.eval_bind, eval_runAllRound h he, List.foldl_cons]
      exact ih _

/-- The loop over all tests returns 0. -/
lemma eval_registerAllValidations (engineExists : Bool) :
    ((registerAllValidations testManager functionManager system engineExists).eval serve y).1 =
      0 := by
  rw [registerAllValidations, Client.eval_bind]
  rfl

/-- NULL is refused. -/
lemma eval_runAllCommand_noEngine :
    ((runAllCommand cfgMan testManager functionManager system false).eval serve y).1 =
      (-1, none) := by
  rw [runAllCommand, Client.eval_bind, eval_registerAllValidations]
  simp only [ne_eq, not_true_eq_false, if_false]
  rw [testEngineExecuteAll, Client.eval_bind]
  rfl

/-- **All tests run**: the summary is the one that finds no result. -/
theorem eval_runAllCommand (h : Resultless serve) {e : TestEngine}
    (he : ∀ name, e.getResult name = none) :
    ((runAllCommand cfgMan testManager functionManager system true).eval serve y).1 =
      runAllTests cfgMan testManager system (fun _ _ => e) 0 0 := by
  rw [runAllCommand, Client.eval_bind, eval_registerAllValidations]
  simp only [ne_eq, not_true_eq_false, if_false]
  rw [testEngineExecuteAll, Client.eval_bind]
  simp only [Bool.not_true, Bool.false_eq_true, if_false, Client.eval_bind, Client.eval_pure,
    not_true_eq_false, eval_rounds h he]
  simp only [runAllTests, ne_eq, not_true_eq_false, or_self, if_false]

end commands

end HardwareTest
