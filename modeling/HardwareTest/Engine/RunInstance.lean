import HardwareTest.Engine.State

/-!
# Running an instance, with its callbacks

`Engine/State.lean` reduces a run to what `setup` and `execute` return. Here the callbacks are code
that changes the private context of the test and returns a value, and the run keeps a record of the
calls it makes.

* `testEngineRunInstance`: the function with its three callbacks, any of which may be NULL.
  `testEngineRunInstance_inst` says that the instance ends as the shorter description says.
* `calls_testEngineRunInstance`: which callbacks are called, in which order, and what they return.
* `LifecycleKept`: the lifecycle that the header of `test_operations_t` draws, with a verdict at the
  end of it; `lifecycleKept_iff` says which runs come to a verdict.
-/

namespace HardwareTest

/-- The members of `test_operations_t`. -/
inductive Callback
  | setup | execute | cleanup
deriving DecidableEq

/-- A call of a callback and the value it returned. -/
structure CallbackCall where
  callback : Callback
  code : ℤ
deriving DecidableEq

/-- What the code at an address does with the private context of a test. -/
abbrev CallbackCode (γ : Type*) := Address → γ → ℤ × γ

/-- An instance during its run: the instance, the private context and the calls made so far. -/
structure InstanceRun (γ : Type*) where
  inst : TestInstance
  context : γ
  calls : List CallbackCall

variable {γ : Type*}

namespace InstanceRun

/-- Call a callback on the private context. -/
def call (code : CallbackCode γ) (callback : Callback) (f : Address) (s : InstanceRun γ) :
    ℤ × InstanceRun γ :=
  let r := code f s.context
  (r.1, { s with context := r.2, calls := s.calls ++ [⟨callback, r.1⟩] })

/-- `instance->result.state = state`. -/
def setState (state : TestExecutionState) (s : InstanceRun γ) : InstanceRun γ :=
  { s with inst := { s.inst with result := { s.inst.result with state := state } } }

/-- The first callback; `result` is `-1` before it. -/
def setup (code : CallbackCode γ) (operations : TestOperations) (s : InstanceRun γ) :
    ℤ × InstanceRun γ :=
  match operations.setup with
  | none => (-1, s)
  | some f => s.call code .setup f

/-- The second callback, unless the first one failed; `result` is what that returned. -/
def execute (code : CallbackCode γ) (operations : TestOperations) (result : ℤ)
    (s : InstanceRun γ) : ℤ × InstanceRun γ :=
  if operations.setup.isSome ∧ result ≠ 0 then (result, s.setState .fail)
  else match operations.execute with
    | none => (result, s)
    | some f =>
        let r := s.call code .execute f
        (r.1, r.2.setState (if r.1 = 0 then .pass else .fail))

/-- The third callback, whose value is dropped. -/
def cleanup (code : CallbackCode γ) (operations : TestOperations) (s : InstanceRun γ) :
    InstanceRun γ :=
  match operations.cleanup with
  | none => s
  | some f => (s.call code .cleanup f).2

end InstanceRun

/-- A run of an instance; `startMs` and `stopMs` are the two values of `get_time_ms`.
Source: `services/test-engine.c`, `test_engine_run_instance` -/
def testEngineRunInstance (code : CallbackCode γ) (startMs stopMs : UInt64)
    (operations : TestOperations) (s : InstanceRun γ) : InstanceRun γ :=
  let s := { s with inst :=
    { s.inst with context := { s.inst.context with startTimeMs := startMs } } }
  let r := s.setup code operations
  let r := r.2.execute code operations r.1
  let s := r.2.cleanup code operations
  { s with inst := { s.inst with
    result := { s.inst.result with
      result := r.1
      executionTimeMs := (stopMs - s.inst.context.startTimeMs).toUInt32 }
    running := false } }

/-! ## What a run does -/

section run

variable (code : CallbackCode γ) (operations : TestOperations) (context : γ)

/-- `setup` is called and returns something other than 0. -/
def setupFailed : Bool := operations.setup.any fun f => decide ((code f context).1 ≠ 0)

/-- The context that `execute` gets. -/
def contextAfterSetup : γ := (operations.setup.map fun f => (code f context).2).getD context

/-- The call of `setup`, if there is one. -/
def setupCalls : List CallbackCall :=
  operations.setup.toList.map fun f => ⟨.setup, (code f context).1⟩

/-- The call of `cleanup`, if there is one, with the value that is dropped. -/
def cleanupCalls (dropped : ℤ) : List CallbackCall :=
  operations.cleanup.toList.map fun _ => ⟨.cleanup, dropped⟩

end run

variable {code : CallbackCode γ} {operations : TestOperations}

/-- The first callback. -/
lemma InstanceRun.setup_eq (s : InstanceRun γ) :
    s.setup code operations =
      ((operations.setup.map fun f => (code f s.context).1).getD (-1),
        { s with
          context := contextAfterSetup code operations s.context
          calls := s.calls ++ setupCalls code operations s.context }) := by
  unfold InstanceRun.setup contextAfterSetup setupCalls
  rcases operations.setup with _ | f
  · simp
  · rfl

/-- The third callback changes the context and adds its call. -/
lemma InstanceRun.cleanup_eq (code : CallbackCode γ) (operations : TestOperations)
    (s : InstanceRun γ) :
    ∃ context dropped, s.cleanup code operations =
      { s with context := context, calls := s.calls ++ cleanupCalls operations dropped } := by
  unfold InstanceRun.cleanup cleanupCalls
  rcases operations.cleanup with _ | f
  · exact ⟨s.context, 0, by simp⟩
  · exact ⟨_, _, rfl⟩

/-- **What a run can come to**: `setup` fails, or `execute` is called, or there is no `execute`;
`cleanup` is called at the end in any case. -/
inductive RunEnds (code : CallbackCode γ) (operations : TestOperations) (s : InstanceRun γ) :
    InstanceRun γ → Prop
  | failed (r : InstanceRun γ) (f : Address) (dropped : ℤ) (hsetup : operations.setup = some f)
      (hcode : (code f s.context).1 ≠ 0)
      (hcalls : r.calls = setupCalls code operations s.context ++ cleanupCalls operations dropped)
      (hstate : r.inst.result.state = .fail)
      (hresult : r.inst.result.result = (code f s.context).1) : RunEnds code operations s r
  | executed (r : InstanceRun γ) (f : Address) (dropped : ℤ)
      (hsetup : setupFailed code operations s.context = false)
      (hexecute : operations.execute = some f)
      (hcalls : r.calls = setupCalls code operations s.context ++
        [⟨.execute, (code f (contextAfterSetup code operations s.context)).1⟩] ++
          cleanupCalls operations dropped)
      (hstate : r.inst.result.state =
        if (code f (contextAfterSetup code operations s.context)).1 = 0 then .pass else .fail)
      (hresult : r.inst.result.result =
        (code f (contextAfterSetup code operations s.context)).1) : RunEnds code operations s r
  | skipped (r : InstanceRun γ) (dropped : ℤ)
      (hsetup : setupFailed code operations s.context = false)
      (hexecute : operations.execute = none)
      (hcalls : r.calls = setupCalls code operations s.context ++ cleanupCalls operations dropped)
      (hstate : r.inst.result.state = s.inst.result.state) : RunEnds code operations s r

/-- `goto cleanup` is taken exactly when `setup` was called and returned something other than 0. -/
lemma skips_execute_iff (code : CallbackCode γ) (operations : TestOperations) (context : γ) :
    (operations.setup.isSome = true ∧
        (operations.setup.map fun f => (code f context).1).getD (-1) ≠ 0) ↔
      setupFailed code operations context = true := by
  unfold setupFailed
  rcases operations.setup with _ | f
  · simp
  · simp

/-- **A run ends** in one of the three ways.
Source: `services/test-engine.c`, `test_engine_run_instance` -/
theorem testEngineRunInstance_ends (code : CallbackCode γ) (operations : TestOperations)
    (startMs stopMs : UInt64) {s : InstanceRun γ}
    (hcalls : s.calls = []) :
    RunEnds code operations s (testEngineRunInstance code startMs stopMs operations s) := by
  unfold testEngineRunInstance
  simp only [InstanceRun.setup_eq, hcalls, List.nil_append]
  unfold InstanceRun.execute
  rcases hfailed : setupFailed code operations s.context with _ | _
  · have hgo : ¬ (operations.setup.isSome = true ∧
        (operations.setup.map fun f => (code f s.context).1).getD (-1) ≠ 0) := by
      rw [skips_execute_iff, hfailed]
      simp
    simp only [if_neg hgo]
    rcases hexecute : operations.execute with _ | f
    · simp only
      obtain ⟨context, dropped, hcleanup⟩ := InstanceRun.cleanup_eq code operations _
      rw [hcleanup]
      exact .skipped _ dropped hfailed hexecute rfl rfl
    · simp only
      obtain ⟨context, dropped, hcleanup⟩ := InstanceRun.cleanup_eq code operations _
      rw [hcleanup]
      exact .executed _ f dropped hfailed hexecute rfl rfl rfl
  · have hskip := (skips_execute_iff code operations s.context).mpr hfailed
    simp only [if_pos hskip]
    obtain ⟨context, dropped, hcleanup⟩ := InstanceRun.cleanup_eq code operations _
    rw [hcleanup]
    unfold setupFailed at hfailed
    rw [Option.any_eq_true] at hfailed
    obtain ⟨f, hsetup, hcode⟩ := hfailed
    refine .failed _ f dropped hsetup (of_decide_eq_true hcode) rfl rfl ?_
    simp only [hsetup]
    rfl

/-- `cleanup` does not touch the instance. -/
lemma InstanceRun.cleanup_inst (code : CallbackCode γ) (operations : TestOperations)
    (s : InstanceRun γ) : (s.cleanup code operations).inst = s.inst := by
  obtain ⟨context, dropped, hcleanup⟩ := s.cleanup_eq code operations
  rw [hcleanup]

/-- **The instance** ends as the description without callbacks says, for what the callbacks return.
-/
theorem testEngineRunInstance_inst (code : CallbackCode γ) (operations : TestOperations)
    (startMs stopMs : UInt64) (s : InstanceRun γ) :
    (testEngineRunInstance code startMs stopMs operations s).inst =
      (s.inst.start ⟨startMs, 0, 0⟩).finish operations
        ⟨stopMs, (operations.setup.map fun f => (code f s.context).1).getD (-1),
          (operations.execute.map fun f =>
            (code f (contextAfterSetup code operations s.context)).1).getD 0⟩ := by
  unfold testEngineRunInstance TestInstance.finish runOutcome
  simp only [InstanceRun.setup_eq, InstanceRun.cleanup_inst]
  unfold InstanceRun.execute
  by_cases hskip : operations.setup.isSome = true ∧
      (operations.setup.map fun f => (code f s.context).1).getD (-1) ≠ 0
  · simp only [if_pos hskip]
    rfl
  · simp only [if_neg hskip]
    rcases hexecute : operations.execute with _ | f
    · rcases hsetup : operations.setup with _ | g
      · rfl
      · rfl
    · rfl

/-! ## The lifecycle -/

/-- **The lifecycle**: `setup`, then `execute` only if `setup` is NULL or returned 0, then `cleanup`
last; the run ends with PASS or FAIL, with PASS exactly when `execute` was called and returned 0,
and the code is 0 exactly then. -/
structure LifecycleKept (operations : TestOperations) (r : InstanceRun γ) : Prop where
  order : r.calls.map CallbackCall.callback =
    (if operations.setup.isSome then [.setup] else []) ++
    (if operations.execute.isSome ∧ (operations.setup = none ∨ ⟨.setup, 0⟩ ∈ r.calls) then
      [.execute] else []) ++
    (if operations.cleanup.isSome then [.cleanup] else [])
  ended : r.inst.result.state = .pass ∨ r.inst.result.state = .fail
  passed : r.inst.result.state = .pass ↔ ⟨.execute, 0⟩ ∈ r.calls
  code : r.inst.result.result = 0 ↔ r.inst.result.state = .pass

/-- The callbacks of the calls around `execute`. -/
lemma map_callback_setupCalls (context : γ) :
    (setupCalls code operations context).map CallbackCall.callback =
      if operations.setup.isSome then [.setup] else [] := by
  unfold setupCalls
  rcases operations.setup with _ | f
  · rfl
  · rfl

/-- The callbacks of the calls around `execute`. -/
lemma map_callback_cleanupCalls (dropped : ℤ) :
    (cleanupCalls operations dropped).map CallbackCall.callback =
      if operations.cleanup.isSome then [.cleanup] else [] := by
  unfold cleanupCalls
  rcases operations.cleanup with _ | f
  · rfl
  · rfl

/-- What is called before `execute` is `setup`. -/
lemma callback_of_mem_setupCalls {context : γ} {c : CallbackCall}
    (h : c ∈ setupCalls code operations context) : c.callback = .setup := by
  obtain ⟨f, -, rfl⟩ := List.mem_map.mp h
  rfl

/-- What is called behind `execute` is `cleanup`. -/
lemma callback_of_mem_cleanupCalls {dropped : ℤ} {c : CallbackCall}
    (h : c ∈ cleanupCalls operations dropped) : c.callback = .cleanup := by
  obtain ⟨f, -, rfl⟩ := List.mem_map.mp h
  rfl

/-- `setup` is NULL or has returned 0 exactly when it has not failed. -/
lemma setup_passed_iff (code : CallbackCode γ) (operations : TestOperations) (context : γ)
    {rest : List CallbackCall}
    (hrest : ∀ c ∈ rest, c.callback ≠ .setup) :
    (operations.setup = none ∨ ⟨.setup, 0⟩ ∈ setupCalls code operations context ++ rest) ↔
      setupFailed code operations context = false := by
  have hnot : (⟨.setup, 0⟩ : CallbackCall) ∉ rest := fun h => hrest _ h rfl
  unfold setupCalls setupFailed
  rcases operations.setup with _ | f
  · simp
  · simp only [hnot, List.mem_append, or_false, reduceCtorEq, false_or, Option.toList_some,
      List.map_singleton, List.mem_singleton, CallbackCall.mk.injEq, true_and, Option.any_some,
      decide_eq_false_iff_not, not_not]
    exact eq_comm

section kept

variable {s r : InstanceRun γ}

/-- A run whose `setup` fails keeps the lifecycle. -/
lemma lifecycleKept_of_failed {dropped : ℤ} (hfailed : setupFailed code operations s.context = true)
    (hcalls : r.calls = setupCalls code operations s.context ++ cleanupCalls operations dropped)
    (hstate : r.inst.result.state = .fail) (hresult : r.inst.result.result ≠ 0) :
    LifecycleKept operations r := by
  have hrest : ∀ c ∈ cleanupCalls operations dropped, c.callback ≠ .setup := by
    intro c hc
    rw [callback_of_mem_cleanupCalls hc]
    nofun
  have hnoExecute : ⟨.execute, 0⟩ ∉ r.calls := by
    rw [hcalls]
    intro hmem
    rcases List.mem_append.mp hmem with hc | hc
    · exact absurd (callback_of_mem_setupCalls hc) nofun
    · exact absurd (callback_of_mem_cleanupCalls hc) nofun
  refine ⟨?_, .inr hstate, ?_, ?_⟩
  · have hskipped := setup_passed_iff code operations s.context hrest
    rw [hfailed, ← hcalls] at hskipped
    have hmap := congrArg (List.map CallbackCall.callback) hcalls
    rw [List.map_append, map_callback_setupCalls, map_callback_cleanupCalls] at hmap
    simp [hmap, hskipped]
  · rw [hstate]
    exact iff_of_false nofun hnoExecute
  · rw [hstate]
    exact iff_of_false hresult nofun

/-- A run that calls `execute`, which returns `result`, keeps the lifecycle. -/
lemma lifecycleKept_of_executed {dropped result : ℤ}
    (hpassed : setupFailed code operations s.context = false)
    (hexecute : operations.execute.isSome = true)
    (hcalls : r.calls = setupCalls code operations s.context ++ [⟨.execute, result⟩] ++
      cleanupCalls operations dropped)
    (hstate : r.inst.result.state = if result = 0 then .pass else .fail)
    (hresult : r.inst.result.result = result) : LifecycleKept operations r := by
  have hrest : ∀ c ∈ [⟨.execute, result⟩] ++ cleanupCalls operations dropped,
      c.callback ≠ .setup := by
    intro c hc
    rcases List.mem_append.mp hc with hc | hc
    · rw [List.mem_singleton.mp hc]
      nofun
    · rw [callback_of_mem_cleanupCalls hc]
      nofun
  have hmem : ⟨.execute, 0⟩ ∈ r.calls ↔ result = 0 := by
    rw [hcalls]
    constructor
    · intro hmem
      rcases List.mem_append.mp hmem with hmem | hc
      · rcases List.mem_append.mp hmem with hc | hc
        · exact absurd (callback_of_mem_setupCalls hc) nofun
        · rw [List.mem_singleton, CallbackCall.mk.injEq] at hc
          exact hc.2.symm
      · exact absurd (callback_of_mem_cleanupCalls hc) nofun
    · rintro rfl
      simp
  refine ⟨?_, ?_, ?_, ?_⟩
  · have hcalled := setup_passed_iff code operations s.context hrest
    rw [hpassed, ← List.append_assoc, ← hcalls] at hcalled
    have hmap := congrArg (List.map CallbackCall.callback) hcalls
    rw [List.map_append, List.map_append, map_callback_setupCalls,
      map_callback_cleanupCalls] at hmap
    simp [hmap, hcalled, hexecute]
  · rw [hstate]
    split_ifs
    · exact .inl rfl
    · exact .inr rfl
  · rw [hmem, hstate]
    split_ifs with hzero
    · exact iff_of_true rfl hzero
    · exact iff_of_false nofun hzero
  · rw [hresult, hstate]
    split_ifs with hzero
    · exact iff_of_true hzero rfl
    · exact iff_of_false hzero nofun

/-- A run that starts QUEUED keeps the lifecycle unless it skips `execute`. -/
lemma RunEnds.verdict_iff (h : RunEnds code operations s r)
    (hqueued : s.inst.result.state = .queued) :
    LifecycleKept operations r ↔
      operations.execute.isSome = true ∨ setupFailed code operations s.context = true := by
  rcases h with ⟨f, dropped, hsetup, hcode, hcalls, hstate, hresult⟩ |
    ⟨f, dropped, hpassed, hexecute, hcalls, hstate, hresult⟩ |
    ⟨dropped, hpassed, hexecute, hcalls, hstate⟩
  · have hfailed : setupFailed code operations s.context = true := by
      unfold setupFailed
      simpa [hsetup] using hcode
    exact iff_of_true (lifecycleKept_of_failed hfailed hcalls hstate (hresult ▸ hcode))
      (.inr hfailed)
  · have hsome : operations.execute.isSome = true := by
      rw [hexecute]
      rfl
    exact iff_of_true (lifecycleKept_of_executed hpassed hsome hcalls hstate hresult) (.inl hsome)
  · refine iff_of_false ?_ (by simp [hexecute, hpassed])
    rintro ⟨-, hended, -, -⟩
    rw [hstate, hqueued] at hended
    rcases hended with hended | hended
    · cases hended
    · cases hended

end kept

/-- **The lifecycle is kept** exactly when the operations have an `execute`, or `setup` fails. In
the remaining case the state stays QUEUED.
Source: `services/test-engine.c`, `test_engine_run_instance` -/
theorem lifecycleKept_iff (code : CallbackCode γ) (startMs stopMs : UInt64)
    (operations : TestOperations) {inst : TestInstance} (hqueued : inst.result.state = .queued)
    (context : γ) :
    LifecycleKept operations
        (testEngineRunInstance code startMs stopMs operations ⟨inst, context, []⟩) ↔
      operations.execute.isSome = true ∨ setupFailed code operations context = true :=
  (testEngineRunInstance_ends code operations startMs stopMs rfl).verdict_iff hqueued

/-- A queued instance. -/
def queuedInstance : TestInstance :=
  { TestInstance.zeroed with result := { TestInstance.zeroed.result with state := .queued } }

/-- All three callbacks are set, and `execute` returns the number that `setup` left in the
context. -/
theorem lifecycleKept_threeCallbacks :
    LifecycleKept ⟨some 16, some 32, some 48⟩
      (testEngineRunInstance (fun f (n : ℤ) => if f = 16 then (0, 5) else (n, n)) 100 250
        ⟨some 16, some 32, some 48⟩ ⟨queuedInstance, 0, []⟩) :=
  (lifecycleKept_iff _ 100 250 ⟨some 16, some 32, some 48⟩ rfl 0).mpr (.inl rfl)

/-- Without `execute` the run ends as it began: QUEUED, with the code 0 that `setup` returned. -/
theorem noExecute_staysQueued :
    ¬ LifecycleKept ⟨some 16, none, some 48⟩
      (testEngineRunInstance (fun _ (n : ℤ) => (0, n)) 100 250 ⟨some 16, none, some 48⟩
        ⟨queuedInstance, 0, []⟩) := by
  rintro ⟨-, hended, -, -⟩
  rcases hended with hended | hended
  · cases hended
  · cases hended

end HardwareTest
