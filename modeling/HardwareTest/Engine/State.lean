import HardwareTest.Services.TestManager
import HardwareTest.Services.ResourceManager
import HardwareTest.Services.TestScheduler
import HardwareTest.Lib.Ring

/-!
# The test engine: `services/test-engine.c`, data and functions

* A `test_instance_t` lives in a slot of the engine's `instances` array or in the stack frame of a
  `test_engine_execute` call (`InstancePtr`). What a pointer into a frame refers to after the call
  has returned is undefined in C; here every call has a frame of its own whose contents stay, the
  reading that favours the code most.
* `memory` is the contents of every instance. An `entry` pointer is the index into
  `tests[MAX_TESTS]`, and the other pointers of a context or an entry are addresses.
* The interleaving of the workers and of the caller is in `Engine/Step.lean`.
-/

namespace HardwareTest

open Lib

abbrev testEngineQueueSize : ℕ := 128

/-- The execution queue has a first slot. -/
lemma testEngineQueueSize_pos : 0 < testEngineQueueSize := by decide

-- with the zero of the numerals of `Fin`
instance : @NeZero ℕ Zero.ofOfNat0 testEngineQueueSize := ⟨by decide⟩

/-- A pointer to something the engine only passes on. -/
abbrev Address := ℕ

/-- Source: `services/test-engine.h`, `test_execution_state_e` -/
inductive TestExecutionState
  | idle | queued | running | pass | fail | timeout | skip
deriving DecidableEq

/-- Callbacks may be NULL. Source: `services/test-operation.h`, `test_operations_t` -/
structure TestOperations where
  setup : Option Address
  execute : Option Address
  cleanup : Option Address
deriving DecidableEq

/-- Source: `services/test-engine.h`, `test_entry_t` -/
structure TestEntry where
  name : CharBuf testNameLength
  operations : TestOperations
  timeoutMs : UInt32
  privateData : Option Address

/-- Source: `services/test-engine.h`, `test_context_t` -/
structure TestContext where
  deviceManager : Option Address
  functionManager : Option Address
  testName : CharBuf testNameLength
  timeoutMs : UInt32
  startTimeMs : UInt64

/-- Source: `services/test-engine.h`, `test_result_t` -/
structure TestResult where
  name : CharBuf testNameLength
  state : TestExecutionState
  result : ℤ
  executionTimeMs : UInt32

/-- Source: `services/test-engine.h`, `test_instance_t` -/
structure TestInstance where
  entry : Option ℕ
  context : TestContext
  result : TestResult
  running : Bool

/-- The instance `memset` leaves. -/
def TestInstance.zeroed : TestInstance where
  entry := none
  context := ⟨none, none, .empty _, 0, 0⟩
  result := ⟨.empty _, .idle, 0, 0⟩
  running := false

/-- The entry `memset` leaves. -/
def TestEntry.zeroed : TestEntry := ⟨.empty _, ⟨none, none, none⟩, 0, none⟩

/-- A `test_instance_t *`: `&test_engine->instances[i]`, or the local variable of the `k`-th
`test_engine_execute` call. -/
inductive InstancePtr
  | slot (i : ℕ)
  | frame (k : ℕ)
deriving DecidableEq

/-- Source: `services/test-engine.c`, `test_engine_t` -/
structure TestEngine where
  testManager : TestManager
  scheduler : TestScheduler InstancePtr
  resourceManager : ResourceManager InstancePtr
  running : Bool
  executionQueue : Ring (Option InstancePtr) testEngineQueueSize
  tests : FixedTable TestEntry maxTests
  memory : InstancePtr → TestInstance
  instanceCount : UInt32

namespace TestEngine

variable (e : TestEngine)

/-! ## Reading -/

/-- `instance->entry->name`; a NULL entry, which no caller dereferences, reads as no name. -/
def entryName (p : InstancePtr) : CString :=
  match (e.memory p).entry.bind e.tests.get? with
  | some entry => entry.name.chars
  | none => []

/-- The function of an instance as `test_scheduler_check_resource` looks it up; the buffer stays
zeroed when the test manager does not know the test. -/
def functionName (p : InstancePtr) : CString :=
  match e.testManager.getFunctionName (e.entryName p) with
  | some function => function.chars
  | none => []

/-- Whether the resources of an instance are free.
Source: `services/test-scheduler.c`, `test_scheduler_check_resource` -/
def checkResource (p : InstancePtr) : Bool :=
  resourceManagerIsAvailable e.resourceManager (e.functionName p)

/-- The index of a registered test. Source: `services/test-engine.c`, `test_engine_find_test` -/
def findTest (name : CString) : Option ℕ :=
  e.tests.items.findIdx? fun entry => safeStringCompare entry.name.chars name

/-- Source: `services/test-engine.c`, `test_engine_get_result` -/
def getResult (name : CString) : Option TestResult :=
  (List.range e.instanceCount.toNat).findSome? fun index =>
    if safeStringCompare (e.memory (.slot index)).result.name.chars name then
      some (e.memory (.slot index)).result
    else none

/-! ## Writing -/

/-- Rewrite one instance. -/
def updateInstance (p : InstancePtr) (f : TestInstance → TestInstance) : TestEngine :=
  { e with memory := fun q => if q = p then f (e.memory p) else e.memory q }

/-- `-1` and no change when the table is full or a test of another name is registered.
Source: `services/test-engine.c`, `test_engine_register` -/
def register (name : CString) (context : Option Address) (operations : TestOperations) :
    ℤ × TestEngine :=
  if h : e.tests.count ≥ maxTests then (-1, e)
  else if e.tests.items.any fun entry => !safeStringCompare entry.name.chars name then
    (-1, e)
  else
    let entry := ⟨safeStringCopy name testNameLength, operations, 0, context⟩
    (0, { e with tests := e.tests.push entry (Nat.lt_of_not_le h) })

/-- What `test_engine_execute` puts into its local variable: a copy of the next array slot with
the entry, the names and the state of this call.
Source: `services/test-engine.c`, `test_engine_execute` -/
def localInstance (entry : ℕ) (name : CString) : TestInstance :=
  let inst := e.memory (.slot e.instanceCount.toNat)
  { inst with
    entry := some entry
    context := { inst.context with
      testName := safeStringCopy name testNameLength
      timeoutMs := ((e.tests.get? entry).map TestEntry.timeoutMs).getD 0 }
    result := { inst.result with
      name := safeStringCopy name testNameLength
      state := .queued }
    running := false }

end TestEngine

/-! ## Running an instance -/

/-- What the outside decides while a worker runs a test: the clock, and what `setup` and `execute`
return. -/
structure Environment where
  nowMs : UInt64
  setup : ℤ
  execute : ℤ

/-- The first statement of a run. Source: `services/test-engine.c`, `test_engine_run_instance` -/
def TestInstance.start (env : Environment) (inst : TestInstance) : TestInstance :=
  { inst with context := { inst.context with startTimeMs := env.nowMs } }

/-- The state and the code a run records, from the state before it and the callbacks that are
set. Source: `services/test-engine.c`, `test_engine_run_instance` -/
def runOutcome (operations : TestOperations) (env : Environment) (state : TestExecutionState) :
    TestExecutionState × ℤ :=
  if operations.setup.isSome ∧ env.setup ≠ 0 then (.fail, env.setup)
  else if operations.execute.isSome then
    (if env.execute = 0 then .pass else .fail, env.execute)
  else (state, if operations.setup.isSome then env.setup else -1)

/-- The rest of a run. Source: `services/test-engine.c`, `test_engine_run_instance` -/
def TestInstance.finish (operations : TestOperations) (env : Environment) (inst : TestInstance) :
    TestInstance :=
  let outcome := runOutcome operations env inst.result.state
  { inst with
    result := { inst.result with
      state := outcome.1
      result := outcome.2
      executionTimeMs := (env.nowMs - inst.context.startTimeMs).toUInt32 }
    running := false }

/-! ## Starting the engine -/

/-- Register the devices of the device manager, in order.
Source: `services/test-engine.c`, `register_device_with_resource_manager` -/
def registerDevices (deviceManager : DeviceManager) (m : ResourceManager InstancePtr) :
    ResourceManager InstancePtr :=
  deviceManager.devices.items.foldl (fun m d => (resourceManagerRegister m d.name.chars).2) m

/-- The loop of `test_engine_init` over `instances[MAX_TEST_INSTANCES]`. -/
def configureInstances (deviceManager functionManager : Address)
    (memory : InstancePtr → TestInstance) : InstancePtr → TestInstance
  | .slot i =>
      if i < maxTestInstances then
        { memory (.slot i) with
          context := ⟨some deviceManager, some functionManager, .empty _, 0, 0⟩ }
      else memory (.slot i)
  | p => memory p

/-- `memset(test_engine->instances, 0, sizeof(test_engine->instances))`. -/
def clearInstances (memory : InstancePtr → TestInstance) : InstancePtr → TestInstance
  | .slot i => if i < maxTestInstances then .zeroed else memory (.slot i)
  | p => memory p

/-- The engine in the blocks `malloc` returned (`none` for NULL), when all threads start. The
managers are passed together with the addresses the instances are meant to carry.
Source: `services/test-engine.c`, `test_engine_init` -/
def testEngineInit (block : Option TestEngine) (schedulerBlock : Option (TestScheduler InstancePtr))
    (testManager : TestManager) (functionManager : FunctionManager) (functionManagerAddr : Address)
    (deviceManager : DeviceManager) (deviceManagerAddr : Address) : Option TestEngine := do
  let e ← block
  let scheduler ← testSchedulerInit schedulerBlock testEngineMaxWorkers
  return { e with
    testManager := testManager
    executionQueue := { e.executionQueue with count := 0, readIndex := 0, writeIndex := 0 }
    memory := clearInstances (configureInstances deviceManagerAddr functionManagerAddr e.memory)
    tests := { entries := .replicate _ .zeroed, count := 0 }
    instanceCount := 0
    resourceManager := registerDevices deviceManager (resourceManagerInit functionManager)
    scheduler := scheduler
    running := true }

/-- Rewriting an instance leaves the function of another one alone, and its own when the entry
stays. -/
lemma functionName_updateInstance {e : TestEngine} {p q : InstancePtr}
    {f : TestInstance → TestInstance} (h : q = p → (f (e.memory p)).entry = (e.memory p).entry) :
    (e.updateInstance p f).functionName q = e.functionName q := by
  have hentry : ((e.updateInstance p f).memory q).entry = (e.memory q).entry := by
    unfold TestEngine.updateInstance
    simp only
    split_ifs with hq
    · rw [h hq, hq]
    · rfl
  rw [TestEngine.functionName, TestEngine.functionName, TestEngine.entryName, TestEngine.entryName,
    hentry]
  rfl

/-- The engine of the one-LED platform, running, with its test registered. -/
def ledEngine : TestEngine where
  testManager := ⟨.ofList _ (availableTest ledConfig.ledTest) [availableTest ledConfig.ledTest]⟩
  scheduler := idleScheduler testEngineMaxWorkers
  resourceManager := {
    functionManager := ⟨.ofList _ (availableFunction ledConfig.ledFunction)
      [availableFunction ledConfig.ledFunction]⟩
    resources := [freeResource (cstr "status_led")]
    bounded := by decide }
  running := true
  executionQueue := ⟨.replicate _ none, 0, 0, 0⟩
  tests := .ofList _ .zeroed [⟨ledConfig.ledTest.name, ⟨some 16, some 32, none⟩, 0, none⟩]
  memory := fun _ => .zeroed
  instanceCount := 0

end HardwareTest
