import HardwareTest.Engine.State
import HardwareTest.Lib.Ledger
import HardwareTest.Lib.Transition

/-!
# Start-up and shut-down: `services/runtime.c`

`runtime_manager_init` makes one component after the other and gives back what it has made when one
fails; `runtime_manager_deinit` gives back a whole runtime. Both are programs over a ledger of the
components made and given back.

* `StartOutcome`: which of the initialisers succeed in a call, an arbitrary pattern. The inner
  ladder of `test_engine_init` is modelled too (`EngineOutcome`); joining a thread is taken to
  return.
* `runtimeManagerInit` is the ladder, cut into one definition for each rung. The static flag of
  `device_manager_init` goes in and comes out.
* `RuntimeSystem`: the ledger, the flag and the running runtimes, over a sequence of calls.
-/

namespace HardwareTest

open Lib

/-! ## Components -/

/-- What a start-up makes: the block of the runtime, the six components, and what the test engine
is made of. -/
inductive ComponentKind
  | runtime | configManager | deviceManager | functionManager | testManager | testEngine
  | resourceManager | testScheduler | worker | pluginManager
deriving DecidableEq

/-- A component, by the number of the call that made it. -/
structure Component where
  kind : ComponentKind
  number : ℕ
deriving DecidableEq

instance : Resource Component where
  number := Component.number
  parent _ := none

/-- A computation that makes components and gives them back. -/
abbrev RuntimeProgram := Program Component

/-- What `test_engine_init` makes. Source: `services/test-engine.c`, `test_engine_t` -/
structure EngineParts where
  testEngine : Component
  resourceManager : Component
  scheduler : Component
  workers : List Component
deriving DecidableEq

/-- The block and its pointers. Source: `services/runtime.c`, `runtime_manager_t` -/
structure RuntimeManager where
  runtime : Component
  configManager : Option Component
  deviceManager : Option Component
  functionManager : Option Component
  testManager : Option Component
  testEngine : Option EngineParts
  pluginManager : Option Component
deriving DecidableEq

/-- What succeeds inside `test_engine_init`: the allocation, the two initialisers and the
creation of each thread. -/
structure EngineOutcome where
  block : Bool
  resourceManager : Bool
  scheduler : Bool
  worker : ℕ → Bool

/-- The engine starts: everything inside `test_engine_init` succeeds. -/
structure EngineOutcome.Starts (o : EngineOutcome) : Prop where
  block : o.block = true
  resourceManager : o.resourceManager = true
  scheduler : o.scheduler = true
  worker : ∀ index < testEngineMaxWorkers.toNat, o.worker index = true

/-- What succeeds in a call of `runtime_manager_init`. -/
structure StartOutcome where
  runtime : Bool
  configManager : Bool
  configLoad : Bool
  deviceManager : Bool
  functionManager : Bool
  testManager : Bool
  testEngine : EngineOutcome
  pluginManager : Bool

/-! ## Making and giving back -/

namespace Startup

/-- An initialiser of one component: the component, or NULL with nothing left behind. -/
def create (kind : ComponentKind) (succeeds : Bool) : RuntimeProgram (Option Component) :=
  acquire (fun _ => succeeds) id fun k => ⟨kind, k⟩

/-- A `deinit` or `free`: NULL is ignored. -/
def componentDeinit (component : Option Component) : RuntimeProgram Unit := ifAny release component

/-- Source: `config/config-manager.c`, `config_manager_init` -/
def configManagerInit (o : StartOutcome) := create .configManager o.configManager

/-- Source: `services/function-manager.c`, `function_manager_init` -/
def functionManagerInit (o : StartOutcome) := create .functionManager o.functionManager

/-- Source: `services/test-manager.c`, `test_manager_init` -/
def testManagerInit (o : StartOutcome) := create .testManager o.testManager

/-- Source: `services/plugin-manager.c`, `plugin_manager_init` -/
def pluginManagerInit (o : StartOutcome) := create .pluginManager o.pluginManager

/-- The manager and the static flag `init` afterwards. Source: `services/dm.c`,
`device_manager_init` -/
def deviceManagerInit (o : StartOutcome) (init : Bool) : RuntimeProgram (Option Component × Bool) :=
  if init then pure (none, init)
  else do
    let deviceManager ← create .deviceManager o.deviceManager
    pure (deviceManager, deviceManager.isSome)

/-- Source: `config/config-manager.c`, `config_manager_deinit` -/
def configManagerDeinit := componentDeinit

/-- Source: `services/dm.c`, `device_manager_deinit`; the static flag is not reset. -/
def deviceManagerDeinit := componentDeinit

/-- Source: `services/function-manager.c`, `function_manager_deinit` -/
def functionManagerDeinit := componentDeinit

/-- Source: `services/test-manager.c`, `test_manager_deinit` -/
def testManagerDeinit := componentDeinit

/-- Source: `services/plugin-manager.c`, `plugin_manager_deinit` -/
def pluginManagerDeinit := componentDeinit

/-! ## The test engine -/

/-- `pthread_join` for each thread of a list. -/
def joinWorkers : List Component → RuntimeProgram Unit
  | [] => pure ()
  | worker :: workers => do
      release worker
      joinWorkers workers

/-- The loop of `pthread_create` over `workers[0]` to `workers[k - 1]`: whether it came to its
end, and the threads created. Source: `services/test-engine.c`, `test_engine_init` -/
def createWorkers (o : EngineOutcome) : ℕ → RuntimeProgram (Bool × List Component)
  | 0 => pure (true, [])
  | k + 1 => do
      let created ← createWorkers o k
      if created.1 then
        match ← create .worker (o.worker k) with
        | some worker => pure (true, created.2 ++ [worker])
        | none => pure (false, created.2)
      else pure created

/-- The managers passed are not NULL. Source: `services/test-engine.c`, `test_engine_init` -/
def testEngineInit (o : EngineOutcome) : RuntimeProgram (Option EngineParts) := do
  match ← create .testEngine o.block with
  | none => pure none
  | some testEngine =>
  match ← create .resourceManager o.resourceManager with
  | none =>
      componentDeinit (some testEngine)
      pure none
  | some resourceManager =>
  match ← create .testScheduler o.scheduler with
  | none =>
      componentDeinit (some resourceManager)
      componentDeinit (some testEngine)
      pure none
  | some scheduler =>
      let created ← createWorkers o testEngineMaxWorkers.toNat
      if created.1 then pure (some ⟨testEngine, resourceManager, scheduler, created.2⟩)
      else
        joinWorkers created.2
        componentDeinit (some scheduler)
        componentDeinit (some resourceManager)
        componentDeinit (some testEngine)
        pure none

/-- Source: `services/test-engine.c`, `test_engine_deinit` -/
def testEngineDeinit : Option EngineParts → RuntimeProgram Unit
  | none => pure ()
  | some e => do
      joinWorkers e.workers
      componentDeinit (some e.scheduler)
      componentDeinit (some e.resourceManager)
      componentDeinit (some e.testEngine)

/-! ## The ladder -/

/-- From the call of `plugin_manager_init` on.
Source: `services/runtime.c`, `runtime_manager_init` -/
def startPluginManager (o : StartOutcome) (runtime : RuntimeManager) :
    RuntimeProgram (Option RuntimeManager) := do
  let runtime := { runtime with pluginManager := ← pluginManagerInit o }
  if runtime.pluginManager.isNone then
    testEngineDeinit runtime.testEngine
    testManagerDeinit runtime.testManager
    functionManagerDeinit runtime.functionManager
    deviceManagerDeinit runtime.deviceManager
    configManagerDeinit runtime.configManager
    componentDeinit (some runtime.runtime)
    pure none
  else pure (some runtime)

/-- From the call of `test_engine_init` on; the check behind it is of the test manager.
Source: `services/runtime.c`, `runtime_manager_init` -/
def startTestEngine (o : StartOutcome) (runtime : RuntimeManager) :
    RuntimeProgram (Option RuntimeManager) := do
  let runtime := { runtime with testEngine := ← testEngineInit o.testEngine }
  if runtime.testManager.isNone then
    testManagerDeinit runtime.testManager
    functionManagerDeinit runtime.functionManager
    deviceManagerDeinit runtime.deviceManager
    configManagerDeinit runtime.configManager
    componentDeinit (some runtime.runtime)
    pure none
  else startPluginManager o runtime

/-- From the call of `test_manager_init` on.
Source: `services/runtime.c`, `runtime_manager_init` -/
def startTestManager (o : StartOutcome) (runtime : RuntimeManager) :
    RuntimeProgram (Option RuntimeManager) := do
  let runtime := { runtime with testManager := ← testManagerInit o }
  if runtime.testManager.isNone then
    functionManagerDeinit runtime.functionManager
    deviceManagerDeinit runtime.deviceManager
    configManagerDeinit runtime.configManager
    componentDeinit (some runtime.runtime)
    pure none
  else startTestEngine o runtime

/-- From the call of `function_manager_init` on.
Source: `services/runtime.c`, `runtime_manager_init` -/
def startFunctionManager (o : StartOutcome) (runtime : RuntimeManager) :
    RuntimeProgram (Option RuntimeManager) := do
  let runtime := { runtime with functionManager := ← functionManagerInit o }
  if runtime.functionManager.isNone then
    deviceManagerDeinit runtime.deviceManager
    configManagerDeinit runtime.configManager
    componentDeinit (some runtime.runtime)
    pure none
  else startTestManager o runtime

/-- From the call of `device_manager_init` on.
Source: `services/runtime.c`, `runtime_manager_init` -/
def startDeviceManager (o : StartOutcome) (init : Bool) (runtime : RuntimeManager) :
    RuntimeProgram (Option RuntimeManager × Bool) := do
  let made ← deviceManagerInit o init
  let runtime := { runtime with deviceManager := made.1 }
  if runtime.deviceManager.isNone then
    configManagerDeinit runtime.configManager
    componentDeinit (some runtime.runtime)
    pure (none, made.2)
  else
    let started ← startFunctionManager o runtime
    pure (started, made.2)

/-- From the call of `config_manager_init` on.
Source: `services/runtime.c`, `runtime_manager_init` -/
def startConfigManager (o : StartOutcome) (init : Bool) (runtime : RuntimeManager) :
    RuntimeProgram (Option RuntimeManager × Bool) := do
  let runtime := { runtime with configManager := ← configManagerInit o }
  if runtime.configManager.isNone then
    componentDeinit (some runtime.runtime)
    pure (none, init)
  else if !o.configLoad then
    configManagerDeinit runtime.configManager
    componentDeinit (some runtime.runtime)
    pure (none, init)
  else startDeviceManager o init runtime

end Startup

open Startup

/-- The runtime, or NULL, and the static flag of `device_manager_init` afterwards.
Source: `services/runtime.c`, `runtime_manager_init` -/
def runtimeManagerInit (o : StartOutcome) (init : Bool) (configPath : Option CString) :
    RuntimeProgram (Option RuntimeManager × Bool) := do
  if configPath.isNone then pure (none, init)
  else
    match ← create .runtime o.runtime with
    | none => pure (none, init)
    | some runtime =>
        startConfigManager o init ⟨runtime, none, none, none, none, none, none⟩

/-- Source: `services/runtime.c`, `runtime_manager_deinit` -/
def runtimeManagerDeinit : Option RuntimeManager → RuntimeProgram ℤ
  | none => pure (-1)
  | some runtime => do
      pluginManagerDeinit runtime.pluginManager
      testEngineDeinit runtime.testEngine
      testManagerDeinit runtime.testManager
      functionManagerDeinit runtime.functionManager
      deviceManagerDeinit runtime.deviceManager
      configManagerDeinit runtime.configManager
      componentDeinit (some runtime.runtime)
      pure 0

/-! ## What is held -/

/-- The components of an engine, in the order in which they are given back, over `P`. -/
def engineHeld (P : Multiset Component) : Option EngineParts → Multiset Component
  | none => P
  | some e => (e.workers : Multiset Component) + (pointee id (some e.scheduler) +
      (pointee id (some e.resourceManager) + (pointee id (some e.testEngine) + P)))

/-- The components of a runtime, in the order in which they are given back, over `P`. -/
def runtimeHeld (P : Multiset Component) : Option RuntimeManager → Multiset Component
  | none => P
  | some r => pointee id r.pluginManager + engineHeld (pointee id r.testManager +
      (pointee id r.functionManager + (pointee id r.deviceManager + (pointee id r.configManager +
        (pointee id (some r.runtime) + P))))) r.testEngine

section rules

variable {P : Multiset Component} {α : Type} {H : α → Multiset Component} {Q : α → Prop}

/-- Making a component. -/
lemma spec_create {kind : ComponentKind} {succeeds : Bool} :
    Spec P (create kind succeeds) (fun a => pointee id a + P) (fun a => a.isSome = succeeds) := by
  intro w hw
  have hspec : Spec P (create kind succeeds) (fun a => pointee id a + P) _ :=
    Spec.acquire (fun _ => rfl) (by nofun)
  obtain ⟨a, w', hrun, hw', -, hgrows⟩ := hspec w hw
  refine ⟨a, w', hrun, hw', ?_, hgrows⟩
  rw [StateT.run, create, acquire] at hrun
  split_ifs at hrun with hsucceeds
  · cases hrun
    exact hsucceeds.symm
  · cases hrun
    exact (Bool.not_eq_true _ ▸ hsucceeds).symm

/-- Giving back what a pointer refers to. -/
lemma spec_componentDeinit {a : Option Component} :
    Spec (pointee id a + P) (componentDeinit a) (fun _ => P) (fun _ => True) :=
  Spec.ifAny fun _ => Spec.release fun _ _ => by nofun

/-- Giving back what a pointer refers to, and going on. -/
lemma deinit_then {a : Option Component} {q : RuntimeProgram α} (hq : Spec P q H Q) :
    Spec (pointee id a + P) (do componentDeinit a; q) H Q :=
  Spec.bind spec_componentDeinit fun _ _ => hq

/-- Joining the threads. -/
lemma spec_joinWorkers (workers : List Component) :
    Spec ((workers : Multiset Component) + P) (joinWorkers workers) (fun _ => P)
      (fun _ => True) := by
  induction workers with
  | nil => exact Spec.pure (Multiset.zero_add P).symm trivial
  | cons worker workers ih =>
      rw [← Multiset.cons_coe, Multiset.cons_add]
      exact Spec.bind (Spec.release fun _ _ => by nofun) fun _ _ => ih

/-- Shutting down an engine, if there is one. -/
lemma spec_testEngineDeinit (engine : Option EngineParts) :
    Spec (engineHeld P engine) (testEngineDeinit engine) (fun _ => P) (fun _ => True) := by
  rcases engine with _ | e
  · exact Spec.pure rfl trivial
  · exact Spec.bind (spec_joinWorkers e.workers) fun _ _ =>
      deinit_then (deinit_then spec_componentDeinit)

/-- The threads created are held; the loop comes to its end iff all of them are. -/
lemma spec_createWorkers (o : EngineOutcome) (k : ℕ) :
    Spec P (createWorkers o k) (fun created => (created.2 : Multiset Component) + P)
      (fun created => created.1 = true ↔ ∀ index < k, o.worker index = true) := by
  induction k with
  | zero => exact Spec.pure (Multiset.zero_add P) (by simp)
  | succ k ih =>
      refine Spec.bind ih fun created hcreated => ?_
      split_ifs with hall
      · refine Spec.bind spec_create fun worker hworker => ?_
        rcases worker with _ | worker
        · refine Spec.pure (Multiset.zero_add _).symm ?_
          refine iff_of_false (by simp) fun hevery => ?_
          rw [hevery k (Nat.lt_succ_self k)] at hworker
          exact absurd hworker (by simp)
        · refine Spec.pure ?_ ?_
          · show (↑(created.2 ++ [worker]) : Multiset Component) + P =
              {worker} + ((created.2 : Multiset Component) + P)
            rw [← Multiset.coe_add, Multiset.coe_singleton, ← Multiset.add_assoc,
              Multiset.add_comm {worker}]
          · refine iff_of_true rfl fun index hindex => ?_
            rcases Nat.lt_succ_iff_lt_or_eq.mp hindex with hlt | rfl
            · exact hcreated.mp hall index hlt
            · exact hworker.symm
      · refine Spec.pure rfl ?_
        refine iff_of_false hall fun hevery => ?_
        exact hall (hcreated.mpr fun index hindex => hevery index (Nat.lt_succ_of_lt hindex))

/-- **The inner ladder**: an engine with its parts when everything starts, and else nothing. -/
lemma spec_testEngineInit (o : EngineOutcome) :
    Spec P (Startup.testEngineInit o) (engineHeld P)
      (fun engine => engine.isSome = true ↔ o.Starts) := by
  refine Spec.bind spec_create fun testEngine hblock => ?_
  rcases testEngine with _ | testEngine
  · refine Spec.pure (Multiset.zero_add P).symm (iff_of_false (by simp) fun h => ?_)
    simp [h.block] at hblock
  refine Spec.bind spec_create fun resourceManager hresource => ?_
  rcases resourceManager with _ | resourceManager
  · rw [pointee_none, Multiset.zero_add]
    apply deinit_then
    refine Spec.pure rfl (iff_of_false (by simp) fun h => ?_)
    simp [h.resourceManager] at hresource
  refine Spec.bind spec_create fun scheduler hscheduler => ?_
  rcases scheduler with _ | scheduler
  · rw [pointee_none, Multiset.zero_add]
    apply deinit_then
    apply deinit_then
    refine Spec.pure rfl (iff_of_false (by simp) fun h => ?_)
    simp [h.scheduler] at hscheduler
  refine Spec.bind (spec_createWorkers o _) fun created hcreated => ?_
  split_ifs with hall
  · exact Spec.pure rfl (iff_of_true rfl
      ⟨hblock.symm, hresource.symm, hscheduler.symm, hcreated.mp hall⟩)
  · refine Spec.bind (spec_joinWorkers created.2) fun _ _ => ?_
    apply deinit_then
    apply deinit_then
    apply deinit_then
    exact Spec.pure rfl (iff_of_false (by simp) fun h => hall (hcreated.mpr h.worker))

/-- The rule of the static flag: it is set by the call that makes a manager and stays set, and no
manager is made once it is set. -/
structure FlagRule (init made flag : Bool) : Prop where
  flag_eq : flag = (init || made)
  once : init = true → made = false

/-- The device manager, behind the static flag. -/
lemma spec_deviceManagerInit {o : StartOutcome} {init : Bool} :
    Spec P (Startup.deviceManagerInit o init) (fun made => pointee id made.1 + P)
      (fun made => made.1.isSome = (!init && o.deviceManager) ∧
        FlagRule init made.1.isSome made.2) := by
  unfold Startup.deviceManagerInit
  split_ifs with hinit
  · exact Spec.pure (Multiset.zero_add _) ⟨by simp [hinit], by simp [hinit], fun _ => rfl⟩
  · refine Spec.bind spec_create fun device hdevice => ?_
    exact Spec.pure rfl ⟨by simp [hinit, hdevice], by simp [hinit], fun h => absurd h hinit⟩

end rules

/-! ## The ladder and the managers themselves -/

/-- The filled device manager follows the rule of the flag. -/
lemma flagRule_deviceManagerInit {init flag : Bool} {block made : Option DeviceManager}
    {cfgMan : ConfigManager}
    (h : HardwareTest.deviceManagerInit init block cfgMan = some (made, flag)) :
    FlagRule init made.isSome flag := by
  unfold HardwareTest.deviceManagerInit at h
  split_ifs at h with hinit
  · cases h
    exact ⟨by simp [hinit], fun _ => rfl⟩
  · rcases block with _ | dm
    · cases h
      exact ⟨by simp [hinit], fun _ => rfl⟩
    · obtain ⟨r, -, h⟩ := Option.map_eq_some_iff.mp h
      split_ifs at h
      · cases h
        exact ⟨by simp [hinit], fun _ => rfl⟩
      · cases h
        exact ⟨by simp, fun hset => absurd hset hinit⟩

/-- The filled engine is returned iff the inner ladder comes to its end, when the resource manager
and the threads are made. -/
lemma isSome_testEngineInit_iff {o : EngineOutcome} {block : Option TestEngine}
    {schedulerBlock : Option (TestScheduler InstancePtr)} (hblock : block.isSome = o.block)
    (hscheduler : schedulerBlock.isSome = o.scheduler) (hresource : o.resourceManager = true)
    (hworker : ∀ index < testEngineMaxWorkers.toNat, o.worker index = true) (tm : TestManager)
    (fm : FunctionManager) (fmAddr : Address) (dm : DeviceManager) (dmAddr : Address) :
    (HardwareTest.testEngineInit block schedulerBlock tm fm fmAddr dm dmAddr).isSome = true ↔
      o.Starts := by
  constructor
  · intro hsome
    rcases block with _ | e
    · exact absurd hsome (by simp [HardwareTest.testEngineInit])
    · rcases schedulerBlock with _ | scheduler
      · exact absurd hsome (by simp [HardwareTest.testEngineInit, testSchedulerInit])
      · exact ⟨hblock.symm, hresource, hscheduler.symm, hworker⟩
  · intro hstarts
    obtain ⟨e, rfl⟩ := Option.isSome_iff_exists.mp (hblock.trans hstarts.block)
    obtain ⟨scheduler, rfl⟩ := Option.isSome_iff_exists.mp (hscheduler.trans hstarts.scheduler)
    rfl

/-! ## What the ladder returns -/

/-- The runtime has all its components but perhaps the test engine, which it has iff that starts. -/
structure RuntimeManager.Built (r : RuntimeManager) (o : StartOutcome) : Prop where
  configManager : r.configManager.isSome = true
  deviceManager : r.deviceManager.isSome = true
  functionManager : r.functionManager.isSome = true
  testManager : r.testManager.isSome = true
  testEngine : r.testEngine.isSome = true ↔ o.testEngine.Starts
  pluginManager : r.pluginManager.isSome = true

section ladder

variable {P : Multiset Component} {o : StartOutcome}
  {runtime config device function test : Component}

/-- The last rung. -/
lemma spec_startPluginManager {engine : Option EngineParts}
    (hengine : engine.isSome = true ↔ o.testEngine.Starts) :
    Spec (engineHeld (pointee id (some test) + (pointee id (some function) +
        (pointee id (some device) + (pointee id (some config) + (pointee id (some runtime) + P)))))
        engine)
      (startPluginManager o
        ⟨runtime, some config, some device, some function, some test, engine, none⟩)
      (runtimeHeld P)
      (fun r => r.isSome = o.pluginManager ∧ ∀ r', r = some r' → r'.Built o) := by
  refine Spec.bind spec_create fun plugin hplugin => ?_
  rcases plugin with _ | plugin
  · simp only [Option.isNone_none, if_true, pointee_none, Multiset.zero_add]
    refine Spec.bind (spec_testEngineDeinit engine) fun _ _ => ?_
    apply deinit_then
    apply deinit_then
    apply deinit_then
    apply deinit_then
    apply deinit_then
    exact Spec.pure rfl ⟨hplugin, by simp⟩
  · simp only [Option.isNone_some, Bool.false_eq_true, if_false]
    refine Spec.pure rfl ⟨hplugin, fun r' hr' => ?_⟩
    cases hr'
    exact ⟨rfl, rfl, rfl, rfl, hengine, rfl⟩

/-- The rung of the test engine, which never fails. -/
lemma spec_startTestEngine :
    Spec (pointee id (some test) + (pointee id (some function) + (pointee id (some device) +
        (pointee id (some config) + (pointee id (some runtime) + P)))))
      (startTestEngine o
        ⟨runtime, some config, some device, some function, some test, none, none⟩)
      (runtimeHeld P)
      (fun r => r.isSome = o.pluginManager ∧ ∀ r', r = some r' → r'.Built o) := by
  refine Spec.bind (spec_testEngineInit o.testEngine) fun engine hengine => ?_
  simp only [Option.isNone_some, Bool.false_eq_true, if_false]
  exact spec_startPluginManager hengine

/-- The rung of the test manager. -/
lemma spec_startTestManager :
    Spec (pointee id (some function) + (pointee id (some device) + (pointee id (some config) +
        (pointee id (some runtime) + P))))
      (startTestManager o ⟨runtime, some config, some device, some function, none, none, none⟩)
      (runtimeHeld P)
      (fun r => r.isSome = (o.testManager && o.pluginManager) ∧
        ∀ r', r = some r' → r'.Built o) := by
  refine Spec.bind spec_create fun test htest => ?_
  rcases test with _ | test
  · simp only [Option.isNone_none, if_true, pointee_none, Multiset.zero_add]
    apply deinit_then
    apply deinit_then
    apply deinit_then
    apply deinit_then
    exact Spec.pure rfl ⟨by simp [← htest], by simp⟩
  · simp only [Option.isNone_some, Bool.false_eq_true, if_false, ← htest, Option.isSome_some,
      Bool.true_and]
    exact spec_startTestEngine

/-- The rung of the function manager. -/
lemma spec_startFunctionManager :
    Spec (pointee id (some device) + (pointee id (some config) + (pointee id (some runtime) + P)))
      (startFunctionManager o ⟨runtime, some config, some device, none, none, none, none⟩)
      (runtimeHeld P)
      (fun r => r.isSome = (o.functionManager && (o.testManager && o.pluginManager)) ∧
        ∀ r', r = some r' → r'.Built o) := by
  refine Spec.bind spec_create fun function hfunction => ?_
  rcases function with _ | function
  · simp only [Option.isNone_none, if_true, pointee_none, Multiset.zero_add]
    apply deinit_then
    apply deinit_then
    apply deinit_then
    exact Spec.pure rfl ⟨by simp [← hfunction], by simp⟩
  · simp only [Option.isNone_some, Bool.false_eq_true, if_false, ← hfunction, Option.isSome_some,
      Bool.true_and]
    exact spec_startTestManager

/-- The rung of the device manager, behind the static flag. -/
lemma spec_startDeviceManager {init : Bool} :
    Spec (pointee id (some config) + (pointee id (some runtime) + P))
      (startDeviceManager o init ⟨runtime, some config, none, none, none, none, none⟩)
      (fun r => runtimeHeld P r.1)
      (fun r => r.1.isSome = (!init && (o.deviceManager &&
        (o.functionManager && (o.testManager && o.pluginManager)))) ∧
        ∀ r', r.1 = some r' → r'.Built o) := by
  refine Spec.bind spec_deviceManagerInit fun made hmade => ?_
  have hdevice := hmade.1
  rcases made with ⟨_ | device, flag⟩
  · simp only [Option.isNone_none, if_true, pointee_none, Multiset.zero_add]
    apply deinit_then
    apply deinit_then
    refine Spec.pure rfl ⟨?_, by simp⟩
    rw [← Bool.and_assoc, ← hdevice]
    rfl
  · simp only [Option.isNone_some, Bool.false_eq_true, if_false]
    refine Spec.bind spec_startFunctionManager fun r hr => ?_
    refine Spec.pure rfl ⟨?_, hr.2⟩
    rw [← Bool.and_assoc, ← hdevice, hr.1]
    rfl

/-- The first rung, with the loading of the configuration. -/
lemma spec_startConfigManager {init : Bool} :
    Spec (pointee id (some runtime) + P)
      (startConfigManager o init ⟨runtime, none, none, none, none, none, none⟩)
      (fun r => runtimeHeld P r.1)
      (fun r => r.1.isSome = (o.configManager && (o.configLoad && (!init && (o.deviceManager &&
        (o.functionManager && (o.testManager && o.pluginManager)))))) ∧
        ∀ r', r.1 = some r' → r'.Built o) := by
  refine Spec.bind spec_create fun config hconfig => ?_
  rcases config with _ | config
  · simp only [Option.isNone_none, if_true, pointee_none, Multiset.zero_add]
    apply deinit_then
    exact Spec.pure rfl ⟨by simp [← hconfig], by simp⟩
  · simp only [Option.isNone_some, Bool.false_eq_true, if_false, ← hconfig, Option.isSome_some,
      Bool.true_and]
    rcases hload : o.configLoad with _ | _
    · simp only [Bool.not_false, if_true]
      apply deinit_then
      apply deinit_then
      exact Spec.pure rfl ⟨by simp, by simp⟩
    · simp only [Bool.not_true, Bool.false_eq_true, if_false, Bool.true_and]
      exact spec_startDeviceManager

end ladder

/-- The start-up comes as far as the test engine: the initialisers before it succeed, and no device
manager has been made before. -/
structure ReachesEngine (o : StartOutcome) (init : Bool) (configPath : Option CString) : Prop where
  configPath : configPath.isSome = true
  runtime : o.runtime = true
  configManager : o.configManager = true
  configLoad : o.configLoad = true
  noDeviceManager : init = false
  deviceManager : o.deviceManager = true
  functionManager : o.functionManager = true
  testManager : o.testManager = true

/-- **The ladder**: a runtime is returned iff the start-up comes as far as the test engine and the
plugin manager is made; then its components are held, and else nothing of the call is.
Source: `services/runtime.c`, `runtime_manager_init` -/
theorem spec_runtimeManagerInit {P : Multiset Component} (o : StartOutcome) (init : Bool)
    (configPath : Option CString) :
    Spec P (runtimeManagerInit o init configPath) (fun r => runtimeHeld P r.1)
      (fun r => (r.1.isSome = true ↔
          ReachesEngine o init configPath ∧ o.pluginManager = true) ∧
        ∀ r', r.1 = some r' → r'.Built o) := by
  unfold runtimeManagerInit
  rcases configPath with _ | path
  · exact Spec.pure rfl ⟨iff_of_false (by simp) fun h => absurd h.1.configPath (by simp), by simp⟩
  · simp only [Option.isNone_some, Bool.false_eq_true, if_false]
    refine Spec.bind spec_create fun runtime hruntime => ?_
    rcases runtime with _ | runtime
    · refine Spec.pure (Multiset.zero_add P).symm ⟨iff_of_false (by simp) fun h => ?_, by simp⟩
      simp [h.1.runtime] at hruntime
    · refine spec_startConfigManager.mono fun r hr => ⟨?_, hr.2⟩
      rw [hr.1]
      simp only [Bool.and_eq_true, Bool.not_eq_true']
      constructor
      · rintro ⟨hconfig, hload, hinit, hdevice, hfunction, htest, hplugin⟩
        exact ⟨⟨rfl, hruntime.symm, hconfig, hload, hinit, hdevice, hfunction, htest⟩, hplugin⟩
      · rintro ⟨h, hplugin⟩
        exact ⟨h.configManager, h.configLoad, h.noDeviceManager, h.deviceManager,
          h.functionManager, h.testManager, hplugin⟩

/-- **The shut-down** gives back what the runtime has.
Source: `services/runtime.c`, `runtime_manager_deinit` -/
theorem spec_runtimeManagerDeinit {P : Multiset Component} (runtime : Option RuntimeManager) :
    Spec (runtimeHeld P runtime) (runtimeManagerDeinit runtime) (fun _ => P)
      (fun code => code = if runtime.isSome then 0 else -1) := by
  rcases runtime with _ | runtime
  · exact Spec.pure rfl rfl
  · apply deinit_then
    refine Spec.bind (spec_testEngineDeinit runtime.testEngine) fun _ _ => ?_
    apply deinit_then
    apply deinit_then
    apply deinit_then
    apply deinit_then
    apply deinit_then
    exact Spec.pure rfl rfl

end HardwareTest
