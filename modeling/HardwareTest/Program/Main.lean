import HardwareTest.Cli.CliParser
import HardwareTest.Config.TextFiles
import HardwareTest.Json.Print
import HardwareTest.Program.Commands

/-!
# The program: `main.c`, `main`

A run of the program from its arguments, the bytes of the configuration files and what the
allocations return, to its exit status.

* `Invocation`: all that a run is given. `startRuntime`: `runtime_manager_init` on this data.
* `mainStart`: up to the command. `mainCommand`: the command, as a program of the main thread.
* `MainEnds`: an exit status and an output that a run can have, with the workers of the engine
  taking any steps meanwhile.
* `mainEnds_iff`: **the threads do not show**: a run ends in one way, computed by `mainResult`.
* `mainEnds_success_iff`: **when the program succeeds.** No test is ever run
  (`mainEnds_runsNothing`), so `--run` fails, and `--run-all` succeeds when there is nothing to run.

Nothing is said of a run that counts more entries than a table has cells, for its loops read past
the table. What is printed and logged on the way is left out, and so is the shut-down after the
command, which does not change the status.
-/

namespace HardwareTest

open Lib LocatedManager

/-! ## Start-up -/

/-- What a run is given. A block is what `malloc` returns, with what is in it; `none` is NULL. -/
structure Invocation where
  argv : List CString
  loggerStarts : Bool
  contents : CString → Option (List UInt8)
  validationRegistry : List ValidationDescriptor
  runtimeBlock : Bool
  configManagerBlock : Bool
  deviceManagerBlock : Option DeviceManager
  functionManagerBlock : Option FunctionManager
  testManagerBlock : Option TestManager
  testEngineBlock : Option TestEngine
  resourceManagerBlock : Bool
  schedulerBlock : Option (TestScheduler InstancePtr)
  threadsStart : Bool
  pluginManagerBlock : Bool
  validationSystemBlock : Option ValidationSystem
  deviceManagerAddr : Address
  functionManagerAddr : Address

/-- The managers of a runtime, of which the engine may be NULL.
Source: `services/runtime.c`, `runtime_manager_t` -/
structure Managers where
  configManager : ConfigManager
  deviceManager : DeviceManager
  functionManager : FunctionManager
  testManager : TestManager
  testEngine : Option TestEngine

/-- No table counts more entries than it has cells. -/
structure Managers.WithinTables (m : Managers) : Prop where
  configManager : m.configManager.WithinLimits
  devices : m.deviceManager.devices.WithinLimit
  functions : m.functionManager.functions.WithinLimit
  tests : m.testManager.tests.WithinLimit

instance (cfgMan : ConfigManager) : Decidable cfgMan.WithinLimits :=
  decidable_of_iff (cfgMan.deviceConfig.devices.WithinLimit ∧
      cfgMan.platformConfig.bindings.WithinLimit ∧ cfgMan.functionConfig.functions.WithinLimit ∧
      cfgMan.testConfig.tests.WithinLimit ∧ ∀ f ∈ cfgMan.functions, f.deviceName.WithinLimit)
    ⟨fun ⟨hd, hb, hf, ht, hn⟩ => ⟨hd, hb, hf, ht, hn⟩,
      fun ⟨hd, hb, hf, ht, hn⟩ => ⟨hd, hb, hf, ht, hn⟩⟩

instance (m : Managers) : Decidable m.WithinTables :=
  decidable_of_iff (m.configManager.WithinLimits ∧ m.deviceManager.devices.WithinLimit ∧
      m.functionManager.functions.WithinLimit ∧ m.testManager.tests.WithinLimit)
    ⟨fun ⟨hc, hd, hf, ht⟩ => ⟨hc, hd, hf, ht⟩, fun ⟨hc, hd, hf, ht⟩ => ⟨hc, hd, hf, ht⟩⟩

section start

variable (inv : Invocation)

/-- From the call of `device_manager_init` on. A write outside a table has no result.
Source: `services/runtime.c`, `runtime_manager_init` -/
def startManagers (configManager : ConfigManager) : Option (Option Managers) := do
  let (some deviceManager, _) ← deviceManagerInit false inv.deviceManagerBlock configManager
    | pure none
  let some functionManager ←
      functionManagerInit inv.functionManagerBlock configManager deviceManager
    | pure none
  let some testManager ← testManagerInit inv.testManagerBlock configManager functionManager
    | pure none
  let testEngine :=
    if inv.resourceManagerBlock && inv.threadsStart then
      testEngineInit inv.testEngineBlock inv.schedulerBlock testManager functionManager
        inv.functionManagerAddr deviceManager inv.deviceManagerAddr
    else none
  if inv.pluginManagerBlock then
    pure (some ⟨configManager, deviceManager, functionManager, testManager, testEngine⟩)
  else pure none

/-- The first call of the process. Source: `services/runtime.c`, `runtime_manager_init` -/
def startRuntime (configPath : Option CString) : Option (Option Managers) :=
  match configPath with
  | none => some none
  | some configPath =>
    if !inv.runtimeBlock then some none
    else match configManagerInit configPath inv.configManagerBlock with
    | none => some none
    | some located => do
      let (code, located) ← (configManagerLoad (fileDocument inv.contents) located).result
      if code ≠ 0 then pure none
      else startManagers inv located.toConfigManager

/-- What a run prints in the end. -/
inductive CommandOutput
  | nothing
  | usage
  | listing (lists : List (ListHeading × List TestDef))
  | unknownTest (name : Option CString)
  | ran (message : RunMessage)
  | ranAll (summary : Option RunSummary)

/-- `EXIT_SUCCESS` -/
abbrev exitSuccess : ℤ := 0

/-- `EXIT_FAILURE` -/
abbrev exitFailure : ℤ := 1

/-- The exit status for the return code of a command. -/
def exitStatus (code : ℤ) : ℤ := if code = 0 then exitSuccess else exitFailure

/-- How far a run comes without the engine: to its exit, or to the command. -/
inductive MainStart
  | exits (status : ℤ) (output : CommandOutput)
  | command (managers : Managers) (system : ValidationSystem) (options : CliOptions)

/-- Source: `main.c`, `main`, up to the command -/
def mainStart : Option MainStart :=
  if !inv.loggerStarts then some (.exits exitFailure .nothing)
  else
    let (code, options) := cliParse inv.argv
    if code ≠ 0 then some (.exits 2 .usage)
    else match startRuntime inv options.configPath with
    | none => none
    | some none => some (.exits exitFailure .nothing)
    | some (some managers) =>
      if managers.WithinTables then
        match validationSystemInit inv.validationSystemBlock inv.validationRegistry
          managers.testManager with
        | none => some (.exits exitFailure .nothing)
        | some system => some (.command managers system options)
      else none

end start

/-! ## The command -/

/-- Source: `main.c`, `find_configured_test` -/
def findConfiguredTest (cfgMan : ConfigManager) (name : CString) : Option TestDef :=
  (List.range cfgMan.getTestCount).findSome? fun index =>
    (cfgMan.getTestByIndex index).filter fun test => decide (test.name.chars = name)

/-- The exit status with what is printed. Source: `main.c`, `main` -/
def mainCommand (managers : Managers) (system : ValidationSystem) (options : CliOptions) :
    EngineClient (ℤ × CommandOutput) :=
  match options.action with
  | .list =>
      let listed := listTests managers.configManager managers.testManager system options.listFilter
      pure (exitStatus listed.1, .listing listed.2)
  | .run =>
      match options.testName.bind (findConfiguredTest managers.configManager) with
      | none => pure (exitFailure, .unknownTest options.testName)
      | some test => do
          let ran ← runTest managers.testManager managers.functionManager system
            managers.testEngine.isSome test
          pure (exitStatus ran.1, .ran ran.2)
  | .runAll => do
      let ran ← runAllCommand managers.configManager managers.testManager managers.functionManager
        system managers.testEngine.isSome
      pure (exitStatus ran.1, .ranAll ran.2)
  | .invalid => pure (exitFailure, .nothing)

/-- The return codes of the functions of the engine for NULL. Source: `services/test-engine.c` -/
def noEngine : Unit → (op : EngineOp) → op.Reply × Unit
  | _, .register .. => ((-1 : ℤ), ())
  | _, .execute _ => ((-1 : ℤ), ())
  | _, .getResult _ => (none, ())
  | _, .testName _ => (none, ())

/-- The worker threads. -/
abbrev Worker := Fin testEngineMaxWorkers.toNat

/-- **The ways a run can end.** The engine has its workers at the places where they look for work,
or out of their loop, and they go on while the command runs. -/
inductive MainEnds (inv : Invocation) : ℤ × CommandOutput → Prop
  | exits {status : ℤ} {output : CommandOutput} : mainStart inv = some (.exits status output) →
      MainEnds inv (status, output)
  | withoutEngine {managers : Managers} {system : ValidationSystem} {options : CliOptions} :
      mainStart inv = some (.command managers system options) → managers.testEngine = none →
      MainEnds inv ((mainCommand managers system options).eval noEngine ()).1
  | withEngine {managers : Managers} {system : ValidationSystem} {options : CliOptions}
      {e : TestEngine} {workers : Worker → WorkerPc} {result : ℤ × CommandOutput}
      {t : EngineSystem Worker} :
      mainStart inv = some (.command managers system options) → managers.testEngine = some e →
      (∀ w, (workers w).isFree = true) →
      (engineService Worker).Executes ⟨e, workers, .idle, 0, []⟩
        (mainCommand managers system options) result t → MainEnds inv result

/-- The inert engine in the place of one that was just made. -/
def TestEngine.atRest (e : TestEngine) : InertEngine :=
  ⟨e.tests, e.scheduler.pendingInstances.items.length⟩

/-- The end of a run, without threads: the engine is an inert one. -/
def mainResult (inv : Invocation) : Option (ℤ × CommandOutput) :=
  (mainStart inv).map fun start =>
    match start with
    | .exits status output => (status, output)
    | .command managers system options =>
      match managers.testEngine with
      | none => ((mainCommand managers system options).eval noEngine ()).1
      | some e => ((mainCommand managers system options).eval InertEngine.serve e.atRest).1

/-! ## How far a run comes -/

section stages

variable {inv : Invocation} {managers : Managers} {system : ValidationSystem}
  {options : CliOptions}

/-- An engine is one that was just made for the managers. -/
def Managers.EngineMade (inv : Invocation) (m : Managers) : Prop :=
  ∀ e, m.testEngine = some e →
    testEngineInit inv.testEngineBlock inv.schedulerBlock m.testManager m.functionManager
      inv.functionManagerAddr m.deviceManager inv.deviceManagerAddr = some e

/-- The engine of a start-up was made for its managers. -/
lemma engineMade_of_startManagers {configManager : ConfigManager}
    (h : startManagers inv configManager = some (some managers)) : managers.EngineMade inv := by
  unfold startManagers at h
  rcases hdevices : deviceManagerInit false inv.deviceManagerBlock configManager
    with _ | ⟨_ | deviceManager, init⟩
  · simp [hdevices] at h
  · simp [hdevices] at h
  rcases hfunctions : functionManagerInit inv.functionManagerBlock configManager deviceManager
    with _ | _ | functionManager
  · simp [hdevices, hfunctions] at h
  · simp [hdevices, hfunctions] at h
  rcases htests : testManagerInit inv.testManagerBlock configManager functionManager
    with _ | _ | testManager
  · simp [hdevices, hfunctions, htests] at h
  · simp [hdevices, hfunctions, htests] at h
  simp only [hdevices, hfunctions, htests, Option.bind_eq_bind, Option.bind_some, Option.pure_def]
    at h
  split_ifs at h with hplugins hthreads
  · obtain rfl := Option.some.inj (Option.some.inj h)
    exact fun e he => he
  · obtain rfl := Option.some.inj (Option.some.inj h)
    exact fun e he => by cases he
  · cases h

/-- The same for the whole start-up. -/
lemma engineMade_of_startRuntime {configPath : Option CString}
    (h : startRuntime inv configPath = some (some managers)) : managers.EngineMade inv := by
  rcases configPath with _ | configPath
  · cases h
  unfold startRuntime at h
  simp only at h
  split_ifs at h with hblock
  · cases h
  rcases hconfig : configManagerInit configPath inv.configManagerBlock with _ | located
  · simp [hconfig] at h
  rcases hload : (configManagerLoad (fileDocument inv.contents) located).result
    with _ | ⟨code, loaded⟩
  · simp [hconfig, hload] at h
  simp only [hconfig, hload, Option.bind_eq_bind, Option.bind_some] at h
  split_ifs at h with hcode
  · cases h
  · exact engineMade_of_startManagers h

/-- **What it takes to come to the command.** -/
lemma mainStart_command_iff : mainStart inv = some (.command managers system options) ↔
    inv.loggerStarts = true ∧ cliParse inv.argv = (0, options) ∧
      startRuntime inv options.configPath = some (some managers) ∧ managers.WithinTables ∧
      validationSystemInit inv.validationSystemBlock inv.validationRegistry managers.testManager =
        some system := by
  unfold mainStart
  rcases inv.loggerStarts with _ | _
  · simp
  rcases cliParse inv.argv with ⟨code, parsed⟩
  by_cases hcode : code = 0
  · subst hcode
    simp only [Bool.not_true, Bool.false_eq_true, if_false, ne_eq, not_true_eq_false, true_and,
      Prod.mk.injEq]
    constructor
    · intro h
      rcases hstart : startRuntime inv parsed.configPath with _ | _ | m
      · simp [hstart] at h
      · simp [hstart] at h
      simp only [hstart] at h
      split_ifs at h with hwithin
      rcases hsystem : validationSystemInit inv.validationSystemBlock inv.validationRegistry
        m.testManager with _ | made
      · simp [hsystem] at h
      · simp only [hsystem, Option.some.injEq, MainStart.command.injEq] at h
        obtain ⟨rfl, rfl, rfl⟩ := h
        exact ⟨rfl, hstart, hwithin, hsystem⟩
    · rintro ⟨rfl, hstart, hwithin, hsystem⟩
      simp only [hstart, hwithin, if_true, hsystem]
  · simp [hcode]

/-- An exit before the command is a failure, with at most the usage. -/
lemma of_exits {status : ℤ} {output : CommandOutput}
    (h : mainStart inv = some (.exits status output)) :
    status ≠ 0 ∧ (output = .nothing ∨ output = .usage) := by
  unfold mainStart at h
  simp only at h
  split_ifs at h with hlogger hcode
  · obtain ⟨rfl, rfl⟩ := MainStart.exits.inj (Option.some.inj h)
    exact ⟨by decide, .inl rfl⟩
  · obtain ⟨rfl, rfl⟩ := MainStart.exits.inj (Option.some.inj h)
    exact ⟨by decide, .inr rfl⟩
  · rcases hstart : startRuntime inv (cliParse inv.argv).2.configPath with _ | _ | m
    · simp [hstart] at h
    · simp only [hstart] at h
      obtain ⟨rfl, rfl⟩ := MainStart.exits.inj (Option.some.inj h)
      exact ⟨by decide, .inl rfl⟩
    · simp only [hstart] at h
      split_ifs at h
      rcases hsystem : validationSystemInit inv.validationSystemBlock inv.validationRegistry
        m.testManager with _ | made
      · simp only [hsystem] at h
        obtain ⟨rfl, rfl⟩ := MainStart.exits.inj (Option.some.inj h)
        exact ⟨by decide, .inl rfl⟩
      · simp [hsystem] at h

/-- The engine that a command finds is started and counts no instance. -/
lemma started_of_mainStart (h : mainStart inv = some (.command managers system options))
    {e : TestEngine} (he : managers.testEngine = some e) {workers : Worker → WorkerPc}
    (hfree : ∀ w, (workers w).isFree = true) :
    Started ⟨e, workers, .idle, 0, []⟩ ∧ e.instanceCount = 0 := by
  obtain ⟨-, -, hstart, -, -⟩ := mainStart_command_iff.mp h
  have hmade := engineMade_of_startRuntime hstart e he
  have hstarted : Started (⟨e, fun _ => .loopHead, .idle, 0, []⟩ : EngineSystem Worker) ∧
      e.instanceCount = 0 := testEngineInit_started hmade e.tests
  exact ⟨⟨hstarted.1.queueEmpty, hstarted.1.noneRunning, hstarted.1.limit, hfree, rfl, rfl⟩,
    hstarted.2⟩

end stages

/-! ## The ends of a run -/

/-- **The threads do not show.** Whatever the workers do before, during and after the calls of the
main thread, a run can end in one way, and that is the sequential one. Source: `main.c`, `main` -/
theorem mainEnds_iff (inv : Invocation) (result : ℤ × CommandOutput) :
    MainEnds inv result ↔ mainResult inv = some result := by
  have hexecutes : ∀ {managers system options e} {workers : Worker → WorkerPc},
      mainStart inv = some (.command managers system options) → managers.testEngine = some e →
      (∀ w, (workers w).isFree = true) →
      ((∃ t, (engineService Worker).Executes ⟨e, workers, .idle, 0, []⟩
          (mainCommand managers system options) result t) ↔
        result = ((mainCommand managers system options).eval InertEngine.serve e.atRest).1) := by
    intro managers system options e workers hstart he hfree
    obtain ⟨hstarted, hcount⟩ := started_of_mainStart hstart he hfree
    exact engineService_refines.executes_iff _ (hstarted.inert hcount) result
  constructor
  · intro h
    cases h with
    | exits hstart => simp only [mainResult, hstart, Option.map_some]
    | withoutEngine hstart hnone => simp only [mainResult, hstart, Option.map_some, hnone]
    | withEngine hstart he hfree hrun =>
        have hresult := (hexecutes hstart he hfree).mp ⟨_, hrun⟩
        simp only [mainResult, hstart, Option.map_some, he, hresult]
  · intro h
    rcases hstart : mainStart inv with _ | ⟨status, output⟩ | ⟨managers, system, options⟩
    · rw [mainResult, hstart] at h
      cases h
    · rw [mainResult, hstart] at h
      obtain rfl := Option.some.inj h
      exact .exits hstart
    · rcases he : managers.testEngine with _ | e
      · simp only [mainResult, hstart, Option.map_some, he, Option.some.injEq] at h
        subst h
        exact .withoutEngine hstart he
      · simp only [mainResult, hstart, Option.map_some, he, Option.some.injEq] at h
        have hfree : ∀ _ : Worker, WorkerPc.loopHead.isFree = true := fun _ => rfl
        obtain ⟨t, hrun⟩ := (hexecutes hstart he hfree).mpr h.symm
        exact .withEngine hstart he hfree hrun

/-- What a command comes to when no result is ever found. -/
def commandEnd (managers : Managers) (system : ValidationSystem) (options : CliOptions) :
    ℤ × CommandOutput :=
  match options.action with
  | .list => (exitSuccess, .listing
      (listTests managers.configManager managers.testManager system options.listFilter).2)
  | .run =>
      match options.testName.bind (findConfiguredTest managers.configManager) with
      | none => (exitFailure, .unknownTest options.testName)
      | some test => (exitFailure, .ran (refusal managers.testManager system test))
  | .runAll =>
      if managers.testEngine.isSome then
        (if managers.configManager.tests.countP (runnableTest managers.testManager system) = 0 then
            exitSuccess else exitFailure,
          .ranAll (some (unrunSummary managers.testManager system managers.configManager.tests)))
      else (exitFailure, .ranAll none)
  | .invalid => (exitFailure, .nothing)

/-- The output does not say that a test was run. -/
def CommandOutput.RunsNothing : CommandOutput → Prop
  | .ran message => message.Refuses
  | .ranAll (some summary) => summary.PassesNone
  | _ => True

section ends

variable {inv : Invocation} {managers : Managers} {system : ValidationSystem}
  {options : CliOptions} {τ : Type*} {serve : τ → (op : EngineOp) → op.Reply × τ} {y : τ}

lemma resultless_noEngine : Resultless noEngine := fun _ _ => rfl

/-- **A command without results.** -/
lemma eval_mainCommand (h : Resultless serve) (hwithin : managers.WithinTables)
    (hengine : ∀ e, managers.testEngine = some e → ∀ name, e.getResult name = none) :
    ((mainCommand managers system options).eval serve y).1 =
      commandEnd managers system options := by
  unfold mainCommand commandEnd
  rcases options.action with _ | _ | _ | _
  · rfl
  · rfl
  · rcases options.testName.bind (findConfiguredTest managers.configManager) with _ | test
    · rfl
    · have hran : ((runTest managers.testManager managers.functionManager system
          managers.testEngine.isSome test).eval serve y).1 = _ :=
        eval_runTest h managers.testEngine.isSome test
      simp only [Client.eval_bind, Client.eval_pure, hran]
      rfl
  · rcases he : managers.testEngine with _ | e
    · simp only [Client.eval_bind, Client.eval_pure, Option.isSome_none,
        eval_runAllCommand_noEngine]
      rfl
    · simp only [Client.eval_bind, Client.eval_pure, Option.isSome_some,
        eval_runAllCommand h (hengine e he), runAllTests_of_no_result _ _
          hwithin.configManager.testLimit (hengine e he)]
      split_ifs
      · rfl
      · rfl

lemma commandEnd_runsNothing : (commandEnd managers system options).2.RunsNothing := by
  unfold commandEnd
  rcases options.action with _ | _ | _ | _
  · trivial
  · trivial
  · rcases options.testName.bind (findConfiguredTest managers.configManager) with _ | test
    · trivial
    · exact refusal_refuses _ _ test
  · rcases managers.testEngine with _ | e
    · trivial
    · exact unrunSummary_passesNone _ _ _

/-- A run that comes to the command. -/
lemma mainResult_of_command (hstart : mainStart inv = some (.command managers system options)) :
    mainResult inv = some (commandEnd managers system options) := by
  obtain ⟨-, -, -, hwithin, -⟩ := mainStart_command_iff.mp hstart
  have hfree : ∀ _ : Worker, WorkerPc.loopHead.isFree = true := fun _ => rfl
  have hengine : ∀ e, managers.testEngine = some e → ∀ name, e.getResult name = none :=
    fun e he => getResult_of_count_eq_zero (started_of_mainStart hstart he hfree).2
  rcases he : managers.testEngine with _ | e
  · simp only [mainResult, hstart, Option.map_some, he,
      eval_mainCommand resultless_noEngine hwithin hengine]
  · simp only [mainResult, hstart, Option.map_some, he,
      eval_mainCommand resultless_inertEngine hwithin hengine]

/-- A run that ends before the command. -/
lemma mainResult_of_exits {status : ℤ} {output : CommandOutput}
    (hstart : mainStart inv = some (.exits status output)) :
    mainResult inv = some (status, output) := by
  simp only [mainResult, hstart, Option.map_some]

end ends

/-- **No output says that a test was run**, whatever is configured and linked, and whatever the
threads do. Source: `main.c`, `run_test`, `run_all_tests` -/
theorem mainEnds_runsNothing {inv : Invocation} {status : ℤ} {output : CommandOutput}
    (h : MainEnds inv (status, output)) : output.RunsNothing := by
  rw [mainEnds_iff] at h
  rcases hstart : mainStart inv with _ | ⟨status, printed⟩ | ⟨managers, system, options⟩
  · rw [mainResult, hstart] at h
    cases h
  · rw [mainResult_of_exits hstart] at h
    cases h
    rcases (of_exits hstart).2 with rfl | rfl
    · trivial
    · trivial
  · rw [mainResult_of_command hstart] at h
    obtain rfl : (commandEnd managers system options).2 = output :=
      congrArg Prod.snd (Option.some.inj h)
    exact commandEnd_runsNothing

/-- The documents of a platform with one LED. -/
def ledDocument : Parser → CJson
  | .device => .object [(cstr "devices", .array [.object [(cstr "name", .string (cstr "led"))]])]
  | .function => .object [(cstr "functions", .array [.object [(cstr "name", .string (cstr "blink")),
      (cstr "device-name", .array [.string (cstr "led")])]])]
  | .test => .object [(cstr "tests", .array [.object [(cstr "name", .string (cstr "led_test")),
      (cstr "function", .string (cstr "blink"))]])]
  | .platform => .object [(cstr "bindings", .array [.object [(cstr "device", .string (cstr "led")),
      (cstr "interface", .string (cstr "gpio")), (cstr "enable", .bool true)]])]

/-- Their texts in the directory `config`. -/
def ledFiles (path : CString) : Option (List UInt8) :=
  ([.device, .function, .test, .platform].find? fun parser : Parser =>
    path = cstr "config/" ++ parser.file).map fun parser =>
      CJson.cJSONPrint true (ledDocument parser)

/-- `--run led_test` with these files, when everything is allocated and the test is linked. -/
def ledInvocation : Invocation where
  argv := [cstr "hardware_test", cstr "config", cstr "--run", cstr "led_test"]
  loggerStarts := true
  contents := ledFiles
  validationRegistry := [linkedValidation (cstr "led_test")]
  runtimeBlock := true
  configManagerBlock := true
  deviceManagerBlock := some ledDevices
  functionManagerBlock := some ledFunctions
  testManagerBlock := some ledEngine.testManager
  testEngineBlock := some ledEngine
  resourceManagerBlock := true
  schedulerBlock := some ledEngine.scheduler
  threadsStart := true
  pluginManagerBlock := true
  validationSystemBlock := some ledValidations
  deviceManagerAddr := 8
  functionManagerAddr := 16

/-- The LED test is registered and submitted, and the run ends with `EXIT_FAILURE`. -/
theorem mainEnds_runsNothing_led :
    ∃ output, MainEnds ledInvocation (exitFailure, output) ∧ output.RunsNothing := by
  have hstatus : (mainResult ledInvocation).map Prod.fst = some exitFailure := by decide +kernel
  obtain ⟨⟨status, output⟩, hresult, rfl⟩ := Option.map_eq_some_iff.mp hstatus
  have hends := (mainEnds_iff ledInvocation _).mpr hresult
  exact ⟨output, hends, mainEnds_runsNothing hends⟩

end HardwareTest
