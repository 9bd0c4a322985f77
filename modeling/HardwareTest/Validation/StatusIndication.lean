import HardwareTest.Engine.RunInstance
import HardwareTest.Hal.HandleAccounting
import HardwareTest.Services.GpioRoundTrip

/-!
# The status indication test: `validation/status_indication_test/status-indication-test.c`

`setup` opens the gpio device of the status LED and configures it, `cleanup` closes it. The context
of the test is static: it is the same in every run.

* `validationRuntimeOpenHandle`: `validation_runtime_open_gpio` with `gpio_hal_open` and with the
  pointers it checks on the way.
* `StatusWorld`: what the callbacks change, the context and the ledger; `none` once the behaviour is
  undefined. With `statusIndicationCode` the engine runs the test (`statusIndicationRun`).
* `statusIndication_accounted`: **after any number of runs** nothing is held and the context is as
  it was at first; a run ends with PASS exactly when the device is opened, even if none of its lines
  can be configured.
-/

namespace HardwareTest

open Lib

/-! ## The model -/

/-- The managers of the runtime that a validation uses, `none` for NULL; the plugin manager is what
`plugin_manager_get` finds by a name. Source: `services/validation-runtime.c`,
`validation_runtime_context_t` -/
structure ValidationRuntime where
  deviceManager : Option DeviceManager
  pluginManager : Option (CString → Option (HalPlugin GpioDevice))

/-- The handle and the configuration afterwards.
Source: `services/validation-runtime.c`, `validation_runtime_open_gpio` -/
def validationRuntimeOpenHandle (o : Outcomes) (runtime : Option ValidationRuntime)
    (deviceName : CString) (configuration : GpioConfiguration) :
    HalProgram (Option (GpioHandle GpioDevice) × GpioConfiguration) :=
  match runtime with
  | none => pure (none, configuration)
  | some runtime =>
      match runtime.deviceManager with
      | none => pure (none, configuration)
      | some dm =>
          let plugins := runtime.pluginManager.getD fun _ => none
          let opening := validationRuntimeOpenGpio dm plugins
            (fun plugin => some (gpioHalOpen o (some plugin))) deviceName configuration
          match opening.1 with
          | none => pure (none, opening.2)
          | some halOpen => do
              let handle ← halOpen
              pure (handle, opening.2)

/-- Source: `validation/status_indication_test/status-indication-test.c`,
`status_indication_context_t` -/
structure StatusIndicationContext where
  gpioHal : Option (GpioHandle GpioDevice)

/-- The context before the first run. -/
def StatusIndicationContext.start : StatusIndicationContext := ⟨none⟩

/-- The return code and the context; the code of `gpio_hal_configure` is dropped.
Source: `validation/status_indication_test/status-indication-test.c`, `status_indication_setup` -/
def statusIndicationSetup (o : Outcomes) (runtime : Option ValidationRuntime)
    (ctx : Option StatusIndicationContext) : HalProgram (ℤ × Option StatusIndicationContext) :=
  match ctx with
  | none => pure (-1, none)
  | some _ => do
      let (handle, gpioConfig) ← validationRuntimeOpenHandle o runtime (cstr "status_led") .zeroed
      match handle with
      | none => pure (-1, some ⟨none⟩)
      | some handle => do
          let (_, handle) ← gpioHalConfigure (some handle) (some gpioConfig)
          pure (0, some ⟨handle⟩)

/-- The body that would write levels is not compiled.
Source: `validation/status_indication_test/status-indication-test.c`, `status_indication_execute` -/
def statusIndicationExecute (ctx : Option StatusIndicationContext) :
    HalProgram (ℤ × Option StatusIndicationContext) :=
  match ctx with
  | none => pure (-1, none)
  | some ctx => pure (0, some ctx)

/-- Source: `validation/status_indication_test/status-indication-test.c`,
`status_indication_cleanup` -/
def statusIndicationCleanup (ctx : Option StatusIndicationContext) :
    HalProgram (ℤ × Option StatusIndicationContext) :=
  match ctx with
  | none => pure (-1, none)
  | some ctx =>
      match ctx.gpioHal with
      | none => pure (0, some ctx)
      | some handle => do
          let _ ← gpioHalClose (some handle)
          pure (0, some ⟨none⟩)

/-- What the callbacks change: the context behind the private data, and the ledger. -/
abbrev StatusWorld := Option (Option StatusIndicationContext × Ledger HalObject)

/-- A callback on the world. -/
def statusCallback
    (f : Option StatusIndicationContext → HalProgram (ℤ × Option StatusIndicationContext)) :
    StatusWorld → ℤ × StatusWorld
  | none => (0, none)
  | some (ctx, w) =>
      match (f ctx).run w with
      | none => (0, none)
      | some ((code, ctx), w) => (code, some (ctx, w))

/-- The addresses of the callbacks, by numbers of their own.
Source: `validation/status_indication_test/status-indication-test.c`, `status_indication_ops` -/
def statusIndicationOps : TestOperations := ⟨some 1, some 2, some 3⟩

/-- The code at these addresses. -/
def statusIndicationCode (o : Outcomes) (runtime : Option ValidationRuntime) :
    CallbackCode StatusWorld := fun f =>
  if f = 1 then statusCallback (statusIndicationSetup o runtime)
  else if f = 2 then statusCallback statusIndicationExecute
  else if f = 3 then statusCallback statusIndicationCleanup
  else fun _ => (0, none)

/-- What a run of the test starts from: the runtime at that time, the two values of `get_time_ms`,
and the instance. -/
structure StatusRun where
  runtime : Option ValidationRuntime
  startMs : UInt64
  stopMs : UInt64
  inst : TestInstance

/-- A run of the test by the engine. -/
def statusIndicationRun (o : Outcomes) (world : StatusWorld) (r : StatusRun) :
    InstanceRun StatusWorld :=
  testEngineRunInstance (statusIndicationCode o r.runtime) r.startMs r.stopMs statusIndicationOps
    ⟨r.inst, world, []⟩

/-- The world after some runs, one after the other. -/
def statusIndicationRuns (o : Outcomes) (world : StatusWorld) (runs : List StatusRun) :
    StatusWorld :=
  runs.foldl (fun world r => (statusIndicationRun o world r).context) world

/-! ## The callbacks -/

/-- The plugin that a device is bound to, when the device and the plugin are found and the plugin
has operations, is the gpio plugin. The other plugins are any at all. -/
def ValidationRuntime.BindsGpio (o : Outcomes) (runtime : ValidationRuntime)
    (deviceName : CString) : Prop :=
  ∀ dm ∈ runtime.deviceManager, ∀ device ∈ dm.getDeviceByName deviceName,
    ∀ plugins ∈ runtime.pluginManager, ∀ plugin ∈ plugins device.binding.plugin.chars,
      ∀ ops ∈ plugin.ops, ops = gpioPluginOps o

/-- The device of the status LED is opened when the run starts. -/
def opensStatusLed (o : Outcomes) (runtime : Option ValidationRuntime) (w : Ledger HalObject) :
    Bool :=
  ((validationRuntimeOpenHandle o runtime (cstr "status_led") .zeroed).run w).any
    fun r => r.1.1.isSome

section callbacks

variable {o : Outcomes} {runtime : Option ValidationRuntime}

/-- Opening a device gives a ready handle, or NULL and nothing. -/
lemma spec_validationRuntimeOpenHandle {deviceName : CString}
    (hgpio : ∀ r ∈ runtime, r.BindsGpio o deviceName) (configuration : GpioConfiguration) :
    Spec 0 (validationRuntimeOpenHandle o runtime deviceName configuration)
      (fun r => heldBy gpioContract r.1) fun r => ∀ x ∈ r.1, x.Ready gpioContract := by
  have hnone : ∀ configuration, Spec 0
      (pure (none, configuration) : HalProgram (Option (GpioHandle GpioDevice) × GpioConfiguration))
      (fun r => heldBy gpioContract r.1) (fun r => ∀ x ∈ r.1, x.Ready gpioContract) :=
    fun configuration => Spec.pure rfl fun x hx => by cases hx
  unfold validationRuntimeOpenHandle
  rcases runtime with _ | runtime
  · exact hnone _
  · simp only
    rcases hdevices : runtime.deviceManager with _ | dm
    · exact hnone _
    · simp only
      unfold validationRuntimeOpenGpio
      rcases hdevice : dm.getDeviceByName deviceName with _ | device
      · exact hnone _
      · simp only
        rcases hplugin : (runtime.pluginManager.getD fun _ => none)
          device.binding.plugin.chars with _ | plugin
        · exact hnone _
        · have hhonours : ∀ p ∈ some plugin, p.Honours gpioContract := by
            rintro p hp ops hops
            cases hp
            rcases hmanager : runtime.pluginManager with _ | plugins
            · rw [hmanager] at hplugin
              cases hplugin
            · rw [hmanager] at hplugin
              rw [hgpio runtime rfl dm hdevices device hdevice plugins hmanager plugin hplugin ops
                hops]
              exact gpioPluginOps_honours o
          have hopen := spec_gpioHalOpen o hhonours closed_zero
          simp only [Multiset.add_zero] at hopen
          exact Spec.bind hopen fun handle hready => Spec.pure rfl hready

variable {w : Ledger HalObject}

/-- **`setup`** leaves a ready handle and returns 0 exactly when the device is opened, whatever
becomes of the configuration. -/
lemma run_statusIndicationSetup (ctx : StatusIndicationContext)
    (hgpio : ∀ r ∈ runtime, r.BindsGpio o (cstr "status_led")) (hw : w.Owns 0) :
    ∃ handle w', (statusIndicationSetup o runtime (some ctx)).run w =
        some ((if opensStatusLed o runtime w then 0 else -1, some ⟨handle⟩), w') ∧
      w'.Owns (heldBy gpioContract handle) ∧ (∀ x ∈ handle, x.Ready gpioContract) ∧
      w.log <+: w'.log := by
  obtain ⟨⟨handle, gpioConfig⟩, w₁, hrun, howns, hready, hgrows⟩ :=
    spec_validationRuntimeOpenHandle hgpio .zeroed w hw
  unfold opensStatusLed statusIndicationSetup
  simp only [StateT.run_bind, hrun, Option.any_some, Option.bind_eq_bind, Option.bind_some]
  rcases handle with _ | handle
  · exact ⟨none, w₁, rfl, howns, hready, hgrows⟩
  · have hconfigure := spec_gpioHalControl (hready handle rfl) closed_zero
      gpioCommandSetConfiguration (some gpioConfig)
    simp only [Multiset.add_zero] at hconfigure
    obtain ⟨r, w₂, hrun', howns', ⟨device, hdevice, hr⟩, hgrows'⟩ := hconfigure w₁ howns
    refine ⟨r.2, w₂, ?_, howns', fun x hx => ?_, hgrows.trans hgrows'⟩
    · show ((gpioHalControl (some handle) gpioCommandSetConfiguration (some gpioConfig)).run w₁ >>=
        _) = _
      rw [hrun']
      rfl
    · rw [hdevice] at hx
      cases hx
      exact ⟨(hready handle rfl).operations, hr⟩

/-- **`cleanup`** gives everything back. -/
lemma run_statusIndicationCleanup {handle : Option (GpioHandle GpioDevice)}
    (hw : w.Owns (heldBy gpioContract handle)) (hready : ∀ x ∈ handle, x.Ready gpioContract) :
    ∃ w', (statusIndicationCleanup (some ⟨handle⟩)).run w = some ((0, some .start), w') ∧
      w'.Owns 0 ∧ w.log <+: w'.log := by
  rcases handle with _ | handle
  · exact ⟨w, rfl, hw, List.prefix_rfl⟩
  · have hclose := spec_gpioHalClose (hready handle rfl) closed_zero
    simp only [Multiset.add_zero] at hclose
    obtain ⟨code, w', hrun, howns, -, hgrows⟩ := hclose w hw
    refine ⟨w', ?_, howns, hgrows⟩
    show ((gpioHalClose (some handle)).run w >>= _) = _
    rw [hrun]
    rfl

end callbacks

/-! ## Runs -/

section runs

/-- What a run of three callbacks does to the context, and the state it ends in. -/
lemma testEngineRunInstance_three {γ : Type*} (code : CallbackCode γ)
    (setup execute cleanup : Address) (startMs stopMs : UInt64) (s : InstanceRun γ) :
    let afterSetup := code setup s.context
    let afterExecute := code execute afterSetup.2
    let r := testEngineRunInstance code startMs stopMs ⟨some setup, some execute, some cleanup⟩ s
    r.context = (code cleanup (if afterSetup.1 = 0 then afterExecute.2 else afterSetup.2)).2 ∧
      r.inst.result.state = if afterSetup.1 = 0 ∧ afterExecute.1 = 0 then .pass else .fail := by
  intro afterSetup afterExecute r
  by_cases hsetup : (code setup s.context).1 = 0
  · simp only [r, afterExecute, afterSetup, testEngineRunInstance, InstanceRun.setup,
      InstanceRun.execute, InstanceRun.cleanup, InstanceRun.call, InstanceRun.setState, hsetup,
      Option.isSome_some, ne_eq, not_true_eq_false, and_false, if_false, if_true, true_and,
      and_self]
  · simp only [r, afterExecute, afterSetup, testEngineRunInstance, InstanceRun.setup,
      InstanceRun.execute, InstanceRun.cleanup, InstanceRun.call, InstanceRun.setState, hsetup,
      Option.isSome_some, ne_eq, not_false_eq_true, if_true, if_false, false_and,
      and_self]

variable {o : Outcomes} {w : Ledger HalObject}

/-- **One run** from a context without a handle, with nothing held. -/
lemma statusIndicationRun_ends (hw : w.Owns 0) (r : StatusRun)
    (hgpio : ∀ runtime ∈ r.runtime, runtime.BindsGpio o (cstr "status_led")) :
    ∃ w', (statusIndicationRun o (some (some .start, w)) r).context = some (some .start, w') ∧
      w'.Owns 0 ∧ w.log <+: w'.log ∧
      (statusIndicationRun o (some (some .start, w)) r).inst.result.state =
        if opensStatusLed o r.runtime w then .pass else .fail := by
  obtain ⟨handle, w₁, hsetup, howns, hready, hgrows⟩ :=
    run_statusIndicationSetup .start hgpio hw
  obtain ⟨w₂, hcleanup, howns', hgrows'⟩ := run_statusIndicationCleanup howns hready
  obtain ⟨hcontext, hstate⟩ := testEngineRunInstance_three (statusIndicationCode o r.runtime) 1 2 3
    r.startMs r.stopMs ⟨r.inst, some (some .start, w), []⟩
  have hafterSetup : statusIndicationCode o r.runtime 1 (some (some .start, w)) =
      (if opensStatusLed o r.runtime w then 0 else -1, some (some ⟨handle⟩, w₁)) := by
    show statusCallback (statusIndicationSetup o r.runtime) (some (some .start, w)) = _
    rw [statusCallback, hsetup]
  have hafterExecute : statusIndicationCode o r.runtime 2 (some (some ⟨handle⟩, w₁)) =
      (0, some (some ⟨handle⟩, w₁)) := rfl
  have hafterCleanup : statusIndicationCode o r.runtime 3 (some (some ⟨handle⟩, w₁)) =
      (0, some (some .start, w₂)) := by
    show statusCallback statusIndicationCleanup (some (some ⟨handle⟩, w₁)) = _
    rw [statusCallback, hcleanup]
  refine ⟨w₂, ?_, howns', hgrows.trans hgrows', ?_⟩
  · refine hcontext.trans ?_
    simp only [hafterSetup, hafterExecute, ite_self, hafterCleanup]
  · refine hstate.trans ?_
    simp only [hafterSetup, hafterExecute, and_true]
    rcases opensStatusLed o r.runtime w with _ | _
    · rfl
    · rfl

/-- **Any number of runs.** -/
lemma statusIndicationRuns_ends {runs : List StatusRun}
    (hgpio : ∀ r ∈ runs, ∀ runtime ∈ r.runtime, runtime.BindsGpio o (cstr "status_led"))
    (hw : w.Owns 0) :
    ∃ w', statusIndicationRuns o (some (some .start, w)) runs = some (some .start, w') ∧
      w'.Owns 0 ∧ w.log <+: w'.log := by
  induction runs generalizing w with
  | nil => exact ⟨w, rfl, hw, List.prefix_rfl⟩
  | cons r runs ih =>
      obtain ⟨w₁, hcontext, howns, hgrows, -⟩ :=
        statusIndicationRun_ends hw r (hgpio r List.mem_cons_self)
      obtain ⟨w₂, hruns, howns', hgrows'⟩ :=
        ih (fun r' hr' => hgpio r' (List.mem_cons_of_mem _ hr')) howns
      refine ⟨w₂, ?_, howns', hgrows.trans hgrows'⟩
      rw [statusIndicationRuns, List.foldl_cons, hcontext]
      exact hruns

end runs

/-- **The status indication test gives everything back.** After any runs, with any outcomes and any
runtimes that bind the status LED, if at all, to the gpio plugin, the context has no handle and the
log is settled; and the next run ends with PASS exactly when the device is opened, whatever becomes
of its configuration.
Source: `validation/status_indication_test/status-indication-test.c` -/
theorem statusIndication_accounted (o : Outcomes) {runs : List StatusRun}
    (hgpio : ∀ r ∈ runs, ∀ runtime ∈ r.runtime, runtime.BindsGpio o (cstr "status_led")) :
    ∃ w, statusIndicationRuns o (some (some .start, .empty _)) runs = some (some .start, w) ∧
      Settled w.log ∧ ∀ r : StatusRun,
        (∀ runtime ∈ r.runtime, runtime.BindsGpio o (cstr "status_led")) →
          (statusIndicationRun o (some (some .start, w)) r).inst.result.state =
            if opensStatusLed o r.runtime w then .pass else .fail := by
  obtain ⟨w, hruns, howns, -⟩ := statusIndicationRuns_ends hgpio Ledger.owns_empty
  refine ⟨w, hruns, howns.orderly.settled, fun r hr => ?_⟩
  obtain ⟨-, -, -, -, hstate⟩ := statusIndicationRun_ends howns r hr
  exact hstate

/-- The device of the status LED, with two lines of a gpio object. -/
def statusLed : Device :=
  { ledDevice (GpioArrays.uniform 2 false).object with
    name := safeStringCopy (cstr "status_led") deviceNameLength }

/-- The managers, when the status LED is bound to a gpio plugin. -/
def statusRuntime (o : Outcomes) : ValidationRuntime where
  deviceManager := some ⟨.ofList _ statusLed [statusLed]⟩
  pluginManager := some fun name =>
    if name = cstr "gpio" then some ⟨some (gpioPluginOps o)⟩ else none

/-- Two runs of the test. -/
def statusRunsTwice (o : Outcomes) : List StatusRun :=
  [⟨some (statusRuntime o), 100, 250, queuedInstance⟩,
    ⟨some (statusRuntime o), 300, 450, queuedInstance⟩]

/-- Two runs, with a call of libgpiod that fails in the first one. -/
theorem statusIndication_accounted_twice :
    ∃ w, statusIndicationRuns ⟨fun k => k ≠ 18, fun _ => true⟩ (some (some .start, .empty _))
        (statusRunsTwice ⟨fun k => k ≠ 18, fun _ => true⟩) = some (some .start, w) ∧
      Settled w.log := by
  have hplugins : ∀ o, (statusRuntime o).BindsGpio o (cstr "status_led") := by
    intro o _ _ device _ plugins hmanager plugin hplugin ops hops
    cases hmanager
    by_cases hname : device.binding.plugin.chars = cstr "gpio"
    · simp only [hname, if_true, Option.mem_some_iff] at hplugin
      subst hplugin
      exact (Option.some.inj hops).symm
    · simp only [hname, if_false, Option.mem_def, reduceCtorEq] at hplugin
  have hruns : ∀ o, ∀ r ∈ statusRunsTwice o, ∀ runtime ∈ r.runtime,
      runtime.BindsGpio o (cstr "status_led") := by
    intro o r hr runtime hruntime
    simp only [statusRunsTwice, List.mem_cons, List.not_mem_nil, or_false] at hr
    rcases hr with rfl | rfl
    · cases hruntime
      exact hplugins o
    · cases hruntime
      exact hplugins o
  obtain ⟨w, hends, hsettled, -⟩ := statusIndication_accounted _ (hruns _)
  exact ⟨w, hends, hsettled⟩

end HardwareTest
