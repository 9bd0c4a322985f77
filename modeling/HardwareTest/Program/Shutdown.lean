import HardwareTest.Engine.Shutdown
import HardwareTest.Program.Main

/-!
# The end of the process: `main.c`, `cleanup`

`main` calls `test_engine_deinit` behind its command, with the workers where they happen to be.

* `engineInService`: the functions of the engine over `EngineLife`, so with the workers that wait
  for `queue_condition`. It refines the inert engine, too (`engineInService_refines`).
* `MainStops inv result s u`: a whole run with an engine, from the creation of the threads over the
  command with this result to the state `s` in which `main` calls `test_engine_deinit`, and the
  state `u` in which the flag is cleared.
* `mainStops_returns_iff`: **the process can end iff no worker waits in `s`.**
* `mainStops_either`: **whatever the command is**, with the same result the process can end, and it
  can hang.
-/

namespace HardwareTest

open Lib

/-! ## The engine with its waiting workers -/

section service

variable {ω : Type*} [DecidableEq ω]

/-- A step of a worker, or of the caller inside a call. -/
def LifeAct.goesOn : LifeAct ω → Bool
  | .work .. => true
  | .call .proceed _ => true
  | _ => false

/-- A step of `test_engine_init`, or of a worker. -/
def LifeAct.starts : LifeAct ω → Bool
  | .work .. => true
  | .init _ => true
  | _ => false

variable [Fintype ω]

/-- A call of `test_engine_execute` from its beginning to its return, with the steps of the workers
meanwhile. The return code is 0 iff the call has left a submission. -/
structure LifeExecuteReturns (name : CString) (s : EngineLife ω) (code : ℤ) (t : EngineLife ω) :
    Prop where
  returns : ∃ begun tr woken, lifeStep s (.call (.execute name) woken) = some begun ∧
    Run (stepOf lifeStep) begun tr t ∧ ∀ p ∈ tr, p.2.goesOn = true
  callerIdle : t.system.caller = .idle
  code : code = if s.system.submissions.length < t.system.submissions.length then 0 else -1

/-- The replies of the engine, from states in which it serves. -/
inductive LifeReplies : (op : EngineOp) → EngineLife ω → op.Reply → EngineLife ω → Prop
  | register {s : EngineLife ω} (name : CString) (context : Option Address)
      (operations : TestOperations) : s.system.caller = .idle →
      LifeReplies (.register name context operations) s
        (s.system.engine.register name context operations).1
        { s with system := { s.system with
          engine := (s.system.engine.register name context operations).2 } }
  | execute {s t : EngineLife ω} {name : CString} {code : ℤ} : s.system.caller = .idle →
      LifeExecuteReturns name s code t → LifeReplies (.execute name) s code t
  | getResult {s : EngineLife ω} (name : CString) : s.system.caller = .idle →
      LifeReplies (.getResult name) s (s.system.engine.getResult name) s
  | testName {s : EngineLife ω} (index : ℕ) : s.system.caller = .idle →
      LifeReplies (.testName index) s
        ((s.system.engine.tests.get? index).map fun entry => entry.name.chars) s

/-- The engine in use, with the workers that wait. -/
def engineInService (ω : Type*) [DecidableEq ω] [Fintype ω] :
    Service EngineOp EngineOp.Reply (EngineLife ω) where
  background s t := ∃ w env woken, lifeStep s (.work w env woken) = some t
  replies := LifeReplies

/-- An engine without instances that serves. -/
structure Serving (s : EngineLife ω) : Prop extends IdleLife s where
  serving : s.phase.isServing = true

variable {s t : EngineLife ω} {x : InertEngine}

/-- A step that goes on stays in its phase and shows in the system as a step, or not at all. -/
lemma system_of_lifeStep {act : LifeAct ω} (hgoes : act.goesOn = true)
    (h : lifeStep s act = some t) :
    t.phase = s.phase ∧ (t.system = s.system ∨
      ∃ l : EngineAct ω, l.goesOn = true ∧ engineStep s.system l = some t.system) := by
  cases lifeStep_moves h with
  | block => exact ⟨rfl, .inl rfl⟩
  | enter => exact ⟨rfl, .inl rfl⟩
  | work w env _ system _ _ _ hstep => exact ⟨rfl, .inr ⟨.work w env, rfl, hstep⟩⟩
  | call act _ _ system _ _ hstep =>
      rcases act with name | _
      · cases hgoes
      · exact ⟨rfl, .inr ⟨.call .proceed, rfl, hstep⟩⟩
  | create => cases hgoes
  | giveUp => cases hgoes
  | serve => cases hgoes
  | joinedCreated => cases hgoes
  | freeCreated => cases hgoes
  | stop => cases hgoes
  | joined => cases hgoes
  | free => cases hgoes

/-- A step that goes on leaves the engine in service. -/
lemma Serving.step (h : Serving s) {act : LifeAct ω} (hgoes : act.goesOn = true)
    (hstep : lifeStep s act = some t) : Serving t := by
  refine ⟨h.toIdleLife.step hstep, ?_⟩
  rw [(system_of_lifeStep hgoes hstep).1]
  exact h.serving

/-- A call leaves the engine in service, and shows in the system as a call. -/
lemma LifeExecuteReturns.system {name : CString} {code : ℤ} (h : LifeExecuteReturns name s code t)
    (hs : Serving s) : Serving t ∧ ExecuteReturns name s.system code t.system := by
  obtain ⟨⟨begun, tr, woken, hbegin, hrun, hgoes⟩, hidle, hcode⟩ := h
  obtain ⟨hphase, hcall⟩ : begun.phase = s.phase ∧
      callerStep s.system (.execute name) = some begun.system := by
    cases lifeStep_moves hbegin with
    | call _ _ _ _ _ _ hstep => exact ⟨rfl, hstep⟩
  have hbegun : Serving begun := ⟨hs.toIdleLife.step hbegin, hphase ▸ hs.serving⟩
  have ht : Serving t :=
    hrun.invariantAlong (C := fun _ act => act.goesOn = true) hbegun
      (fun _ _ _ hu hgoes hstep => hu.step hgoes hstep) hgoes
  have hshows : ∀ (a : EngineLife ω) (act : LifeAct ω) (b : EngineLife ω), act.goesOn = true →
      stepOf lifeStep a act b → b.system = a.system ∨
        ∃ l : EngineAct ω, l.goesOn = true ∧ stepOf engineStep a.system l b.system :=
    fun _ _ _ hgoes hstep => (system_of_lifeStep hgoes hstep).2
  obtain ⟨tr', hrun', hgoes'⟩ := hrun.project EngineLife.system hshows hgoes
  exact ⟨ht, ⟨begun.system, tr', hcall, hrun', hgoes'⟩, hidle, hcode⟩

/-- Every operation gets a reply at once, that leaves everybody where he is. -/
lemma Serving.exists_reply (h : Serving s) (hinert : Inert s.system x) (op : EngineOp) :
    ∃ r t, LifeReplies op s r t ∧ ∀ v, t.Waits v ↔ s.Waits v := by
  obtain ⟨workers, hphase⟩ := EnginePhase.exists_of_isServing h.serving
  have hcall : ∀ (u : EngineLife ω) act system, u.phase = .serving workers →
      (∀ p i n, u.system.caller ≠ .pushing p i n) → callerStep u.system act = some system →
      lifeStep u (.call act none) = some { u with system := system } := by
    intro u act system hphase hcaller hstep
    simp only [lifeStep, lifeCaller, hphase]
    rw [hstep, ← hphase]
    rfl
  have hidle := hinert.callerIdle
  cases op with
  | register name context operations =>
      exact ⟨_, _, .register name context operations hidle, fun _ => Iff.rfl⟩
  | execute name =>
      have hnot : ∀ p i n, s.system.caller ≠ .pushing p i n := by simp [hidle]
      obtain ⟨begun, hbegin, -, ⟨-, rfl⟩ | ⟨-, hs⟩⟩ := hinert.begin name
      · refine ⟨_, { s with system := s.system }, .execute hidle
          ⟨⟨_, [], none, hcall s _ _ hphase hnot hbegin, .start, by simp⟩, hidle, rfl⟩,
          fun _ => Iff.rfl⟩
      · obtain ⟨system, hproceed⟩ := exists_proceed hs.callerInside
        have hfirst := hcall s _ _ hphase hnot hbegin
        have hlast := hcall { s with system := begun } .proceed system hphase hs.notPushing hproceed
        have hrun : Run (stepOf lifeStep) { s with system := begun }
            ([] ++ [({ s with system := begun }, .call .proceed none)])
            { s with system := system } := .next .start hlast
        exact ⟨_, { s with system := system }, .execute hidle ⟨⟨_, _, none, hfirst, hrun,
          by simp [LifeAct.goesOn]⟩, (hs.proceed hproceed).1.callerIdle, rfl⟩, fun _ => Iff.rfl⟩
  | getResult name => exact ⟨_, _, .getResult name hidle, fun _ => Iff.rfl⟩
  | testName index => exact ⟨_, _, .testName index hidle, fun _ => Iff.rfl⟩

omit [DecidableEq ω] [Fintype ω] in
/-- Registering a test leaves the engine in service. -/
lemma Serving.register (h : Serving s) (name : CString) (context : Option Address)
    (operations : TestOperations) :
    Serving { s with system := { s.system with
      engine := (s.system.engine.register name context operations).2 } } := by
  rw [register_eq]
  obtain ⟨hqueue, hbelow, hfree, hpushing, hframe⟩ := h.quiet
  exact ⟨⟨⟨hqueue, hbelow, hfree, hpushing, hframe⟩, h.created, h.alive, h.waiting, h.stopped⟩,
    h.serving⟩

/-- **The engine with its waiting workers** refines the inert one, too. -/
theorem engineInService_refines :
    Refines (engineInService ω) InertEngine.serve fun s x => Serving s ∧ Inert s.system x := by
  refine engineService_refines.of_projection EngineLife.system ?_ ?_ ?_
  · rintro s t hs ⟨w, env, woken, hstep⟩
    refine ⟨hs.step rfl hstep, ?_⟩
    cases lifeStep_moves hstep with
    | block => exact .inl rfl
    | enter => exact .inl rfl
    | work _ _ _ _ _ _ _ hwork => exact .inr ⟨w, env, hwork⟩
  · intro op s r t hs hreply
    cases hreply with
    | register name context operations hidle =>
        exact ⟨hs.register name context operations, .register name context operations hidle⟩
    | execute hidle hreturns =>
        obtain ⟨ht, hreturns⟩ := hreturns.system hs
        exact ⟨ht, .execute hidle hreturns⟩
    | getResult name hidle => exact ⟨hs, .getResult name hidle⟩
    | testName index hidle => exact ⟨hs, .testName index hidle⟩
  · intro op s x hs hinert
    obtain ⟨r, t, hreply, -⟩ := hs.exists_reply hinert op
    exact ⟨r, t, hreply⟩

end service

/-! ## From the threads to the stop -/

/-- The engine before its threads: as `test_engine_init` has filled it, with the flag of the block.
Source: `services/test-engine.c`, `test_engine_init` -/
def engineBeforeThreads (e block : TestEngine) : EngineLife Worker :=
  .beforeThreads { e with running := block.running } (List.finRange testEngineMaxWorkers.toNat)

/-- **A run with an engine** up to the stop: the workers start, and take any steps from then on; the
command has its result in the state `s`, in which `test_engine_deinit` is called; `u` is the state
in which it has cleared the flag. The flag is what the block of the engine held until
`test_engine_init` assigns it. Source: `main.c`, `main` -/
inductive MainStops (inv : Invocation) :
    ℤ × CommandOutput → EngineLife Worker → EngineLife Worker → Prop
  | intro {managers : Managers} {system : ValidationSystem} {options : CliOptions} {e : TestEngine}
      {block : TestEngine} {tr : List (EngineLife Worker × LifeAct Worker)}
      {served s u : EngineLife Worker} {result : ℤ × CommandOutput} :
      mainStart inv = some (.command managers system options) → managers.testEngine = some e →
      inv.testEngineBlock = some block →
      Run (stepOf lifeStep) (engineBeforeThreads e block) tr served →
      (∀ p ∈ tr, p.2.starts = true) → served.phase.isServing = true →
      (engineInService Worker).Executes served (mainCommand managers system options) result s →
      lifeStep s .deinit = some u → MainStops inv result s u

section stops

variable {inv : Invocation} {managers : Managers} {system : ValidationSystem}
  {options : CliOptions} {e block : TestEngine} {result : ℤ × CommandOutput}
  {tr : List (EngineLife Worker × LifeAct Worker)} {s t u : EngineLife Worker}

/-- While the threads start, the engine is as it was made, but for the flag. -/
structure AtRest (e : TestEngine) (s : EngineLife Worker) : Prop extends IdleLife s where
  callerIdle : s.system.caller = .idle
  engine : s.system.engine = { e with running := s.system.engine.running }

/-- A step of the start leaves the engine at rest. -/
lemma AtRest.step (h : AtRest e s) {act : LifeAct Worker} (hstarts : act.starts = true)
    (hstep : lifeStep s act = some t) : AtRest e t := by
  have hsame : t.system.caller = .idle ∧
      t.system.engine = { e with running := t.system.engine.running } := by
    cases lifeStep_moves hstep with
    | block => exact ⟨h.callerIdle, h.engine⟩
    | enter => exact ⟨h.callerIdle, h.engine⟩
    | work w env _ system _ _ _ hwork =>
        obtain ⟨pc, -, rfl⟩ := h.quiet.work hwork
        exact ⟨h.callerIdle, h.engine⟩
    | serve =>
        exact ⟨h.callerIdle, congrArg (fun e : TestEngine => { e with running := true }) h.engine⟩
    | create => exact ⟨h.callerIdle, h.engine⟩
    | giveUp => exact ⟨h.callerIdle, h.engine⟩
    | joinedCreated => exact ⟨h.callerIdle, h.engine⟩
    | freeCreated => exact ⟨h.callerIdle, h.engine⟩
    | call => cases hstarts
    | stop => cases hstarts
    | joined => cases hstarts
    | free => cases hstarts
  exact ⟨h.toIdleLife.step hstep, hsame.1, hsame.2⟩

/-- What the command finds: an engine in service, inert as it was made. -/
lemma served_of_start (hstart : mainStart inv = some (.command managers system options))
    (he : managers.testEngine = some e)
    (hrun : Run (stepOf lifeStep) (engineBeforeThreads e block) tr s)
    (hstarts : ∀ p ∈ tr, p.2.starts = true) (hserving : s.phase.isServing = true) :
    Serving s ∧ Inert s.system e.atRest := by
  have hfree : ∀ _ : Worker, WorkerPc.loopHead.isFree = true := fun _ => rfl
  obtain ⟨hstarted, hcount⟩ := started_of_mainStart hstart he hfree
  have hbefore : AtRest e (engineBeforeThreads e block) :=
    ⟨idleLife_beforeThreads _ hstarted.queueEmpty hstarted.quiet.belowLimit, rfl, rfl⟩
  have hrest : AtRest e s :=
    hrun.invariantAlong (C := fun _ act => act.starts = true) hbefore
      (fun _ _ _ hu hstarts hstep => hu.step hstarts hstep) hstarts
  have hengine := hrest.engine
  have hinstances := congrArg TestEngine.instanceCount hengine
  have htests := congrArg TestEngine.tests hengine
  have hpending :=
    congrArg (fun e : TestEngine => e.scheduler.pendingInstances.items.length) hengine
  exact ⟨⟨hrest.toIdleLife, hserving⟩, hrest.quiet, hrest.callerIdle, hinstances.trans hcount,
    htests, hpending⟩

/-- A run that comes to the stop has the one result, and stops an engine in service. -/
lemma MainStops.serving (h : MainStops inv result s u) :
    MainEnds inv result ∧ Serving s ∧ lifeStep s .deinit = some u := by
  obtain ⟨hstart, he, -, hrun, hstarts, hserving, hexecutes, hstop⟩ := h
  obtain ⟨hresult, hs, -⟩ :=
    engineInService_refines.executes (served_of_start hstart he hrun hstarts hserving) hexecutes
  refine ⟨(mainEnds_iff inv _).mpr ?_, hs, hstop⟩
  simp only [mainResult, hstart, Option.map_some, he, hresult]

end stops

/-! ## Both ends -/

section either

variable {ω : Type*} [DecidableEq ω] [Fintype ω]

/-- The engine with all its threads, none of which has taken a step. -/
def EngineLife.allCreated (s : EngineLife ω) (before rest : List ω) : EngineLife ω :=
  { s.setRunning true with
    phase := .serving (before ++ rest)
    started := fun v => decide (v ∈ rest) || s.started v }

/-- The loop of `test_engine_init`, before any other thread takes a step. -/
lemma exec_allCreated {s : EngineLife ω} {before rest : List ω}
    (hphase : s.phase = .creating before rest) :
    exec lifeStep s (List.replicate (rest.length + 1) (.init true)) =
      some (s.allCreated before rest) := by
  induction rest generalizing s before with
  | nil => simp [exec, lifeStep, lifeInit, hphase, EngineLife.allCreated, EngineLife.setRunning]
  | cons w rest ih =>
      let created : EngineLife ω := { s with
        phase := .creating (before ++ [w]) rest
        started := Function.update s.started w true }
      have hrest : exec lifeStep created (List.replicate (rest.length + 1) (.init true)) =
          some (created.allCreated (before ++ [w]) rest) := ih rfl
      simp only [List.length_cons, List.replicate_succ (n := rest.length + 1), exec, lifeStep,
        lifeInit, hphase, if_true, Option.bind_some]
      rw [hrest]
      simp only [created, EngineLife.allCreated, EngineLife.setRunning, List.append_assoc,
        List.singleton_append, Option.some.injEq, EngineLife.mk.injEq, true_and, and_true]
      funext v
      by_cases hv : v = w
      · simp [hv]
      · simp [hv]

/-- A worker that finds nothing queued comes to wait. -/
lemma exec_waits {s : EngineLife ω} {w : ω} (hstarted : s.started w = true)
    (hw : s.system.workers w = .loopHead) (hrunning : s.system.engine.running = true)
    (hempty : s.system.engine.executionQueue.count = 0) (hentering : s.entering = none)
    (hblocked : s.blocked w = false) :
    ∃ t, exec lifeStep s (List.replicate 3 (.work w ⟨0, 0, 0⟩ none)) = some t ∧ t.Waits w ∧
      t.phase = s.phase := by
  let popping : EngineLife ω := { s with system := s.system.goto w .popping }
  have hfirst : lifeStep s (.work w ⟨0, 0, 0⟩ none) = some popping := by
    simp [lifeStep, lifeWorker, workerStep, hstarted, hw, hrunning, hentering, hblocked, popping]
  have hsecond : lifeStep popping (.work w ⟨0, 0, 0⟩ none) =
      some { popping with entering := some w } := by
    simp [lifeStep, lifeWorker, hstarted, hrunning, hempty, hentering, hblocked, popping]
  have hthird : lifeStep { popping with entering := some w } (.work w ⟨0, 0, 0⟩ none) =
      some { popping with entering := none, blocked := Function.update s.blocked w true } := by
    simp [lifeStep, lifeWorker, hstarted, hblocked, popping]
  refine ⟨{ popping with entering := none, blocked := Function.update s.blocked w true }, ?_,
    .inr (Function.update_self ..), rfl⟩
  simp only [List.replicate, exec, hfirst, Option.bind_some, hsecond, hthird]

end either

section exit

variable {inv : Invocation} {managers : Managers} {system : ValidationSystem}
  {options : CliOptions} {e block : TestEngine}
  {tr : List (EngineLife Worker × LifeAct Worker)} {served : EngineLife Worker}

/-- From every state in which the threads are created the command can come to its end, while nobody
begins or ends to wait. -/
lemma exists_mainStops (hstart : mainStart inv = some (.command managers system options))
    (he : managers.testEngine = some e) (hblock : inv.testEngineBlock = some block)
    (hrun : Run (stepOf lifeStep) (engineBeforeThreads e block) tr served)
    (hstarts : ∀ p ∈ tr, p.2.starts = true) (hserving : served.phase.isServing = true) :
    ∃ s u, MainStops inv ((mainCommand managers system options).eval InertEngine.serve e.atRest).1
      s u ∧ ∀ v, s.Waits v ↔ served.Waits v := by
  have hserved := served_of_start hstart he hrun hstarts hserving
  have hreplies : ∀ op s x, (Serving s ∧ Inert s.system x) →
      (∀ v, s.Waits v ↔ served.Waits v) → ∃ r t, (engineInService Worker).replies op s r t ∧
        ∀ v, t.Waits v ↔ served.Waits v := by
    rintro op s x ⟨hs, hinert⟩ hkept
    obtain ⟨r, t, hreply, hsame⟩ := hs.exists_reply hinert op
    exact ⟨r, t, hreply, fun v => (hsame v).trans (hkept v)⟩
  obtain ⟨s, hexecutes, hkept⟩ := engineInService_refines.exists_executes_keeping hreplies
    (mainCommand managers system options) hserved fun _ => Iff.rfl
  obtain ⟨-, hs, hinert⟩ := engineInService_refines.executes hserved hexecutes
  obtain ⟨workers, hphase⟩ := EnginePhase.exists_of_isServing hs.serving
  obtain ⟨u, hstop⟩ : ∃ u, lifeStep s .deinit = some u :=
    ⟨_, by simp only [lifeStep, lifeDeinit, hphase, hinert.callerIdle, if_true]; rfl⟩
  exact ⟨s, u, .intro hstart he hblock hrun hstarts hserving hexecutes hstop, hkept⟩

/-- The history of a computed run of one kind of steps. -/
lemma starts_of_replicate {act : LifeAct Worker} (hstarts : act.starts = true) {n : ℕ}
    {s : EngineLife Worker} : ∀ p ∈ history lifeStep s (List.replicate n act),
      p.2.starts = true := by
  intro p hp
  rw [List.eq_of_mem_replicate (mem_of_mem_history hp)]
  exact hstarts

/-- All threads are created, and none has taken a step; or the first one has come to wait. -/
lemma exists_served (block : TestEngine) (hqueue : e.executionQueue.count = 0) (waits : Bool) :
    ∃ tr served, Run (stepOf lifeStep) (engineBeforeThreads e block) tr served ∧
      (∀ p ∈ tr, p.2.starts = true) ∧ served.phase.isServing = true ∧
        (served.NobodyWaits ↔ waits = false) := by
  let created : EngineLife Worker :=
    (engineBeforeThreads e block).allCreated [] (List.finRange testEngineMaxWorkers.toNat)
  have hcreated : Run (stepOf lifeStep) (engineBeforeThreads e block) _ created :=
    run_of_exec _ (exec_allCreated rfl)
  have hinit : ∀ p ∈ history lifeStep (engineBeforeThreads e block) (List.replicate
      ((List.finRange testEngineMaxWorkers.toNat).length + 1) (.init true)), p.2.starts = true :=
    starts_of_replicate rfl
  rcases waits with _ | _
  · have hnobody : created.NobodyWaits := ⟨rfl, fun _ => rfl⟩
    exact ⟨_, created, hcreated, hinit, rfl, iff_of_true hnobody rfl⟩
  · let first : Worker := ⟨0, by decide⟩
    obtain ⟨served, hexec, hwaits, hphase⟩ := exec_waits (s := created) (w := first)
      (by simp [created, EngineLife.allCreated]) rfl rfl hqueue rfl rfl
    have hrun := hcreated.append_exec hexec
    refine ⟨_, served, hrun, fun p hp => ?_, by rw [hphase]; rfl, iff_of_false ?_ (by simp)⟩
    · rcases List.mem_append.mp hp with hp | hp
      · exact hinit p hp
      · exact starts_of_replicate rfl p hp
    · exact fun hnobody => nobodyWaits_iff.mp hnobody first hwaits

/-- **Both ends of a command**: with the first worker waiting when the engine is stopped, and with
nobody waiting. -/
lemma exists_mainStops_waits (hstart : mainStart inv = some (.command managers system options))
    (he : managers.testEngine = some e) (waits : Bool) :
    ∃ s u, MainStops inv ((mainCommand managers system options).eval InertEngine.serve e.atRest).1
      s u ∧ (s.NobodyWaits ↔ waits = false) := by
  obtain ⟨-, -, hruntime, -, -⟩ := mainStart_command_iff.mp hstart
  obtain ⟨block, hblock⟩ : ∃ block, inv.testEngineBlock = some block := by
    have hmade := engineMade_of_startRuntime hruntime e he
    rcases hblock : inv.testEngineBlock with _ | block
    · rw [hblock] at hmade
      cases hmade
    · exact ⟨block, rfl⟩
  have hfree : ∀ _ : Worker, WorkerPc.loopHead.isFree = true := fun _ => rfl
  obtain ⟨hstarted, -⟩ := started_of_mainStart hstart he hfree
  obtain ⟨tr, served, hrun, hstarts, hserving, hwaits⟩ :=
    exists_served block hstarted.queueEmpty waits
  obtain ⟨s, u, hstops, hkept⟩ := exists_mainStops hstart he hblock hrun hstarts hserving
  refine ⟨s, u, hstops, Iff.trans ?_ hwaits⟩
  rw [nobodyWaits_iff, nobodyWaits_iff]
  exact forall_congr' fun v => not_congr (hkept v)

end exit

/-- A run comes to the command with an engine. -/
def MainStart.hasEngine : MainStart → Bool
  | .command managers _ _ => managers.testEngine.isSome
  | .exits .. => false

/-- So does the run of the LED test. -/
lemma ledInvocation_hasEngine : ∃ managers system options e,
    mainStart ledInvocation = some (.command managers system options) ∧
      managers.testEngine = some e := by
  have hengine : (mainStart ledInvocation).any MainStart.hasEngine = true := by decide +kernel
  rw [Option.any_eq_true] at hengine
  obtain ⟨start, hstart, hengine⟩ := hengine
  rcases start with ⟨status, output⟩ | ⟨managers, system, options⟩
  · cases hengine
  · obtain ⟨e, he⟩ := Option.isSome_iff_exists.mp hengine
    exact ⟨managers, system, options, e, hstart, he⟩

/-- **Whether the process ends.** Behind every run with an engine `test_engine_deinit` can return
iff no worker waits when `main` calls it; and then it returns under every schedule.
Source: `main.c`, `main`; `services/runtime.c`, `runtime_manager_deinit` -/
theorem mainStops_returns_iff {inv : Invocation} {result : ℤ × CommandOutput}
    {s u : EngineLife Worker} (h : MainStops inv result s u) :
    MainEnds inv result ∧
      ((∃ t, Reachable (stepOf lifeStep) u t ∧ t.phase = .gone) ↔ s.NobodyWaits) ∧
      (s.NobodyWaits → ∀ tr t, Run (stepOf lifeStep) u tr t →
        tr.length ≤ 2 * Fintype.card Worker + (s.phase.created.length + 1) ∧
          (t.phase = .gone ∨ ∃ act t', lifeStep t act = some t')) := by
  obtain ⟨hends, hs, hstop⟩ := h.serving
  exact ⟨hends, hs.returns_iff hs.serving hstop,
    fun hnobody _ _ hrun => hs.ends hs.serving hstop hnobody hrun⟩

/-- The LED test, with a worker that waits when the engine is stopped. -/
theorem mainStops_returns_iff_led :
    ∃ (result : ℤ × CommandOutput) (s u : EngineLife Worker), ¬ s.NobodyWaits ∧
      MainEnds ledInvocation result ∧
      ((∃ t, Reachable (stepOf lifeStep) u t ∧ t.phase = .gone) ↔ s.NobodyWaits) ∧
      (s.NobodyWaits → ∀ tr t, Run (stepOf lifeStep) u tr t →
        tr.length ≤ 2 * Fintype.card Worker + (s.phase.created.length + 1) ∧
          (t.phase = .gone ∨ ∃ act t', lifeStep t act = some t')) := by
  obtain ⟨managers, system, options, e, hstart, he⟩ := ledInvocation_hasEngine
  obtain ⟨s, u, hstops, hwaits⟩ := exists_mainStops_waits hstart he true
  exact ⟨_, s, u, by simp [hwaits], mainStops_returns_iff hstops⟩

/-- **Whatever the command is**: with an engine, and with the same result, there is a run whose
process ends, and there is one whose process never does, whatever the threads do from then on.
Source: `main.c`, `main` -/
theorem mainStops_either {inv : Invocation} {managers : Managers} {system : ValidationSystem}
    {options : CliOptions} {e : TestEngine}
    (hstart : mainStart inv = some (.command managers system options))
    (he : managers.testEngine = some e) :
    ∃ result, MainEnds inv result ∧
      (∃ s u t, MainStops inv result s u ∧ Reachable (stepOf lifeStep) u t ∧ t.phase = .gone) ∧
      ∃ s u, MainStops inv result s u ∧ ∀ t, Reachable (stepOf lifeStep) u t → t.phase ≠ .gone := by
  obtain ⟨s, u, hquiet, hnobody⟩ := exists_mainStops_waits hstart he false
  obtain ⟨s', u', hwaiting, hsomebody⟩ := exists_mainStops_waits hstart he true
  obtain ⟨hends, hs, hstop⟩ := hquiet.serving
  obtain ⟨-, hs', hstop'⟩ := hwaiting.serving
  obtain ⟨t, hreach, hgone⟩ := (hs.returns_iff hs.serving hstop).mpr (hnobody.mpr rfl)
  refine ⟨_, hends, ⟨s, u, t, hquiet, hreach, hgone⟩, s', u', hwaiting, ?_⟩
  intro t hreach hgone
  have hnobody' := (hs'.returns_iff hs'.serving hstop').mp ⟨t, hreach, hgone⟩
  cases hsomebody.mp hnobody'

/-- The run of the LED test. -/
theorem mainStops_either_led :
    ∃ result, MainEnds ledInvocation result ∧
      (∃ s u t, MainStops ledInvocation result s u ∧ Reachable (stepOf lifeStep) u t ∧
        t.phase = .gone) ∧
      ∃ s u, MainStops ledInvocation result s u ∧
        ∀ t, Reachable (stepOf lifeStep) u t → t.phase ≠ .gone := by
  obtain ⟨managers, system, options, e, hstart, he⟩ := ledInvocation_hasEngine
  exact mainStops_either hstart he

end HardwareTest
