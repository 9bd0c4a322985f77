import HardwareTest.Engine.Step
import Mathlib.Data.Fintype.Basic
import Mathlib.Logic.Function.Basic

/-!
# The engine from start to shutdown

`test_engine_init` starts the workers one after the other and assigns `running` behind the last
one; `test_engine_deinit` clears it and joins them. Over the steps of `Engine/Step.lean` this module
has the threads that start and stop the engine, and the condition variable:

* **Waiting.** A worker tests the condition of its `while` with the lock held (`entering`), then
  blocks (`blocked`). A push signals one blocked worker, when there is one; nothing else wakes it.
  The sections under `queue_lock` are not entered while a worker is between test and block.
* **Phases.** `EnginePhase`: creating the workers, giving up after a failed `pthread_create`,
  serving, joining, gone.
* `shutdown_progress`: when no worker waits at the moment `test_engine_deinit` clears `running`, a
  worker can always go on until all are joined.
* `allInService_iff`: no worker has left its loop before `test_engine_deinit` iff the flag was true
  in the block, or no worker took a step before it was assigned.
-/

namespace HardwareTest

open Lib

/-! ## The model -/

/-- Where the thread is that starts and stops the engine; the lists are workers, in the order of
`workers[]`. Source: `services/test-engine.c`, `test_engine_init`, `test_engine_deinit` -/
inductive EnginePhase (ω : Type*)
  /-- In the loop of `test_engine_init`: the workers created so far, and the others. -/
  | creating (created rest : List ω)
  /-- A `pthread_create` has failed: joining the workers created before. -/
  | abandoning (rest : List ω)
  /-- `test_engine_init` has returned the engine. -/
  | serving (workers : List ω)
  /-- In `test_engine_deinit`: joining the workers. -/
  | joining (rest : List ω)
  /-- The engine is freed. -/
  | gone
deriving DecidableEq

/-- The workers with a thread that is not joined yet. -/
def EnginePhase.created {ω : Type*} : EnginePhase ω → List ω
  | .creating before _ => before
  | .abandoning rest => rest
  | .serving workers => workers
  | .joining rest => rest
  | .gone => []

/-- `test_engine_init` is in its loop. -/
def EnginePhase.isCreating {ω : Type*} : EnginePhase ω → Bool
  | .creating .. => true
  | _ => false

/-- `test_engine_init` has returned the engine, and `test_engine_deinit` is not called. -/
def EnginePhase.isServing {ω : Type*} : EnginePhase ω → Bool
  | .serving _ => true
  | _ => false

/-- An engine in service is not being started. -/
lemma EnginePhase.isCreating_of_isServing {ω : Type*} {phase : EnginePhase ω}
    (h : phase.isServing = true) : phase.isCreating = false := by
  rcases phase with _ | _ | _ | _ | _
  case serving => rfl
  all_goals cases h

/-- `test_engine_deinit` has cleared the flag and joins. -/
def EnginePhase.isJoining {ω : Type*} : EnginePhase ω → Bool
  | .joining _ => true
  | _ => false

/-- The system with its phase, the workers whose thread exists, and who waits for
`queue_condition`. -/
structure EngineLife (ω : Type*) where
  system : EngineSystem ω
  phase : EnginePhase ω
  started : ω → Bool
  /-- The worker that has found the queue empty and the engine running, and holds the lock. -/
  entering : Option ω
  /-- The workers in `pthread_cond_wait` without a signal delivered. -/
  blocked : ω → Bool

variable {ω : Type*} [DecidableEq ω]

/-- The engine as `test_engine_init` has filled it when it comes to the threads; `running` is still
what the block held. -/
def EngineLife.beforeThreads (e : TestEngine) (workers : List ω) : EngineLife ω where
  system := ⟨e, fun _ => .loopHead, .idle, 0, []⟩
  phase := .creating [] workers
  started := fun _ => false
  entering := none
  blocked := fun _ => false

/-- Assign the flag. -/
def EngineLife.setRunning (s : EngineLife ω) (running : Bool) : EngineLife ω :=
  { s with system := { s.system with engine := { s.system.engine with running } } }

/-- `pthread_cond_signal` on `queue_condition`: it wakes a blocked worker, when there is one. -/
def EngineLife.signal [Fintype ω] (s : EngineLife ω) : Option ω → Option (EngineLife ω)
  | some v =>
      if s.blocked v then some { s with blocked := Function.update s.blocked v false } else none
  | none => if ∀ v, s.blocked v = false then some s else none

/-- A step that goes through a push signals, when the push has room. -/
def EngineLife.afterPush [Fintype ω] (s : EngineLife ω) (system : EngineSystem ω)
    (woken : Option ω) : Option (EngineLife ω) :=
  if s.system.engine.executionQueue.count < testEngineQueueSize then
    { s with system := system }.signal woken
  else some { s with system := system }

/-- The next step of a worker. Source: `services/test-engine.c`, `test_engine_worker` -/
def lifeWorker [Fintype ω] (s : EngineLife ω) (w : ω) (env : Environment) (woken : Option ω) :
    Option (EngineLife ω) :=
  if s.started w = false ∨ s.blocked w = true then none
  else if s.entering = some w then
    some { s with entering := none, blocked := Function.update s.blocked w true }
  else match s.system.workers w with
    | .popping =>
        if s.entering.isSome then none
        else if s.system.engine.executionQueue.count = 0 ∧ s.system.engine.running = true then
          some { s with entering := some w }
        else (workerStep s.system w env).map fun system => { s with system := system }
    | .pushing _ =>
        if s.entering.isSome then none
        else (workerStep s.system w env).bind fun system => s.afterPush system woken
    | _ => (workerStep s.system w env).map fun system => { s with system := system }

/-- The next step of the caller, which has an engine to call.
Source: `services/test-engine.c`, `test_engine_execute` -/
def lifeCaller [Fintype ω] (s : EngineLife ω) (act : CallerAct) (woken : Option ω) :
    Option (EngineLife ω) :=
  match s.phase with
  | .serving _ =>
      match s.system.caller with
      | .pushing .. =>
          if s.entering.isSome then none
          else (callerStep s.system act).bind fun system => s.afterPush system woken
      | _ => (callerStep s.system act).map fun system => { s with system := system }
  | _ => none

/-- The next step of `test_engine_init`; `created` is what `pthread_create` returns.
Source: `services/test-engine.c`, `test_engine_init` -/
def lifeInit (s : EngineLife ω) (created : Bool) : Option (EngineLife ω) :=
  match s.phase with
  | .creating before (w :: rest) =>
      if created then
        some { s with
          phase := .creating (before ++ [w]) rest
          started := Function.update s.started w true }
      -- the failure path broadcasts
      else some { s with phase := .abandoning before, blocked := fun _ => false }
  | .creating before [] => some { s.setRunning true with phase := .serving before }
  | .abandoning (w :: rest) =>
      if s.system.workers w = .exited then some { s with phase := .abandoning rest } else none
  | .abandoning [] => some { s with phase := .gone }
  | _ => none

/-- The next step of `test_engine_deinit`, which is called behind the last `test_engine_execute`.
Source: `services/test-engine.c`, `test_engine_deinit` -/
def lifeDeinit (s : EngineLife ω) : Option (EngineLife ω) :=
  match s.phase with
  | .serving workers =>
      if s.system.caller = .idle then some { s.setRunning false with phase := .joining workers }
      else none
  | .joining (w :: rest) =>
      if s.system.workers w = .exited then some { s with phase := .joining rest } else none
  | .joining [] => some { s with phase := .gone }
  | _ => none

/-- A step of one of the threads; `woken` is the worker that a signal of the step wakes. -/
inductive LifeAct (ω : Type*)
  | work (w : ω) (env : Environment) (woken : Option ω)
  | call (act : CallerAct) (woken : Option ω)
  | init (created : Bool)
  | deinit

/-- The step function of the engine from its threads on. -/
def lifeStep [Fintype ω] (s : EngineLife ω) : LifeAct ω → Option (EngineLife ω)
  | .work w env woken => lifeWorker s w env woken
  | .call act woken => lifeCaller s act woken
  | .init created => lifeInit s created
  | .deinit => lifeDeinit s

/-! ## What the steps do -/

section moves

variable [Fintype ω]

/-- A push wakes at most one worker. -/
lemma afterPush_eq {s t : EngineLife ω} {system : EngineSystem ω} {woken : Option ω}
    (h : s.afterPush system woken = some t) :
    ∃ blocked : ω → Bool, (∀ v, blocked v = true → s.blocked v = true) ∧
      t = { s with system := system, blocked := blocked } := by
  unfold EngineLife.afterPush at h
  split_ifs at h with hroom
  · rcases woken with _ | v
    · simp only [EngineLife.signal] at h
      split_ifs at h with hnone
      cases h
      exact ⟨s.blocked, fun _ hv => hv, rfl⟩
    · simp only [EngineLife.signal] at h
      split_ifs at h with hblocked
      cases h
      refine ⟨_, fun u hu => ?_, rfl⟩
      by_cases huv : u = v
      · exact huv ▸ hblocked
      · simpa [huv] using hu
  · cases h
    exact ⟨s.blocked, fun _ hv => hv, rfl⟩

/-- What a step of a worker can do. -/
inductive WorkerMove (s : EngineLife ω) (w : ω) : EngineLife ω → Prop
  /-- From the test into `pthread_cond_wait`. -/
  | block (hentering : s.entering = some w) :
      WorkerMove s w { s with entering := none, blocked := Function.update s.blocked w true }
  /-- The queue was found empty and the engine running. -/
  | enter (hrunning : s.system.engine.running = true) :
      WorkerMove s w { s with entering := some w }
  | go (env : Environment) (system : EngineSystem ω) (blocked : ω → Bool)
      (hstep : workerStep s.system w env = some system)
      (hwoken : ∀ v, blocked v = true → s.blocked v = true) :
      WorkerMove s w { s with system := system, blocked := blocked }

/-- A worker moves as listed, once its thread exists. -/
lemma lifeWorker_move {s t : EngineLife ω} {w : ω} {env : Environment} {woken : Option ω}
    (h : lifeWorker s w env woken = some t) : WorkerMove s w t := by
  have hgo : ∀ {system}, workerStep s.system w env = some system →
      WorkerMove s w { s with system := system } :=
    fun hstep => .go env _ s.blocked hstep fun _ hv => hv
  unfold lifeWorker at h
  by_cases hoff : s.started w = false ∨ s.blocked w = true
  · rw [if_pos hoff] at h
    cases h
  rw [if_neg hoff] at h
  by_cases hentering : s.entering = some w
  · rw [if_pos hentering] at h
    cases h
    exact .block hentering
  rw [if_neg hentering] at h
  split at h
  · split_ifs at h with hlocked hwait
    · cases h
      exact .enter hwait.2
    · obtain ⟨system, hstep, rfl⟩ := Option.map_eq_some_iff.mp h
      exact hgo hstep
  · split_ifs at h with hlocked
    obtain ⟨system, hstep, hpush⟩ := Option.bind_eq_some_iff.mp h
    obtain ⟨blocked, hwoken, rfl⟩ := afterPush_eq hpush
    exact .go env system blocked hstep hwoken
  · obtain ⟨system, hstep, rfl⟩ := Option.map_eq_some_iff.mp h
    exact hgo hstep

/-- The caller moves while the engine serves, and wakes at most one worker. -/
lemma lifeCaller_move {s t : EngineLife ω} {act : CallerAct} {woken : Option ω}
    (h : lifeCaller s act woken = some t) :
    (∃ workers, s.phase = .serving workers) ∧ ∃ system blocked,
      callerStep s.system act = some system ∧
        t = { s with system := system, blocked := blocked } := by
  unfold lifeCaller at h
  split at h
  · rename_i workers hphase
    refine ⟨⟨workers, hphase⟩, ?_⟩
    split at h
    · split_ifs at h with hlocked
      obtain ⟨system, hstep, hpush⟩ := Option.bind_eq_some_iff.mp h
      obtain ⟨blocked, -, rfl⟩ := afterPush_eq hpush
      exact ⟨system, blocked, hstep, rfl⟩
    · obtain ⟨system, hstep, rfl⟩ := Option.map_eq_some_iff.mp h
      exact ⟨system, s.blocked, hstep, rfl⟩
  · cases h

end moves

/-- What the thread that starts and stops the engine can do. -/
inductive PhaseMove (s : EngineLife ω) : EngineLife ω → Prop
  | create (before rest : List ω) (w : ω) (hphase : s.phase = .creating before (w :: rest)) :
      PhaseMove s { s with
        phase := .creating (before ++ [w]) rest
        started := Function.update s.started w true }
  | giveUp (before rest : List ω) (hphase : s.phase = .creating before rest) :
      PhaseMove s { s with phase := .abandoning before, blocked := fun _ => false }
  | serve (workers : List ω) (hphase : s.phase = .creating workers []) :
      PhaseMove s { s.setRunning true with phase := .serving workers }
  | joinedCreated (w : ω) (rest : List ω) (hphase : s.phase = .abandoning (w :: rest)) :
      PhaseMove s { s with phase := .abandoning rest }
  | stop (workers : List ω) (hphase : s.phase = .serving workers) :
      PhaseMove s { s.setRunning false with phase := .joining workers }
  | joined (w : ω) (rest : List ω) (hphase : s.phase = .joining (w :: rest)) :
      PhaseMove s { s with phase := .joining rest }
  | free (hphase : s.phase = .abandoning [] ∨ s.phase = .joining []) :
      PhaseMove s { s with phase := .gone }

/-- `test_engine_init` moves as listed, from a phase before it has returned. -/
lemma lifeInit_move {s t : EngineLife ω} {created : Bool} (h : lifeInit s created = some t) :
    PhaseMove s t ∧ s.phase.isServing = false := by
  unfold lifeInit at h
  split at h
  · rename_i before w rest hphase
    refine ⟨?_, by rw [hphase]; rfl⟩
    split_ifs at h
    · cases h
      exact .create before rest w hphase
    · cases h
      exact .giveUp before (w :: rest) hphase
  · rename_i before hphase
    cases h
    exact ⟨.serve before hphase, by rw [hphase]; rfl⟩
  · rename_i w rest hphase
    split_ifs at h
    cases h
    exact ⟨.joinedCreated w rest hphase, by rw [hphase]; rfl⟩
  · rename_i hphase
    cases h
    exact ⟨.free (.inl hphase), by rw [hphase]; rfl⟩
  · cases h

/-- `test_engine_deinit` moves as listed. -/
lemma lifeDeinit_move {s t : EngineLife ω} (h : lifeDeinit s = some t) : PhaseMove s t := by
  unfold lifeDeinit at h
  split at h
  · rename_i workers hphase
    split_ifs at h
    cases h
    exact .stop workers hphase
  · rename_i w rest hphase
    split_ifs at h
    cases h
    exact .joined w rest hphase
  · rename_i hphase
    cases h
    exact .free (.inr hphase)
  · cases h

/-! ## Shutdown -/

/-- While `test_engine_deinit` waits for a worker that has not exited, some worker can go on. -/
def EngineLife.NoDeadlock [Fintype ω] (s : EngineLife ω) : Prop :=
  ∀ w rest, s.phase = .joining (w :: rest) → s.system.workers w ≠ .exited →
    ∃ v env woken, (lifeStep s (.work v env woken)).isSome = true

/-- No worker waits for `queue_condition`, nor is on its way from the test into the wait. -/
def EngineLife.NobodyWaits (s : EngineLife ω) : Prop :=
  s.entering = none ∧ ∀ v, s.blocked v = false

/-- `test_engine_deinit` clears the flag only when nobody waits for the condition. -/
def StopsQuietly (s : EngineLife ω) : LifeAct ω → Prop
  | .deinit => s.phase.isServing = true → s.NobodyWaits
  | _ => True

instance [Fintype ω] (s : EngineLife ω) : Decidable s.NobodyWaits :=
  inferInstanceAs (Decidable (_ ∧ _))

instance [Fintype ω] (s : EngineLife ω) : (act : LifeAct ω) → Decidable (StopsQuietly s act)
  | .deinit => inferInstanceAs (Decidable (_ → _))
  | .work .. | .call .. | .init _ => .isTrue trivial

/-- What a quiet stop leaves behind: the workers still to be joined have a thread, and from the stop
on the flag is false and nobody waits. -/
structure ShutdownQuiet (s : EngineLife ω) : Prop where
  created : ∀ w ∈ s.phase.created, s.started w = true
  joining : s.phase.isJoining = true → s.system.engine.running = false ∧ s.NobodyWaits

/-- A worker keeps the shutdown quiet. -/
lemma WorkerMove.shutdownQuiet {s t : EngineLife ω} {w : ω} (h : WorkerMove s w t)
    (hs : ShutdownQuiet s) : ShutdownQuiet t := by
  rcases h with hentering | hrunning | ⟨env, system, blocked, hstep, hwoken⟩
  · refine ⟨hs.created, fun hjoining => ?_⟩
    obtain ⟨-, hnone, -⟩ := hs.joining hjoining
    rw [hnone] at hentering
    cases hentering
  · refine ⟨hs.created, fun hjoining => ?_⟩
    rw [(hs.joining hjoining).1] at hrunning
    cases hrunning
  · refine ⟨hs.created, fun hjoining => ?_⟩
    obtain ⟨hrunning, hentering, hblocked⟩ := hs.joining hjoining
    refine ⟨(workerStep_frame hstep).1.trans hrunning, hentering, fun v => ?_⟩
    by_contra hv
    have hbefore := hwoken v (by simpa using hv)
    rw [hblocked v] at hbefore
    cases hbefore

/-- The thread that starts and stops the engine keeps the shutdown quiet, when it stops quietly. -/
lemma PhaseMove.shutdownQuiet {s t : EngineLife ω} (h : PhaseMove s t) (hs : ShutdownQuiet s)
    (hquiet : s.phase.isServing = true → s.NobodyWaits) : ShutdownQuiet t := by
  obtain ⟨hcreated, hjoining⟩ := hs
  rcases h with ⟨before, rest, w, hphase⟩ | ⟨before, rest, hphase⟩ | ⟨workers, hphase⟩ |
    ⟨w, rest, hphase⟩ | ⟨workers, hphase⟩ | ⟨w, rest, hphase⟩ | hphase
  · rw [hphase] at hcreated
    refine ⟨fun v hv => ?_, nofun⟩
    rcases List.mem_append.mp hv with hv | hv
    · simp only [Function.update_apply]
      split_ifs
      · rfl
      · exact hcreated v hv
    · rw [List.mem_singleton.mp hv]
      exact Function.update_self ..
  · rw [hphase] at hcreated
    exact ⟨hcreated, nofun⟩
  · rw [hphase] at hcreated
    exact ⟨hcreated, nofun⟩
  · rw [hphase] at hcreated
    exact ⟨fun v hv => hcreated v (List.mem_cons_of_mem _ hv), nofun⟩
  · rw [hphase] at hcreated hquiet
    exact ⟨hcreated, fun _ => ⟨rfl, hquiet rfl⟩⟩
  · rw [hphase] at hcreated hjoining
    exact ⟨fun v hv => hcreated v (List.mem_cons_of_mem _ hv), fun _ => hjoining rfl⟩
  · exact ⟨nofun, nofun⟩

section shutdown

variable [Fintype ω]

/-- Each step that stops quietly, if it stops, keeps the shutdown quiet. -/
lemma lifeStep_shutdownQuiet {s t : EngineLife ω} {act : LifeAct ω} (hs : ShutdownQuiet s)
    (hquiet : StopsQuietly s act) (h : lifeStep s act = some t) : ShutdownQuiet t := by
  rcases act with ⟨w, env, woken⟩ | ⟨act, woken⟩ | created | _
  · exact (lifeWorker_move h).shutdownQuiet hs
  · obtain ⟨⟨workers, hphase⟩, system, blocked, -, rfl⟩ := lifeCaller_move h
    refine ⟨hs.created, fun hjoining => ?_⟩
    simp only [hphase] at hjoining
    cases hjoining
  · obtain ⟨hmove, hbefore⟩ := lifeInit_move h
    exact hmove.shutdownQuiet hs fun hserving => by simp [hbefore] at hserving
  · exact (lifeDeinit_move h).shutdownQuiet hs hquiet

/-- Behind a quiet stop a worker that has not exited can go on. -/
lemma ShutdownQuiet.noDeadlock {s : EngineLife ω} (hs : ShutdownQuiet s) : s.NoDeadlock := by
  intro w rest hphase hexited
  obtain ⟨hrunning, hentering, hblocked⟩ := hs.joining (by rw [hphase]; rfl)
  have hstarted : s.started w = true := hs.created w (by simp [hphase, EnginePhase.created])
  have hgo := workerStep_isSome hexited (fun _ => hrunning) ⟨0, 0, 0⟩
  refine ⟨w, ⟨0, 0, 0⟩, none, ?_⟩
  have hoff : ¬(s.started w = false ∨ s.blocked w = true) := by simp [hstarted, hblocked w]
  have hother : s.entering ≠ some w := by simp [hentering]
  have hroom : ∀ system, ((s.afterPush system none).isSome = true) := by
    intro system
    unfold EngineLife.afterPush
    split_ifs
    · simp [EngineLife.signal, hblocked]
    · rfl
  simp only [lifeStep, lifeWorker]
  rw [if_neg hoff, if_neg hother]
  split
  · rw [if_neg (by simp [hentering]), if_neg (by simp [hrunning]), Option.isSome_map]
    exact hgo
  · rw [if_neg (by simp [hentering])]
    obtain ⟨system, hsystem⟩ := Option.isSome_iff_exists.mp hgo
    rw [hsystem]
    exact hroom system
  · rw [Option.isSome_map]
    exact hgo

/-- **The shutdown goes on.** In a run whose stop, if there is one, comes when nobody waits, some
worker can go on as long as `test_engine_deinit` waits for one that has not exited. -/
theorem shutdown_progress (e : TestEngine) (workers : List ω)
    {tr : List (EngineLife ω × LifeAct ω)} {t u : EngineLife ω}
    (hrun : Run (stepOf lifeStep) (EngineLife.beforeThreads e workers) tr t)
    (hquiet : ∀ p ∈ tr, StopsQuietly p.1 p.2) (hu : Visits tr t u) : u.NoDeadlock := by
  have hstart : ShutdownQuiet (EngineLife.beforeThreads e workers) := ⟨nofun, nofun⟩
  have hkeep : ∀ (s : EngineLife ω) act t, ShutdownQuiet s → StopsQuietly s act →
      stepOf lifeStep s act t → ShutdownQuiet t :=
    fun s act t hs hact hstep => lifeStep_shutdownQuiet hs hact hstep
  exact (hrun.visits_invariantAlong hstart hkeep hquiet hu).noDeadlock

/-- A worker in `pthread_cond_wait` goes on only behind a signal. -/
lemma lifeWorker_of_blocked {s : EngineLife ω} {w : ω} (h : s.blocked w = true)
    (env : Environment) (woken : Option ω) : lifeWorker s w env woken = none := if_pos (.inr h)

/-- The one-LED engine before its threads, over a block whose `running` is the one given, with
the workers of `workers[TEST_ENGINE_MAX_WORKERS]`. -/
def ledStart (running : Bool) : EngineLife (Fin 8) :=
  .beforeThreads { ledEngine with running } (List.finRange _)

/-- The engine starts and stops while all workers are at their loop test; then the first one
exits and is joined. -/
theorem shutdown_progress_ledStart :
    ∃ tr t, Run (stepOf lifeStep) (ledStart false) tr t ∧ t.phase.isJoining = true ∧
      ∀ u, Visits tr t u → u.NoDeadlock := by
  have hrun : Run (stepOf lifeStep) (ledStart false) _ _ :=
    run_of_exec (List.replicate 9 (.init true) ++ [.deinit, .work 0 ⟨0, 0, 0⟩ none, .deinit]) rfl
  refine ⟨_, _, hrun, rfl, fun u hu => shutdown_progress _ _ hrun ?_ hu⟩
  decide +kernel

/-- All workers are in `pthread_cond_wait` when the engine is stopped: nobody wakes them. -/
theorem idleWorkers_deadlock :
    ∃ t, Reachable (stepOf lifeStep) (ledStart false) t ∧ ¬ t.NoDeadlock := by
  let P (t : EngineLife (Fin 8)) : Prop :=
    t.phase = .joining (List.finRange 8) ∧ t.system.workers 0 = .popping ∧ ∀ v, t.blocked v = true
  have hrun : ∃ t, Reachable (stepOf lifeStep) (ledStart false) t ∧ P t :=
    exists_reachable_of_exec (List.replicate 9 (.init true) ++
      (List.finRange 8).flatMap (fun w => List.replicate 3 (.work w ⟨0, 0, 0⟩ none)) ++ [.deinit])
      (by decide +kernel)
  obtain ⟨t, ht, hphase, hpopping, hblocked⟩ := hrun
  refine ⟨t, ht, fun hprogress => ?_⟩
  obtain ⟨v, env, woken, hsome⟩ := hprogress 0 _ hphase (by simp [hpopping])
  rw [lifeStep, lifeWorker_of_blocked (hblocked v)] at hsome
  cases hsome

end shutdown

/-! ## Start -/

/-- While the engine is started or serves, every worker is in its loop. -/
def EngineLife.InService (s : EngineLife ω) : Prop :=
  s.phase.isCreating = true ∨ s.phase.isServing = true → ∀ w, s.system.workers w ≠ .exited

/-- A worker takes a step before the flag is assigned only when the block held a true one. -/
def StartsAfter (e : TestEngine) (s : EngineLife ω) : LifeAct ω → Prop
  | .work .. => s.phase.isCreating = true → e.running = true
  | _ => True

/-- The start over a block `e`: the flag is the block's until it is assigned, no worker has left its
loop, and over a false flag no worker has taken a step. -/
structure Starting (e : TestEngine) (s : EngineLife ω) : Prop where
  inService : s.InService
  creating : s.phase.isCreating = true → s.system.engine.running = e.running
  serving : s.phase.isServing = true → s.system.engine.running = true
  entering : s.phase.isCreating = true → e.running = false → s.entering = none
  loopHead : s.phase.isCreating = true → e.running = false → ∀ w, s.system.workers w = .loopHead

/-- A worker whose test of the flag finds it true stays in service. -/
lemma WorkerMove.starting {e : TestEngine} {s t : EngineLife ω} {w : ω} (h : WorkerMove s w t)
    (hs : Starting e s) (hflag : s.phase.isCreating = true → e.running = true) : Starting e t := by
  rcases h with hentering | hrunning | ⟨env, system, blocked, hstep, hwoken⟩
  · exact ⟨hs.inService, hs.creating, hs.serving, fun _ _ => rfl, hs.loopHead⟩
  · refine ⟨hs.inService, hs.creating, hs.serving, fun hcreating hfalse => ?_, hs.loopHead⟩
    simp [hflag hcreating] at hfalse
  · obtain ⟨hrunning, hothers, -, hexit⟩ := workerStep_frame hstep
    refine ⟨fun hopen v => ?_, ?_, ?_, hs.entering, fun hcreating hfalse => ?_⟩
    · by_cases hv : v = w
      · have htrue : s.system.engine.running = true := by
          rcases hopen with hcreating | hserving
          · rw [hs.creating hcreating, hflag hcreating]
          · exact hs.serving hserving
        rw [hv, Ne, hexit, htrue]
        simp
      · rw [hothers v hv]
        exact hs.inService hopen v
    · exact fun hcreating => hrunning.trans (hs.creating hcreating)
    · exact fun hserving => hrunning.trans (hs.serving hserving)
    · simp [hflag hcreating] at hfalse

/-- A worker whose test of the flag finds the block's false one leaves its loop. -/
lemma WorkerMove.leaves {e : TestEngine} {s t : EngineLife ω} {w : ω} (h : WorkerMove s w t)
    (hs : Starting e s) (hcreating : s.phase.isCreating = true) (hfalse : e.running = false) :
    ¬ t.InService := by
  have hflag : s.system.engine.running = false := (hs.creating hcreating).trans hfalse
  rcases h with hentering | hrunning | ⟨env, system, blocked, hstep, hwoken⟩
  · rw [hs.entering hcreating hfalse] at hentering
    cases hentering
  · rw [hflag] at hrunning
    cases hrunning
  · intro hservice
    obtain ⟨-, -, -, hexit⟩ := workerStep_frame hstep
    exact hservice (.inl hcreating) w (hexit.mpr ⟨hs.loopHead hcreating hfalse w, hflag⟩)

/-- The thread that starts and stops the engine leaves every worker in service. -/
lemma PhaseMove.starting {e : TestEngine} {s t : EngineLife ω} (h : PhaseMove s t)
    (hs : Starting e s) : Starting e t := by
  obtain ⟨hservice, hcreating, hserving, hentering, hhead⟩ := hs
  rcases h with ⟨before, rest, w, hphase⟩ | ⟨before, rest, hphase⟩ | ⟨workers, hphase⟩ |
    ⟨w, rest, hphase⟩ | ⟨workers, hphase⟩ | ⟨w, rest, hphase⟩ | hphase
  · have hbefore : s.phase.isCreating = true := by rw [hphase]; rfl
    exact ⟨fun _ => hservice (.inl hbefore), fun _ => hcreating hbefore, nofun,
      fun _ => hentering hbefore, fun _ => hhead hbefore⟩
  · exact ⟨nofun, nofun, nofun, nofun, nofun⟩
  · have hbefore : s.phase.isCreating = true := by rw [hphase]; rfl
    exact ⟨fun _ => hservice (.inl hbefore), nofun, fun _ => rfl, nofun, nofun⟩
  all_goals exact ⟨nofun, nofun, nofun, nofun, nofun⟩

/-- What holds between two states of a run: a worker that is out of its loop stays out, and the
phases go one way. -/
structure Onward (s t : EngineLife ω) : Prop where
  exited : ∀ w, s.system.workers w = .exited → t.system.workers w = .exited
  creating : t.phase.isCreating = true → s.phase.isCreating = true
  serving : t.phase.isServing = true → s.phase.isCreating = true ∨ s.phase.isServing = true

omit [DecidableEq ω] in
lemma Onward.refl (s : EngineLife ω) : Onward s s := ⟨fun _ h => h, id, .inr⟩

omit [DecidableEq ω] in
lemma Onward.trans {s t u : EngineLife ω} (hst : Onward s t) (htu : Onward t u) : Onward s u := by
  refine ⟨fun w hw => htu.exited w (hst.exited w hw), fun h => hst.creating (htu.creating h), ?_⟩
  intro hserving
  rcases htu.serving hserving with hcreating | hserving
  · exact .inl (hst.creating hcreating)
  · exact hst.serving hserving

/-- A worker goes on within its phase. -/
lemma WorkerMove.onward {s t : EngineLife ω} {w : ω} (h : WorkerMove s w t) : Onward s t := by
  rcases h with hentering | hrunning | ⟨env, system, blocked, hstep, hwoken⟩
  · exact ⟨fun _ h => h, id, .inr⟩
  · exact ⟨fun _ h => h, id, .inr⟩
  · obtain ⟨-, hothers, hin, -⟩ := workerStep_frame hstep
    refine ⟨fun v hv => ?_, id, .inr⟩
    have hne : v ≠ w := by
      rintro rfl
      exact hin hv
    exact (hothers v hne).trans hv

/-- The phases go one way. -/
lemma PhaseMove.onward {s t : EngineLife ω} (h : PhaseMove s t) : Onward s t := by
  rcases h with ⟨before, rest, w, hphase⟩ | ⟨before, rest, hphase⟩ | ⟨workers, hphase⟩ |
    ⟨w, rest, hphase⟩ | ⟨workers, hphase⟩ | ⟨w, rest, hphase⟩ | hphase
  · exact ⟨fun _ h => h, fun _ => by rw [hphase]; rfl, nofun⟩
  · exact ⟨fun _ h => h, nofun, nofun⟩
  · exact ⟨fun _ h => h, nofun, fun _ => .inl (by rw [hphase]; rfl)⟩
  all_goals exact ⟨fun _ h => h, nofun, nofun⟩

section start

variable [Fintype ω]

/-- With no failure of `pthread_create`, and before any other thread takes a step, the loop of
`test_engine_init` comes to its end and assigns the flag. -/
lemma exec_creating (s : EngineLife ω) (before rest : List ω)
    (hphase : s.phase = .creating before rest) :
    ∃ t, exec lifeStep s (List.replicate (rest.length + 1) (.init true)) = some t ∧
      t.phase = .serving (before ++ rest) ∧
      t.system.engine = { s.system.engine with running := true } := by
  induction rest generalizing s before with
  | nil =>
      refine ⟨{ s.setRunning true with phase := .serving before }, ?_, by simp, rfl⟩
      simp [exec, lifeStep, lifeInit, hphase]
  | cons w rest ih =>
      obtain ⟨t, hexec, hserving, hengine⟩ := ih { s with
        phase := .creating (before ++ [w]) rest
        started := Function.update s.started w true } (before ++ [w]) rfl
      refine ⟨t, ?_, by simpa using hserving, hengine⟩
      simpa [exec, lifeStep, lifeInit, hphase, List.replicate_succ] using hexec

/-- **The start is the one of `test_engine_init`.** From what it has filled in the block, with the
`running` of the block, the undisturbed start serves with the engine it returns. -/
theorem start_testEngineInit {block : TestEngine}
    {schedulerBlock : Option (TestScheduler InstancePtr)} {testManager : TestManager}
    {functionManager : FunctionManager} {functionManagerAddr deviceManagerAddr : Address}
    {deviceManager : DeviceManager} {e : TestEngine}
    (h : testEngineInit (some block) schedulerBlock testManager functionManager functionManagerAddr
      deviceManager deviceManagerAddr = some e) (workers : List ω) :
    ∃ t, exec lifeStep (EngineLife.beforeThreads { e with running := block.running } workers)
        (List.replicate (workers.length + 1) (.init true)) = some t ∧
      t.phase = .serving workers ∧ t.system.engine = e := by
  obtain ⟨t, hexec, hserving, hengine⟩ := exec_creating
    (EngineLife.beforeThreads { e with running := block.running } workers) [] workers rfl
  refine ⟨t, hexec, hserving, hengine.trans ?_⟩
  have hrunning : e.running = true := by
    simp only [testEngineInit, Option.bind_eq_bind, Option.bind_some, Option.bind_eq_some_iff] at h
    obtain ⟨scheduler, -, h⟩ := h
    cases h
    rfl
  change { e with running := true } = e
  rw [← hrunning]

/-- Each step before which the flag was assigned, or was true, leaves every worker in service. -/
lemma lifeStep_starting {e : TestEngine} {s t : EngineLife ω} {act : LifeAct ω}
    (hs : Starting e s) (hafter : StartsAfter e s act) (h : lifeStep s act = some t) :
    Starting e t := by
  rcases act with ⟨w, env, woken⟩ | ⟨act, woken⟩ | created | _
  · exact (lifeWorker_move h).starting hs hafter
  · obtain ⟨⟨workers, hphase⟩, system, blocked, hstep, rfl⟩ := lifeCaller_move h
    obtain ⟨hrunning, hworkers⟩ := callerStep_frame hstep
    have hserving : s.phase.isServing = true := by rw [hphase]; rfl
    refine ⟨fun _ => ?_, fun hcreating => ?_, fun _ => hrunning.trans (hs.serving hserving),
      hs.entering, fun hcreating => ?_⟩
    · rw [hworkers]
      exact hs.inService (.inr hserving)
    · simp [hphase, EnginePhase.isCreating] at hcreating
    · simp [hphase, EnginePhase.isCreating] at hcreating
  · exact (lifeInit_move h).1.starting hs
  · exact (lifeDeinit_move h).starting hs

/-- Every step goes on. -/
lemma lifeStep_onward {s t : EngineLife ω} {act : LifeAct ω} (h : lifeStep s act = some t) :
    Onward s t := by
  rcases act with ⟨w, env, woken⟩ | ⟨act, woken⟩ | created | _
  · exact (lifeWorker_move h).onward
  · obtain ⟨-, system, blocked, hstep, rfl⟩ := lifeCaller_move h
    exact ⟨fun w hw => (congrFun (callerStep_frame hstep).2 w).trans hw, id, .inr⟩
  · exact (lifeInit_move h).1.onward
  · exact (lifeDeinit_move h).onward

/-- A visited state of a run is behind none of the later ones. -/
lemma onward_of_visits {e : TestEngine} {workers : List ω}
    {tr : List (EngineLife ω × LifeAct ω)} {t u : EngineLife ω}
    (hrun : Run (stepOf lifeStep) (EngineLife.beforeThreads e workers) tr t)
    (hu : Visits tr t u) : Onward u t :=
  hrun.relates_visited (I := fun _ => True) trivial (fun _ _ _ _ _ => trivial)
    (fun s _ => .refl s) (fun _ _ _ _ _ hvs hstep => hvs.trans (lifeStep_onward hstep)) hu

/-- **The pool at full strength.** In a run that has come to an engine in service, no worker has
left its loop iff the block held a true `running`, or no worker took a step before
`test_engine_init` assigned it. -/
theorem allInService_iff (e : TestEngine) (workers : List ω)
    {tr : List (EngineLife ω × LifeAct ω)} {t : EngineLife ω}
    (hrun : Run (stepOf lifeStep) (EngineLife.beforeThreads e workers) tr t)
    (hserving : t.phase.isServing = true) :
    (∀ w, t.system.workers w ≠ .exited) ↔
      e.running = true ∨
        ∀ p ∈ tr, ∀ w env woken, p.2 = .work w env woken → p.1.phase.isServing = true := by
  have hstart : Starting e (EngineLife.beforeThreads e workers) :=
    ⟨nofun, fun _ => rfl, nofun, fun _ _ => rfl, fun _ _ _ => rfl⟩
  have hkeep : ∀ (s : EngineLife ω) act t, Starting e s → StartsAfter e s act →
      stepOf lifeStep s act t → Starting e t :=
    fun s act t hs hact hstep => lifeStep_starting hs hact hstep
  have hleave : ∀ (s : EngineLife ω) act t, Starting e s → ¬ StartsAfter e s act →
      stepOf lifeStep s act t → ¬ t.InService := by
    intro s act t hs hact hstep
    rcases act with ⟨w, env, woken⟩ | _ | _ | _
    · obtain ⟨hcreating, hfalse⟩ := Classical.not_imp.mp hact
      exact (lifeWorker_move hstep).leaves hs hcreating (by simpa using hfalse)
    all_goals exact absurd trivial hact
  -- `InService` of all states visited, and of the last one
  have hlast : (∀ w, t.system.workers w ≠ .exited) ↔ ∀ u, Visits tr t u → u.InService := by
    constructor
    · intro hall u hu _ w hw
      exact hall w ((onward_of_visits hrun hu).exited w hw)
    · intro hall
      exact hall t .last (.inr hserving)
  rw [hlast, hrun.always_iff_along hstart hkeep (fun _ hs => hs.inService) hleave]
  constructor
  · intro hall
    by_cases hrunning : e.running = true
    · exact .inl hrunning
    · refine .inr fun p hp w env woken hwork => ?_
      have hbefore := hall p hp
      rw [hwork] at hbefore
      rcases (onward_of_visits hrun (.inr ⟨p.2, hp⟩)).serving hserving with hcreating | hserves
      · exact absurd (hbefore hcreating) hrunning
      · exact hserves
  · rintro hcond ⟨u, act⟩ hp
    rcases act with ⟨w, env, woken⟩ | _ | _ | _
    · intro hcreating
      rcases hcond with hrunning | hafter
      · exact hrunning
      · rw [EnginePhase.isCreating_of_isServing (hafter _ hp w env woken rfl)] at hcreating
        cases hcreating
    all_goals trivial

/-- A true `running` in the block: a worker comes to the queue before the flag is assigned. -/
theorem allInService_ledStart :
    ∃ tr t, Run (stepOf lifeStep) (ledStart true) tr t ∧ t.phase.isServing = true ∧
      ∀ w, t.system.workers w ≠ .exited := by
  have hrun : Run (stepOf lifeStep) (ledStart true) _ _ :=
    run_of_exec (.init true :: .work 0 ⟨0, 0, 0⟩ none :: List.replicate 8 (.init true)) rfl
  exact ⟨_, _, hrun, rfl, (allInService_iff _ _ hrun rfl).mpr (.inl rfl)⟩

/-- A false `running` in the block: the first worker leaves its loop before the flag is assigned,
and the engine serves without it. -/
theorem earlyWorker_leaves :
    ∃ t, Reachable (stepOf lifeStep) (ledStart false) t ∧
      t.phase.isServing = true ∧ ¬ ∀ w, t.system.workers w ≠ .exited :=
  exists_reachable_of_exec
    (.init true :: .work 0 ⟨0, 0, 0⟩ none :: List.replicate 8 (.init true)) (by decide +kernel)

end start

end HardwareTest
