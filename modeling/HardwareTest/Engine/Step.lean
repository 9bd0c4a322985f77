import HardwareTest.Engine.State
import HardwareTest.Services.Atomicity

/-!
# The engine in operation: workers and the caller

The steps of any number of workers in `test_engine_worker`, interleaved with the
`test_engine_execute` calls of one caller. Each lock-protected section is one step, and so is each
call of the scheduler, although the scheduler takes no lock: the runs are those in which no two of
these calls overlap. `UnlockedSystem` has the others.

* `WorkerPc`, `CallerPc`: where a thread is. `workerStep` and `callerStep` are total descriptions
  of what the thread does next from there; `none` means that the step is not enabled.
* `WorkerMoves`, `CallerMoves`: what a step can do, branch by branch, with its guards; the proofs
  about steps start from `workerStep_moves` and `callerStep_moves`.
* `Submission`: the model's record of a call that returned 0, with what the run of its instance
  came to. Nothing in the code reads it.
-/

namespace HardwareTest

open Lib

/-- Where a worker is in its loop. Source: `services/test-engine.c`, `test_engine_worker` -/
inductive WorkerPc
  /-- At the loop test. -/
  | loopHead
  /-- In `test_engine_queue_pop`. -/
  | popping
  /-- With an instance from the queue, before the function lookup. -/
  | popped (inst : InstancePtr)
  /-- Before `resource_manager_acquire`. -/
  | acquiring (inst : InstancePtr) (function : CString)
  /-- Before `test_engine_run_instance`. -/
  | starting (inst : InstancePtr) (function : CString)
  /-- Inside `test_engine_run_instance`. -/
  | running (inst : InstancePtr) (function : CString)
  /-- Before `resource_manager_release`. -/
  | releasing (inst : InstancePtr) (function : CString)
  /-- Before `test_scheduler_get_next_instance`. -/
  | scheduling
  /-- With a promoted instance, before `test_engine_queue_push`. -/
  | pushing (inst : InstancePtr)
  /-- Out of the loop. -/
  | exited
deriving DecidableEq

/-- Where the caller is. Source: `services/test-engine.c`, `test_engine_execute` -/
inductive CallerPc
  /-- Not in a call. -/
  | idle
  /-- Before `test_scheduler_submit`, with the local instance filled. -/
  | submitting (inst : InstancePtr) (entry : ℕ) (name : CString)
  /-- Accepted, before `test_engine_queue_push`. -/
  | pushing (inst : InstancePtr) (entry : ℕ) (name : CString)
deriving DecidableEq

/-- A `test_engine_execute` call that returned 0. -/
structure Submission where
  inst : InstancePtr
  entry : ℕ
  name : CString
  /-- State and code of the run, once a worker has finished it. -/
  outcome : Option (TestExecutionState × ℤ)

/-- Note the outcome of a run of an instance with the first open submission of that instance. -/
def noteOutcome (inst : InstancePtr) (outcome : TestExecutionState × ℤ) :
    List Submission → List Submission
  | [] => []
  | s :: rest =>
      if s.inst = inst ∧ s.outcome.isNone then { s with outcome := some outcome } :: rest
      else s :: noteOutcome inst outcome rest

/-- The engine, its worker threads `ω` and its caller. -/
structure EngineSystem (ω : Type*) where
  engine : TestEngine
  workers : ω → WorkerPc
  caller : CallerPc
  /-- The number of `test_engine_execute` calls that filled a local instance. -/
  calls : ℕ
  submissions : List Submission

variable {ω : Type*} [DecidableEq ω]

/-- A worker moves on. -/
def EngineSystem.goto (s : EngineSystem ω) (w : ω) (pc : WorkerPc) : EngineSystem ω :=
  { s with workers := fun v => if v = w then pc else s.workers v }

/-- The next step of a worker. `none`: it waits on `queue_condition`, has exited, or would write
outside the resource table. Source: `services/test-engine.c`, `test_engine_worker` -/
def workerStep (s : EngineSystem ω) (w : ω) (env : Environment) : Option (EngineSystem ω) :=
  let e := s.engine
  match s.workers w with
  | .loopHead => some (s.goto w (if e.running then .popping else .exited))
  | .popping =>
      if e.running = false then some (s.goto w .loopHead)
      else if e.executionQueue.count = 0 then none
      else
        let r := e.executionQueue.pop
        some ({ s with engine := { e with executionQueue := r.2 } }.goto w
          (match r.1 with
          | none => .loopHead
          | some inst => .popped inst))
  | .popped inst =>
      match e.testManager.getFunctionName (e.entryName inst) with
      | none => some (s.goto w .loopHead)
      | some function => some (s.goto w (.acquiring inst function.chars))
  | .acquiring inst function =>
      -- the code `acquire` returns is not looked at
      (resourceManagerAcquire e.resourceManager function inst).map fun r =>
        { s with engine := { e with resourceManager := r.2 } }.goto w (.starting inst function)
  | .starting inst function =>
      some ({ s with engine := e.updateInstance inst (.start env) }.goto w (.running inst function))
  | .running inst function =>
      let operations := (((e.memory inst).entry.bind e.tests.get?).map TestEntry.operations).getD
        ⟨none, none, none⟩
      some ({ s with
        engine := e.updateInstance inst (.finish operations env)
        submissions := noteOutcome inst (runOutcome operations env (e.memory inst).result.state)
          s.submissions }.goto w (.releasing inst function))
  | .releasing inst function =>
      let r := resourceManagerRelease e.resourceManager function inst
      some ({ s with engine := { e with resourceManager := r.2 } }.goto w .scheduling)
  | .scheduling =>
      -- no lock is taken: another call of the scheduler may come in between (`UnlockedSystem`)
      let r := testSchedulerGetNextInstance e.checkResource e.scheduler
      some ({ s with engine := { e with scheduler := r.2.2 } }.goto w
        (match r.1, r.2.1 with
        | .accepted, some inst => .pushing inst
        | _, _ => .loopHead))
  | .pushing inst =>
      match e.executionQueue.push (some inst) with
      | none => some (s.goto w .loopHead)
      | some queue =>
          some ({ s with engine := { e with
            executionQueue := queue
            instanceCount := e.instanceCount + 1 } }.goto w .loopHead)
  | .exited => none

/-- What the caller does: begin a call, or go on with the one it is in. -/
inductive CallerAct
  | execute (name : CString)
  | proceed

/-- The next step of the caller. Source: `services/test-engine.c`, `test_engine_execute` -/
def callerStep (s : EngineSystem ω) : CallerAct → Option (EngineSystem ω)
  | .execute name =>
      let e := s.engine
      match s.caller, e.findTest name with
      | .idle, none => some s
      | .idle, some entry =>
          if e.instanceCount.toNat ≥ maxTestInstances then some s
          else some { s with
            engine := e.updateInstance (.frame s.calls) fun _ => e.localInstance entry name
            caller := .submitting (.frame s.calls) entry name
            calls := s.calls + 1 }
      | _, _ => none
  | .proceed =>
      let e := s.engine
      match s.caller with
      | .idle => none
      | .submitting inst entry name =>
          let r := testSchedulerSubmit e.checkResource e.scheduler inst
          let s' := { s with engine := { e with scheduler := r.2 } }
          match r.1 with
          | .failed => some { s' with caller := .idle }
          | .pending => some { s' with
              caller := .idle
              submissions := s.submissions ++ [⟨inst, entry, name, none⟩] }
          | .accepted => some { s' with caller := .pushing inst entry name }
      | .pushing inst entry name =>
          match e.executionQueue.push (some inst) with
          | none => some { s with caller := .idle }
          | some queue => some { s with
              engine := { e with executionQueue := queue, instanceCount := e.instanceCount + 1 }
              caller := .idle
              submissions := s.submissions ++ [⟨inst, entry, name, none⟩] }

/-- A step of a worker, with what the outside decides during it, or of the caller. -/
inductive EngineAct (ω : Type*)
  | work (w : ω) (env : Environment)
  | call (act : CallerAct)

/-- The step function of the whole engine. -/
def engineStep (s : EngineSystem ω) : EngineAct ω → Option (EngineSystem ω)
  | .work w env => workerStep s w env
  | .call act => callerStep s act

/-! ## The calls -/

@[simp] lemma goto_workers_self (s : EngineSystem ω) (w : ω) (pc : WorkerPc) :
    (s.goto w pc).workers w = pc := if_pos rfl

lemma goto_workers_of_ne (s : EngineSystem ω) {v w : ω} (pc : WorkerPc) (h : v ≠ w) :
    (s.goto w pc).workers v = s.workers v := if_neg h

@[simp] lemma goto_engine (s : EngineSystem ω) (w : ω) (pc : WorkerPc) :
    (s.goto w pc).engine = s.engine := rfl

/-- The system after a call has filled its local instance. -/
def EngineSystem.callBegun (s : EngineSystem ω) (entry : ℕ) (name : CString) : EngineSystem ω :=
  { s with
    engine := s.engine.updateInstance (.frame s.calls) fun _ => s.engine.localInstance entry name
    caller := .submitting (.frame s.calls) entry name
    calls := s.calls + 1 }

/-- What a step of the caller can do, branch by branch. -/
inductive CallerMoves (s : EngineSystem ω) : CallerAct → EngineSystem ω → Prop
  | refused (name : CString) : CallerMoves s (.execute name) s
  | begun (name : CString) (entry : ℕ) (hfind : s.engine.findTest name = some entry)
      (hcaller : s.caller = .idle) : CallerMoves s (.execute name) (s.callBegun entry name)
  | failed (inst : InstancePtr) (entry : ℕ) (name : CString) (scheduler : TestScheduler InstancePtr)
      (hcaller : s.caller = .submitting inst entry name)
      (hsubmit : testSchedulerSubmit s.engine.checkResource s.engine.scheduler inst =
        (.failed, scheduler)) :
      CallerMoves s .proceed
        { s with engine := { s.engine with scheduler := scheduler }, caller := .idle }
  | pending (inst : InstancePtr) (entry : ℕ) (name : CString)
      (scheduler : TestScheduler InstancePtr) (hcaller : s.caller = .submitting inst entry name)
      (hsubmit : testSchedulerSubmit s.engine.checkResource s.engine.scheduler inst =
        (.pending, scheduler)) :
      CallerMoves s .proceed { s with
        engine := { s.engine with scheduler := scheduler }
        caller := .idle
        submissions := s.submissions ++ [⟨inst, entry, name, none⟩] }
  | accepted (inst : InstancePtr) (entry : ℕ) (name : CString)
      (scheduler : TestScheduler InstancePtr) (hcaller : s.caller = .submitting inst entry name)
      (hsubmit : testSchedulerSubmit s.engine.checkResource s.engine.scheduler inst =
        (.accepted, scheduler)) :
      CallerMoves s .proceed { s with
        engine := { s.engine with scheduler := scheduler }
        caller := .pushing inst entry name }
  | full (inst : InstancePtr) (entry : ℕ) (name : CString)
      (hcaller : s.caller = .pushing inst entry name)
      (hpush : s.engine.executionQueue.push (some inst) = none) :
      CallerMoves s .proceed { s with caller := .idle }
  | push (inst : InstancePtr) (entry : ℕ) (name : CString)
      (queue : Ring (Option InstancePtr) testEngineQueueSize)
      (hcaller : s.caller = .pushing inst entry name)
      (hpush : s.engine.executionQueue.push (some inst) = some queue) :
      CallerMoves s .proceed { s with
        engine := { s.engine with
          executionQueue := queue
          instanceCount := s.engine.instanceCount + 1 }
        caller := .idle
        submissions := s.submissions ++ [⟨inst, entry, name, none⟩] }

omit [DecidableEq ω] in
/-- **The caller moves** as listed. -/
theorem callerStep_moves {s t : EngineSystem ω} {act : CallerAct} (h : callerStep s act = some t) :
    CallerMoves s act t := by
  unfold callerStep at h
  rcases act with name | _
  · rcases hcaller : s.caller with _ | ⟨inst, entry, name⟩ | ⟨inst, entry, name⟩
    · rcases hfind : s.engine.findTest name with _ | entry
      · simp only [hcaller, hfind, Option.some_inj] at h
        exact h ▸ .refused name
      · simp only [hcaller, hfind] at h
        split_ifs at h with hfull
        · cases h
          exact .refused name
        · cases h
          exact .begun name entry hfind hcaller
    · simp [hcaller] at h
    · simp [hcaller] at h
  · simp only at h
    rcases hcaller : s.caller with _ | ⟨inst, entry, name⟩ | ⟨inst, entry, name⟩
    · simp [hcaller] at h
    · simp only [hcaller] at h
      rcases hsubmit : testSchedulerSubmit s.engine.checkResource s.engine.scheduler inst with
        ⟨r, scheduler⟩
      rw [hsubmit] at h
      rcases r with _ | _ | _
      all_goals cases h
      · exact .accepted inst entry name scheduler hcaller hsubmit
      · exact .pending inst entry name scheduler hcaller hsubmit
      · exact .failed inst entry name scheduler hcaller hsubmit
    · simp only [hcaller] at h
      rcases hpush : s.engine.executionQueue.push (some inst) with _ | queue
      · rw [hpush] at h
        cases h
        exact .full inst entry name hcaller hpush
      · rw [hpush] at h
        cases h
        exact .push inst entry name queue hcaller hpush

omit [DecidableEq ω] in
/-- A call is refused at once, or fills its local instance. -/
lemma callerStep_execute {s s' : EngineSystem ω} {name : CString}
    (hstep : callerStep s (.execute name) = some s') :
    s' = s ∨ ∃ entry, s.engine.findTest name = some entry ∧ s.caller = .idle ∧
      s' = s.callBegun entry name := by
  cases callerStep_moves hstep with
  | refused => exact .inl rfl
  | begun _ entry hfind hcaller => exact .inr ⟨entry, hfind, hcaller, rfl⟩

/-! ## The workers -/

/-- A worker cannot go on only when it waits for the queue of a running engine, or has exited. -/
lemma workerStep_isSome {s : EngineSystem ω} {w : ω} (hexited : s.workers w ≠ .exited)
    (hpopping : s.workers w = .popping → s.engine.running = false) (env : Environment) :
    (workerStep s w env).isSome = true := by
  unfold workerStep
  cases hw : s.workers w with
  | popping =>
      simp only
      rw [if_pos (hpopping hw)]
      rfl
  | acquiring p f =>
      have hacquire := resourceManagerAcquire_isSome s.engine.resourceManager f p
      simpa using hacquire
  | popped p =>
      simp only
      split <;> rfl
  | pushing p =>
      simp only
      split <;> rfl
  | exited => exact absurd hw hexited
  | _ => rfl

/-- What a step of a worker can do, branch by branch. -/
inductive WorkerMoves (s : EngineSystem ω) (w : ω) (env : Environment) : EngineSystem ω → Prop
  | test (hw : s.workers w = .loopHead) :
      WorkerMoves s w env (s.goto w (if s.engine.running then .popping else .exited))
  | stop (hw : s.workers w = .popping) (hrunning : s.engine.running = false) :
      WorkerMoves s w env (s.goto w .loopHead)
  | pop (hw : s.workers w = .popping) (hrunning : s.engine.running = true)
      (hempty : s.engine.executionQueue.count ≠ 0) :
      WorkerMoves s w env ({ s with engine := { s.engine with
        executionQueue := s.engine.executionQueue.pop.2 } }.goto w
          (match s.engine.executionQueue.pop.1 with
          | none => .loopHead
          | some inst => .popped inst))
  | unknown (inst : InstancePtr) (hw : s.workers w = .popped inst)
      (hfunction : s.engine.testManager.getFunctionName (s.engine.entryName inst) = none) :
      WorkerMoves s w env (s.goto w .loopHead)
  | found (inst : InstancePtr) (function : CharBuf functionNameLength)
      (hw : s.workers w = .popped inst)
      (hfunction : s.engine.testManager.getFunctionName (s.engine.entryName inst) = some function) :
      WorkerMoves s w env (s.goto w (.acquiring inst function.chars))
  | acquire (inst : InstancePtr) (function : CString) (r : ℤ × ResourceManager InstancePtr)
      (hw : s.workers w = .acquiring inst function)
      (hacquire : resourceManagerAcquire s.engine.resourceManager function inst = some r) :
      WorkerMoves s w env
        ({ s with engine := { s.engine with resourceManager := r.2 } }.goto w
          (.starting inst function))
  | start (inst : InstancePtr) (function : CString) (hw : s.workers w = .starting inst function) :
      WorkerMoves s w env
        ({ s with engine := s.engine.updateInstance inst (.start env) }.goto w
          (.running inst function))
  | run (inst : InstancePtr) (function : CString) (operations : TestOperations)
      (hw : s.workers w = .running inst function)
      (hoperations : operations = (((s.engine.memory inst).entry.bind s.engine.tests.get?).map
        TestEntry.operations).getD ⟨none, none, none⟩) :
      WorkerMoves s w env
        ({ s with
          engine := s.engine.updateInstance inst (.finish operations env)
          submissions := noteOutcome inst
            (runOutcome operations env (s.engine.memory inst).result.state) s.submissions }.goto w
              (.releasing inst function))
  | release (inst : InstancePtr) (function : CString) (r : ℤ × ResourceManager InstancePtr)
      (hw : s.workers w = .releasing inst function)
      (hrelease : resourceManagerRelease s.engine.resourceManager function inst = r) :
      WorkerMoves s w env
        ({ s with engine := { s.engine with resourceManager := r.2 } }.goto w .scheduling)
  | schedule (r : TestScheduleResult × Option InstancePtr × TestScheduler InstancePtr)
      (hw : s.workers w = .scheduling)
      (hnext : testSchedulerGetNextInstance s.engine.checkResource s.engine.scheduler = r) :
      WorkerMoves s w env ({ s with engine := { s.engine with scheduler := r.2.2 } }.goto w
        (match r.1, r.2.1 with
        | .accepted, some inst => .pushing inst
        | _, _ => .loopHead))
  | full (inst : InstancePtr) (hw : s.workers w = .pushing inst)
      (hpush : s.engine.executionQueue.push (some inst) = none) :
      WorkerMoves s w env (s.goto w .loopHead)
  | push (inst : InstancePtr) (queue : Ring (Option InstancePtr) testEngineQueueSize)
      (hw : s.workers w = .pushing inst)
      (hpush : s.engine.executionQueue.push (some inst) = some queue) :
      WorkerMoves s w env ({ s with engine := { s.engine with
        executionQueue := queue
        instanceCount := s.engine.instanceCount + 1 } }.goto w .loopHead)

/-- **A worker moves** as listed. -/
theorem workerStep_moves {s t : EngineSystem ω} {w : ω} {env : Environment}
    (h : workerStep s w env = some t) : WorkerMoves s w env t := by
  unfold workerStep at h
  cases hw : s.workers w with
  | loopHead =>
      simp only [hw, Option.some_inj] at h
      exact h ▸ .test hw
  | popping =>
      simp only [hw] at h
      split_ifs at h with hrunning hempty
      · cases h
        exact .stop hw hrunning
      · cases h
        exact .pop hw (by simpa using hrunning) hempty
  | popped inst =>
      simp only [hw] at h
      split at h
      · rename_i hfunction
        cases h
        exact .unknown inst hw hfunction
      · rename_i function hfunction
        cases h
        exact .found inst function hw hfunction
  | acquiring inst function =>
      simp only [hw, Option.map_eq_some_iff] at h
      obtain ⟨r, hacquire, rfl⟩ := h
      exact .acquire inst function r hw hacquire
  | starting inst function =>
      simp only [hw, Option.some_inj] at h
      exact h ▸ .start inst function hw
  | running inst function =>
      simp only [hw, Option.some_inj] at h
      exact h ▸ .run inst function _ hw rfl
  | releasing inst function =>
      simp only [hw, Option.some_inj] at h
      exact h ▸ .release inst function _ hw rfl
  | scheduling =>
      simp only [hw, Option.some_inj] at h
      exact h ▸ .schedule _ hw rfl
  | pushing inst =>
      simp only [hw] at h
      split at h
      · rename_i hpush
        cases h
        exact .full inst hw hpush
      · rename_i queue hpush
        cases h
        exact .push inst queue hw hpush
  | exited =>
      simp only [hw] at h
      cases h

/-- Behind its loop test a worker moves on inside the loop and does not touch the flag `running`. -/
lemma workerStep_eq_goto {s t : EngineSystem ω} {w : ω} {env : Environment}
    (h : workerStep s w env = some t) (hhead : s.workers w ≠ .loopHead) :
    ∃ e subs pc, t = { s with engine := e, submissions := subs }.goto w pc ∧
      e.running = s.engine.running ∧ pc ≠ .exited := by
  cases workerStep_moves h with
  | test hw => exact absurd hw hhead
  | stop | unknown | full => exact ⟨_, s.submissions, .loopHead, rfl, rfl, nofun⟩
  | found inst function => exact ⟨_, s.submissions, .acquiring _ _, rfl, rfl, nofun⟩
  | acquire inst function => exact ⟨_, s.submissions, .starting inst function, rfl, rfl, nofun⟩
  | start inst function => exact ⟨_, s.submissions, .running inst function, rfl, rfl, nofun⟩
  | run inst function => exact ⟨_, _, .releasing inst function, rfl, rfl, nofun⟩
  | release => exact ⟨_, s.submissions, .scheduling, rfl, rfl, nofun⟩
  | push => exact ⟨_, s.submissions, .loopHead, rfl, rfl, nofun⟩
  | pop =>
      refine ⟨_, s.submissions, _, rfl, rfl, ?_⟩
      split <;> nofun
  | schedule =>
      refine ⟨_, s.submissions, _, rfl, rfl, ?_⟩
      split <;> nofun

/-- **A worker** does not touch the flag `running`, nor another worker, and it leaves its loop at
the loop test, when the flag is false. -/
lemma workerStep_frame {s t : EngineSystem ω} {w : ω} {env : Environment}
    (h : workerStep s w env = some t) :
    t.engine.running = s.engine.running ∧ (∀ v, v ≠ w → t.workers v = s.workers v) ∧
      s.workers w ≠ .exited ∧
      (t.workers w = .exited ↔ s.workers w = .loopHead ∧ s.engine.running = false) := by
  by_cases hhead : s.workers w = .loopHead
  · simp only [workerStep, hhead, Option.some_inj] at h
    subst h
    refine ⟨rfl, fun v hv => goto_workers_of_ne _ _ hv, by simp [hhead], ?_⟩
    rw [goto_workers_self]
    rcases s.engine.running with _ | _
    · simp [hhead]
    · simp
  · obtain ⟨e, subs, pc, rfl, hrunning, hpc⟩ := workerStep_eq_goto h hhead
    refine ⟨hrunning, fun v hv => goto_workers_of_ne _ _ hv, ?_, ?_⟩
    · intro hexited
      simp [workerStep, hexited] at h
    · rw [goto_workers_self]
      simp [hpc, hhead]

omit [DecidableEq ω] in
/-- **The caller** does not touch the flag `running`, nor a worker. -/
lemma callerStep_frame {s t : EngineSystem ω} {act : CallerAct} (h : callerStep s act = some t) :
    t.engine.running = s.engine.running ∧ t.workers = s.workers := by
  cases callerStep_moves h <;> exact ⟨rfl, rfl⟩

/-! ## Threads that are not in the way -/

/-- The worker holds no instance: it is at the loop test, waits for the queue, or has exited. -/
def WorkerPc.isFree : WorkerPc → Bool
  | .loopHead | .popping | .exited => true
  | _ => false

end HardwareTest
