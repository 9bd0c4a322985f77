import HardwareTest.Engine.Step

/-!
# What becomes of a submission

From an engine with nothing queued and nothing running, `test_scheduler_submit` puts every
instance on the pending list, for it admits only when the limit is already reached; so no worker
ever gets anything to do, and no later call changes that (`Quiet`, `Quiet.step`). The three results
are read off from there, each as the exact condition on the steps of a run:

* `noStranded_iff`: nothing runnable is left pending in an idle engine;
* `resultsObservable_iff`: a result can be read for every call that returned 0;
* `instancesOwned_iff`: the stored pointers refer to distinct slots of the engine's array, with the
  data of their calls.
-/

namespace HardwareTest

open Lib

variable {ω : Type*} [DecidableEq ω]

/-! ## Nothing ever runs -/

/-- Before the first call: the queue is empty, nothing runs, and no thread is busy. -/
structure Started (s : EngineSystem ω) : Prop where
  queueEmpty : s.engine.executionQueue.count = 0
  noneRunning : s.engine.scheduler.runningInstances = 0
  limit : 0 < s.engine.scheduler.maxInstances
  workersFree : ∀ w, (s.workers w).isFree = true
  callerIdle : s.caller = .idle
  noSubmission : s.submissions = []

/-- No worker has anything to do, and the limit is not reached. -/
structure Quiet (s : EngineSystem ω) : Prop where
  queueEmpty : s.engine.executionQueue.count = 0
  belowLimit : s.engine.scheduler.runningInstances < s.engine.scheduler.maxInstances
  workersFree : ∀ w, (s.workers w).isFree = true
  notPushing : ∀ p i n, s.caller ≠ .pushing p i n
  ownFrame : ∀ p i n, s.caller = .submitting p i n → ∃ k < s.calls, p = .frame k

omit [DecidableEq ω] in
/-- A started engine is quiet. -/
lemma Started.quiet {s : EngineSystem ω} (h : Started s) : Quiet s := by
  refine ⟨h.queueEmpty, ?_, h.workersFree, ?_, ?_⟩
  · rw [h.noneRunning]
    exact h.limit
  · intro p i n hc
    rw [h.callerIdle] at hc
    cases hc
  · intro p i n hc
    rw [h.callerIdle] at hc
    cases hc

omit [DecidableEq ω] in
/-- `test_engine_init` leaves an engine started, with no counted instance, whatever tests are then
registered. -/
theorem testEngineInit_started {block : Option TestEngine}
    {schedulerBlock : Option (TestScheduler InstancePtr)} {testManager : TestManager}
    {functionManager : FunctionManager} {deviceManager : DeviceManager}
    {functionManagerAddr deviceManagerAddr : Address} {e : TestEngine}
    (h : testEngineInit block schedulerBlock testManager functionManager functionManagerAddr
      deviceManager deviceManagerAddr = some e) (tests : FixedTable TestEntry maxTests) :
    Started (ω := ω) ⟨{ e with tests := tests }, fun _ => .loopHead, .idle, 0, []⟩ ∧
      e.instanceCount = 0 := by
  simp only [testEngineInit, testSchedulerInit, Option.bind_eq_bind, Option.bind_eq_some_iff,
    Option.map_eq_some_iff, Option.pure_def, Option.some_inj] at h
  obtain ⟨e₀, -, scheduler, ⟨scheduler₀, -, rfl⟩, rfl⟩ := h
  have hlimit :
      0 < if testEngineMaxWorkers = 0 then testEngineMaxWorkers else testEngineMaxWorkers := by
    decide
  exact ⟨⟨rfl, rfl, hlimit, fun _ => rfl, rfl, rfl⟩, rfl⟩

/-- The engine of the one-LED platform with its eight workers. -/
def ledSystem : EngineSystem (Fin 8) where
  engine := ledEngine
  workers := fun _ => .loopHead
  caller := .idle
  calls := 0
  submissions := []

/-- The call of the one test of the platform. -/
def ledCall : List (EngineAct (Fin 8)) :=
  [.call (.execute (cstr "status_indication_test")), .call .proceed]

/-- A worker of a quiet engine only moves between the loop test and the empty queue. -/
lemma Quiet.work {s s' : EngineSystem ω} (h : Quiet s) {w : ω} {env : Environment}
    (hstep : workerStep s w env = some s') : ∃ pc, pc.isFree = true ∧ s' = s.goto w pc := by
  have hfree := h.workersFree w
  cases workerStep_moves hstep with
  | test =>
      refine ⟨_, ?_, rfl⟩
      split_ifs <;> rfl
  | stop => exact ⟨.loopHead, rfl, rfl⟩
  | pop _ _ hempty => exact absurd h.queueEmpty hempty
  | unknown _ hw | found _ _ hw | acquire _ _ _ hw | start _ _ hw | run _ _ _ hw | release _ _ _ hw
  | schedule _ hw | full _ hw | push _ _ hw =>
      -- a worker in these places is not free
      rw [hw] at hfree
      cases hfree

/-- The system after `submit` has answered PENDING, with the scheduler it leaves. -/
def EngineSystem.leftPending (s : EngineSystem ω) (scheduler : TestScheduler InstancePtr)
    (p : InstancePtr) (entry : ℕ) (name : CString) : EngineSystem ω :=
  { s with
    engine := { s.engine with scheduler := scheduler }
    caller := .idle
    submissions := s.submissions ++ [⟨p, entry, name, none⟩] }

omit [DecidableEq ω] in
/-- In a quiet engine a submitted instance goes pending, or the call fails because the list is
full. -/
lemma Quiet.proceed {s s' : EngineSystem ω} (h : Quiet s)
    (hstep : callerStep s .proceed = some s') :
    ∃ p entry name, s.caller = .submitting p entry name ∧
      ((maxTestInstances ≤ s.engine.scheduler.pendingInstances.count ∧
          s' = { s with caller := .idle }) ∨
        (s.engine.scheduler.pendingInstances.count < maxTestInstances ∧
          ∃ scheduler, scheduler.runningInstances = s.engine.scheduler.runningInstances ∧
            scheduler.maxInstances = s.engine.scheduler.maxInstances ∧
            scheduler.pendingInstances.items =
              s.engine.scheduler.pendingInstances.items ++ [some p] ∧
            s' = s.leftPending scheduler p entry name)) := by
  have hsplit := testSchedulerSubmit_of_lt h.belowLimit s.engine.checkResource
  cases callerStep_moves hstep with
  | failed inst entry name scheduler hcaller hsubmit =>
      refine ⟨inst, entry, name, hcaller, .inl ?_⟩
      rcases hsplit inst with ⟨_, _, hpending, -⟩ | ⟨hfull, hfailed⟩
      · rw [hsubmit] at hpending
        cases hpending
      · rw [hsubmit] at hfailed
        cases hfailed
        exact ⟨hfull, rfl⟩
  | pending inst entry name scheduler hcaller hsubmit =>
      refine ⟨inst, entry, name, hcaller, .inr ?_⟩
      rcases hsplit inst with ⟨hroom, _, hpending, hrun, hmax, hitems⟩ | ⟨_, hfailed⟩
      · rw [hsubmit] at hpending
        cases hpending
        exact ⟨hroom, scheduler, hrun, hmax, hitems, rfl⟩
      · rw [hsubmit] at hfailed
        cases hfailed
  | accepted inst entry name scheduler hcaller hsubmit =>
      rcases hsplit inst with ⟨_, _, hother, -⟩ | ⟨_, hother⟩
      all_goals
        rw [hsubmit] at hother
        cases hother
  | full inst entry name hcaller | push inst entry name _ hcaller =>
      exact absurd hcaller (h.notPushing inst entry name)

/-- **Step.** A quiet engine stays quiet. -/
theorem Quiet.step {s s' : EngineSystem ω} (h : Quiet s) {l : EngineAct ω}
    (hstep : engineStep s l = some s') : Quiet s' := by
  cases l with
  | work w env =>
      obtain ⟨pc, hpc, rfl⟩ := h.work hstep
      refine ⟨h.queueEmpty, h.belowLimit, ?_, h.notPushing, h.ownFrame⟩
      intro v
      by_cases hv : v = w
      · subst hv
        rwa [goto_workers_self]
      · rw [goto_workers_of_ne _ _ hv]
        exact h.workersFree v
  | call act =>
      cases act with
      | execute name =>
          rcases callerStep_execute hstep with rfl | ⟨entry, -, -, rfl⟩
          · exact h
          · refine ⟨h.queueEmpty, h.belowLimit, h.workersFree, ?_, ?_⟩
            · intro p i n hc
              cases hc
            · intro p i n hc
              cases hc
              exact ⟨s.calls, Nat.lt_succ_self _, rfl⟩
      | proceed =>
          obtain ⟨p, entry, name, -, ⟨-, rfl⟩ | ⟨-, scheduler, hrun, hmax, -, rfl⟩⟩ :=
            h.proceed hstep
          · refine ⟨h.queueEmpty, h.belowLimit, h.workersFree, ?_, ?_⟩
            all_goals intro _ _ _ hc; cases hc
          · refine ⟨h.queueEmpty, ?_, h.workersFree, ?_, ?_⟩
            · show scheduler.runningInstances < scheduler.maxInstances
              rw [hrun, hmax]
              exact h.belowLimit
            all_goals intro _ _ _ hc; cases hc

/-! ## No stranded test -/

/-- The whole engine is idle: the queue is empty, no worker holds an instance and no call is in
progress. -/
structure EngineSystem.Idle (s : EngineSystem ω) : Prop where
  queueEmpty : s.engine.executionQueue.count = 0
  workersFree : ∀ w, (s.workers w).isFree = true
  callerIdle : s.caller = .idle

/-- **No stranded test**: in an idle engine no pending instance passes the resource check. -/
def NoStranded (s : EngineSystem ω) : Prop :=
  s.Idle → ∀ p, some p ∈ s.engine.scheduler.pendingInstances.items →
    s.engine.checkResource p = false

/-- When the step is a `test_scheduler_submit` that finds room on the pending list, a device of
the instance is not free. -/
def submitBusy (s : EngineSystem ω) (l : EngineAct ω) : Bool :=
  match l, s.caller with
  | .call .proceed, .submitting p _ _ =>
      decide (maxTestInstances ≤ s.engine.scheduler.pendingInstances.count) ||
        !s.engine.checkResource p
  | _, _ => true

/-- A quiet engine all of whose pending instances belong to earlier calls and wait for a device. -/
structure PendingBusy (s : EngineSystem ω) : Prop extends Quiet s where
  busy : ∀ c ∈ s.engine.scheduler.pendingInstances.items,
    ∃ k < s.calls, c = some (.frame k) ∧ s.engine.checkResource (.frame k) = false

/-- A busy submission leaves only busy instances pending. -/
lemma PendingBusy.step {s s' : EngineSystem ω} (h : PendingBusy s) {l : EngineAct ω}
    (hbusy : submitBusy s l = true) (hstep : engineStep s l = some s') : PendingBusy s' := by
  refine ⟨h.toQuiet.step hstep, ?_⟩
  cases l with
  | work w env =>
      obtain ⟨pc, -, rfl⟩ := h.work hstep
      exact h.busy
  | call act =>
      cases act with
      | execute name =>
          rcases callerStep_execute hstep with rfl | ⟨entry, -, -, rfl⟩
          · exact h.busy
          · intro c hc
            obtain ⟨k, hk, rfl, hcheck⟩ := h.busy c hc
            refine ⟨k, Nat.lt_succ_of_lt hk, rfl, ?_⟩
            -- the new call has a frame of its own
            have hne : InstancePtr.frame k ≠ .frame s.calls := by
              intro heq
              cases heq
              exact Nat.lt_irrefl _ hk
            unfold TestEngine.checkResource at hcheck ⊢
            unfold EngineSystem.callBegun
            rw [functionName_updateInstance fun heq => absurd heq hne]
            exact hcheck
      | proceed =>
          obtain ⟨p, entry, name, hcaller, ⟨-, rfl⟩ | ⟨hroom, scheduler, -, -, hitems, rfl⟩⟩ :=
            h.proceed hstep
          · exact h.busy
          · intro c hc
            have hc : c ∈ scheduler.pendingInstances.items := hc
            rw [hitems, List.mem_append, List.mem_singleton] at hc
            rcases hc with hc | rfl
            · exact h.busy c hc
            · obtain ⟨k, hk, rfl⟩ := h.ownFrame p entry name hcaller
              simp only [submitBusy, hcaller, Nat.not_le.mpr hroom, decide_false, Bool.false_or,
                Bool.not_eq_true'] at hbusy
              exact ⟨k, hk, rfl, hbusy⟩

omit [DecidableEq ω] in
/-- What waits for a device is not stranded. -/
lemma PendingBusy.noStranded {s : EngineSystem ω} (h : PendingBusy s) : NoStranded s := by
  intro _ p hp
  obtain ⟨k, -, hk, hcheck⟩ := h.busy _ hp
  cases hk
  exact hcheck

/-- A submission that could have run is stranded at once. -/
lemma PendingBusy.stranded {s s' : EngineSystem ω} (h : PendingBusy s) {l : EngineAct ω}
    (hfree : submitBusy s l ≠ true) (hstep : engineStep s l = some s') : ¬ NoStranded s' := by
  unfold submitBusy at hfree
  split at hfree
  · next p entry name hcaller =>
      rw [ne_eq, Bool.or_eq_true, not_or, decide_eq_true_eq, Bool.not_eq_true', Bool.not_eq_false]
        at hfree
      obtain ⟨p', entry', name', hcaller', ⟨hfull, -⟩ | ⟨-, scheduler, -, -, hitems, rfl⟩⟩ :=
        h.proceed hstep
      · exact absurd hfull hfree.1
      · rw [hcaller] at hcaller'
        cases hcaller'
        intro hno
        have hstranded := hno ⟨h.queueEmpty, h.workersFree, rfl⟩ p (by
          show some p ∈ scheduler.pendingInstances.items
          rw [hitems]
          exact List.mem_append_right _ (List.mem_singleton_self _))
        exact Bool.false_ne_true (hstranded.symm.trans hfree.2)
  · exact absurd rfl hfree

/-- **No stranded test, exactly.** For every sequence of `test_engine_execute` calls interleaved
in any order with any number of workers, from an engine with nothing queued, pending or running:
no state of the run strands a runnable test if and only if every instance submitted while there is
room on the pending list has a device that is not free at that moment.
Source: `services/test-scheduler.c`, `test_scheduler_submit` -/
theorem noStranded_iff {s t : EngineSystem ω} {tr : List (EngineSystem ω × EngineAct ω)}
    (hstart : Started s) (hpending : s.engine.scheduler.pendingInstances.items = [])
    (hrun : Run (stepOf engineStep) s tr t) :
    (∀ u, Visits tr t u → NoStranded u) ↔ ∀ p ∈ tr, submitBusy p.1 p.2 = true := by
  refine hrun.always_iff_along (I := PendingBusy) (C := fun s l => submitBusy s l = true)
    ⟨hstart.quiet, ?_⟩ (fun _ _ _ h hbusy hstep => h.step hbusy hstep) (fun _ h => h.noStranded)
    (fun _ _ _ h hfree hstep => h.stranded hfree hstep)
  rw [hpending]
  intro c hc
  cases hc

/-- The one-LED platform with its device in use elsewhere. -/
def busySystem : EngineSystem (Fin 8) :=
  { ledSystem with engine := { ledEngine with
    resourceManager := (ledEngine.resourceManager.modifyAt 0 (.markBusy (.slot 5))) } }

/-- A test whose device is in use goes pending and stays there, rightly. -/
theorem noStranded_busySystem :
    ∃ tr t, Run (stepOf engineStep) busySystem tr t ∧
      t.engine.scheduler.pendingInstances.items = [some (.frame 0)] ∧
      ∀ u, Visits tr t u → NoStranded u := by
  have hrun : Run (stepOf engineStep) busySystem _ _ := run_of_exec ledCall rfl
  refine ⟨_, _, hrun, rfl,
    (noStranded_iff ⟨rfl, rfl, by decide, fun _ => rfl, rfl, rfl⟩ rfl hrun).mpr ?_⟩
  rw [← List.all_eq_true]
  rfl

/-- The LED is free and the whole engine idle, and the test just submitted is left pending. -/
theorem ledTest_stranded :
    Started ledSystem ∧ ledSystem.engine.scheduler.pendingInstances.items = [] ∧
      ∃ t, Reachable (stepOf engineStep) ledSystem t ∧ ¬ NoStranded t := by
  have hrun : Run (stepOf engineStep) ledSystem _ _ := run_of_exec ledCall rfl
  refine ⟨⟨rfl, rfl, by decide, fun _ => rfl, rfl, rfl⟩, rfl, _, ⟨_, hrun⟩, ?_⟩
  intro hno
  have hpending := hno ⟨rfl, fun _ => rfl, rfl⟩ (.frame 0) (List.mem_singleton_self _)
  exact absurd hpending (by decide)

/-! ## Observable results -/

/-- When the step is a `test_scheduler_submit`, the pending list is full, so that the call fails. -/
def submitRefused (s : EngineSystem ω) (l : EngineAct ω) : Bool :=
  match l, s.caller with
  | .call .proceed, .submitting _ _ _ =>
      decide (maxTestInstances ≤ s.engine.scheduler.pendingInstances.count)
  | _, _ => true

/-- A quiet engine in which no call has returned 0. -/
structure Unsubmitted (s : EngineSystem ω) : Prop extends Quiet s where
  noSubmission : s.submissions = []

/-- A refused submission leaves no trace of success, on the pending list or elsewhere. -/
lemma Unsubmitted.step {s s' : EngineSystem ω} (h : Unsubmitted s) {l : EngineAct ω}
    (hrefused : submitRefused s l = true) (hstep : engineStep s l = some s') :
    Unsubmitted s' ∧ s'.engine.instanceCount = s.engine.instanceCount ∧
      s'.engine.scheduler = s.engine.scheduler := by
  have hquiet := h.toQuiet.step hstep
  cases l with
  | work w env =>
      obtain ⟨pc, -, rfl⟩ := h.work hstep
      exact ⟨⟨hquiet, h.noSubmission⟩, rfl, rfl⟩
  | call act =>
      cases act with
      | execute name =>
          rcases callerStep_execute hstep with rfl | ⟨entry, -, -, rfl⟩
          · exact ⟨h, rfl, rfl⟩
          · exact ⟨⟨hquiet, h.noSubmission⟩, rfl, rfl⟩
      | proceed =>
          obtain ⟨p, entry, name, hcaller, ⟨-, rfl⟩ | ⟨hroom, -⟩⟩ := h.proceed hstep
          · exact ⟨⟨hquiet, h.noSubmission⟩, rfl, rfl⟩
          · simp only [submitRefused, hcaller, decide_eq_true_eq] at hrefused
            exact absurd hrefused (Nat.not_le.mpr hroom)

/-- A submission that is not refused returns 0 with its instance on the pending list, in the frame
of the call. -/
lemma Quiet.submitted {s s' : EngineSystem ω} (h : Quiet s) {l : EngineAct ω}
    (hroom : submitRefused s l ≠ true) (hstep : engineStep s l = some s') :
    ∃ k entry name, ⟨.frame k, entry, name, none⟩ ∈ s'.submissions ∧
      some (.frame k) ∈ s'.engine.scheduler.pendingInstances.items ∧
      s'.engine.instanceCount = s.engine.instanceCount := by
  unfold submitRefused at hroom
  split at hroom
  · rw [ne_eq, decide_eq_true_eq] at hroom
    obtain ⟨p, entry, name, hcaller, ⟨hfull, -⟩ | ⟨-, scheduler, -, -, hitems, rfl⟩⟩ :=
      h.proceed hstep
    · exact absurd hfull hroom
    · obtain ⟨k, -, rfl⟩ := h.ownFrame p entry name hcaller
      refine ⟨k, entry, name, List.mem_append_right _ (List.mem_singleton_self _), ?_, rfl⟩
      show some (InstancePtr.frame k) ∈ scheduler.pendingInstances.items
      rw [hitems]
      exact List.mem_append_right _ (List.mem_singleton_self _)
  · exact absurd rfl hroom

/-- **Observable results**: for every call that returned 0 `test_engine_get_result` finds a
result, QUEUED until a worker has finished the run and afterwards what the run produced. -/
def ResultsObservable (s : EngineSystem ω) : Prop :=
  ∀ sub ∈ s.submissions, ∃ r, s.engine.getResult sub.name = some r ∧
    match sub.outcome with
    | none => r.state = .queued
    | some outcome => r.state = outcome.1 ∧ r.result = outcome.2

omit [DecidableEq ω] in
/-- With no counted instance there is no result. -/
lemma getResult_of_count_eq_zero {e : TestEngine} (h : e.instanceCount = 0) (name : CString) :
    e.getResult name = none := by
  unfold TestEngine.getResult
  rw [h]
  rfl

/-- **Observable results, exactly.** For every run from a started engine with any registered tests
and no counted instance: at every point the results of all calls that have returned 0 can be read
if and only if every `test_scheduler_submit` of the run finds the pending list full, that is, no
call returns 0. `test_engine_execute` submits a copy and counts nothing, so `get_result` has
nothing to look at.
Source: `services/test-engine.c`, `test_engine_execute`, `test_engine_get_result` -/
theorem resultsObservable_iff {s t : EngineSystem ω} {tr : List (EngineSystem ω × EngineAct ω)}
    (hstart : Started s) (hcount : s.engine.instanceCount = 0)
    (hrun : Run (stepOf engineStep) s tr t) :
    (∀ u, Visits tr t u → ResultsObservable u) ↔ ∀ p ∈ tr, submitRefused p.1 p.2 = true := by
  refine hrun.always_iff_along (I := fun u => Unsubmitted u ∧ u.engine.instanceCount = 0)
    (C := fun s l => submitRefused s l = true)
    ⟨⟨hstart.quiet, hstart.noSubmission⟩, hcount⟩ ?_ ?_ ?_
  · rintro u l v ⟨h, hzero⟩ hrefused hstep
    obtain ⟨h', hcount', -⟩ := h.step hrefused hstep
    exact ⟨h', hcount'.trans hzero⟩
  · rintro u ⟨h, -⟩ sub hsub
    rw [h.noSubmission] at hsub
    cases hsub
  · rintro u l v ⟨h, hzero⟩ hroom hstep hobs
    obtain ⟨k, entry, name, hsub, -, hcount'⟩ := h.submitted hroom hstep
    obtain ⟨r, hr, -⟩ := hobs _ hsub
    rw [getResult_of_count_eq_zero (hcount'.trans hzero)] at hr
    cases hr

/-- The one-LED platform with a pending list that has no room left. -/
def fullSystem : EngineSystem (Fin 8) :=
  { ledSystem with engine := { ledEngine with
    scheduler := { ledEngine.scheduler with
      pendingInstances := ⟨.replicate _ none, maxTestInstances⟩ } } }

/-- With a full pending list the call of the LED test returns `-1`, and no result is owed. -/
theorem resultsObservable_fullSystem :
    ∃ tr t, Run (stepOf engineStep) fullSystem tr t ∧ t.calls = 1 ∧ t.caller = .idle ∧
      ∀ u, Visits tr t u → ResultsObservable u := by
  have hrun : Run (stepOf engineStep) fullSystem _ _ := run_of_exec ledCall rfl
  refine ⟨_, _, hrun, rfl, rfl,
    (resultsObservable_iff ⟨rfl, rfl, by decide, fun _ => rfl, rfl, rfl⟩ rfl hrun).mpr ?_⟩
  rw [← List.all_eq_true]
  rfl

/-- The call of the LED test returns 0, and its result cannot be read. -/
theorem ledResult_lost :
    Started ledSystem ∧ ledSystem.engine.instanceCount = 0 ∧
      ∃ t, Reachable (stepOf engineStep) ledSystem t ∧ ¬ ResultsObservable t := by
  have hrun : Run (stepOf engineStep) ledSystem _ _ := run_of_exec ledCall rfl
  refine ⟨⟨rfl, rfl, by decide, fun _ => rfl, rfl, rfl⟩, rfl, _, ⟨_, hrun⟩, ?_⟩
  intro hobs
  obtain ⟨r, hr, -⟩ := hobs ⟨.frame 0, 0, cstr "status_indication_test", none⟩
    (List.mem_singleton_self _)
  rw [getResult_of_count_eq_zero rfl] at hr
  cases hr

/-! ## Ownership of the instances -/

/-- **Instance ownership**: every pointer on the pending list and in the queue refers to a slot of
`instances[MAX_TEST_INSTANCES]`, the pointers of unfinished calls differ, and the instance of an
unfinished call has its entry, its name and the managers given to `test_engine_init`. -/
structure InstancesOwned (deviceManager functionManager : Address) (s : EngineSystem ω) : Prop where
  pending : ∀ c ∈ s.engine.scheduler.pendingInstances.items,
    ∃ i < maxTestInstances, c = some (.slot i)
  queued : ∀ c ∈ s.engine.executionQueue.contents, ∃ i < maxTestInstances, c = some (.slot i)
  distinct : ((s.submissions.filter fun sub => sub.outcome.isNone).map Submission.inst).Nodup
  carries : ∀ sub ∈ s.submissions, sub.outcome = none →
    (s.engine.memory sub.inst).entry = some sub.entry ∧
      (s.engine.memory sub.inst).context.testName = safeStringCopy sub.name testNameLength ∧
      (s.engine.memory sub.inst).context.deviceManager = some deviceManager ∧
      (s.engine.memory sub.inst).context.functionManager = some functionManager

/-- **Instance ownership, exactly.** For every sequence of `test_engine_execute` calls and worker
steps, from a started engine with an empty pending list: the engine owns its instances in every
state of the run if and only if every `test_scheduler_submit` of the run finds the pending list
full, so that no pointer is stored. What `test_engine_execute` submits is the address of its own
local variable.
Source: `services/test-engine.c`, `test_engine_execute` -/
theorem instancesOwned_iff {s t : EngineSystem ω} {tr : List (EngineSystem ω × EngineAct ω)}
    (deviceManager functionManager : Address) (hstart : Started s)
    (hpending : s.engine.scheduler.pendingInstances.items = [])
    (hrun : Run (stepOf engineStep) s tr t) :
    (∀ u, Visits tr t u → InstancesOwned deviceManager functionManager u) ↔
      ∀ p ∈ tr, submitRefused p.1 p.2 = true := by
  refine hrun.always_iff_along
    (I := fun u => Unsubmitted u ∧ u.engine.scheduler.pendingInstances.items = [])
    (C := fun s l => submitRefused s l = true)
    ⟨⟨hstart.quiet, hstart.noSubmission⟩, hpending⟩ ?_ ?_ ?_
  · rintro u l v ⟨h, hnil⟩ hrefused hstep
    obtain ⟨h', -, hscheduler⟩ := h.step hrefused hstep
    exact ⟨h', hscheduler ▸ hnil⟩
  · rintro u ⟨h, hnil⟩
    refine ⟨?_, ?_, ?_, ?_⟩
    · rw [hnil]
      intro c hc
      cases hc
    · rw [Ring.contents_of_count_eq_zero h.queueEmpty]
      intro c hc
      cases hc
    · rw [h.noSubmission]
      exact List.nodup_nil
    · rw [h.noSubmission]
      intro sub hsub
      cases hsub
  · rintro u l v ⟨h, -⟩ hroom hstep howned
    obtain ⟨k, -, -, -, hstored, -⟩ := h.submitted hroom hstep
    obtain ⟨i, -, hslot⟩ := howned.pending _ hstored
    cases hslot

/-- A call of an unknown test stores no pointer; the worker that looks for work finds none. -/
theorem instancesOwned_unknownTest :
    ∃ tr t, Run (stepOf engineStep) ledSystem tr t ∧
      tr.map Prod.snd = [.call (.execute (cstr "user_input_test")), .work 3 ⟨0, 0, 0⟩] ∧
      ∀ u, Visits tr t u → InstancesOwned 4096 8192 u := by
  have hrun : Run (stepOf engineStep) ledSystem _ _ :=
    run_of_exec [.call (.execute (cstr "user_input_test")), .work 3 ⟨0, 0, 0⟩] rfl
  refine ⟨_, _, hrun, rfl,
    (instancesOwned_iff 4096 8192 ⟨rfl, rfl, by decide, fun _ => rfl, rfl, rfl⟩ rfl hrun).mpr ?_⟩
  rw [← List.all_eq_true]
  rfl

/-- The call of the LED test leaves a pointer to its own stack frame on the pending list. -/
theorem ledInstance_notOwned :
    Started ledSystem ∧ ledSystem.engine.scheduler.pendingInstances.items = [] ∧
      ∃ t, Reachable (stepOf engineStep) ledSystem t ∧ ¬ InstancesOwned 4096 8192 t := by
  have hrun : Run (stepOf engineStep) ledSystem _ _ := run_of_exec ledCall rfl
  refine ⟨⟨rfl, rfl, by decide, fun _ => rfl, rfl, rfl⟩, rfl, _, ⟨_, hrun⟩, ?_⟩
  intro howned
  obtain ⟨i, -, hslot⟩ := howned.pending (some (.frame 0)) (List.mem_singleton_self _)
  cases hslot

end HardwareTest
