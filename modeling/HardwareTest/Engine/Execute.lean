import HardwareTest.Engine.ExecutionQueue

/-!
# A whole call of `test_engine_execute`

* `testEngineExecute`: the call from its first statement to its return, with `startInstance` the
  part behind the local instance. `execute_run` says that it is what the steps of the caller come
  to when no other thread steps in between.
* `LeavesNoTrace`: the queue, the instance counter and the scheduler are as before.
* `refusedUntouched_iff`: the one exit with `-1` that leaves a trace is the last one, where the
  scheduler has counted the instance and the queue is full.
-/

namespace HardwareTest

open Lib

/-- From the call of `test_scheduler_submit` to the end.
Source: `services/test-engine.c`, `test_engine_execute` -/
def startInstance (e : TestEngine) (inst : InstancePtr) : ℤ × TestEngine :=
  let r := testSchedulerSubmit e.checkResource e.scheduler inst
  let e := { e with scheduler := r.2 }
  match r.1 with
  | .failed => (-1, e)
  | .pending => (0, e)
  | .accepted =>
      let p := testEngineQueuePush e (some inst)
      if p.1 ≠ 0 then (-1, p.2)
      else (0, { p.2 with instanceCount := p.2.instanceCount + 1 })

/-- The code returned and the engine afterwards; `call` numbers the frame of the local instance.
Source: `services/test-engine.c`, `test_engine_execute` -/
def testEngineExecute (e : TestEngine) (call : ℕ) (name : CString) : ℤ × TestEngine :=
  match e.findTest name with
  | none => (-1, e)
  | some entry =>
      if e.instanceCount.toNat ≥ maxTestInstances then (-1, e)
      else
        startInstance (e.updateInstance (.frame call) fun _ => e.localInstance entry name)
          (.frame call)

/-! ## The call and the steps of the caller -/

section steps

variable {ω : Type*}

/-- What a push and the counting behind it leave of the engine. -/
def pushedEngine (e : TestEngine) (inst : InstancePtr) : TestEngine :=
  let p := testEngineQueuePush e (some inst)
  if p.1 ≠ 0 then p.2 else { p.2 with instanceCount := p.2.instanceCount + 1 }

/-- The last step of a call. -/
lemma callerStep_pushed {s : EngineSystem ω} {inst : InstancePtr} {entry : ℕ} {name : CString}
    (hcaller : s.caller = .pushing inst entry name) :
    ∃ t, callerStep s .proceed = some t ∧ t.caller = .idle ∧
      t.engine = pushedEngine s.engine inst := by
  rw [callerStep_pushing hcaller]
  unfold pushedEngine
  simp only
  split_ifs
  · exact ⟨_, rfl, rfl, rfl⟩
  · exact ⟨_, rfl, rfl, rfl⟩

/-- The steps from `test_scheduler_submit` on. -/
lemma startInstance_run {s : EngineSystem ω} {inst : InstancePtr} {entry : ℕ} {name : CString}
    (hcaller : s.caller = .submitting inst entry name) :
    ∃ acts t, exec callerStep s acts = some t ∧ t.caller = .idle ∧
      t.engine = (startInstance s.engine inst).2 := by
  have hsubmit : ∃ t, callerStep s .proceed = some t ∧
      (t.caller = .idle ∧ t.engine = (startInstance s.engine inst).2 ∨
        t.caller = .pushing inst entry name ∧
          pushedEngine t.engine inst = (startInstance s.engine inst).2) := by
    unfold callerStep startInstance pushedEngine
    simp only [hcaller]
    rcases (testSchedulerSubmit s.engine.checkResource s.engine.scheduler inst).1 with _ | _ | _
    · refine ⟨_, rfl, .inr ⟨rfl, ?_⟩⟩
      simp only
      split_ifs <;> rfl
    · exact ⟨_, rfl, .inl ⟨rfl, rfl⟩⟩
    · exact ⟨_, rfl, .inl ⟨rfl, rfl⟩⟩
  obtain ⟨t, hstep, ⟨hidle, hengine⟩ | ⟨hpushing, hengine⟩⟩ := hsubmit
  · refine ⟨[.proceed], t, ?_, hidle, hengine⟩
    rw [exec, hstep]
    rfl
  · obtain ⟨u, hpush, hidle, hpushed⟩ := callerStep_pushed hpushing
    refine ⟨[.proceed, .proceed], u, ?_, hidle, hpushed.trans hengine⟩
    rw [exec, hstep, Option.bind_some, exec, hpush]
    rfl

/-- **The call is the run of its steps**: when only the caller moves, they lead to the engine that
`testEngineExecute` returns. Source: `services/test-engine.c`, `test_engine_execute` -/
theorem execute_run {s : EngineSystem ω} (hcaller : s.caller = .idle) (name : CString) :
    ∃ acts t, exec callerStep s acts = some t ∧ t.caller = .idle ∧
      t.engine = (testEngineExecute s.engine s.calls name).2 := by
  unfold testEngineExecute
  rcases hfind : s.engine.findTest name with _ | entry
  · refine ⟨[.execute name], s, ?_, hcaller, rfl⟩
    simp [exec, callerStep, hcaller, hfind]
  · simp only
    split_ifs with hcount
    · refine ⟨[.execute name], s, ?_, hcaller, rfl⟩
      simp [exec, callerStep, hcaller, hfind, hcount]
    · have hbegin : callerStep s (.execute name) = some (s.callBegun entry name) := by
        unfold callerStep
        simp only [hcaller, hfind, if_neg hcount]
        rfl
      have hsubmitting : (s.callBegun entry name).caller =
          .submitting (.frame s.calls) entry name := rfl
      obtain ⟨acts, t, hrun, hidle, hengine⟩ := startInstance_run hsubmitting
      refine ⟨.execute name :: acts, t, ?_, hidle, hengine⟩
      rw [exec, hbegin]
      exact hrun

end steps

/-! ## Refused calls -/

/-- **No trace**: the queue with its indices, the counter of instances and the scheduler are the
same. -/
structure LeavesNoTrace (e e' : TestEngine) : Prop where
  executionQueue : e'.executionQueue = e.executionQueue
  instanceCount : e'.instanceCount = e.instanceCount
  runningInstances : e'.scheduler.runningInstances = e.scheduler.runningInstances
  pendingInstances : e'.scheduler.pendingInstances = e.scheduler.pendingInstances

/-- **A refused call leaves no trace.** -/
def RefusedUntouched (e : TestEngine) (call : ℕ) (name : CString) : Prop :=
  (testEngineExecute e call name).1 = -1 → LeavesNoTrace e (testEngineExecute e call name).2

/-- Whether the devices of a test are free, as the scheduler finds out by its name. -/
def TestEngine.testAvailable (e : TestEngine) (name : CString) : Bool :=
  resourceManagerIsAvailable e.resourceManager
    (match e.testManager.getFunctionName name with
    | some function => function.chars
    | none => [])

/-- The scheduler accepts an instance of the test. -/
def TestEngine.Accepts (e : TestEngine) (name : CString) : Prop :=
  e.scheduler.maxInstances ≤ e.scheduler.runningInstances ∧ e.testAvailable name = true

/-- The entry that is found has the name. -/
lemma name_of_findTest {e : TestEngine} {name : CString} {entry : ℕ}
    (h : e.findTest name = some entry) :
    ∃ t, e.tests.get? entry = some t ∧ t.name.chars = name := by
  unfold TestEngine.findTest at h
  obtain ⟨hlt, hname, -⟩ := List.findIdx?_eq_some_iff_getElem.mp h
  refine ⟨e.tests.items[entry], ?_, by simpa using hname⟩
  rw [FixedTable.get?_eq_items, List.getElem?_eq_getElem hlt]

/-- The resource check of the local instance is the one of the test. -/
lemma checkResource_localInstance {e : TestEngine} {name : CString} {entry : ℕ}
    (h : e.findTest name = some entry) (p : InstancePtr) :
    (e.updateInstance p fun _ => e.localInstance entry name).checkResource p =
      e.testAvailable name := by
  obtain ⟨t, ht, hname⟩ := name_of_findTest h
  have hentry : (e.updateInstance p fun _ => e.localInstance entry name).entryName p = name := by
    unfold TestEngine.entryName TestEngine.updateInstance TestEngine.localInstance
    simp only [if_true, Option.bind_some, ht, hname]
  unfold TestEngine.checkResource TestEngine.functionName TestEngine.testAvailable
  rw [hentry]
  rfl

/-- Filling the local instance is no trace. -/
lemma leavesNoTrace_updateInstance {e e' : TestEngine} {p : InstancePtr}
    {f : TestInstance → TestInstance} :
    LeavesNoTrace (e.updateInstance p f) e' ↔ LeavesNoTrace e e' :=
  ⟨fun ⟨hqueue, hcount, hrunning, hpending⟩ => ⟨hqueue, hcount, hrunning, hpending⟩,
    fun ⟨hqueue, hcount, hrunning, hpending⟩ => ⟨hqueue, hcount, hrunning, hpending⟩⟩

/-- Counting one more changes the counter. -/
lemma add_one_ne_self (x : UInt32) : x + 1 ≠ x := by
  intro h
  have hval := congrArg UInt32.toNat h
  have hlt := x.toNat_lt
  rw [UInt32.toNat_add] at hval
  simp only [UInt32.toNat_one] at hval
  omega

/-- An accepted instance is queued when the queue has room; otherwise the call fails, and the
scheduler has counted the instance. -/
lemma startInstance_of_accepted {e : TestEngine} {inst : InstancePtr}
    (haccept : e.scheduler.runningInstances ≥ e.scheduler.maxInstances ∧
      e.checkResource inst = true) :
    (e.executionQueue.count < testEngineQueueSize ∧ (startInstance e inst).1 = 0) ∨
      (¬ e.executionQueue.count < testEngineQueueSize ∧
        startInstance e inst = (-1, { e with scheduler := { e.scheduler with
          runningInstances := e.scheduler.runningInstances + 1 } })) := by
  have hsubmit : testSchedulerSubmit e.checkResource e.scheduler inst =
      (.accepted, { e.scheduler with runningInstances := e.scheduler.runningInstances + 1 }) :=
    if_pos haccept
  rcases testEngineQueuePush_cases { e with scheduler := { e.scheduler with
      runningInstances := e.scheduler.runningInstances + 1 } } inst with
    ⟨hfull, hpush⟩ | ⟨hroom, queue, -, hpush⟩
  · refine .inr ⟨hfull, ?_⟩
    unfold startInstance
    simp only [hsubmit, hpush]
    rfl
  · refine .inl ⟨hroom, ?_⟩
    unfold startInstance
    simp only [hsubmit, hpush]
    rfl

/-- An instance that is not accepted goes pending, or is refused and changes nothing. -/
lemma startInstance_of_not_accepted {e : TestEngine} {inst : InstancePtr}
    (hnot : ¬ (e.scheduler.runningInstances ≥ e.scheduler.maxInstances ∧
      e.checkResource inst = true)) :
    (startInstance e inst).1 = 0 ∨ startInstance e inst = (-1, e) := by
  rcases testSchedulerSubmit_of_not_accepted hnot with ⟨-, scheduler', hsubmit, -⟩ | ⟨-, hsubmit⟩
  · left
    unfold startInstance
    simp only [hsubmit]
  · right
    unfold startInstance
    simp only [hsubmit]

/-- Behind the local instance a refusal leaves a trace exactly when the scheduler has accepted. -/
lemma startInstance_untouched_iff (e : TestEngine) (inst : InstancePtr) :
    ((startInstance e inst).1 = -1 → LeavesNoTrace e (startInstance e inst).2) ↔
      ¬ (e.scheduler.maxInstances ≤ e.scheduler.runningInstances ∧ e.checkResource inst = true ∧
        ¬ e.executionQueue.count < testEngineQueueSize) := by
  by_cases haccept : e.scheduler.runningInstances ≥ e.scheduler.maxInstances ∧
      e.checkResource inst = true
  · rcases startInstance_of_accepted haccept with ⟨hroom, hstart⟩ | ⟨hfull, hstart⟩
    · rw [hstart]
      refine iff_of_true nofun ?_
      rintro ⟨-, -, hfull⟩
      exact hfull hroom
    · -- the instance is counted and the push refused
      rw [hstart]
      refine iff_of_false ?_ (not_not.mpr ⟨haccept.1, haccept.2, hfull⟩)
      intro huntouched
      exact add_one_ne_self _ (huntouched rfl).runningInstances
  · have hnot : ¬ (e.scheduler.maxInstances ≤ e.scheduler.runningInstances ∧
        e.checkResource inst = true ∧ ¬ e.executionQueue.count < testEngineQueueSize) :=
      fun h => haccept ⟨h.1, h.2.1⟩
    rcases startInstance_of_not_accepted haccept with hstart | hstart
    · rw [hstart]
      exact iff_of_true nofun hnot
    · rw [hstart]
      exact iff_of_true (fun _ => ⟨rfl, rfl, rfl, rfl⟩) hnot

/-- **A refused execution leaves no trace** exactly when it is not the case that the test is found,
there is a slot for its instance, the scheduler accepts it and the execution queue is full.
Source: `services/test-engine.c`, `test_engine_execute` -/
theorem refusedUntouched_iff (e : TestEngine) (call : ℕ) (name : CString) :
    RefusedUntouched e call name ↔
      ¬ ((e.findTest name).isSome = true ∧ e.instanceCount.toNat < maxTestInstances ∧
        e.Accepts name ∧ ¬ e.executionQueue.count < testEngineQueueSize) := by
  unfold RefusedUntouched testEngineExecute
  rcases hfind : e.findTest name with _ | entry
  · exact iff_of_true (fun _ => ⟨rfl, rfl, rfl, rfl⟩) (by simp)
  · simp only
    split_ifs with hcount
    · refine iff_of_true (fun _ => ⟨rfl, rfl, rfl, rfl⟩) ?_
      rintro ⟨-, hslot, -⟩
      exact absurd hcount (Nat.not_le.mpr hslot)
    · have hstart := startInstance_untouched_iff
        (e.updateInstance (.frame call) fun _ => e.localInstance entry name) (.frame call)
      rw [checkResource_localInstance hfind, leavesNoTrace_updateInstance] at hstart
      have hslot : e.instanceCount.toNat < maxTestInstances := Nat.lt_of_not_le hcount
      simp only [Option.isSome_some, hslot, true_and, TestEngine.Accepts, and_assoc]
      exact hstart

/-- The one-LED engine with as many running instances as slots and a full queue. -/
def crowdedLed : TestEngine :=
  { ledEngine with
    scheduler := { ledEngine.scheduler with runningInstances := testEngineMaxWorkers }
    executionQueue := { ledEngine.executionQueue with count := testEngineQueueSize } }

/-- The call is refused, and the scheduler counts one more running instance. -/
theorem crowdedLed_touched :
    ¬ RefusedUntouched crowdedLed 0 (cstr "status_indication_test") := by
  intro huntouched
  have hrunning := (huntouched (by decide)).runningInstances
  exact absurd hrunning (by decide)

end HardwareTest
