import HardwareTest.Engine.Step

/-!
# The execution queue

* `testEngineQueuePush`, `testEngineQueuePop`: the two functions as calls; the steps of
  `Engine/Step.lean` make the same calls (`workerStep_popping`, `workerStep_pushing`,
  `callerStep_pushing`).
* `QueueRecord`: any sequence of pushes and pops, with what was pushed and what was popped.
* `QueueRecord.InOrder` is the invariant: the ring is well formed, and what was popped, followed by
  what is queued, is what was pushed. `executionQueue_fifo` draws the consequences.
-/

namespace HardwareTest

open Lib

/-! ## The two functions -/

/-- The code returned and the engine afterwards; `none` is a NULL instance.
Source: `services/test-engine.c`, `test_engine_queue_push` -/
def testEngineQueuePush (e : TestEngine) (inst : Option InstancePtr) : ℤ × TestEngine :=
  match inst with
  | none => (-1, e)
  | some p =>
      match e.executionQueue.push (some p) with
      | none => (-1, e)
      | some queue => (0, { e with executionQueue := queue })

/-- The instance returned and the engine afterwards; `none` while the call waits for
`queue_condition`. Source: `services/test-engine.c`, `test_engine_queue_pop` -/
def testEngineQueuePop (e : TestEngine) : Option (Option InstancePtr × TestEngine) :=
  if e.running = false then some (none, e)
  else if e.executionQueue.count = 0 then none
  else
    let r := e.executionQueue.pop
    some (r.1, { e with executionQueue := r.2 })

section calls

variable {ω : Type*} [DecidableEq ω] {s : EngineSystem ω}

/-- A worker in `test_engine_queue_pop` makes this call. -/
lemma workerStep_popping {w : ω} (hw : s.workers w = .popping) (env : Environment) :
    workerStep s w env = (testEngineQueuePop s.engine).map fun r =>
      { s with engine := r.2 }.goto w (match r.1 with
        | none => .loopHead
        | some inst => .popped inst) := by
  unfold workerStep testEngineQueuePop
  rw [hw]
  simp only
  split_ifs <;> rfl

/-- A worker with a promoted instance makes this call, and counts the instance when it returns 0. -/
lemma workerStep_pushing {w : ω} {inst : InstancePtr} (hw : s.workers w = .pushing inst)
    (env : Environment) :
    workerStep s w env =
      let r := testEngineQueuePush s.engine (some inst)
      some ({ s with engine :=
        if r.1 ≠ 0 then r.2 else { r.2 with instanceCount := r.2.instanceCount + 1 } }.goto w
          .loopHead) := by
  unfold workerStep testEngineQueuePush
  rw [hw]
  simp only
  rcases s.engine.executionQueue.push (some inst) with _ | queue
  · rfl
  · rfl

omit [DecidableEq ω] in
/-- The caller with an accepted instance makes this call; a submission is recorded when it
returns 0. -/
lemma callerStep_pushing {inst : InstancePtr} {entry : ℕ} {name : CString}
    (hcaller : s.caller = .pushing inst entry name) :
    callerStep s .proceed =
      let r := testEngineQueuePush s.engine (some inst)
      some (if r.1 ≠ 0 then { s with engine := r.2, caller := .idle }
        else { s with
          engine := { r.2 with instanceCount := r.2.instanceCount + 1 }
          caller := .idle
          submissions := s.submissions ++ [⟨inst, entry, name, none⟩] }) := by
  unfold callerStep testEngineQueuePush
  simp only [hcaller]
  rcases s.engine.executionQueue.push (some inst) with _ | queue
  · rfl
  · rfl

end calls

/-! ## Any sequence of calls -/

/-- The engine, the instances pushed with code 0 and the ones popped. -/
structure QueueRecord where
  engine : TestEngine
  pushed : List InstancePtr
  popped : List (Option InstancePtr)

/-- A call of `test_engine_queue_push` or `test_engine_queue_pop`. -/
inductive QueueAct
  | push (inst : InstancePtr)
  | pop

/-- One call; a pop that waits is not a step. -/
def queueStep (r : QueueRecord) : QueueAct → Option QueueRecord
  | .push inst =>
      let p := testEngineQueuePush r.engine (some inst)
      some { r with
        engine := p.2
        pushed := if p.1 = 0 then r.pushed ++ [inst] else r.pushed }
  | .pop => (testEngineQueuePop r.engine).map fun p =>
      { r with engine := p.2, popped := r.popped ++ [p.1] }

/-- **The queue is in order**: the engine runs, the ring is well formed, and what was popped,
followed by what is queued, is what was pushed. -/
structure QueueRecord.InOrder (r : QueueRecord) : Prop where
  running : r.engine.running = true
  wellFormed : r.engine.executionQueue.WellFormed
  order : r.popped ++ r.engine.executionQueue.contents = r.pushed.map some

/-- A push is refused exactly when the ring is full, and then changes nothing. -/
lemma testEngineQueuePush_cases (e : TestEngine) (inst : InstancePtr) :
    (¬ e.executionQueue.count < testEngineQueueSize ∧
      testEngineQueuePush e (some inst) = (-1, e)) ∨
    (e.executionQueue.count < testEngineQueueSize ∧
      ∃ queue, e.executionQueue.push (some inst) = some queue ∧
        testEngineQueuePush e (some inst) = (0, { e with executionQueue := queue })) := by
  unfold testEngineQueuePush
  rcases hpush : e.executionQueue.push (some inst) with _ | queue
  · refine .inl ⟨Ring.push_eq_none_iff.mp hpush, ?_⟩
    simp only [hpush]
  · refine .inr ⟨Ring.count_lt_of_push hpush, queue, rfl, ?_⟩
    simp only [hpush]

/-- **Step.** -/
lemma QueueRecord.InOrder.step {r r' : QueueRecord} (h : r.InOrder) {act : QueueAct}
    (hstep : queueStep r act = some r') : r'.InOrder := by
  obtain ⟨hrunning, hwell, horder⟩ := h
  rcases act with inst | _
  · simp only [queueStep, Option.some_inj] at hstep
    subst hstep
    rcases testEngineQueuePush_cases r.engine inst with ⟨-, hrefused⟩ | ⟨-, queue, hpush, hpushed⟩
    · simp only [hrefused]
      exact ⟨hrunning, hwell, horder⟩
    · simp only [hpushed, if_true]
      refine ⟨hrunning, hwell.push hpush, ?_⟩
      rw [Ring.contents_push hwell hpush, ← List.append_assoc, horder, List.map_append,
        List.map_singleton]
  · have hnot : r.engine.running ≠ false := by simp [hrunning]
    simp only [queueStep, testEngineQueuePop, if_neg hnot] at hstep
    split_ifs at hstep with hempty
    · cases hstep
    · simp only [Option.map_some, Option.some_inj] at hstep
      subst hstep
      refine ⟨hrunning, hwell.pop hempty, ?_⟩
      rw [List.append_assoc, List.singleton_append, ← Ring.contents_pop _ hempty]
      exact horder

/-- **The execution queue is a bounded FIFO.** In every run of pushes and pops on a running engine
whose queue starts empty: what was popped, followed by what is queued, is what was pushed, in
order; a push fails exactly when the queue is full, and then changes nothing; both indices stay
inside the array, and the write index is the count ahead of the read index.
Source: `services/test-engine.c`, `test_engine_queue_push`, `test_engine_queue_pop` -/
theorem executionQueue_fifo {e : TestEngine} (hrunning : e.running = true)
    (hempty : e.executionQueue.count = 0)
    (hidx : e.executionQueue.writeIndex = e.executionQueue.readIndex)
    {tr : List (QueueRecord × QueueAct)} {r : QueueRecord}
    (hrun : Run (stepOf queueStep) ⟨e, [], []⟩ tr r) :
    r.popped ++ r.engine.executionQueue.contents = r.pushed.map some ∧
      (∀ inst, ((testEngineQueuePush r.engine (some inst)).1 ≠ 0 ↔
          r.engine.executionQueue.contents.length = testEngineQueueSize) ∧
        ((testEngineQueuePush r.engine (some inst)).1 ≠ 0 →
          (testEngineQueuePush r.engine (some inst)).2 = r.engine)) ∧
      r.engine.executionQueue.readIndex.val < testEngineQueueSize ∧
      r.engine.executionQueue.writeIndex.val < testEngineQueueSize ∧
      r.engine.executionQueue.writeIndex.val =
        (r.engine.executionQueue.readIndex.val + r.engine.executionQueue.count) %
          testEngineQueueSize := by
  have hstart : QueueRecord.InOrder ⟨e, [], []⟩ :=
    ⟨hrunning, Ring.wellFormed_of_count_eq_zero hempty hidx,
      Ring.contents_of_count_eq_zero hempty⟩
  have horder := hrun.invariant hstart fun _ _ _ h hstep => h.step hstep
  refine ⟨horder.order, fun inst => ?_, Fin.isLt _, Fin.isLt _, horder.wellFormed.writeIndex_eq⟩
  have hcount := horder.wellFormed.count_le
  rw [Ring.length_contents]
  rcases testEngineQueuePush_cases r.engine inst with ⟨hfull, hrefused⟩ | ⟨hroom, queue, -, hpushed⟩
  · rw [hrefused]
    exact ⟨iff_of_true (by simp) (by omega), fun _ => rfl⟩
  · rw [hpushed]
    exact ⟨iff_of_false (by simp) (by omega), fun hne => absurd rfl hne⟩

/-- Two pushes and a pop on the queue of the one-LED engine. -/
theorem executionQueue_fifo_two :
    ∃ tr r, Run (stepOf queueStep) ⟨ledEngine, [], []⟩ tr r ∧ r.pushed = [.slot 3, .slot 5] ∧
      r.popped = [some (.slot 3)] ∧
      r.popped ++ r.engine.executionQueue.contents = r.pushed.map some := by
  have hrun : Run (stepOf queueStep) ⟨ledEngine, [], []⟩ _ _ :=
    run_of_exec [.push (.slot 3), .push (.slot 5), .pop] rfl
  exact ⟨_, _, hrun, rfl, rfl, (executionQueue_fifo rfl rfl rfl hrun).1⟩

end HardwareTest
