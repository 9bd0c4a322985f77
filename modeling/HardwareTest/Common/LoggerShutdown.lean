import HardwareTest.Common.Logger

/-!
# Stopping the logger

`logger_deinit` clears `running` and signals under the lock, then joins the worker. The worker
tests `running` and starts to wait under the same lock, so the signal cannot fall between the two.

* `LoggerSystem.Stoppable`: a worker that waits without a signal waits on a running logger, and
  whoever joins has stopped it.
* `logger_shutdown_enabled`: while `logger_deinit` joins, the worker has a step of its own.
* `logger_deinit_returns`: these steps come to an end. `LoggerSystem.rank` counts down.
-/

namespace HardwareTest

open Lib

/-- **No lost wake-up**: a worker waiting without a signal waits on a running logger, and the
logger is stopped while `logger_deinit` joins. -/
structure LoggerSystem.Stoppable (s : LoggerSystem) : Prop where
  waiting : s.worker = .waiting false → s.context.running = true
  joining : s.deinit = .joining → s.context.running = false

/-- A signalled worker does not wait without a signal. -/
lemma signal_ne_waiting (pc : LoggerPc) : pc.signal ≠ .waiting false := by
  rcases pc with _ | _ | _ | _ | _ | _ <;> simp [LoggerPc.signal]

/-- The logger starts stoppable. -/
lemma stoppable_started : LoggerSystem.started.Stoppable where
  waiting := nofun
  joining := nofun

/-- The worker starts to wait only when it finds the logger running. -/
lemma loggerWorker_waits {s t : LoggerSystem} (h : loggerWorker s = some t)
    (ht : t.worker = .waiting false) : t.context.running = true := by
  unfold loggerWorker at h
  rcases hw : s.worker with _ | _ | _ | signalled | msg | _
  · simp only [hw, Option.some_inj] at h
    subst h
    split_ifs at ht
  · simp only [hw, Option.some_inj] at h
    subst h
    split_ifs at ht
  · simp only [hw] at h
    rcases dequeue_cases s.context with ⟨-, hrunning, hd⟩ | ⟨-, -, hd⟩ | ⟨-, hd⟩
    · rw [hd, Option.some_inj] at h
      exact h ▸ hrunning
    · rw [hd, Option.some_inj] at h
      subst h
      cases ht
    · rw [hd, Option.some_inj] at h
      subst h
      cases ht
  · simp only [hw] at h
    split_ifs at h
    rw [Option.some_inj] at h
    subst h
    cases ht
  · simp only [hw, Option.some_inj] at h
    subst h
    cases ht
  · simp [hw] at h

/-- A step ends with a worker waiting on a running logger, or leaves it waiting. -/
lemma loggerStep_waits {s t : LoggerSystem} {l : LoggerAct} (h : loggerStep s l = some t)
    (ht : t.worker = .waiting false) :
    t.context.running = true ∨ (s.worker = .waiting false ∧ t.context = s.context) := by
  rcases l with msg | _ | _ | _
  · simp only [loggerStep, enqueue_eq] at h
    rcases hpush : s.context.fifo.push msg with _ | fifo
    · simp only [hpush, Option.some_inj] at h
      subst h
      exact .inr ⟨ht, rfl⟩
    · simp only [hpush, Option.some_inj] at h
      subst h
      exact absurd ht (signal_ne_waiting _)
  · exact .inl (loggerWorker_waits h ht)
  · simp only [loggerStep] at h
    split at h
    · rw [Option.some_inj] at h
      subst h
      cases ht
    · cases h
  · simp only [loggerStep, loggerDeinit] at h
    rcases hd : s.deinit with _ | _ | _
    · simp only [hd, Option.some_inj] at h
      subst h
      exact absurd ht (signal_ne_waiting _)
    · simp only [hd] at h
      split at h
      · rw [Option.some_inj] at h
        subst h
        exact .inr ⟨ht, rfl⟩
      · cases h
    · simp [hd] at h

/-- A logger that `logger_deinit` joins is stopped. -/
lemma LoggerMove.joining {s t : LoggerSystem} (hmove : LoggerMove s t) (h : s.Stoppable)
    (ht : t.deinit = .joining) : t.context.running = false := by
  rcases hmove with _ | _ | _ | _ | _ | _ | _ | _ | _ | _ | _ | _
  case stop => rfl
  case joined => cases ht
  all_goals exact h.joining ht

/-- **A step keeps the logger stoppable.** -/
lemma LoggerSystem.Stoppable.step {s t : LoggerSystem} {l : LoggerAct} (h : s.Stoppable)
    (hstep : loggerStep s l = some t) : t.Stoppable where
  waiting ht := by
    rcases loggerStep_waits hstep ht with hrunning | ⟨hw, hcontext⟩
    · exact hrunning
    · rw [hcontext]
      exact h.waiting hw
  joining := (loggerStep_move hstep).joining h

/-! ## The worker alone -/

/-- The steps that a stopped worker takes before it exits, at most. -/
def LoggerSystem.rank (s : LoggerSystem) : ℕ :=
  4 * s.context.fifo.count +
    match s.worker with
    | .exited => 0
    | .testCount => 1
    | .testRunning => 2
    | .printing _ => 3
    | .dequeuing => if s.context.fifo.count = 0 then 3 else 0
    | .waiting _ => 4

/-- **A stopped worker has a step**, unless it waits without a signal or has exited, and the step
brings it closer to its exit. -/
lemma loggerWorker_of_stopped {s : LoggerSystem} (hstop : s.context.running = false)
    (hwait : s.worker ≠ .waiting false) (hexit : s.worker ≠ .exited) :
    ∃ t, loggerWorker s = some t ∧ t.context.running = false ∧ t.worker ≠ .waiting false ∧
      t.deinit = s.deinit ∧ t.rank < s.rank := by
  unfold loggerWorker
  rcases hw : s.worker with _ | _ | _ | signalled | msg | _
  · refine ⟨_, rfl, hstop, ?_, rfl, ?_⟩
    · simp [hstop]
    · simp [LoggerSystem.rank, hw, hstop]
  · refine ⟨_, rfl, hstop, ?_, rfl, ?_⟩
    · split_ifs <;> simp
    · rcases Nat.eq_zero_or_pos s.context.fifo.count with hcount | hcount
      · simp [LoggerSystem.rank, hw, hcount]
      · have hne : s.context.fifo.count ≠ 0 := by omega
        simp [LoggerSystem.rank, hw, hcount, hne]
  · rcases dequeue_cases s.context with ⟨-, hrunning, -⟩ | ⟨hcount, -, hd⟩ | ⟨hcount, hd⟩
    · rw [hstop] at hrunning
      cases hrunning
    · simp only [hd]
      exact ⟨_, rfl, hstop, by simp, rfl, by simp [LoggerSystem.rank, hw, hcount]⟩
    · simp only [hd]
      refine ⟨_, rfl, hstop, by simp, rfl, ?_⟩
      -- one message less is worth more than the way back to the loop condition
      simp only [LoggerSystem.rank, hw, hcount, if_false, Ring.pop]
      omega
  · rcases signalled with _ | _
    · exact absurd hw hwait
    · refine ⟨_, rfl, hstop, by simp, rfl, ?_⟩
      simp only [LoggerSystem.rank, hw]
      split_ifs <;> omega
  · exact ⟨_, rfl, hstop, by simp, rfl, by simp [LoggerSystem.rank, hw]⟩
  · exact absurd hw hexit

/-- Left alone, a stopped worker exits. -/
lemma exec_worker_exits {s : LoggerSystem} (hstop : s.context.running = false)
    (hwait : s.worker ≠ .waiting false) :
    ∃ n t, exec loggerStep s (.replicate n .worker) = some t ∧ t.worker = .exited ∧
      t.deinit = s.deinit := by
  induction hrank : s.rank using Nat.strong_induction_on generalizing s with
  | _ rank ih =>
      by_cases hexit : s.worker = .exited
      · exact ⟨0, s, rfl, hexit, rfl⟩
      · obtain ⟨u, hstep, hstop', hwait', hdeinit, hlt⟩ :=
          loggerWorker_of_stopped hstop hwait hexit
        obtain ⟨n, t, hexec, ht, hsame⟩ := ih u.rank (hrank ▸ hlt) hstop' hwait' rfl
        refine ⟨n + 1, t, ?_, ht, hsame.trans hdeinit⟩
        rw [List.replicate_succ, exec, loggerStep, hstep]
        exact hexec

/-! ## Shutdown -/

section shutdown

variable {tr : List (LoggerSystem × LoggerAct)} {t : LoggerSystem}

/-- While `logger_deinit` joins, the logger is stopped and the worker does not wait unsignalled. -/
lemma stopped_of_joining (hrun : Run (stepOf loggerStep) .started tr t)
    (hjoin : t.deinit = .joining) :
    t.context.running = false ∧ t.worker ≠ .waiting false := by
  have hstoppable : t.Stoppable :=
    hrun.invariant stoppable_started fun s l u hs hstep => hs.step hstep
  have hstop := hstoppable.joining hjoin
  refine ⟨hstop, fun hwait => ?_⟩
  rw [hstoppable.waiting hwait] at hstop
  cases hstop

/-- **Shutdown cannot deadlock.** After the first `logger_init`, for every interleaving of `enqueue`
calls, steps of the worker and `logger_deinit`: while `logger_deinit` waits to join the worker and
the worker has not exited, the worker has a step of its own, which a wait without a signal is not.
Source: `common/logger.c`, `enqueue`, `dequeue`, `logger_worker`, `logger_deinit` -/
theorem logger_shutdown_enabled (hrun : Run (stepOf loggerStep) .started tr t)
    (hjoin : t.deinit = .joining) (hexit : t.worker ≠ .exited) :
    ∃ u, loggerStep t .worker = some u := by
  obtain ⟨hstop, hwait⟩ := stopped_of_joining hrun hjoin
  obtain ⟨u, hstep, -⟩ := loggerWorker_of_stopped hstop hwait hexit
  exact ⟨u, hstep⟩

/-- `logger_deinit` is called while the worker waits for a first message. -/
theorem logger_shutdown_enabled_waiting :
    ∃ tr t, Run (stepOf loggerStep) .started tr t ∧ t.worker = .waiting true ∧
      ∃ u, loggerStep t .worker = some u := by
  have hrun : Run (stepOf loggerStep) .started _ _ :=
    run_of_exec [.worker, .worker, .deinit] rfl
  exact ⟨_, _, hrun, rfl, logger_shutdown_enabled hrun rfl nofun⟩

/-- **Shutdown completes.** While `logger_deinit` joins, steps of the worker alone let it return.
Source: `common/logger.c`, `logger_worker`, `logger_deinit` -/
theorem logger_deinit_returns (hrun : Run (stepOf loggerStep) .started tr t)
    (hjoin : t.deinit = .joining) :
    ∃ n u, exec loggerStep t (.replicate n .worker) = some u ∧
      (loggerStep u .deinit).map LoggerSystem.deinit = some .returned := by
  obtain ⟨hstop, hwait⟩ := stopped_of_joining hrun hjoin
  obtain ⟨n, u, hexec, hexited, hdeinit⟩ := exec_worker_exits hstop hwait
  refine ⟨n, u, hexec, ?_⟩
  rw [loggerStep, loggerDeinit, hdeinit, hjoin, hexited]
  rfl

end shutdown

end HardwareTest
