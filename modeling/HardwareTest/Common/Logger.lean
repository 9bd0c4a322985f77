import HardwareTest.Common.SafeString
import HardwareTest.Lib.Ring
import HardwareTest.Lib.Transition

/-!
# The asynchronous logger

`common/logger.c`: callers put messages into a ring, one worker thread prints them. Each section
under `queueLock` is one step, and so is every unlocked read of the worker's loop condition.

* **The context.** `LoggerContext` with `enqueue` and `dequeue`. `fifo` is the ring `queue` with
  `head` as its read index and `tail` as its write index; `(i + 1) % LOGGER_MAX_QUEUE_SIZE` is
  `Ring.advance` (`Ring.val_advance`).
* **The system.** `loggerStep`: any thread enqueues, the worker steps, `pthread_cond_wait` returns
  without a signal, `logger_deinit` proceeds.
* `logger_delivers_in_order`: in every reachable state what was printed, what the worker holds and
  what is queued are, in this order, the accepted messages; the worker leaves its loop only when it
  is stopped and the queue is empty.

The log level and the text of a message (`logger_log`) are left out: `enqueue` gets the finished
`char finalMsg[LOGGER_MAX_MESSAGE_SIZE]`.
-/

namespace HardwareTest

open Lib

/-! ## The context -/

/-- Source: `common/logger.c`, `LOGGER_MAX_QUEUE_SIZE` -/
abbrev loggerMaxQueueSize : ℕ := 128

/-- Source: `common/logger.c`, `LOGGER_MAX_MESSAGE_SIZE` -/
abbrev loggerMaxMessageSize : ℕ := 1024

/-- Source: `common/logger.c`, `LoggerMessage_t` -/
abbrev LoggerMessage := CharBuf loggerMaxMessageSize

/-- Source: `common/logger.c`, `LoggerContext_t` -/
structure LoggerContext where
  /-- `fifo` and `queue`. -/
  fifo : Ring LoggerMessage loggerMaxQueueSize
  running : Bool

/-- The static context before the first `logger_init`. Source: `common/logger.c` -/
def LoggerContext.zeroed : LoggerContext := ⟨⟨.replicate _ (.empty _), 0, 0, 0⟩, false⟩

/-- The context that `logger_init` leaves when `pthread_create` succeeds.
Source: `common/logger.c`, `logger_init` -/
def loggerInit (ctx : LoggerContext) : LoggerContext :=
  { ctx with running := true, fifo := { ctx.fifo with readIndex := 0, writeIndex := 0, count := 0 } }

/-- Copies with `snprintf` into the slot at the tail, when the queue is not full.
Source: `common/logger.c`, `enqueue` -/
def enqueue (ctx : LoggerContext) (msg : LoggerMessage) : ℤ × LoggerContext :=
  match ctx.fifo.push (safeStringCopy msg.chars loggerMaxMessageSize) with
  | none => (-1, ctx)
  | some fifo => (0, { ctx with fifo })

/-- What one pass through the locked section of `dequeue` ends with. -/
inductive DequeueOutcome
  /-- Blocked in `pthread_cond_wait`. -/
  | wait
  /-- Nothing queued and not running: `dequeue` returns -1. -/
  | stopped
  /-- The message at the head: `dequeue` returns 0. -/
  | taken (msg : LoggerMessage)

/-- Source: `common/logger.c`, `dequeue` -/
def dequeue (ctx : LoggerContext) : DequeueOutcome × LoggerContext :=
  if ctx.fifo.count = 0 ∧ ctx.running = true then (.wait, ctx)
  else if ctx.fifo.count = 0 ∧ ctx.running = false then (.stopped, ctx)
  else (.taken ctx.fifo.pop.1, { ctx with fifo := ctx.fifo.pop.2 })

/-! ## The system -/

/-- Where the worker is. Source: `common/logger.c`, `logger_worker` -/
inductive LoggerPc
  /-- About to read `running` in the loop condition. -/
  | testRunning
  /-- `running` was read as false; about to read `fifo.count`. -/
  | testCount
  /-- About to test the condition of the `while` in `dequeue`, with the lock. -/
  | dequeuing
  /-- In `pthread_cond_wait`; a signal was delivered or not. -/
  | waiting (signalled : Bool)
  /-- `dequeue` returned 0 with this message. -/
  | printing (msg : LoggerMessage)
  | exited

/-- Where the thread that calls `logger_deinit` is. -/
inductive LoggerDeinitPc
  | notCalled
  /-- In `pthread_join`. -/
  | joining
  | returned

/-- The logger with its worker, the standard output, and the messages `enqueue` returned 0 for. -/
structure LoggerSystem where
  context : LoggerContext
  worker : LoggerPc
  deinit : LoggerDeinitPc
  printed : List LoggerMessage
  accepted : List LoggerMessage

/-- After the first `logger_init`. The worker may run before `logger_init` writes `head`, `tail` and
`count`; they hold the zeros of the static context, so its steps are the same.
Source: `common/logger.c`, `logger_init` -/
def LoggerSystem.started : LoggerSystem :=
  ⟨loggerInit .zeroed, .testRunning, .notCalled, [], []⟩

/-- `pthread_cond_signal` on `queueCond`, where only the worker waits. -/
def LoggerPc.signal : LoggerPc → LoggerPc
  | .waiting _ => .waiting true
  | pc => pc

/-- The message that the worker holds. -/
def LoggerPc.held : LoggerPc → List LoggerMessage
  | .printing msg => [msg]
  | _ => []

/-- Source: `common/logger.c`, `logger_worker` -/
def loggerWorker (s : LoggerSystem) : Option LoggerSystem :=
  match s.worker with
  | .testRunning =>
      some { s with worker := if s.context.running then .dequeuing else .testCount }
  | .testCount =>
      some { s with worker := if s.context.fifo.count > 0 then .dequeuing else .exited }
  | .dequeuing =>
      match dequeue s.context with
      | (.wait, ctx) => some { s with context := ctx, worker := .waiting false }
      | (.stopped, ctx) => some { s with context := ctx, worker := .testRunning }
      | (.taken msg, ctx) => some { s with context := ctx, worker := .printing msg }
  | .waiting signalled => if signalled then some { s with worker := .dequeuing } else none
  | .printing msg => some { s with printed := s.printed ++ [msg], worker := .testRunning }
  | .exited => none

/-- Source: `common/logger.c`, `logger_deinit` -/
def loggerDeinit (s : LoggerSystem) : Option LoggerSystem :=
  match s.deinit with
  | .notCalled =>
      some { s with
        context := { s.context with running := false }
        worker := s.worker.signal
        deinit := .joining }
  | .joining =>
      match s.worker with
      | .exited => some { s with deinit := .returned }
      | _ => none
  | .returned => none

/-- A step of the logger. -/
inductive LoggerAct
  /-- Some thread calls `enqueue`. -/
  | enqueue (msg : LoggerMessage)
  | worker
  /-- `pthread_cond_wait` returns without a signal. -/
  | spuriousWake
  | deinit

/-- The step function. -/
def loggerStep (s : LoggerSystem) : LoggerAct → Option LoggerSystem
  | .enqueue msg =>
      match enqueue s.context msg with
      | (0, ctx) =>
          some { s with context := ctx, worker := s.worker.signal, accepted := s.accepted ++ [msg] }
      | (_, ctx) => some { s with context := ctx }
  | .worker => loggerWorker s
  | .spuriousWake =>
      match s.worker with
      | .waiting _ => some { s with worker := .dequeuing }
      | _ => none
  | .deinit => loggerDeinit s

/-! ## Order -/

/-- **The invariant of the logger**: the queue is sound, the messages are in order, and a worker
that has read `running` as false, or has left its loop, is stopped. -/
structure LoggerSystem.Ordered (s : LoggerSystem) : Prop where
  fifo : s.context.fifo.WellFormed
  order : s.printed ++ s.worker.held ++ s.context.fifo.contents = s.accepted
  stopped : s.worker = .testCount ∨ s.worker = .exited → s.context.running = false

/-- A signal does not change what the worker holds. -/
@[simp] lemma held_signal (pc : LoggerPc) : pc.signal.held = pc.held := by
  rcases pc with _ | _ | _ | _ | _ | _ <;> rfl

/-- A signal wakes a waiting worker only. -/
lemma signal_stopped {pc : LoggerPc} (h : pc.signal = .testCount ∨ pc.signal = .exited) :
    pc = .testCount ∨ pc = .exited := by
  rcases pc with _ | _ | _ | _ | _ | _ <;> simp_all [LoggerPc.signal]

/-- The logger starts in order. -/
lemma ordered_started : LoggerSystem.started.Ordered where
  fifo := Ring.wellFormed_of_count_eq_zero rfl rfl
  order := rfl
  stopped := by
    rintro (h | h) <;> cases h

/-- The copy of a `finalMsg` is the message itself. -/
lemma enqueue_eq (ctx : LoggerContext) (msg : LoggerMessage) :
    enqueue ctx msg = match ctx.fifo.push msg with
      | none => (-1, ctx)
      | some fifo => (0, { ctx with fifo }) := by
  unfold enqueue
  rw [safeStringCopy_self]

/-- **Dequeue** takes the first message when there is one. -/
lemma dequeue_cases (ctx : LoggerContext) :
    (ctx.fifo.count = 0 ∧ ctx.running = true ∧ dequeue ctx = (.wait, ctx)) ∨
    (ctx.fifo.count = 0 ∧ ctx.running = false ∧ dequeue ctx = (.stopped, ctx)) ∨
    (ctx.fifo.count ≠ 0 ∧
      dequeue ctx = (.taken ctx.fifo.pop.1, { ctx with fifo := ctx.fifo.pop.2 })) := by
  unfold dequeue
  rcases Nat.eq_zero_or_pos ctx.fifo.count with hcount | hcount
  · rcases hrunning : ctx.running with _ | _
    · right; left
      simp [hcount]
    · left
      simp [hcount]
  · right; right
    have hne : ctx.fifo.count ≠ 0 := by omega
    simp [hne]

/-- What a step can do. -/
inductive LoggerMove (s : LoggerSystem) : LoggerSystem → Prop
  /-- The loop condition of the worker holds. -/
  | enter (hw : s.worker = .testRunning ∨ s.worker = .testCount) :
      LoggerMove s { s with worker := .dequeuing }
  | readStopped (hw : s.worker = .testRunning) (hstop : s.context.running = false) :
      LoggerMove s { s with worker := .testCount }
  | leave (hw : s.worker = .testCount) (hcount : s.context.fifo.count = 0) :
      LoggerMove s { s with worker := .exited }
  | wait (hw : s.worker = .dequeuing) : LoggerMove s { s with worker := .waiting false }
  /-- `dequeue` returns -1. -/
  | retry (hw : s.worker = .dequeuing) : LoggerMove s { s with worker := .testRunning }
  | take (hw : s.worker = .dequeuing) (hcount : s.context.fifo.count ≠ 0) :
      LoggerMove s { s with
        context := { s.context with fifo := s.context.fifo.pop.2 }
        worker := .printing s.context.fifo.pop.1 }
  | wake (signalled : Bool) (hw : s.worker = .waiting signalled) :
      LoggerMove s { s with worker := .dequeuing }
  | print (msg : LoggerMessage) (hw : s.worker = .printing msg) :
      LoggerMove s { s with printed := s.printed ++ [msg], worker := .testRunning }
  | accept (msg : LoggerMessage) (fifo : Ring LoggerMessage loggerMaxQueueSize)
      (hpush : s.context.fifo.push msg = some fifo) :
      LoggerMove s { s with
        context := { s.context with fifo }
        worker := s.worker.signal
        accepted := s.accepted ++ [msg] }
  /-- The queue is full: `enqueue` returns -1. -/
  | refuse : LoggerMove s s
  | stop : LoggerMove s { s with
      context := { s.context with running := false }
      worker := s.worker.signal
      deinit := .joining }
  | joined : LoggerMove s { s with deinit := .returned }

/-- The worker moves as listed. -/
lemma loggerWorker_move {s t : LoggerSystem} (h : loggerWorker s = some t) : LoggerMove s t := by
  unfold loggerWorker at h
  rcases hw : s.worker with _ | _ | _ | signalled | msg | _
  · simp only [hw, Option.some_inj] at h
    subst h
    split_ifs with hrunning
    · exact .enter (.inl hw)
    · exact .readStopped hw (by simpa using hrunning)
  · simp only [hw, Option.some_inj] at h
    subst h
    split_ifs with hcount
    · exact .enter (.inr hw)
    · exact .leave hw (by omega)
  · simp only [hw] at h
    rcases dequeue_cases s.context with ⟨-, -, hd⟩ | ⟨-, -, hd⟩ | ⟨hcount, hd⟩
    · rw [hd, Option.some_inj] at h
      exact h ▸ .wait hw
    · rw [hd, Option.some_inj] at h
      exact h ▸ .retry hw
    · rw [hd, Option.some_inj] at h
      exact h ▸ .take hw hcount
  · simp only [hw] at h
    split_ifs at h with hsignalled
    rw [Option.some_inj] at h
    exact h ▸ .wake _ hw
  · simp only [hw, Option.some_inj] at h
    exact h ▸ .print msg hw
  · simp [hw] at h

/-- **A step** is one of the moves. -/
lemma loggerStep_move {s t : LoggerSystem} {l : LoggerAct} (h : loggerStep s l = some t) :
    LoggerMove s t := by
  rcases l with msg | _ | _ | _
  · simp only [loggerStep, enqueue_eq] at h
    rcases hpush : s.context.fifo.push msg with _ | fifo
    · simp only [hpush, Option.some_inj] at h
      exact h ▸ .refuse
    · simp only [hpush, Option.some_inj] at h
      exact h ▸ .accept msg fifo hpush
  · exact loggerWorker_move h
  · rcases hw : s.worker with _ | _ | _ | signalled | msg | _ <;> simp only [loggerStep, hw] at h
    all_goals cases h
    exact .wake signalled hw
  · simp only [loggerStep, loggerDeinit] at h
    rcases hd : s.deinit with _ | _ | _
    · simp only [hd, Option.some_inj] at h
      exact h ▸ .stop
    · simp only [hd] at h
      split at h
      · rw [Option.some_inj] at h
        exact h ▸ .joined
      · cases h
    · simp [hd] at h

/-- **A step keeps the order.** -/
lemma LoggerMove.ordered {s t : LoggerSystem} (hmove : LoggerMove s t) (h : s.Ordered) :
    t.Ordered := by
  have hsame := h
  obtain ⟨hfifo, horder, hstopped⟩ := h
  rcases hmove with hw | ⟨hw, hstop⟩ | ⟨hw, -⟩ | hw | hw | ⟨hw, hcount⟩ | ⟨_, hw⟩ | ⟨msg, hw⟩ |
    ⟨msg, fifo, hpush⟩ | _ | _ | _
  · refine ⟨hfifo, ?_, nofun⟩
    rcases hw with hw | hw
    · rwa [hw] at horder
    · rwa [hw] at horder
  · rw [hw] at horder
    exact ⟨hfifo, horder, fun _ => hstop⟩
  · rw [hw] at horder
    exact ⟨hfifo, horder, fun _ => hstopped (.inl hw)⟩
  · rw [hw] at horder
    exact ⟨hfifo, horder, nofun⟩
  · rw [hw] at horder
    exact ⟨hfifo, horder, nofun⟩
  · rw [hw, Ring.contents_pop _ hcount] at horder
    refine ⟨hfifo.pop hcount, ?_, nofun⟩
    -- the message moves from the head of the queue into the hand of the worker
    simpa [LoggerPc.held] using horder
  · rw [hw] at horder
    exact ⟨hfifo, horder, nofun⟩
  · rw [hw] at horder
    refine ⟨hfifo, ?_, nofun⟩
    simpa [LoggerPc.held] using horder
  · refine ⟨hfifo.push hpush, ?_, fun h => hstopped (signal_stopped h)⟩
    simp only [held_signal]
    rw [Ring.contents_push hfifo hpush, ← List.append_assoc, horder]
  · exact hsame
  · refine ⟨hfifo, ?_, fun _ => rfl⟩
    simpa using horder
  · exact ⟨hfifo, horder, hstopped⟩

/-- A step only adds to what was accepted and to what was printed. -/
lemma LoggerMove.grows {s t : LoggerSystem} (hmove : LoggerMove s t) :
    s.accepted <+: t.accepted ∧ s.printed <+: t.printed := by
  rcases hmove with _ | _ | _ | _ | _ | _ | _ | ⟨msg, -⟩ | ⟨msg, -, -⟩ | _ | _ | _
  case print => exact ⟨List.prefix_rfl, List.prefix_append _ _⟩
  case accept => exact ⟨List.prefix_append _ _, List.prefix_rfl⟩
  all_goals exact ⟨List.prefix_rfl, List.prefix_rfl⟩

/-- The worker leaves its loop stopped and with nothing queued. -/
lemma LoggerMove.leaves {s t : LoggerSystem} (hmove : LoggerMove s t) (h : s.Ordered)
    (hs : s.worker ≠ .exited) (ht : t.worker = .exited) :
    t.context.running = false ∧ t.context.fifo.contents = [] := by
  have hsignal : s.worker.signal ≠ .exited := by
    rcases hw : s.worker with _ | _ | _ | _ | _ | _ <;> simp_all [LoggerPc.signal]
  rcases hmove with _ | _ | ⟨hw, hcount⟩ | _ | _ | _ | _ | _ | _ | _ | _ | _
  case leave =>
    exact ⟨h.stopped (.inl hw), Ring.contents_of_count_eq_zero hcount⟩
  case accept => exact absurd ht hsignal
  case stop => exact absurd ht hsignal
  case refuse => exact absurd ht hs
  case joined => exact absurd ht hs
  all_goals cases ht

/-- A later state has all that was accepted before the logger was stopped, and, when the worker has
left its loop, has printed it. -/
def Drains (u t : LoggerSystem) : Prop :=
  u.context.running = true → u.accepted <+: t.accepted ∧
    (t.worker = .exited → u.accepted <+: t.printed)

/-- A step keeps what was drained. -/
lemma Drains.extend {u s t : LoggerSystem} (hs : s.Ordered) (h : Drains u s)
    (hmove : LoggerMove s t) : Drains u t := by
  intro hrunning
  obtain ⟨haccepted, hprinted⟩ := h hrunning
  refine ⟨haccepted.trans hmove.grows.1, ?_⟩
  intro ht
  by_cases hw : s.worker = .exited
  · exact (hprinted hw).trans hmove.grows.2
  · -- the worker has just left its loop: nothing is held and nothing is queued
    have hempty := (hmove.leaves hs hw ht).2
    have horder := (hmove.ordered hs).order
    rw [ht, hempty, List.append_nil] at horder
    have hall : t.printed = t.accepted := by simpa [LoggerPc.held] using horder
    rw [hall]
    exact haccepted.trans hmove.grows.1

/-- **The logger delivers every accepted message once and in order.** After the first `logger_init`,
for every interleaving of `enqueue` calls, steps of the worker, wake-ups and `logger_deinit`: what
was printed, then what the worker holds, then what is queued, are the accepted messages; the worker
leaves its loop only when `running` is false and the queue is empty; and once it has left, every
message that was accepted while `running` was true is printed.
Source: `common/logger.c`, `enqueue`, `logger_worker`, `logger_deinit` -/
theorem logger_delivers_in_order {tr : List (LoggerSystem × LoggerAct)} {t : LoggerSystem}
    (hrun : Run (stepOf loggerStep) .started tr t) :
    t.printed ++ t.worker.held ++ t.context.fifo.contents = t.accepted ∧
      (∀ l u, stepOf loggerStep t l u → t.worker ≠ .exited → u.worker = .exited →
        u.context.running = false ∧ u.context.fifo.contents = []) ∧
      (t.worker = .exited → ∀ u, Visits tr t u → u.context.running = true →
        u.accepted <+: t.printed) := by
  have hkeep : ∀ s l u, s.Ordered → stepOf loggerStep s l u → u.Ordered :=
    fun s l u hs hstep => (loggerStep_move hstep).ordered hs
  have hordered := hrun.invariant ordered_started hkeep
  refine ⟨hordered.order, ?_, ?_⟩
  · intro l u hstep
    exact (loggerStep_move hstep).leaves hordered
  · intro ht u hu hrunning
    have hdrains : Drains u t := by
      refine hrun.relates_visited ordered_started hkeep ?_ ?_ hu
      · intro s hs hrunning
        refine ⟨List.prefix_rfl, fun hw => ?_⟩
        rw [hs.stopped (.inr hw)] at hrunning
        cases hrunning
      · intro v s l u hs hv hstep
        exact hv.extend hs (loggerStep_move hstep)
    exact (hdrains hrunning).2 ht

/-- Two messages, the second accepted while the worker holds the first; `logger_deinit` is called
while the second is queued. -/
theorem logger_delivers_in_order_twoMessages :
    ∃ tr t, Run (stepOf loggerStep) .started tr t ∧ t.deinit = .returned ∧ t.accepted.length = 2 ∧
      t.printed ++ t.worker.held ++ t.context.fifo.contents = t.accepted := by
  have hrun : Run (stepOf loggerStep) .started _ _ :=
    run_of_exec ([.enqueue ⟨cstr "first", by decide⟩, .worker, .worker,
      .enqueue ⟨cstr "second", by decide⟩, .worker, .deinit] ++ List.replicate 6 .worker ++
      [.deinit]) rfl
  exact ⟨_, _, hrun, rfl, rfl, (logger_delivers_in_order hrun).1⟩

end HardwareTest
