import HardwareTest.Engine.Submission
import HardwareTest.Lib.Client

/-!
# The engine behind its functions

The main thread uses the engine through `test_engine_register`, `test_engine_execute` and
`test_engine_get_result`, while the workers go on.

* `engineService`: these functions as operations. A call of `test_engine_execute` is the steps of
  the caller from its beginning to its return, with any steps of the workers between them.
* `InertEngine`: a table of registered tests and a number of accepted submissions. It runs nothing
  and has no result.
* `engineService_refines`: **an engine that was started behaves as an inert one**, for any number of
  workers, whatever they do and whatever the callbacks of the tests would return.
-/

namespace HardwareTest

open Lib

/-! ## The operations -/

/-- What the main thread asks of the engine. -/
inductive EngineOp
  | register (name : CString) (context : Option Address) (operations : TestOperations)
  | execute (name : CString)
  | getResult (name : CString)
  /-- `index < test_engine->test_count`, and then `test_engine->tests[index].name`. -/
  | testName (index : ℕ)

/-- The types of the replies: return codes, and what was read. -/
abbrev EngineOp.Reply : EngineOp → Type
  | .register .. => ℤ
  | .execute _ => ℤ
  | .getResult _ => Option TestResult
  | .testName _ => Option CString

/-- A program of the main thread. -/
abbrev EngineClient := Client EngineOp EngineOp.Reply

namespace EngineClient

def register (name : CString) (context : Option Address) (operations : TestOperations) :
    EngineClient ℤ := .invoke (EngineOp.register name context operations)

def execute (name : CString) : EngineClient ℤ := .invoke (EngineOp.execute name)

def getResult (name : CString) : EngineClient (Option TestResult) :=
  .invoke (EngineOp.getResult name)

def testName (index : ℕ) : EngineClient (Option CString) := .invoke (EngineOp.testName index)

end EngineClient

section service

variable {ω : Type*} [DecidableEq ω]

/-- A step that begins no call. -/
def EngineAct.goesOn : EngineAct ω → Bool
  | .call (.execute _) => false
  | _ => true

/-- A call of `test_engine_execute` from its beginning to its return, with the steps of the workers
meanwhile. The return code is 0 iff the call has left a submission. -/
structure ExecuteReturns (name : CString) (s : EngineSystem ω) (code : ℤ) (t : EngineSystem ω) :
    Prop where
  returns : ∃ begun tr, callerStep s (.execute name) = some begun ∧
    Run (stepOf engineStep) begun tr t ∧ ∀ p ∈ tr, p.2.goesOn = true
  callerIdle : t.caller = .idle
  code : code = if s.submissions.length < t.submissions.length then 0 else -1

/-- The replies of the engine, from states in which the main thread is not in a call. -/
inductive EngineReplies : (op : EngineOp) → EngineSystem ω → op.Reply → EngineSystem ω → Prop
  | register {s : EngineSystem ω} (name : CString) (context : Option Address)
      (operations : TestOperations) : s.caller = .idle →
      EngineReplies (.register name context operations) s
        (s.engine.register name context operations).1
        { s with engine := (s.engine.register name context operations).2 }
  | execute {s t : EngineSystem ω} {name : CString} {code : ℤ} : s.caller = .idle →
      ExecuteReturns name s code t → EngineReplies (.execute name) s code t
  | getResult {s : EngineSystem ω} (name : CString) : s.caller = .idle →
      EngineReplies (.getResult name) s (s.engine.getResult name) s
  | testName {s : EngineSystem ω} (index : ℕ) : s.caller = .idle →
      EngineReplies (.testName index) s
        ((s.engine.tests.get? index).map fun entry => entry.name.chars) s

/-- The engine in use: the background is the workers. -/
def engineService (ω : Type*) [DecidableEq ω] :
    Service EngineOp EngineOp.Reply (EngineSystem ω) where
  background s t := ∃ w env, workerStep s w env = some t
  replies := EngineReplies

end service

/-! ## The inert engine -/

/-- Registered tests, and how many submissions were accepted. -/
structure InertEngine where
  tests : FixedTable TestEntry maxTests
  submitted : ℕ

namespace InertEngine

/-- The table after a registration, with the return code. -/
def registerTest (tests : FixedTable TestEntry maxTests) (name : CString)
    (context : Option Address) (operations : TestOperations) :
    ℤ × FixedTable TestEntry maxTests :=
  if h : tests.count ≥ maxTests then (-1, tests)
  else if tests.items.any fun entry => !safeStringCompare entry.name.chars name then (-1, tests)
  else (0, tests.push ⟨safeStringCopy name testNameLength, operations, 0, context⟩
    (Nat.lt_of_not_le h))

/-- Whether a test of the name is registered. -/
def knows (x : InertEngine) (name : CString) : Bool :=
  x.tests.items.any fun entry => safeStringCompare entry.name.chars name

/-- A registered test is accepted while there is room; nothing ever becomes of it. -/
def serve (x : InertEngine) : (op : EngineOp) → op.Reply × InertEngine
  | .register name context operations =>
      ((registerTest x.tests name context operations).1,
        { x with tests := (registerTest x.tests name context operations).2 })
  | .execute name =>
      if x.knows name ∧ x.submitted < maxTestInstances then
        ((0 : ℤ), { x with submitted := x.submitted + 1 })
      else ((-1 : ℤ), x)
  | .getResult _ => (none, x)
  | .testName index => ((x.tests.get? index).map fun entry => entry.name.chars, x)

/-- The engine after a registered test was submitted. -/
def submit (x : InertEngine) : InertEngine :=
  if x.submitted < maxTestInstances then { x with submitted := x.submitted + 1 } else x

variable {x : InertEngine} {name : CString}

lemma serve_execute_of_unknown (h : x.knows name = false) :
    x.serve (.execute name) = ((-1 : ℤ), x) := by
  simp [serve, h]

lemma serve_execute_of_knows (h : x.knows name = true) : x.serve (.execute name) =
    (if x.submitted < maxTestInstances then (0 : ℤ) else -1, x.submit) := by
  by_cases hroom : x.submitted < maxTestInstances
  · simp [serve, submit, h, hroom]
  · simp [serve, submit, h, hroom]

end InertEngine

/-! ## The started engine is inert -/

section refinement

variable {ω : Type*} [DecidableEq ω] {s t : EngineSystem ω} {x : InertEngine}

/-- A quiet engine between calls that counts no instance, seen as an inert one. -/
structure Inert (s : EngineSystem ω) (x : InertEngine) : Prop extends Quiet s where
  callerIdle : s.caller = .idle
  noneCounted : s.engine.instanceCount = 0
  tests : s.engine.tests = x.tests
  submitted : s.engine.scheduler.pendingInstances.items.length = x.submitted

/-- The inert engine of a started one. -/
def EngineSystem.inert (s : EngineSystem ω) : InertEngine :=
  ⟨s.engine.tests, s.engine.scheduler.pendingInstances.items.length⟩

omit [DecidableEq ω] in
lemma Started.inert (h : Started s) (hcount : s.engine.instanceCount = 0) : Inert s s.inert :=
  ⟨h.quiet, h.callerIdle, hcount, rfl, rfl⟩

/-- Registering rewrites the table of tests only. -/
lemma register_eq (e : TestEngine) (name : CString) (context : Option Address)
    (operations : TestOperations) : e.register name context operations =
      ((InertEngine.registerTest e.tests name context operations).1,
        { e with tests := (InertEngine.registerTest e.tests name context operations).2 }) := by
  unfold TestEngine.register InertEngine.registerTest
  split_ifs
  · rfl
  · rfl
  · rfl

/-- A test is found iff it is known. -/
lemma findTest_isSome_iff (e : TestEngine) (name : CString) (submitted : ℕ) :
    (e.findTest name).isSome = (⟨e.tests, submitted⟩ : InertEngine).knows name := by
  rw [TestEngine.findTest, InertEngine.knows, List.findIdx?_isSome]

/-- There is room on the pending list iff its entries are fewer than its cells. -/
lemma pending_lt_iff {n : ℕ} {α : Type*} (t : FixedTable α n) :
    t.count < n ↔ t.items.length < n := by
  have hle := t.length_items_le_count
  constructor
  · intro h
    exact Nat.lt_of_le_of_lt hle h
  · intro h
    by_contra hge
    have hlen : t.items.length = n := by
      rw [FixedTable.items, List.length_take, Vector.length_toList]
      omega
    omega

/-- A step of a worker does not show. -/
lemma Inert.work (h : Inert s x) {w : ω} {env : Environment}
    (hstep : workerStep s w env = some t) : Inert t x ∧ t.submissions = s.submissions := by
  have hquiet : Quiet t := h.toQuiet.step (l := .work w env) hstep
  obtain ⟨pc, -, rfl⟩ := h.toQuiet.work hstep
  exact ⟨⟨hquiet, h.callerIdle, h.noneCounted, h.tests, h.submitted⟩, rfl⟩

omit [DecidableEq ω] in
/-- Registering a test keeps an engine inert. -/
lemma Inert.register (h : Inert s x) (name : CString) (context : Option Address)
    (operations : TestOperations) :
    Inert { s with engine := (s.engine.register name context operations).2 }
      (x.serve (.register name context operations)).2 := by
  rw [register_eq, h.tests]
  exact ⟨⟨h.queueEmpty, h.belowLimit, h.workersFree, h.notPushing, h.ownFrame⟩, h.callerIdle,
    h.noneCounted, rfl, h.submitted⟩

/-- Inside a call, before `test_scheduler_submit`. -/
structure Submitting (s : EngineSystem ω) (x : InertEngine) : Prop extends Quiet s where
  callerInside : ∃ p entry name, s.caller = .submitting p entry name
  noneCounted : s.engine.instanceCount = 0
  tests : s.engine.tests = x.tests
  submitted : s.engine.scheduler.pendingInstances.items.length = x.submitted

/-- `test_scheduler_submit` ends the call. -/
lemma Submitting.proceed (h : Submitting s x) (hstep : callerStep s .proceed = some t) :
    Inert t x.submit ∧ t.submissions.length =
      s.submissions.length + if x.submitted < maxTestInstances then 1 else 0 := by
  have hquiet : Quiet t := h.toQuiet.step (l := .call .proceed) hstep
  have hroom := pending_lt_iff s.engine.scheduler.pendingInstances
  rw [h.submitted] at hroom
  obtain ⟨p, entry, name, -, ⟨hfull, rfl⟩ | ⟨hlt, scheduler, -, -, hitems, rfl⟩⟩ :=
    h.toQuiet.proceed hstep
  · have hnot : ¬ x.submitted < maxTestInstances := fun h => absurd (hroom.mpr h) (by omega)
    rw [InertEngine.submit, if_neg hnot, if_neg hnot]
    exact ⟨⟨hquiet, rfl, h.noneCounted, h.tests, h.submitted⟩, rfl⟩
  · rw [InertEngine.submit, if_pos (hroom.mp hlt), if_pos (hroom.mp hlt)]
    refine ⟨⟨hquiet, rfl, h.noneCounted, h.tests, ?_⟩, ?_⟩
    · show scheduler.pendingInstances.items.length = x.submitted + 1
      rw [hitems, List.length_append, h.submitted, List.length_singleton]
    · show (s.submissions ++ [_]).length = _
      rw [List.length_append, List.length_singleton]

omit [DecidableEq ω] in
/-- Between calls there is nothing to go on with. -/
lemma not_proceed_of_idle (h : s.caller = .idle) : ¬ callerStep s .proceed = some t := by
  simp [callerStep, h]

omit [DecidableEq ω] in
/-- A call goes on from there. -/
lemma exists_proceed (h : ∃ p entry name, s.caller = .submitting p entry name) :
    ∃ t, callerStep s .proceed = some t := by
  obtain ⟨p, entry, name, hcaller⟩ := h
  simp only [callerStep, hcaller]
  rcases testSchedulerSubmit s.engine.checkResource s.engine.scheduler p with ⟨_ | _ | _, scheduler⟩
  · exact ⟨_, rfl⟩
  · exact ⟨_, rfl⟩
  · exact ⟨_, rfl⟩

/-- The beginning of a call: an unknown test is refused at once. -/
lemma Inert.begin (h : Inert s x) (name : CString) :
    ∃ begun, callerStep s (.execute name) = some begun ∧ begun.submissions = s.submissions ∧
      ((x.knows name = false ∧ begun = s) ∨ (x.knows name = true ∧ Submitting begun x)) := by
  have hknows := findTest_isSome_iff s.engine name x.submitted
  rw [h.tests] at hknows
  rcases hfind : s.engine.findTest name with _ | entry
  · rw [hfind] at hknows
    have hstep : callerStep s (.execute name) = some s := by
      simp only [callerStep, h.callerIdle, hfind]
    exact ⟨s, hstep, rfl, .inl ⟨hknows.symm, rfl⟩⟩
  · rw [hfind] at hknows
    have hstep : callerStep s (.execute name) = some (s.callBegun entry name) := by
      simp only [callerStep, h.callerIdle, hfind, h.noneCounted]
      exact if_neg (by decide)
    have hquiet : Quiet (s.callBegun entry name) :=
      h.toQuiet.step (l := .call (.execute name)) hstep
    exact ⟨_, hstep, rfl, .inr ⟨hknows.symm, hquiet, ⟨_, _, _, rfl⟩, h.noneCounted, h.tests,
      h.submitted⟩⟩

/-- A call in progress: before the submission, or after it. -/
def InProgress (x : InertEngine) (n : ℕ) (s : EngineSystem ω) : Prop :=
  (Submitting s x ∧ s.submissions.length = n) ∨
    (Inert s x.submit ∧ s.submissions.length = n + if x.submitted < maxTestInstances then 1 else 0)

/-- **Step.** A call in progress stays so until it returns. -/
lemma InProgress.step {n : ℕ} (h : InProgress x n s) {l : EngineAct ω} (hl : l.goesOn = true)
    (hstep : engineStep s l = some t) : InProgress x n t := by
  rcases l with ⟨w, env⟩ | _ | _
  · rcases h with ⟨hs, hlen⟩ | ⟨hs, hlen⟩
    · have hquiet : Quiet t := hs.toQuiet.step (l := .work w env) hstep
      obtain ⟨pc, -, rfl⟩ := hs.toQuiet.work hstep
      exact .inl ⟨⟨hquiet, hs.callerInside, hs.noneCounted, hs.tests, hs.submitted⟩, hlen⟩
    · obtain ⟨ht, hsub⟩ := hs.work hstep
      exact .inr ⟨ht, by rw [hsub, hlen]⟩
  · cases hl
  · rcases h with ⟨hs, rfl⟩ | ⟨hs, -⟩
    · exact .inr (hs.proceed hstep)
    · exact absurd hstep (not_proceed_of_idle hs.callerIdle)

/-- **A call of an inert engine** returns what the inert engine replies. -/
lemma Inert.execute (h : Inert s x) {name : CString} {code : ℤ}
    (hreturns : ExecuteReturns name s code t) :
    code = (x.serve (.execute name)).1 ∧ Inert t (x.serve (.execute name)).2 := by
  obtain ⟨⟨begun, tr, hbegin, hrun, hgoes⟩, hidle, hcode⟩ := hreturns
  obtain ⟨begun', hbegin', hsub, hcases⟩ := h.begin name
  obtain rfl : begun = begun' := Option.some.inj (hbegin.symm.trans hbegin')
  rcases hcases with ⟨hknows, rfl⟩ | ⟨hknows, hs⟩
  · have ht : Inert t x ∧ t.submissions = begun.submissions := by
      refine hrun.invariantAlong (I := fun u => Inert u x ∧ u.submissions = begun.submissions)
        (C := fun _ l => l.goesOn = true) ⟨h, rfl⟩ ?_ hgoes
      rintro u l v ⟨hu, hsame⟩ hl hstep
      rcases l with ⟨w, env⟩ | _ | _
      · obtain ⟨hv, hsub⟩ := hu.work hstep
        exact ⟨hv, hsub.trans hsame⟩
      · cases hl
      · exact absurd hstep (not_proceed_of_idle hu.callerIdle)
    rw [ht.2, if_neg (Nat.lt_irrefl _)] at hcode
    rw [InertEngine.serve_execute_of_unknown hknows]
    exact ⟨hcode, ht.1⟩
  · have ht : InProgress x begun.submissions.length t :=
      hrun.invariantAlong (C := fun _ l => l.goesOn = true) (.inl ⟨hs, rfl⟩)
        (fun _ _ _ hu hl hstep => hu.step hl hstep) hgoes
    rw [InertEngine.serve_execute_of_knows hknows]
    rcases ht with ⟨ht, -⟩ | ⟨ht, hlen⟩
    · obtain ⟨p, entry, name, hcaller⟩ := ht.callerInside
      rw [hidle] at hcaller
      cases hcaller
    · refine ⟨hcode.trans ?_, ht⟩
      rw [hlen, hsub]
      by_cases hroom : x.submitted < maxTestInstances
      · simp [hroom]
      · simp [hroom]

/-- A call of an inert engine can return. -/
lemma Inert.exists_execute (h : Inert s x) (name : CString) :
    ∃ code t, ExecuteReturns name s code t := by
  obtain ⟨begun, hbegin, hsub, ⟨-, rfl⟩ | ⟨-, hs⟩⟩ := h.begin name
  · exact ⟨_, _, ⟨begun, [], hbegin, .start, by simp⟩, h.callerIdle, rfl⟩
  · obtain ⟨t, ht⟩ := exists_proceed hs.callerInside
    have hrun : Run (stepOf engineStep) begun ([] ++ [(begun, .call .proceed)]) t := .next .start ht
    exact ⟨_, t, ⟨begun, _, hbegin, hrun, by simp [EngineAct.goesOn]⟩,
      (hs.proceed ht).1.callerIdle, rfl⟩

/-- **The started engine refines the inert one.** -/
theorem engineService_refines :
    Refines (engineService ω) InertEngine.serve (Inert (ω := ω)) where
  background s x s' h hstep := by
    obtain ⟨w, env, hstep⟩ := hstep
    exact (h.work hstep).1
  replies op s x r s' h hreply := by
    cases hreply with
    | register name context operations =>
        refine ⟨?_, h.register name context operations⟩
        rw [register_eq, h.tests]
        rfl
    | execute _ hreturns => exact h.execute hreturns
    | getResult name => exact ⟨getResult_of_count_eq_zero h.noneCounted name, h⟩
    | testName index => exact ⟨by rw [h.tests]; rfl, h⟩
  responds op s x h := by
    cases op with
    | register name context operations =>
        exact ⟨_, _, .register name context operations h.callerIdle⟩
    | execute name =>
        obtain ⟨code, t, hreturns⟩ := h.exists_execute name
        exact ⟨code, t, .execute h.callerIdle hreturns⟩
    | getResult name => exact ⟨_, _, .getResult name h.callerIdle⟩
    | testName index => exact ⟨_, _, .testName index h.callerIdle⟩

/-- **Whatever the main thread does with a started engine**, and however many workers take whatever
steps meanwhile, it gets what an inert engine replies; and it gets to its end.
Source: `services/test-engine.c` -/
theorem engineExecutes_iff {α : Type} (hstart : Started s) (hcount : s.engine.instanceCount = 0)
    (client : EngineClient α) (a : α) :
    (∃ t, (engineService ω).Executes s client a t) ↔
      a = (client.eval InertEngine.serve s.inert).1 :=
  engineService_refines.executes_iff client (hstart.inert hcount) a

end refinement

/-- On the one-LED platform: the call of its test, and a look at the result. -/
theorem engineExecutes_iff_led :
    ∃ t, (engineService (Fin 8)).Executes ledSystem (do
      let _ ← EngineClient.execute (cstr "status_indication_test")
      EngineClient.getResult (cstr "status_indication_test")) none t :=
  have hstart : Started ledSystem := ⟨rfl, rfl, by decide, fun _ => rfl, rfl, rfl⟩
  (engineExecutes_iff hstart rfl _ none).mpr rfl

end HardwareTest
