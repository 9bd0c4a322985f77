import HardwareTest.Engine.Step
import Mathlib.Algebra.BigOperators.Group.Finset.Basic
import Mathlib.Algebra.Order.Group.Multiset
import Mathlib.Data.Fintype.Basic
import Mathlib.Data.List.ReduceOption
import Mathlib.Tactic.Abel

/-!
# No submission is lost by a worker

* `EngineSystem.outstanding`: the instances in the execution queue and on the pending list, and
  those that a worker has taken from there and neither run nor put back.
* `UnlockedSystem`: the scheduler takes no lock, so that between the scan of
  `test_scheduler_get_next_instance` and its removal of the entry other threads may call the
  scheduler too. The scan, the removal and `test_scheduler_submit` are a step each.
* `Recorded`: a run with a record of what callers put into the queue and the list, and of what was
  run. `Delivered` is the balance of the two with what is outstanding.
* `delivered_iff`: a run keeps the balance exactly when no worker leaves its loop body early with
  an instance in hand, at the lookup of the function or at a full queue, and every worker removes
  the entry that it has selected.
* `keepsEntry_of_noOverlap`: it does, when no two calls of the scheduler overlap.
-/

namespace HardwareTest

open Lib

/-! ## What is outstanding -/

/-- The pointers of a list that are not NULL. -/
def pointers (l : List (Option InstancePtr)) : Multiset InstancePtr := ↑l.reduceOption

lemma pointers_cons_none (l : List (Option InstancePtr)) : pointers (none :: l) = pointers l := by
  rw [pointers, List.reduceOption_cons_of_none]
  rfl

lemma pointers_cons_some (p : InstancePtr) (l : List (Option InstancePtr)) :
    pointers (some p :: l) = p ::ₘ pointers l := by
  rw [pointers, List.reduceOption_cons_of_some]
  rfl

lemma pointers_perm {l l' : List (Option InstancePtr)} (h : l.Perm l') :
    pointers l = pointers l' := Multiset.coe_eq_coe.mpr (h.filterMap id)

/-- A pointer stored behind the others is one more. -/
lemma pointers_append_some (l : List (Option InstancePtr)) (p : InstancePtr) :
    pointers (l ++ [some p]) = p ::ₘ pointers l := by
  rw [← pointers_cons_some]
  apply pointers_perm
  exact List.perm_append_comm

/-- A pointer taken out is one less. -/
lemma pointers_eraseIdx {l : List (Option InstancePtr)} {i : ℕ} {p : InstancePtr}
    (h : l[i]? = some (some p)) : pointers l = p ::ₘ pointers (l.eraseIdx i) := by
  obtain ⟨hi, hget⟩ := List.getElem?_eq_some_iff.mp h
  rw [← pointers_cons_some, ← hget]
  exact pointers_perm (List.getElem_cons_eraseIdx_perm hi).symm

/-- The instances in the queue and on the pending list. -/
def TestEngine.waiting (e : TestEngine) : Multiset InstancePtr :=
  pointers e.executionQueue.contents + pointers e.scheduler.pendingInstances.items

/-- The indices of the queue agree with its count, and the pending list is within its table. -/
structure TestEngine.Sound (e : TestEngine) : Prop where
  queue : e.executionQueue.WellFormed
  pending : e.scheduler.pendingInstances.WithinLimit

/-- The instance that a worker has taken and neither run nor put back. -/
@[simp]
def WorkerPc.inHand : WorkerPc → Multiset InstancePtr
  | .popped inst | .acquiring inst _ | .starting inst _ | .running inst _ | .pushing inst => {inst}
  | _ => 0

section hands

variable {ω : Type*} [DecidableEq ω] [Fintype ω]

/-- The instances in the hands of the workers other than one. -/
def EngineSystem.others (s : EngineSystem ω) (w : ω) : Multiset InstancePtr :=
  ∑ v ∈ Finset.univ.erase w, (s.workers v).inHand

/-- Waiting, or in the hand of a worker. -/
def EngineSystem.outstanding (s : EngineSystem ω) : Multiset InstancePtr :=
  s.engine.waiting + ∑ v, (s.workers v).inHand

/-- What is outstanding, seen from one worker. -/
lemma outstanding_eq (s : EngineSystem ω) (w : ω) :
    s.outstanding = s.engine.waiting + (s.workers w).inHand + s.others w := by
  have hsum := Finset.add_sum_erase Finset.univ (fun v => (s.workers v).inHand) (Finset.mem_univ w)
  rw [EngineSystem.outstanding, EngineSystem.others, add_assoc, hsum]

/-- What is outstanding after a step of one worker. -/
lemma outstanding_goto (s : EngineSystem ω) (w : ω) (pc : WorkerPc) :
    (s.goto w pc).outstanding = s.engine.waiting + pc.inHand + s.others w := by
  have hothers : (s.goto w pc).others w = s.others w := by
    apply Finset.sum_congr rfl
    intro v hv
    rw [goto_workers_of_ne _ _ (Finset.ne_of_mem_erase hv)]
  rw [outstanding_eq _ w, goto_workers_self, goto_engine, hothers]

end hands

variable {ω : Type*} [DecidableEq ω]

/-! ## The books -/

/-- The instance whose run the next step of the worker ends. -/
@[simp]
def WorkerPc.finishes : WorkerPc → Multiset InstancePtr
  | .running inst _ => {inst}
  | _ => 0

/-- The worker does not leave its loop body with an instance in hand: the test manager knows the
test of the instance it is about to look up, and there is room in the queue for the one it is about
to push. -/
@[simp]
def TestEngine.delivers (e : TestEngine) : WorkerPc → Bool
  | .popped inst => (e.testManager.getFunctionName (e.entryName inst)).isSome
  | .pushing _ => decide (e.executionQueue.count < testEngineQueueSize)
  | _ => true

/-- The step delivers, when it is one of a worker. -/
def EngineSystem.delivers (s : EngineSystem ω) : EngineAct ω → Bool
  | .work w _ => s.engine.delivers (s.workers w)
  | .call _ => true

/-- What the step of a worker runs: `test_engine_run_instance` returns. -/
def ranBy (s : EngineSystem ω) : EngineAct ω → Multiset InstancePtr
  | .work w _ => (s.workers w).finishes
  | .call _ => 0

/-- What the step of a caller puts on the pending list or into the queue. -/
def enteredBy (s : EngineSystem ω) : EngineAct ω → Multiset InstancePtr
  | .call .proceed =>
      match s.caller with
      | .submitting inst _ _ =>
          if (testSchedulerSubmit s.engine.checkResource s.engine.scheduler inst).1 = .pending
          then {inst} else 0
      | .pushing inst _ _ =>
          if s.engine.executionQueue.count < testEngineQueueSize then {inst} else 0
      | .idle => 0
  | _ => 0

/-! ## One step -/

/-- **The books of a worker step**: what it takes it has in hand, and what it has in hand it runs or
puts back, unless it does not deliver. -/
lemma workerStep_books {s s' : EngineSystem ω} {w : ω} {env : Environment} (h : s.engine.Sound)
    (hstep : workerStep s w env = some s') :
    ∃ e subs pc, s' = { s with engine := e, submissions := subs }.goto w pc ∧ e.Sound ∧
      e.waiting + pc.inHand + ((s.workers w).finishes +
        if s.engine.delivers (s.workers w) then 0 else (s.workers w).inHand) =
          s.engine.waiting + (s.workers w).inHand := by
  cases workerStep_moves hstep with
  | test hw =>
      refine ⟨s.engine, s.submissions, _, rfl, h, ?_⟩
      split_ifs <;> simp [hw]
  | stop hw => exact ⟨s.engine, s.submissions, .loopHead, rfl, h, by simp [hw]⟩
  | pop hw _ hempty =>
      refine ⟨_, s.submissions, _, rfl, ⟨h.queue.pop hempty, h.pending⟩, ?_⟩
      unfold TestEngine.waiting
      rw [hw, Ring.contents_pop _ hempty]
      rcases s.engine.executionQueue.pop with ⟨_ | inst, queue⟩
      · simp [pointers_cons_none]
      · simp [pointers_cons_some, add_comm]
  | unknown inst hw hfunction =>
      exact ⟨s.engine, s.submissions, .loopHead, rfl, h, by simp [hw, hfunction]⟩
  | found inst function hw hfunction =>
      exact ⟨s.engine, s.submissions, .acquiring inst function.chars, rfl, h,
        by simp [hw, hfunction]⟩
  | acquire inst function r hw =>
      exact ⟨_, s.submissions, .starting inst function, rfl, ⟨h.queue, h.pending⟩,
        by simp [hw, TestEngine.waiting]⟩
  | start inst function hw =>
      exact ⟨_, s.submissions, .running inst function, rfl, ⟨h.queue, h.pending⟩,
        by simp [hw, TestEngine.waiting, TestEngine.updateInstance]⟩
  | run inst function operations hw =>
      exact ⟨_, _, .releasing inst function, rfl, ⟨h.queue, h.pending⟩,
        by simp [hw, TestEngine.waiting, TestEngine.updateInstance]⟩
  | release inst function r hw =>
      exact ⟨_, s.submissions, .scheduling, rfl, ⟨h.queue, h.pending⟩,
        by simp [hw, TestEngine.waiting]⟩
  | schedule r hw hr =>
      subst hr
      rcases testSchedulerGetNextInstance_items s.engine.checkResource h.pending with
        ⟨index, inst, scheduler, hnext, hget, hitems, hlimit⟩ | hnext
      · rw [hnext]
        refine ⟨_, s.submissions, .pushing inst, rfl, ⟨h.queue, hlimit⟩, ?_⟩
        simp [hw, TestEngine.waiting, hitems, pointers_eraseIdx hget, add_assoc]
        rw [← add_assoc, add_comm, Multiset.singleton_add]
      · rw [hnext]
        exact ⟨_, s.submissions, .loopHead, rfl, ⟨h.queue, h.pending⟩,
          by simp [hw, TestEngine.waiting]⟩
  | full inst hw hpush =>
      have hfull := Ring.push_eq_none_iff.mp hpush
      exact ⟨s.engine, s.submissions, .loopHead, rfl, h, by simp [hw, hfull]⟩
  | push inst queue hw hpush =>
      have hroom := Ring.count_lt_of_push hpush
      refine ⟨_, s.submissions, .loopHead, rfl, ⟨h.queue.push hpush, h.pending⟩, ?_⟩
      simp [hw, TestEngine.waiting, hroom, Ring.contents_push h.queue hpush,
        pointers_append_some]
      exact (Multiset.singleton_add ..).symm.trans (add_comm ..)

omit [DecidableEq ω] in
/-- **The books of a caller step**: what it puts on the pending list or into the queue waits. -/
lemma callerStep_books {s s' : EngineSystem ω} {act : CallerAct} (h : s.engine.Sound)
    (hstep : callerStep s act = some s') :
    s'.workers = s.workers ∧ s'.engine.Sound ∧
      s'.engine.waiting = s.engine.waiting + enteredBy s (.call act) := by
  cases callerStep_moves hstep with
  | refused => exact ⟨rfl, h, by simp [enteredBy]⟩
  | begun =>
      exact ⟨rfl, ⟨h.queue, h.pending⟩,
        by simp [enteredBy, EngineSystem.callBegun, TestEngine.waiting, TestEngine.updateInstance]⟩
  | failed inst entry name scheduler hcaller hsubmit
  | accepted inst entry name scheduler hcaller hsubmit =>
      have hitems := testSchedulerSubmit_items s.engine.checkResource inst h.pending
      rw [hsubmit] at hitems
      refine ⟨rfl, ⟨h.queue, hitems.1⟩, ?_⟩
      have hsame : scheduler.pendingInstances.items =
          s.engine.scheduler.pendingInstances.items := by simpa using hitems.2
      simp [enteredBy, hcaller, hsubmit, TestEngine.waiting, hsame]
  | pending inst entry name scheduler hcaller hsubmit =>
      have hitems := testSchedulerSubmit_items s.engine.checkResource inst h.pending
      rw [hsubmit] at hitems
      refine ⟨rfl, ⟨h.queue, hitems.1⟩, ?_⟩
      have hmore : scheduler.pendingInstances.items =
          s.engine.scheduler.pendingInstances.items ++ [some inst] := hitems.2
      simp only [enteredBy, hcaller, hsubmit, if_true]
      unfold TestEngine.waiting
      simp only [hmore, pointers_append_some]
      rw [Multiset.add_cons, ← Multiset.singleton_add, add_comm]
  | full inst entry name hcaller hpush =>
      have hfull := Ring.push_eq_none_iff.mp hpush
      exact ⟨rfl, h, by simp [enteredBy, hcaller, hfull]⟩
  | push inst entry name queue hcaller hpush =>
      have hroom := Ring.count_lt_of_push hpush
      refine ⟨rfl, ⟨h.queue.push hpush, h.pending⟩, ?_⟩
      simp only [enteredBy, hcaller]
      unfold TestEngine.waiting
      rw [if_pos hroom, Ring.contents_push h.queue hpush, pointers_append_some,
        Multiset.cons_add, ← Multiset.singleton_add, add_comm]

/-- What a worker drops in the step. -/
def droppedBy (s : EngineSystem ω) : EngineAct ω → Multiset InstancePtr
  | .work w _ => if s.engine.delivers (s.workers w) then 0 else (s.workers w).inHand
  | .call _ => 0

omit [DecidableEq ω] in
/-- A step drops nothing iff it delivers. -/
lemma droppedBy_eq_zero_iff (s : EngineSystem ω) (l : EngineAct ω) :
    droppedBy s l = 0 ↔ s.delivers l = true := by
  rcases l with ⟨w, env⟩ | act
  · simp only [droppedBy, EngineSystem.delivers]
    split_ifs with hdelivers
    · exact iff_of_true rfl hdelivers
    · refine iff_of_false ?_ hdelivers
      -- only a worker with an instance in hand can fail to deliver
      cases hw : s.workers w with
      | popped p => simp
      | pushing p => simp
      | _ => simp [hw] at hdelivers
  · exact iff_of_true rfl rfl

/-- **The books of a step.** -/
theorem engineStep_books [Fintype ω] {s s' : EngineSystem ω} {l : EngineAct ω}
    (h : s.engine.Sound) (hstep : engineStep s l = some s') :
    s'.engine.Sound ∧
      s'.outstanding + ranBy s l + droppedBy s l = s.outstanding + enteredBy s l := by
  cases l with
  | work w env =>
      obtain ⟨e, subs, pc, rfl, hsound, hbooks⟩ := workerStep_books h hstep
      refine ⟨hsound, ?_⟩
      have hothers : ({ s with engine := e, submissions := subs } : EngineSystem ω).others w =
          s.others w := rfl
      rw [outstanding_goto, outstanding_eq s w, hothers, ← hbooks]
      show _ = _ + 0
      rw [add_zero, ranBy, droppedBy]
      abel
  | call act =>
      obtain ⟨hworkers, hsound, hwaiting⟩ := callerStep_books h hstep
      refine ⟨hsound, ?_⟩
      unfold EngineSystem.outstanding
      rw [hworkers, hwaiting, ranBy, droppedBy]
      abel

/-! ## The unlocked scheduler -/

/-- The engine, and for each worker the entry that it has selected from the pending list and not
yet removed. -/
structure UnlockedSystem (ω : Type*) where
  system : EngineSystem ω
  selected : ω → Option (ℕ × InstancePtr)

/-- The engine with no promotion under way. -/
def UnlockedSystem.start (s : EngineSystem ω) : UnlockedSystem ω := ⟨s, fun _ => none⟩

/-- The next step of a worker in `test_scheduler_get_next_instance`: the scan, or the removal of
what it has selected, whatever the list is by then; the code of the removal is not looked at.
Source: `services/test-scheduler.c`, `test_scheduler_get_next_instance` -/
def UnlockedSystem.promote (u : UnlockedSystem ω) (w : ω) : UnlockedSystem ω :=
  let e := u.system.engine
  match u.selected w with
  | none =>
      match testSchedulerSelect e.checkResource e.scheduler with
      | none => { u with system := u.system.goto w .loopHead }
      | some entry => { u with selected := Function.update u.selected w (some entry) }
  | some (index, inst) =>
      { system := { u.system with engine := { e with
          scheduler := (testSchedulerRemovePending e.scheduler index).2 } }.goto w (.pushing inst)
        selected := Function.update u.selected w none }

/-- The step function of the engine with the unlocked scheduler. -/
def unlockedStep (u : UnlockedSystem ω) : EngineAct ω → Option (UnlockedSystem ω)
  | .work w env =>
      if u.system.workers w = .scheduling then some (u.promote w)
      else (workerStep u.system w env).map fun s => { u with system := s }
  | .call act => (callerStep u.system act).map fun s => { u with system := s }

/-- **An undisturbed promotion** is the step of the worker: the scan, and then the removal. -/
theorem workerStep_eq_promote {u : UnlockedSystem ω} {w : ω}
    (hw : u.system.workers w = .scheduling) (hselected : u.selected w = none) (env : Environment) :
    workerStep u.system w env = some
      (match testSchedulerSelect u.system.engine.checkResource u.system.engine.scheduler with
      | none => u.promote w
      | some _ => (u.promote w).promote w).system := by
  simp only [workerStep, hw, testSchedulerGetNextInstance_eq, UnlockedSystem.promote, hselected]
  rcases hselect : testSchedulerSelect u.system.engine.checkResource
    u.system.engine.scheduler with _ | ⟨index, inst⟩
  · rfl
  · simp only [Function.update_self]

/-- The entry that the worker has selected is where it was found. -/
def UnlockedSystem.keepsEntry (u : UnlockedSystem ω) (w : ω) : Bool :=
  match u.selected w with
  | none => true
  | some (index, inst) =>
      decide (u.system.engine.scheduler.pendingInstances.items[index]? = some (some inst))

/-- The step delivers, and a removal takes the entry that was selected. -/
def stepDelivers (u : UnlockedSystem ω) : EngineAct ω → Bool
  | .work w env =>
      if u.system.workers w = .scheduling then u.keepsEntry w
      else u.system.delivers (.work w env)
  | .call _ => true

/-- A pointer in place of the one at an index is the same list exactly if it is that one. -/
lemma pointers_eraseIdx_eq_iff (l : List (Option InstancePtr)) (i : ℕ) (p : InstancePtr) :
    pointers (l.eraseIdx i) + {p} = pointers l ↔ l[i]? = some (some p) := by
  rcases hget : l[i]? with _ | _ | q
  · rw [List.eraseIdx_of_length_le (List.getElem?_eq_none_iff.mp hget)]
    simp
  · obtain ⟨hi, hnone⟩ := List.getElem?_eq_some_iff.mp hget
    have hperm := pointers_perm (List.getElem_cons_eraseIdx_perm hi)
    rw [hnone, pointers_cons_none] at hperm
    rw [hperm]
    simp
  · rw [pointers_eraseIdx hget, add_comm, Multiset.singleton_add, Multiset.cons_inj_left]
    simp only [Option.some.injEq]
    exact eq_comm

section unlocked

variable [Fintype ω] {u v : UnlockedSystem ω} {l : EngineAct ω}

/-- **A step of a promotion** keeps the books iff it does not remove another entry than the selected
one. -/
lemma promote_balance_iff {w : ω} (h : u.system.engine.Sound)
    (hw : u.system.workers w = .scheduling) :
    (u.promote w).system.engine.Sound ∧
      ((u.promote w).system.outstanding = u.system.outstanding ↔ u.keepsEntry w = true) := by
  have hbefore : u.system.outstanding = u.system.engine.waiting + u.system.others w := by
    rw [outstanding_eq u.system w, hw]
    simp
  unfold UnlockedSystem.promote UnlockedSystem.keepsEntry
  rcases u.selected w with _ | ⟨index, inst⟩
  · simp only
    rcases testSchedulerSelect u.system.engine.checkResource
      u.system.engine.scheduler with _ | entry
    · refine ⟨h, iff_of_true ?_ trivial⟩
      show (u.system.goto w .loopHead).outstanding = _
      rw [outstanding_goto, hbefore]
      simp
    · exact ⟨h, iff_of_true rfl trivial⟩
  · obtain ⟨hlimit, hitems⟩ := testSchedulerRemovePending_items h.pending index
    refine ⟨⟨h.queue, hlimit⟩, ?_⟩
    rw [decide_eq_true_iff, ← pointers_eraseIdx_eq_iff]
    simp only
    rw [outstanding_goto, hbefore]
    show pointers u.system.engine.executionQueue.contents + pointers _ + {inst} +
      u.system.others w = pointers u.system.engine.executionQueue.contents + pointers _ +
        u.system.others w ↔ _
    rw [hitems, add_left_inj, add_assoc, add_right_inj]

/-- **A step keeps the books** iff it delivers. -/
theorem unlockedStep_balance_iff (h : u.system.engine.Sound) (hstep : unlockedStep u l = some v) :
    v.system.engine.Sound ∧
      (v.system.outstanding + ranBy u.system l = u.system.outstanding + enteredBy u.system l ↔
        stepDelivers u l = true) := by
  have hengine : ∀ {s}, engineStep u.system l = some s → s.engine.Sound ∧
      (s.outstanding + ranBy u.system l = u.system.outstanding + enteredBy u.system l ↔
        u.system.delivers l = true) := by
    intro s hs
    obtain ⟨hsound, hbooks⟩ := engineStep_books h hs
    refine ⟨hsound, ?_⟩
    rw [← hbooks, ← droppedBy_eq_zero_iff]
    exact left_eq_add
  cases l with
  | work w env =>
      rw [unlockedStep] at hstep
      rw [stepDelivers]
      by_cases hw : u.system.workers w = .scheduling
      · rw [if_pos hw] at hstep ⊢
        obtain rfl := Option.some.inj hstep
        obtain ⟨hsound, hbalance⟩ := promote_balance_iff h hw
        refine ⟨hsound, ?_⟩
        simpa [ranBy, enteredBy, hw] using hbalance
      · rw [if_neg hw, Option.map_eq_some_iff] at hstep
        rw [if_neg hw]
        obtain ⟨s, hs, rfl⟩ := hstep
        exact hengine hs
  | call act =>
      rw [unlockedStep, Option.map_eq_some_iff] at hstep
      obtain ⟨s, hs, rfl⟩ := hstep
      exact hengine hs

end unlocked

/-! ## Calls of the scheduler that do not overlap -/

/-- The step is no call of the scheduler by a thread while a worker is in the middle of another. -/
def NoOverlap (u : UnlockedSystem ω) : EngineAct ω → Prop
  | .work w _ => u.system.workers w = .scheduling → ∀ v, v ≠ w → u.selected v = none
  | .call .proceed => (∃ inst entry name, u.system.caller = .submitting inst entry name) →
      ∀ v, u.selected v = none
  | .call (.execute _) => True

omit [DecidableEq ω] in
/-- The caller changes the scheduler in `test_scheduler_submit` only. -/
lemma callerStep_scheduler {s t : EngineSystem ω} {act : CallerAct} (h : callerStep s act = some t)
    (hsubmit : act = .proceed → ¬ ∃ inst entry name, s.caller = .submitting inst entry name) :
    t.engine.scheduler = s.engine.scheduler := by
  cases callerStep_moves h with
  | failed inst entry name _ hcaller
  | pending inst entry name _ hcaller
  | accepted inst entry name _ hcaller => exact absurd ⟨inst, entry, name, hcaller⟩ (hsubmit rfl)
  | _ => rfl

/-- A worker changes the scheduler in `test_scheduler_get_next_instance` only. -/
lemma workerStep_scheduler {s t : EngineSystem ω} {w : ω} {env : Environment}
    (h : workerStep s w env = some t) (hw : s.workers w ≠ .scheduling) :
    t.engine.scheduler = s.engine.scheduler := by
  cases workerStep_moves h with
  | schedule _ hscheduling => exact absurd hscheduling hw
  | _ => rfl

omit [DecidableEq ω] in
/-- The selections are kept as long as the scheduler is. -/
lemma keepsEntry_of_scheduler {u : UnlockedSystem ω} {s : EngineSystem ω}
    (h : ∀ v, u.keepsEntry v = true) (hs : s.engine.scheduler = u.system.engine.scheduler) (v : ω) :
    UnlockedSystem.keepsEntry { u with system := s } v = true := by
  have hv := h v
  unfold UnlockedSystem.keepsEntry at hv ⊢
  simp only [hs]
  exact hv

/-- A promotion selects an entry that is there, and disturbs no other worker that has selected
none. -/
lemma keepsEntry_promote {u : UnlockedSystem ω} {w : ω} (h : ∀ v, u.keepsEntry v = true)
    (hothers : ∀ v, v ≠ w → u.selected v = none) (v : ω) : (u.promote w).keepsEntry v = true := by
  have hupdated : ∀ entry s, v ≠ w → UnlockedSystem.keepsEntry
      ⟨s, Function.update u.selected w entry⟩ v = true := by
    intro entry s hv
    unfold UnlockedSystem.keepsEntry
    simp only [Function.update_of_ne hv, hothers v hv]
  unfold UnlockedSystem.promote
  rcases u.selected w with _ | ⟨index, inst⟩
  · simp only
    rcases hselect : testSchedulerSelect u.system.engine.checkResource
      u.system.engine.scheduler with _ | ⟨index, inst⟩
    · exact keepsEntry_of_scheduler h rfl v
    · rcases eq_or_ne v w with rfl | hv
      · unfold UnlockedSystem.keepsEntry
        simp only [Function.update_self, getElem?_of_select hselect, decide_true]
      · exact hupdated _ _ hv
  · rcases eq_or_ne v w with rfl | hv
    · unfold UnlockedSystem.keepsEntry
      simp only [Function.update_self]
    · exact hupdated _ _ hv

/-- A step that overlaps no call of the scheduler keeps the selections. -/
lemma keepsEntry_step {u u' : UnlockedSystem ω} {l : EngineAct ω} (h : ∀ v, u.keepsEntry v = true)
    (hoverlap : NoOverlap u l) (hstep : unlockedStep u l = some u') (v : ω) :
    u'.keepsEntry v = true := by
  rcases l with ⟨w, env⟩ | act
  · rw [unlockedStep] at hstep
    split_ifs at hstep with hw
    · obtain rfl := Option.some.inj hstep
      exact keepsEntry_promote h (hoverlap hw) v
    · obtain ⟨s, hs, rfl⟩ := Option.map_eq_some_iff.mp hstep
      exact keepsEntry_of_scheduler h (workerStep_scheduler hs hw) v
  · rw [unlockedStep] at hstep
    obtain ⟨s, hs, rfl⟩ := Option.map_eq_some_iff.mp hstep
    by_cases hsubmit : act = .proceed ∧
        ∃ inst entry name, u.system.caller = .submitting inst entry name
    · obtain ⟨rfl, hcaller⟩ := hsubmit
      have hnone : u.selected v = none := hoverlap hcaller v
      unfold UnlockedSystem.keepsEntry
      simp only [hnone]
    · exact keepsEntry_of_scheduler h
        (callerStep_scheduler hs fun hact hcaller => hsubmit ⟨hact, hcaller⟩) v

/-- **When no two calls of the scheduler overlap**, every worker finds the entry that it has
selected where it was. -/
theorem keepsEntry_of_noOverlap {s : EngineSystem ω} {t : UnlockedSystem ω}
    {tr : List (UnlockedSystem ω × EngineAct ω)} (hrun : Run (stepOf unlockedStep) (.start s) tr t)
    (hno : ∀ p ∈ tr, NoOverlap p.1 p.2) (w : ω) : t.keepsEntry w = true :=
  hrun.invariantAlong (I := fun u => ∀ v, u.keepsEntry v = true) (C := NoOverlap)
    (fun _ => rfl) (fun _ _ _ h hoverlap hstep => keepsEntry_step h hoverlap hstep) hno w

/-! ## Runs -/

/-- A system with the record of what entered it and of what was run. -/
structure Recorded (ω : Type*) where
  state : UnlockedSystem ω
  entered : Multiset InstancePtr
  ran : Multiset InstancePtr

/-- Nothing is recorded at the start. -/
def Recorded.start (s : EngineSystem ω) : Recorded ω := ⟨.start s, 0, 0⟩

/-- A step, recorded. -/
def recordedStep (r : Recorded ω) (l : EngineAct ω) : Option (Recorded ω) :=
  (unlockedStep r.state l).map fun u =>
    ⟨u, r.entered + enteredBy r.state.system l, r.ran + ranBy r.state.system l⟩

/-- **Delivery**: every instance that was outstanding at the start or entered since then is
outstanding or was run, and a worker with an instance in hand can always go on. -/
structure Delivered [Fintype ω] (s : EngineSystem ω) (r : Recorded ω) : Prop where
  balance : r.state.system.outstanding + r.ran = s.outstanding + r.entered
  enabled : ∀ w, (r.state.system.workers w).inHand ≠ 0 → ∀ env,
    (unlockedStep r.state (.work w env)).isSome = true

/-- With an instance in hand a worker can go on. -/
lemma unlockedStep_isSome_of_inHand {u : UnlockedSystem ω} {w : ω}
    (h : (u.system.workers w).inHand ≠ 0) (env : Environment) :
    (unlockedStep u (.work w env)).isSome = true := by
  have hworker : (workerStep u.system w env).isSome = true := by
    apply workerStep_isSome
    · intro hexited
      rw [hexited] at h
      exact h rfl
    · intro hpopping
      rw [hpopping] at h
      exact absurd rfl h
  rw [unlockedStep]
  split_ifs
  · rfl
  · simpa using hworker

/-- A recorded step out of a balanced state keeps the balance iff it delivers. -/
lemma recordedStep_balance_iff [Fintype ω] {u v : Recorded ω} {l : EngineAct ω}
    {start : Multiset InstancePtr} (h : u.state.system.engine.Sound)
    (hbalance : u.state.system.outstanding + u.ran = start + u.entered)
    (hstep : stepOf recordedStep u l v) :
    v.state.system.engine.Sound ∧
      (v.state.system.outstanding + v.ran = start + v.entered ↔ stepDelivers u.state l = true) := by
  unfold stepOf recordedStep at hstep
  rw [Option.map_eq_some_iff] at hstep
  obtain ⟨state, hstate, rfl⟩ := hstep
  obtain ⟨hsound, hbooks⟩ := unlockedStep_balance_iff h hstate
  refine ⟨hsound, ?_⟩
  rw [← hbooks]
  have hleft : state.system.outstanding + (u.ran + ranBy u.state.system l) =
      state.system.outstanding + ranBy u.state.system l + u.ran := by abel
  have hright : start + (u.entered + enteredBy u.state.system l) =
      u.state.system.outstanding + enteredBy u.state.system l + u.ran := by
    rw [← add_assoc, ← hbalance]
    abel
  show state.system.outstanding + (u.ran + ranBy u.state.system l) =
    start + (u.entered + enteredBy u.state.system l) ↔ _
  rw [hleft, hright, add_left_inj]

/-- **No submission is lost, exactly.** For every engine and scheduler state, every number of
workers and every interleaving with `test_engine_execute` calls, those in the middle of a promotion
included: in all states of the run every instance that has left the queue and the pending list has
been run or is in the hand of a worker that can go on, if and only if, in every step, a worker that
looks up the function of its instance finds one, a worker that pushes a promoted instance finds room
in the queue, and a worker that removes the entry it has selected from the pending list finds it
where it was. Source: `services/test-engine.c`, `test_engine_worker`;
`services/test-scheduler.c`, `test_scheduler_get_next_instance` -/
theorem delivered_iff [Fintype ω] {s : EngineSystem ω} (hsound : s.engine.Sound)
    {tr : List (Recorded ω × EngineAct ω)} {t : Recorded ω}
    (hrun : Run (stepOf recordedStep) (.start s) tr t) :
    (∀ u, Visits tr t u → Delivered s u) ↔ ∀ p ∈ tr, stepDelivers p.1.state p.2 = true := by
  have hstart : Delivered s (.start s) :=
    ⟨rfl, fun w hw env => unlockedStep_isSome_of_inHand hw env⟩
  refine hrun.always_iff_along (I := fun u => u.state.system.engine.Sound ∧ Delivered s u)
    (C := fun u l => stepDelivers u.state l = true) ⟨hsound, hstart⟩ ?_ (fun _ h => h.2) ?_
  · rintro u l v ⟨hu, hbalance, -⟩ hdelivers hstep
    obtain ⟨hv, hiff⟩ := recordedStep_balance_iff hu hbalance hstep
    exact ⟨hv, hiff.mpr hdelivers, fun w hw env => unlockedStep_isSome_of_inHand hw env⟩
  · rintro u l v ⟨hu, hbalance, -⟩ hdrops hstep ⟨hbalance', -⟩
    obtain ⟨-, hiff⟩ := recordedStep_balance_iff hu hbalance hstep
    exact hdrops (hiff.mp hbalance')

/-- An engine with a second test registered that the test manager does not know; the queue holds
one instance of the test with the given entry. -/
def queuedSystem (entry : ℕ) : EngineSystem Unit where
  engine := { ledEngine with
    tests := .ofList _ .zeroed [⟨ledConfig.ledTest.name, ⟨some 16, some 32, none⟩, 0, none⟩,
      ⟨safeStringCopy (cstr "user_input_test") 64, ⟨none, some 48, none⟩, 0, none⟩]
    executionQueue := ⟨(Vector.replicate _ none).set 0 (some (.slot 0)), 1, 0, 1⟩
    memory := fun _ => { TestInstance.zeroed with entry := some entry } }
  workers := fun _ => .loopHead
  caller := .idle
  calls := 0
  submissions := []

/-- The queued LED test is run, and nothing is lost. -/
theorem delivered_queuedLed :
    ∃ tr t, Run (stepOf recordedStep) (.start (queuedSystem 0)) tr t ∧ t.ran = {.slot 0} ∧
      ∀ u, Visits tr t u → Delivered (queuedSystem 0) u := by
  have hrun : Run (stepOf recordedStep) (.start (queuedSystem 0)) _ _ :=
    run_of_exec (List.replicate 6 (.work () ⟨0, 0, 0⟩)) rfl
  refine ⟨_, _, hrun, rfl, (delivered_iff ⟨⟨by decide, rfl⟩, Nat.zero_le _⟩ hrun).mpr ?_⟩
  rw [← List.all_eq_true]
  rfl

/-- The test manager does not know the queued test: the worker takes its instance from the queue
and drops it. -/
theorem unknownTest_dropped :
    (queuedSystem 1).engine.Sound ∧
      ∃ t, Reachable (stepOf recordedStep) (.start (queuedSystem 1)) t ∧
        ¬ Delivered (queuedSystem 1) t := by
  have hrun := run_of_exec (f := recordedStep) (s := .start (queuedSystem 1))
    (List.replicate 3 (.work () ⟨0, 0, 0⟩)) rfl
  refine ⟨⟨⟨by decide, rfl⟩, Nat.zero_le _⟩, _, ⟨_, hrun⟩, ?_⟩
  rintro ⟨hbalance, -⟩
  have hcard := congrArg Multiset.card hbalance
  exact absurd hcard (by decide)

/-- Two workers about to promote, and two instances on the pending list. -/
def twoPromoting : EngineSystem Bool where
  engine := { (queuedSystem 0).engine with
    scheduler := { (queuedSystem 0).engine.scheduler with
      pendingInstances := .ofList _ none [some (.slot 0), some (.slot 1)] } }
  workers := fun _ => .scheduling
  caller := .idle
  calls := 0
  submissions := []

/-- Their calls overlap: both select the first entry, and the second removal drops the other. -/
theorem overlappingPromotions_drop :
    ∃ t, Reachable (stepOf recordedStep) (.start twoPromoting) t ∧ ¬ Delivered twoPromoting t := by
  have hrun := run_of_exec (f := recordedStep) (s := .start twoPromoting)
    [.work true ⟨0, 0, 0⟩, .work false ⟨0, 0, 0⟩, .work true ⟨0, 0, 0⟩, .work false ⟨0, 0, 0⟩] rfl
  refine ⟨_, ⟨_, hrun⟩, ?_⟩
  rintro ⟨hbalance, -⟩
  have hcount := congrArg (Multiset.count (.slot 1)) hbalance
  exact absurd hcount (by decide)

end HardwareTest
