import HardwareTest.Lib.FixedTable
import HardwareTest.Lib.Transition
import Mathlib.Data.Int.Notation

/-!
# The test scheduler: `services/test-scheduler.c`

Instance pointers are an arbitrary type `ι`, and a NULL cell of the pending list is `none`. What
`test_scheduler_check_resource` answers for a pointer is an argument (`available`): it depends on
the resource table, which other threads change between two calls.

* `testSchedulerSubmit_of_lt`, `testSchedulerGetNextInstance_spec`: what the two calls return and
  what they leave of the pending list.
* `Accounting`: the two calls interleaved with instances that finish, with a record of the
  instances that were accepted and have not finished.
* `accounted_iff`: a run keeps `running_instances` equal to the number of these instances exactly
  when no instance is ever promoted. `submit` admits only when the limit is *reached*, promotion
  does not count, and nothing counts down.
-/

namespace HardwareTest

open Lib

abbrev maxTestInstances : ℕ := 128

abbrev testEngineMaxWorkers : UInt32 := 8

/-- Source: `services/test-scheduler.h`, `test_schedule_result_e` -/
inductive TestScheduleResult
  | accepted | pending | failed
deriving DecidableEq

/-- Source: `services/test-scheduler.h`, `test_scheduler_t` -/
structure TestScheduler (ι : Type*) where
  maxInstances : UInt32
  runningInstances : UInt32
  pendingInstances : FixedTable (Option ι) maxTestInstances

variable {ι : Type*}

/-- The scheduler in the block `malloc` returned; the pending list is whatever the block held.
Source: `services/test-scheduler.c`, `test_scheduler_init` -/
def testSchedulerInit (block : Option (TestScheduler ι)) (maxInstances : UInt32) :
    Option (TestScheduler ι) :=
  block.map fun scheduler => { scheduler with
    maxInstances := if maxInstances = 0 then testEngineMaxWorkers else maxInstances
    runningInstances := 0 }

/-- Source: `services/test-scheduler.c`, `test_scheduler_remove_pending` -/
def testSchedulerRemovePending (scheduler : TestScheduler ι) (index : ℕ) : ℤ × TestScheduler ι :=
  if index ≥ scheduler.pendingInstances.count then (-2, scheduler)
  else (0, { scheduler with pendingInstances := scheduler.pendingInstances.removeAt index none })

/-- Source: `services/test-scheduler.c`, `test_scheduler_submit` -/
def testSchedulerSubmit (available : ι → Bool) (scheduler : TestScheduler ι) (inst : ι) :
    TestScheduleResult × TestScheduler ι :=
  if scheduler.runningInstances ≥ scheduler.maxInstances ∧ available inst = true then
    (.accepted, { scheduler with runningInstances := scheduler.runningInstances + 1 })
  else if h : scheduler.pendingInstances.count ≥ maxTestInstances then (.failed, scheduler)
  else
    (.pending, { scheduler with
      pendingInstances := scheduler.pendingInstances.push (some inst) (Nat.lt_of_not_le h) })

/-- The pointer in a cell of the pending list. -/
def TestScheduler.pendingAt (scheduler : TestScheduler ι) (index : ℕ) : Option ι :=
  (scheduler.pendingInstances.get? index).join

/-- The scan of `get_next_instance`: the first cell whose instance passes the check. -/
def firstAvailable (available : ι → Bool) (scheduler : TestScheduler ι) : Option ℕ :=
  (List.range scheduler.pendingInstances.count).find? fun index =>
    (scheduler.pendingAt index).any available

/-- The result, `*instance` and the scheduler afterwards.
Source: `services/test-scheduler.c`, `test_scheduler_get_next_instance` -/
def testSchedulerGetNextInstance (available : ι → Bool) (scheduler : TestScheduler ι) :
    TestScheduleResult × Option ι × TestScheduler ι :=
  if scheduler.runningInstances ≥ scheduler.maxInstances then (.pending, none, scheduler)
  else match firstAvailable available scheduler with
    | none => (.pending, none, scheduler)
    | some index =>
        (.accepted, scheduler.pendingAt index, (testSchedulerRemovePending scheduler index).2)

/-- `test_scheduler_get_next_instance` up to its call of `test_scheduler_remove_pending`: the index
at which the scan stops, and the instance there. -/
def testSchedulerSelect (available : ι → Bool) (scheduler : TestScheduler ι) : Option (ℕ × ι) :=
  if scheduler.runningInstances ≥ scheduler.maxInstances then none
  else (firstAvailable available scheduler).bind fun index =>
    (scheduler.pendingAt index).map fun inst => (index, inst)

/-! ## What the calls do -/

/-- An instance that `submit` does not accept is appended, or refused when the list is full. -/
lemma testSchedulerSubmit_of_not_accepted {scheduler : TestScheduler ι} {available : ι → Bool}
    {inst : ι}
    (h : ¬ (scheduler.runningInstances ≥ scheduler.maxInstances ∧ available inst = true)) :
    (scheduler.pendingInstances.count < maxTestInstances ∧
      ∃ scheduler', testSchedulerSubmit available scheduler inst = (.pending, scheduler') ∧
        scheduler'.runningInstances = scheduler.runningInstances ∧
        scheduler'.maxInstances = scheduler.maxInstances ∧
        scheduler'.pendingInstances.items = scheduler.pendingInstances.items ++ [some inst]) ∨
    (maxTestInstances ≤ scheduler.pendingInstances.count ∧
      testSchedulerSubmit available scheduler inst = (.failed, scheduler)) := by
  unfold testSchedulerSubmit
  rw [if_neg h]
  by_cases hfull : scheduler.pendingInstances.count ≥ maxTestInstances
  · rw [dif_pos hfull]
    exact Or.inr ⟨hfull, rfl⟩
  · rw [dif_neg hfull]
    exact Or.inl ⟨Nat.lt_of_not_le hfull, _, rfl, rfl, rfl, FixedTable.items_push ..⟩

/-- Below the limit `submit` never accepts: it appends, or fails when the list is full. -/
lemma testSchedulerSubmit_of_lt {scheduler : TestScheduler ι}
    (h : scheduler.runningInstances < scheduler.maxInstances) (available : ι → Bool) (inst : ι) :
    (scheduler.pendingInstances.count < maxTestInstances ∧
      ∃ scheduler', testSchedulerSubmit available scheduler inst = (.pending, scheduler') ∧
        scheduler'.runningInstances = scheduler.runningInstances ∧
        scheduler'.maxInstances = scheduler.maxInstances ∧
        scheduler'.pendingInstances.items = scheduler.pendingInstances.items ++ [some inst]) ∨
    (maxTestInstances ≤ scheduler.pendingInstances.count ∧
      testSchedulerSubmit available scheduler inst = (.failed, scheduler)) := by
  apply testSchedulerSubmit_of_not_accepted
  rintro ⟨hreached, -⟩
  exact absurd hreached (UInt32.not_le.mpr h)

/-- Some pending instance passes the resource check. -/
def TestScheduler.SomeAvailable (scheduler : TestScheduler ι) (available : ι → Bool) : Prop :=
  ∃ inst, some inst ∈ scheduler.pendingInstances.items ∧ available inst = true

/-- The scan finds a cell iff a pending instance passes the check. -/
lemma firstAvailable_isSome (available : ι → Bool) (scheduler : TestScheduler ι) :
    (firstAvailable available scheduler).isSome = true ↔ scheduler.SomeAvailable available := by
  unfold firstAvailable
  rw [List.find?_isSome, TestScheduler.SomeAvailable]
  simp only [TestScheduler.pendingAt, FixedTable.get?_eq_items, List.mem_range]
  constructor
  · rintro ⟨index, -, hany⟩
    rw [Option.any_eq_true] at hany
    obtain ⟨inst, hinst, havail⟩ := hany
    rw [Option.join_eq_some_iff] at hinst
    exact ⟨inst, List.mem_of_getElem? hinst, havail⟩
  · rintro ⟨inst, hmem, havail⟩
    obtain ⟨index, hindex, hget⟩ := List.mem_iff_getElem.mp hmem
    have hlen := scheduler.pendingInstances.length_items_le_count
    refine ⟨index, by omega, ?_⟩
    rw [List.getElem?_eq_getElem hindex, hget]
    exact havail

/-- `get_next_instance` promotes a pending instance that passes the check when the limit is not
reached and there is one; otherwise it changes nothing. -/
theorem testSchedulerGetNextInstance_spec (available : ι → Bool) (scheduler : TestScheduler ι) :
    (scheduler.runningInstances < scheduler.maxInstances ∧ scheduler.SomeAvailable available ∧
      ∃ inst scheduler', testSchedulerGetNextInstance available scheduler =
          (.accepted, some inst, scheduler') ∧
        available inst = true ∧ scheduler'.runningInstances = scheduler.runningInstances ∧
        scheduler'.maxInstances = scheduler.maxInstances) ∨
    ((scheduler.runningInstances < scheduler.maxInstances →
        ¬ scheduler.SomeAvailable available) ∧
      testSchedulerGetNextInstance available scheduler = (.pending, none, scheduler)) := by
  unfold testSchedulerGetNextInstance
  split_ifs with hrun
  · right
    exact ⟨fun hlt => absurd hrun (UInt32.not_le.mpr hlt), rfl⟩
  · have hsome := firstAvailable_isSome available scheduler
    cases hfind : firstAvailable available scheduler with
    | none =>
        right
        rw [hfind] at hsome
        exact ⟨fun _ hc => absurd (hsome.mpr hc) (by simp), rfl⟩
    | some index =>
        left
        have hany := List.find?_some hfind
        rw [Option.any_eq_true] at hany
        obtain ⟨inst, hinst, havail⟩ := hany
        rw [hfind] at hsome
        refine ⟨UInt32.not_le.mp hrun, hsome.mp rfl, inst,
          (testSchedulerRemovePending scheduler index).2, ?_, havail, ?_, ?_⟩
        · simp only [hinst]
        · unfold testSchedulerRemovePending
          split_ifs <;> rfl
        · unfold testSchedulerRemovePending
          split_ifs <;> rfl

/-- The whole call selects an entry and removes it. -/
lemma testSchedulerGetNextInstance_eq (available : ι → Bool) (scheduler : TestScheduler ι) :
    testSchedulerGetNextInstance available scheduler =
      match testSchedulerSelect available scheduler with
      | none => (.pending, none, scheduler)
      | some (index, inst) =>
          (.accepted, some inst, (testSchedulerRemovePending scheduler index).2) := by
  unfold testSchedulerGetNextInstance testSchedulerSelect
  split_ifs with hlimit
  · rfl
  · rcases hfind : firstAvailable available scheduler with _ | index
    · rfl
    · have hany := List.find?_some hfind
      rw [Option.any_eq_true] at hany
      obtain ⟨inst, hinst, -⟩ := hany
      simp only [Option.bind_some, hinst, Option.map_some]

/-- What is selected is an entry of the list. -/
lemma getElem?_of_select {available : ι → Bool} {scheduler : TestScheduler ι} {index : ℕ} {inst : ι}
    (h : testSchedulerSelect available scheduler = some (index, inst)) :
    scheduler.pendingInstances.items[index]? = some (some inst) := by
  unfold testSchedulerSelect at h
  split_ifs at h
  obtain ⟨found, -, hmap⟩ := Option.bind_eq_some_iff.mp h
  obtain ⟨p, hp, heq⟩ := Option.map_eq_some_iff.mp hmap
  obtain ⟨rfl, rfl⟩ := Prod.mk.inj heq
  rw [← FixedTable.get?_eq_items]
  exact Option.join_eq_some_iff.mp hp

/-- The removal takes the entry at the index from the list, if there is one. -/
lemma testSchedulerRemovePending_items {scheduler : TestScheduler ι}
    (h : scheduler.pendingInstances.WithinLimit) (index : ℕ) :
    (testSchedulerRemovePending scheduler index).2.pendingInstances.WithinLimit ∧
      (testSchedulerRemovePending scheduler index).2.pendingInstances.items =
        scheduler.pendingInstances.items.eraseIdx index := by
  unfold testSchedulerRemovePending
  split_ifs with hindex
  · refine ⟨h, (List.eraseIdx_of_length_le ?_).symm⟩
    rwa [h.length_items]
  · exact ⟨Nat.le_trans (Nat.sub_le _ _) h,
      FixedTable.items_removeAt h (Nat.lt_of_not_le hindex) none⟩

/-- A promotion takes the instance off the pending list; otherwise nothing changes. -/
lemma testSchedulerGetNextInstance_items (available : ι → Bool) {scheduler : TestScheduler ι}
    (h : scheduler.pendingInstances.WithinLimit) :
    (∃ index inst scheduler', testSchedulerGetNextInstance available scheduler =
        (.accepted, some inst, scheduler') ∧
      scheduler.pendingInstances.items[index]? = some (some inst) ∧
      scheduler'.pendingInstances.items = scheduler.pendingInstances.items.eraseIdx index ∧
      scheduler'.pendingInstances.WithinLimit) ∨
    testSchedulerGetNextInstance available scheduler = (.pending, none, scheduler) := by
  rw [testSchedulerGetNextInstance_eq]
  rcases hselect : testSchedulerSelect available scheduler with _ | ⟨index, inst⟩
  · exact Or.inr rfl
  · obtain ⟨hlimit, hitems⟩ := testSchedulerRemovePending_items h index
    exact Or.inl ⟨index, inst, _, rfl, getElem?_of_select hselect, hitems, hlimit⟩

/-- A submission that goes pending is stored behind the others; any other changes no list. -/
lemma testSchedulerSubmit_items (available : ι → Bool) {scheduler : TestScheduler ι} (inst : ι)
    (h : scheduler.pendingInstances.WithinLimit) :
    (testSchedulerSubmit available scheduler inst).2.pendingInstances.WithinLimit ∧
      (testSchedulerSubmit available scheduler inst).2.pendingInstances.items =
        scheduler.pendingInstances.items ++
          if (testSchedulerSubmit available scheduler inst).1 = .pending then [some inst] else [] := by
  unfold testSchedulerSubmit
  by_cases hrun : scheduler.runningInstances ≥ scheduler.maxInstances ∧ available inst = true
  · rw [if_pos hrun]
    exact ⟨h, by simp⟩
  · rw [if_neg hrun]
    by_cases hfull : scheduler.pendingInstances.count ≥ maxTestInstances
    · rw [dif_pos hfull]
      exact ⟨h, by simp⟩
    · rw [dif_neg hfull]
      exact ⟨Nat.lt_of_not_le hfull, by simp⟩

/-! ## Parallelism accounting -/

/-- A scheduler together with the instances that one of its calls accepted and that have not
finished. -/
structure Accounting (ι : Type*) where
  scheduler : TestScheduler ι
  unfinished : List ι

/-- A call, with the availability of the resources at that moment, or the end of the `k`-th
unfinished instance in `test_engine_worker` (which tells the scheduler nothing). -/
inductive SchedulerEvent (ι : Type*)
  | submit (available : ι → Bool) (inst : ι)
  | getNext (available : ι → Bool)
  | finish (k : ℕ)

/-- One event. -/
def accountingStep (a : Accounting ι) : SchedulerEvent ι → Option (Accounting ι)
  | .submit available inst =>
      let r := testSchedulerSubmit available a.scheduler inst
      some ⟨r.2, if r.1 = .accepted then a.unfinished ++ [inst] else a.unfinished⟩
  | .getNext available =>
      let r := testSchedulerGetNextInstance available a.scheduler
      some ⟨r.2.2, if r.1 = .accepted then a.unfinished ++ r.2.1.toList else a.unfinished⟩
  | .finish k =>
      if k < a.unfinished.length then some ⟨a.scheduler, a.unfinished.eraseIdx k⟩ else none

/-- The counter is the number of accepted, unfinished instances, and within the limit. -/
def Accounting.Accounted (a : Accounting ι) : Prop :=
  a.scheduler.runningInstances.toNat = a.unfinished.length ∧
    a.unfinished.length ≤ a.scheduler.maxInstances.toNat

instance (a : Accounting ι) : Decidable a.Accounted := inferInstanceAs (Decidable (_ ∧ _))

/-- The event is not a `get_next_instance` that has a pending instance to promote. -/
def NothingToPromote (a : Accounting ι) (e : SchedulerEvent ι) : Prop :=
  ∀ available, e = .getNext available →
    a.scheduler.runningInstances < a.scheduler.maxInstances → ¬ a.scheduler.SomeAvailable available

/-- Nothing was ever accepted. -/
structure Accounting.Unused (a : Accounting ι) : Prop where
  running : a.scheduler.runningInstances = 0
  limit : 0 < a.scheduler.maxInstances
  unfinished : a.unfinished = []

/-- An event that promotes nothing accepts nothing. -/
lemma Accounting.Unused.step {a a' : Accounting ι} {e : SchedulerEvent ι} (h : a.Unused)
    (hkeep : NothingToPromote a e) (hstep : accountingStep a e = some a') : a'.Unused := by
  have hlt : a.scheduler.runningInstances < a.scheduler.maxInstances := by
    rw [h.running]
    exact h.limit
  cases e with
  | submit available inst =>
      cases hstep
      rcases testSchedulerSubmit_of_lt hlt available inst with ⟨-, s', hs', hrun, hmax, -⟩ | ⟨-, hs'⟩
      · rw [hs']
        exact ⟨hrun.trans h.running, hmax ▸ h.limit, h.unfinished⟩
      · rw [hs']
        exact ⟨h.running, h.limit, h.unfinished⟩
  | getNext available =>
      cases hstep
      rcases testSchedulerGetNextInstance_spec available a.scheduler with ⟨-, hsome, -⟩ | ⟨-, hs'⟩
      · exact absurd hsome (hkeep available rfl hlt)
      · rw [hs']
        exact ⟨h.running, h.limit, h.unfinished⟩
  | finish k =>
      unfold accountingStep at hstep
      rw [h.unfinished] at hstep
      cases hstep

/-- An unused scheduler accounts for everything. -/
lemma Accounting.Unused.accounted {a : Accounting ι} (h : a.Unused) : a.Accounted := by
  unfold Accounting.Accounted
  rw [h.running, h.unfinished]
  exact ⟨rfl, Nat.zero_le _⟩

/-- A promotion is not counted. -/
lemma Accounting.Unused.not_accounted {a a' : Accounting ι} {e : SchedulerEvent ι} (h : a.Unused)
    (hpromote : ¬ NothingToPromote a e) (hstep : accountingStep a e = some a') :
    ¬ a'.Accounted := by
  unfold NothingToPromote at hpromote
  push Not at hpromote
  obtain ⟨available, rfl, hlt, hsome⟩ := hpromote
  cases hstep
  rcases testSchedulerGetNextInstance_spec available a.scheduler with
    ⟨-, -, inst, s', hs', -, hrun, -⟩ | ⟨hno, -⟩
  · unfold Accounting.Accounted
    rw [hs', hrun, h.running, h.unfinished]
    simp
  · exact absurd hsome (hno hlt)

/-- **Parallelism accounting.** For every limit `≥ 1`, every availability of resources and every
run of calls and completions that starts with nothing running and nothing pending: the counter is
at all times the number of accepted, unfinished instances, and within the limit, if and only if
no `get_next_instance` of the run has an instance to promote.
Source: `services/test-scheduler.c`, `test_scheduler_submit`, `test_scheduler_get_next_instance` -/
theorem accounted_iff {scheduler : TestScheduler ι} (hlimit : 1 ≤ scheduler.maxInstances)
    (hrunning : scheduler.runningInstances = 0)
    {tr : List (Accounting ι × SchedulerEvent ι)} {a : Accounting ι}
    (hrun : Run (stepOf accountingStep) ⟨scheduler, []⟩ tr a) :
    (∀ b, Visits tr a b → b.Accounted) ↔ ∀ p ∈ tr, NothingToPromote p.1 p.2 := by
  have hpos : 0 < scheduler.maxInstances := UInt32.lt_of_lt_of_le (by decide) hlimit
  exact hrun.always_iff_along (I := Accounting.Unused) ⟨hrunning, hpos, rfl⟩
    (fun _ _ _ h hkeep hstep => h.step hkeep hstep) (fun _ h => h.accounted)
    (fun _ _ _ h hpromote hstep => h.not_accounted hpromote hstep)

/-- A scheduler with nothing running and nothing pending. -/
def idleScheduler (maxInstances : UInt32) : TestScheduler ι where
  maxInstances := maxInstances
  runningInstances := 0
  pendingInstances := .ofList _ none []

/-- While the resources of instance 7 are busy it stays pending, and the books are right. -/
theorem accounted_iff_busy :
    ∃ tr a, Run (stepOf accountingStep) ⟨idleScheduler 1, []⟩ tr a ∧
      tr.map Prod.snd = [.submit (fun _ => false) 7, .getNext fun _ => false] ∧
      ∀ b, Visits tr a b → b.Accounted := by
  have hrun : Run (stepOf accountingStep) ⟨idleScheduler 1, []⟩ _ _ :=
    run_of_exec [.submit (fun _ => false) 7, .getNext fun _ => false] rfl
  refine ⟨_, _, hrun, rfl, (accounted_iff (by decide) rfl hrun).mpr ?_⟩
  intro p hp available hnext _ hsome
  have hlabel : p.2 ∈ [.submit (fun _ => false) 7, .getNext fun _ => false] :=
    List.mem_map_of_mem (f := Prod.snd) hp
  rw [hnext] at hlabel
  simp only [List.mem_cons, List.not_mem_nil, or_false, reduceCtorEq, false_or,
    SchedulerEvent.getNext.injEq] at hlabel
  obtain ⟨_, _, havail⟩ := hsome
  rw [hlabel] at havail
  cases havail

/-- One test, its devices free all the time, a limit of one: `submit` leaves it pending,
`get_next_instance` accepts it, and the counter still says that nothing runs. -/
theorem promotion_not_counted :
    ∃ a, Reachable (stepOf accountingStep) ⟨idleScheduler 1, ([] : List ℕ)⟩ a ∧
      a.unfinished = [7] ∧ ¬ a.Accounted :=
  exists_reachable_of_exec [.submit (fun _ => true) 7, .getNext fun _ => true] rfl

end HardwareTest
