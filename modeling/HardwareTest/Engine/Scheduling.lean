import HardwareTest.Engine.State
import Mathlib.Data.List.Perm.Basic
import Mathlib.Data.Multiset.AddSub

/-!
# Admission and the pending list

* `AdmittedRightly`: what the header of `test_scheduler_submit` describes. `submit` compares the
  slot count the wrong way round, so it does this only for instances that cannot start anyway
  (`submit_admits_iff`).
* `ScansByPriority`: what `test_scheduler_get_next_instance` does with the pending list, on every
  state of the scheduler and every availability of the resources.
* `PendingRecord`: the calls of the two functions in any order, with the instances that went
  pending and the ones that were returned; `pendingList_keeps` says that none is lost or doubled.
-/

namespace HardwareTest

open Lib

variable {ι : Type*}

/-! ## Admission -/

/-- A slot is free and the resources of the instance are. -/
def TestScheduler.CanStart (scheduler : TestScheduler ι) (available : ι → Bool) (inst : ι) : Prop :=
  scheduler.runningInstances < scheduler.maxInstances ∧ available inst = true

/-- **Admission**: an instance that can start is accepted and counted; any other is appended to the
pending list, or refused without a change when the list is full. -/
structure AdmittedRightly (available : ι → Bool) (scheduler : TestScheduler ι) (inst : ι)
    (r : TestScheduleResult × TestScheduler ι) : Prop where
  accepted : (r.1 = .accepted ∧
      r.2 = { scheduler with runningInstances := scheduler.runningInstances + 1 }) ↔
    scheduler.CanStart available inst
  pending : ¬ scheduler.CanStart available inst →
    scheduler.pendingInstances.count < maxTestInstances →
      r.1 = .pending ∧ r.2.pendingInstances.items =
          scheduler.pendingInstances.items ++ [some inst] ∧
        r.2.runningInstances = scheduler.runningInstances ∧
        r.2.maxInstances = scheduler.maxInstances
  failed : ¬ scheduler.CanStart available inst →
    scheduler.pendingInstances.count = maxTestInstances → r = (.failed, scheduler)

section submit

variable {available : ι → Bool} {scheduler : TestScheduler ι} {inst : ι}

/-- An instance without free resources is treated as described. -/
lemma admittedRightly_of_unavailable (h : available inst = false) :
    AdmittedRightly available scheduler inst (testSchedulerSubmit available scheduler inst) := by
  have hcannot : ¬ scheduler.CanStart available inst := by
    rintro ⟨-, hfree⟩
    rw [h] at hfree
    cases hfree
  have hskip : ¬ (scheduler.runningInstances ≥ scheduler.maxInstances ∧
      available inst = true) := by
    rintro ⟨-, hfree⟩
    rw [h] at hfree
    cases hfree
  rcases testSchedulerSubmit_of_not_accepted hskip with
    ⟨hroom, scheduler', hs', hrun, hmax, hitems⟩ | ⟨hfull, hs'⟩
  · rw [hs']
    refine ⟨iff_of_false (by simp) hcannot, fun _ _ => ⟨rfl, hitems, hrun, hmax⟩, ?_⟩
    intro _ hfull
    omega
  · rw [hs']
    refine ⟨iff_of_false (by simp) hcannot, ?_, fun _ _ => rfl⟩
    intro _ hroom
    omega

/-- An instance whose resources are free is accepted when no slot is, and not accepted when one
is. -/
lemma not_admittedRightly_of_available (h : available inst = true) :
    ¬ AdmittedRightly available scheduler inst (testSchedulerSubmit available scheduler inst) := by
  intro hright
  by_cases hslot : scheduler.runningInstances < scheduler.maxInstances
  · have haccepted := (hright.accepted.mpr ⟨hslot, h⟩).1
    rcases testSchedulerSubmit_of_lt hslot available inst with ⟨-, scheduler', hs', -⟩ | ⟨-, hs'⟩
    · rw [hs'] at haccepted
      cases haccepted
    · rw [hs'] at haccepted
      cases haccepted
  · have haccepted : testSchedulerSubmit available scheduler inst =
        (.accepted, { scheduler with runningInstances := scheduler.runningInstances + 1 }) :=
      if_pos ⟨UInt32.not_lt.mp hslot, h⟩
    have hcan := hright.accepted.mp (by rw [haccepted]; exact ⟨rfl, rfl⟩)
    exact hslot hcan.1

end submit

/-- **Admission is right** exactly for the instances that fail the resource check.
Source: `services/test-scheduler.c`, `test_scheduler_submit` -/
theorem submit_admits_iff (e : TestEngine) (inst : InstancePtr) :
    AdmittedRightly e.checkResource e.scheduler inst
        (testSchedulerSubmit e.checkResource e.scheduler inst) ↔ e.checkResource inst = false := by
  rcases h : e.checkResource inst with _ | _
  · simp [admittedRightly_of_unavailable h]
  · simp [not_admittedRightly_of_available h]

/-- The one-LED engine inside a call that has filled its local instance. -/
def submittingLed : TestEngine :=
  ledEngine.updateInstance (.frame 0) fun _ =>
    ledEngine.localInstance 0 (cstr "status_indication_test")

/-- With eight slots and the LED free, the instance is not accepted. -/
theorem ledInstance_not_admitted :
    ¬ AdmittedRightly submittingLed.checkResource submittingLed.scheduler (.frame 0)
      (testSchedulerSubmit submittingLed.checkResource submittingLed.scheduler (.frame 0)) := by
  intro hright
  have haccepted := (hright.accepted.mpr ⟨by decide, by decide⟩).1
  exact absurd haccepted (by decide)

/-! ## The pending list -/

/-- **A priority scan**: exactly when a slot is free and some pending instance passes the check, the
earliest such instance is returned and taken off the list; otherwise nothing changes. -/
structure ScansByPriority (available : ι → Bool) (scheduler : TestScheduler ι)
    (r : TestScheduleResult × Option ι × TestScheduler ι) : Prop where
  accepted_iff : r.1 = .accepted ↔
    scheduler.runningInstances < scheduler.maxInstances ∧ scheduler.SomeAvailable available
  earliest : r.1 = .accepted → ∃ index inst,
    scheduler.pendingInstances.items[index]? = some (some inst) ∧ available inst = true ∧
      (∀ j < index, ∀ other, scheduler.pendingInstances.items[j]? = some (some other) →
        available other = false) ∧
      r.2.1 = some inst ∧
      r.2.2.pendingInstances.items = scheduler.pendingInstances.items.eraseIdx index ∧
      r.2.2.runningInstances = scheduler.runningInstances ∧
      r.2.2.maxInstances = scheduler.maxInstances
  otherwise : r.1 ≠ .accepted → r = (.pending, none, scheduler)

/-- What the scan finds is the earliest pending instance that passes the check. -/
lemma firstAvailable_eq_some {available : ι → Bool} {scheduler : TestScheduler ι} {index : ℕ}
    (h : firstAvailable available scheduler = some index) :
    index < scheduler.pendingInstances.count ∧
      (∃ inst, scheduler.pendingInstances.items[index]? = some (some inst) ∧
        available inst = true) ∧
      ∀ j < index, ∀ other, scheduler.pendingInstances.items[j]? = some (some other) →
        available other = false := by
  unfold firstAvailable at h
  rw [List.find?_range_eq_some] at h
  obtain ⟨hany, hindex, hbefore⟩ := h
  simp only [TestScheduler.pendingAt, FixedTable.get?_eq_items] at hany hbefore
  refine ⟨List.mem_range.mp hindex, ?_, ?_⟩
  · rw [Option.any_eq_true] at hany
    obtain ⟨inst, hinst, hfree⟩ := hany
    exact ⟨inst, Option.join_eq_some_iff.mp hinst, hfree⟩
  · intro j hj other hother
    have hskipped := hbefore j hj
    rw [hother] at hskipped
    simpa using hskipped

/-- `get_next_instance` is a priority scan. -/
lemma scansByPriority_getNextInstance {scheduler : TestScheduler ι}
    (h : scheduler.pendingInstances.WithinLimit) (available : ι → Bool) :
    ScansByPriority available scheduler (testSchedulerGetNextInstance available scheduler) := by
  have hsome := firstAvailable_isSome available scheduler
  unfold testSchedulerGetNextInstance
  split_ifs with hrun
  · refine ⟨iff_of_false (by simp) ?_, nofun, fun _ => rfl⟩
    rintro ⟨hslot, -⟩
    exact absurd hrun (UInt32.not_le.mpr hslot)
  · rcases hfind : firstAvailable available scheduler with _ | index
    · refine ⟨iff_of_false (by simp) ?_, nofun, fun _ => rfl⟩
      rintro ⟨-, hpending⟩
      have hfound := hsome.mpr hpending
      rw [hfind] at hfound
      cases hfound
    · obtain ⟨hindex, ⟨inst, hinst, hfree⟩, hearliest⟩ := firstAvailable_eq_some hfind
      rw [hfind] at hsome
      have hpending : scheduler.pendingAt index = some inst := by
        unfold TestScheduler.pendingAt
        rw [FixedTable.get?_eq_items, hinst]
        rfl
      have hremove : (testSchedulerRemovePending scheduler index).2 =
          { scheduler with
            pendingInstances := scheduler.pendingInstances.removeAt index none } := by
        unfold testSchedulerRemovePending
        rw [if_neg (Nat.not_le.mpr hindex)]
      simp only [hpending, hremove]
      refine ⟨iff_of_true rfl ⟨UInt32.not_le.mp hrun, hsome.mp rfl⟩, fun _ => ?_, ?_⟩
      · exact ⟨index, inst, hinst, hfree, hearliest, rfl, FixedTable.items_removeAt h hindex none,
          rfl, rfl⟩
      · intro hne
        exact absurd rfl hne

/-! ## Any sequence of calls -/

/-- The scheduler, the instances that went pending and the ones that were returned. -/
structure PendingRecord (ι : Type*) where
  scheduler : TestScheduler ι
  pended : List ι
  returned : List ι

/-- A call, with the availability of the resources at that moment. -/
inductive SchedulerCall (ι : Type*)
  | submit (available : ι → Bool) (inst : ι)
  | getNext (available : ι → Bool)

/-- One call. -/
def PendingRecord.call (r : PendingRecord ι) : SchedulerCall ι → PendingRecord ι
  | .submit available inst =>
      let s := testSchedulerSubmit available r.scheduler inst
      { r with
        scheduler := s.2
        pended := if s.1 = .pending then r.pended ++ [inst] else r.pended }
  | .getNext available =>
      let s := testSchedulerGetNextInstance available r.scheduler
      { r with scheduler := s.2.2, returned := r.returned ++ s.2.1.toList }

/-- The pending list of a scheduler is within its array, and with what was returned it makes up
what was pending before and what went pending. -/
structure PendingRecord.Balanced (before : List (Option ι)) (r : PendingRecord ι) : Prop where
  limit : r.scheduler.pendingInstances.WithinLimit
  balance : (before ++ r.pended.map some).Perm
    (r.returned.map some ++ r.scheduler.pendingInstances.items)

/-- Taking an element out of a list leaves it and the others. -/
lemma perm_cons_eraseIdx {α : Type*} {l : List α} {i : ℕ} {a : α} (h : l[i]? = some a) :
    l.Perm (a :: l.eraseIdx i) := by
  obtain ⟨hi, rfl⟩ := List.getElem?_eq_some_iff.mp h
  exact (List.getElem_cons_eraseIdx_perm hi).symm

/-- **Step.** No call loses or doubles an instance. -/
lemma PendingRecord.Balanced.call {before : List (Option ι)} {r : PendingRecord ι}
    (h : r.Balanced before) (c : SchedulerCall ι) : (r.call c).Balanced before := by
  rcases c with ⟨available, inst⟩ | ⟨available⟩
  · obtain ⟨hlimit, hitems⟩ := testSchedulerSubmit_items available inst h.limit
    refine ⟨hlimit, ?_⟩
    unfold PendingRecord.call
    simp only
    rw [hitems]
    split_ifs
    · rw [List.map_append, List.map_singleton, ← List.append_assoc, ← List.append_assoc]
      exact h.balance.append_right _
    · rw [List.append_nil]
      exact h.balance
  · unfold PendingRecord.call
    rcases testSchedulerGetNextInstance_items available h.limit with
      ⟨index, inst, scheduler', hnext, hget, hitems, hlimit⟩ | hnext
    · simp only [hnext]
      refine ⟨hlimit, ?_⟩
      simp only [hitems, Option.toList_some, List.map_append, List.map_singleton]
      rw [List.append_assoc, List.singleton_append]
      exact h.balance.trans ((perm_cons_eraseIdx hget).append_left _)
    · simp only [hnext, Option.toList_none, List.append_nil]
      exact h

/-- **Run.** Any sequence of calls keeps the balance. -/
lemma PendingRecord.Balanced.calls {before : List (Option ι)} {r : PendingRecord ι}
    (h : r.Balanced before) (calls : List (SchedulerCall ι)) :
    (calls.foldl PendingRecord.call r).Balanced before := by
  induction calls generalizing r with
  | nil => exact h
  | cons c calls ih => exact ih (h.call c)

/-- **The pending list is a priority scan without loss.** For every state of the scheduler within
its array and every availability of the resources `get_next_instance` scans by priority; and over
any sequence of calls the instances that were pending or went pending are the ones returned and the
ones still listed, each as often as it was submitted.
Source: `services/test-scheduler.c`, `test_scheduler_get_next_instance`,
`test_scheduler_remove_pending` -/
theorem pendingList_keeps {scheduler : TestScheduler ι}
    (h : scheduler.pendingInstances.WithinLimit) :
    (∀ available, ScansByPriority available scheduler
      (testSchedulerGetNextInstance available scheduler)) ∧
    ∀ calls : List (SchedulerCall ι),
      let r := calls.foldl PendingRecord.call ⟨scheduler, [], []⟩
      (scheduler.pendingInstances.items ++ r.pended.map some).Perm
        (r.returned.map some ++ r.scheduler.pendingInstances.items) := by
  refine ⟨scansByPriority_getNextInstance h, fun calls => ?_⟩
  have hstart : PendingRecord.Balanced scheduler.pendingInstances.items ⟨scheduler, [], []⟩ :=
    ⟨h, by simp⟩
  exact (hstart.calls calls).balance

/-- The scheduler with two slots on which instances 3, 5 and again 3 go pending, after which only
the resources of 5 are free. -/
def pendingThree : PendingRecord ℕ :=
  [.submit (fun _ => false) 3, .submit (fun _ => false) 5, .submit (fun _ => false) 3,
    .getNext fun i => i == 5].foldl PendingRecord.call ⟨idleScheduler 2, [], []⟩

/-- Instance 5 is returned, and what went pending is accounted for. -/
theorem pendingList_keeps_three :
    pendingThree.returned = [5] ∧
      ([some 3, some 5, some 3] : List (Option ℕ)).Perm
        ([some 5] ++ pendingThree.scheduler.pendingInstances.items) := by
  have hlimit : (idleScheduler 2 : TestScheduler ℕ).pendingInstances.WithinLimit := by decide
  have hkeeps : ((idleScheduler 2 : TestScheduler ℕ).pendingInstances.items ++
      pendingThree.pended.map some).Perm
        (pendingThree.returned.map some ++ pendingThree.scheduler.pendingInstances.items) :=
    (pendingList_keeps hlimit).2 _
  have hnone : (idleScheduler 2 : TestScheduler ℕ).pendingInstances.items = [] := rfl
  have hpended : pendingThree.pended = [3, 5, 3] := rfl
  have hreturned : pendingThree.returned = [5] := rfl
  rw [hnone, hpended, hreturned] at hkeeps
  exact ⟨hreturned, hkeeps⟩

end HardwareTest
