import HardwareTest.Engine.Step

/-!
# Device exclusion between workers

* `DevicesExclusive`: no two workers run instances whose functions share a device.
* `acquireGranted`: the condition on a step that the code does not check: when it is an
  `acquire`, all devices of the function are free.
* `devicesExclusive_of_granted`: a run of any number of workers all of whose steps meet it keeps
  the devices exclusive; `acquire_ignored` shows that the condition is needed.

The invariant (`Exclusive`) is that the workers between `acquire` and `release` hold all devices
of their functions in the resource table, and no device twice.
-/

namespace HardwareTest

open Lib

variable {ω : Type*}

/-- The instance and the function of a worker between `acquire` and the end of `release`. -/
def WorkerPc.holding : WorkerPc → Option (InstancePtr × CString)
  | .starting inst function => some (inst, function)
  | .running inst function => some (inst, function)
  | .releasing inst function => some (inst, function)
  | _ => none

/-- The instance of a worker and the function it looked up for it. -/
def WorkerPc.assigned : WorkerPc → Option (InstancePtr × CString)
  | .acquiring inst function => some (inst, function)
  | pc => pc.holding

/-- What a worker holds was assigned to it. -/
lemma WorkerPc.assigned_of_holding {pc : WorkerPc} {q : InstancePtr × CString}
    (h : pc.holding = some q) : pc.assigned = some q := by
  cases pc with
  | acquiring => cases h
  | _ => exact h

/-- The devices of a function. -/
def TestEngine.devices (e : TestEngine) (function : CString) : List CString :=
  e.resourceManager.functionManager.deviceKeys function

/-- **Mutual exclusion**: two workers inside `test_engine_run_instance` have instances whose
functions share no device. -/
def DevicesExclusive (s : EngineSystem ω) : Prop :=
  ∀ v w p q f g, v ≠ w → s.workers v = .running p f → s.workers w = .running q g →
    ∀ d ∈ s.engine.devices (s.engine.functionName p), d ∉ s.engine.devices (s.engine.functionName q)

/-- When the next step of the worker is an `acquire`, all devices of the function are free. -/
def acquireGranted (s : EngineSystem ω) (w : ω) : Bool :=
  match s.workers w with
  | .acquiring _ function =>
      (s.engine.devices function).all (deviceFree s.engine.resourceManager)
  | _ => true

/-- The invariant. -/
structure Exclusive (s : EngineSystem ω) : Prop where
  functions : s.engine.resourceManager.functionManager.AllAvailable
  registered : ∀ f, ∀ d ∈ s.engine.devices f, slot s.engine.resourceManager d ≠ .absent
  lookedUp : ∀ w p f, (s.workers w).assigned = some (p, f) → s.engine.functionName p = f
  held : ∀ w p f, (s.workers w).holding = some (p, f) →
    ∀ d ∈ s.engine.devices f, slot s.engine.resourceManager d = .held (some p)
  disjoint : ∀ v w p q f g, v ≠ w → (s.workers v).holding = some (p, f) →
    (s.workers w).holding = some (q, g) → ∀ d ∈ s.engine.devices f, d ∉ s.engine.devices g

/-- The invariant gives exclusion. -/
lemma Exclusive.devicesExclusive {s : EngineSystem ω} (h : Exclusive s) : DevicesExclusive s := by
  intro v w p q f g hne hv hw
  have hv' : (s.workers v).holding = some (p, f) := by rw [hv]; rfl
  have hw' : (s.workers w).holding = some (q, g) := by rw [hw]; rfl
  rw [h.lookedUp v p f (WorkerPc.assigned_of_holding hv'),
    h.lookedUp w q g (WorkerPc.assigned_of_holding hw')]
  exact h.disjoint v w p q f g hne hv' hw'

/-- A table with a device on it is not empty. -/
lemma Exclusive.nonempty {s : EngineSystem ω} (h : Exclusive s) (f : CString) :
    ∀ d ∈ s.engine.resourceManager.functionManager.deviceKeys f,
      0 < s.engine.resourceManager.resources.length := by
  intro d hd
  rw [List.length_pos_iff]
  intro hnil
  apply h.registered f d hd
  unfold slot
  rw [hnil, lookup_nil]

variable [DecidableEq ω]

/-- What is read from a worker after a step of `w` is read from the new place of `w`, or from where
another worker was. -/
lemma goto_workers_cases {β : Type*} (read : WorkerPc → β) {s : EngineSystem ω} {w v : ω}
    {pc : WorkerPc} {b : β} (h : read ((s.goto w pc).workers v) = b) :
    (v = w ∧ read pc = b) ∨ (v ≠ w ∧ read (s.workers v) = b) := by
  by_cases hvw : v = w
  · subst hvw
    rw [goto_workers_self] at h
    exact .inl ⟨rfl, h⟩
  · rw [goto_workers_of_ne _ _ hvw] at h
    exact .inr ⟨hvw, h⟩

/-- Steps of one worker that leave the table and the lookups alone keep the invariant, when the
worker does not come to hold anything new. -/
lemma Exclusive.of_sameTable {s : EngineSystem ω} (h : Exclusive s) {e : TestEngine} {w : ω}
    {pc : WorkerPc} {subs : List Submission} (htable : e.resourceManager = s.engine.resourceManager)
    (hname : ∀ p, e.functionName p = s.engine.functionName p)
    (hassigned : ∀ p f, pc.assigned = some (p, f) → s.engine.functionName p = f)
    (hholding : pc.holding = none ∨ pc.holding = (s.workers w).holding) :
    Exclusive ({ s with engine := e, submissions := subs }.goto w pc) := by
  have hdevices : ∀ f, e.devices f = s.engine.devices f := by
    intro f
    rw [TestEngine.devices, TestEngine.devices, htable]
  -- what a worker holds afterwards it held before
  have hbefore : ∀ v q,
      (({ s with engine := e, submissions := subs }.goto w pc).workers v).holding = some q →
      (s.workers v).holding = some q := by
    intro v q hq
    rcases goto_workers_cases WorkerPc.holding hq with ⟨rfl, hpc⟩ | ⟨-, hold⟩
    · rcases hholding with hnone | hsame
      · rw [hnone] at hpc
        cases hpc
      · rw [← hsame, hpc]
    · exact hold
  refine ⟨?_, ?_, ?_, ?_, ?_⟩
  · rw [goto_engine, htable]
    exact h.functions
  · intro f d hd
    rw [goto_engine, htable]
    rw [goto_engine, hdevices] at hd
    exact h.registered f d hd
  · intro v p f hv
    rw [goto_engine, hname]
    rcases goto_workers_cases WorkerPc.assigned hv with ⟨-, hpc⟩ | ⟨-, hold⟩
    · exact hassigned p f hpc
    · exact h.lookedUp v p f hold
  · intro v p f hv d hd
    rw [goto_engine, hdevices] at hd
    rw [goto_engine, htable]
    exact h.held v p f (hbefore v _ hv) d hd
  · intro u v p q f g hne hu hv d hd
    rw [goto_engine, hdevices] at hd ⊢
    exact h.disjoint u v p q f g hne (hbefore u _ hu) (hbefore v _ hv) d hd

/-- Such a step after which the worker has no function keeps the invariant. -/
lemma Exclusive.of_unassigned {s : EngineSystem ω} (h : Exclusive s) {e : TestEngine} {w : ω}
    {pc : WorkerPc} (htable : e.resourceManager = s.engine.resourceManager)
    (hname : ∀ p, e.functionName p = s.engine.functionName p) (hpc : pc.assigned = none) :
    Exclusive ({ s with engine := e }.goto w pc) := by
  refine h.of_sameTable htable hname ?_ (Or.inl ?_)
  · intro p f hq
    rw [hpc] at hq
    cases hq
  · cases hholding : pc.holding with
    | none => rfl
    | some q =>
        rw [WorkerPc.assigned_of_holding hholding] at hpc
        cases hpc

/-- Such a step in which the worker keeps what it holds keeps the invariant. -/
lemma Exclusive.of_kept {s : EngineSystem ω} (h : Exclusive s) {e : TestEngine} {w : ω}
    {pc : WorkerPc} {subs : List Submission} (htable : e.resourceManager = s.engine.resourceManager)
    (hname : ∀ p, e.functionName p = s.engine.functionName p)
    (hassigned : pc.assigned = (s.workers w).assigned)
    (hholding : pc.holding = (s.workers w).holding) :
    Exclusive ({ s with engine := e, submissions := subs }.goto w pc) := by
  refine h.of_sameTable htable hname ?_ (Or.inr hholding)
  intro p f hq
  rw [hassigned] at hq
  exact h.lookedUp w p f hq

omit [DecidableEq ω] in
/-- A granted acquire takes the devices of the function, all of which are free. -/
lemma acquire_takes {s : EngineSystem ω} (h : Exclusive s) {w : ω} {p : InstancePtr} {f : CString}
    (hw : s.workers w = .acquiring p f) (hgranted : acquireGranted s w = true) {code : ℤ}
    {m : ResourceManager InstancePtr}
    (hm : resourceManagerAcquire s.engine.resourceManager f p = some (code, m)) :
    (slot s.engine.resourceManager).CanTake (s.engine.devices f) ∧
      m.functionManager = s.engine.resourceManager.functionManager ∧
      slot m = (slot s.engine.resourceManager).take (s.engine.devices f) (some p) := by
  have hfree : (slot s.engine.resourceManager).CanTake (s.engine.devices f) := by
    intro d hd
    unfold acquireGranted at hgranted
    rw [hw, List.all_eq_true] at hgranted
    rw [← deviceFree_iff]
    exact hgranted d hd
  obtain ⟨code', m', hm', hu, -⟩ :=
    resourceManagerAcquire_spec h.functions f (h.nonempty f) p
  obtain ⟨rfl, rfl⟩ : code' = code ∧ m' = m := by simpa [hm, eq_comm] using hm'
  refine ⟨hfree, hu.functionManager, ?_⟩
  rw [hu.slots, Holdings.after]
  exact if_pos hfree

/-- A granted acquire keeps the invariant. -/
lemma Exclusive.acquire {s : EngineSystem ω} (h : Exclusive s) {w : ω} {p : InstancePtr}
    {f : CString} (hw : s.workers w = .acquiring p f) (hgranted : acquireGranted s w = true)
    {code : ℤ} {m : ResourceManager InstancePtr}
    (hm : resourceManagerAcquire s.engine.resourceManager f p = some (code, m)) :
    Exclusive ({ s with engine := { s.engine with resourceManager := m } }.goto w
      (.starting p f)) := by
  obtain ⟨hfree, hfunctions, hslots⟩ := acquire_takes h hw hgranted hm
  -- the devices of the function are nobody's
  have hnobody : ∀ v q g, (s.workers v).holding = some (q, g) → ∀ d ∈ s.engine.devices g,
      d ∉ s.engine.devices f := by
    intro v q g hv d hd hdf
    exact Holdings.not_canTake hdf (h.held v q g hv d hd) hfree
  refine ⟨?_, ?_, ?_, ?_, ?_⟩
  all_goals simp only [goto_engine, TestEngine.devices, hfunctions]
  · exact h.functions
  · intro g d hd
    rw [hslots]
    exact Holdings.take_ne_absent (h.registered g d hd)
  · intro v q g hv
    apply h.lookedUp v q g
    rcases goto_workers_cases WorkerPc.assigned hv with ⟨rfl, hpc⟩ | ⟨-, hold⟩
    · rw [hw]
      exact hpc
    · exact hold
  · intro v q g hv d hd
    rw [hslots]
    rcases goto_workers_cases WorkerPc.holding hv with ⟨-, hpc⟩ | ⟨-, hold⟩
    · cases hpc
      exact Holdings.take_of_mem hd
    · rw [Holdings.take_of_notMem (hnobody v q g hold d hd)]
      exact h.held v q g hold d hd
  · intro u v q r g k hne hu hv d hd hd'
    rcases goto_workers_cases WorkerPc.holding hu with ⟨huw, hpc⟩ | ⟨-, holdu⟩
    · -- the worker that acquires, and another one
      cases hpc
      rcases goto_workers_cases WorkerPc.holding hv with ⟨hvw, -⟩ | ⟨-, holdv⟩
      · exact hne (huw.trans hvw.symm)
      · exact hnobody v r k holdv d hd' hd
    · rcases goto_workers_cases WorkerPc.holding hv with ⟨-, hpc⟩ | ⟨-, holdv⟩
      · cases hpc
        exact hnobody u q g holdu d hd hd'
      · exact h.disjoint u v q r g k hne holdu holdv d hd hd'

/-- A release keeps the invariant: it frees no device of another worker. -/
lemma Exclusive.release {s : EngineSystem ω} (h : Exclusive s) {w : ω} {p : InstancePtr}
    {f : CString} (hw : s.workers w = .releasing p f) :
    Exclusive ({ s with engine := { s.engine with
      resourceManager := (resourceManagerRelease s.engine.resourceManager f p).2 } }.goto w
        .scheduling) := by
  obtain ⟨m, hm, hu⟩ := resourceManagerRelease_spec h.functions f (h.nonempty f) p
  have hholds : (s.workers w).holding = some (p, f) := by rw [hw]; rfl
  have hbefore : ∀ v q, (({ s with engine := { s.engine with resourceManager := m } }.goto w
      .scheduling).workers v).holding = some q → v ≠ w ∧ (s.workers v).holding = some q := by
    intro v q hv
    rcases goto_workers_cases WorkerPc.holding hv with ⟨-, hpc⟩ | hold
    · cases hpc
    · exact hold
  rw [hm]
  refine ⟨?_, ?_, ?_, ?_, ?_⟩
  all_goals simp only [goto_engine, TestEngine.devices, hu.functionManager]
  · exact h.functions
  · intro g d hd
    rw [hu.slots]
    exact Holdings.drop_ne_absent (h.registered g d hd)
  · intro v q g hv
    rcases goto_workers_cases WorkerPc.assigned hv with ⟨-, hpc⟩ | ⟨-, hold⟩
    · cases hpc
    · exact h.lookedUp v q g hold
  · intro v q g hv d hd
    obtain ⟨hvw, hv⟩ := hbefore v _ hv
    have hdf : d ∉ s.engine.resourceManager.functionManager.deviceKeys f :=
      h.disjoint v w q p g f hvw hv hholds d hd
    rw [hu.slots, Holdings.drop_of_notMem hdf]
    exact h.held v q g hv d hd
  · intro u v q r g k hne hu' hv
    exact h.disjoint u v q r g k hne (hbefore u _ hu').2 (hbefore v _ hv).2

/-- **Step.** A step of a worker keeps the invariant, when it is not an acquire that is refused. -/
theorem Exclusive.step {s s' : EngineSystem ω} (h : Exclusive s) {w : ω} {env : Environment}
    (hgranted : acquireGranted s w = true) (hstep : workerStep s w env = some s') : Exclusive s' := by
  cases workerStep_moves hstep with
  | test => exact h.of_unassigned rfl (fun _ => rfl) (by split_ifs <;> rfl)
  | stop | unknown | full | push => exact h.of_unassigned rfl (fun _ => rfl) rfl
  | pop | schedule => exact h.of_unassigned rfl (fun _ => rfl) (by split <;> rfl)
  | found inst function hw hfunction =>
      refine h.of_sameTable rfl (fun _ => rfl) ?_ (Or.inl rfl)
      intro q f hq
      cases hq
      unfold TestEngine.functionName
      rw [hfunction]
  | acquire inst function r hw hacquire => exact h.acquire hw hgranted hacquire
  | start inst function hw =>
      exact h.of_kept rfl (fun _ => functionName_updateInstance fun _ => rfl) (by rw [hw]; rfl)
        (by rw [hw]; rfl)
  | run inst function operations hw =>
      exact h.of_kept rfl (fun _ => functionName_updateInstance fun _ => rfl) (by rw [hw]; rfl)
        (by rw [hw]; rfl)
  | release inst function r hw hrelease =>
      subst hrelease
      exact h.release hw

/-! ## Runs of the workers -/

/-- The workers alone: a step of one of them. -/
def workersStep (s : EngineSystem ω) (l : ω × Environment) : Option (EngineSystem ω) :=
  workerStep s l.1 l.2

/-- Before the workers start: the function table is one `prepare_function_info` builds, every
device of it is registered and FREE, and every worker is at its loop test. Nothing is said about
the queue and the pending list. -/
structure ReadyToWork (s : EngineSystem ω) : Prop where
  functions : s.engine.resourceManager.functionManager.AllAvailable
  free : ∀ f, ∀ d ∈ s.engine.devices f, deviceFree s.engine.resourceManager d = true
  atLoopHead : ∀ w, s.workers w = .loopHead

omit [DecidableEq ω] in
/-- The invariant holds before the workers start. -/
lemma ReadyToWork.exclusive {s : EngineSystem ω} (h : ReadyToWork s) : Exclusive s := by
  refine ⟨h.functions, ?_, ?_, ?_, ?_⟩
  · intro f d hd
    rw [(deviceFree_iff _ _).mp (h.free f d hd)]
    simp
  all_goals
    intro w
    simp [h.atLoopHead w, WorkerPc.assigned, WorkerPc.holding]

/-- **Mutual exclusion of granted runs.** For every content of the queue and of the pending list,
and every interleaving of any number of workers: when all devices of the function are free
whenever a worker comes to `resource_manager_acquire`, no two workers are ever inside
`test_engine_run_instance` for functions that share a device.
Source: `services/test-engine.c`, `test_engine_worker` -/
theorem devicesExclusive_of_granted {s t : EngineSystem ω}
    {tr : List (EngineSystem ω × (ω × Environment))} (hready : ReadyToWork s)
    (hrun : Run (stepOf workersStep) s tr t)
    (hgranted : ∀ p ∈ tr, acquireGranted p.1 p.2.1 = true) :
    ∀ u, Visits tr t u → DevicesExclusive u := by
  intro u hu
  have hinv := hrun.visits_invariantAlong (I := Exclusive)
    (C := fun s l => acquireGranted s l.1 = true) hready.exclusive
    (fun _ _ _ h hgranted hstep => h.step hgranted hstep) hgranted hu
  exact hinv.devicesExclusive

/-- Two instances of the LED test wait in the queue, for two workers. -/
def twoQueued : EngineSystem Bool where
  engine := { ledEngine with
    executionQueue := ⟨(Vector.replicate _ none).set 0 (some (.slot 0)) testEngineQueueSize_pos
      |>.set 1 (some (.slot 1)), 2, 0, 2⟩
    memory := fun _ => { TestInstance.zeroed with entry := some 0 } }
  workers := fun _ => .loopHead
  caller := .idle
  calls := 0
  submissions := []

/-- The two-worker system is ready to work. -/
lemma readyToWork_twoQueued : ReadyToWork twoQueued := by
  refine ⟨⟨by decide, by decide⟩, ?_, fun _ => rfl⟩
  intro f d hd
  have hall : ∀ entry ∈ twoQueued.engine.resourceManager.functionManager.functions.items,
      ∀ b ∈ entry.definition.deviceName.items,
        deviceFree twoQueued.engine.resourceManager b.chars = true := by
    decide
  obtain ⟨entry, hentry, b, hb, rfl⟩ := FunctionManager.exists_of_mem_deviceKeys hd
  exact hall entry hentry b hb

/-- What the clock and the callbacks do does not matter here. -/
def quietEnvironment : Environment := ⟨0, 0, 0⟩

/-- One worker alone runs the LED test of one instance: all its acquires are granted. -/
theorem devicesExclusive_oneWorker :
    ∃ tr t, Run (stepOf workersStep) twoQueued tr t ∧
      (∃ p f, t.workers false = .running p f) ∧ ∀ u, Visits tr t u → DevicesExclusive u := by
  have hrun : Run (stepOf workersStep) twoQueued _ _ :=
    run_of_exec (List.replicate 5 (false, quietEnvironment)) rfl
  refine ⟨_, _, hrun, ⟨.slot 0, cstr "status_indication", rfl⟩,
    devicesExclusive_of_granted readyToWork_twoQueued hrun ?_⟩
  rw [← List.all_eq_true]
  rfl

/-- Both workers run their instances of the LED test at the same time: the second `acquire` is
refused, and its answer is not looked at. -/
theorem acquire_ignored :
    ReadyToWork twoQueued ∧
      ∃ t, Reachable (stepOf workersStep) twoQueued t ∧ ¬ DevicesExclusive t := by
  refine ⟨readyToWork_twoQueued, ?_⟩
  have hrun := run_of_exec (f := workersStep) (s := twoQueued)
    (List.replicate 5 (false, quietEnvironment) ++ List.replicate 5 (true, quietEnvironment)) rfl
  refine ⟨_, ⟨_, hrun⟩, ?_⟩
  intro hexclusive
  have hshared := hexclusive false true (.slot 0) (.slot 1) (cstr "status_indication")
    (cstr "status_indication") (by decide) rfl rfl
  exact absurd hshared (by decide)

end HardwareTest
