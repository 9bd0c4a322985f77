import HardwareTest.Engine.Lifetime
import HardwareTest.Engine.Submission
import HardwareTest.Lib.Termination
import Mathlib.Algebra.Order.BigOperators.Group.Finset

/-!
# Whether `test_engine_deinit` returns

An engine that is given no instance pushes nothing, so nobody signals `queue_condition`: a worker
that waits when the engine is stopped waits for ever.

* `LifeMoves`: what a step of the engine from start to shutdown can do, with its guards.
* `IdleLife`: the invariant of a life in which no worker ever has an instance. A worker that waits
  has a thread and is not joined.
* `windsDown_of_nobodyWaits`: when nobody waits, every step behind the stop brings the shutdown
  closer to its end.
* `engineStop_returns_iff`: **`test_engine_deinit` returns iff nobody waits when it clears the
  flag**; and then it returns under every schedule of the workers.

As in `Engine/Lifetime.lean` a wait without a signal lasts.
-/

namespace HardwareTest

open Lib

variable {ω : Type*} [DecidableEq ω]

/-- The worker is in `pthread_cond_wait`, or on its way from the test into it. -/
def EngineLife.Waits (s : EngineLife ω) (v : ω) : Prop := s.entering = some v ∨ s.blocked v = true

omit [DecidableEq ω] in
lemma nobodyWaits_iff {s : EngineLife ω} : s.NobodyWaits ↔ ∀ v, ¬ s.Waits v := by
  constructor
  · rintro ⟨hentering, hblocked⟩ v (h | h)
    · rw [hentering] at h
      cases h
    · rw [hblocked v] at h
      cases h
  · intro h
    refine ⟨?_, fun v => ?_⟩
    · rcases hentering : s.entering with _ | v
      · rfl
      · exact absurd (.inl hentering) (h v)
    · by_contra hv
      exact h v (.inr (by simpa using hv))

lemma EnginePhase.exists_of_isServing {ω : Type*} {phase : EnginePhase ω}
    (h : phase.isServing = true) : ∃ workers, phase = .serving workers := by
  rcases phase with _ | _ | workers | _ | _
  case serving => exact ⟨workers, rfl⟩
  all_goals cases h

variable {s t u : EngineLife ω}

/-! ## What a step can do -/

/-- What a step can do, branch by branch, with its guards. -/
inductive LifeMoves (s : EngineLife ω) : LifeAct ω → EngineLife ω → Prop
  | block (w : ω) (env : Environment) (woken : Option ω) (hentering : s.entering = some w) :
      LifeMoves s (.work w env woken)
        { s with entering := none, blocked := Function.update s.blocked w true }
  | enter (w : ω) (env : Environment) (woken : Option ω) (hstarted : s.started w = true)
      (hpopping : s.system.workers w = .popping) (hrunning : s.system.engine.running = true) :
      LifeMoves s (.work w env woken) { s with entering := some w }
  | work (w : ω) (env : Environment) (woken : Option ω) (system : EngineSystem ω)
      (blocked : ω → Bool) (hstarted : s.started w = true) (hawake : ¬ s.Waits w)
      (hstep : workerStep s.system w env = some system)
      (hwoken : ∀ v, blocked v = true → s.blocked v = true)
      (hsame : (∀ inst, s.system.workers w ≠ .pushing inst) → blocked = s.blocked) :
      LifeMoves s (.work w env woken) { s with system := system, blocked := blocked }
  | call (act : CallerAct) (woken : Option ω) (workers : List ω) (system : EngineSystem ω)
      (blocked : ω → Bool) (hphase : s.phase = .serving workers)
      (hstep : callerStep s.system act = some system)
      (hwoken : ∀ v, blocked v = true → s.blocked v = true) :
      LifeMoves s (.call act woken) { s with system := system, blocked := blocked }
  | create (before rest : List ω) (w : ω) (hphase : s.phase = .creating before (w :: rest)) :
      LifeMoves s (.init true) { s with
        phase := .creating (before ++ [w]) rest
        started := Function.update s.started w true }
  | giveUp (before rest : List ω) (hphase : s.phase = .creating before rest) :
      LifeMoves s (.init false) { s with phase := .abandoning before, blocked := fun _ => false }
  | serve (created : Bool) (workers : List ω) (hphase : s.phase = .creating workers []) :
      LifeMoves s (.init created) { s.setRunning true with phase := .serving workers }
  | joinedCreated (created : Bool) (w : ω) (rest : List ω)
      (hphase : s.phase = .abandoning (w :: rest)) (hexited : s.system.workers w = .exited) :
      LifeMoves s (.init created) { s with phase := .abandoning rest }
  | freeCreated (created : Bool) (hphase : s.phase = .abandoning []) :
      LifeMoves s (.init created) { s with phase := .gone }
  | stop (workers : List ω) (hphase : s.phase = .serving workers)
      (hcaller : s.system.caller = .idle) :
      LifeMoves s .deinit { s.setRunning false with phase := .joining workers }
  | joined (w : ω) (rest : List ω) (hphase : s.phase = .joining (w :: rest))
      (hexited : s.system.workers w = .exited) :
      LifeMoves s .deinit { s with phase := .joining rest }
  | free (hphase : s.phase = .joining []) : LifeMoves s .deinit { s with phase := .gone }

section moves

variable [Fintype ω]

/-- A worker moves as listed. -/
lemma lifeWorker_moves {w : ω} {env : Environment} {woken : Option ω}
    (h : lifeWorker s w env woken = some t) : LifeMoves s (.work w env woken) t := by
  unfold lifeWorker at h
  by_cases hoff : s.started w = false ∨ s.blocked w = true
  · rw [if_pos hoff] at h
    cases h
  rw [if_neg hoff] at h
  obtain ⟨hstarted, hblocked⟩ := not_or.mp hoff
  rw [Bool.not_eq_false] at hstarted
  by_cases hentering : s.entering = some w
  · rw [if_pos hentering] at h
    cases h
    exact .block w env woken hentering
  rw [if_neg hentering] at h
  have hawake : ¬ s.Waits w := not_or.mpr ⟨hentering, hblocked⟩
  split at h
  · rename_i hpopping
    split_ifs at h with hlocked hwait
    · cases h
      exact .enter w env woken hstarted hpopping hwait.2
    · obtain ⟨system, hstep, rfl⟩ := Option.map_eq_some_iff.mp h
      exact .work w env woken system s.blocked hstarted hawake hstep (fun _ h => h) fun _ => rfl
  · rename_i inst hpushing
    split_ifs at h with hlocked
    obtain ⟨system, hstep, hpush⟩ := Option.bind_eq_some_iff.mp h
    obtain ⟨blocked, hwoken, rfl⟩ := afterPush_eq hpush
    exact .work w env woken system blocked hstarted hawake hstep hwoken
      fun hother => absurd hpushing (hother inst)
  · obtain ⟨system, hstep, rfl⟩ := Option.map_eq_some_iff.mp h
    exact .work w env woken system s.blocked hstarted hawake hstep (fun _ h => h) fun _ => rfl

/-- The caller moves as listed. -/
lemma lifeCaller_moves {act : CallerAct} {woken : Option ω}
    (h : lifeCaller s act woken = some t) : LifeMoves s (.call act woken) t := by
  unfold lifeCaller at h
  split at h
  · rename_i workers hphase
    split at h
    · split_ifs at h with hlocked
      obtain ⟨system, hstep, hpush⟩ := Option.bind_eq_some_iff.mp h
      obtain ⟨blocked, hwoken, rfl⟩ := afterPush_eq hpush
      exact .call act woken workers system blocked hphase hstep hwoken
    · obtain ⟨system, hstep, rfl⟩ := Option.map_eq_some_iff.mp h
      exact .call act woken workers system s.blocked hphase hstep fun _ h => h
  · cases h

/-- **A step** is one of the moves. -/
theorem lifeStep_moves {act : LifeAct ω} (h : lifeStep s act = some t) : LifeMoves s act t := by
  rcases act with ⟨w, env, woken⟩ | ⟨act, woken⟩ | created | _
  · exact lifeWorker_moves h
  · exact lifeCaller_moves h
  · simp only [lifeStep, lifeInit] at h
    split at h
    · rename_i before w rest hphase
      rcases created with _ | _
      · cases h
        exact .giveUp before (w :: rest) hphase
      · cases h
        exact .create before rest w hphase
    · rename_i before hphase
      cases h
      exact .serve created before hphase
    · rename_i w rest hphase
      split_ifs at h with hexited
      cases h
      exact .joinedCreated created w rest hphase hexited
    · rename_i hphase
      cases h
      exact .freeCreated created hphase
    · cases h
  · simp only [lifeStep, lifeDeinit] at h
    split at h
    · rename_i workers hphase
      split_ifs at h with hcaller
      cases h
      exact .stop workers hphase hcaller
    · rename_i w rest hphase
      split_ifs at h with hexited
      cases h
      exact .joined w rest hphase hexited
    · rename_i hphase
      cases h
      exact .free hphase
    · cases h

end moves

/-! ## A life without instances -/

/-- **The invariant**: no worker has anything to do, the workers not joined yet are those with a
thread, but perhaps for some that have exited, and who waits has a thread and comes from the
queue. -/
structure IdleLife (s : EngineLife ω) : Prop where
  quiet : Quiet s.system
  created : ∀ v ∈ s.phase.created, s.started v = true
  alive : ∀ v, s.started v = true → v ∈ s.phase.created ∨ s.system.workers v = .exited
  waiting : ∀ v, s.Waits v → s.started v = true ∧ s.system.workers v = .popping
  stopped : s.phase.isJoining = true → s.system.engine.running = false

omit [DecidableEq ω] in
/-- An engine without instances, before its threads. -/
lemma idleLife_beforeThreads {e : TestEngine} (workers : List ω)
    (hqueue : e.executionQueue.count = 0)
    (hlimit : e.scheduler.runningInstances < e.scheduler.maxInstances) :
    IdleLife (EngineLife.beforeThreads e workers) where
  quiet := ⟨hqueue, hlimit, fun _ => rfl, nofun, nofun⟩
  created := nofun
  alive := nofun
  waiting := by
    rintro v (h | h)
    · cases h
    · cases h
  stopped := nofun

namespace IdleLife

omit [DecidableEq ω] in
/-- In another phase, with the same workers still to be joined but for some that have exited. -/
lemma withPhase (h : IdleLife s) {phase : EnginePhase ω}
    (hcreated : ∀ v ∈ phase.created, v ∈ s.phase.created)
    (halive : ∀ v ∈ s.phase.created, v ∈ phase.created ∨ s.system.workers v = .exited)
    (hstopped : phase.isJoining = true → s.system.engine.running = false) :
    IdleLife { s with phase := phase } :=
  ⟨h.quiet, fun v hv => h.created v (hcreated v hv),
    fun v hv => (h.alive v hv).elim (halive v) .inr, h.waiting, hstopped⟩

omit [DecidableEq ω] in
/-- In another phase, with the same workers still to be joined. -/
lemma withSameWorkers (h : IdleLife s) {phase : EnginePhase ω}
    (hphase : s.phase.created = phase.created)
    (hstopped : phase.isJoining = true → s.system.engine.running = false) :
    IdleLife { s with phase := phase } := by
  refine h.withPhase (fun v hv => ?_) (fun v hv => ?_) hstopped
  · rwa [hphase]
  · rw [hphase] at hv
    exact .inl hv

omit [DecidableEq ω] in
/-- With the flag assigned, while nobody joins. -/
lemma setRunning (h : IdleLife s) (running : Bool) (hphase : s.phase.isJoining = false) :
    IdleLife (s.setRunning running) := by
  obtain ⟨hqueue, hbelow, hfree, hpushing, hframe⟩ := h.quiet
  refine ⟨⟨hqueue, hbelow, hfree, hpushing, hframe⟩, h.created, h.alive, h.waiting, ?_⟩
  intro hjoining
  rw [show (s.setRunning running).phase = s.phase from rfl, hphase] at hjoining
  cases hjoining

omit [DecidableEq ω] in
/-- With one of the created workers joined. -/
lemma joined (h : IdleLife s) {phase : EnginePhase ω} {w : ω}
    (hphase : s.phase.created = w :: phase.created) (hexited : s.system.workers w = .exited)
    (hstopped : phase.isJoining = true → s.phase.isJoining = true) :
    IdleLife { s with phase := phase } := by
  refine h.withPhase (fun v hv => ?_) (fun v hv => ?_) fun hjoining => h.stopped (hstopped hjoining)
  · rw [hphase]
    exact List.mem_cons_of_mem _ hv
  · rw [hphase] at hv
    rcases List.mem_cons.mp hv with rfl | hv
    · exact .inr hexited
    · exact .inl hv

/-- A worker goes on. -/
lemma work (h : IdleLife s) {w : ω} {env : Environment} {system : EngineSystem ω}
    {blocked : ω → Bool} (hawake : ¬ s.Waits w) (hwork : workerStep s.system w env = some system)
    (hwoken : ∀ v, blocked v = true → s.blocked v = true) :
    IdleLife { s with system := system, blocked := blocked } := by
  obtain ⟨hrunning, hothers, hin, -⟩ := workerStep_frame hwork
  refine ⟨h.quiet.step (l := .work w env) hwork, h.created, fun v hv => ?_, fun v hv => ?_,
    fun hjoining => hrunning.trans (h.stopped hjoining)⟩
  · rcases h.alive v hv with hv | hv
    · exact .inl hv
    · have hne : v ≠ w := by
        rintro rfl
        exact hin hv
      exact .inr ((hothers v hne).trans hv)
  · have hbefore : s.Waits v := hv.imp id (hwoken v)
    have hne : v ≠ w := by
      rintro rfl
      exact hawake hbefore
    obtain ⟨hv, hpopping⟩ := h.waiting v hbefore
    exact ⟨hv, (hothers v hne).trans hpopping⟩

/-- The caller goes on. -/
lemma call (h : IdleLife s) {act : CallerAct} {system : EngineSystem ω} {blocked : ω → Bool}
    (hcall : callerStep s.system act = some system)
    (hwoken : ∀ v, blocked v = true → s.blocked v = true) :
    IdleLife { s with system := system, blocked := blocked } := by
  obtain ⟨hrunning, hworkers⟩ := callerStep_frame hcall
  refine ⟨h.quiet.step (l := .call act) hcall, h.created, fun v hv => ?_, fun v hv => ?_,
    fun hjoining => hrunning.trans (h.stopped hjoining)⟩
  · rw [hworkers]
    exact h.alive v hv
  · rw [hworkers]
    exact h.waiting v (hv.imp id (hwoken v))

/-- Another thread is created. -/
lemma create (h : IdleLife s) {before rest : List ω} {w : ω}
    (hphase : s.phase = .creating before (w :: rest)) :
    IdleLife { s with
      phase := .creating (before ++ [w]) rest
      started := Function.update s.started w true } := by
  have hcreated := h.created
  have halive := h.alive
  rw [hphase] at hcreated halive
  have hgrows : ∀ v, s.started v = true → Function.update s.started w true v = true := by
    intro v hv
    simp only [Function.update_apply]
    split_ifs
    · rfl
    · exact hv
  refine ⟨h.quiet, fun v hv => ?_, fun v hv => ?_, fun v hv => ?_, nofun⟩
  · rcases List.mem_append.mp hv with hv | hv
    · exact hgrows v (hcreated v hv)
    · rw [List.mem_singleton.mp hv]
      exact Function.update_self ..
  · by_cases hvw : v = w
    · exact .inl (List.mem_append_right _ (List.mem_singleton.mpr hvw))
    · simp only [Function.update_of_ne hvw] at hv
      exact (halive v hv).imp (List.mem_append_left _) id
  · exact (h.waiting v hv).imp (hgrows v) id

/-- **Step.** -/
theorem step [Fintype ω] (h : IdleLife s) {act : LifeAct ω} (hstep : lifeStep s act = some t) :
    IdleLife t := by
  cases lifeStep_moves hstep with
  | block w _ _ hentering =>
      refine ⟨h.quiet, h.created, h.alive, fun v hv => h.waiting v ?_, h.stopped⟩
      rcases hv with hv | hv
      · cases hv
      · by_cases hvw : v = w
        · exact .inl (hvw ▸ hentering)
        · exact .inr (by simpa [Function.update_of_ne hvw] using hv)
  | enter w _ _ hstarted hpopping _ =>
      refine ⟨h.quiet, h.created, h.alive, fun v hv => ?_, h.stopped⟩
      rcases hv with hv | hv
      · obtain rfl := Option.some.inj hv
        exact ⟨hstarted, hpopping⟩
      · exact h.waiting v (.inr hv)
  | work w _ _ system blocked _ hawake hwork hwoken _ => exact h.work hawake hwork hwoken
  | call act _ workers system blocked _ hcall hwoken => exact h.call hcall hwoken
  | create before rest w hphase => exact h.create hphase
  | giveUp before rest hphase =>
      have hsame : IdleLife { s with phase := .abandoning before } :=
        h.withSameWorkers (by rw [hphase]; rfl) nofun
      refine ⟨hsame.quiet, hsame.created, hsame.alive, fun v hv => ?_, nofun⟩
      rcases hv with hv | hv
      · exact h.waiting v (.inl hv)
      · cases hv
  | serve _ workers hphase =>
      have hset := h.setRunning true (by rw [hphase]; rfl)
      exact hset.withSameWorkers (by rw [EngineLife.setRunning, hphase]; rfl) nofun
  | joinedCreated _ w rest hphase hexited => exact h.joined (by rw [hphase]; rfl) hexited nofun
  | freeCreated _ hphase => exact h.withSameWorkers (by rw [hphase]; rfl) nofun
  | stop workers hphase _ =>
      have hset := h.setRunning false (by rw [hphase]; rfl)
      exact hset.withSameWorkers (by rw [EngineLife.setRunning, hphase]; rfl) fun _ => rfl
  | joined w rest hphase hexited =>
      exact h.joined (by rw [hphase]; rfl) hexited fun _ => by rw [hphase]; rfl
  | free hphase => exact h.withSameWorkers (by rw [hphase]; rfl) nofun

end IdleLife

/-! ## Behind the stop -/

/-- `test_engine_deinit` has cleared the flag. -/
def EnginePhase.isStopped {ω : Type*} : EnginePhase ω → Bool
  | .joining _ | .gone => true
  | _ => false

/-- The steps that a worker without an instance takes before it exits, when the flag is false. -/
def WorkerPc.turns : WorkerPc → ℕ
  | .exited => 0
  | .loopHead => 1
  | _ => 2

/-- The steps of `test_engine_deinit` that are left. -/
def EnginePhase.joins {ω : Type*} : EnginePhase ω → ℕ
  | .joining rest => rest.length + 1
  | _ => 0

lemma WorkerPc.turns_le (pc : WorkerPc) : pc.turns ≤ 2 := by
  unfold WorkerPc.turns
  split
  all_goals omega

/-- With a false flag a worker without an instance comes closer to its exit. -/
lemma Quiet.turns_lt {s t : EngineSystem ω} (h : Quiet s) (hrunning : s.engine.running = false)
    {w : ω} {env : Environment} (hstep : workerStep s w env = some t) :
    (t.workers w).turns < (s.workers w).turns := by
  have hfree := h.workersFree w
  cases workerStep_moves hstep with
  | test hw =>
      rw [goto_workers_self, hw, hrunning]
      decide
  | stop hw _ =>
      rw [goto_workers_self, hw]
      decide
  | pop _ htrue _ =>
      rw [hrunning] at htrue
      cases htrue
  | unknown _ hw | found _ _ hw | acquire _ _ _ hw | start _ _ hw | run _ _ _ hw | release _ _ _ hw
  | schedule _ hw | full _ hw | push _ _ hw =>
      -- a worker in these places is not free
      rw [hw] at hfree
      cases hfree

namespace IdleLife

omit [DecidableEq ω] in
/-- A freed engine has no worker that is not out of its loop. -/
lemma exited_of_gone (h : IdleLife s) (hgone : s.phase = .gone) {v : ω}
    (hv : s.started v = true) : s.system.workers v = .exited := by
  rcases h.alive v hv with hv | hv
  · rw [hgone] at hv
    cases hv
  · exact hv

omit [DecidableEq ω] in
/-- So nobody waits for a freed engine. -/
lemma not_waits_of_gone (h : IdleLife s) (hgone : s.phase = .gone) (v : ω) : ¬ s.Waits v := by
  intro hwaits
  obtain ⟨hv, hpopping⟩ := h.waiting v hwaits
  rw [h.exited_of_gone hgone hv] at hpopping
  cases hpopping

omit [DecidableEq ω] in
/-- Behind the stop the flag is false, or all workers are out of their loop. -/
lemma running_of_isStopped (h : IdleLife s) (hstopped : s.phase.isStopped = true) {v : ω}
    (hv : s.started v = true) (hin : s.system.workers v ≠ .exited) :
    s.system.engine.running = false := by
  rcases hphase : s.phase with _ | _ | _ | _ | _
  case joining => exact h.stopped (by rw [hphase]; rfl)
  case gone => exact absurd (h.exited_of_gone hphase hv) hin
  all_goals
    rw [hphase] at hstopped
    cases hstopped

variable [Fintype ω]

/-- **Behind the stop** the same workers wait from then on: nobody wakes them, and nobody else
begins to wait. -/
lemma waits_iff_of_isStopped (h : IdleLife s) (hstopped : s.phase.isStopped = true)
    {act : LifeAct ω} (hstep : lifeStep s act = some t) :
    t.phase.isStopped = true ∧ ∀ v, t.Waits v ↔ s.Waits v := by
  have hother : ∀ {phase}, s.phase = phase → phase.isStopped = false → False := by
    intro phase hphase hnot
    rw [hphase, hnot] at hstopped
    cases hstopped
  cases lifeStep_moves hstep with
  | block w _ _ hentering =>
      refine ⟨hstopped, fun v => ?_⟩
      unfold EngineLife.Waits
      by_cases hv : v = w
      · subst hv
        simp [hentering]
      · simp [hentering, Function.update_of_ne hv, Ne.symm hv]
  | enter w _ _ hstarted hpopping hrunning =>
      rw [h.running_of_isStopped hstopped hstarted (by simp [hpopping])] at hrunning
      cases hrunning
  | work w _ _ system blocked _ _ _ _ hsame =>
      rw [hsame fun inst hpushing => by
        have hfree := h.quiet.workersFree w
        rw [hpushing] at hfree
        cases hfree]
      exact ⟨hstopped, fun _ => Iff.rfl⟩
  | call _ _ _ _ _ hphase => exact (hother hphase rfl).elim
  | create _ _ _ hphase => exact (hother hphase rfl).elim
  | giveUp _ _ hphase => exact (hother hphase rfl).elim
  | serve _ _ hphase => exact (hother hphase rfl).elim
  | joinedCreated _ _ _ hphase => exact (hother hphase rfl).elim
  | freeCreated _ hphase => exact (hother hphase rfl).elim
  | stop _ hphase => exact (hother hphase rfl).elim
  | joined => exact ⟨rfl, fun _ => Iff.rfl⟩
  | free => exact ⟨rfl, fun _ => Iff.rfl⟩

end IdleLife

section shutdown

variable [Fintype ω]

/-- The steps that are left behind the stop, when nobody waits. -/
def EngineLife.rank (s : EngineLife ω) : ℕ := ∑ v, (s.system.workers v).turns + s.phase.joins

/-- Behind the stop, and nobody waits. -/
structure StoppedQuietly (s : EngineLife ω) : Prop extends IdleLife s where
  nobodyWaits : s.NobodyWaits
  isStopped : s.phase.isStopped = true

/-- Every step lowers the rank. -/
lemma StoppedQuietly.rank_lt (h : StoppedQuietly s) {act : LifeAct ω}
    (hstep : lifeStep s act = some t) : t.rank < s.rank := by
  have hother : ∀ {phase}, s.phase = phase → phase.isStopped = false → False := by
    intro phase hphase hnot
    have hstopped := h.isStopped
    rw [hphase, hnot] at hstopped
    cases hstopped
  cases lifeStep_moves hstep with
  | block w _ _ hentering => exact absurd (.inl hentering) (nobodyWaits_iff.mp h.nobodyWaits w)
  | enter w _ _ hstarted hpopping hrunning =>
      rw [h.running_of_isStopped h.isStopped hstarted (by simp [hpopping])] at hrunning
      cases hrunning
  | work w env _ system blocked hstarted _ hwork =>
      obtain ⟨-, hothers, hin, -⟩ := workerStep_frame hwork
      have hrunning := h.running_of_isStopped h.isStopped hstarted hin
      have hlt := h.quiet.turns_lt hrunning hwork
      refine Nat.add_lt_add_right (Finset.sum_lt_sum (fun v _ => ?_) ⟨w, Finset.mem_univ w, hlt⟩) _
      by_cases hv : v = w
      · subst hv
        exact hlt.le
      · exact (congrArg WorkerPc.turns (hothers v hv)).le
  | call _ _ _ _ _ hphase => exact (hother hphase rfl).elim
  | create _ _ _ hphase => exact (hother hphase rfl).elim
  | giveUp _ _ hphase => exact (hother hphase rfl).elim
  | serve _ _ hphase => exact (hother hphase rfl).elim
  | joinedCreated _ _ _ hphase => exact (hother hphase rfl).elim
  | freeCreated _ hphase => exact (hother hphase rfl).elim
  | stop _ hphase => exact (hother hphase rfl).elim
  | joined w rest hphase =>
      refine Nat.add_lt_add_left ?_ _
      rw [hphase]
      exact Nat.lt_succ_self _
  | free hphase =>
      refine Nat.add_lt_add_left ?_ _
      rw [hphase]
      exact Nat.zero_lt_one

/-- As long as the engine is not freed, a worker or `test_engine_deinit` can go on. -/
lemma StoppedQuietly.goesOn (h : StoppedQuietly s) (hgone : s.phase ≠ .gone) :
    ∃ act t, lifeStep s act = some t := by
  have hstopped := h.isStopped
  rcases hphase : s.phase with _ | _ | _ | rest | _
  case joining =>
    rcases rest with _ | ⟨w, rest⟩
    · exact ⟨.deinit, _, by simp only [lifeStep, lifeDeinit, hphase]; rfl⟩
    · by_cases hexited : s.system.workers w = .exited
      · exact ⟨.deinit, _, by simp only [lifeStep, lifeDeinit, hphase, hexited, if_true]; rfl⟩
      · have hquiet : ShutdownQuiet s :=
          ⟨h.created, fun hjoining => ⟨h.stopped hjoining, h.nobodyWaits⟩⟩
        obtain ⟨v, env, woken, hsome⟩ := hquiet.noDeadlock w rest hphase hexited
        obtain ⟨t, ht⟩ := Option.isSome_iff_exists.mp hsome
        exact ⟨.work v env woken, t, ht⟩
  case gone => exact absurd hphase hgone
  all_goals
    rw [hphase] at hstopped
    cases hstopped

/-- **When nobody waits**, every step brings the shutdown closer to its end. -/
theorem windsDown_of_nobodyWaits :
    WindsDown (stepOf lifeStep) (StoppedQuietly (ω := ω)) (fun s => s.phase = .gone)
      EngineLife.rank where
  keep s act t h hstep := by
    obtain ⟨hstopped, hwaits⟩ := h.waits_iff_of_isStopped h.isStopped hstep
    refine ⟨h.toIdleLife.step hstep, nobodyWaits_iff.mpr fun v hv => ?_, hstopped⟩
    exact nobodyWaits_iff.mp h.nobodyWaits v ((hwaits v).mp hv)
  lower s act t h hstep := h.rank_lt hstep
  goesOn s h hgone := h.goesOn hgone

/-- The call of `test_engine_deinit` leaves everybody where he is. -/
lemma IdleLife.deinit (h : IdleLife s) (hserving : s.phase.isServing = true)
    (hstop : lifeStep s .deinit = some u) :
    IdleLife u ∧ u.phase.isStopped = true ∧ (∀ v, u.Waits v ↔ s.Waits v) ∧
      u.rank ≤ 2 * Fintype.card ω + (s.phase.created.length + 1) := by
  refine ⟨h.step hstop, ?_⟩
  cases lifeStep_moves hstop with
  | stop workers hphase _ =>
      refine ⟨rfl, fun _ => Iff.rfl, ?_⟩
      rw [hphase]
      refine Nat.add_le_add_right ?_ _
      refine (Finset.sum_le_card_nsmul _ _ 2 fun v _ => WorkerPc.turns_le _).trans ?_
      rw [Finset.card_univ, Nat.mul_comm]
      exact Nat.le_refl _
  | joined _ _ hphase =>
      rw [hphase] at hserving
      cases hserving
  | free hphase =>
      rw [hphase] at hserving
      cases hserving

/-- **Whether `test_engine_deinit` returns**: some schedule of the workers lets it return iff nobody
waits when it clears the flag. Source: `services/test-engine.c`, `test_engine_deinit` -/
theorem IdleLife.returns_iff (h : IdleLife s) (hserving : s.phase.isServing = true)
    (hstop : lifeStep s .deinit = some u) :
    (∃ t, Reachable (stepOf lifeStep) u t ∧ t.phase = .gone) ↔ s.NobodyWaits := by
  obtain ⟨hu, hstopped, hwaits, -⟩ := h.deinit hserving hstop
  constructor
  · rintro ⟨t, hreach, hgone⟩
    rw [nobodyWaits_iff]
    intro v hv
    have hkept : IdleLife t ∧ t.phase.isStopped = true ∧ t.Waits v := by
      refine hreach.invariant (I := fun t => IdleLife t ∧ t.phase.isStopped = true ∧ t.Waits v)
        ⟨hu, hstopped, (hwaits v).mpr hv⟩ ?_
      rintro t act t' ⟨ht, hstopped, hv⟩ hstep
      obtain ⟨hstopped', hwaits'⟩ := ht.waits_iff_of_isStopped hstopped hstep
      exact ⟨ht.step hstep, hstopped', (hwaits' v).mpr hv⟩
    exact hkept.1.not_waits_of_gone hgone v hkept.2.2
  · intro hnobody
    have hquiet : StoppedQuietly u :=
      ⟨hu, nobodyWaits_iff.mpr fun v hv => nobodyWaits_iff.mp hnobody v ((hwaits v).mp hv),
        hstopped⟩
    exact windsDown_of_nobodyWaits.reaches hquiet

/-- And then it returns under every schedule, after at most two steps of every worker. -/
theorem IdleLife.ends (h : IdleLife s) (hserving : s.phase.isServing = true)
    (hstop : lifeStep s .deinit = some u) (hnobody : s.NobodyWaits)
    {tr : List (EngineLife ω × LifeAct ω)} (hrun : Run (stepOf lifeStep) u tr t) :
    tr.length ≤ 2 * Fintype.card ω + (s.phase.created.length + 1) ∧
      (t.phase = .gone ∨ ∃ act t', lifeStep t act = some t') := by
  obtain ⟨hu, hstopped, hwaits, hrank⟩ := h.deinit hserving hstop
  have hquiet : StoppedQuietly u :=
    ⟨hu, nobodyWaits_iff.mpr fun v hv => nobodyWaits_iff.mp hnobody v ((hwaits v).mp hv), hstopped⟩
  have hlength := windsDown_of_nobodyWaits.length_le hquiet hrun
  exact ⟨by omega, windsDown_of_nobodyWaits.goal_or_step hquiet hrun⟩

/-- **The shutdown of an engine that is given no instance.** In every run from before the threads,
with any calls of `test_engine_execute`: `test_engine_deinit` can return iff no worker waits when it
clears the flag, and then it does return under every schedule.
Source: `services/test-engine.c`, `test_engine_queue_pop`, `test_engine_deinit` -/
theorem engineStop_returns_iff {e : TestEngine} {workers : List ω}
    (hqueue : e.executionQueue.count = 0)
    (hlimit : e.scheduler.runningInstances < e.scheduler.maxInstances)
    {tr : List (EngineLife ω × LifeAct ω)}
    (hrun : Run (stepOf lifeStep) (EngineLife.beforeThreads e workers) tr s)
    (hserving : s.phase.isServing = true) (hstop : lifeStep s .deinit = some u) :
    ((∃ t, Reachable (stepOf lifeStep) u t ∧ t.phase = .gone) ↔ s.NobodyWaits) ∧
      (s.NobodyWaits → ∀ tr t, Run (stepOf lifeStep) u tr t →
        tr.length ≤ 2 * Fintype.card ω + (s.phase.created.length + 1) ∧
          (t.phase = .gone ∨ ∃ act t', lifeStep t act = some t')) := by
  have hbefore := idleLife_beforeThreads workers hqueue hlimit
  have hidle : IdleLife s := hrun.invariant hbefore fun _ _ _ hs hstep => hs.step hstep
  exact ⟨hidle.returns_iff hserving hstop,
    fun hnobody _ _ hends => hidle.ends hserving hstop hnobody hends⟩

/-- The one-LED engine is stopped as soon as it serves. -/
theorem engineStop_returns_iff_led :
    ∃ s u, s.phase.isServing = true ∧ lifeStep s .deinit = some u ∧
      ((∃ t, Reachable (stepOf lifeStep) u t ∧ t.phase = .gone) ↔ s.NobodyWaits) ∧
      (s.NobodyWaits → ∀ tr t, Run (stepOf (lifeStep (ω := Fin 8))) u tr t →
        tr.length ≤ 2 * Fintype.card (Fin 8) + (s.phase.created.length + 1) ∧
          (t.phase = .gone ∨ ∃ act t', lifeStep t act = some t')) := by
  have hrun : Run (stepOf lifeStep) (ledStart false) _ _ :=
    run_of_exec (List.replicate 9 (.init true)) rfl
  exact ⟨_, _, rfl, rfl, engineStop_returns_iff rfl (by decide) hrun rfl rfl⟩

end shutdown

end HardwareTest
