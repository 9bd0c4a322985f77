import Mathlib.Data.List.Basic
import Mathlib.Tactic.Common

/-!
# Runs of a labelled step relation

A system is a relation `step : σ → ι → σ → Prop` between states, with a label `ι` on every step.

* `Run step s tr t`: a run from `s` to `t`; its history `tr` lists, oldest first, the state in
  which each step was taken together with the label of the step.
* `Visits tr t u`: the run with history `tr` that ended in `t` has been in state `u`.
* `Reachable step s t`: some run leads from `s` to `t`.
* `Run.before`: a run cut off before one of its steps is a run.
* **Rules.** `Run.invariant` (an invariant holds at the end of every run), `Run.invariantAlong`
  (the same, when only the steps that meet a condition preserve it), `Run.forall_steps` (what
  every step of a run has), `Run.relates_visited` (a relation between an earlier state of a run
  and its end), and the exact rule
  `Run.always_iff_along`: when the steps that meet the condition are the ones that keep the
  property, a run has the property in every state it visits iff all its steps meet the condition.
* `Run.project`: a run seen from a part of the state.
* **Executable systems.** `stepOf f` is the relation of a partial step function
  `f : σ → ι → Option σ`; `exec f s ls` runs it along a list of labels, and `run_of_exec` makes
  the computed run, with its computed `history`, a run.
-/

namespace HardwareTest.Lib

variable {σ ι : Type*}

/-! ## Runs and what they visit -/

/-- A run of `step` from `s`, with its history: the pre-state and the label of every step. -/
inductive Run (step : σ → ι → σ → Prop) (s : σ) : List (σ × ι) → σ → Prop
  /-- The empty run stays where it starts. -/
  | start : Run step s [] s
  /-- A run is extended by one step at its end. -/
  | next {tr : List (σ × ι)} {t : σ} {l : ι} {u : σ} :
      Run step s tr t → step t l u → Run step s (tr ++ [(t, l)]) u

/-- The run with history `tr` and last state `t` has been in state `u`. -/
def Visits (tr : List (σ × ι)) (t u : σ) : Prop := u = t ∨ ∃ l, (u, l) ∈ tr

/-- Some run leads from `s` to `t`. -/
def Reachable (step : σ → ι → σ → Prop) (s t : σ) : Prop := ∃ tr, Run step s tr t

variable {step : σ → ι → σ → Prop} {s t u : σ} {tr : List (σ × ι)} {l : ι}

/-- The last state of a run is visited. -/
lemma Visits.last : Visits tr t t := Or.inl rfl

/-- What a run visits stays visited when the run is extended. -/
lemma Visits.extend (h : Visits tr t u) (l : ι) (v : σ) : Visits (tr ++ [(t, l)]) v u := by
  rcases h with rfl | ⟨k, hk⟩
  · exact Or.inr ⟨l, by simp⟩
  · exact Or.inr ⟨k, List.mem_append_left _ hk⟩

/-- A visited state of an extended run is its new end or was visited before. -/
lemma Visits.cases_extend {v : σ} (h : Visits (tr ++ [(t, l)]) v u) : u = v ∨ Visits tr t u := by
  rcases h with rfl | ⟨k, hk⟩
  · exact Or.inl rfl
  · rw [List.mem_append, List.mem_singleton] at hk
    rcases hk with hk | hk
    · exact Or.inr (Or.inr ⟨k, hk⟩)
    · exact Or.inr (Or.inl (congrArg Prod.fst hk))

/-- The history before a step is that of a run up to the step. -/
lemma Run.before {past future : List (σ × ι)} {p : σ × ι} (h : Run step s tr t)
    (htr : tr = past ++ p :: future) : Run step s past p.1 := by
  induction h generalizing future with
  | start => simp at htr
  | next hrun hstep ih =>
      rcases List.eq_nil_or_concat future with rfl | ⟨future, q, rfl⟩
      · obtain ⟨rfl, rfl⟩ : _ = past ∧ _ = p := by simpa using htr
        exact hrun
      · rw [List.concat_eq_append, ← List.cons_append, ← List.append_assoc] at htr
        exact ih (List.append_inj_left' htr rfl)

/-! ## Invariant rules -/

/-- **Invariant rule with a condition.** A property of the start that every step meeting the
condition preserves holds at the end of a run all of whose steps meet it. -/
theorem Run.invariantAlong {I : σ → Prop} {C : σ → ι → Prop} (hs : I s)
    (keep : ∀ t l u, I t → C t l → step t l u → I u) (h : Run step s tr t)
    (hC : ∀ p ∈ tr, C p.1 p.2) : I t := by
  induction h with
  | start => exact hs
  | @next tr t l u _ hstep ih =>
      have hpre := ih fun p hp => hC p (List.mem_append_left _ hp)
      exact keep t l u hpre (hC (t, l) (by simp)) hstep

/-- **Invariant rule.** A property of the start that every step preserves holds at the end of
every run. -/
theorem Run.invariant {I : σ → Prop} (hs : I s) (keep : ∀ t l u, I t → step t l u → I u)
    (h : Run step s tr t) : I t :=
  h.invariantAlong (C := fun _ _ => True) hs (fun t l u hI _ => keep t l u hI) fun _ _ => trivial

/-- The invariant rule for reachable states. -/
theorem Reachable.invariant {I : σ → Prop} (hs : I s)
    (keep : ∀ t l u, I t → step t l u → I u) (h : Reachable step s t) : I t := by
  obtain ⟨tr, hrun⟩ := h
  exact hrun.invariant hs keep

/-- A conditional invariant holds in every state a run visits, not only at its end. -/
theorem Run.visits_invariantAlong {I : σ → Prop} {C : σ → ι → Prop} (hs : I s)
    (keep : ∀ t l u, I t → C t l → step t l u → I u) (h : Run step s tr t)
    (hC : ∀ p ∈ tr, C p.1 p.2) (hu : Visits tr t u) : I u := by
  induction h with
  | start =>
      rcases hu with rfl | ⟨k, hk⟩
      · exact hs
      · simp at hk
  | next hrun hstep ih =>
      rcases hu.cases_extend with rfl | hu
      · exact (Run.next hrun hstep).invariantAlong hs keep hC
      · exact ih (fun p hp => hC p (List.mem_append_left _ hp)) hu

/-- **Rule for two states of a run.** A relation that an invariant makes reflexive and that every
step extends at its end relates each visited state to the last one. -/
theorem Run.relates_visited {I : σ → Prop} {R : σ → σ → Prop} (hs : I s)
    (keep : ∀ t l u, I t → step t l u → I u) (refl : ∀ t, I t → R t t)
    (extend : ∀ v t l u, I t → R v t → step t l u → R v u) (h : Run step s tr t)
    (hu : Visits tr t u) : R u t := by
  induction h with
  | start =>
      rcases hu with rfl | ⟨k, hk⟩
      · exact refl _ hs
      · simp at hk
  | next hrun hstep ih =>
      rcases hu.cases_extend with rfl | hu
      · exact refl _ ((Run.next hrun hstep).invariant hs keep)
      · exact extend _ _ _ _ (hrun.invariant hs keep) (ih hu) hstep

/-- **Exact rule.** Let `I` be kept by the steps that meet `C`, let `I` give `P`, and let every
other step from an `I`-state lead out of `P`. Then a run satisfies `P` in every state it visits
iff all its steps meet `C`. -/
theorem Run.always_iff_along {I P : σ → Prop} {C : σ → ι → Prop} (hs : I s)
    (keep : ∀ t l u, I t → C t l → step t l u → I u) (hP : ∀ t, I t → P t)
    (leave : ∀ t l u, I t → ¬ C t l → step t l u → ¬ P u) (h : Run step s tr t) :
    (∀ u, Visits tr t u → P u) ↔ ∀ p ∈ tr, C p.1 p.2 := by
  constructor
  · intro hall
    induction h with
    | start => simp
    | next hrun hstep ih =>
        have hpre := ih fun u hu => hall u (hu.extend _ _)
        have hI := hrun.invariantAlong hs keep hpre
        intro p hp
        rw [List.mem_append, List.mem_singleton] at hp
        rcases hp with hp | rfl
        · exact hpre p hp
        · by_contra hC
          exact leave _ _ _ hI hC hstep (hall _ Visits.last)
  · intro hC u hu
    exact hP u (h.visits_invariantAlong hs keep hC hu)

/-! ## Projections -/

/-- **A run seen from a part of the state** is a run, when every step shows there as a step or not
at all. -/
theorem Run.project {σ' ι' : Type*} {step' : σ' → ι' → σ' → Prop} (f : σ → σ') {C : ι → Prop}
    {C' : ι' → Prop} (hshows : ∀ s l t, C l → step s l t →
      f t = f s ∨ ∃ l', C' l' ∧ step' (f s) l' (f t))
    (h : Run step s tr t) (hC : ∀ p ∈ tr, C p.2) :
    ∃ tr', Run step' (f s) tr' (f t) ∧ ∀ p ∈ tr', C' p.2 := by
  induction h with
  | start => exact ⟨[], .start, by simp⟩
  | @next tr t l u _ hstep ih =>
      obtain ⟨tr', hrun, htr'⟩ := ih fun p hp => hC p (List.mem_append_left _ hp)
      rcases hshows t l u (hC (t, l) (by simp)) hstep with hsame | ⟨l', hl', hstep'⟩
      · exact ⟨tr', hsame ▸ hrun, htr'⟩
      · refine ⟨_, hrun.next hstep', fun p hp => ?_⟩
        rcases List.mem_append.mp hp with hp | hp
        · exact htr' p hp
        · rw [List.mem_singleton.mp hp]
          exact hl'

/-! ## Executable systems -/

/-- The step relation of a partial step function. -/
def stepOf (f : σ → ι → Option σ) : σ → ι → σ → Prop := fun s l t => f s l = some t

/-- Run a partial step function along a list of labels. -/
def exec (f : σ → ι → Option σ) : σ → List ι → Option σ
  | s, [] => some s
  | s, l :: ls => (f s l).bind fun t => exec f t ls

/-- The history of a computed run. -/
def history (f : σ → ι → Option σ) : σ → List ι → List (σ × ι)
  | _, [] => []
  | s, l :: ls => (s, l) :: (f s l).elim [] fun t => history f t ls

/-- The labels of a computed history are taken from the list. -/
lemma mem_of_mem_history {f : σ → ι → Option σ} {ls : List ι} {p : σ × ι}
    (hp : p ∈ history f s ls) : p.2 ∈ ls := by
  induction ls generalizing s with
  | nil => simp [history] at hp
  | cons l ls ih =>
      rw [history, List.mem_cons] at hp
      rcases hp with rfl | hp
      · exact List.mem_cons_self
      · rcases hstep : f s l with _ | t
        · simp [hstep] at hp
        · rw [hstep] at hp
          exact List.mem_cons_of_mem _ (ih hp)

/-- A run may be extended by a computed run. -/
lemma Run.append_exec {f : σ → ι → Option σ} (h : Run (stepOf f) s tr t) {ls : List ι}
    (hls : exec f t ls = some u) : Run (stepOf f) s (tr ++ history f t ls) u := by
  induction ls generalizing tr t with
  | nil =>
      cases hls
      simpa [history] using h
  | cons l ls ih =>
      unfold exec at hls
      rw [Option.bind_eq_some_iff] at hls
      obtain ⟨v, hv, hls⟩ := hls
      have hrun := ih (h.next hv) hls
      simpa [history, hv] using hrun

/-- A computed run is a run. -/
theorem run_of_exec {f : σ → ι → Option σ} (ls : List ι) (h : exec f s ls = some t) :
    Run (stepOf f) s (history f s ls) t :=
  (Run.start : Run (stepOf f) s [] s).append_exec h

/-- A decidable property of the end of a computed run holds in some reachable state. -/
theorem exists_reachable_of_exec {f : σ → ι → Option σ} (ls : List ι) {P : σ → Prop}
    [DecidablePred P] (h : (exec f s ls).any (fun t => decide (P t)) = true) :
    ∃ t, Reachable (stepOf f) s t ∧ P t := by
  rw [Option.any_eq_true] at h
  obtain ⟨t, ht, hP⟩ := h
  exact ⟨t, ⟨_, run_of_exec ls ht⟩, of_decide_eq_true hP⟩

end HardwareTest.Lib
