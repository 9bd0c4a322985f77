import HardwareTest.Lib.Transition

/-!
# Runs that come to an end

* `WindsDown step I goal rank`: from the states of `I` every step lowers a rank, and there is a step
  as long as the goal is not met.
* **Rules.** Then no run is longer than the rank of its first state (`WindsDown.length_le`), a run
  that cannot go on has met the goal (`WindsDown.goal_or_step`), and some run meets it
  (`WindsDown.reaches`).
-/

namespace HardwareTest.Lib

variable {σ ι : Type*} {step : σ → ι → σ → Prop} {s t u : σ} {tr tr' : List (σ × ι)}

/-- One run after another. -/
lemma Run.trans (h : Run step s tr t) (h' : Run step t tr' u) : Run step s (tr ++ tr') u := by
  induction h' with
  | start => simpa using h
  | next _ hstep ih =>
      rw [← List.append_assoc]
      exact ih.next hstep

/-- What is reachable behind a step is reachable before it. -/
lemma Reachable.of_step {l : ι} (hstep : step s l t) (h : Reachable step t u) :
    Reachable step s u := by
  obtain ⟨tr, hrun⟩ := h
  have hfirst : Run step s ([] ++ [(s, l)]) t := .next .start hstep
  exact ⟨_, hfirst.trans hrun⟩

/-- Every step from a state of `I` stays in `I` and lowers the rank, and where the goal is not met
there is one. -/
structure WindsDown (step : σ → ι → σ → Prop) (I goal : σ → Prop) (rank : σ → ℕ) : Prop where
  keep : ∀ s l t, I s → step s l t → I t
  lower : ∀ s l t, I s → step s l t → rank t < rank s
  goesOn : ∀ s, I s → ¬ goal s → ∃ l t, step s l t

namespace WindsDown

variable {I goal : σ → Prop} {rank : σ → ℕ}

/-- **No run is longer than the rank** of its first state. -/
theorem length_le (h : WindsDown step I goal rank) (hs : I s) (hrun : Run step s tr t) :
    tr.length + rank t ≤ rank s := by
  induction hrun with
  | start => simp
  | next hrun hstep ih =>
      have hlower := h.lower _ _ _ (hrun.invariant hs h.keep) hstep
      rw [List.length_append, List.length_singleton]
      omega

/-- A run that cannot go on has met the goal. -/
theorem goal_or_step (h : WindsDown step I goal rank) (hs : I s) (hrun : Run step s tr t) :
    goal t ∨ ∃ l u, step t l u := by
  by_cases hgoal : goal t
  · exact .inl hgoal
  · exact .inr (h.goesOn t (hrun.invariant hs h.keep) hgoal)

/-- **Some run meets the goal.** -/
theorem reaches (h : WindsDown step I goal rank) (hs : I s) :
    ∃ t, Reachable step s t ∧ goal t := by
  induction hrank : rank s using Nat.strongRecOn generalizing s with
  | ind n ih =>
      by_cases hgoal : goal s
      · exact ⟨s, ⟨[], .start⟩, hgoal⟩
      · obtain ⟨l, t, hstep⟩ := h.goesOn s hs hgoal
        have hlower := h.lower s l t hs hstep
        obtain ⟨u, hreach, hu⟩ := ih (rank t) (hrank ▸ hlower) (h.keep s l t hs hstep) rfl
        exact ⟨u, hreach.of_step hstep, hu⟩

end WindsDown

end HardwareTest.Lib
