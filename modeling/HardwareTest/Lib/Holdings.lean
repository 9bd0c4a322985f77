import Mathlib.Data.Set.Basic
import Mathlib.Tactic.Common

/-!
# Exclusive holdings

What a resource manager is for, on its own terms: named resources, each absent, free or held by
an owner. A request for several resources takes all of them or none.

* `Holdings κ ω`: the state of every resource `κ`, owned by `ω`.
* `add`, `take`, `drop`: registering a resource, taking a list of resources for an owner, and
  giving back what the owner holds among them.
* `Call`, `Holdings.after`: a call of one of the three, and the state it leaves.
* **Persistence** (`held_after_call`): what an owner holds stays held by it through a call of
  another owner, and every request that shares a resource with it is refused (`not_canTake`).
-/

set_option linter.unusedSectionVars false

namespace HardwareTest.Lib

variable {κ ω : Type*}

/-- The state of one resource. -/
inductive Slot (ω : Type*)
  | absent
  | free
  | held (o : ω)
deriving DecidableEq

/-- The state of every resource. -/
abbrev Holdings (κ ω : Type*) := κ → Slot ω

namespace Holdings

variable {H : Holdings κ ω} {d : κ} {o : ω}

/-- Every resource of the list is free. -/
def CanTake (H : Holdings κ ω) (ds : List κ) : Prop := ∀ d ∈ ds, H d = .free

instance [DecidableEq ω] (H : Holdings κ ω) (ds : List κ) : Decidable (H.CanTake ds) :=
  inferInstanceAs (Decidable (∀ d ∈ ds, _))

/-- A request that shares a held resource is refused. -/
lemma not_canTake {ds : List κ} (hd : d ∈ ds) (h : H d = .held o) : ¬ H.CanTake ds := by
  intro hc
  rw [hc d hd] at h
  cases h

/-! ## Taking -/

variable [DecidableEq κ]

/-- Hand all resources of the list to an owner. -/
def take (H : Holdings κ ω) (ds : List κ) (o : ω) : Holdings κ ω :=
  fun d => if d ∈ ds then .held o else H d

/-- After a take the owner holds every resource of the list. -/
@[simp] lemma take_of_mem {ds : List κ} (h : d ∈ ds) : H.take ds o d = .held o := if_pos h

/-- A take changes no resource outside the list. -/
lemma take_of_notMem {ds : List κ} (h : d ∉ ds) : H.take ds o d = H d := if_neg h

/-- Taking nothing changes nothing. -/
@[simp] lemma take_nil (o : ω) : H.take [] o = H := by
  funext d
  exact take_of_notMem List.not_mem_nil

/-- Taking one list and then another is taking both. -/
lemma take_take (ds es : List κ) (o : ω) : (H.take ds o).take es o = H.take (ds ++ es) o := by
  funext d
  simp only [take, List.mem_append]
  by_cases hd : d ∈ ds
  · simp [hd]
  · simp [hd]

/-- A take depends on which resources are listed, not on how often. -/
lemma take_congr {ds es : List κ} (h : ∀ d, d ∈ ds ↔ d ∈ es) (o : ω) :
    H.take ds o = H.take es o := by
  funext d
  simp only [take, h]

/-- A take makes nothing absent. -/
lemma take_ne_absent {ds : List κ} (h : H d ≠ .absent) : H.take ds o d ≠ .absent := by
  unfold take
  split_ifs
  · simp
  · exact h

/-! ## Registering and giving back -/

variable [DecidableEq ω]

/-- Register a resource: an absent one becomes free. -/
def add (H : Holdings κ ω) (k : κ) : Holdings κ ω :=
  fun d => if d = k ∧ H d = .absent then .free else H d

/-- Free what the owner holds among the resources of the list. -/
def drop (H : Holdings κ ω) (ds : List κ) (o : ω) : Holdings κ ω :=
  fun d => if d ∈ ds ∧ H d = .held o then .free else H d

/-- Registering changes no resource that is held. -/
lemma add_of_held {k : κ} (hd : H d = .held o) : H.add k d = .held o := by
  unfold add
  rw [hd]
  simp

/-- What the owner holds among the list is free after a drop. -/
lemma drop_of_mem {ds : List κ} (h : d ∈ ds) (hd : H d = .held o) : H.drop ds o d = .free :=
  if_pos ⟨h, hd⟩

/-- A drop changes no resource the owner does not hold. -/
lemma drop_of_ne {ds : List κ} (hd : H d ≠ .held o) : H.drop ds o d = H d :=
  if_neg fun h => hd h.2

/-- A drop changes no resource outside the list. -/
lemma drop_of_notMem {ds : List κ} (h : d ∉ ds) : H.drop ds o d = H d := if_neg fun hc => h hc.1

/-- A drop makes nothing absent. -/
lemma drop_ne_absent {ds : List κ} (h : H d ≠ .absent) : H.drop ds o d ≠ .absent := by
  unfold drop
  split_ifs
  · simp
  · exact h

/-- Dropping nothing changes nothing. -/
@[simp] lemma drop_nil (o : ω) : H.drop [] o = H := by
  funext d
  exact drop_of_notMem List.not_mem_nil

/-- Dropping one list and then another is dropping both. -/
lemma drop_drop (ds es : List κ) (o : ω) : (H.drop ds o).drop es o = H.drop (ds ++ es) o := by
  funext d
  by_cases ho : H d = .held o
  · by_cases hd : d ∈ ds
    · simp [drop, ho, hd]
    · simp [drop, ho, hd]
  · simp [drop, ho]

/-- A drop depends on which resources are listed, not on how often. -/
lemma drop_congr {ds es : List κ} (h : ∀ d, d ∈ ds ↔ d ∈ es) (o : ω) :
    H.drop ds o = H.drop es o := by
  funext d
  simp only [drop, h]

end Holdings

/-! ## Calls -/

/-- A call: a registration (of the key it stores, if it stores one), a request or a return. -/
inductive Call (κ ω : Type*)
  | add (k : Option κ)
  | take (ds : List κ) (o : ω)
  | drop (ds : List κ) (o : ω)

/-- The owner that makes the call. -/
def Call.owner : Call κ ω → Option ω
  | .add _ => none
  | .take _ o => some o
  | .drop _ o => some o

variable [DecidableEq κ] [DecidableEq ω]

/-- The state a call leaves; a request that cannot be met changes nothing. -/
def Holdings.after (H : Holdings κ ω) : Call κ ω → Holdings κ ω
  | .add none => H
  | .add (some k) => H.add k
  | .take ds o => if H.CanTake ds then H.take ds o else H
  | .drop ds o => H.drop ds o

/-- **Persistence.** A call of another owner leaves a held resource alone. -/
theorem Holdings.held_after_call {H : Holdings κ ω} {d : κ} {o : ω} (h : H d = .held o)
    {c : Call κ ω} (hc : c.owner ≠ some o) : H.after c d = .held o := by
  cases c with
  | add k =>
      cases k with
      | none => exact h
      | some k => exact add_of_held h
  | take ds p =>
      rw [after]
      split_ifs with hfree
      · rw [take_of_notMem, h]
        intro hd
        exact not_canTake hd h hfree
      · exact h
  | drop ds p =>
      rw [after, drop_of_ne, h]
      rw [h]
      intro heq
      cases heq
      exact hc rfl

end HardwareTest.Lib
