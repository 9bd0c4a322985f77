import HardwareTest.Lib.Ledger
import Mathlib.Data.Multiset.MapFold

/-!
# A library inside a program

A program holds objects of its own beside those of a library it calls. A computation over the
ledger of the library runs inside the program: it sees its own part of the log.

* `Inclusion`: the objects of the library among those of the program. What has no parent in the
  library may belong to an object of the program (`root`), which must not be given back before.
* `Inclusion.within`: a computation over the library, run on its part of the ledger.
* `Spec.within`: **the frame rule**. What the computation does to the objects of the library it
  does inside the program, and everything else that is held stays held.
-/

namespace HardwareTest.Lib

open Resource

variable {ω ω' : Type} [Resource ω] [Resource ω']

/-- The objects of a library among those of a program. -/
structure Inclusion (ω ω' : Type) [Resource ω] [Resource ω'] where
  wrap : ω → ω'
  unwrap : ω' → Option ω
  /-- What the objects without a parent in the library belong to. -/
  root : Option ω'
  unwrap_eq_some : ∀ y x, unwrap y = some x ↔ y = wrap x
  number_wrap : ∀ x, number (wrap x) = number x
  parent_wrap : ∀ x, parent (wrap x) = ((parent x).map wrap).or root
  /-- Nothing else is made from an object of the library. -/
  parent_outside : ∀ y x, unwrap y = none → parent y ≠ some (wrap x)
  root_outside : ∀ x, root ≠ some (wrap x)

/-- An event of the library as one of the program. -/
def Event.map (f : ω → ω') : Event ω → Event ω'
  | .acquire o => .acquire (f o)
  | .use o => .use (f o)
  | .release o => .release (f o)

/-- An event of the program as one of the library, if it is about an object of it. -/
def Event.part (f : ω' → Option ω) : Event ω' → Option (Event ω)
  | .acquire o => (f o).map .acquire
  | .use o => (f o).map .use
  | .release o => (f o).map .release

/-- A log says what is held after it. -/
lemma Orderly.held_unique {l : List (Event ω)} {S T : Multiset ω} (hS : Orderly l S)
    (hT : Orderly l T) : S = T := by
  classical
  ext x
  have hbalance := hS.count_release_add x
  have hbalance' := hT.count_release_add x
  omega

namespace Inclusion

variable (e : Inclusion ω ω')

/-- What the library sees of the ledger. -/
def part (w : Ledger ω') : Ledger ω := ⟨w.calls, w.log.filterMap (Event.part e.unwrap)⟩

/-- A computation over the library, run inside the program. -/
def within {α : Type} (p : Program ω α) : Program ω' α := fun w =>
  (p (e.part w)).map fun r =>
    (r.1, ⟨max w.calls r.2.calls,
      w.log ++ (r.2.log.drop (e.part w).log.length).map (Event.map e.wrap)⟩)

variable {e}

@[simp] lemma unwrap_wrap (x : ω) : e.unwrap (e.wrap x) = some x :=
  (e.unwrap_eq_some _ _).mpr rfl

lemma wrap_injective : Function.Injective e.wrap := by
  intro x y h
  have hx := e.unwrap_wrap x
  rw [h, unwrap_wrap] at hx
  exact (Option.some.inj hx).symm

/-- The objects of the library that are held. -/
lemma mem_filterMap_unwrap {S : Multiset ω'} {x : ω} :
    x ∈ S.filterMap e.unwrap ↔ e.wrap x ∈ S := by
  rw [Multiset.mem_filterMap]
  constructor
  · rintro ⟨y, hy, hunwrap⟩
    rwa [(e.unwrap_eq_some _ _).mp hunwrap] at hy
  · exact fun h => ⟨_, h, unwrap_wrap x⟩

/-- Of what the program holds, the library sees its own. -/
lemma filterMap_unwrap {P : Multiset ω} {R : Multiset ω'} (hR : ∀ y ∈ R, e.unwrap y = none) :
    (P.map e.wrap + R).filterMap e.unwrap = P := by
  have hpart : (P.map e.wrap).filterMap e.unwrap = P := by
    rw [Multiset.filterMap_map]
    simp only [Function.comp_def, unwrap_wrap, Multiset.filterMap_some]
  have hrest : R.filterMap e.unwrap = 0 := by
    apply Multiset.eq_zero_of_forall_notMem
    intro x hx
    obtain ⟨y, hy, hunwrap⟩ := (Multiset.mem_filterMap _ _).mp hx
    rw [hR y hy] at hunwrap
    cases hunwrap
  rw [Multiset.filterMap_add, hpart, hrest, Multiset.add_zero]

/-- An event of the library is seen by it. -/
lemma acquire_mem_part {l : List (Event ω')} {x : ω} :
    .acquire x ∈ l.filterMap (Event.part e.unwrap) ↔ .acquire (e.wrap x) ∈ l := by
  rw [List.mem_filterMap]
  constructor
  · rintro ⟨event, hevent, hpart⟩
    cases event with
    | acquire y =>
        obtain ⟨x', hunwrap, hx⟩ := Option.map_eq_some_iff.mp hpart
        cases hx
        rwa [(e.unwrap_eq_some _ _).mp hunwrap] at hevent
    | use y =>
        obtain ⟨x', -, hx⟩ := Option.map_eq_some_iff.mp hpart
        cases hx
    | release y =>
        obtain ⟨x', -, hx⟩ := Option.map_eq_some_iff.mp hpart
        cases hx
  · exact fun h => ⟨_, h, by rw [Event.part, unwrap_wrap]; rfl⟩

/-- **The part of an orderly log is orderly**, and the library holds its own objects after it. -/
lemma orderly_part {l : List (Event ω')} {S : Multiset ω'} (h : Orderly l S) :
    Orderly (l.filterMap (Event.part e.unwrap)) (S.filterMap e.unwrap) := by
  induction h with
  | start => exact .start
  | @next l T S event h hfollows ih =>
      rw [List.filterMap_append]
      cases event with
      | acquire y =>
          obtain ⟨hfresh, hparent, rfl⟩ := hfollows
          rcases hy : e.unwrap y with _ | x
          · rw [Multiset.filterMap_cons_none _ _ hy]
            simpa [Event.part, hy] using ih
          · obtain rfl := (e.unwrap_eq_some _ _).mp hy
            rw [Multiset.filterMap_cons_some _ _ _ hy]
            have hlast : [Event.acquire (e.wrap x)].filterMap (Event.part e.unwrap) =
                [.acquire x] := by simp [Event.part]
            rw [hlast]
            refine ih.next (e := .acquire x)
              ⟨fun hold => hfresh (acquire_mem_part.mp hold), ?_, rfl⟩
            intro p hp
            rw [mem_filterMap_unwrap]
            exact hparent _ (by rw [e.parent_wrap, hp]; rfl)
      | use y =>
          obtain ⟨hheld, rfl⟩ := hfollows
          rcases hy : e.unwrap y with _ | x
          · simpa [Event.part, hy] using ih
          · obtain rfl := (e.unwrap_eq_some _ _).mp hy
            have hlast : [Event.use (e.wrap x)].filterMap (Event.part e.unwrap) = [.use x] := by
              simp [Event.part]
            rw [hlast]
            exact ih.next (e := .use x) ⟨mem_filterMap_unwrap.mpr hheld, rfl⟩
      | release y =>
          obtain ⟨rfl, hchildren⟩ := hfollows
          rcases hy : e.unwrap y with _ | x
          · rw [Multiset.filterMap_cons_none _ _ hy] at ih
            simpa [Event.part, hy] using ih
          · obtain rfl := (e.unwrap_eq_some _ _).mp hy
            rw [Multiset.filterMap_cons_some _ _ _ hy] at ih
            have hlast : [Event.release (e.wrap x)].filterMap (Event.part e.unwrap) =
                [.release x] := by simp [Event.part]
            rw [hlast]
            refine ih.next (e := .release x) ⟨rfl, fun c hc hp => ?_⟩
            rw [← Multiset.filterMap_cons_some _ _ _ hy, mem_filterMap_unwrap] at hc
            exact hchildren _ hc (by rw [e.parent_wrap, hp]; rfl)

/-- What the library has acquired, before and after its events go on. -/
lemma acquire_mem_part_append {l : List (Event ω')} {m : List (Event ω)} {x : ω} :
    .acquire x ∈ l.filterMap (Event.part e.unwrap) ++ m ↔
      .acquire (e.wrap x) ∈ l ++ m.map (Event.map e.wrap) := by
  rw [List.mem_append, List.mem_append, acquire_mem_part, List.mem_map]
  refine or_congr_right ⟨fun hm => ⟨_, hm, rfl⟩, ?_⟩
  rintro ⟨event, hevent, hmap⟩
  cases event with
  | acquire x' =>
      obtain rfl := wrap_injective (Event.acquire.inj hmap)
      exact hevent
  | use x' => cases hmap
  | release x' => cases hmap

/-- **The events of the library go on** from its part of an orderly log: what it holds after them is
held beside the rest. -/
lemma orderly_append {l : List (Event ω')} {P : Multiset ω} {R : Multiset ω'}
    (h : Orderly l (P.map e.wrap + R)) (hR : ∀ y ∈ R, e.unwrap y = none)
    (hroot : ∀ p, e.root = some p → p ∈ R) {m : List (Event ω)} {S : Multiset ω}
    (hm : Orderly (l.filterMap (Event.part e.unwrap) ++ m) S) :
    Orderly (l ++ m.map (Event.map e.wrap)) (S.map e.wrap + R) := by
  induction m using List.reverseRec generalizing S with
  | nil =>
      have hpart := orderly_part (e := e) h
      rw [filterMap_unwrap hR] at hpart
      rw [List.append_nil] at hm
      rw [hm.held_unique hpart]
      simpa using h
  | append_singleton m event ih =>
      rw [← List.append_assoc] at hm
      obtain ⟨T, hT, hfollows⟩ := hm.last
      rw [List.map_append, ← List.append_assoc]
      refine (ih hT).next ?_
      cases event with
      | acquire x =>
          obtain ⟨hfresh, hparent, rfl⟩ := hfollows
          refine ⟨fun hold => hfresh (acquire_mem_part_append.mpr hold), fun p hp => ?_, ?_⟩
          · rw [e.parent_wrap] at hp
            rcases hx : parent x with _ | q
            · rw [hx] at hp
              exact Multiset.mem_add.mpr (.inr (hroot p hp))
            · rw [hx] at hp
              cases hp
              exact Multiset.mem_add.mpr (.inl (Multiset.mem_map_of_mem _ (hparent q hx)))
          · rw [Multiset.map_cons, Multiset.cons_add]
      | use x =>
          obtain ⟨hheld, rfl⟩ := hfollows
          exact ⟨Multiset.mem_add.mpr (.inl (Multiset.mem_map_of_mem _ hheld)), rfl⟩
      | release x =>
          obtain ⟨rfl, hchildren⟩ := hfollows
          refine ⟨by rw [Multiset.map_cons, Multiset.cons_add], fun c hc hp => ?_⟩
          rcases Multiset.mem_add.mp hc with hc | hc
          · obtain ⟨c, hc', rfl⟩ := Multiset.mem_map.mp hc
            rw [e.parent_wrap] at hp
            rcases hpc : parent c with _ | q
            · rw [hpc] at hp
              exact e.root_outside x hp
            · rw [hpc] at hp
              cases wrap_injective (Option.some.inj hp)
              exact hchildren c hc' hpc
          · exact e.parent_outside c x (hR c hc) hp

end Inclusion

namespace Spec

variable {e : Inclusion ω ω'} {α : Type} {P : Multiset ω} {R : Multiset ω'} {p : Program ω α}
  {H : α → Multiset ω} {Q : α → Prop}

/-- **The frame rule.** A computation over the library does inside a program what it does alone, and
the rest of what is held stays held. -/
theorem within (hp : Spec P p H Q) (hR : ∀ y ∈ R, e.unwrap y = none)
    (hroot : ∀ r, e.root = some r → r ∈ R) :
    Spec (P.map e.wrap + R) (e.within p) (fun a => (H a).map e.wrap + R) Q := by
  intro w hw
  have hpart : (e.part w).Owns P := by
    refine ⟨?_, fun x hx => ?_⟩
    · have horderly := Inclusion.orderly_part (e := e) hw.orderly
      rwa [Inclusion.filterMap_unwrap hR] at horderly
    · rw [← e.number_wrap]
      exact hw.numbered _ (Inclusion.acquire_mem_part.mp hx)
  obtain ⟨a, v, hrun, hv, hQ, m, hm⟩ := hp _ hpart
  refine ⟨a, ⟨max w.calls v.calls, w.log ++ m.map (Event.map e.wrap)⟩, ?_, ⟨?_, ?_⟩, hQ,
    List.prefix_append _ _⟩
  · have hdrop : v.log.drop (e.part w).log.length = m := by rw [← hm, List.drop_left]
    show (p (e.part w)).map _ = _
    rw [show p (e.part w) = some (a, v) from hrun, Option.map_some, hdrop]
  · exact Inclusion.orderly_append hw.orderly hR hroot (hm ▸ hv.orderly)
  · intro y hy
    rcases List.mem_append.mp hy with hy | hy
    · exact Nat.lt_of_lt_of_le (hw.numbered y hy) (Nat.le_max_left _ _)
    · obtain ⟨event, hevent, hmap⟩ := List.mem_map.mp hy
      cases event with
      | acquire x =>
          cases hmap
          rw [e.number_wrap]
          have hmem : .acquire x ∈ v.log := hm ▸ List.mem_append_right _ hevent
          exact Nat.lt_of_lt_of_le (hv.numbered x hmem) (Nat.le_max_right _ _)
      | use x => cases hmap
      | release x => cases hmap

end Spec

end HardwareTest.Lib
