import Mathlib.Data.List.Basic
import Mathlib.Tactic.Common

/-!
# Accesses inside an array

An access to an array of `n` cells is an `Option`: it fails at an index outside the array, and so
does everything after it. A program written with these accesses and returning `some` has stayed
inside.

* `loadAt`, `storeAt`: one access; `storeAt_of_lt` and `loadAt_of_lt` are the ones inside.
* `copy_of_set`: a variable beside the array that follows its first cell.
* `foldlM_eq_some_foldl`: a loop whose body stays inside is the plain loop.
* `foldlM_storeAt_range`: writing one value to the first cells.
-/

namespace HardwareTest.Lib

variable {α β γ : Type*} {n : ℕ}

/-- Read a cell. -/
def loadAt (v : Vector α n) (i : ℕ) : Option α := v[i]?

/-- Write a cell. -/
def storeAt (v : Vector α n) (i : ℕ) (a : α) : Option (Vector α n) :=
  if h : i < n then some (v.set i a h) else none

/-- A read inside the array. -/
lemma loadAt_of_lt (v : Vector α n) {i : ℕ} (h : i < n) : loadAt v i = some v[i] :=
  Vector.getElem?_eq_getElem h

/-- A write inside the array. -/
lemma storeAt_of_lt (v : Vector α n) {i : ℕ} (h : i < n) (a : α) :
    storeAt v i a = some (v.set i a h) := dif_pos h

/-- A copy of the first cell, taken when that cell is written, stays a copy. -/
lemma copy_of_set {v : Vector α n} {i : ℕ} (hi : i < n) {a copy : α}
    (h : 0 < i → copy = v[0]) : (if i = 0 then a else copy) = (v.set i a)[0] := by
  rw [Vector.getElem_set]
  split_ifs with hzero
  · rfl
  · exact h (Nat.pos_of_ne_zero hzero)

/-- A loop whose body always returns is the plain loop. -/
lemma foldlM_eq_some_foldl {f : β → γ → Option β} {g : β → γ → β}
    (h : ∀ b c, f b c = some (g b c)) (l : List γ) (b : β) :
    l.foldlM f b = some (l.foldl g b) := by
  induction l generalizing b with
  | nil => rfl
  | cons c l ih =>
      rw [List.foldlM_cons, h, List.foldl_cons]
      exact ih (g b c)

/-- **The loop that writes one value** to the first `k` cells, of an array that has as many. -/
lemma foldlM_storeAt_range (v : Vector α n) (a : α) {k : ℕ} (hk : k ≤ n) :
    (List.range k).foldlM (fun v i => storeAt v i a) v =
      some (Vector.ofFn fun i => if i < k then a else v.get i) := by
  induction k with
  | zero =>
      have hsame : (Vector.ofFn fun i : Fin n => if i.val < 0 then a else v.get i) = v := by
        ext i hi
        simp [Vector.get]
      rw [hsame]
      rfl
  | succ k ih =>
      rw [List.range_succ, List.foldlM_append, ih (by omega), Option.bind_eq_bind,
        Option.bind_some, List.foldlM_cons, storeAt_of_lt _ hk]
      show some _ = some _
      congr 1
      ext i hi
      rw [Vector.getElem_set, Vector.getElem_ofFn, Vector.getElem_ofFn]
      simp only
      split_ifs
      all_goals first | rfl | omega

end HardwareTest.Lib
