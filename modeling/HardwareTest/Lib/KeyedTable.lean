import Mathlib.Data.List.Basic
import Mathlib.Tactic.Common

/-!
# First-match lookup in a list of keyed entries

A table scanned from the front for the first entry of a key: `indexOf` is the position the scan
finds and `lookup` the entry there. The lemmas say what a lookup sees after an entry found by key
is rewritten in place (`lookup_modify_same`, `lookup_modify_other`) or an entry is appended
(`lookup_append`). Keys may repeat; only the first entry of a key is ever seen.
-/

namespace HardwareTest.Lib

variable {α κ : Type*} [DecidableEq κ] (key : α → κ)

/-- The position of the first entry with a key. -/
def indexOf (l : List α) (k : κ) : Option ℕ := l.findIdx? fun a => decide (key a = k)

/-- The first entry with a key. -/
def lookup (l : List α) (k : κ) : Option α := l.find? fun a => decide (key a = k)

variable {key}

@[simp] lemma lookup_nil (k : κ) : lookup key [] k = none := rfl

lemma lookup_cons (a : α) (l : List α) (k : κ) :
    lookup key (a :: l) k = if key a = k then some a else lookup key l k := by
  unfold lookup
  rw [List.find?_cons]
  by_cases h : key a = k
  · simp [h]
  · simp [h]

lemma indexOf_cons (a : α) (l : List α) (k : κ) :
    indexOf key (a :: l) k = if key a = k then some 0 else (indexOf key l k).map (· + 1) := by
  unfold indexOf
  rw [List.findIdx?_cons]
  by_cases h : key a = k
  · simp [h]
  · simp [h]

/-- The entry looked up is the one at the position found. -/
lemma lookup_eq_getElem? (l : List α) (k : κ) :
    lookup key l k = (indexOf key l k).bind fun i => l[i]? := by
  induction l with
  | nil => rfl
  | cons a l ih =>
      rw [lookup_cons, indexOf_cons]
      split_ifs with h
      · rfl
      · rw [ih]
        cases indexOf key l k <;> rfl

/-- No position is found iff no entry is. -/
lemma indexOf_eq_none_iff (l : List α) (k : κ) : indexOf key l k = none ↔ lookup key l k = none := by
  simp [indexOf, lookup]

/-- No position is found iff no entry has the key. -/
lemma indexOf_eq_none_iff_forall (l : List α) (k : κ) :
    indexOf key l k = none ↔ ∀ a ∈ l, key a ≠ k := by
  simp [indexOf]

/-- An appended entry is found where it is put when no entry before it has its key. -/
lemma indexOf_append_of_none {l : List α} {k : κ} (h : indexOf key l k = none) (a : α) :
    indexOf key (l ++ [a]) k = if key a = k then some l.length else none := by
  induction l with
  | nil => simp [indexOf]
  | cons b l ih =>
      rw [indexOf_cons] at h
      split_ifs at h with hb
      rw [Option.map_eq_none_iff] at h
      rw [List.cons_append, indexOf_cons, if_neg hb, ih h]
      split_ifs <;> rfl

/-- The position found depends on the keys only. -/
lemma indexOf_congr {l l' : List α} (h : l.map key = l'.map key) (k : κ) :
    indexOf key l k = indexOf key l' k := by
  have hkeys : ∀ m : List α, indexOf key m k = (m.map key).findIdx? fun c => decide (c = k) := by
    intro m
    rw [List.findIdx?_map]
    rfl
  rw [hkeys, hkeys, h]

/-- Rewriting the entry found, keeping its key, rewrites what the lookup of that key sees. -/
lemma lookup_modify_same {l : List α} {k : κ} {i : ℕ} {f : α → α} (hf : ∀ a, key (f a) = key a)
    (h : indexOf key l k = some i) : lookup key (l.modify i f) k = (lookup key l k).map f := by
  induction l generalizing i with
  | nil => simp [indexOf] at h
  | cons a l ih =>
      rw [indexOf_cons] at h
      split_ifs at h with hk
      · cases h
        simp [lookup_cons, hf, hk]
      · rw [Option.map_eq_some_iff] at h
        obtain ⟨j, hj, rfl⟩ := h
        rw [List.modify_succ_cons, lookup_cons, lookup_cons, if_neg hk, if_neg hk, ih hj]

/-- Rewriting the entry found under one key leaves the lookups of the other keys alone. -/
lemma lookup_modify_other {l : List α} {k k' : κ} {i : ℕ} {f : α → α}
    (hf : ∀ a, key (f a) = key a) (h : indexOf key l k = some i) (hne : k' ≠ k) :
    lookup key (l.modify i f) k' = lookup key l k' := by
  induction l generalizing i with
  | nil => simp [indexOf] at h
  | cons a l ih =>
      rw [indexOf_cons] at h
      split_ifs at h with hk
      · cases h
        have hk' : key a ≠ k' := fun hc => hne (hc.symm.trans hk)
        simp [lookup_cons, hf, hk']
      · rw [Option.map_eq_some_iff] at h
        obtain ⟨j, hj, rfl⟩ := h
        rw [List.modify_succ_cons, lookup_cons, lookup_cons, ih hj]

/-- An appended entry is seen under its key when no entry before it has that key. -/
lemma lookup_append (l : List α) (a : α) (k : κ) :
    lookup key (l ++ [a]) k = (lookup key l k).or (if key a = k then some a else none) := by
  unfold lookup
  rw [List.find?_append]
  congr 1
  exact lookup_cons a [] k

end HardwareTest.Lib
