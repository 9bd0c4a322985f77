import Mathlib.Data.List.Nodup
import Mathlib.Data.List.ProdSigma
import Mathlib.Data.List.Perm.Basic
import Mathlib.Tactic.Common

/-!
# Nested-loop joins

A nested loop over two lists that keeps the pairs with equal keys computes a join. When the keys
of one side are pairwise distinct, every element of the other side is met at most once:

* `length_filter_key_le_one`: a key is found at most once;
* `length_join_le`: the join is no longer than its outer list;
* `length_join_eq_countP`: with any keys, the join is as long as there are pairs that match;
* `join_perm_semijoin`: looping over the keyed side and collecting the matches of the other side
  is, up to order, filtering the other side by "some key matches".
-/

namespace HardwareTest.Lib

variable {α β κ : Type*} [DecidableEq κ]

/-- Distinct keys: at most one element has a given key. -/
lemma length_filter_key_le_one {l : List α} {key : α → κ} (h : (l.map key).Nodup) (k : κ) :
    (l.filter fun a => key a = k).length ≤ 1 := by
  have hcount := List.nodup_iff_count_le_one.mp h k
  rw [List.count, List.countP_map, List.countP_eq_length_filter] at hcount
  simpa only [Function.comp_def, beq_eq_decide] using hcount

/-- A join in which every outer element has at most one partner is no longer than its outer
list. -/
lemma length_join_le {l : List α} {g : α → List β} (h : ∀ a ∈ l, (g a).length ≤ 1) :
    (l.flatMap g).length ≤ l.length := by
  induction l with
  | nil => simp
  | cons a l ih =>
      have ha := h a (by simp)
      have hl := ih fun b hb => h b (List.mem_cons_of_mem _ hb)
      rw [List.flatMap_cons, List.length_append, List.length_cons]
      omega

/-- A join has as many elements as there are pairs that match. -/
lemma length_join_eq_countP {γ : Type*} (l : List α) (m : List β) (p : α → β → Bool)
    (f : α → β → γ) :
    (l.flatMap fun a => (m.filter (p a)).map (f a)).length =
      (l ×ˢ m).countP fun x => p x.1 x.2 := by
  induction l with
  | nil => rfl
  | cons a l ih =>
      rw [List.flatMap_cons, List.length_append, ih, List.length_map, List.product_cons,
        List.countP_append, List.countP_map, ← List.countP_eq_length_filter]
      rfl

/-- Filtering by a disjunction of two exclusive tests, up to order. -/
lemma filter_or_perm {p q : β → Bool} (l : List β) (hpq : ∀ b ∈ l, p b = true → q b = false) :
    (l.filter p ++ l.filter q).Perm (l.filter fun b => p b || q b) := by
  induction l with
  | nil => simp
  | cons b l ih =>
      have ih := ih fun c hc => hpq c (List.mem_cons_of_mem _ hc)
      have hb := hpq b (by simp)
      cases hp : p b with
      | true =>
          have hq := hb hp
          simpa [List.filter_cons, hp, hq] using ih
      | false =>
          cases hq : q b with
          | true =>
              simp only [List.filter_cons, hp, hq, Bool.false_eq_true, if_false, if_true,
                Bool.false_or]
              exact List.perm_middle.trans (ih.cons b)
          | false => simpa [List.filter_cons, hp, hq] using ih

/-- **The join from the keyed side.** With distinct keys, collecting the matches of each keyed
element gives every element that some key matches, each exactly as often as it is listed. -/
theorem join_perm_semijoin {keyed : List α} {key : α → κ} (hkey : (keyed.map key).Nodup)
    (l : List β) (ref : β → κ) :
    (keyed.flatMap fun a => l.filter fun b => decide (ref b = key a)).Perm
      (l.filter fun b => decide (ref b ∈ keyed.map key)) := by
  induction keyed with
  | nil => simp
  | cons a keyed ih =>
      rw [List.map_cons, List.nodup_cons] at hkey
      rw [List.flatMap_cons]
      refine ((ih hkey.2).append_left _).trans ((filter_or_perm l ?_).trans ?_)
      · intro b _ hb
        rw [decide_eq_true_eq] at hb
        rw [decide_eq_false_iff_not, hb]
        exact hkey.1
      · simp [Bool.decide_or]

end HardwareTest.Lib
