import Mathlib.Data.List.TakeDrop
import Mathlib.Data.List.Basic
import Mathlib.Tactic.Common

/-!
# Fixed-capacity tables

A C table `T entries[N]` with a separate counter is a `FixedTable α n`: `n` cells and a `count`
that nothing ties to the cells. `items` are the entries below the count, which is all a reader
of the table sees.

* `get?` is the bounds-checked accessor (`index >= count` is refused).
* `loop` is the counted loop `for(i = 0; i < count; i++)` over the accessor; `loop_eq_items` says
  it is a fold over the items.
* `modifyAt` writes one cell. It is `none` when the index lies outside the table: in C that is a
  write to foreign memory, after which nothing is known.
* `store` is the fill idiom with a local index (`t[k] = x; t.count = k + 1; k++`), and `storeAll`
  a whole series of stores. `storeAll_eq_some` gives the items of a filled table and
  `storeAll_isSome_iff` says exactly when the series stays inside.
* `push` appends behind a bound check and `removeAt` shifts the later entries down; `items_push`
  and `items_removeAt` say what they do to the items.
* `mapItems` rewrites every entry below the counter, and only these (`getElem?_mapItems`).
-/

namespace HardwareTest.Lib

/-- A table of `n` cells with a separate entry counter. -/
structure FixedTable (α : Type*) (n : ℕ) where
  /-- The cells. -/
  entries : Vector α n
  /-- The counter. -/
  count : ℕ

namespace FixedTable

variable {α β : Type*} {n : ℕ}

/-- The entries below the counter. -/
def items (t : FixedTable α n) : List α := t.entries.toList.take t.count

/-- The bounds-checked accessor. -/
def get? (t : FixedTable α n) (i : ℕ) : Option α :=
  if i < t.count then t.entries.toList[i]? else none

/-- The counter stays within the capacity. -/
def WithinLimit (t : FixedTable α n) : Prop := t.count ≤ n

instance (t : FixedTable α n) : Decidable t.WithinLimit := inferInstanceAs (Decidable (_ ≤ _))

/-- A table that holds the entries of a list, padded with `d`. -/
def ofList (n : ℕ) (d : α) (l : List α) : FixedTable α n where
  entries := Vector.ofFn fun i : Fin n => l.getD i d
  count := l.length

/-- The accessor reads the items. -/
lemma get?_eq_items (t : FixedTable α n) (i : ℕ) : t.get? i = t.items[i]? := by
  unfold get? items
  rw [List.getElem?_take]

/-- A table within its limit has as many items as it counts. -/
lemma WithinLimit.length_items {t : FixedTable α n} (h : t.WithinLimit) :
    t.items.length = t.count := by
  have hlen : t.entries.toList.length = n := by simp
  unfold items
  rw [List.length_take, hlen]
  exact Nat.min_eq_left h

/-- There are never more items than cells. -/
lemma length_items_le (t : FixedTable α n) : t.items.length ≤ n := by
  unfold items
  rw [List.length_take, Vector.length_toList]
  exact Nat.min_le_right _ _

/-- There are never more items than counted. -/
lemma length_items_le_count (t : FixedTable α n) : t.items.length ≤ t.count := by
  unfold items
  rw [List.length_take]
  exact Nat.min_le_left _ _

/-- A list that fits is read back from its table. -/
@[simp] lemma items_ofList (d : α) {l : List α} (h : l.length ≤ n) : (ofList n d l).items = l := by
  apply List.ext_getElem
  · simp [items, ofList, h]
  · intro i hi₁ hi₂
    simp [items, ofList, List.getElem?_eq_getElem hi₂]

/-! ## The counted loop -/

/-- A loop body behind an accessor that may fail: `if(0 != get(...)) continue;`. -/
def orContinue (f : β → α → Option β) (b : β) : Option α → Option β
  | none => some b
  | some a => f b a

/-- `for(i = 0; i < count; i++)` over the accessor; an index it refuses is skipped. -/
def loop (t : FixedTable α n) (f : β → α → Option β) (b : β) : Option β :=
  (List.range t.count).foldlM (fun b i => orContinue f b (t.get? i)) b

/-- Bodies that agree on the elements of a list fold alike. -/
lemma foldlM_congr_mem {γ : Type*} {f g : β → γ → Option β} (b : β) {l : List γ}
    (h : ∀ b, ∀ c ∈ l, f b c = g b c) : l.foldlM f b = l.foldlM g b := by
  induction l generalizing b with
  | nil => rfl
  | cons c l ih =>
      rw [List.foldlM_cons, List.foldlM_cons, h b c (by simp)]
      exact congrArg (g b c).bind (funext fun b => ih b fun b d hd => h b d (by simp [hd]))

/-- **Loop invariant.** What the body keeps, a loop that does not fail keeps. -/
lemma foldlM_invariant {γ : Type*} {f : β → γ → Option β} {P : β → Prop}
    (keep : ∀ b c b', P b → f b c = some b' → P b') {l : List γ} {b b' : β} (hb : P b)
    (h : l.foldlM f b = some b') : P b' := by
  induction l generalizing b with
  | nil =>
      cases h
      exact hb
  | cons c l ih =>
      rw [List.foldlM_cons, Option.bind_eq_bind, Option.bind_eq_some_iff] at h
      obtain ⟨b₁, hb₁, h⟩ := h
      exact ih (keep b c b₁ hb hb₁) h

/-- A scan that goes on past the first hit stops there when the hit has what is looked for. -/
lemma findSome?_of_find? {l : List α} {p : α → Bool} {a : α} {g : α → Option β} {b : β}
    (h : l.find? p = some a) (hg : g a = some b) :
    (l.findSome? fun x => if p x then g x else none) = some b := by
  induction l with
  | nil => simp at h
  | cons x l ih =>
      rw [List.findSome?_cons]
      rw [List.find?_cons] at h
      cases hp : p x with
      | true =>
          rw [hp] at h
          cases h
          simp [hg]
      | false =>
          rw [hp] at h
          simpa using ih h

/-- An indexed fold over the positions of a list, and past its end, is the fold over the list. -/
lemma foldlM_range_getElem? (l : List α) (f : β → α → Option β) {k : ℕ} (hk : l.length ≤ k)
    (b : β) :
    (List.range k).foldlM (fun b i => orContinue f b l[i]?) b = l.foldlM f b := by
  induction l generalizing k b with
  | nil =>
      clear hk
      induction k with
      | zero => rfl
      | succ k ih => rw [List.range_succ, List.foldlM_append, ih]; rfl
  | cons a l ih =>
      obtain ⟨k, rfl⟩ : ∃ m, k = m + 1 := ⟨k - 1, by simp at hk; omega⟩
      rw [List.range_succ_eq_map, List.foldlM_cons, List.foldlM_cons]
      refine congrArg (fun g => f b a >>= g) (funext fun c => ?_)
      rw [List.foldlM_map]
      simpa using ih (by simpa using hk) c

/-- A loop that skips the failed lookups is a loop over the successful ones. -/
lemma foldlM_orContinue {γ : Type*} (g : γ → Option α) (f : β → α → Option β) (l : List γ) (b : β) :
    l.foldlM (fun b c => orContinue f b (g c)) b = (l.filterMap g).foldlM f b := by
  induction l generalizing b with
  | nil => rfl
  | cons c l ih =>
      rw [List.foldlM_cons, List.filterMap_cons]
      rcases g c with _ | a
      · exact ih b
      · rw [List.foldlM_cons]
        exact congrArg (f b a).bind (funext ih)

/-- The counted loop is the fold over the items. -/
theorem loop_eq_items (t : FixedTable α n) (f : β → α → Option β) (b : β) :
    t.loop f b = t.items.foldlM f b := by
  unfold loop
  simp only [get?_eq_items]
  exact foldlM_range_getElem? t.items f t.length_items_le_count b

/-! ## Writing -/

/-- Write one cell; `none` when the index lies outside the table. -/
def modifyAt (t : FixedTable α n) (i : ℕ) (f : α → α) : Option (FixedTable α n) :=
  if h : i < n then some { t with entries := t.entries.set i (f t.entries[i]) } else none

/-- A write inside the table succeeds. -/
lemma modifyAt_of_lt (t : FixedTable α n) {i : ℕ} (f : α → α) (h : i < n) :
    t.modifyAt i f = some { t with entries := t.entries.set i (f t.entries[i]) } := dif_pos h

/-- Writing a cell leaves the counter alone. -/
lemma count_of_modifyAt {t t' : FixedTable α n} {i : ℕ} {f : α → α}
    (h : t.modifyAt i f = some t') : t'.count = t.count := by
  unfold modifyAt at h
  split at h
  · cases h; rfl
  · cases h

/-- The fill idiom: write the cell at the local index, set the counter past it, advance. -/
def store (st : FixedTable α n × ℕ) (a : α) : Option (FixedTable α n × ℕ) :=
  if h : st.2 < n then some (⟨st.1.entries.set st.2 a, st.2 + 1⟩, st.2 + 1) else none

/-- A series of stores. -/
def storeAll (st : FixedTable α n × ℕ) (l : List α) : Option (FixedTable α n × ℕ) :=
  l.foldlM store st

/-- A series of stores, one store at a time. -/
lemma storeAll_cons (st : FixedTable α n × ℕ) (a : α) (l : List α) :
    storeAll st (a :: l) = (store st a).bind fun st' => storeAll st' l := rfl

/-- The cells below the local index after one store. -/
lemma take_set_succ (v : Vector α n) {k : ℕ} (h : k < n) (a : α) :
    (v.set k a).toList.take (k + 1) = v.toList.take k ++ [a] := by
  have hlen : k < v.toList.length := by simpa using h
  rw [Vector.toList_set, List.set_eq_take_append_cons_drop, if_pos hlen,
    List.take_append, List.take_take, List.length_take, Nat.min_eq_left (Nat.le_of_lt hlen)]
  simp

/-- **What a series of stores leaves behind.** It succeeds only when it fits, the local index
has advanced by its length, the cells below it are the old ones followed by the stored list, and
the counter is the local index unless nothing was stored. -/
theorem storeAll_eq_some {s : FixedTable α n × ℕ} (hst : s.2 ≤ n) {l : List α}
    {s' : FixedTable α n × ℕ} (h : storeAll s l = some s') :
    s.2 + l.length ≤ n ∧ s'.2 = s.2 + l.length ∧
      s'.1.entries.toList.take s'.2 = s.1.entries.toList.take s.2 ++ l ∧
      s'.1.count = if l = [] then s.1.count else s'.2 := by
  induction l generalizing s with
  | nil =>
      cases h
      exact ⟨by simpa using hst, rfl, by simp, by simp⟩
  | cons a l ih =>
      rw [storeAll_cons, Option.bind_eq_some_iff] at h
      obtain ⟨mid, hmid, h⟩ := h
      unfold store at hmid
      by_cases hk : s.2 < n
      · rw [dif_pos hk] at hmid
        cases hmid
        obtain ⟨hfit, hidx, hcells, hcount⟩ :=
          ih (s := (⟨s.1.entries.set s.2 a, s.2 + 1⟩, s.2 + 1)) hk h
        simp only at hfit hidx hcells hcount
        refine ⟨by rw [List.length_cons]; omega, by rw [List.length_cons]; omega, ?_, ?_⟩
        · rw [hcells, take_set_succ _ hk, List.append_assoc, List.singleton_append]
        · rw [hcount, if_neg (List.cons_ne_nil a l)]
          split_ifs with hl
          · subst hl
            simpa using hidx.symm
          · rfl
      · rw [dif_neg hk] at hmid
        cases hmid

/-- A series of stores stays inside the table exactly when it fits. -/
theorem storeAll_isSome_iff {s : FixedTable α n × ℕ} (hst : s.2 ≤ n) (l : List α) :
    (storeAll s l).isSome ↔ s.2 + l.length ≤ n := by
  induction l generalizing s with
  | nil => simpa [storeAll] using hst
  | cons a l ih =>
      rw [storeAll_cons, List.length_cons]
      unfold store
      by_cases hk : s.2 < n
      · rw [dif_pos hk, Option.bind_some,
          ih (s := (⟨s.1.entries.set s.2 a, s.2 + 1⟩, s.2 + 1)) hk]
        simp only
        omega
      · rw [dif_neg hk, Option.bind_none]
        simp only [Option.isSome_none, Bool.false_eq_true, false_iff]
        omega

/-- **A fresh fill.** A non-empty list that fits, stored from index 0, becomes the items of the
table, whatever its cells and its counter held before. -/
theorem storeAll_fresh (t : FixedTable α n) {l : List α} (hne : l ≠ []) (hfit : l.length ≤ n) :
    ∃ t' : FixedTable α n, storeAll (t, 0) l = some (t', l.length) ∧ t'.items = l := by
  have hsome := (storeAll_isSome_iff (s := (t, 0)) (Nat.zero_le n) l).mpr (by simpa using hfit)
  obtain ⟨⟨t', k⟩, hst⟩ := Option.isSome_iff_exists.mp hsome
  obtain ⟨-, hidx, hcells, hcount⟩ := storeAll_eq_some (Nat.zero_le n) hst
  simp only [Nat.zero_add] at hidx
  refine ⟨t', by rw [hst, hidx], ?_⟩
  unfold items
  rw [hcount, if_neg hne, hcells]
  simp

/-- A fill counts what it has stored iff it has stored something or the counter was zero before. -/
theorem count_storeAll_iff {t : FixedTable α n} {l : List α} {s : FixedTable α n × ℕ}
    (h : storeAll (t, 0) l = some s) : s.1.count = l.length ↔ l ≠ [] ∨ t.count = 0 := by
  obtain ⟨-, hidx, -, hcount⟩ := storeAll_eq_some (Nat.zero_le n) h
  rw [hcount]
  split_ifs with hl
  · simp [hl]
  · simpa [hl] using hidx

/-- A fill that counts what it has stored holds it. -/
lemma items_storeAll {t : FixedTable α n} {l : List α} {s : FixedTable α n × ℕ}
    (h : storeAll (t, 0) l = some s) (hcond : l ≠ [] ∨ t.count = 0) : s.1.items = l := by
  obtain ⟨-, hidx, hcells, -⟩ := storeAll_eq_some (Nat.zero_le n) h
  rw [Nat.zero_add] at hidx
  rw [items, (count_storeAll_iff h).mpr hcond, ← hidx, hcells]
  simp

/-- A fill stays inside its table, counter included, iff what it stores fits and, when it stores
nothing, the counter was within the table before. -/
theorem storeAll_within_iff (t : FixedTable α n) (l : List α) :
    (∃ s, storeAll (t, 0) l = some s ∧ s.1.WithinLimit) ↔
      l.length ≤ n ∧ (l.length = 0 → t.WithinLimit) := by
  have hsome := storeAll_isSome_iff (s := (t, 0)) (Nat.zero_le n) l
  simp only [Nat.zero_add] at hsome
  constructor
  · rintro ⟨s, hs, hwithin⟩
    refine ⟨hsome.mp (by rw [hs]; rfl), fun hl => ?_⟩
    obtain ⟨-, -, -, hcount⟩ := storeAll_eq_some (Nat.zero_le n) hs
    rw [List.length_eq_zero_iff] at hl
    rw [if_pos hl] at hcount
    rwa [WithinLimit, ← hcount]
  · rintro ⟨hfit, hstale⟩
    obtain ⟨s, hs⟩ := Option.isSome_iff_exists.mp (hsome.mpr hfit)
    refine ⟨s, hs, ?_⟩
    obtain ⟨-, hidx, -, hcount⟩ := storeAll_eq_some (Nat.zero_le n) hs
    rw [WithinLimit, hcount]
    split_ifs with hl
    · exact hstale (by rw [hl]; rfl)
    · omega

/-- Storing the concatenation is storing one part after the other. -/
lemma storeAll_append (st : FixedTable α n × ℕ) (l₁ l₂ : List α) :
    storeAll st (l₁ ++ l₂) = (storeAll st l₁).bind fun st' => storeAll st' l₂ := by
  unfold storeAll
  rw [List.foldlM_append]
  rfl

/-- A loop that stores the image of each element passing a test is one series of stores. -/
lemma foldlM_store_filter {γ : Type*} (p : γ → Bool) (g : γ → α) (l : List γ)
    (st : FixedTable α n × ℕ) :
    l.foldlM (fun st c => if p c then store st (g c) else some st) st =
      storeAll st ((l.filter p).map g) := by
  induction l generalizing st with
  | nil => rfl
  | cons c l ih =>
      rw [List.foldlM_cons, List.filter_cons]
      split_ifs with hp
      · rw [List.map_cons, storeAll_cons]
        exact congrArg (store st (g c)).bind (funext fun st' => ih st')
      · exact ih st

/-- A loop that stores the matches of each element stores the concatenated matches. -/
lemma foldlM_storeAll_flatMap {γ : Type*} (g : γ → List α) (l : List γ)
    (st : FixedTable α n × ℕ) :
    l.foldlM (fun st c => storeAll st (g c)) st = storeAll st (l.flatMap g) := by
  induction l generalizing st with
  | nil => rfl
  | cons c l ih =>
      rw [List.foldlM_cons, List.flatMap_cons, storeAll_append]
      exact congrArg (storeAll st (g c)).bind (funext fun st' => ih st')

/-! ## Filling with the counter as index -/

/-- `t[count].x = …; t[count].y = …; count++`: some rewritings of the next entry, then the
counter. -/
def fillEntry (t : FixedTable α n) (fs : List (α → α)) : Option (FixedTable α n) :=
  (fs.foldlM (fun (u : FixedTable α n) f => u.modifyAt u.count f) t).map fun u =>
    { u with count := u.count + 1 }

/-- A loop that fills one entry for every element of a list, whatever the element. -/
def fill {γ : Type*} (fs : ℕ → γ → List (α → α)) (t : FixedTable α n) (l : List γ) :
    Option (FixedTable α n) :=
  l.foldlM (fun (u : FixedTable α n) c => u.fillEntry (fs u.count c)) t

/-- Filling an entry counts one more. -/
lemma count_of_fillEntry {t t' : FixedTable α n} {fs : List (α → α)}
    (h : t.fillEntry fs = some t') : t'.count = t.count + 1 := by
  unfold fillEntry at h
  rw [Option.map_eq_some_iff] at h
  obtain ⟨t₁, ht₁, rfl⟩ := h
  have hcount : t₁.count = t.count := by
    refine foldlM_invariant (P := fun t' => t'.count = t.count) ?_ rfl ht₁
    intro u f u' hu hu'
    rw [count_of_modifyAt hu', hu]
  rw [hcount]

/-- Below the capacity an entry can be filled. -/
lemma fillEntry_of_lt {t : FixedTable α n} (h : t.count < n) (fs : List (α → α)) :
    ∃ t', t.fillEntry fs = some t' := by
  have hall : ∀ u : FixedTable α n, u.count = t.count →
      ∃ u', fs.foldlM (fun (u : FixedTable α n) f => u.modifyAt u.count f) u = some u' := by
    induction fs with
    | nil =>
        intro u _
        exact ⟨u, rfl⟩
    | cons f fs ih =>
        intro u hu
        have hmodify := modifyAt_of_lt u f (show u.count < n by omega)
        obtain ⟨u', hu'⟩ := ih _ ((count_of_modifyAt hmodify).trans hu)
        refine ⟨u', ?_⟩
        rw [List.foldlM_cons, hmodify]
        exact hu'
  obtain ⟨u', hu'⟩ := hall t rfl
  exact ⟨{ u' with count := u'.count + 1 }, by rw [fillEntry, hu']; rfl⟩

/-- **When a filling loop stays inside.** It succeeds with a counter within the capacity iff there
is room for all elements. -/
theorem exists_fill_iff {γ : Type*} (fs : ℕ → γ → List (α → α)) (t : FixedTable α n) (l : List γ) :
    (∃ t', t.fill fs l = some t' ∧ t'.WithinLimit) ↔ t.count + l.length ≤ n := by
  induction l generalizing t with
  | nil =>
      constructor
      · rintro ⟨t', ht', hlim⟩
        cases ht'
        exact hlim
      · intro h
        exact ⟨t, rfl, h⟩
  | cons c l ih =>
      rw [List.length_cons]
      constructor
      · rintro ⟨t', ht', hlim⟩
        unfold fill at ht'
        rw [List.foldlM_cons, Option.bind_eq_bind, Option.bind_eq_some_iff] at ht'
        obtain ⟨t₁, ht₁, ht'⟩ := ht'
        have hrest := (ih t₁).mp ⟨t', ht', hlim⟩
        have hcount := count_of_fillEntry ht₁
        omega
      · intro h
        obtain ⟨t₁, ht₁⟩ := fillEntry_of_lt (show t.count < n by omega) (fs t.count c)
        have hcount := count_of_fillEntry ht₁
        obtain ⟨t', ht', hlim⟩ := (ih t₁).mpr (by omega)
        refine ⟨t', ?_, hlim⟩
        unfold fill
        rw [List.foldlM_cons, ht₁]
        exact ht'

/-! ## Writing consecutive cells -/

/-- Write a list into consecutive cells; what does not fit is left out. -/
def writeFrom (v : Vector α n) (k : ℕ) : List α → Vector α n
  | [] => v
  | a :: l => writeFrom (v.setIfInBounds k a) (k + 1) l

/-- A write inside the vector, with and without the proof that it is inside. -/
lemma set_eq_setIfInBounds (v : Vector α n) {k : ℕ} (h : k < n) (a : α) :
    v.set k a h = v.setIfInBounds k a := by
  ext i hi
  simp [Vector.getElem_set, Vector.getElem_setIfInBounds]

/-- The cells after writing a list that fits. -/
lemma toList_writeFrom (v : Vector α n) {k : ℕ} {l : List α} (h : k + l.length ≤ n) :
    (writeFrom v k l).toList = v.toList.take k ++ l ++ v.toList.drop (k + l.length) := by
  induction l generalizing v k with
  | nil => simp [writeFrom]
  | cons a l ih =>
      have hlen : v.toList.length = n := v.length_toList
      rw [List.length_cons] at h
      unfold writeFrom
      rw [ih _ (by omega), Vector.toList_setIfInBounds, List.length_cons,
        List.set_eq_take_append_cons_drop, if_pos (by omega), List.take_append, List.drop_append]
      have htake : (v.toList.take k).length = k := by
        rw [List.length_take]
        omega
      simp [htake, List.take_take, List.drop_drop, Nat.add_assoc, Nat.add_comm 1]

/-- A list written from the first cell on is read back. -/
lemma take_writeFrom_zero (v : Vector α n) {l : List α} (h : l.length ≤ n) :
    (writeFrom v 0 l).toList.take l.length = l := by
  rw [toList_writeFrom v (by omega), List.take_zero, List.nil_append, List.take_left]

/-- A cell after writing a list that fits. -/
lemma getElem?_writeFrom (v : Vector α n) {k : ℕ} {l : List α} (h : k + l.length ≤ n) (j : ℕ) :
    (writeFrom v k l).toList[j]? =
      if k ≤ j ∧ j < k + l.length then l[j - k]? else v.toList[j]? := by
  have hlen : v.toList.length = n := v.length_toList
  have htake : (v.toList.take k).length = k := by
    rw [List.length_take]
    omega
  rw [toList_writeFrom v h, List.append_assoc]
  rcases Nat.lt_or_ge j k with hbefore | hfrom
  · rw [if_neg (by omega), List.getElem?_append_left (by omega), List.getElem?_take, if_pos hbefore]
  · rw [List.getElem?_append_right (by omega), htake]
    rcases Nat.lt_or_ge j (k + l.length) with hin | hbehind
    · rw [if_pos ⟨hfrom, hin⟩, List.getElem?_append_left (by omega)]
    · rw [if_neg (by omega), List.getElem?_append_right (by omega), List.getElem?_drop]
      congr 1
      omega

/-- A cell after writing from the first one on. -/
lemma getElem?_writeFrom_zero (v : Vector α n) {l : List α} (h : l.length ≤ n) (j : ℕ) :
    (writeFrom v 0 l).toList[j]? = if j < l.length then l[j]? else v.toList[j]? := by
  rw [getElem?_writeFrom v (by omega), Nat.zero_add, Nat.sub_zero]
  simp only [Nat.zero_le, true_and]

/-- **A loop that fills cells.** Let every step either write the next cell and advance the cursor,
or leave both alone. Then a loop over a list that fits writes what its steps pick. -/
lemma foldl_writeFrom {σ γ : Type*} {step : σ → γ → σ} (cells : σ → Vector α n) (cursor : σ → ℕ)
    (pick : γ → Option α) {l : List γ}
    (hpick : ∀ s, ∀ c ∈ l, ∀ a, pick c = some a → cursor s < n →
      cells (step s c) = (cells s).setIfInBounds (cursor s) a ∧ cursor (step s c) = cursor s + 1)
    (hskip : ∀ s, ∀ c ∈ l, pick c = none →
      cells (step s c) = cells s ∧ cursor (step s c) = cursor s) {s : σ}
    (h : cursor s + (l.filterMap pick).length ≤ n) :
    cells (l.foldl step s) = writeFrom (cells s) (cursor s) (l.filterMap pick) ∧
      cursor (l.foldl step s) = cursor s + (l.filterMap pick).length := by
  induction l generalizing s with
  | nil => exact ⟨rfl, rfl⟩
  | cons c l ih =>
      have ih' := @ih (fun s c hc => hpick s c (List.mem_cons_of_mem _ hc))
        (fun s c hc => hskip s c (List.mem_cons_of_mem _ hc)) (step s c)
      rw [List.foldl_cons]
      rcases hc : pick c with _ | a
      · obtain ⟨hcells, hcursor⟩ := hskip s c List.mem_cons_self hc
        rw [List.filterMap_cons_none hc] at h ⊢
        rw [hcells, hcursor] at ih'
        exact ih' h
      · rw [List.filterMap_cons_some hc, List.length_cons] at h ⊢
        obtain ⟨hcells, hcursor⟩ := hpick s c List.mem_cons_self a hc (by omega)
        rw [hcells, hcursor] at ih'
        obtain ⟨hcells', hcursor'⟩ := ih' (by omega)
        exact ⟨hcells', by rw [hcursor']; omega⟩

/-! ## Appending and removing -/

/-- The append idiom: `t[count] = a; count++`, behind a bound check. -/
def push (t : FixedTable α n) (a : α) (h : t.count < n) : FixedTable α n where
  entries := t.entries.set t.count a h
  count := t.count + 1

/-- An append adds one item at the end. -/
@[simp] lemma items_push (t : FixedTable α n) (a : α) (h : t.count < n) :
    (t.push a h).items = t.items ++ [a] := take_set_succ t.entries h a

/-- The shift loop of a removal, over `k` cells from `i` on: `t[i] = t[i + 1]; i++`. -/
def shiftDown (v : Vector α n) (i : ℕ) : ℕ → Vector α n
  | 0 => v
  | k + 1 =>
      let w := shiftDown v i k
      if h : i + k + 1 < n then w.set (i + k) (w.get ⟨i + k + 1, h⟩) else w

/-- The shift moves the cells behind `i` down by one. -/
lemma getElem?_shiftDown (v : Vector α n) (i : ℕ) {k : ℕ} (hk : i + k < n) (j : ℕ) :
    (shiftDown v i k).toList[j]? =
      if i ≤ j ∧ j < i + k then v.toList[j + 1]? else v.toList[j]? := by
  induction k generalizing j with
  | zero =>
      rw [if_neg (by omega)]
      rfl
  | succ k ih =>
      have ih' := ih (by omega)
      unfold shiftDown
      rw [dif_pos (by omega), Vector.toList_set, List.getElem?_set]
      by_cases hj : i + k = j
      · subst hj
        have hread := ih' (i + k + 1)
        rw [if_neg (by omega)] at hread
        rw [if_pos rfl, if_pos (by simp; omega), if_pos (by omega), ← hread]
        simp [Vector.get]
      · rw [if_neg hj, ih']
        split_ifs with h₁ h₂ h₂
        · rfl
        · omega
        · omega
        · rfl

/-- Remove one entry: shift the later ones down, clear the last cell and count one less. -/
def removeAt (t : FixedTable α n) (i : ℕ) (d : α) : FixedTable α n where
  entries := (shiftDown t.entries i (t.count - 1 - i)).setIfInBounds (t.count - 1) d
  count := t.count - 1

/-- A removal takes one item out and keeps the order of the others. -/
lemma items_removeAt {t : FixedTable α n} (ht : t.WithinLimit) {i : ℕ} (hi : i < t.count) (d : α) :
    (t.removeAt i d).items = t.items.eraseIdx i := by
  have hcount : t.count ≤ n := ht
  apply List.ext_getElem?
  intro j
  unfold items removeAt
  rw [List.getElem?_take, List.getElem?_eraseIdx, Vector.toList_setIfInBounds, List.getElem?_set]
  simp only [List.getElem?_take]
  by_cases hj : j < t.count - 1
  · rw [if_pos hj, if_neg (by omega), getElem?_shiftDown t.entries i (by omega)]
    split_ifs with h₁ h₂ h₂ h₃ h₄ h₅
    all_goals first | rfl | omega
  · rw [if_neg hj]
    split_ifs with h₁ h₂ h₂
    all_goals first | rfl | omega

/-! ## Rewriting -/

/-- The rewriting loop `for(i = 0; i < count; i++) t[i] = f(t[i]);`. -/
def mapItems (f : α → α) (t : FixedTable α n) : FixedTable α n where
  entries := t.entries.mapIdx fun i a => if i < t.count then f a else a
  count := t.count

@[simp] lemma count_mapItems (f : α → α) (t : FixedTable α n) : (t.mapItems f).count = t.count :=
  rfl

/-- A cell after the loop. -/
lemma getElem?_mapItems (f : α → α) (t : FixedTable α n) (i : ℕ) :
    (t.mapItems f).entries[i]? =
      t.entries[i]?.map fun a => if i < t.count then f a else a :=
  Vector.getElem?_mapIdx

lemma getElem_mapItems (f : α → α) (t : FixedTable α n) {i : ℕ} (hi : i < n) :
    (t.mapItems f).entries[i] = if i < t.count then f t.entries[i] else t.entries[i] :=
  Vector.getElem_mapIdx hi

/-- The items after the loop. -/
@[simp] lemma items_mapItems (f : α → α) (t : FixedTable α n) :
    (t.mapItems f).items = t.items.map f := by
  apply List.ext_getElem?
  intro i
  unfold items
  rw [List.getElem?_map, List.getElem?_take, List.getElem?_take, count_mapItems]
  split_ifs with hi
  · rw [Vector.getElem?_toList, Vector.getElem?_toList, getElem?_mapItems]
    simp [hi]
  · rfl

end FixedTable

end HardwareTest.Lib
