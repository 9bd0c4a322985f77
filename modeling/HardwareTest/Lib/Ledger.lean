import Mathlib.Data.List.Induction
import Mathlib.Data.Multiset.Basic
import Mathlib.Data.Multiset.Filter
import Mathlib.Data.Multiset.UnionInter
import Mathlib.Tactic.Common

/-!
# Objects that must be given back

A library hands out objects, some of them made from a parent object, and takes them back.

* `Event`: an object is acquired, used or released; a log is a list of events, oldest first.
* `Orderly l S`: a log in which every object is fresh when acquired and has its parent held, is
  held when used and released, and has no child held when released; `S` is what is still held.
* `Orderly.count_release_add` is the balance of such a log; when nothing is held any more every
  object was released exactly once (`released_once`). A child is released before its parent
  (`released_before`) and an object is used only while it is held (`used_while_held`).
* `Program`: computations over a ledger that numbers the calls and keeps the log; a program fails
  where it leaves an array. `Spec P p H Q` says what is held before and after a program, with one
  rule for each way to build programs.
* `heldIn`: the objects in an array of pointers.
-/

namespace HardwareTest.Lib

/-- Objects with a number of their own, some of them made from a parent. -/
class Resource (ω : Type*) where
  /-- The number of the call that made the object. -/
  number : ω → ℕ
  /-- The object it was made from. -/
  parent : ω → Option ω

open Resource

/-- What happens to an object. -/
inductive Event (ω : Type*)
  | acquire (o : ω)
  | use (o : ω)
  | release (o : ω)
deriving DecidableEq

variable {ω : Type*} [Resource ω]

/-- The event may follow the log `l` when `T` is held, and leaves `S` held: a fresh object is
acquired while its parent is held, a held object is used, a held object is released when none of
its children is held. -/
def Event.Follows (e : Event ω) (l : List (Event ω)) (T S : Multiset ω) : Prop :=
  match e with
  | .acquire o => .acquire o ∉ l ∧ (∀ p, parent o = some p → p ∈ T) ∧ S = o ::ₘ T
  | .use o => o ∈ T ∧ S = T
  | .release o => T = o ::ₘ S ∧ ∀ c ∈ T, parent c ≠ some o

/-- An orderly log, and what is held after it. -/
inductive Orderly : List (Event ω) → Multiset ω → Prop
  | start : Orderly [] 0
  | next {l : List (Event ω)} {T S : Multiset ω} {e : Event ω} : Orderly l T → e.Follows l T S →
      Orderly (l ++ [e]) S

/-! ## What an orderly log guarantees -/

namespace Orderly

variable {l l₁ l₂ : List (Event ω)} {S : Multiset ω} {o : ω}

/-- The last event of an orderly log follows the log before it. -/
lemma last {e : Event ω} (h : Orderly (l ++ [e]) S) : ∃ T, Orderly l T ∧ e.Follows l T S := by
  generalize hl : l ++ [e] = l' at h
  cases h with
  | start => simp at hl
  | next h he =>
      obtain ⟨rfl, hlast⟩ := List.append_inj' hl rfl
      cases hlast
      exact ⟨_, h, he⟩

/-- The beginning of an orderly log is orderly. -/
lemma of_append (h : Orderly (l₁ ++ l₂) S) : ∃ T, Orderly l₁ T := by
  induction l₂ using List.reverseRec generalizing S with
  | nil => exact ⟨S, by simpa using h⟩
  | append_singleton l₂ e ih =>
      rw [← List.append_assoc] at h
      obtain ⟨T, hT, -⟩ := h.last
      exact ih hT

variable [DecidableEq ω]

/-- **The balance of a log.** What was acquired was released or is still held. -/
theorem count_release_add (h : Orderly l S) (o : ω) :
    l.count (.release o) + S.count o = l.count (.acquire o) := by
  induction h with
  | start => simp
  | @next l T S e h he ih =>
      rw [List.count_append, List.count_append]
      cases e with
      | acquire o' =>
          obtain ⟨-, -, rfl⟩ := he
          by_cases ho : o = o'
          · subst ho
            simp
            omega
          · rw [Multiset.count_cons_of_ne ho]
            simp [Ne.symm ho]
            omega
      | use o' =>
          obtain ⟨-, rfl⟩ := he
          simpa using ih
      | release o' =>
          obtain ⟨rfl, -⟩ := he
          by_cases ho : o = o'
          · subst ho
            rw [Multiset.count_cons_self] at ih
            simp
            omega
          · rw [Multiset.count_cons_of_ne ho] at ih
            simp [Ne.symm ho]
            omega

/-- No object is acquired twice. -/
lemma count_acquire_le (h : Orderly l S) (o : ω) : l.count (.acquire o) ≤ 1 := by
  induction h with
  | start => simp
  | @next l T S e h he ih =>
      rw [List.count_append]
      cases e with
      | acquire o' =>
          by_cases ho : o' = o
          · subst ho
            rw [List.count_eq_zero_of_not_mem he.1]
            simp
          · simpa [ho] using ih
      | use o' => simpa using ih
      | release o' => simpa using ih

/-- What is held is held once. -/
lemma nodup (h : Orderly l S) : S.Nodup := by
  rw [Multiset.nodup_iff_count_le_one]
  intro o
  have hbalance := h.count_release_add o
  have honce := h.count_acquire_le o
  omega

/-- An acquired object was acquired once. -/
lemma count_acquire (h : Orderly l S) (ho : .acquire o ∈ l) : l.count (.acquire o) = 1 := by
  have hpos := List.count_pos_iff.mpr ho
  have honce := h.count_acquire_le o
  omega

/-- **Exactly once.** When nothing is held any more, an acquired object was released once. -/
theorem released_once (h : Orderly l 0) (ho : .acquire o ∈ l) : l.count (.release o) = 1 := by
  have hbalance := h.count_release_add o
  rw [Multiset.count_zero, h.count_acquire ho] at hbalance
  exact hbalance

/-- Only what was acquired is released. -/
lemma acquire_of_release (h : Orderly l S) (ho : .release o ∈ l) : .acquire o ∈ l := by
  have hpos := List.count_pos_iff.mpr ho
  have hbalance := h.count_release_add o
  apply List.count_pos_iff.mp
  omega

/-- **Children first.** An acquired child has been released when its parent is. -/
theorem released_before {c p : ω} (h : Orderly (l₁ ++ .release p :: l₂) S)
    (hp : parent c = some p) (hc : .acquire c ∈ l₁ ++ .release p :: l₂) : .release c ∈ l₁ := by
  have hsplit : l₁ ++ .release p :: l₂ = (l₁ ++ [.release p]) ++ l₂ := by simp
  obtain ⟨T, hT⟩ := (hsplit ▸ h).of_append
  obtain ⟨_, hbefore, rfl, hchildren⟩ := hT.last
  have hearly : .acquire c ∈ l₁ := by
    by_contra hlate
    -- a child acquired afterwards would have the released parent held
    have hmem : .acquire c ∈ l₂ := by simpa [hlate] using hc
    obtain ⟨m₁, m₂, rfl⟩ := List.append_of_mem hmem
    have hsplit' : l₁ ++ .release p :: (m₁ ++ .acquire c :: m₂) =
        (l₁ ++ .release p :: m₁ ++ [.acquire c]) ++ m₂ := by simp
    obtain ⟨_, hc'⟩ := (hsplit' ▸ h).of_append
    obtain ⟨U, hU, -, hparent, -⟩ := hc'.last
    have hheld := Multiset.one_le_count_iff_mem.mpr (hparent p hp)
    have hbalance := hU.count_release_add p
    have honce := hU.count_acquire_le p
    have hreleased : 1 ≤ (l₁ ++ .release p :: m₁).count (.release p) :=
      List.count_pos_iff.mpr (by simp)
    omega
  have hgone : (p ::ₘ T).count c = 0 := by
    rw [Multiset.count_eq_zero]
    intro hheld
    exact hchildren c hheld hp
  have hbalance := hbefore.count_release_add c
  rw [hgone, hbefore.count_acquire hearly] at hbalance
  exact List.count_pos_iff.mp (by omega)

/-- What is held was acquired. -/
lemma acquire_of_mem (h : Orderly l S) (ho : o ∈ S) : .acquire o ∈ l := by
  have hheld := Multiset.one_le_count_iff_mem.mpr ho
  have hbalance := h.count_release_add o
  apply List.count_pos_iff.mp
  omega

/-- What is held has not been released. -/
lemma release_notMem_of_mem (h : Orderly l S) (ho : o ∈ S) : .release o ∉ l := by
  intro hreleased
  have hheld := Multiset.one_le_count_iff_mem.mpr ho
  have hpos := List.count_pos_iff.mpr hreleased
  have hbalance := h.count_release_add o
  have honce := h.count_acquire_le o
  omega

/-- The parent of an acquired object was acquired. -/
lemma acquire_parent {c p : ω} (h : Orderly l S) (hp : parent c = some p) (hc : .acquire c ∈ l) :
    .acquire p ∈ l := by
  obtain ⟨l₁, l₂, rfl⟩ := List.append_of_mem hc
  have hsplit : l₁ ++ .acquire c :: l₂ = (l₁ ++ [.acquire c]) ++ l₂ := by simp
  obtain ⟨_, hT⟩ := (hsplit ▸ h).of_append
  obtain ⟨T, hT, -, hparent, -⟩ := hT.last
  exact List.mem_append_left _ (hT.acquire_of_mem (hparent p hp))

/-- Children first, by position: when nothing is held any more, an acquired child was released at an
earlier place than its parent. -/
lemma idxOf_release_lt {c p : ω} (h : Orderly l 0) (hp : parent c = some p)
    (hc : .acquire c ∈ l) : l.idxOf (.release c) < l.idxOf (.release p) := by
  have honce := h.released_once (h.acquire_parent hp hc)
  have hreleased : .release p ∈ l := List.count_pos_iff.mp (by omega)
  obtain ⟨l₁, l₂, rfl, hfirst⟩ := List.eq_append_cons_of_mem hreleased
  have hmem := h.released_before hp hc
  rw [List.idxOf_append_of_mem hmem, List.idxOf_append_of_notMem hfirst]
  have hlt := List.idxOf_lt_length_of_mem hmem
  omega

/-- **Use.** An object is used after it was acquired and before it is released. -/
theorem used_while_held (h : Orderly (l₁ ++ .use o :: l₂) S) :
    .acquire o ∈ l₁ ∧ .release o ∉ l₁ := by
  have hsplit : l₁ ++ .use o :: l₂ = (l₁ ++ [.use o]) ++ l₂ := by simp
  obtain ⟨_, hT⟩ := (hsplit ▸ h).of_append
  obtain ⟨T, hT, hmem, -⟩ := hT.last
  exact ⟨hT.acquire_of_mem hmem, hT.release_notMem_of_mem hmem⟩

/-- **No way back.** What was acquired in a log after which nothing is held is never held again. -/
theorem notMem_of_prefix (hbefore : Orderly l₁ 0) (hafter : Orderly l₂ S) (hbegins : l₁ <+: l₂)
    (ho : .acquire o ∈ l₁) : o ∉ S := by
  intro hheld
  have hcount := Multiset.one_le_count_iff_mem.mpr hheld
  have hreleased := hbegins.sublist.count_le (.release o)
  rw [hbefore.released_once ho] at hreleased
  have hbalance := hafter.count_release_add o
  have honce := hafter.count_acquire_le o
  omega

end Orderly

/-- What is obtained is given back exactly once, nothing else is given back, and nothing is used but
between the two. -/
structure Settled [DecidableEq ω] (l : List (Event ω)) : Prop where
  once : ∀ o, .acquire o ∈ l → l.count (.acquire o) = 1 ∧ l.count (.release o) = 1
  obtained : ∀ o, .release o ∈ l → .acquire o ∈ l
  used : ∀ before o after, l = before ++ .use o :: after →
    .acquire o ∈ before ∧ .release o ∉ before

/-- **Settlement.** An orderly log after which nothing is held is settled. -/
theorem Orderly.settled [DecidableEq ω] {l : List (Event ω)} (h : Orderly l 0) : Settled l where
  once := fun _ ho => ⟨h.count_acquire ho, h.released_once ho⟩
  obtained := fun _ ho => h.acquire_of_release ho
  used := fun _ _ _ hsplit => (hsplit ▸ h).used_while_held

/-- Every object of the collection has its parent in it. -/
def Closed (S : Multiset ω) : Prop := ∀ o ∈ S, ∀ p, parent o = some p → p ∈ S

/-! ## Programs over a ledger -/

/-- The calls made so far and the log. -/
structure Ledger (ω : Type) where
  calls : ℕ
  log : List (Event ω)

/-- The ledger before the first call. -/
def Ledger.empty (ω : Type) : Ledger ω := ⟨0, []⟩

/-- A computation over a ledger; it fails where it leaves an array or follows a null pointer. -/
abbrev Program (ω α : Type) := StateT (Ledger ω) Option α

section programs

variable {ω : Type} {α β τ : Type} {n : ℕ}

/-- Make an object, if the call succeeds; `wrap` says what kind of object it is. -/
def acquire (succeeds : ℕ → Bool) (wrap : τ → ω) (make : ℕ → τ) : Program ω (Option τ) :=
  fun w =>
    if succeeds w.calls then
      some (some (make w.calls), ⟨w.calls + 1, w.log ++ [.acquire (wrap (make w.calls))]⟩)
    else some (none, ⟨w.calls + 1, w.log⟩)

/-- Give an object back. -/
def release (o : ω) : Program ω Unit := fun w => some ((), ⟨w.calls + 1, w.log ++ [.release o]⟩)

/-- Pass an object to a call. -/
def use (o : ω) : Program ω Unit := fun w => some ((), ⟨w.calls, w.log ++ [.use o]⟩)

/-- The outcome of a call that neither makes an object nor gives one back. -/
def outcome (f : ℕ → α) : Program ω α := fun w => some (f w.calls, ⟨w.calls + 1, w.log⟩)

/-- A call that may fail; `a` is its result when it succeeds. -/
def attempt (succeeds : ℕ → Bool) (a : α) : Program ω (Option α) :=
  outcome fun k => if succeeds k then some a else none

/-- Read a cell of an array. -/
def readCell (v : Vector α n) (i : ℕ) : Program ω α := if h : i < n then pure v[i] else failure

/-- Write a cell of an array. -/
def writeCell (v : Vector α n) (i : ℕ) (a : α) : Program ω (Vector α n) :=
  if h : i < n then pure (v.set i a) else failure

/-- `if (object != NULL) f(object);` -/
def ifAny (f : τ → Program ω Unit) : Option τ → Program ω Unit
  | none => pure ()
  | some object => f object

/-- What a pointer refers to. -/
def pointee (wrap : τ → ω) : Option τ → Multiset ω
  | none => 0
  | some object => {wrap object}

/-- A null pointer refers to nothing. -/
@[simp] lemma pointee_none (wrap : τ → ω) : pointee wrap none = 0 := rfl

/-- Follow a pointer in an array. -/
def readPointer (v : Vector (Option α) n) (i : ℕ) : Program ω α := do
  match ← readCell v i with
  | some a => pure a
  | none => failure

variable [Resource ω]

/-- The log is orderly, `S` is held, and the next number is fresh. -/
structure Ledger.Owns (w : Ledger ω) (S : Multiset ω) : Prop where
  orderly : Orderly w.log S
  numbered : ∀ o, .acquire o ∈ w.log → number o < w.calls

/-- Before the first call nothing is held. -/
lemma Ledger.owns_empty : (Ledger.empty ω).Owns 0 where
  orderly := .start
  numbered := by simp [Ledger.empty]

/-- A log that grows by one event keeps its numbers. -/
lemma Ledger.Owns.append {w : Ledger ω} {S T : Multiset ω} {e : Event ω} (h : w.Owns T)
    (he : e.Follows w.log T S) {k : ℕ} (hk : w.calls ≤ k)
    (hnew : ∀ o, e = .acquire o → number o < k) : (⟨k, w.log ++ [e]⟩ : Ledger ω).Owns S where
  orderly := h.orderly.next he
  numbered := by
    intro o ho
    rw [List.mem_append, List.mem_singleton] at ho
    rcases ho with ho | ho
    · exact Nat.lt_of_lt_of_le (h.numbered o ho) hk
    · exact hnew o ho.symm

/-- Started where `P` is held, the program does not fail, leaves `H a` held with its result `a`, the
result satisfies `Q`, and the log has only grown. -/
def Spec (P : Multiset ω) (p : Program ω α) (H : α → Multiset ω) (Q : α → Prop) : Prop :=
  ∀ w : Ledger ω, w.Owns P →
    ∃ a w', p.run w = some (a, w') ∧ w'.Owns (H a) ∧ Q a ∧ w.log <+: w'.log

namespace Spec

variable {P : Multiset ω} {p : Program ω α} {H : α → Multiset ω} {Q : α → Prop}

/-- Returning a value. -/
lemma pure {a : α} (hP : H a = P) (hQ : Q a) : Spec P (pure a : Program ω α) H Q :=
  fun w hw => ⟨a, w, rfl, hP ▸ hw, hQ, List.prefix_rfl⟩

/-- One program after another. -/
theorem bind {q : α → Program ω β} {H' : β → Multiset ω} {Q' : β → Prop} (hp : Spec P p H Q)
    (hq : ∀ a, Q a → Spec (H a) (q a) H' Q') : Spec P (p >>= q) H' Q' := by
  intro w hw
  obtain ⟨a, w₁, hrun, hw₁, hQ, hgrows⟩ := hp w hw
  obtain ⟨b, w₂, hrun', hw₂, hQ', hgrows'⟩ := hq a hQ w₁ hw₁
  refine ⟨b, w₂, ?_, hw₂, hQ', hgrows.trans hgrows'⟩
  rw [StateT.run_bind, hrun]
  exact hrun'

/-- **One program after another, with nothing held between.** What was held before is not held
again. -/
theorem renew [DecidableEq ω] {q : α → Program ω β} {H' : β → Multiset ω} {Q' : β → Prop}
    (hp : Spec P p (fun _ => 0) Q) (hq : ∀ a, Q a → Spec 0 (q a) H' Q') {w : Ledger ω}
    (hw : w.Owns P) : ∃ b w', (p >>= q).run w = some (b, w') ∧ w'.Owns (H' b) ∧ Q' b ∧
      w.log <+: w'.log ∧ ∀ o ∈ P, o ∉ H' b := by
  obtain ⟨a, w₁, hrun, hw₁, hQ, hgrows⟩ := hp w hw
  obtain ⟨b, w₂, hrun', hw₂, hQ', hgrows'⟩ := hq a hQ w₁ hw₁
  refine ⟨b, w₂, ?_, hw₂, hQ', hgrows.trans hgrows', fun o ho => ?_⟩
  · rw [StateT.run_bind, hrun]
    exact hrun'
  · have hacquired : .acquire o ∈ w₁.log := hgrows.subset (hw.orderly.acquire_of_mem ho)
    exact hw₁.orderly.notMem_of_prefix hw₂.orderly hgrows' hacquired

/-- A weaker statement about the result. -/
lemma mono {Q' : α → Prop} (hp : Spec P p H Q) (hQ : ∀ a, Q a → Q' a) : Spec P p H Q' := by
  intro w hw
  obtain ⟨a, w', hrun, hw', ha, hgrows⟩ := hp w hw
  exact ⟨a, w', hrun, hw', hQ a ha, hgrows⟩

/-- What is held may be described in another way. -/
lemma congr {H' : α → Multiset ω} (hp : Spec P p H Q) (hH : ∀ a, Q a → H a = H' a) :
    Spec P p H' Q := by
  intro w hw
  obtain ⟨a, w', hrun, hw', ha, hgrows⟩ := hp w hw
  exact ⟨a, w', hrun, hH a ha ▸ hw', ha, hgrows⟩

/-! One rule for each operation. -/

/-- Making an object adds it to what is held; without the object, the call has failed. -/
theorem acquire {succeeds : ℕ → Bool} {wrap : τ → ω} {make : ℕ → τ}
    (hnumber : ∀ k, number (wrap (make k)) = k)
    (hparent : ∀ k p, parent (wrap (make k)) = some p → p ∈ P) :
    Spec P (acquire succeeds wrap make) (fun a => pointee wrap a + P)
      (fun a => (∀ x, a = some x → ∃ k, x = make k) ∧ (a = none → ∃ k, succeeds k = false)) := by
  intro w hw
  rw [StateT.run, Lib.acquire]
  by_cases hs : succeeds w.calls
  · have hfresh : Event.acquire (wrap (make w.calls)) ∉ w.log := by
      intro hold
      have hlt := hw.numbered _ hold
      rw [hnumber] at hlt
      exact Nat.lt_irrefl _ hlt
    refine ⟨some (make w.calls), _, if_pos hs, hw.append (e := .acquire _)
      ⟨hfresh, hparent w.calls, rfl⟩ (Nat.le_succ _) ?_, ⟨?_, nofun⟩, List.prefix_append _ _⟩
    · intro o ho
      cases ho
      rw [hnumber]
      exact Nat.lt_succ_self _
    · intro x hx
      cases hx
      exact ⟨_, rfl⟩
  · refine ⟨none, _, if_neg hs, ⟨by simpa [pointee] using hw.orderly, ?_⟩, ⟨nofun, fun _ => ?_⟩,
      List.prefix_rfl⟩
    · intro o ho
      exact Nat.lt_succ_of_lt (hw.numbered o ho)
    · exact ⟨w.calls, by simpa using hs⟩

/-- Giving back an object that no held object was made from. -/
theorem release {o : ω} (hchild : ∀ c ∈ o ::ₘ P, parent c ≠ some o) :
    Spec (o ::ₘ P) (release o) (fun _ => P) (fun _ => True) :=
  fun w hw => ⟨(), _, rfl, hw.append (e := .release o) ⟨rfl, hchild⟩ (Nat.le_succ _) (by simp),
    trivial, List.prefix_append _ _⟩

/-- Giving back a parent when every other held object has its own parent held. -/
theorem release_root [DecidableEq ω] {o : ω} (hroot : parent o = none) (hclosed : Closed P) :
    Spec (o ::ₘ P) (Lib.release o) (fun _ => P) (fun _ => True) := by
  intro w hw
  refine release ?_ w hw
  intro c hc hparent
  have hnodup := hw.orderly.nodup
  rcases Multiset.mem_cons.mp hc with rfl | hc
  · rw [hroot] at hparent
    cases hparent
  · exact (Multiset.nodup_cons.mp hnodup).1 (hclosed c hc o hparent)

/-- Giving back what a pointer refers to, if anything. -/
theorem ifAny {f : τ → Program ω Unit} {wrap : τ → ω} {a : Option τ}
    (hf : ∀ x, Spec (wrap x ::ₘ P) (f x) (fun _ => P) (fun _ => True)) :
    Spec (pointee wrap a + P) (ifAny f a) (fun _ => P) (fun _ => True) := by
  cases a with
  | none =>
      exact pure (Multiset.zero_add P).symm trivial
  | some x => exact hf x

/-- Passing a held object to a call. -/
theorem use {o : ω} (ho : o ∈ P) : Spec P (use o) (fun _ => P) (fun _ => True) :=
  fun w hw => ⟨(), _, rfl, hw.append (e := .use o) ⟨ho, rfl⟩ (Nat.le_refl _) (by simp), trivial,
    List.prefix_append _ _⟩

/-- The outcome of a call. -/
theorem outcome {f : ℕ → α} : Spec P (outcome f) (fun _ => P) (fun a => ∃ k, a = f k) := by
  intro w hw
  refine ⟨f w.calls, ⟨w.calls + 1, w.log⟩, rfl, ⟨hw.orderly, ?_⟩, ⟨_, rfl⟩, List.prefix_rfl⟩
  intro o ho
  exact Nat.lt_succ_of_lt (hw.numbered o ho)

/-- A call that may fail gives its result, or has failed. -/
theorem attempt {succeeds : ℕ → Bool} {a : α} :
    Spec P (attempt succeeds a) (fun _ => P)
      (fun b => b = some a ∨ b = none ∧ ∃ k, succeeds k = false) := by
  refine outcome.mono ?_
  rintro _ ⟨k, rfl⟩
  by_cases hk : succeeds k = true
  · exact .inl (if_pos hk)
  · exact .inr ⟨if_neg hk, k, by simpa using hk⟩

/-- Reading a cell of an array. -/
theorem readCell {v : Vector α n} {i : ℕ} (hi : i < n) :
    Spec P (readCell v i) (fun _ => P) (fun a => a = v[i]) := by
  rw [Lib.readCell, dif_pos hi]
  exact Spec.pure rfl rfl

/-- Writing a cell of an array. -/
theorem writeCell {v : Vector α n} {i : ℕ} (hi : i < n) {a : α} :
    Spec P (writeCell v i a) (fun _ => P) (fun u => u = v.set i a) := by
  rw [Lib.writeCell, dif_pos hi]
  exact Spec.pure rfl rfl

/-- Following a pointer that is not null. -/
theorem readPointer {v : Vector (Option α) n} {i : ℕ} (hi : i < n) {a : α} (ha : v[i] = some a) :
    Spec P (readPointer v i) (fun _ => P) (fun b => b = a) := by
  apply bind (readCell hi)
  rintro _ rfl
  rw [ha]
  exact Spec.pure rfl rfl

/-- **The loop rule.** An invariant of the loop index and the state, with what the state says is
held, is kept by a counted loop. -/
theorem foldlM_range {f : β → ℕ → Program ω β} {held : β → Multiset ω} {I : ℕ → β → Prop} {b : β}
    (k : ℕ) (h₀ : I 0 b)
    (step : ∀ i < k, ∀ b, I i b → Spec (held b) (f b i) held (I (i + 1))) :
    Spec (held b) ((List.range k).foldlM f b) held (I k) := by
  induction k with
  | zero => exact pure rfl h₀
  | succ k ih =>
      rw [List.range_succ, List.foldlM_append]
      apply bind (ih fun i hi => step i (Nat.lt_succ_of_lt hi))
      intro b hb
      rw [List.foldlM_cons]
      apply bind (step k (Nat.lt_succ_self k) b hb)
      intro b' hb'
      exact pure rfl hb'

/-- A loop over a list keeps what every element keeps. -/
theorem foldlM {f : β → τ → Program ω β} {held : β → Multiset ω} {I : β → Prop} {b : β}
    (l : List τ) (h₀ : I b) (step : ∀ a b, I b → Spec (held b) (f b a) held I) :
    Spec (held b) (l.foldlM f b) held I := by
  induction l generalizing b with
  | nil => exact pure rfl h₀
  | cons a l ih =>
      rw [List.foldlM_cons]
      exact bind (step a b h₀) fun b' hb' => ih hb'

end Spec

end programs

/-! ## Objects in an array of pointers -/

section cells

variable {α : Type} {n : ℕ}

/-- The objects an array of pointers refers to. -/
def heldIn (v : Vector (Option α) n) : Multiset α := ↑(v.toList.filterMap id)

/-- An object is held in an array when a cell refers to it. -/
lemma mem_heldIn {v : Vector (Option α) n} {a : α} :
    a ∈ heldIn v ↔ ∃ i, ∃ h : i < n, v[i] = some a := by
  unfold heldIn
  rw [Multiset.mem_coe, List.mem_filterMap]
  constructor
  · rintro ⟨x, hx, hxa⟩
    obtain ⟨i, hi, rfl⟩ := List.getElem_of_mem hx
    exact ⟨i, by simpa using hi, by simpa using hxa⟩
  · rintro ⟨i, hi, hv⟩
    exact ⟨some a, by rw [← hv]; simp, rfl⟩

/-- An array of null pointers holds nothing. -/
lemma heldIn_eq_zero {v : Vector (Option α) n} (h : ∀ i, ∀ hi : i < n, v[i] = none) :
    heldIn v = 0 := by
  apply Multiset.eq_zero_of_forall_notMem
  intro a ha
  obtain ⟨i, hi, hv⟩ := mem_heldIn.mp ha
  rw [h i hi] at hv
  cases hv

/-- Clearing a pointer takes its object out. -/
lemma heldIn_set_none {v : Vector (Option α) n} {i : ℕ} (hi : i < n) {a : α} (hv : v[i] = some a) :
    heldIn v = a ::ₘ heldIn (v.set i none) := by
  have hlen : i < v.toList.length := by simpa using hi
  have hget : v.toList[i] = some a := by simpa using hv
  have hsplit : v.toList = v.toList.take i ++ some a :: v.toList.drop (i + 1) := by
    rw [← hget, List.getElem_cons_drop, List.take_append_drop]
  rw [heldIn, heldIn, Vector.toList_set, List.set_eq_take_append_cons_drop, if_pos hlen]
  conv_lhs => rw [hsplit]
  rw [List.filterMap_append, List.filterMap_append, Multiset.cons_coe, Multiset.coe_eq_coe]
  exact List.perm_middle

/-- Storing an object in a null pointer puts it in. -/
lemma heldIn_set_some {v : Vector (Option α) n} {i : ℕ} (hi : i < n) (hv : v[i] = none) (a : α) :
    heldIn (v.set i (some a)) = a ::ₘ heldIn v := by
  have hback : (v.set i (some a)).set i none = v := by
    ext j hj
    by_cases hij : i = j
    · subst hij
      simp [hv]
    · simp [hij]
  rw [heldIn_set_none hi (a := a) (by simp), hback]

end cells

end HardwareTest.Lib
