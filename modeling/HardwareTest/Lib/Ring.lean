import Mathlib.Data.List.Range
import Mathlib.Tactic.Common

/-!
# Ring buffers

`n` slots, a counter and two indices that wrap at the end. The indices are `Fin n`, so an index
outside the slots cannot be built.

* `push` is refused when the counter has reached `n`; `pop` takes the slot at the read index.
* `contents` are the occupied slots in queue order.
* `WellFormed`: the write index is the counter ahead of the read index. Both operations keep it, and
  a well-formed ring is a queue: `contents_push` appends and `contents_pop` takes the first.
-/

namespace HardwareTest.Lib

/-- A ring buffer of `n` slots. -/
structure Ring (α : Type*) (n : ℕ) where
  /-- The slots. -/
  slots : Vector α n
  /-- The number of occupied slots. -/
  count : ℕ
  /-- The slot the next pop reads. -/
  readIndex : Fin n
  /-- The slot the next push writes. -/
  writeIndex : Fin n

namespace Ring

variable {α : Type*} {n : ℕ}

/-- The next index: `i++; if(i >= n) i = 0;`. -/
def advance (i : Fin n) : Fin n :=
  if h : i.val + 1 ≥ n then ⟨0, Nat.lt_of_le_of_lt (Nat.zero_le _) i.isLt⟩
  else ⟨i.val + 1, Nat.lt_of_not_le h⟩

/-- Append at the write index; `none` when the ring is full. -/
def push (r : Ring α n) (a : α) : Option (Ring α n) :=
  if r.count ≥ n then none
  else some { r with
    slots := r.slots.set r.writeIndex a
    writeIndex := advance r.writeIndex
    count := r.count + 1 }

/-- Take the slot at the read index; callers make sure the ring is not empty. -/
def pop (r : Ring α n) : α × Ring α n :=
  (r.slots.get r.readIndex, { r with readIndex := advance r.readIndex, count := r.count - 1 })

/-- The occupied slots, oldest first. -/
def contents (r : Ring α n) : List α :=
  (List.range r.count).map fun k =>
    r.slots.get ⟨(r.readIndex + k) % n,
      Nat.mod_lt _ (Nat.lt_of_le_of_lt (Nat.zero_le _) r.readIndex.isLt)⟩

/-- The counter is within the slots, and the write index is that far ahead of the read index. -/
structure WellFormed (r : Ring α n) : Prop where
  count_le : r.count ≤ n
  writeIndex_eq : r.writeIndex.val = (r.readIndex + r.count) % n

/-- The next index wraps at the end. -/
lemma val_advance (i : Fin n) : (advance i).val = (i + 1) % n := by
  unfold advance
  split_ifs with h
  · have hlast : i.val + 1 = n := by omega
    rw [hlast, Nat.mod_self]
  · exact (Nat.mod_eq_of_lt (Nat.lt_of_not_le h)).symm

/-- Going at most once around. -/
lemma add_mod_of_le (i : Fin n) {k : ℕ} (hk : k ≤ n) :
    (i.val + k) % n = if i.val + k < n then i.val + k else i.val + k - n := by
  split_ifs with h
  · exact Nat.mod_eq_of_lt h
  · rw [Nat.mod_eq_sub_mod (Nat.le_of_not_lt h)]
    apply Nat.mod_eq_of_lt
    omega

/-- There are as many contents as counted. -/
@[simp] lemma length_contents (r : Ring α n) : r.contents.length = r.count := by
  simp [contents]

/-- A ring that is not full takes one more. -/
lemma push_of_lt {r : Ring α n} (h : r.count < n) (a : α) :
    r.push a = some { r with
      slots := r.slots.set r.writeIndex a
      writeIndex := advance r.writeIndex
      count := r.count + 1 } := if_neg (Nat.not_le.mpr h)

/-- A push says that the ring was not full. -/
lemma count_lt_of_push {r r' : Ring α n} {a : α} (h : r.push a = some r') : r.count < n := by
  unfold push at h
  split_ifs at h with hfull
  exact Nat.lt_of_not_le hfull

/-- A push is refused when the ring is full. -/
lemma push_eq_none_iff {r : Ring α n} {a : α} : r.push a = none ↔ ¬ r.count < n := by
  unfold push
  split_ifs with hfull
  · simpa using hfull
  · simpa using hfull

/-- A push keeps the ring well formed. -/
lemma WellFormed.push {r r' : Ring α n} (h : r.WellFormed) {a : α} (hpush : r.push a = some r') :
    r'.WellFormed := by
  have hlt := count_lt_of_push hpush
  rw [push_of_lt hlt, Option.some_inj] at hpush
  subst hpush
  refine ⟨hlt, ?_⟩
  show (advance r.writeIndex).val = (r.readIndex + (r.count + 1)) % n
  rw [val_advance, h.writeIndex_eq, Nat.mod_add_mod]
  rfl

/-- **Push** appends. -/
theorem contents_push {r r' : Ring α n} (h : r.WellFormed) {a : α} (hpush : r.push a = some r') :
    r'.contents = r.contents ++ [a] := by
  have hlt := count_lt_of_push hpush
  rw [push_of_lt hlt, Option.some_inj] at hpush
  subst hpush
  unfold contents
  simp only
  rw [List.range_succ, List.map_append, List.map_singleton]
  congr 1
  · apply List.map_congr_left
    intro k hk
    rw [List.mem_range] at hk
    -- the slot written is not one of those in use
    have hne : r.writeIndex.val ≠ (r.readIndex + k) % n := by
      rw [h.writeIndex_eq, add_mod_of_le _ (by omega), add_mod_of_le _ (by omega)]
      have hread := r.readIndex.isLt
      split_ifs <;> omega
    exact Vector.getElem_set_ne _ _ hne
  · have hslot : (r.slots.set r.writeIndex a).get r.writeIndex = a := Vector.getElem_set_self _
    simp only [← h.writeIndex_eq]
    exact congrArg (fun b => [b]) hslot

/-- A pop keeps the ring well formed. -/
lemma WellFormed.pop {r : Ring α n} (h : r.WellFormed) (hne : r.count ≠ 0) :
    r.pop.2.WellFormed := by
  have hcount := h.count_le
  refine ⟨?_, ?_⟩
  · show r.count - 1 ≤ n
    omega
  · show r.writeIndex.val = ((advance r.readIndex).val + (r.count - 1)) % n
    rw [val_advance, Nat.mod_add_mod, h.writeIndex_eq]
    congr 1
    omega

/-- **Pop** takes the first. -/
theorem contents_pop (r : Ring α n) (hne : r.count ≠ 0) :
    r.contents = r.pop.1 :: r.pop.2.contents := by
  obtain ⟨k, hk⟩ := Nat.exists_eq_succ_of_ne_zero hne
  unfold contents
  rw [hk, List.range_succ_eq_map, List.map_cons, List.map_map]
  congr 1
  · simp [pop, Nat.mod_eq_of_lt r.readIndex.isLt]
  · have hcount : r.pop.2.count = k := by
      simp [pop, hk]
    rw [hcount]
    apply List.map_congr_left
    intro j _
    have hidx : (r.readIndex + (j + 1)) % n = ((advance r.readIndex).val + j) % n := by
      rw [val_advance, Nat.mod_add_mod]
      congr 1
      omega
    simp [pop, hidx]

/-- A ring of no slots in use is well formed when its indices agree. -/
lemma wellFormed_of_count_eq_zero {r : Ring α n} (hcount : r.count = 0)
    (hidx : r.writeIndex = r.readIndex) : r.WellFormed where
  count_le := by omega
  writeIndex_eq := by rw [hcount, Nat.add_zero, Nat.mod_eq_of_lt r.readIndex.isLt, hidx]

/-- An empty ring has no contents. -/
lemma contents_of_count_eq_zero {r : Ring α n} (h : r.count = 0) : r.contents = [] := by
  unfold contents
  rw [h]
  rfl

end Ring

end HardwareTest.Lib
