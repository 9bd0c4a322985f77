import Mathlib.Data.List.TakeDrop
import Mathlib.Tactic.Common

/-!
# Terminated strings in byte memory

A buffer is the memory from its first byte on, with nothing to say where it ends: `cell i` is the
byte at offset `i`, and `written` lists the offsets that were written, oldest first.

* `store`, `storeAll`, `storeString`: one byte, a row of bytes, a row of bytes with its terminator.
* `Holds m s`: the memory starts with the string `s` and its terminator.
* `strnlen` finds the length of the string that is held (`Holds.strnlen_eq`).
* `holds_storeString`: a string stored behind the bytes of a prefix gives the concatenation.
-/

namespace HardwareTest.Lib

/-- The memory from some byte on, with its log of writes. -/
structure ByteMemory where
  cell : ℕ → UInt8
  written : List ℕ

namespace ByteMemory

variable (m : ByteMemory)

/-- Write one byte. -/
def store (i : ℕ) (b : UInt8) : ByteMemory where
  cell j := if j = i then b else m.cell j
  written := m.written ++ [i]

/-- Write a row of bytes from `i` on. -/
def storeAll (m : ByteMemory) (i : ℕ) : List UInt8 → ByteMemory
  | [] => m
  | b :: bytes => (m.store i b).storeAll (i + 1) bytes

/-- Write a row of bytes from `i` on and the terminator behind it. -/
def storeString (i : ℕ) (bytes : List UInt8) : ByteMemory :=
  (m.storeAll i bytes).store (i + bytes.length) 0

/-- The bytes of a string stand at the start of the memory. -/
def StartsWith (bytes : List UInt8) : Prop :=
  ∀ i (h : i < bytes.length), m.cell i = bytes[i]

/-- **The memory holds a string**: its bytes, none of which is 0, and then a 0. -/
structure Holds (s : List UInt8) : Prop where
  starts : m.StartsWith s
  terminator : m.cell s.length = 0
  nulFree : 0 ∉ s

/-- The number of bytes before the first 0, at most `n`. -/
def strnlen (n : ℕ) : ℕ := ((List.range n).find? fun i => m.cell i = 0).getD n

/-! ## Writing a row -/

/-- A byte after a row was written. -/
lemma cell_storeAll (m : ByteMemory) (i j : ℕ) (bytes : List UInt8) :
    (m.storeAll i bytes).cell j =
      if i ≤ j then (bytes[j - i]?).getD (m.cell j) else m.cell j := by
  induction bytes generalizing m i with
  | nil =>
      split_ifs <;> rfl
  | cons b bytes ih =>
      rw [storeAll, ih]
      rcases Nat.lt_trichotomy j i with hlt | rfl | hgt
      · rw [if_neg (by omega), if_neg (by omega)]
        exact if_neg (by omega)
      · rw [if_neg (by omega), if_pos (Nat.le_refl j), Nat.sub_self]
        exact if_pos rfl
      · have hnext : j - i = j - (i + 1) + 1 := by omega
        have hsame : (m.store i b).cell j = m.cell j := if_neg (by omega)
        rw [if_pos (by omega), if_pos (by omega), hnext, List.getElem?_cons_succ, hsame]

/-- The offsets after a row was written. -/
lemma written_storeAll (m : ByteMemory) (i : ℕ) (bytes : List UInt8) :
    (m.storeAll i bytes).written = m.written ++ List.range' i bytes.length := by
  induction bytes generalizing m i with
  | nil => simp [storeAll]
  | cons b bytes ih =>
      rw [storeAll, ih]
      simp [store, List.range'_succ]

/-- The offsets after a string was written. -/
lemma written_storeString (i : ℕ) (bytes : List UInt8) :
    (m.storeString i bytes).written = m.written ++ List.range' i (bytes.length + 1) := by
  unfold storeString store
  simp only
  rw [written_storeAll, List.append_assoc, List.range'_concat]
  simp

/-- A string is written to its own bytes and the one behind them. -/
lemma cell_storeString_of_gt {i j : ℕ} {bytes : List UInt8} (h : i + bytes.length < j) :
    (m.storeString i bytes).cell j = m.cell j := by
  have hstore : (m.storeString i bytes).cell j = (m.storeAll i bytes).cell j := if_neg (by omega)
  rw [hstore, cell_storeAll, if_pos (by omega), List.getElem?_eq_none (by omega)]
  rfl

/-! ## Strings -/

variable {m}

/-- **A string stored behind a prefix.** -/
lemma holds_storeString {start bytes : List UInt8} (h : m.StartsWith start)
    (hnul : 0 ∉ start ++ bytes) : (m.storeString start.length bytes).Holds (start ++ bytes) := by
  refine ⟨fun i hi => ?_, ?_, hnul⟩
  · have hne : i ≠ start.length + bytes.length := by
      rw [List.length_append] at hi
      omega
    have hstore : (m.storeString start.length bytes).cell i =
        (m.storeAll start.length bytes).cell i := if_neg hne
    rw [hstore, cell_storeAll]
    split_ifs with hle
    · rw [List.getElem_append_right hle, List.getElem?_eq_getElem (by
        rw [List.length_append] at hi
        omega)]
      rfl
    · rw [List.getElem_append_left (by omega)]
      exact h i (by omega)
  · rw [List.length_append]
    exact if_pos rfl

/-- A string stored at the start. -/
lemma holds_storeString_zero (m : ByteMemory) {s : List UInt8} (hnul : 0 ∉ s) :
    (m.storeString 0 s).Holds s := by
  have hempty : m.StartsWith [] := nofun
  exact holds_storeString hempty hnul

/-- The length of the string that is held. -/
lemma Holds.strnlen_eq {s : List UInt8} (h : m.Holds s) {n : ℕ} (hn : s.length < n) :
    m.strnlen n = s.length := by
  have hfind : ((List.range n).find? fun i => m.cell i = 0) = some s.length := by
    rw [List.find?_range_eq_some]
    refine ⟨by simpa using h.terminator, List.mem_range.mpr hn, fun j hj => ?_⟩
    have hbyte := h.starts j hj
    have hne : s[j] ≠ 0 := fun heq => h.nulFree (heq ▸ List.getElem_mem hj)
    simpa [hbyte] using hne
  rw [strnlen, hfind]
  rfl

end ByteMemory

end HardwareTest.Lib
