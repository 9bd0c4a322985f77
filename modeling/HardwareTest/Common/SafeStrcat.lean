import HardwareTest.Common.SafeString
import HardwareTest.Lib.ByteMemory

/-!
# Copy and append, byte by byte: `utils/safe_string.h`

The functions of `Common/SafeString.lean` say what a buffer holds. Here they write the memory that
the destination points to, which goes on behind the buffer. The pointers are not NULL, and the two
strings do not overlap the destination.

* `SafeString.safeStringCopy`, `SafeString.safeStrcat`: the functions as they write.
* `safeStringCopy_eq`, `safeStrcat_eq`: each writes one string with its terminator.
* `concatenates`: a copy and an append make the truncated concatenation.
-/

namespace HardwareTest

open Lib

namespace SafeString

/-! ## The functions -/

/-- The length of the source, and the destination: `memcpy`, then the terminator.
Source: `utils/safe_string.h`, `safe_string_copy` -/
def safeStringCopy (dest : ByteMemory) (src : CString) (destSize : ℕ) : ℕ × ByteMemory :=
  if destSize = 0 then (0, dest)
  else
    let srcLen := src.length
    let copyLen := if srcLen ≥ destSize then destSize - 1 else srcLen
    (srcLen, (dest.storeAll 0 (src.take copyLen)).store copyLen 0)

/-- The `while` loop over the source, from index `i` on: the index and `fits` when it ends.
Source: `utils/safe_string.h`, `safe_strcat` -/
def strcatLoop (dstLen remainingSpace : ℕ) : ℕ → CString → ByteMemory → (ℕ × Bool) × ByteMemory
  | i, [], dst => ((i, true), dst)
  | i, c :: src, dst =>
      if i < remainingSpace then
        strcatLoop dstLen remainingSpace (i + 1) src (dst.store (dstLen + i) c)
      else ((i, false), dst)

/-- Whether the source fits, and the destination.
Source: `utils/safe_string.h`, `safe_strcat` -/
def safeStrcat (dst : ByteMemory) (src : CString) (dstSize : ℕ) : Bool × ByteMemory :=
  if dstSize = 0 then (false, dst)
  else
    let dstLen := dst.strnlen dstSize
    if dstLen ≥ dstSize then (false, dst)
    else
      let remainingSpace := dstSize - dstLen - 1
      let r := strcatLoop dstLen remainingSpace 0 src dst
      (r.1.2, r.2.store (dstLen + if r.1.1 < remainingSpace then r.1.1 else remainingSpace) 0)

/-! ## What they write -/

/-- The copy writes the string that fits. -/
lemma safeStringCopy_eq (dest : ByteMemory) (src : CString) {destSize : ℕ} (h : 0 < destSize) :
    safeStringCopy dest src destSize =
      (src.length, dest.storeString 0 (src.take (destSize - 1))) := by
  unfold safeStringCopy ByteMemory.storeString
  rw [if_neg (by omega)]
  simp only [Nat.zero_add, List.length_take]
  split_ifs with hlong
  · rw [Nat.min_eq_left (by omega)]
  · rw [List.take_of_length_le (Nat.le_refl _), List.take_of_length_le (by omega),
      Nat.min_eq_right (by omega)]

/-- The loop writes what there is room for. -/
lemma strcatLoop_eq (dstLen remainingSpace i : ℕ) (src : CString) (dst : ByteMemory)
    (h : i ≤ remainingSpace) :
    strcatLoop dstLen remainingSpace i src dst =
      ((i + (src.take (remainingSpace - i)).length, decide (i + src.length ≤ remainingSpace)),
        dst.storeAll (dstLen + i) (src.take (remainingSpace - i))) := by
  induction src generalizing i dst with
  | nil => simp [strcatLoop, h, ByteMemory.storeAll]
  | cons c src ih =>
      rw [strcatLoop]
      split_ifs with hroom
      · have htake : remainingSpace - i = remainingSpace - (i + 1) + 1 := by omega
        have hindex : ∀ k, i + 1 + k = i + (k + 1) := by omega
        rw [ih (i + 1) _ hroom, htake, List.take_succ_cons, ByteMemory.storeAll, List.length_cons,
          List.length_cons, hindex, hindex]
        rfl
      · have hfull : remainingSpace - i = 0 := by omega
        rw [hfull, List.take_zero]
        simp only [List.length_nil, List.length_cons, ByteMemory.storeAll, Nat.add_zero]
        rw [decide_eq_false (by omega)]

/-- The append writes the string that there is room for, behind the string that is held. -/
lemma safeStrcat_eq {dst : ByteMemory} {s : CString} (hs : dst.Holds s) (src : CString)
    {dstSize : ℕ} (h : s.length < dstSize) :
    safeStrcat dst src dstSize =
      (decide (s.length + src.length < dstSize),
        dst.storeString s.length (src.take (dstSize - s.length - 1))) := by
  unfold safeStrcat
  rw [if_neg (by omega), hs.strnlen_eq h]
  simp only [if_neg (Nat.not_le.mpr h), strcatLoop_eq _ _ 0 src dst (Nat.zero_le _), Nat.zero_add,
    Nat.sub_zero, Nat.add_zero]
  have hend : (if (src.take (dstSize - s.length - 1)).length < dstSize - s.length - 1 then
      (src.take (dstSize - s.length - 1)).length else dstSize - s.length - 1) =
      (src.take (dstSize - s.length - 1)).length := by
    rw [List.length_take]
    split_ifs <;> omega
  have hfits : src.length ≤ dstSize - s.length - 1 ↔ s.length + src.length < dstSize := by omega
  rw [hend, decide_eq_decide.mpr hfits]
  rfl

/-- The copy leaves what the buffer of the program's model holds. -/
lemma holds_safeStringCopy (dest : ByteMemory) {src : CString} (hnul : 0 ∉ src) {n destSize : ℕ}
    (h₀ : 0 < destSize) (hn : destSize ≤ n) :
    (safeStringCopy dest src destSize).2.Holds
      (HardwareTest.safeStringCopy src destSize h₀ hn : CharBuf n).chars := by
  rw [safeStringCopy_eq dest src h₀, safeStringCopy_chars]
  exact dest.holds_storeString_zero fun hmem => hnul (List.mem_of_mem_take hmem)

end SafeString

/-! ## Copy and append -/

/-- A C string: no byte before the terminator is 0. -/
structure NulFree where
  chars : CString
  nulFree : 0 ∉ chars

/-- **Truncated concatenation**: what a copy that returned `copied` and an append that returned
`fits` have made of a buffer of `n` bytes and of the memory behind it. -/
structure Concatenates (a b : CString) (n : ℕ) (before after : ByteMemory) (copied : ℕ)
    (fits : Bool) : Prop where
  content : after.Holds ((a ++ b).take (n - 1))
  terminated : ((a ++ b).take (n - 1)).length < n
  writes : ∃ offsets, after.written = before.written ++ offsets ∧ ∀ i ∈ offsets, i < n
  behind : ∀ i, n ≤ i → after.cell i = before.cell i
  signals : copied < n ∧ fits = true ↔ a.length + b.length < n

/-- The truncated concatenation is cut in two by the copy. -/
lemma take_append_eq (a b : CString) (n : ℕ) :
    (a ++ b).take (n - 1) =
      a.take (n - 1) ++ b.take (n - (a.take (n - 1)).length - 1) := by
  have hroom : n - (a.take (n - 1)).length - 1 = n - 1 - a.length := by
    rw [List.length_take]
    omega
  rw [List.take_append, hroom]

/-- A cut of a concatenation of C strings is a C string. -/
lemma nulFree_take_append (a b : NulFree) (k : ℕ) : 0 ∉ (a.chars ++ b.chars).take k := by
  intro hmem
  rcases List.mem_append.mp (List.mem_of_mem_take hmem) with ha | hb
  · exact a.nulFree ha
  · exact b.nulFree hb

/-- **Copy and append compose to truncated concatenation**, for every buffer size and all strings.
Source: `utils/safe_string.h`, `safe_string_copy`, `safe_strcat` -/
theorem concatenates (a b : NulFree) {n : ℕ} (hn : 0 < n) (d : ByteMemory) :
    Concatenates a.chars b.chars n d
      (SafeString.safeStrcat (SafeString.safeStringCopy d a.chars n).2 b.chars n).2
      (SafeString.safeStringCopy d a.chars n).1
      (SafeString.safeStrcat (SafeString.safeStringCopy d a.chars n).2 b.chars n).1 := by
  have hlen : (a.chars.take (n - 1)).length < n := by
    rw [List.length_take]
    omega
  have hnul := nulFree_take_append a b (n - 1)
  rw [take_append_eq] at hnul
  have hcopied : (d.storeString 0 (a.chars.take (n - 1))).Holds (a.chars.take (n - 1)) :=
    d.holds_storeString_zero fun hmem => hnul (List.mem_append_left _ hmem)
  rw [SafeString.safeStringCopy_eq d a.chars hn, SafeString.safeStrcat_eq hcopied b.chars hlen]
  refine ⟨?_, ?_, ?_, ?_, ?_⟩
  · rw [take_append_eq]
    exact ByteMemory.holds_storeString hcopied.starts hnul
  · rw [List.length_take]
    omega
  · simp only [ByteMemory.written_storeString, List.append_assoc]
    refine ⟨_, rfl, fun i hi => ?_⟩
    rw [List.mem_append, List.mem_range'_1, List.mem_range'_1] at hi
    simp only [List.length_take] at hi hlen
    omega
  · intro i hi
    have happended : (a.chars.take (n - 1)).length +
        (b.chars.take (n - (a.chars.take (n - 1)).length - 1)).length < i := by
      simp only [List.length_take]
      omega
    simp only
    rw [ByteMemory.cell_storeString_of_gt _ happended,
      ByteMemory.cell_storeString_of_gt _ (by omega)]
  · simp only [decide_eq_true_eq, List.length_take]
    omega

/-- `config` and `/json` in a buffer of ten bytes, which has room for nine of the eleven. -/
theorem concatenates_configPath :
    Concatenates (cstr "config") (cstr "/json") 10 ⟨fun _ => 255, []⟩
      (SafeString.safeStrcat (SafeString.safeStringCopy ⟨fun _ => 255, []⟩ (cstr "config") 10).2
        (cstr "/json") 10).2
      (SafeString.safeStringCopy ⟨fun _ => 255, []⟩ (cstr "config") 10).1
      (SafeString.safeStrcat (SafeString.safeStringCopy ⟨fun _ => 255, []⟩ (cstr "config") 10).2
        (cstr "/json") 10).1 :=
  concatenates ⟨cstr "config", by decide⟩ ⟨cstr "/json", by decide⟩ (by decide) _

example : (SafeString.safeStrcat (SafeString.safeStringCopy ⟨fun _ => 255, []⟩ (cstr "config") 10).2
    (cstr "/json") 10).1 = false := by decide

end HardwareTest
