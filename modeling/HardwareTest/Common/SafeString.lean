import Mathlib.Data.List.TakeDrop
import Mathlib.Tactic.Common

/-!
# Strings: `utils/safe_string.h`

* A C string is the list of its bytes before the terminator (`CString`); `strcmp(a, b) == 0` is
  equality of these lists and `strlen` their length.
* A `char[n]` member that holds a terminated string is a `CharBuf n`: its length is below `n`, so
  an unterminated buffer cannot be built. The bytes after the terminator are not modelled; no
  function of the program reads them.
* `safeStringCopy` is `safe_string_copy`: it fills a buffer and truncates to `dest_size - 1`
  bytes. Copying a buffer into one of its own size loses nothing (`safeStringCopy_self`).
* `safeSprintf` is `safe_sprintf` for a text that the format has made; the buffer holds the text
  exactly when the text fits (`safeSprintf_chars_eq_iff`).
-/

namespace HardwareTest

/-- The bytes of a C string, without the terminator. -/
abbrev CString := List UInt8

/-- A string constant of the source as its bytes. -/
def cstr (s : String) : CString := s.toList.map fun c => c.toNat.toUInt8

/-- A `char[n]` buffer that holds a terminated string. -/
@[ext]
structure CharBuf (n : ℕ) where
  /-- The bytes before the terminator. -/
  chars : CString
  /-- The terminator lies inside the buffer. -/
  terminated : chars.length < n
deriving DecidableEq

/-! The bounds of the program's buffer sizes, by name: the buffers of all modules take their default
proofs from here. -/

lemma zero_lt_32 : 0 < 32 := by decide
lemma zero_lt_63 : 0 < 63 := by decide
lemma zero_lt_64 : 0 < 64 := by decide
lemma zero_lt_128 : 0 < 128 := by decide
lemma zero_lt_256 : 0 < 256 := by decide
lemma le_32 : 32 ≤ 32 := by decide
lemma le_64 : 64 ≤ 64 := by decide
lemma le_128 : 128 ≤ 128 := by decide
lemma le_63_64 : 63 ≤ 64 := by decide
lemma le_63_128 : 63 ≤ 128 := by decide

/-- The zeroed buffer. -/
def CharBuf.empty (n : ℕ) (h : 0 < n := by
    first
    | exact zero_lt_64 | exact zero_lt_128 | exact zero_lt_256 | exact zero_lt_32 | decide) :
    CharBuf n := ⟨[], h⟩

/-- Copy `src` into a `char[n]` buffer, told that the buffer has `destSize` bytes.
Source: `utils/safe_string.h`, `safe_string_copy` -/
def safeStringCopy {n : ℕ} (src : CString) (destSize : ℕ)
    (h₀ : 0 < destSize := by
      first
      | exact zero_lt_64 | exact zero_lt_63 | exact zero_lt_128 | exact zero_lt_32 | decide)
    (hn : destSize ≤ n := by
      first
      | exact le_64 | exact le_63_64 | exact le_63_128 | exact le_128 | exact le_32 | decide) :
    CharBuf n where
  chars := src.take (if src.length ≥ destSize then destSize - 1 else src.length)
  terminated := by
    rw [List.length_take]
    split_ifs with h
    · omega
    · omega

/-- `INT_MAX`, the longest text `vsnprintf` can return the length of. -/
abbrev intMax : ℕ := 2147483647

/-- Print a text into a `char[n]` buffer, told that the buffer has `destSize` bytes; whether it was
printed in full. `vsnprintf` fails on a text longer than `INT_MAX`.
Source: `utils/safe_string.h`, `safe_sprintf` -/
def safeSprintf {n : ℕ} (text : CString) (destSize : ℕ) (h₀ : 0 < destSize := by decide)
    (hn : destSize ≤ n := by decide) : Bool × CharBuf n :=
  if text.length > intMax then (false, .empty n (Nat.lt_of_lt_of_le h₀ hn))
  else (decide (text.length < destSize), safeStringCopy text destSize h₀ hn)

/-- Whether two strings are equal (`strcmp(str1, str2) == 0`).
Source: `utils/safe_string.h`, `safe_string_compare` -/
def safeStringCompare (str1 str2 : CString) : Bool := decide (str1 = str2)

/-- The comparison is equality of the strings. -/
@[simp] lemma safeStringCompare_eq_true {a b : CString} : safeStringCompare a b = true ↔ a = b := by
  simp [safeStringCompare]

/-- The comparison fails on different strings. -/
@[simp] lemma safeStringCompare_eq_false {a b : CString} :
    safeStringCompare a b = false ↔ a ≠ b := by
  simp [safeStringCompare]

section copy

variable {n : ℕ} {destSize : ℕ} {h₀ : 0 < destSize} {hn : destSize ≤ n}

/-- A copy is the source cut to `destSize - 1` bytes. -/
lemma safeStringCopy_chars (src : CString) :
    (safeStringCopy src destSize h₀ hn : CharBuf n).chars = src.take (destSize - 1) := by
  unfold safeStringCopy
  simp only
  split_ifs with h
  · rfl
  · rw [List.take_of_length_le (Nat.le_refl _), List.take_of_length_le (by omega)]

/-- A string that fits is copied whole. -/
lemma safeStringCopy_chars_of_lt {src : CString} (h : src.length < destSize) :
    (safeStringCopy src destSize h₀ hn : CharBuf n).chars = src := by
  rw [safeStringCopy_chars, List.take_of_length_le (by omega)]

/-- A copy holds the whole source iff it fits. -/
lemma safeStringCopy_chars_eq_iff {src : CString} :
    (safeStringCopy src destSize h₀ hn : CharBuf n).chars = src ↔ src.length < destSize := by
  rw [safeStringCopy_chars, List.take_eq_self_iff]
  omega

/-- **Truncation.** A buffer that a text is printed into holds the text iff the text fits; its size
is at most `INT_MAX`. -/
theorem safeSprintf_chars_eq_iff {text : CString} (hsize : destSize ≤ intMax) :
    (safeSprintf text destSize h₀ hn : Bool × CharBuf n).2.chars = text ↔
      text.length < destSize := by
  unfold safeSprintf
  split_ifs with hlong
  · constructor
    · intro hempty
      have hnil : text = [] := hempty.symm
      rw [hnil] at hlong
      simp at hlong
    · intro hfits
      omega
  · rw [safeStringCopy_chars_eq_iff]

end copy

/-- Copying a buffer into one of the same size is the identity. -/
@[simp] lemma safeStringCopy_self {n : ℕ} (b : CharBuf n) {h₀ : 0 < n} {hn : n ≤ n} :
    safeStringCopy b.chars n h₀ hn = b := by
  ext1
  exact safeStringCopy_chars_of_lt b.terminated

end HardwareTest
