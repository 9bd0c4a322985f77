import HardwareTest.Lib.Separated
import HardwareTest.Config.CJson
import Mathlib.Data.List.TakeWhile

/-!
# The parse buffer: `third-party/cjson-1.7.19/cJSON.c`

* A `parse_buffer` is its `content`, the bytes of the text with the terminator, and an offset into
  it. `readAt` is a read the source does not guard; outside the content it is `outOfBounds`, and so
  is everything after it.
* `ParseError.refused` is `return false`, with the offset that the caller finds in the buffer.
* `bufferSkipWhitespace` passes every byte up to 32, the terminator included, and steps back when it
  has reached the end. `skip_spans` says what it passes, `skip_eq` where it stops.
-/

namespace HardwareTest

open Lib

namespace CJson

/-! ## The bytes of the syntax -/

abbrev quotationMark : UInt8 := 34
abbrev plusSign : UInt8 := 43
abbrev comma : UInt8 := 44
abbrev minusSign : UInt8 := 45
abbrev decimalPoint : UInt8 := 46
abbrev colon : UInt8 := 58
abbrev beginArray : UInt8 := 91
abbrev backslash : UInt8 := 92
abbrev endArray : UInt8 := 93
abbrev beginObject : UInt8 := 123
abbrev endObject : UInt8 := 125

/-- Source: `third-party/cjson-1.7.19/cJSON.h`, `CJSON_NESTING_LIMIT` -/
abbrev nestingLimit : ℕ := 1000

/-! ## Outcomes and accesses -/

/-- How parsing ends without a value. -/
inductive ParseError
  /-- `return false`, the buffer left at this offset. -/
  | refused (offset : ℕ)
  /-- An access outside a buffer, which C does not define. -/
  | outOfBounds
  /-- More rounds of a loop than its bound; no call takes that many. -/
  | outOfFuel
deriving DecidableEq

/-- A function on the parse buffer. -/
abbrev Parse (α : Type) := Except ParseError α

/-- Refused, with an offset inside the content or at its end. -/
def RefusedWithin (content : List UInt8) (e : ParseError) : Prop :=
  ∃ offset ≤ content.length, e = .refused offset

/-- The content ends with the terminator. -/
def Terminated (content : List UInt8) : Prop := content.getLast? = some 0

/-- A byte of the buffer, read without a check. -/
def readAt (content : List UInt8) (offset : ℕ) : Parse UInt8 :=
  match content[offset]? with
  | some b => .ok b
  | none => .error .outOfBounds

/-- `can_read(buffer, n) && strncmp(buffer_at_offset(buffer), literal, n) == 0`. -/
def readsLiteral (content : List UInt8) (offset : ℕ) (literal : CString) : Bool :=
  decide (offset + literal.length ≤ content.length ∧
    (content.drop offset).take literal.length = literal)

/-- The offset after the whitespace, or of the last byte if there is nothing else.
Source: `third-party/cjson-1.7.19/cJSON.c`, `buffer_skip_whitespace` -/
def bufferSkipWhitespace (content : List UInt8) (offset : ℕ) : ℕ :=
  if content.length ≤ offset then offset
  else
    let after := offset + ((content.drop offset).takeWhile (· ≤ 32)).length
    if after = content.length then after - 1 else after

/-- The offset after the byte order mark, if the content begins with one.
Source: `third-party/cjson-1.7.19/cJSON.c`, `skip_utf8_bom` -/
def skipUtf8Bom (content : List UInt8) : ℕ :=
  if 4 < content.length ∧ content.take 3 = [0xEF, 0xBB, 0xBF] then 3 else 0

variable {content literal : List UInt8} {p q : ℕ} {b : UInt8}

/-! ## Accesses -/

lemma readAt_of_getElem? (h : content[p]? = some b) : readAt content p = .ok b := by
  simp only [readAt, h]

lemma readsLiteral_iff (hne : literal ≠ []) :
    readsLiteral content p literal = true ↔ Spans content p literal (p + literal.length) := by
  rw [readsLiteral, decide_eq_true_iff]
  constructor
  · rintro ⟨-, htake⟩
    refine .of_drop_eq (u := (content.drop p).drop literal.length) ?_
    nth_rewrite 1 [← List.take_append_drop literal.length (content.drop p)]
    rw [htake]
  · intro h
    have htake : (content.drop p).take literal.length = literal := by
      rw [h.drop_eq, List.take_left]
    have hlen := congrArg List.length h.drop_eq
    rw [List.length_append, List.length_drop] at hlen
    have hpos := List.length_pos_iff.mpr hne
    exact ⟨by omega, htake⟩

/-- A byte that is not the terminator is not the last one. -/
lemma Terminated.lt_length (hend : Terminated content) (h : content[p]? = some b) (hb : b ≠ 0) :
    p + 1 < content.length := by
  obtain ⟨hlt, hp⟩ := List.getElem?_eq_some_iff.mp h
  by_contra hge
  have hlast : content.length - 1 = p := by omega
  rw [Terminated, List.getLast?_eq_getElem?, hlast, h] at hend
  exact hb (Option.some.inj hend)

/-! ## Whitespace -/

/-- What the parser takes for whitespace. -/
def Whitespace (w : List UInt8) : Prop := ∀ b ∈ w, b ≤ 32

/-- What was passed is whitespace, and the offset is inside the content. -/
lemma skip_spans (hp : p < content.length) :
    ∃ w, Whitespace w ∧ Spans content p w (bufferSkipWhitespace content p) ∧
      bufferSkipWhitespace content p < content.length := by
  have hspan : Spans content p ((content.drop p).takeWhile (· ≤ 32))
      (p + ((content.drop p).takeWhile (· ≤ 32)).length) :=
    .of_drop_eq List.takeWhile_append_dropWhile.symm
  have hspace : Whitespace ((content.drop p).takeWhile (· ≤ 32)) := by
    intro b hb
    have hle := List.mem_takeWhile_imp hb
    simpa using hle
  have hle := hspan.le_length (Nat.le_of_lt hp)
  rw [bufferSkipWhitespace, if_neg (by omega)]
  generalize (content.drop p).takeWhile (· ≤ 32) = w at hspan hspace hle ⊢
  simp only
  split_ifs with hafter
  · -- the last byte is whitespace as well, and is not passed
    have hw : 0 < w.length := by omega
    rw [← List.take_append_drop (w.length - 1) w] at hspan
    refine ⟨w.take (w.length - 1), fun b hb => hspace b (List.mem_of_mem_take hb), ?_, by omega⟩
    have hlen : p + (w.take (w.length - 1)).length = p + w.length - 1 := by
      rw [List.length_take]
      omega
    rw [← hlen]
    exact hspan.split.1
  · exact ⟨w, hspace, hspan, by omega⟩

/-- The offset stops at the first byte that is not whitespace. -/
lemma skip_eq {w : List UInt8} (hw : Whitespace w) (h : Spans content p w q)
    (hq : content[q]? = some b) (hb : 32 < b) : bufferSkipWhitespace content p = q := by
  obtain ⟨hlt, rfl⟩ := List.getElem?_eq_some_iff.mp hq
  have htake : (content.drop p).takeWhile (· ≤ 32) = w := by
    rw [h.drop_eq, List.drop_eq_getElem_cons hlt, List.takeWhile_append_of_pos fun c hc =>
      decide_eq_true (hw c hc), List.takeWhile_cons_of_neg (by simpa using hb), List.append_nil]
  have hlen := h.length_eq
  rw [bufferSkipWhitespace, if_neg (by omega), htake]
  simp only [hlen]
  rw [if_neg (by omega)]

end CJson

end HardwareTest
