import HardwareTest.Json.Number
import HardwareTest.Json.Strings

/-!
# Parsing a text: `cJSON_Parse`

`parse_value`, `parse_array` and `parse_object` call each other; what bounds them is the nesting
limit. `parseValue content levels` parses with `levels` levels left to it, and `parse_array` and
`parse_object` are given the parser with one level less, or none at the limit.

* `parseElement`, `parseMember`: one round of the loops over elements and members. A round begins
  one byte before its item, at the bracket, the comma or the whitespace before the first item.
* `cJSONParse`: a text with its terminator, after a byte order mark and whitespace. What follows the
  value is not looked at.
* `parseValue_endsInside`, `cJSONParse_safe`: **no text makes the parser read or write outside its
  buffers**, or take more rounds than there are bytes; a refused text is refused at an offset inside
  it.
-/

namespace HardwareTest

open Lib

namespace CJson

/-! ## The model -/

section Model

variable (content : List UInt8)

/-- A round of the loop through the elements. -/
def parseElement (parseValue : ℕ → Parse (CJson × ℕ)) (offset : ℕ) : Parse (CJson × ℕ) := do
  let (item, after) ← parseValue (bufferSkipWhitespace content (offset + 1))
  .ok (item, bufferSkipWhitespace content after)

/-- A round of the loop through the members. -/
def parseMember (parseValue : ℕ → Parse (CJson × ℕ)) (offset : ℕ) :
    Parse ((CString × CJson) × ℕ) :=
  if content.length ≤ offset + 1 then .error (.refused offset)
  else do
    let (name, afterName) ← parseString content (bufferSkipWhitespace content (offset + 1))
    let separator := bufferSkipWhitespace content afterName
    if content[separator]? ≠ some colon then .error (.refused separator)
    else do
      let (value, after) ← parseValue (bufferSkipWhitespace content (separator + 1))
      .ok ((cString name, value), bufferSkipWhitespace content after)

/-- `while (can_access_at_index(buffer, 0) && (buffer_at_offset(buffer)[0] == ','))` -/
def atComma (offset : ℕ) : Bool := content[offset]? = some comma

/-- What `parse_array` and `parse_object` do from their opening bracket on. The loop begins one byte
before the first item. -/
def parseBracketed {α : Type} (close : UInt8) (round : ℕ → Parse (α × ℕ)) (make : List α → CJson)
    (offset : ℕ) : Parse (CJson × ℕ) :=
  let first := bufferSkipWhitespace content (offset + 1)
  if content[first]? = some close then .ok (make [], first + 1)
  else if content.length ≤ first then .error (.refused (first - 1))
  else do
    let (items, last) ← doWhile round (atComma content) .outOfFuel (content.length + 1) (first - 1)
    if content[last]? ≠ some close then .error (.refused last)
    else .ok (make items, last + 1)

/-- Source: `third-party/cjson-1.7.19/cJSON.c`, `parse_array` -/
def parseArray (below : Option (ℕ → Parse (CJson × ℕ))) (offset : ℕ) : Parse (CJson × ℕ) :=
  match below with
  | none => .error (.refused offset)
  | some parseValue => do
      let b ← readAt content offset
      if b ≠ beginArray then .error (.refused offset)
      else parseBracketed content endArray (parseElement content parseValue) .array offset

/-- Source: `third-party/cjson-1.7.19/cJSON.c`, `parse_object` -/
def parseObject (below : Option (ℕ → Parse (CJson × ℕ))) (offset : ℕ) : Parse (CJson × ℕ) :=
  match below with
  | none => .error (.refused offset)
  | some parseValue =>
      if content[offset]? ≠ some beginObject then .error (.refused offset)
      else parseBracketed content endObject (parseMember content parseValue) .object offset

/-- `parse_value`, with the parser that arrays and objects are parsed with. -/
def parseValueAt (below : Option (ℕ → Parse (CJson × ℕ))) (offset : ℕ) : Parse (CJson × ℕ) :=
  if readsLiteral content offset (cstr "null") then .ok (.null, offset + 4)
  else if readsLiteral content offset (cstr "false") then .ok (.bool false, offset + 5)
  else if readsLiteral content offset (cstr "true") then .ok (.bool true, offset + 4)
  else if content[offset]? = some quotationMark then do
    let (output, after) ← parseString content offset
    .ok (.string (cString output), after)
  else if content[offset]?.any (fun b => b = minusSign || isDigit b) then
    parseNumber content offset
  else if content[offset]? = some beginArray then parseArray content below offset
  else if content[offset]? = some beginObject then parseObject content below offset
  else .error (.refused offset)

/-- Source: `third-party/cjson-1.7.19/cJSON.c`, `parse_value` -/
def parseValue : ℕ → ℕ → Parse (CJson × ℕ)
  | 0 => parseValueAt content none
  | levels + 1 => parseValueAt content (some (parseValue levels))

end Model

/-- The item, with the offset of the error where there is none.
Source: `third-party/cjson-1.7.19/cJSON.c`, `cJSON_Parse`, `cJSON_ParseWithOpts`,
`cJSON_ParseWithLengthOpts` -/
def cJSONParse (text : CString) : Parse CJson :=
  let content := text ++ [0]
  (parseValue content nestingLimit
    (bufferSkipWhitespace content (skipUtf8Bom content))).map Prod.fst

/-- The position in the text that `cJSON_Parse` leaves, `none` when it has left NULL.
Source: `third-party/cjson-1.7.19/cJSON.c`, `cJSON_GetErrorPtr`, `cJSON_ParseWithLengthOpts` -/
def cJSONGetErrorPtr (text : CString) : Option ℕ :=
  match cJSONParse text with
  | .error (.refused offset) =>
      some (if offset < (text ++ [0]).length then offset else (text ++ [0]).length - 1)
  | _ => none

/-! ## Parsing stays inside the buffers -/

variable {content : List UInt8} {p q : ℕ}

/-- A text whose last byte is not the terminator ends inside the content. -/
lemma Terminated.span_lt (hend : Terminated content) {t : List UInt8} {b : UInt8}
    (h : Spans content p (t ++ [b]) q) (hb : b ≠ 0) : q < content.length := by
  have hlt := hend.lt_length h.split.2.head hb
  have hlen := h.length_eq
  rw [List.length_append, List.length_singleton] at hlen
  omega

/-- A parsed item ends further on and inside the content. -/
def EndsInside (content : List UInt8) (p : ℕ) {α : Type} (r : Parse (α × ℕ)) : Prop :=
  Yields (fun r => p < r.2 ∧ r.2 < content.length) (RefusedWithin content) r

lemma endsInside_of_span (hend : Terminated content) {α : Type} {a : α} {t : List UInt8} {b : UInt8}
    (h : Spans content p (t ++ [b]) q) (hb : b ≠ 0) :
    EndsInside content p (.ok (a, q) : Parse (α × ℕ)) := by
  have hlen := h.length_eq
  rw [List.length_append, List.length_singleton] at hlen
  exact ⟨by simp only; omega, hend.span_lt h hb⟩

lemma le_skip (p : ℕ) (hp : p < content.length) :
    p ≤ bufferSkipWhitespace content p ∧ bufferSkipWhitespace content p < content.length := by
  obtain ⟨w, -, hspan, hlt⟩ := skip_spans hp
  have hlen := hspan.length_eq
  omega

lemma parseString_endsInside (hend : Terminated content) (hp : p < content.length) :
    EndsInside content p (parseString content p) := by
  refine (parseString_yields hp).mono ?_ fun _ he => he
  rintro ⟨output, q⟩ ⟨text, hspan, ⟨raw, rfl, -, -⟩⟩
  have hlen := hspan.length_eq
  simp only [List.length_append, List.length_cons, List.length_nil] at hlen
  exact ⟨by simp only; omega, hend.span_lt hspan (by decide)⟩

lemma parseNumber_endsInside (hend : Terminated content) (hp : p < content.length) :
    EndsInside content p (parseNumber content p) := by
  refine parseNumber_yields.mono ?_ ?_
  · rintro ⟨item, q⟩ ⟨d, hd, hspan⟩
    obtain ⟨t, b, ht⟩ := (List.eq_nil_or_concat' d.text).resolve_left hd.text_ne_nil
    have hb := hd.numberBytes b (by rw [ht]; simp)
    rw [ht] at hspan
    have hlen := hspan.length_eq
    rw [List.length_append, List.length_singleton] at hlen
    refine ⟨by simp only; omega, hend.span_lt hspan ?_⟩
    rintro rfl
    cases hb
  · rintro e rfl
    exact ⟨p, Nat.le_of_lt hp, rfl⟩

/-- After an item that ends inside, the whitespace after it ends inside too. -/
lemma skip_after {r : ℕ} (hp : p ≤ q) (hq : q < r ∧ r < content.length) :
    p < bufferSkipWhitespace content r ∧ bufferSkipWhitespace content r < content.length := by
  have hskip := le_skip r hq.2
  omega

section Below

variable {value : ℕ → Parse (CJson × ℕ)}
  (hvalue : ∀ p, p < content.length → EndsInside content p (value p))

include hvalue

lemma parseElement_endsInside (hp : p + 1 < content.length) :
    EndsInside content p (parseElement content value p) := by
  obtain ⟨hle, hlt⟩ := le_skip (p + 1) hp
  refine (hvalue _ hlt).bind fun r hr => ?_
  have hafter := skip_after hle hr
  exact ⟨by simp only; omega, hafter.2⟩

lemma parseMember_endsInside (hend : Terminated content) (hp : p + 1 < content.length) :
    EndsInside content p (parseMember content value p) := by
  obtain ⟨hle, hlt⟩ := le_skip (p + 1) hp
  rw [parseMember, if_neg (by omega)]
  refine (parseString_endsInside hend hlt).bind fun r hr => ?_
  obtain ⟨hname, hseparator⟩ := skip_after hle hr
  simp only
  split_ifs with hcolon
  · exact ⟨_, Nat.le_of_lt hseparator, rfl⟩
  · obtain ⟨hle', hlt'⟩ := le_skip _ (hend.lt_length (not_not.mp hcolon) (by decide))
    refine (hvalue _ hlt').bind fun r hr => ?_
    have hafter := skip_after hle' hr
    exact ⟨by simp only; omega, hafter.2⟩

end Below

/-- The loops over elements and over members end inside, when a round does. -/
lemma items_endsInside (hend : Terminated content) {α : Type} {round : ℕ → Parse (α × ℕ)}
    (hround : ∀ p, p + 1 < content.length → EndsInside content p (round p))
    (hp : p + 1 < content.length) :
    EndsInside content p
      (doWhile round (atComma content) .outOfFuel (content.length + 1) p) := by
  have hloop : Yields (fun r => r.2 < content.length ∧ content.length - r.2 < content.length - p)
      (RefusedWithin content)
      (doWhile round (atComma content) .outOfFuel (content.length + 1) p) :=
    doWhile_yields (I := fun p => p + 1 < content.length) (Q := fun q => q < content.length)
      (fun p => content.length - p)
      (fun p hp => (hround p hp).mono (fun r hr => ⟨hr.2, by omega⟩) fun _ he => he)
      (fun q _ hcomma => hend.lt_length (of_decide_eq_true hcomma) (by decide)) hp (by omega)
  exact hloop.mono (fun r hr => ⟨by omega, hr.1⟩) fun _ he => he

/-- An array or an object ends inside, when a round does. -/
lemma parseBracketed_endsInside (hend : Terminated content) {α : Type} {close : UInt8}
    (hclose : close ≠ 0) {round : ℕ → Parse (α × ℕ)} {make : List α → CJson}
    (hp : p + 1 < content.length)
    (hround : ∀ p, p + 1 < content.length → EndsInside content p (round p)) :
    EndsInside content p (parseBracketed content close round make p) := by
  obtain ⟨hle, hlt⟩ := le_skip (p + 1) hp
  simp only [parseBracketed]
  split_ifs with hempty
  · exact ⟨by simp only; omega, hend.lt_length hempty hclose⟩
  · omega
  · refine (items_endsInside hend hround (p := bufferSkipWhitespace content (p + 1) - 1)
      (by omega)).bind ?_
    rintro ⟨items, last⟩ ⟨hgt, hlast⟩
    simp only at hgt hlast ⊢
    split_ifs with hbracket
    · exact ⟨last, Nat.le_of_lt hlast, rfl⟩
    · exact ⟨by simp only; omega, hend.lt_length (not_not.mp hbracket) hclose⟩

/-- **One level**: `parse_value` ends inside the content or refuses inside it, if it does so one
level further down. -/
lemma parseValueAt_endsInside (hend : Terminated content) {below : Option (ℕ → Parse (CJson × ℕ))}
    (hbelow : ∀ value ∈ below, ∀ p, p < content.length → EndsInside content p (value p))
    (hp : p < content.length) : EndsInside content p (parseValueAt content below p) := by
  have hrefused : EndsInside content p (.error (.refused p) : Parse (CJson × ℕ)) :=
    ⟨p, Nat.le_of_lt hp, rfl⟩
  rw [parseValueAt]
  split_ifs with hnull hfalse htrue hstring hnumber harray hobject
  · exact endsInside_of_span hend (t := cstr "nul") ((readsLiteral_iff (by decide)).mp hnull)
      (by decide)
  · exact endsInside_of_span hend (t := cstr "fals") ((readsLiteral_iff (by decide)).mp hfalse)
      (by decide)
  · exact endsInside_of_span hend (t := cstr "tru") ((readsLiteral_iff (by decide)).mp htrue)
      (by decide)
  · exact (parseString_endsInside hend hp).bind fun r hr => hr
  · exact parseNumber_endsInside hend hp
  · rcases below with _ | value
    · exact hrefused
    · have hvalue := hbelow value rfl
      rw [parseArray, readAt_of_getElem? harray, ok_bind, if_neg (by simp)]
      exact parseBracketed_endsInside hend (by decide) (hend.lt_length harray (by decide))
        fun p hp => parseElement_endsInside hvalue hp
  · rcases below with _ | value
    · exact hrefused
    · have hvalue := hbelow value rfl
      simp only [parseObject]
      rw [if_neg (by simp [hobject])]
      exact parseBracketed_endsInside hend (by decide) (hend.lt_length hobject (by decide))
        fun p hp => parseMember_endsInside hvalue hend hp
  · exact hrefused

/-- `parse_value` ends inside the content or refuses inside it, at every level. -/
theorem parseValue_endsInside (hend : Terminated content) (levels : ℕ) (hp : p < content.length) :
    EndsInside content p (parseValue content levels p) := by
  induction levels generalizing p with
  | zero => exact parseValueAt_endsInside hend (fun _ h => by cases h) hp
  | succ levels ih =>
      refine parseValueAt_endsInside hend ?_ hp
      rintro value hvalue p hp
      obtain rfl := Option.some.inj hvalue
      exact ih hp

lemma terminated_text (text : CString) : Terminated (text ++ [0]) := List.getLast?_concat

lemma skipUtf8Bom_lt (text : CString) : skipUtf8Bom (text ++ [0]) < (text ++ [0]).length := by
  rw [skipUtf8Bom]
  split_ifs with h
  · omega
  · rw [List.length_append, List.length_singleton]
    omega

lemma cJSONParse_yields (text : CString) :
    Yields (fun _ => True) (RefusedWithin (text ++ [0])) (cJSONParse text) := by
  have hstart := (le_skip _ (skipUtf8Bom_lt text)).2
  have hvalue := parseValue_endsInside (terminated_text text) nestingLimit hstart
  rw [cJSONParse]
  rcases hr : parseValue (text ++ [0]) nestingLimit
    (bufferSkipWhitespace (text ++ [0]) (skipUtf8Bom (text ++ [0]))) with e | r
  · rw [hr] at hvalue
    exact hvalue
  · trivial

/-- **`cJSON_Parse` is safe on every text**: it reads nothing outside the text and its terminator,
writes nothing outside the strings it allocates, and ends; a text is refused exactly when an error
pointer is left, and this points into the text or at its terminator. -/
theorem cJSONParse_safe (text : CString) :
    (∃ item, cJSONParse text = .ok item ∧ cJSONGetErrorPtr text = none) ∨
      ∃ offset, cJSONParse text = .error (.refused offset) ∧
        ∃ position ≤ text.length, cJSONGetErrorPtr text = some position := by
  have hyields := cJSONParse_yields text
  rcases hr : cJSONParse text with e | item
  · rw [hr] at hyields
    obtain ⟨offset, hoffset, rfl⟩ := hyields
    refine .inr ⟨offset, rfl, if offset < (text ++ [0]).length then offset
      else (text ++ [0]).length - 1, ?_, by rw [cJSONGetErrorPtr, hr]⟩
    rw [List.length_append, List.length_singleton]
    split_ifs with hlt
    · omega
    · omega
  · exact .inl ⟨item, rfl, by rw [cJSONGetErrorPtr, hr]⟩

end CJson

end HardwareTest
