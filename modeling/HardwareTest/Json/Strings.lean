import HardwareTest.Json.Buffer
import Mathlib.Tactic.Positivity
import Mathlib.Tactic.Ring

/-!
# Strings: `parse_string`

`parse_string` runs over a string twice. `scanString` looks for the closing quotation mark and
counts the escapes it passes; the output is allocated from these two numbers. `unescape` writes the
output and checks neither the four digits of a `\u` (a wrong digit makes the number 0) nor, since it
may so lose step with the first run, its own allocation.

* `Scannable`, `Decodes`: the texts the first run passes, and what the second makes of them.
* `unescape_yields`: whatever stands between the quotation marks, the second run stays inside its
  allocation and inside the content. The invariant counts the escapes of the first run that lie
  ahead, whether or not the second run is in step with them (`escapesFrom`).
* `parseString_sound`, `parseString_text`: the strings of the parser.
-/

namespace HardwareTest

open Lib

namespace CJson

/-! ## The model -/

/-- The letter `u`. -/
abbrev letterU : UInt8 := 117

def hexDigit (b : UInt8) : Option ℕ :=
  if 48 ≤ b ∧ b ≤ 57 then some (b.toNat - 48)
  else if 65 ≤ b ∧ b ≤ 70 then some (10 + b.toNat - 65)
  else if 97 ≤ b ∧ b ≤ 102 then some (10 + b.toNat - 97)
  else none

/-- The number of the next digits, after `h`; 0 if one of them is no digit.
Source: `third-party/cjson-1.7.19/cJSON.c`, `parse_hex4` -/
def parseHex4 (content : List UInt8) : ℕ → ℕ → ℕ → Parse ℕ
  | 0, _, h => .ok h
  | digits + 1, offset, h => do
      let b ← readAt content offset
      match hexDigit b with
      | none => .ok 0
      | some d => parseHex4 content digits (offset + 1) (16 * h + d)

/-- The bytes of a code point from the last one on, six bits each: the loop `encode as utf8`. -/
def utf8Bytes (firstByteMark : ℕ) : ℕ → ℕ → List UInt8 → List UInt8
  | 0, codepoint, written => ((codepoint ||| firstByteMark) &&& 0xFF).toUInt8 :: written
  | position + 1, codepoint, written =>
      utf8Bytes firstByteMark position (codepoint >>> 6)
        (((codepoint ||| 0x80) &&& 0xBF).toUInt8 :: written)

def encodeUtf8 (codepoint : ℕ) : Option (List UInt8) :=
  if codepoint < 0x80 then some [(codepoint &&& 0x7F).toUInt8]
  else if codepoint < 0x800 then some (utf8Bytes 0xC0 1 codepoint [])
  else if codepoint < 0x10000 then some (utf8Bytes 0xE0 2 codepoint [])
  else if codepoint ≤ 0x10FFFF then some (utf8Bytes 0xF0 3 codepoint [])
  else none

/-- The code point of a surrogate pair. -/
def surrogatePair (firstCode secondCode : ℕ) : ℕ :=
  0x10000 + (((firstCode &&& 0x3FF) <<< 10) ||| (secondCode &&& 0x3FF))

/-- The bytes of one or two `\uXXXX`, and the length of the sequence; `none` for 0.
Source: `third-party/cjson-1.7.19/cJSON.c`, `utf16_literal_to_utf8` -/
def utf16LiteralToUtf8 (content : List UInt8) (inputPointer inputEnd : ℕ) :
    Parse (Option (List UInt8 × ℕ)) :=
  if inputEnd - inputPointer < 6 then .ok none
  else do
    let firstCode ← parseHex4 content 4 (inputPointer + 2) 0
    if 0xDC00 ≤ firstCode ∧ firstCode ≤ 0xDFFF then .ok none
    else if 0xD800 ≤ firstCode ∧ firstCode ≤ 0xDBFF then
      -- the second sequence begins 6 bytes later
      if inputEnd - (inputPointer + 6) < 6 then .ok none
      else do
        let b ← readAt content (inputPointer + 6)
        let c ← readAt content (inputPointer + 7)
        if b ≠ backslash ∨ c ≠ letterU then .ok none
        else do
          let secondCode ← parseHex4 content 4 (inputPointer + 8) 0
          if secondCode < 0xDC00 ∨ 0xDFFF < secondCode then .ok none
          else .ok ((encodeUtf8 (surrogatePair firstCode secondCode)).map (·, 12))
    else .ok ((encodeUtf8 firstCode).map (·, 6))

/-- The escapes of one letter. -/
def simpleEscape (c : UInt8) : Option UInt8 :=
  if c = 98 then some 8
  else if c = 102 then some 12
  else if c = 110 then some 10
  else if c = 114 then some 13
  else if c = 116 then some 9
  else if c = quotationMark ∨ c = backslash ∨ c = 47 then some c
  else none

/-- The bytes that one round writes, and how far it moves the input pointer. -/
def unescapeRound (content : List UInt8) (inputEnd inputPointer : ℕ) : Parse (List UInt8 × ℕ) := do
  let b ← readAt content inputPointer
  if b ≠ backslash then .ok ([b], 1)
  else do
    let c ← readAt content (inputPointer + 1)
    if c = letterU then do
      let literal ← utf16LiteralToUtf8 content inputPointer inputEnd
      match literal with
      | none => .error (.refused inputPointer)
      | some r => .ok r
    else
      match simpleEscape c with
      | none => .error (.refused inputPointer)
      | some b => .ok ([b], 2)

/-- `loop through the string literal`, and the terminator after it. The output has `allocated`
bytes. -/
def unescape (content : List UInt8) (inputEnd allocated : ℕ) :
    ℕ → ℕ → List UInt8 → Parse (List UInt8)
  | 0, _, _ => .error .outOfFuel
  | fuel + 1, inputPointer, output =>
      if inputPointer < inputEnd then do
        let (bytes, sequenceLength) ← unescapeRound content inputEnd inputPointer
        if allocated < output.length + bytes.length then .error .outOfBounds
        else
          unescape content inputEnd allocated fuel (inputPointer + sequenceLength) (output ++ bytes)
      else if allocated < output.length + 1 then .error .outOfBounds
      else .ok output

/-- The bytes before the closing quotation mark, and the escapes among them; `none` when the buffer
ends first. -/
def scanString : List UInt8 → Option (ℕ × ℕ)
  | [] => none
  | b :: s =>
      if b = quotationMark then some (0, 0)
      else if b = backslash then
        match s with
        | [] => none
        | _ :: s => (scanString s).map fun r => (r.1 + 2, r.2 + 1)
      else (scanString s).map fun r => (r.1 + 1, r.2)

/-- The output, and the offset after the string.
Source: `third-party/cjson-1.7.19/cJSON.c`, `parse_string` -/
def parseString (content : List UInt8) (offset : ℕ) : Parse (List UInt8 × ℕ) := do
  let b ← readAt content offset
  if b ≠ quotationMark then .error (.refused (offset + 1))
  else
    match scanString (content.drop (offset + 1)) with
    | none => .error (.refused (offset + 1))
    | some (length, skippedBytes) => do
        let inputEnd := offset + 1 + length
        let allocationLength := inputEnd - offset - skippedBytes
        let output ← unescape content inputEnd (allocationLength + 1) (length + 1) (offset + 1) []
        .ok (output, inputEnd + 1)

/-- A buffer read as a C string: `item->valuestring` and `item->string`. -/
def cString (output : List UInt8) : CString := output.takeWhile (· ≠ 0)

/-! ## The grammar of strings -/

/-- What the first run passes: no quotation mark but after a backslash. -/
inductive Scannable : List UInt8 → Prop
  | nil : Scannable []
  | plain {b : UInt8} {s : List UInt8} : b ≠ quotationMark → b ≠ backslash → Scannable s →
      Scannable (b :: s)
  | escape {b : UInt8} {s : List UInt8} : Scannable s → Scannable (backslash :: b :: s)

/-- The number of the digits, after `h`; 0 if one of them is no digit. -/
def hexValue : List UInt8 → ℕ → ℕ
  | [], h => h
  | b :: s, h =>
      match hexDigit b with
      | none => 0
      | some d => hexValue s (16 * h + d)

def IsSurrogate (code : ℕ) : Prop := 0xD800 ≤ code ∧ code ≤ 0xDFFF

/-- The text of one round of the second run, and the bytes it writes. -/
inductive Sequence : List UInt8 → List UInt8 → Prop
  | plain {b : UInt8} : b ≠ backslash → Sequence [b] [b]
  | escape {c b : UInt8} : simpleEscape c = some b → Sequence [backslash, c] [b]
  | literal {digits bytes : List UInt8} : digits.length = 4 → ¬ IsSurrogate (hexValue digits 0) →
      encodeUtf8 (hexValue digits 0) = some bytes →
      Sequence ([backslash, letterU] ++ digits) bytes
  | pair {high low bytes : List UInt8} : high.length = 4 → low.length = 4 →
      0xD800 ≤ hexValue high 0 → hexValue high 0 ≤ 0xDBFF →
      0xDC00 ≤ hexValue low 0 → hexValue low 0 ≤ 0xDFFF →
      encodeUtf8 (surrogatePair (hexValue high 0) (hexValue low 0)) = some bytes →
      Sequence ([backslash, letterU] ++ high ++ ([backslash, letterU] ++ low)) bytes

/-- What the second run makes of a text. A backslash that is left over at the end makes an escape
with the closing quotation mark. -/
inductive Decodes : List UInt8 → List UInt8 → Prop
  | nil : Decodes [] []
  | next {s bytes raw output : List UInt8} : Sequence s bytes → Decodes raw output →
      Decodes (s ++ raw) (bytes ++ output)
  | last : Decodes [backslash] [quotationMark]

variable {content : List UInt8} {p q inputEnd : ℕ}

/-! ## The first run -/

/-- The escapes of the first run that begin in a text, its first byte being the second one of an
escape or not. -/
def escapesFrom : Bool → List UInt8 → ℕ
  | _, [] => 0
  | true, _ :: s => escapesFrom false s
  | false, b :: s => if b = backslash then escapesFrom true s + 1 else escapesFrom false s

lemma scanString_plain {b : UInt8} {s : List UInt8} (hquote : b ≠ quotationMark)
    (hslash : b ≠ backslash) :
    scanString (b :: s) = (scanString s).map fun r => (r.1 + 1, r.2) := by
  rw [scanString.eq_def]
  simp only [if_neg hquote, if_neg hslash]

lemma scanString_append {raw : List UInt8} (h : Scannable raw) (rest : List UInt8) :
    scanString (raw ++ quotationMark :: rest) = some (raw.length, escapesFrom false raw) := by
  induction h with
  | nil =>
      rw [List.nil_append, scanString.eq_def]
      simp only [if_true]
      rfl
  | plain hquote hslash _ ih =>
      rw [List.cons_append, scanString_plain hquote hslash, ih]
      simp only [Option.map_some, escapesFrom, if_neg hslash, List.length_cons]
  | escape _ ih =>
      have hne : backslash ≠ quotationMark := by decide
      simp only [List.cons_append, scanString, if_neg hne, if_true, ih, Option.map_some,
        escapesFrom, List.length_cons]

lemma scanString_sound {s : List UInt8} {length skipped : ℕ}
    (h : scanString s = some (length, skipped)) :
    ∃ raw rest, s = raw ++ quotationMark :: rest ∧ Scannable raw ∧ raw.length = length ∧
      escapesFrom false raw = skipped := by
  fun_induction scanString s generalizing length skipped with
  | case1 => cases h
  | case2 s =>
      obtain ⟨rfl, rfl⟩ := Prod.mk.inj (Option.some.inj h)
      exact ⟨[], s, rfl, .nil, rfl, rfl⟩
  | case3 => cases h
  | case4 _ _ s ih =>
      obtain ⟨⟨length', skipped'⟩, hscan, heq⟩ := Option.map_eq_some_iff.mp h
      obtain ⟨rfl, rfl⟩ := Prod.mk.inj heq
      obtain ⟨raw, rest, rfl, hraw, rfl, rfl⟩ := ih hscan
      refine ⟨backslash :: _ :: raw, rest, rfl, .escape hraw, rfl, ?_⟩
      simp [escapesFrom]
  | case5 b s hquote hslash ih =>
      obtain ⟨⟨length', skipped'⟩, hscan, heq⟩ := Option.map_eq_some_iff.mp h
      obtain ⟨rfl, rfl⟩ := Prod.mk.inj heq
      obtain ⟨raw, rest, rfl, hraw, rfl, rfl⟩ := ih hscan
      refine ⟨b :: raw, rest, rfl, .plain hquote hslash hraw, rfl, ?_⟩
      simp [escapesFrom, hslash]

/-! ## One round of the second run -/

lemma parseHex4_eq {digits : List UInt8} (h : Spans content p digits q) (value : ℕ) :
    parseHex4 content digits.length p value = .ok (hexValue digits value) := by
  induction digits generalizing p value with
  | nil => rfl
  | cons b digits ih =>
      rw [List.length_cons, parseHex4, readAt_of_getElem? h.head, ok_bind, hexValue]
      rcases hexDigit b with _ | d
      · rfl
      · exact ih h.tail _

lemma hexDigit_lt {b : UInt8} {d : ℕ} (h : hexDigit b = some d) : d < 16 := by
  rw [hexDigit] at h
  split_ifs at h with h₁ h₂ h₃
  all_goals
    obtain rfl := Option.some.inj h
    simp only [UInt8.le_iff_toNat_le, UInt8.reduceToNat] at *
    omega

lemma hexValue_lt (digits : List UInt8) (value : ℕ) :
    hexValue digits value < (value + 1) * 16 ^ digits.length := by
  induction digits generalizing value with
  | nil => simp [hexValue]
  | cons b digits ih =>
      rw [hexValue]
      rcases hb : hexDigit b with _ | d
      · positivity
      · have hd := hexDigit_lt hb
        calc hexValue digits (16 * value + d)
            < (16 * value + d + 1) * 16 ^ digits.length := ih _
          _ ≤ (16 * (value + 1)) * 16 ^ digits.length := Nat.mul_le_mul_right _ (by omega)
          _ = (value + 1) * 16 ^ (b :: digits).length := by rw [List.length_cons, pow_succ]; ring

lemma utf8Bytes_length (mark position codepoint : ℕ) (written : List UInt8) :
    (utf8Bytes mark position codepoint written).length = position + 1 + written.length := by
  induction position generalizing codepoint written with
  | zero => simp [utf8Bytes, Nat.add_comm]
  | succ position ih =>
      rw [utf8Bytes, ih, List.length_cons]
      omega

lemma encodeUtf8_length {codepoint : ℕ} {bytes : List UInt8}
    (h : encodeUtf8 codepoint = some bytes) :
    bytes.length ≤ 4 ∧ (codepoint < 0x10000 → bytes.length ≤ 3) := by
  rw [encodeUtf8] at h
  split_ifs at h with h₁ h₂ h₃ h₄
  all_goals
    obtain rfl := Option.some.inj h
    simp only [utf8Bytes_length, List.length_singleton, List.length_nil]
    omega

/-- **One escape each two bytes**, in step with the first run or not. -/
lemma escapesFrom_window (inside : Bool) {n : ℕ} {t : List UInt8} (h : t.length = 2 * n)
    (rest : List UInt8) :
    ∃ inside', escapesFrom inside (t ++ rest) ≤ escapesFrom inside' rest + n := by
  induction n generalizing inside t with
  | zero =>
      obtain rfl := List.length_eq_zero_iff.mp h
      exact ⟨inside, le_refl _⟩
  | succ n ih =>
      rcases t with _ | ⟨b, _ | ⟨c, t⟩⟩
      · simp at h
      · simp at h; omega
      · have hlen : t.length = 2 * n := by simp at h; omega
        -- the second byte begins an escape only if the first one does not
        have htwo : ∃ f, escapesFrom inside (b :: c :: (t ++ rest)) ≤
            escapesFrom f (t ++ rest) + 1 := by
          rcases inside with _ | _
          · by_cases hb : b = backslash
            · exact ⟨false, by simp [escapesFrom, hb]⟩
            · by_cases hc : c = backslash
              · exact ⟨true, by simp [escapesFrom, hb, hc]⟩
              · exact ⟨false, by simp [escapesFrom, hb, hc]⟩
          · by_cases hc : c = backslash
            · exact ⟨true, by simp [escapesFrom, hc]⟩
            · exact ⟨false, by simp [escapesFrom, hc]⟩
        obtain ⟨f, hf⟩ := htwo
        obtain ⟨f', hf'⟩ := ih f hlen
        exact ⟨f', by simp only [List.cons_append]; omega⟩

lemma escapesFrom_le (inside : Bool) (s : List UInt8) : escapesFrom inside s ≤ s.length := by
  fun_induction escapesFrom inside s with
  | case1 => exact le_refl _
  | case2 b s ih => exact Nat.le_succ_of_le ih
  | case3 s ih => exact Nat.succ_le_succ ih
  | case4 b s hb ih => exact Nat.le_succ_of_le ih

/-- What a round writes fits into the bytes it passes and the escapes among them. -/
lemma Sequence.room {s bytes : List UInt8} (h : Sequence s bytes) (inside : Bool)
    (rest : List UInt8) :
    ∃ inside', escapesFrom inside (s ++ rest) + bytes.length ≤
      s.length + escapesFrom inside' rest := by
  cases h with
  | @plain b hb =>
      refine ⟨false, ?_⟩
      rcases inside with _ | _
      · simp [escapesFrom, hb, Nat.add_comm]
      · simp [escapesFrom, Nat.add_comm]
  | @escape c b hc =>
      obtain ⟨f, hf⟩ := escapesFrom_window inside (n := 1) (t := [backslash, c]) rfl rest
      exact ⟨f, by simp only [List.length_cons, List.length_nil]; omega⟩
  | @literal digits bytes hlen hsurrogate hbytes =>
      obtain ⟨f, hf⟩ := escapesFrom_window inside (n := 3)
        (t := [backslash, letterU] ++ digits) (by simp [hlen]) rest
      have hcode : hexValue digits 0 < 0x10000 := by simpa [hlen] using hexValue_lt digits 0
      have hle := (encodeUtf8_length hbytes).2 hcode
      exact ⟨f, by simp only [List.length_append, List.length_cons, List.length_nil]; omega⟩
  | @pair high low bytes hhigh hlow _ _ _ _ hbytes =>
      obtain ⟨f, hf⟩ := escapesFrom_window inside (n := 6)
        (t := [backslash, letterU] ++ high ++ ([backslash, letterU] ++ low))
        (by simp [hhigh, hlow]) rest
      have hle := (encodeUtf8_length hbytes).1
      exact ⟨f, by simp only [List.length_append, List.length_cons, List.length_nil]; omega⟩

/-- The four digits after a `\u` that ends inside the literal. -/
lemma exists_digits (hp : p + 6 ≤ content.length)
    (h : Spans content p [backslash, letterU] (p + 2)) :
    ∃ digits, digits.length = 4 ∧ parseHex4 content 4 (p + 2) 0 = .ok (hexValue digits 0) ∧
      Spans content p ([backslash, letterU] ++ digits) (p + 6) := by
  obtain ⟨digits, hlen, hspan⟩ := Spans.exists_of_le (n := 4) (p := p + 2) hp
  refine ⟨digits, hlen, ?_, h.append hspan⟩
  rw [← hlen]
  exact parseHex4_eq hspan 0

/-- What `utf16_literal_to_utf8` accepts is one round's text. -/
lemma utf16LiteralToUtf8_yields (hend : inputEnd ≤ content.length)
    (h : Spans content p [backslash, letterU] (p + 2)) :
    Yields (fun r => ∀ bytes n, r = some (bytes, n) →
      ∃ s, Spans content p s (p + n) ∧ p + n ≤ inputEnd ∧ Sequence s bytes) (fun _ => False)
      (utf16LiteralToUtf8 content p inputEnd) := by
  rw [utf16LiteralToUtf8]
  by_cases hshort : inputEnd - p < 6
  · rw [if_pos hshort]
    exact nofun
  obtain ⟨high, hhigh, hfirst, hspan⟩ := exists_digits (by omega) h
  rw [if_neg hshort, hfirst, ok_bind]
  by_cases hlow : 0xDC00 ≤ hexValue high 0 ∧ hexValue high 0 ≤ 0xDFFF
  · rw [if_pos hlow]
    exact nofun
  rw [if_neg hlow]
  by_cases hpair : 0xD800 ≤ hexValue high 0 ∧ hexValue high 0 ≤ 0xDBFF
  · rw [if_pos hpair]
    by_cases hshort' : inputEnd - (p + 6) < 6
    · rw [if_pos hshort']
      exact nofun
    -- the second half of a surrogate pair
    obtain ⟨b, hb⟩ : ∃ b, content[p + 6]? = some b := ⟨_, List.getElem?_eq_getElem (by omega)⟩
    obtain ⟨c, hc⟩ : ∃ c, content[p + 7]? = some c := ⟨_, List.getElem?_eq_getElem (by omega)⟩
    rw [if_neg hshort', readAt_of_getElem? hb, ok_bind, readAt_of_getElem? hc, ok_bind]
    split_ifs with hmissing
    · exact nofun
    obtain ⟨rfl, rfl⟩ : b = backslash ∧ c = letterU := by simpa using hmissing
    obtain ⟨low, hlowlen, hsecond, hspan'⟩ := exists_digits (p := p + 6) (by omega)
      ((Spans.singleton hb).append (Spans.singleton hc))
    rw [hsecond, ok_bind]
    split_ifs with hrange
    · exact nofun
    · intro bytes n hbytes
      obtain ⟨bytes', henc, heq⟩ := Option.map_eq_some_iff.mp hbytes
      obtain ⟨rfl, rfl⟩ := Prod.mk.inj heq
      refine ⟨_, hspan.append hspan', by omega, ?_⟩
      exact .pair hhigh hlowlen hpair.1 hpair.2 (by omega) (by omega) henc
  · rw [if_neg hpair]
    intro bytes n hbytes
    obtain ⟨bytes', henc, heq⟩ := Option.map_eq_some_iff.mp hbytes
    obtain ⟨rfl, rfl⟩ := Prod.mk.inj heq
    refine ⟨_, hspan, by omega, .literal hhigh ?_ henc⟩
    rintro ⟨hlo, hhi⟩
    omega

/-- **One round**: it passes a text and writes what the text stands for, or it takes a backslash
at the end together with the closing quotation mark, or the string is refused here. -/
theorem unescapeRound_yields (hend : content[inputEnd]? = some quotationMark) (hp : p < inputEnd) :
    Yields (fun r => (∃ s, Spans content p s (p + r.2) ∧ p + r.2 ≤ inputEnd ∧ Sequence s r.1) ∨
      (p + 1 = inputEnd ∧ Spans content p [backslash] inputEnd ∧ r = ([quotationMark], 2)))
      (· = .refused p) (unescapeRound content inputEnd p) := by
  obtain ⟨hlt, -⟩ := List.getElem?_eq_some_iff.mp hend
  obtain ⟨b, hb⟩ : ∃ b, content[p]? = some b := ⟨_, List.getElem?_eq_getElem (by omega)⟩
  obtain ⟨c, hc⟩ : ∃ c, content[p + 1]? = some c := ⟨_, List.getElem?_eq_getElem (by omega)⟩
  rw [unescapeRound, readAt_of_getElem? hb, ok_bind]
  split_ifs with hslash
  · exact .inl ⟨[b], .singleton hb, hp, .plain hslash⟩
  rw [ne_eq, not_not] at hslash
  subst hslash
  rw [readAt_of_getElem? hc, ok_bind]
  have htwo : Spans content p [backslash, c] (p + 2) := (Spans.singleton hb).append (.singleton hc)
  split_ifs with hu
  · subst hu
    have hliteral := (utf16LiteralToUtf8_yields (Nat.le_of_lt hlt) htwo).mono
      (fun _ h => h) (fun e (h : False) => h.elim (C := e = .refused p))
    refine hliteral.bind ?_
    rintro (_ | ⟨bytes, n⟩) hr
    · exact rfl
    · exact .inl (hr bytes n rfl)
  · rcases hsimple : simpleEscape c with _ | b
    · exact rfl
    · rcases Nat.lt_or_ge (p + 1) inputEnd with hinside | hlast
      · exact .inl ⟨[backslash, c], htwo, hinside, .escape hsimple⟩
      · obtain rfl : p + 1 = inputEnd := by omega
        obtain rfl := Option.some.inj (hc.symm.trans hend)
        have hquote : simpleEscape quotationMark = some quotationMark := rfl
        obtain rfl := Option.some.inj (hquote.symm.trans hsimple)
        exact .inr ⟨rfl, .singleton hb, rfl⟩

lemma unescapeRound_literal {rest bytes : List UInt8} {n : ℕ}
    (hspan : Spans content p (backslash :: letterU :: rest) q)
    (hliteral : utf16LiteralToUtf8 content p inputEnd = .ok (some (bytes, n))) :
    unescapeRound content inputEnd p = .ok (bytes, n) := by
  rw [unescapeRound, readAt_of_getElem? hspan.head, ok_bind, if_neg (by simp),
    readAt_of_getElem? hspan.tail.head, ok_bind, if_pos rfl, hliteral]
  rfl

/-- A round on a text it passes. -/
lemma unescapeRound_text {s bytes : List UInt8} (h : Sequence s bytes) (hspan : Spans content p s q)
    (hq : q ≤ inputEnd) : unescapeRound content inputEnd p = .ok (bytes, s.length) := by
  have hlen := hspan.length_eq
  cases h with
  | plain hb =>
      rw [unescapeRound, readAt_of_getElem? hspan.head, ok_bind, if_pos hb]
      rfl
  | @escape c b hc =>
      have hu : c ≠ letterU := by
        rintro rfl
        cases hc
      rw [unescapeRound, readAt_of_getElem? hspan.head, ok_bind, if_neg (by simp),
        readAt_of_getElem? hspan.tail.head, ok_bind, if_neg hu, hc]
      rfl
  | @literal digits bytes hdigits hsurrogate henc =>
      simp only [List.length_append, List.length_cons, List.length_nil, hdigits] at hlen
      have hhex := parseHex4_eq hspan.split.2 0
      rw [hdigits] at hhex
      have hlow : ¬ (0xDC00 ≤ hexValue digits 0 ∧ hexValue digits 0 ≤ 0xDFFF) := fun hcode =>
        hsurrogate ⟨by omega, hcode.2⟩
      have hhigh : ¬ (0xD800 ≤ hexValue digits 0 ∧ hexValue digits 0 ≤ 0xDBFF) := fun hcode =>
        hsurrogate ⟨hcode.1, by omega⟩
      have hliteral : utf16LiteralToUtf8 content p inputEnd = .ok (some (bytes, 6)) := by
        rw [utf16LiteralToUtf8, if_neg (by omega)]
        simp only [List.length_cons, List.length_nil] at hhex
        rw [hhex, ok_bind, if_neg hlow, if_neg hhigh, henc]
        rfl
      rw [unescapeRound_literal hspan hliteral]
      simp only [List.length_append, List.length_cons, List.length_nil, hdigits]
  | @pair high low bytes hhigh hlow h₁ h₂ h₃ h₄ henc =>
      simp only [List.length_append, List.length_cons, List.length_nil, hhigh, hlow] at hlen
      have hfirst := parseHex4_eq hspan.split.1.split.2 0
      have hsecond := parseHex4_eq hspan.split.2.split.2 0
      rw [hhigh] at hfirst
      rw [hlow] at hsecond
      have hb := hspan.split.2.head
      have hc := hspan.split.2.tail.head
      simp only [List.length_append, List.length_cons, List.length_nil, hhigh]
        at hfirst hsecond hb hc
      have hliteral : utf16LiteralToUtf8 content p inputEnd = .ok (some (bytes, 12)) := by
        rw [utf16LiteralToUtf8, if_neg (by omega), hfirst, ok_bind, if_neg (by omega),
          if_pos ⟨h₁, h₂⟩, if_neg (by omega), readAt_of_getElem? hb, ok_bind,
          readAt_of_getElem? hc, ok_bind, if_neg (by simp), hsecond, ok_bind, if_neg (by omega),
          henc]
        rfl
      rw [unescapeRound_literal hspan hliteral]
      simp only [List.length_append, List.length_cons, List.length_nil, hhigh, hlow]

/-! ## The second run -/

section SecondRun

variable {allocated fuel inside : ℕ}

lemma Sequence.length_pos {s bytes : List UInt8} (h : Sequence s bytes) : 0 < s.length := by
  cases h with
  | plain => simp
  | escape => simp
  | literal => simp
  | pair => simp

lemma unescape_next {output bytes : List UInt8} {n : ℕ} (hp : p < inputEnd)
    (hround : unescapeRound content inputEnd p = .ok (bytes, n))
    (hroom : output.length + bytes.length ≤ allocated) :
    unescape content inputEnd allocated (fuel + 1) p output =
      unescape content inputEnd allocated fuel (p + n) (output ++ bytes) := by
  rw [unescape, if_pos hp, hround, ok_bind]
  exact if_neg (by omega)

lemma unescape_end {output : List UInt8} (hp : inputEnd ≤ p)
    (hroom : output.length + 1 ≤ allocated) :
    unescape content inputEnd allocated (fuel + 1) p output = .ok output := by
  rw [unescape, if_neg (by omega), if_neg (by omega)]

/-- **The second run stays inside its buffers**, in step with the first run or not: what it has
written, what lies ahead and the two spare bytes fit, once the escapes that lie ahead are counted as
one byte. It ends with what the grammar makes of the text, or refuses it inside the literal. -/
theorem unescape_yields (hend : content[inputEnd]? = some quotationMark) {output raw : List UInt8}
    {inside : Bool} (hraw : Spans content p raw inputEnd)
    (hroom : output.length + raw.length + 2 ≤ allocated + escapesFrom inside raw)
    (hfuel : raw.length < fuel) :
    Yields (fun result => ∃ bytes, Decodes raw bytes ∧ result = output ++ bytes)
      (fun e => ∃ o ≤ inputEnd, e = .refused o)
      (unescape content inputEnd allocated fuel p output) := by
  induction fuel generalizing p output raw inside with
  | zero => omega
  | succ fuel ih =>
      have hlen := hraw.length_eq
      rcases Nat.lt_or_ge p inputEnd with hp | hp
      · have hround := unescapeRound_yields hend hp
        rcases hr : unescapeRound content inputEnd p with e | ⟨bytes, n⟩
        · rw [hr] at hround
          rw [unescape, if_pos hp, hr]
          exact ⟨p, Nat.le_of_lt hp, hround⟩
        · rcases hround.of_ok hr with ⟨s, hs, hle, hseq⟩ | ⟨hlast, hslash, heq⟩
          · replace hseq : Sequence s bytes := hseq
            obtain ⟨raw', rfl, hraw'⟩ := hs.remainder hraw hle
            obtain ⟨inside', hinside⟩ := hseq.room inside raw'
            have hahead := escapesFrom_le inside' raw'
            have hpos := hseq.length_pos
            simp only [List.length_append] at hroom hfuel
            rw [unescape_next hp hr (by omega)]
            have hroom' : (output ++ bytes).length + raw'.length + 2 ≤
                allocated + escapesFrom inside' raw' := by
              rw [List.length_append]
              omega
            refine (ih hraw' hroom' (by omega)).mono ?_ fun _ he => he
            rintro result ⟨bytes', hdecodes, rfl⟩
            exact ⟨bytes ++ bytes', .next hseq hdecodes, List.append_assoc _ _ _⟩
          · -- the last backslash and the quotation mark: the spare byte is written
            obtain ⟨rfl, rfl⟩ := Prod.mk.inj heq
            obtain rfl := hraw.unique hslash
            have hahead := escapesFrom_le inside [backslash]
            simp only [List.length_singleton] at hroom hfuel hahead
            rw [unescape_next hp hr (by rw [List.length_singleton]; omega)]
            obtain ⟨fuel, rfl⟩ : ∃ n, fuel = n + 1 := ⟨fuel - 1, by omega⟩
            rw [unescape_end (by omega) (by
              simp only [List.length_append, List.length_singleton]
              omega)]
            exact ⟨[quotationMark], .last, rfl⟩
      · have hnil : raw = [] := List.length_eq_zero_iff.mp (by omega)
        subst hnil
        simp only [escapesFrom, List.length_nil] at hroom
        rw [unescape_end hp (by omega)]
        exact ⟨[], .nil, (List.append_nil _).symm⟩

/-- **The second run decodes** a text of the grammar. -/
theorem unescape_text (hend : content[inputEnd]? = some quotationMark)
    {output raw bytes : List UInt8} {inside : Bool} (hdecodes : Decodes raw bytes)
    (hraw : Spans content p raw inputEnd)
    (hroom : output.length + raw.length + 2 ≤ allocated + escapesFrom inside raw)
    (hfuel : raw.length < fuel) :
    unescape content inputEnd allocated fuel p output = .ok (output ++ bytes) := by
  induction hdecodes generalizing p output inside fuel with
  | nil =>
      obtain ⟨fuel, rfl⟩ : ∃ n, fuel = n + 1 := ⟨fuel - 1, by omega⟩
      have hlen := hraw.length_eq
      simp only [escapesFrom, List.length_nil] at hroom hlen
      rw [unescape_end (by omega) (by omega), List.append_nil]
  | @next s bytes raw output' hseq _ ih =>
      obtain ⟨fuel, rfl⟩ : ∃ n, fuel = n + 1 := ⟨fuel - 1, by omega⟩
      obtain ⟨hs, hraw'⟩ := hraw.split
      obtain ⟨inside', hinside⟩ := hseq.room inside raw
      have hahead := escapesFrom_le inside' raw
      have hpos := hseq.length_pos
      have hlen := hraw.length_eq
      simp only [List.length_append] at hroom hfuel hlen
      have hround : unescapeRound content inputEnd p = .ok (bytes, s.length) :=
        unescapeRound_text hseq hs (by omega)
      have hroom' : (output ++ bytes).length + raw.length + 2 ≤
          allocated + escapesFrom inside' raw := by
        rw [List.length_append]
        omega
      rw [unescape_next (by omega) hround (by omega), ih hraw' hroom' (by omega),
        List.append_assoc]
  | last =>
      have hlen := hraw.length_eq
      have hahead := escapesFrom_le inside [backslash]
      simp only [List.length_singleton] at hroom hfuel hlen hahead
      obtain ⟨fuel, rfl⟩ : ∃ n, fuel = n + 2 := ⟨fuel - 2, by omega⟩
      have hround : unescapeRound content inputEnd p = .ok ([quotationMark], 2) := by
        rw [unescapeRound, readAt_of_getElem? hraw.head, ok_bind, if_neg (by simp), hlen,
          readAt_of_getElem? hend]
        rfl
      rw [unescape_next (by omega) hround (by rw [List.length_singleton]; omega),
        unescape_end (by omega) (by
          simp only [List.length_append, List.length_singleton]
          omega)]

end SecondRun

/-! ## `parse_string` -/

/-- A string of the parser: what stands between its quotation marks, and the output. -/
structure StringText (text output : List UInt8) : Prop where
  exists_raw : ∃ raw, text = quotationMark :: raw ++ [quotationMark] ∧ Scannable raw ∧
    Decodes raw output

/-- **Every string is read inside the buffers**: `parse_string` returns what the grammar makes of
the text it passes, or refuses it with an offset inside the content. -/
theorem parseString_yields (hp : p < content.length) :
    Yields (fun r => ∃ text, Spans content p text r.2 ∧ StringText text r.1)
      (RefusedWithin content) (parseString content p) := by
  obtain ⟨b, hb⟩ : ∃ b, content[p]? = some b := ⟨_, List.getElem?_eq_getElem hp⟩
  rw [parseString, readAt_of_getElem? hb, ok_bind]
  split_ifs with hquote
  · exact ⟨p + 1, hp, rfl⟩
  rw [ne_eq, not_not] at hquote
  subst hquote
  rcases hscan : scanString (content.drop (p + 1)) with _ | ⟨length, skipped⟩
  · exact ⟨p + 1, hp, rfl⟩
  · obtain ⟨raw, rest, hdrop, hscannable, rfl, rfl⟩ := scanString_sound hscan
    have hspan : Spans content (p + 1) (raw ++ [quotationMark]) (p + 1 + raw.length + 1) := by
      have h := Spans.of_drop_eq (p := p + 1) (t := raw ++ [quotationMark]) (u := rest)
        (by rw [hdrop, List.append_assoc]; rfl)
      rwa [List.length_append, List.length_singleton, ← Nat.add_assoc] at h
    have hend := hspan.split.2.head
    obtain ⟨hlt, -⟩ := List.getElem?_eq_some_iff.mp hend
    have hahead := escapesFrom_le false raw
    have hroom : ([] : List UInt8).length + raw.length + 2 ≤
        p + 1 + raw.length - p - escapesFrom false raw + 1 + escapesFrom false raw := by
      rw [List.length_nil]
      omega
    have hrun := unescape_yields hend hspan.split.1 hroom (Nat.lt_succ_self _)
    refine (hrun.mono (fun _ h => h) (F := RefusedWithin content) ?_).bind ?_
    · rintro e ⟨o, ho, rfl⟩
      exact ⟨o, by omega, rfl⟩
    · rintro output ⟨bytes, hdecodes, rfl⟩
      exact ⟨_, (Spans.singleton hb).append hspan, ⟨raw, rfl, hscannable, hdecodes⟩⟩

/-- **Every string of the grammar is read.** -/
theorem parseString_text {text output : List UInt8} (h : StringText text output)
    (hspan : Spans content p text q) : parseString content p = .ok (output, q) := by
  obtain ⟨raw, rfl, hscannable, hdecodes⟩ := h.exists_raw
  have htail : Spans content (p + 1) (raw ++ [quotationMark]) q := hspan.tail
  have hend := htail.split.2.head
  have hahead := escapesFrom_le false raw
  have hscan : scanString (content.drop (p + 1)) =
      some (raw.length, escapesFrom false raw) := by
    rw [htail.drop_eq, List.append_assoc]
    exact scanString_append hscannable _
  have hlen := hspan.length_eq
  simp only [List.length_append, List.length_cons, List.length_nil] at hlen
  rw [parseString, readAt_of_getElem? hspan.head, ok_bind, if_neg (by simp), hscan]
  simp only
  have hroom : ([] : List UInt8).length + raw.length + 2 ≤
      p + 1 + raw.length - p - escapesFrom false raw + 1 + escapesFrom false raw := by
    rw [List.length_nil]
    omega
  rw [unescape_text hend hdecodes htail.split.1 hroom (Nat.lt_succ_self _), ok_bind]
  simp only [List.nil_append, Except.ok.injEq, Prod.mk.injEq, true_and]
  omega

end CJson

end HardwareTest
