import HardwareTest.Json.Grammar

/-!
# JSON texts

* `jsonGrammar`: the padding, the strings and the numbers of JSON. An escaped character is a Unicode
  character, and stands for its UTF-8 bytes; the bytes that are not escaped are not asked to be
  UTF-8. A number stands for its `valueint`.
* `encodeUtf8_char`, `surrogatePair_eq`: the bit operations of `utf16_literal_to_utf8` encode
  characters.
* `cJSONParse_json_iff`: **a JSON text is parsed into its value iff the value is nested within the
  limit**, and is refused otherwise.
-/

namespace HardwareTest

open Lib

namespace CJson

/-! ## The grammar -/

/-- Space, tab, line feed and carriage return. -/
def JsonPadding (w : List UInt8) : Prop := ∀ b ∈ w, b = 32 ∨ b = 9 ∨ b = 10 ∨ b = 13

/-- Four hexadecimal digits of a number. -/
inductive HexDigits : List UInt8 → ℕ → Prop
  | mk {a b c d : UInt8} {k l m n : ℕ} : hexDigit a = some k → hexDigit b = some l →
      hexDigit c = some m → hexDigit d = some n →
      HexDigits [a, b, c, d] (((k * 16 + l) * 16 + m) * 16 + n)

/-- The letters that may be escaped, with the bytes they stand for. -/
def jsonEscapes : List (UInt8 × UInt8) :=
  [(34, 34), (92, 92), (47, 47), (98, 8), (102, 12), (110, 10), (114, 13), (116, 9)]

/-- A character in a string, and its bytes. -/
inductive JsonCharacter : List UInt8 → List UInt8 → Prop
  | unescaped {b : UInt8} : 32 ≤ b → b ≠ quotationMark → b ≠ backslash → JsonCharacter [b] [b]
  | escape {c b : UInt8} : (c, b) ∈ jsonEscapes → JsonCharacter [backslash, c] [b]
  | unicode {digits : List UInt8} {c : Char} : HexDigits digits c.toNat →
      JsonCharacter ([backslash, letterU] ++ digits) (String.utf8EncodeChar c)
  | pair {high low : List UInt8} {c : Char} {n : ℕ} : c.toNat = 0x10000 + n →
      HexDigits high (0xD800 + n / 1024) → HexDigits low (0xDC00 + n % 1024) →
      JsonCharacter ([backslash, letterU] ++ high ++ ([backslash, letterU] ++ low))
        (String.utf8EncodeChar c)

inductive JsonCharacters : List UInt8 → List UInt8 → Prop
  | nil : JsonCharacters [] []
  | next {s bytes raw output : List UInt8} : JsonCharacter s bytes → JsonCharacters raw output →
      JsonCharacters (s ++ raw) (bytes ++ output)

def JsonString (text output : List UInt8) : Prop :=
  ∃ raw, text = quotationMark :: raw ++ [quotationMark] ∧ JsonCharacters raw output

/-- A decimal as JSON writes it: no plus sign, no digit missing and no leading 0. -/
structure Decimal.IsJson (d : Decimal) : Prop extends d.WellFormed where
  noPlus : d.sign ≠ [plusSign]
  wholeDigits : d.whole ≠ []
  noLeadingZero : d.whole = [48] ∨ d.whole.head? ≠ some 48
  fractionDigits : d.fraction ≠ some []

/-- A number of JSON, by its `valueint`: numbers with the same nearest integer of 32 bits towards 0
are not told apart. -/
def JsonNumber (text : List UInt8) (v : Int32) : Prop :=
  ∃ d : Decimal, d.IsJson ∧ d.text = text ∧ v = valueint (roundToDouble d.value)

def jsonGrammar : Grammar where
  padding := JsonPadding
  string := JsonString
  number := JsonNumber

/-! ## UTF-8 -/

lemma orMark {x k : ℕ} (hx : x < 2 ^ k) (mark : ℕ) : x ||| mark * 2 ^ k = mark * 2 ^ k + x := by
  rw [Nat.or_comm, ← Nat.shiftLeft_eq, Nat.shiftLeft_add_eq_or_of_lt hx]

/-- The byte after the first one keeps the last six bits. -/
lemma continuationByte (x : ℕ) : (x ||| 0x80) &&& 0xBF = x % 64 + 128 := by
  have hsum : x % 64 + 128 = x % 2 ^ 6 ||| 0x80 := by
    have h := orMark (x := x % 64) (k := 6) (by omega) 2
    simp only [Nat.reducePow, Nat.reduceMul] at h ⊢
    rw [h, Nat.add_comm]
  have hmask : ∀ i < 8, Nat.testBit 0xBF i = decide (i ≠ 6) := by decide
  have hmark : ∀ i < 8, Nat.testBit 0x80 i = decide (i = 7) := by decide
  have hhigh : ∀ n < 2 ^ 8, ∀ i ≥ 8, Nat.testBit n i = false := fun n hn i hi =>
    Nat.testBit_lt_two_pow (lt_of_lt_of_le hn (Nat.pow_le_pow_right (by decide) hi))
  rw [hsum]
  refine Nat.eq_of_testBit_eq fun i => ?_
  rw [Nat.testBit_and, Nat.testBit_or, Nat.testBit_or, Nat.testBit_mod_two_pow]
  rcases Nat.lt_or_ge i 8 with hi | hi
  · rw [hmask i hi, hmark i hi]
    rcases (by omega : i < 6 ∨ i = 6 ∨ i = 7) with h | rfl | rfl
    · have h₆ : i ≠ 6 := by omega
      have h₇ : i ≠ 7 := by omega
      simp [h, h₆, h₇]
    · simp
    · simp
  · rw [hhigh 0xBF (by decide) i hi, hhigh 0x80 (by decide) i hi]
    have hlt : ¬ i < 6 := by omega
    simp [hlt]

lemma firstByte {x k m : ℕ} (hx : x < 2 ^ k) (h : m * 2 ^ k + 2 ^ k ≤ 256) :
    (x ||| m * 2 ^ k) &&& 0xFF = x + m * 2 ^ k := by
  rw [orMark hx, show 0xFF = 2 ^ 8 - 1 from rfl, Nat.and_two_pow_sub_one_eq_mod,
    Nat.mod_eq_of_lt (by omega), Nat.add_comm]

theorem encodeUtf8_char (c : Char) : encodeUtf8 c.toNat = some (String.utf8EncodeChar c) := by
  have hmax : c.toNat ≤ 0x10FFFF := by
    rcases c.valid with h | ⟨-, h⟩
    · simp only [Char.toNat]; omega
    · simp only [Char.toNat]; omega
  have hvalue : c.val.toNat = c.toNat := rfl
  simp only [encodeUtf8, String.utf8EncodeChar, hvalue]
  generalize c.toNat = n at hmax
  by_cases h₁ : n < 0x80
  · rw [if_pos h₁, if_pos (by omega), show 0x7F = 2 ^ 7 - 1 from rfl,
      Nat.and_two_pow_sub_one_eq_mod, Nat.mod_eq_of_lt h₁]
  rw [if_neg h₁, if_neg (show ¬ n ≤ 0x7f by omega)]
  by_cases h₂ : n < 0x800
  · have hfirst := firstByte (x := n / 64) (k := 5) (m := 6) (by omega) (by decide)
    rw [if_pos h₂, if_pos (show n ≤ 0x7ff by omega), Nat.mod_eq_of_lt (b := 0x20) (by omega)]
    simp only [utf8Bytes, continuationByte, Nat.shiftRight_eq_div_pow, Nat.reducePow] at hfirst ⊢
    rw [hfirst]
  rw [if_neg h₂, if_neg (show ¬ n ≤ 0x7ff by omega)]
  by_cases h₃ : n < 0x10000
  · have hfirst := firstByte (x := n / 64 / 64) (k := 4) (m := 14) (by omega) (by decide)
    rw [if_pos h₃, if_pos (show n ≤ 0xffff by omega), Nat.mod_eq_of_lt (b := 0x10) (by omega)]
    simp only [utf8Bytes, continuationByte, Nat.shiftRight_eq_div_pow, Nat.reducePow] at hfirst ⊢
    rw [hfirst, Nat.div_div_eq_div_mul]
  · have hfirst := firstByte (x := n / 64 / 64 / 64) (k := 3) (m := 30) (by omega) (by decide)
    rw [if_neg h₃, if_pos hmax, if_neg (show ¬ n ≤ 0xffff by omega),
      Nat.mod_eq_of_lt (b := 0x08) (by omega)]
    simp only [utf8Bytes, continuationByte, Nat.shiftRight_eq_div_pow, Nat.reducePow] at hfirst ⊢
    rw [hfirst]
    simp only [Nat.div_div_eq_div_mul, Nat.reduceMul]

/-- The halves of a surrogate pair give back the code point. -/
lemma surrogatePair_eq {n : ℕ} (hn : n < 0x100000) :
    surrogatePair (0xD800 + n / 1024) (0xDC00 + n % 1024) = 0x10000 + n := by
  rw [surrogatePair, show 0x3FF = 2 ^ 10 - 1 from rfl, Nat.and_two_pow_sub_one_eq_mod,
    Nat.and_two_pow_sub_one_eq_mod, ← Nat.shiftLeft_add_eq_or_of_lt (by omega), Nat.shiftLeft_eq]
  omega

/-! ## The tokens are tokens of the parser -/

lemma HexDigits.length {digits : List UInt8} {n : ℕ} (h : HexDigits digits n) :
    digits.length = 4 := by
  cases h
  rfl

lemma HexDigits.value {digits : List UInt8} {n : ℕ} (h : HexDigits digits n) :
    hexValue digits 0 = n := by
  obtain ⟨ha, hb, hc, hd⟩ := h
  simp only [hexValue, ha, hb, hc, hd]
  ring

/-- A hexadecimal digit is neither a quotation mark nor a backslash. -/
lemma hexDigit_ne {b : UInt8} {d : ℕ} (h : hexDigit b = some d) :
    b ≠ quotationMark ∧ b ≠ backslash := by
  constructor
  · rintro rfl
    cases h
  · rintro rfl
    cases h

lemma HexDigits.scannable {digits rest : List UInt8} {n : ℕ} (h : HexDigits digits n)
    (hrest : Scannable rest) : Scannable (digits ++ rest) := by
  obtain ⟨ha, hb, hc, hd⟩ := h
  obtain ⟨ha₁, ha₂⟩ := hexDigit_ne ha
  obtain ⟨hb₁, hb₂⟩ := hexDigit_ne hb
  obtain ⟨hc₁, hc₂⟩ := hexDigit_ne hc
  obtain ⟨hd₁, hd₂⟩ := hexDigit_ne hd
  exact .plain ha₁ ha₂ (.plain hb₁ hb₂ (.plain hc₁ hc₂ (.plain hd₁ hd₂ hrest)))

lemma char_not_surrogate (c : Char) : ¬ IsSurrogate c.toNat := by
  rintro ⟨hlo, hhi⟩
  rcases c.valid with h | ⟨h, -⟩
  · simp only [Char.toNat] at hlo; omega
  · simp only [Char.toNat] at hhi; omega

/-- The first run passes a character, and the second run makes its bytes of it. -/
lemma JsonCharacter.sequence {s bytes : List UInt8} (h : JsonCharacter s bytes) :
    Sequence s bytes ∧ ∀ rest, Scannable rest → Scannable (s ++ rest) := by
  cases h with
  | unescaped _ hquote hslash => exact ⟨.plain hslash, fun rest hrest => .plain hquote hslash hrest⟩
  | @escape c b hmem =>
      refine ⟨.escape ?_, fun rest hrest => .escape hrest⟩
      simp only [jsonEscapes, List.mem_cons, Prod.mk.injEq, List.not_mem_nil, or_false] at hmem
      rcases hmem with ⟨rfl, rfl⟩ | ⟨rfl, rfl⟩ | ⟨rfl, rfl⟩ | ⟨rfl, rfl⟩ | ⟨rfl, rfl⟩ | ⟨rfl, rfl⟩ |
        ⟨rfl, rfl⟩ | ⟨rfl, rfl⟩
      all_goals rfl
  | @unicode digits c hdigits =>
      refine ⟨.literal hdigits.length ?_ ?_, fun rest hrest => .escape (hdigits.scannable hrest)⟩
      · rw [hdigits.value]
        exact char_not_surrogate c
      · rw [hdigits.value, encodeUtf8_char]
  | @pair high low c n hc hhigh hlow =>
      have hmax : c.toNat ≤ 0x10FFFF := by
        rcases c.valid with h | ⟨-, h⟩
        · simp only [Char.toNat]; omega
        · simp only [Char.toNat]; omega
      refine ⟨.pair hhigh.length hlow.length ?_ ?_ ?_ ?_ ?_, fun rest hrest => ?_⟩
      · rw [hhigh.value]
        omega
      · rw [hhigh.value]
        omega
      · rw [hlow.value]
        omega
      · rw [hlow.value]
        omega
      · rw [hhigh.value, hlow.value, surrogatePair_eq (by omega), ← hc, encodeUtf8_char]
      · rw [List.append_assoc, List.append_assoc, List.append_assoc]
        exact .escape (hhigh.scannable (.escape (hlow.scannable hrest)))

lemma JsonCharacters.decodes {raw output : List UInt8} (h : JsonCharacters raw output) :
    Scannable raw ∧ Decodes raw output := by
  induction h with
  | nil => exact ⟨.nil, .nil⟩
  | next hs _ ih => exact ⟨hs.sequence.2 _ ih.1, .next hs.sequence.1 ih.2⟩

/-- **Every token of JSON is a token of the parser.** -/
theorem jsonGrammar_within : jsonGrammar.Within := by
  refine ⟨?_, ?_, ?_⟩
  · intro w hw b hb
    rcases hw b hb with rfl | rfl | rfl | rfl
    all_goals decide
  · rintro text output ⟨raw, htext, hraw⟩
    exact ⟨raw, htext, hraw.decodes.1, hraw.decodes.2⟩
  · rintro text v ⟨d, hd, rfl, rfl⟩
    refine ⟨d, hd.toWellFormed, rfl, rfl, ?_⟩
    rcases hd.sign with hsign | hsign | hsign
    · obtain ⟨b, rest, hwhole⟩ := List.exists_cons_of_ne_nil hd.wholeDigits
      refine ⟨b, ?_, .inr (hd.whole b (by rw [hwhole]; simp))⟩
      simp [Decimal.text, hsign, hwhole]
    · exact ⟨minusSign, by simp [Decimal.text, hsign], .inl rfl⟩
    · exact absurd hsign hd.noPlus

/-! ## JSON texts are C strings -/

/-- Deeper limits admit more values. -/
lemma NestedWithin.mono {m n : ℕ} (hmn : m ≤ n) {item : CJson} (h : NestedWithin m item) :
    NestedWithin n item := by
  induction m generalizing n item with
  | zero =>
      rcases item with _ | _ | _ | _ | _ | _
      case array | object => exact absurd h (by simp [NestedWithin])
      all_goals simp [NestedWithin]
  | succ m ih =>
      obtain ⟨n, rfl⟩ := Nat.exists_eq_add_of_lt hmn
      rcases item with _ | _ | _ | _ | items | members
      case array => exact fun i hi => ih (by omega) (h i hi)
      case object => exact fun i hi => ih (by omega) (h i hi)
      all_goals simp [NestedWithin]

/-- Some limit admits a value. -/
theorem exists_nestedWithin : ∀ item : CJson, ∃ n, NestedWithin n item
  | .null | .bool _ | .number _ | .string _ => ⟨0, by simp [NestedWithin]⟩
  | .array items => by
      have hall : ∀ item ∈ items, ∃ n, NestedWithin n item := fun item _ => exists_nestedWithin item
      choose! depth hdepth using hall
      refine ⟨(items.map depth).sum + 1, fun item hi => (hdepth item hi).mono ?_⟩
      exact List.single_le_sum (by simp) _ (List.mem_map_of_mem hi)
  | .object members => by
      have hall : ∀ m ∈ members, ∃ n, NestedWithin n m.2 := fun m _ => exists_nestedWithin m.2
      choose! depth hdepth using hall
      refine ⟨(members.map depth).sum + 1, fun m hm => (hdepth m hm).mono ?_⟩
      exact List.single_le_sum (by simp) _ (List.mem_map_of_mem hm)
termination_by item => sizeOf item
decreasing_by
  · have hlt := List.sizeOf_lt_of_mem ‹item ∈ items›
    simp only [array.sizeOf_spec]
    omega
  · have hlt := List.sizeOf_lt_of_mem ‹m ∈ members›
    obtain ⟨name, item⟩ := m
    simp only [object.sizeOf_spec, Prod.mk.sizeOf_spec] at hlt ⊢
    omega

/-- A given text without a byte 0. -/
lemma ne_zero_of_all {text : List UInt8} (h : (text.all fun b => b != 0) = true) :
    ∀ b ∈ text, b ≠ 0 := by
  intro b hb
  have hb := List.all_eq_true.mp h b hb
  rwa [bne_iff_ne] at hb

/-- Two bytes around a text. -/
lemma ne_zero_between {a b : UInt8} {text : List UInt8} (ha : a ≠ 0) (hb : b ≠ 0)
    (h : ∀ c ∈ text, c ≠ 0) : ∀ c ∈ a :: text ++ [b], c ≠ 0 := by
  simp only [List.forall_mem_append, List.forall_mem_cons]
  exact ⟨⟨ha, h⟩, hb, by simp⟩

lemma jsonPadding_ne_zero {w : List UInt8} (hw : JsonPadding w) : ∀ b ∈ w, b ≠ 0 := by
  rintro b hb rfl
  rcases hw 0 hb with h | h | h | h
  all_goals cases h

lemma HexDigits.ne_zero {digits : List UInt8} {n : ℕ} (h : HexDigits digits n) :
    ∀ b ∈ digits, b ≠ 0 := by
  have hne : ∀ {b : UInt8} {d : ℕ}, hexDigit b = some d → b ≠ 0 := by
    rintro b d hb rfl
    cases hb
  obtain ⟨ha, hb, hc, hd⟩ := h
  simp [hne ha, hne hb, hne hc, hne hd]

lemma JsonCharacter.ne_zero {s bytes : List UInt8} (h : JsonCharacter s bytes) :
    ∀ b ∈ s, b ≠ 0 := by
  cases h with
  | @unescaped b hb =>
      simp only [List.forall_mem_singleton]
      rintro rfl
      exact absurd hb (by decide)
  | @escape c b hmem =>
      have hletters : ∀ e ∈ jsonEscapes.map Prod.fst, e ≠ 0 := ne_zero_of_all rfl
      have hne : c ≠ 0 := hletters c (List.mem_map_of_mem hmem)
      simp only [List.forall_mem_cons]
      exact ⟨by decide, hne, by simp⟩
  | unicode hdigits =>
      have hdigits := hdigits.ne_zero
      simp only [List.forall_mem_append]
      exact ⟨ne_zero_of_all rfl, hdigits⟩
  | pair _ hhigh hlow =>
      have hhigh := hhigh.ne_zero
      have hlow := hlow.ne_zero
      simp only [List.forall_mem_append]
      exact ⟨⟨ne_zero_of_all rfl, hhigh⟩, ne_zero_of_all rfl, hlow⟩

lemma JsonString.ne_zero {text output : List UInt8} (h : JsonString text output) :
    ∀ b ∈ text, b ≠ 0 := by
  obtain ⟨raw, rfl, hraw⟩ := h
  have hall : ∀ b ∈ raw, b ≠ 0 := by
    induction hraw with
    | nil => simp
    | next hs _ ih => exact List.forall_mem_append.mpr ⟨hs.ne_zero, ih⟩
  exact ne_zero_between (by decide) (by decide) hall

lemma JsonNumber.ne_zero {text : List UInt8} {v : Int32} (h : JsonNumber text v) :
    ∀ b ∈ text, b ≠ 0 := by
  obtain ⟨d, hd, rfl, -⟩ := h
  rintro b hb rfl
  exact absurd (hd.toWellFormed.numberBytes 0 hb) (by decide)

/-- A JSON text holds no byte 0. -/
lemma value_ne_zero {text : List UInt8} {item : CJson} (h : Value jsonGrammar text item) :
    ∀ b ∈ text, b ≠ 0 := by
  obtain ⟨n, hn⟩ := exists_nestedWithin item
  induction n generalizing text item with
  | zero =>
      cases h with
      | null | false | true => exact ne_zero_of_all rfl
      | string ht => exact JsonString.ne_zero ht
      | number ht => exact JsonNumber.ne_zero ht
      | _ => exact absurd hn (by simp [NestedWithin])
  | succ n ih =>
      cases h with
      | null | false | true => exact ne_zero_of_all rfl
      | string ht => exact JsonString.ne_zero ht
      | number ht => exact JsonNumber.ne_zero ht
      | emptyArray hw => exact ne_zero_between (by decide) (by decide) (jsonPadding_ne_zero hw)
      | emptyObject hw => exact ne_zero_between (by decide) (by decide) (jsonPadding_ne_zero hw)
      | array hlist =>
          have hall := hlist.forall_text (fun _ => jsonPadding_ne_zero) (by decide)
            fun t i hi ht => ih ht (hn i hi)
          exact ne_zero_between (by decide) (by decide) hall
      | object hlist =>
          refine ne_zero_between (by decide) (by decide)
            (hlist.forall_text (fun _ => jsonPadding_ne_zero) (by decide) ?_)
          rintro t m hm ⟨hname, hw, hw', hval⟩
          have hname := JsonString.ne_zero hname
          have hw := jsonPadding_ne_zero hw
          have hw' := jsonPadding_ne_zero hw'
          have hval := ih hval (hn _ hm)
          simp only [List.forall_mem_append, List.forall_mem_cons]
          exact ⟨⟨hname, hw⟩, by decide, hw', hval⟩

/-! ## JSON texts are parsed -/

/-- Padding ends a number. -/
lemma stopsAt_of_jsonPadding {rest : List UInt8} (hrest : JsonPadding rest) :
    StopsAt isNumberByte rest := by
  intro b hb
  obtain ⟨rest', rfl⟩ := List.head?_eq_some_iff.mp hb
  rcases hrest b (by simp) with rfl | rfl | rfl | rfl
  all_goals rfl

/-- **A JSON text is parsed into its value iff the value is nested within the limit**, whatever its
layout is; a deeper one is refused. -/
theorem cJSONParse_json_iff {mark w body rest : List UInt8} {item : CJson} (hmark : IsMark mark)
    (hw : JsonPadding w) (hbody : Value jsonGrammar body item) (hrest : JsonPadding rest) :
    cJSONParse (mark ++ w ++ body ++ rest) = .ok item ↔ NestedWithin nestingLimit item :=
  cJSONParse_ok_iff jsonGrammar_within hmark (jsonGrammar_within.padding w hw) hbody
    (stopsAt_of_jsonPadding hrest)

/-- A list with a blank before its first item and a line feed after it. -/
theorem cJSONParse_json_iff_list :
    cJSONParse (cstr " [ true,null]\n") = .ok (.array [.bool true, .null]) ↔
      NestedWithin nestingLimit (.array [.bool true, .null]) := by
  have hblank : JsonPadding [32] := fun b hb => .inl (List.mem_singleton.mp hb)
  have hfeed : JsonPadding [10] := fun b hb => .inr (.inr (.inl (List.mem_singleton.mp hb)))
  have hnil : JsonPadding [] := fun _ hb => by cases hb
  have hlast : Separated jsonGrammar.padding comma (Value jsonGrammar) ([] ++ cstr "null" ++ [])
      [.null] := .last hnil .null hnil
  have hitems : Separated jsonGrammar.padding comma (Value jsonGrammar)
      ([32] ++ cstr "true" ++ [] ++ comma :: ([] ++ cstr "null" ++ [])) [.bool true, .null] :=
    .next hblank .true hnil hlast
  have hnone : IsMark [] := .inl rfl
  exact cJSONParse_json_iff hnone hblank (.array hitems) hfeed

end CJson

end HardwareTest
