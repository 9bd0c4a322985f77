import HardwareTest.Json.Standard
import Mathlib.Data.Nat.Digits.Lemmas

/-!
# Printing a value: `cJSON_Print`, `cJSON_PrintUnformatted`

The printed text alone is modelled, not the buffer that grows under it. A number is printed from its
`valueint`, as `print_number` does when the double is that integer.

* `printString`: a string, in two passes. `printString_length`: the second pass fills the bytes that
  the first one has counted.
* `printValue`: the text of a value, in one line or formatted with tabs and newlines.
* `printValue_value`: it is a JSON text of the value, when no string in this holds the byte 0.
* `cJSONParse_print_iff`: **what was printed is parsed back, formatted or not, iff it is nested
  within the limit**.
-/

namespace HardwareTest

open Lib

namespace CJson

/-! ## The model -/

/-- A digit of `%04x`. -/
def lowerHex (d : ℕ) : UInt8 := if d < 10 then (48 + d).toUInt8 else (87 + d).toUInt8

/-- The text of a byte in a string. -/
def escapeByte (b : UInt8) : List UInt8 :=
  if 31 < b ∧ b ≠ quotationMark ∧ b ≠ backslash then [b]
  else if b = backslash then [backslash, backslash]
  else if b = quotationMark then [backslash, quotationMark]
  else if b = 8 then [backslash, 98]
  else if b = 12 then [backslash, 102]
  else if b = 10 then [backslash, 110]
  else if b = 13 then [backslash, 114]
  else if b = 9 then [backslash, 116]
  else [backslash, letterU, 48, 48, lowerHex (b.toNat / 16), lowerHex (b.toNat % 16)]

/-- The additional characters that a byte takes. -/
def escapeCharacters (b : UInt8) : ℕ :=
  if b ∈ [quotationMark, backslash, 8, 12, 10, 13, 9] then 1 else if b < 32 then 5 else 0

/-- The first pass counts the additional characters; without any the input is copied.
Source: `third-party/cjson-1.7.19/cJSON.c`, `print_string_ptr` -/
def printString (input : CString) : List UInt8 :=
  if (input.map escapeCharacters).sum = 0 then quotationMark :: input ++ [quotationMark]
  else quotationMark :: input.flatMap escapeByte ++ [quotationMark]

/-- The bytes that are reserved for a string, its terminator included. -/
def reservedForString (input : CString) : ℕ :=
  input.length + (input.map escapeCharacters).sum + 3

/-- The digits of `%d`. -/
def decimalDigits (n : ℕ) : List UInt8 :=
  if n = 0 then [48] else (Nat.digits 10 n).reverse.map fun d => (48 + d).toUInt8

/-- Source: `third-party/cjson-1.7.19/cJSON.c`, `print_number` -/
def printNumber (valueint : Int32) : List UInt8 :=
  (if valueint.toInt < 0 then [minusSign] else []) ++ decimalDigits valueint.toInt.natAbs

mutual

/-- Source: `third-party/cjson-1.7.19/cJSON.c`, `print_value`, `print_array`, `print_object` -/
def printValue (format : Bool) (depth : ℕ) : CJson → List UInt8
  | .null => cstr "null"
  | .bool value => if value then cstr "true" else cstr "false"
  | .number valueint => printNumber valueint
  | .string valuestring => printString valuestring
  | .array items => beginArray :: printElements format (depth + 1) items ++ [endArray]
  | .object members =>
      beginObject :: ((if format then [10] else []) ++ printMembers format (depth + 1) members ++
        if format then List.replicate depth 9 else []) ++ [endObject]

/-- The elements, with `,` or `, ` between them. -/
def printElements (format : Bool) (depth : ℕ) : List CJson → List UInt8
  | [] => []
  | item :: items =>
      printValue format depth item ++
        (if items.isEmpty then [] else if format then [comma, 32] else [comma]) ++
        printElements format depth items

/-- The members, each on a line of its own when formatted. -/
def printMembers (format : Bool) (depth : ℕ) : List (CString × CJson) → List UInt8
  | [] => []
  | (name, item) :: members =>
      (if format then List.replicate depth 9 else []) ++ printString name ++
        (if format then [colon, 9] else [colon]) ++ printValue format depth item ++
        (if members.isEmpty then [] else [comma]) ++ (if format then [10] else []) ++
        printMembers format depth members

end

/-- `cJSON_Print` and `cJSON_PrintUnformatted`. -/
def cJSONPrint (format : Bool) (item : CJson) : List UInt8 := printValue format 0 item

/-- No string of the value holds the byte 0: every C string ends before it. -/
inductive NulFree : CJson → Prop
  | null : NulFree .null
  | bool {b : Bool} : NulFree (.bool b)
  | number {v : Int32} : NulFree (.number v)
  | string {s : CString} : 0 ∉ s → NulFree (.string s)
  | array {items : List CJson} : (∀ item ∈ items, NulFree item) → NulFree (.array items)
  | object {members : List (CString × CJson)} : (∀ m ∈ members, 0 ∉ m.1) →
      (∀ m ∈ members, NulFree m.2) → NulFree (.object members)

@[simp] lemma nulFree_bool (b : Bool) : NulFree (.bool b) := .bool

@[simp] lemma nulFree_number (v : Int32) : NulFree (.number v) := .number

@[simp] lemma nulFree_string_iff {s : CString} : NulFree (.string s) ↔ 0 ∉ s := by
  constructor
  · intro h
    cases h
    assumption
  · exact .string

@[simp] lemma nulFree_array_iff {items : List CJson} :
    NulFree (.array items) ↔ ∀ item ∈ items, NulFree item := by
  constructor
  · intro h
    cases h
    assumption
  · exact .array

@[simp] lemma nulFree_object_iff {members : List (CString × CJson)} :
    NulFree (.object members) ↔ (∀ m ∈ members, 0 ∉ m.1) ∧ ∀ m ∈ members, NulFree m.2 := by
  constructor
  · intro h
    cases h with
    | object hnames hitems => exact ⟨hnames, hitems⟩
  · rintro ⟨hnames, hitems⟩
    exact .object hnames hitems

/-! ## Strings -/

lemma hexDigit_lowerHex {d : ℕ} (hd : d < 16) : hexDigit (lowerHex d) = some d := by
  revert d
  decide

/-- A control character is the character of its four digits. -/
lemma control_character {b : UInt8} (hlt : b.toNat < 32) :
    JsonCharacter [backslash, letterU, 48, 48, lowerHex (b.toNat / 16), lowerHex (b.toNat % 16)]
      [b] := by
  have hnat : (Char.ofNat b.toNat).toNat = b.toNat :=
    by rw [Char.ofNat, dif_pos (.inl (by omega))]; rfl
  have hdigits : HexDigits [48, 48, lowerHex (b.toNat / 16), lowerHex (b.toNat % 16)]
      (Char.ofNat b.toNat).toNat := by
    have h := HexDigits.mk (a := 48) (b := 48) (k := 0) (l := 0) rfl rfl
      (hexDigit_lowerHex (d := b.toNat / 16) (by omega))
      (hexDigit_lowerHex (d := b.toNat % 16) (by omega))
    have hsum : ((0 * 16 + 0) * 16 + b.toNat / 16) * 16 + b.toNat % 16 = b.toNat := by omega
    rw [hsum] at h
    rwa [hnat]
  have hchar := JsonCharacter.unicode hdigits
  have hbytes : String.utf8EncodeChar (Char.ofNat b.toNat) = [b] := by
    have henc := encodeUtf8_char (Char.ofNat b.toNat)
    rw [hnat, encodeUtf8, if_pos (by omega)] at henc
    rw [← Option.some.inj henc, show 0x7F = 2 ^ 7 - 1 from rfl,
      Nat.and_two_pow_sub_one_eq_mod, Nat.mod_eq_of_lt (by omega)]
    simp
  rw [hbytes] at hchar
  exact hchar

lemma escapeByte_character {b : UInt8} (hb : b ≠ 0) : JsonCharacter (escapeByte b) [b] := by
  rw [escapeByte]
  split_ifs with h₁ h₂ h₃ h₄ h₅ h₆ h₇ h₈
  · exact .unescaped (by
      have h := h₁.1
      simp only [UInt8.lt_iff_toNat_lt, UInt8.le_iff_toNat_le, UInt8.reduceToNat] at h ⊢
      omega) h₁.2.1 h₁.2.2
  · subst h₂
    exact .escape (by decide)
  · subst h₃
    exact .escape (by decide)
  · subst h₄
    exact .escape (by decide)
  · subst h₅
    exact .escape (by decide)
  · subst h₆
    exact .escape (by decide)
  · subst h₇
    exact .escape (by decide)
  · subst h₈
    exact .escape (by decide)
  · -- a control character
    have hlt : b.toNat < 32 := by
      by_contra hge
      refine h₁ ⟨?_, h₃, h₂⟩
      simp only [UInt8.lt_iff_toNat_lt, UInt8.reduceToNat]
      omega
    exact control_character hlt

/-- Both passes agree on the bytes to escape. -/
lemma escapeCharacters_eq_zero_iff {b : UInt8} :
    escapeCharacters b = 0 ↔ 31 < b ∧ b ≠ quotationMark ∧ b ≠ backslash := by
  have hlt : b < 32 ↔ ¬ 31 < b := by
    simp only [UInt8.lt_iff_toNat_lt, UInt8.reduceToNat]
    omega
  simp only [escapeCharacters, List.mem_cons, List.not_mem_nil, or_false]
  split_ifs with hshort hcontrol
  · refine iff_of_false (by decide) ?_
    rintro ⟨hprint, hquote, hslash⟩
    rcases hshort with rfl | rfl | rfl | rfl | rfl | rfl | rfl
    all_goals simp_all
  · exact iff_of_false (by decide) fun h => hlt.mp hcontrol h.1
  · exact iff_of_true rfl ⟨not_not.mp (mt hlt.mpr hcontrol), fun h => hshort (.inl h),
      fun h => hshort (.inr (.inl h))⟩

lemma escapeByte_length (b : UInt8) : (escapeByte b).length = 1 + escapeCharacters b := by
  rcases Nat.eq_zero_or_pos (escapeCharacters b) with hzero | hpos
  · rw [hzero, escapeByte, if_pos (escapeCharacters_eq_zero_iff.mp hzero)]
    rfl
  · have hescaped : ¬ (31 < b ∧ b ≠ quotationMark ∧ b ≠ backslash) := fun h =>
      absurd (escapeCharacters_eq_zero_iff.mpr h) (Nat.ne_of_gt hpos)
    rw [escapeByte, if_neg hescaped]
    simp only [escapeCharacters, List.mem_cons, List.not_mem_nil, or_false] at hpos ⊢
    split_ifs at hpos ⊢
    all_goals simp_all

/-- **The copy agrees with the escaping** where there is nothing to escape. -/
lemma printString_eq (input : CString) :
    printString input = quotationMark :: input.flatMap escapeByte ++ [quotationMark] := by
  rw [printString]
  split_ifs with hsum
  · have hplain : ∀ b ∈ input, escapeByte b = [b] := by
      intro b hb
      have hzero := List.sum_eq_zero_iff.mp hsum _ (List.mem_map_of_mem hb)
      rw [escapeByte, if_pos (escapeCharacters_eq_zero_iff.mp hzero)]
    rw [List.flatMap_congr hplain, List.flatMap_singleton']
  · rfl

/-- **A string fills what is reserved for it**, with its terminator. -/
theorem printString_length (input : CString) :
    (printString input).length + 1 = reservedForString input := by
  have hlen : (input.flatMap escapeByte).length =
      input.length + (input.map escapeCharacters).sum := by
    induction input with
    | nil => rfl
    | cons b input ih =>
        simp only [List.flatMap_cons, List.length_append, escapeByte_length, ih, List.length_cons,
          List.map_cons, List.sum_cons]
        omega
  rw [printString_eq, reservedForString]
  simp only [List.length_append, List.length_cons, List.length_nil, hlen]

lemma printString_json {s : CString} (hs : 0 ∉ s) : JsonString (printString s) s := by
  refine ⟨s.flatMap escapeByte, printString_eq s, ?_⟩
  induction s with
  | nil => exact .nil
  | cons b s ih =>
      have hb : b ≠ 0 := fun h => hs (by simp [h])
      exact .next (escapeByte_character hb) (ih fun h => hs (List.mem_cons_of_mem b h))

lemma cString_eq {s : CString} (hs : 0 ∉ s) : cString s = s := by
  refine List.takeWhile_eq_self_iff.mpr fun b hb => decide_eq_true fun hzero => hs ?_
  rwa [← hzero]

/-! ## Numbers -/

/-- The digit of a number below 10. -/
lemma digit_toNat {d : ℕ} (hd : d < 10) :
    (48 + d).toUInt8.toNat = 48 + d ∧ isDigit (48 + d).toUInt8 = true ∧
      (d ≠ 0 → (48 + d).toUInt8 ≠ 48) := by
  revert d
  decide

lemma digitsValue_reverse {digits : List ℕ} (h : ∀ d ∈ digits, d < 10) :
    digitsValue (digits.reverse.map fun d => (48 + d).toUInt8) = Nat.ofDigits 10 digits := by
  induction digits with
  | nil => rfl
  | cons d digits ih =>
      have hd := (digit_toNat (h d (by simp))).1
      rw [List.reverse_cons, List.map_append, digitsValue, List.foldl_append, ← digitsValue,
        ih fun d' hd' => h d' (List.mem_cons_of_mem d hd'), Nat.ofDigits_cons]
      simp only [List.map_cons, List.map_nil, List.foldl_cons, List.foldl_nil, hd]
      rw [Nat.add_sub_cancel_left, Nat.add_comm]

lemma decimalDigits_spec (n : ℕ) : digitsValue (decimalDigits n) = n ∧
    (∀ b ∈ decimalDigits n, isDigit b) ∧ decimalDigits n ≠ [] ∧
    (decimalDigits n = [48] ∨ (decimalDigits n).head? ≠ some 48) := by
  rw [decimalDigits]
  split_ifs with hn
  · subst hn
    exact ⟨rfl, List.forall_mem_singleton.mpr (by decide), List.cons_ne_nil _ _, .inl rfl⟩
  · have hlt : ∀ d ∈ Nat.digits 10 n, d < 10 := fun d hd => Nat.digits_lt_base (by decide) hd
    have hne : Nat.digits 10 n ≠ [] := Nat.digits_ne_nil_iff_ne_zero.mpr hn
    refine ⟨?_, ?_, ?_, .inr ?_⟩
    · rw [digitsValue_reverse hlt, Nat.ofDigits_digits]
    · intro b hb
      obtain ⟨d, hd, rfl⟩ := List.mem_map.mp hb
      exact (digit_toNat (hlt d (List.mem_reverse.mp hd))).2.1
    · simpa using hne
    · -- the first digit is the last one of the list
      rw [List.head?_map, List.head?_reverse, List.getLast?_eq_some_getLast hne, Option.map_some]
      have hlast := Nat.getLast_digit_ne_zero 10 hn
      intro heq
      exact (digit_toNat (hlt _ (List.getLast_mem hne))).2.2 hlast (Option.some.inj heq)

/-- What `print_number` prints is a number of JSON, and its value is the integer. -/
lemma printNumber_json (v : Int32) : JsonNumber (printNumber v) v := by
  obtain ⟨hvalue, hdigits, hne, hzero⟩ := decimalDigits_spec v.toInt.natAbs
  have hd : (⟨if v.toInt < 0 then [minusSign] else [], decimalDigits v.toInt.natAbs, none, none⟩ :
      Decimal).IsJson := by
    refine ⟨⟨?_, hdigits, by simp, ?_, by simp⟩, ?_, hne, hzero, by simp⟩
    · simp only
      split_ifs
      · exact .inr (.inl rfl)
      · exact .inl rfl
    · simpa [Decimal.digits] using hne
    · simp only
      split_ifs
      · decide
      · decide
  refine ⟨_, hd,
    by simp [Decimal.text, Decimal.fractionText, Decimal.exponentText, printNumber], ?_⟩
  have hrat : Decimal.value ⟨if v.toInt < 0 then [minusSign] else [],
      decimalDigits v.toInt.natAbs, none, none⟩ = (v.toInt : ℚ) := by
    simp only [Decimal.value, Decimal.digits, Decimal.exponentValue, Option.getD_none,
      List.append_nil, List.length_nil, Nat.cast_zero, sub_zero, zpow_zero, mul_one, hvalue]
    split_ifs with hneg hsign hsign
    · have habs : (v.toInt.natAbs : ℤ) = -v.toInt := by omega
      have hcast : ((v.toInt.natAbs : ℤ) : ℚ) = -(v.toInt : ℚ) := by rw [habs]; push_cast; rfl
      rw [Int.cast_natCast] at hcast
      rw [hcast]
      ring
    · exact absurd rfl hsign
    · cases hsign
    · have habs : (v.toInt.natAbs : ℤ) = v.toInt := by omega
      have hcast : ((v.toInt.natAbs : ℤ) : ℚ) = (v.toInt : ℚ) := by rw [habs]
      rw [Int.cast_natCast] at hcast
      rw [hcast, one_mul]
  have hbound : |v.toInt| < 2 ^ 53 := by
    have hlo := v.le_toInt
    have hhi := v.toInt_lt
    rw [abs_lt]
    omega
  rw [hrat, roundToDouble_intCast hbound, valueint_toInt]

/-! ## Values -/

section Values

variable {format : Bool} {depth : ℕ}

lemma jsonPadding_tabs (b : Bool) (n : ℕ) :
    JsonPadding (if b then List.replicate n 9 else []) := by
  intro c hc
  split_ifs at hc
  · exact .inr (.inl (List.eq_of_mem_replicate hc))
  · cases hc

lemma jsonPadding_newline (b : Bool) : JsonPadding (if b then [10] else []) := by
  intro c hc
  split_ifs at hc
  · exact .inr (.inr (.inl (List.mem_singleton.mp hc)))
  · cases hc

lemma JsonPadding.append {u w : List UInt8} (hu : JsonPadding u) (hw : JsonPadding w) :
    JsonPadding (u ++ w) := fun b hb => (List.mem_append.mp hb).elim (hu b) (hw b)

lemma jsonPadding_nil : JsonPadding [] := fun _ hb => by cases hb

/-- The elements make a list, if each of them is printed as a text of its value. -/
lemma printElements_separated {items : List CJson} (hne : items ≠ [])
    (hitems : ∀ item ∈ items, Value jsonGrammar (printValue format depth item) item) :
    ∀ w, JsonPadding w → Separated jsonGrammar.padding comma (Value jsonGrammar)
      (w ++ printElements format depth items) items := by
  induction items with
  | nil => exact absurd rfl hne
  | cons item items ih =>
      intro w hw
      have hitem := hitems item (by simp)
      rcases items with _ | ⟨next, items⟩
      · have h : Separated jsonGrammar.padding comma (Value jsonGrammar) _ [item] :=
          .last hw hitem jsonPadding_nil
        simpa [printElements] using h
      · -- formatted, the blank after the comma belongs to the next element
        have hblank : JsonPadding (if format then [32] else []) := by
          intro b hb
          split_ifs at hb
          · exact .inl (List.mem_singleton.mp hb)
          · cases hb
        have hrest := ih (List.cons_ne_nil _ _)
          (fun i hi => hitems i (List.mem_cons_of_mem item hi)) _ hblank
        have h : Separated jsonGrammar.padding comma (Value jsonGrammar) _
            (item :: next :: items) := .next hw hitem jsonPadding_nil hrest
        rw [printElements, List.isEmpty_cons]
        rcases format with _ | _
        · simpa using h
        · simpa using h

/-- A printed member is a member. -/
lemma printMember_json {name : CString} {item : CJson} (hname : 0 ∉ name)
    (hitem : Value jsonGrammar (printValue format depth item) item) :
    Member jsonGrammar (Value jsonGrammar) (printString name ++
      (if format then [colon, 9] else [colon]) ++ printValue format depth item) (name, item) := by
  have h := Member.mk (g := jsonGrammar) (printString_json hname) jsonPadding_nil
    (jsonPadding_tabs format 1) hitem
  rw [cString_eq hname] at h
  rcases format with _ | _
  · simpa using h
  · simpa using h

/-- The members make a list between what precedes and what follows them. -/
lemma printMembers_separated {members : List (CString × CJson)} (hne : members ≠ [])
    (hnames : ∀ m ∈ members, 0 ∉ m.1)
    (hitems : ∀ m ∈ members, Value jsonGrammar (printValue format depth m.2) m.2) :
    ∀ u w, JsonPadding u → JsonPadding w →
      Separated jsonGrammar.padding comma (Member jsonGrammar (Value jsonGrammar))
        (u ++ printMembers format depth members ++ w) members := by
  induction members with
  | nil => exact absurd rfl hne
  | cons m members ih =>
      intro u w hu hw
      obtain ⟨name, item⟩ := m
      have hmember := printMember_json (hnames (name, item) (by simp))
        (hitems (name, item) (by simp))
      have hleft := hu.append (jsonPadding_tabs format depth)
      rcases members with _ | ⟨next, members⟩
      · have h : Separated jsonGrammar.padding comma (Member jsonGrammar (Value jsonGrammar)) _
            [(name, item)] := .last hleft hmember ((jsonPadding_newline format).append hw)
        simpa [printMembers] using h
      · have hrest := ih (List.cons_ne_nil _ _)
          (fun m' hm => hnames m' (List.mem_cons_of_mem _ hm))
          (fun m' hm => hitems m' (List.mem_cons_of_mem _ hm)) _ w (jsonPadding_newline format) hw
        have h : Separated jsonGrammar.padding comma (Member jsonGrammar (Value jsonGrammar)) _
            ((name, item) :: next :: members) := .next hleft hmember jsonPadding_nil hrest
        rw [printMembers, List.isEmpty_cons]
        simpa using h

/-- **What is printed is a JSON text of the value.** -/
theorem printValue_value {item : CJson} (hitem : NulFree item) (format : Bool) (depth : ℕ) :
    Value jsonGrammar (printValue format depth item) item := by
  induction hitem generalizing depth with
  | null => exact .null
  | @bool b =>
      rcases b with _ | _
      · exact .false
      · exact .true
  | number => exact .number (printNumber_json _)
  | @string s hs =>
      have h := Value.string (g := jsonGrammar) (printString_json hs)
      rwa [cString_eq hs] at h
  | @array items _ ih =>
      rw [printValue]
      rcases items with _ | ⟨item, items⟩
      · exact .emptyArray jsonPadding_nil
      · exact .array (printElements_separated (List.cons_ne_nil _ _)
          (fun i hi => ih i hi (depth + 1)) [] jsonPadding_nil)
  | @object members hnames _ ih =>
      rw [printValue]
      rcases members with _ | ⟨m, members⟩
      · have h := Value.emptyObject (g := jsonGrammar)
          ((jsonPadding_newline format).append (jsonPadding_tabs format depth))
        simpa [printMembers] using h
      · exact .object (printMembers_separated (List.cons_ne_nil _ _) hnames
          (fun m' hm => ih m' hm (depth + 1)) _ _ (jsonPadding_newline format)
          (jsonPadding_tabs format depth))

end Values

/-- **Printed and parsed**: what `cJSON_Print` and `cJSON_PrintUnformatted` print is parsed into the
value that was printed iff the value is nested within the limit. -/
theorem cJSONParse_print_iff {item : CJson} (hitem : NulFree item) (format : Bool) :
    cJSONParse (cJSONPrint format item) = .ok item ↔ NestedWithin nestingLimit item := by
  have h := cJSONParse_ok_iff jsonGrammar_within (.inl rfl)
    (jsonGrammar_within.padding [] jsonPadding_nil) (printValue_value hitem format 0)
    (stopsAt_of_jsonPadding jsonPadding_nil)
  simpa [cJSONPrint] using h

/-- A member whose string has a newline and a quotation mark. -/
theorem cJSONParse_print_iff_member :
    cJSONParse (cJSONPrint true (.object [(cstr "name", .string (cstr "a\n\"b"))])) =
        .ok (.object [(cstr "name", .string (cstr "a\n\"b"))]) ↔
      NestedWithin nestingLimit (.object [(cstr "name", .string (cstr "a\n\"b"))]) :=
  cJSONParse_print_iff (.object (List.forall_mem_singleton.mpr (by decide))
    (List.forall_mem_singleton.mpr (.string (by decide)))) true

end CJson

end HardwareTest
