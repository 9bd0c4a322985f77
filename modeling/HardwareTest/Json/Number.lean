import HardwareTest.Json.Buffer
import Mathlib.Data.Int.Log
import Mathlib.Data.Rat.Floor

/-!
# Numbers: `parse_number`

`parse_number` hands the longest run of bytes that numbers are written with to `strtod`, which reads
a prefix of it.

* `Decimal`: the parts of a decimal, with its text and its value.
* `strtod` is the function of the C library on the bytes it is given here: no whitespace, no
  letters but `e` and `E`. `roundToDouble` rounds to nearest, ties to even, with 53 bits; values
  above the largest double are not cut, since they saturate in either case.
* `scanDecimal_sound`, `scanDecimal_text`: what is scanned is the text of a decimal, and the text of
  a decimal is scanned completely where no byte of a number follows.
* `parseNumber_sound`, `parseNumber_text`: the same of `parse_number`.
* `roundToDouble_intCast`, `valueint_toInt`: a 32-bit integer goes through the double unchanged.
-/

namespace HardwareTest

open Lib

namespace CJson

/-! ## Decimals -/

def isDigit (b : UInt8) : Bool := 48 ≤ b && b ≤ 57

def isExponentLetter (b : UInt8) : Bool := b = 101 || b = 69

/-- The value of a string of digits. -/
def digitsValue (digits : List UInt8) : ℕ :=
  digits.foldl (fun n b => 10 * n + (b.toNat - 48)) 0

/-- A decimal in its parts. -/
structure Decimal where
  /-- Nothing, `-` or `+`. -/
  sign : List UInt8
  whole : List UInt8
  /-- The digits after the decimal point, if there is one. -/
  fraction : Option (List UInt8)
  /-- The letter, the sign and the digits of the exponent, if there is one. -/
  exponent : Option (UInt8 × List UInt8 × List UInt8)
deriving DecidableEq

namespace Decimal

def digits (d : Decimal) : List UInt8 := d.whole ++ d.fraction.getD []

def fractionText : Option (List UInt8) → List UInt8
  | some digits => decimalPoint :: digits
  | none => []

def exponentText : Option (UInt8 × List UInt8 × List UInt8) → List UInt8
  | some (letter, sign, digits) => letter :: sign ++ digits
  | none => []

def text (d : Decimal) : List UInt8 :=
  d.sign ++ d.whole ++ fractionText d.fraction ++ exponentText d.exponent

def exponentValue (d : Decimal) : ℤ :=
  match d.exponent with
  | some (_, sign, digits) =>
      if sign = [minusSign] then -(digitsValue digits : ℤ) else digitsValue digits
  | none => 0

def value (d : Decimal) : ℚ :=
  (if d.sign = [minusSign] then -1 else 1) * digitsValue d.digits *
    10 ^ (d.exponentValue - (d.fraction.getD []).length)

end Decimal

def IsSign (sign : List UInt8) : Prop := sign = [] ∨ sign = [minusSign] ∨ sign = [plusSign]

/-- The decimals `strtod` reads. -/
structure Decimal.WellFormed (d : Decimal) : Prop where
  sign : IsSign d.sign
  whole : ∀ b ∈ d.whole, isDigit b
  fraction : ∀ b ∈ d.fraction.getD [], isDigit b
  nonempty : d.digits ≠ []
  exponent : ∀ e, d.exponent = some e → isExponentLetter e.1 ∧ IsSign e.2.1 ∧
    e.2.2 ≠ [] ∧ ∀ b ∈ e.2.2, isDigit b

/-! ## `strtod` -/

def scanSign : List UInt8 → List UInt8 × List UInt8
  | b :: s => if b = minusSign ∨ b = plusSign then ([b], s) else ([], b :: s)
  | [] => ([], [])

def scanFraction : List UInt8 → Option (List UInt8) × List UInt8
  | b :: s => if b = decimalPoint then (some (s.takeWhile isDigit), s.dropWhile isDigit)
      else (none, b :: s)
  | [] => (none, [])

/-- An exponent needs a digit; without one, its letter is not part of the number. -/
def scanExponent : List UInt8 → Option (UInt8 × List UInt8 × List UInt8) × List UInt8
  | b :: s =>
      if isExponentLetter b ∧ (scanSign s).2.takeWhile isDigit ≠ [] then
        (some (b, (scanSign s).1, (scanSign s).2.takeWhile isDigit),
          (scanSign s).2.dropWhile isDigit)
      else (none, b :: s)
  | [] => (none, [])

/-- The longest decimal a text begins with, and what follows it. -/
def scanDecimal (s : List UInt8) : Option (Decimal × List UInt8) :=
  let afterSign := (scanSign s).2
  let whole := afterSign.takeWhile isDigit
  let fraction := scanFraction (afterSign.dropWhile isDigit)
  let exponent := scanExponent fraction.2
  if whole ++ fraction.1.getD [] = [] then none
  else some (⟨(scanSign s).1, whole, fraction.1, exponent.1⟩, exponent.2)

/-- To the nearest integer, ties to even. -/
def roundHalfEven (x : ℚ) : ℤ :=
  if x - ⌊x⌋ < 1 / 2 ∨ (x - ⌊x⌋ = 1 / 2 ∧ ⌊x⌋ % 2 = 0) then ⌊x⌋ else ⌊x⌋ + 1

/-- The exponent of the last of the 53 bits of a double. -/
def lastBit (x : ℚ) : ℤ := max (Int.log 2 |x| - 52) (-1074)

/-- To the nearest double. -/
def roundToDouble (x : ℚ) : ℚ := roundHalfEven (x / 2 ^ lastBit x) * 2 ^ lastBit x

/-- The number, and how many bytes were read; `none` when `after_end` is the beginning. -/
def strtod (s : List UInt8) : Option (ℚ × ℕ) :=
  (scanDecimal s).map fun r => (roundToDouble r.1.value, s.length - r.2.length)

/-! ## `parse_number` -/

/-- The bytes that numbers are written with: the cases of the `switch`. -/
def isNumberByte (b : UInt8) : Bool :=
  isDigit b || b = plusSign || b = minusSign || isExponentLetter b || b = decimalPoint

/-- `(int)number`, towards zero. -/
def truncate (x : ℚ) : ℤ := if 0 ≤ x then ⌊x⌋ else ⌈x⌉

/-- `item->valueint`, with saturation. -/
def valueint (x : ℚ) : Int32 :=
  if x ≥ 2147483647 then Int32.ofInt 2147483647
  else if x ≤ -2147483648 then Int32.ofInt (-2147483648)
  else Int32.ofInt (truncate x)

/-- Source: `third-party/cjson-1.7.19/cJSON.c`, `parse_number` -/
def parseNumber (content : List UInt8) (offset : ℕ) : Parse (CJson × ℕ) :=
  match strtod ((content.drop offset).takeWhile isNumberByte) with
  | none => .error (.refused offset)
  | some (x, read) => .ok (.number (valueint x), offset + read)

/-! ## What `strtod` reads -/

lemma scanSign_eq (s : List UInt8) :
    (scanSign s).1 ++ (scanSign s).2 = s ∧ IsSign (scanSign s).1 := by
  rcases s with _ | ⟨b, s⟩
  · exact ⟨rfl, .inl rfl⟩
  · rw [scanSign]
    split_ifs with hb
    · refine ⟨rfl, ?_⟩
      rcases hb with rfl | rfl
      · exact .inr (.inl rfl)
      · exact .inr (.inr rfl)
    · exact ⟨rfl, .inl rfl⟩

lemma digits_takeWhile (s : List UInt8) : ∀ b ∈ s.takeWhile isDigit, isDigit b := fun _ hb =>
  List.mem_takeWhile_imp hb

lemma scanFraction_eq (s : List UInt8) :
    Decimal.fractionText (scanFraction s).1 ++ (scanFraction s).2 = s ∧
      ∀ b ∈ (scanFraction s).1.getD [], isDigit b := by
  rcases s with _ | ⟨b, s⟩
  · simp [scanFraction, Decimal.fractionText]
  · rw [scanFraction]
    split_ifs with hb
    · subst hb
      refine ⟨?_, digits_takeWhile s⟩
      rw [Decimal.fractionText, List.cons_append, List.takeWhile_append_dropWhile]
    · simp [Decimal.fractionText]

lemma scanExponent_eq (s : List UInt8) :
    Decimal.exponentText (scanExponent s).1 ++ (scanExponent s).2 = s ∧
      ∀ e, (scanExponent s).1 = some e → isExponentLetter e.1 ∧ IsSign e.2.1 ∧
        e.2.2 ≠ [] ∧ ∀ b ∈ e.2.2, isDigit b := by
  rcases s with _ | ⟨b, s⟩
  · simp [scanExponent, Decimal.exponentText]
  · obtain ⟨hsign, hissign⟩ := scanSign_eq s
    rw [scanExponent]
    split_ifs with hb
    · refine ⟨?_, ?_⟩
      · simp only [Decimal.exponentText, List.cons_append, List.append_assoc]
        rw [List.takeWhile_append_dropWhile, hsign]
      · rintro e he
        obtain rfl := Option.some.inj he
        exact ⟨hb.1, hissign, hb.2, digits_takeWhile _⟩
    · simp [Decimal.exponentText]

/-- What is scanned is the text of a decimal, and the rest of the text follows it. -/
lemma scanDecimal_sound {s rest : List UInt8} {d : Decimal}
    (h : scanDecimal s = some (d, rest)) : s = d.text ++ rest ∧ d.WellFormed := by
  obtain ⟨hsign, hissign⟩ := scanSign_eq s
  obtain ⟨hfraction, hdigits⟩ := scanFraction_eq ((scanSign s).2.dropWhile isDigit)
  obtain ⟨hexponent, hparts⟩ :=
    scanExponent_eq (scanFraction ((scanSign s).2.dropWhile isDigit)).2
  simp only [scanDecimal] at h
  split_ifs at h with hne
  obtain ⟨rfl, rfl⟩ := Prod.mk.inj (Option.some.inj h)
  refine ⟨?_, hissign, digits_takeWhile _, hdigits, hne, hparts⟩
  simp only [Decimal.text, List.append_assoc]
  rw [hexponent, hfraction, List.takeWhile_append_dropWhile, hsign]

/-! ## Decimals are read completely -/

/-- A text does not begin with a byte that satisfies the condition. -/
def StopsAt (condition : UInt8 → Bool) (s : List UInt8) : Prop := ∀ b ∈ s.head?, condition b = false

lemma StopsAt.mono {condition weaker : UInt8 → Bool} {s : List UInt8} (h : StopsAt weaker s)
    (himp : ∀ b, condition b = true → weaker b = true) : StopsAt condition s := by
  intro b hb
  have hweaker := h b hb
  by_contra hne
  rw [himp b (Bool.eq_true_of_not_eq_false hne)] at hweaker
  cases hweaker

lemma StopsAt.cons {condition : UInt8 → Bool} {b : UInt8} {s : List UInt8}
    (h : condition b = false) : StopsAt condition (b :: s) := by
  rintro c hc
  obtain rfl := Option.some.inj hc
  exact h

/-- A digit is no sign, no decimal point and no exponent letter. -/
lemma digit_cases {b : UInt8} (hb : isDigit b = true) :
    b ≠ minusSign ∧ b ≠ plusSign ∧ b ≠ decimalPoint ∧ isExponentLetter b = false := by
  refine ⟨?_, ?_, ?_, ?_⟩
  · rintro rfl
    cases hb
  · rintro rfl
    cases hb
  · rintro rfl
    cases hb
  · rw [isExponentLetter, Bool.or_eq_false_iff]
    refine ⟨decide_eq_false ?_, decide_eq_false ?_⟩
    · rintro rfl
      cases hb
    · rintro rfl
      cases hb

lemma exponentLetter_cases {b : UInt8} (hb : isExponentLetter b = true) :
    b = 101 ∨ b = 69 := by
  simpa [isExponentLetter] using hb

lemma takeWhile_digits {digits s : List UInt8} (hdigits : ∀ b ∈ digits, isDigit b)
    (hs : StopsAt isDigit s) :
    (digits ++ s).takeWhile isDigit = digits ∧ (digits ++ s).dropWhile isDigit = s := by
  rw [List.takeWhile_append_of_pos hdigits, List.dropWhile_append_of_pos hdigits]
  rcases s with _ | ⟨b, s⟩
  · simp
  · have hb : ¬ isDigit b = true := by simp [hs b rfl]
    rw [List.takeWhile_cons_of_neg hb, List.dropWhile_cons_of_neg hb]
    simp

lemma scanSign_append {sign s : List UInt8} (hsign : IsSign sign)
    (hs : StopsAt (fun b => b = minusSign || b = plusSign) s) :
    scanSign (sign ++ s) = (sign, s) := by
  rcases hsign with rfl | rfl | rfl
  · rcases s with _ | ⟨b, s⟩
    · rfl
    · have hb := hs b rfl
      simp only [Bool.or_eq_false_iff, decide_eq_false_iff_not] at hb
      simp [scanSign, hb.1, hb.2]
  · rfl
  · rfl

lemma scanFraction_append {fraction : Option (List UInt8)} {s : List UInt8}
    (hdigits : ∀ b ∈ fraction.getD [], isDigit b) (hs : StopsAt isDigit s)
    (hpoint : StopsAt (· = decimalPoint) s) :
    scanFraction (Decimal.fractionText fraction ++ s) = (fraction, s) := by
  rcases fraction with _ | digits
  · rcases s with _ | ⟨b, s⟩
    · rfl
    · have hb := of_decide_eq_false (hpoint b rfl)
      simp [scanFraction, Decimal.fractionText, hb]
  · obtain ⟨htake, hdrop⟩ := takeWhile_digits hdigits hs
    simp only [Option.getD_some] at htake hdrop
    simp only [Decimal.fractionText, List.cons_append, scanFraction, if_true, htake, hdrop]

lemma scanExponent_append {exponent : Option (UInt8 × List UInt8 × List UInt8)} {s : List UInt8}
    (hparts : ∀ e, exponent = some e → isExponentLetter e.1 ∧ IsSign e.2.1 ∧
      e.2.2 ≠ [] ∧ ∀ b ∈ e.2.2, isDigit b) (hs : StopsAt isDigit s)
    (hletter : StopsAt isExponentLetter s) :
    scanExponent (Decimal.exponentText exponent ++ s) = (exponent, s) := by
  rcases exponent with _ | ⟨letter, sign, digits⟩
  · rcases s with _ | ⟨b, s⟩
    · rfl
    · simp [scanExponent, Decimal.exponentText, hletter b rfl]
  · obtain ⟨hl, hsign, hne, hdigits⟩ := hparts _ rfl
    obtain ⟨c, rest, rfl⟩ := List.exists_cons_of_ne_nil hne
    obtain ⟨htake, hdrop⟩ := takeWhile_digits hdigits hs
    have hc : isDigit c = true := hdigits c (by simp)
    have hscan : scanSign (sign ++ (c :: rest ++ s)) = (sign, c :: rest ++ s) := by
      refine scanSign_append hsign (.cons ?_)
      obtain ⟨hminus, hplus, -⟩ := digit_cases hc
      simp [hminus, hplus]
    rw [Decimal.exponentText, List.cons_append, List.cons_append, List.append_assoc, scanExponent,
      hscan]
    simp only [htake, hdrop, hl, ne_eq, reduceCtorEq, not_false_eq_true, and_self, if_true]

/-- The text of a decimal is scanned completely where no byte of a number follows. -/
lemma scanDecimal_text {d : Decimal} (hd : d.WellFormed) {rest : List UInt8}
    (hrest : StopsAt isNumberByte rest) : scanDecimal (d.text ++ rest) = some (d, rest) := by
  obtain ⟨sign, whole, fraction, exponent⟩ := d
  have hdigit : StopsAt isDigit rest := hrest.mono fun b hb => by simp [isNumberByte, hb]
  have hletter : StopsAt isExponentLetter rest := hrest.mono fun b hb => by simp [isNumberByte, hb]
  have hpoint : StopsAt (· = decimalPoint) rest := hrest.mono fun b hb => by
    simp [isNumberByte, of_decide_eq_true hb]
  have hexponent := scanExponent_append hd.exponent hdigit hletter
  -- an exponent, if there is one, begins with its letter
  have hdigit' : StopsAt isDigit (Decimal.exponentText exponent ++ rest) := by
    rcases exponent with _ | ⟨letter, _⟩
    · exact hdigit
    · refine .cons ?_
      rcases exponentLetter_cases (hd.exponent _ rfl).1 with h | h
      all_goals simp only at h; rw [h]; rfl
  have hpoint' : StopsAt (· = decimalPoint) (Decimal.exponentText exponent ++ rest) := by
    rcases exponent with _ | ⟨letter, _⟩
    · exact hpoint
    · refine .cons ?_
      rcases exponentLetter_cases (hd.exponent _ rfl).1 with h | h
      all_goals simp only at h; rw [h]; rfl
  have hfraction := scanFraction_append hd.fraction hdigit' hpoint'
  have hwhole := takeWhile_digits (s := Decimal.fractionText fraction ++
    (Decimal.exponentText exponent ++ rest)) hd.whole (by
      rcases fraction with _ | digits
      · exact hdigit'
      · exact .cons rfl)
  have hsign := scanSign_append (s := whole ++ (Decimal.fractionText fraction ++
    (Decimal.exponentText exponent ++ rest))) hd.sign (by
      rcases whole with _ | ⟨b, whole⟩
      · rcases fraction with _ | digits
        · exact absurd rfl hd.nonempty
        · exact .cons rfl
      · obtain ⟨hminus, hplus, -⟩ := digit_cases (hd.whole b (by simp))
        exact .cons (by simp [hminus, hplus]))
  have htext : (⟨sign, whole, fraction, exponent⟩ : Decimal).text ++ rest = sign ++ (whole ++
      (Decimal.fractionText fraction ++ (Decimal.exponentText exponent ++ rest))) := by
    simp only [Decimal.text, List.append_assoc]
  simp only [scanDecimal, htext, hsign, hwhole.1, hwhole.2, hfraction, hexponent]
  exact if_neg hd.nonempty

/-! ## `parse_number` reads decimals -/

lemma Decimal.WellFormed.numberBytes {d : Decimal} (hd : d.WellFormed) :
    ∀ b ∈ d.text, isNumberByte b := by
  have hdigit : ∀ b, isDigit b → isNumberByte b := fun b hb => by simp [isNumberByte, hb]
  have hsign : ∀ sign, IsSign sign → ∀ b ∈ sign, isNumberByte b := by
    rintro sign (rfl | rfl | rfl) b hb
    · cases hb
    · obtain rfl := List.mem_singleton.mp hb
      rfl
    · obtain rfl := List.mem_singleton.mp hb
      rfl
  intro b hb
  simp only [Decimal.text, List.mem_append] at hb
  rcases hb with ((hb | hb) | hb) | hb
  · exact hsign _ hd.sign b hb
  · exact hdigit b (hd.whole b hb)
  · rcases hf : d.fraction with _ | digits
    · rw [hf] at hb
      cases hb
    · have hdigits := hd.fraction
      rw [hf] at hb hdigits
      rcases List.mem_cons.mp hb with rfl | hb
      · rfl
      · exact hdigit b (hdigits b hb)
  · rcases he : d.exponent with _ | ⟨letter, sign, digits⟩
    · rw [he] at hb
      cases hb
    · obtain ⟨hletter, hs, -, hdigits⟩ := hd.exponent _ he
      rw [he] at hb
      simp only [Decimal.exponentText, List.cons_append, List.mem_cons, List.mem_append] at hb
      rcases hb with rfl | hb | hb
      · simp only at hletter
        simp [isNumberByte, hletter]
      · exact hsign _ hs b hb
      · exact hdigit b (hdigits b hb)

lemma Decimal.WellFormed.text_ne_nil {d : Decimal} (hd : d.WellFormed) : d.text ≠ [] := by
  intro hnil
  simp only [Decimal.text, List.append_eq_nil_iff] at hnil
  obtain ⟨⟨⟨-, hwhole⟩, hfraction⟩, -⟩ := hnil
  refine hd.nonempty ?_
  rw [Decimal.digits, hwhole]
  rcases hf : d.fraction with _ | digits
  · rfl
  · rw [hf] at hfraction
    cases hfraction

variable {content : List UInt8} {p q : ℕ}

/-- **Soundness.** What `parse_number` passes is the text of a decimal, and the item is its
value. -/
theorem parseNumber_sound {item : CJson} (h : parseNumber content p = .ok (item, q)) :
    ∃ d : Decimal, d.WellFormed ∧ item = .number (valueint (roundToDouble d.value)) ∧
      Spans content p d.text q := by
  rcases hscan : scanDecimal ((content.drop p).takeWhile isNumberByte) with _ | ⟨d, rest⟩
  · simp only [parseNumber, strtod, hscan, Option.map_none] at h
    cases h
  · obtain ⟨hrun, hd⟩ := scanDecimal_sound hscan
    simp only [parseNumber, strtod, hscan, Option.map_some] at h
    obtain ⟨rfl, rfl⟩ := Prod.mk.inj (Except.ok.inj h)
    refine ⟨d, hd, rfl, ?_⟩
    have hlen : ((content.drop p).takeWhile isNumberByte).length - rest.length = d.text.length := by
      rw [hrun, List.length_append, Nat.add_sub_cancel]
    rw [hlen]
    refine .of_drop_eq (u := rest ++ (content.drop p).dropWhile isNumberByte) ?_
    rw [← List.append_assoc, ← hrun, List.takeWhile_append_dropWhile]

/-- **Completeness.** The text of a decimal is read where no byte of a number follows. -/
theorem parseNumber_text {d : Decimal} (hd : d.WellFormed) (h : Spans content p d.text q)
    (hq : StopsAt isNumberByte (content.drop q)) :
    parseNumber content p = .ok (.number (valueint (roundToDouble d.value)), q) := by
  have hrun : (content.drop p).takeWhile isNumberByte = d.text := by
    rw [h.drop_eq, List.takeWhile_append_of_pos hd.numberBytes]
    rcases hrest : content.drop q with _ | ⟨b, rest⟩
    · simp
    · have hb : ¬ isNumberByte b = true := by simp [hq b (by rw [hrest]; rfl)]
      rw [List.takeWhile_cons_of_neg hb, List.append_nil]
  have hscan : scanDecimal (d.text ++ []) = some (d, []) :=
    scanDecimal_text hd fun _ hb => by cases hb
  rw [List.append_nil] at hscan
  simp only [parseNumber, strtod, hrun, hscan, Option.map_some, List.length_nil, Nat.sub_zero,
    h.length_eq]

/-- Refused at the first byte, if no number begins there. -/
lemma parseNumber_yields :
    Yields (fun r => ∃ d : Decimal, d.WellFormed ∧ Spans content p d.text r.2)
      (· = .refused p) (parseNumber content p) := by
  rcases h : parseNumber content p with e | ⟨item, q⟩
  · rw [parseNumber] at h
    split at h
    · exact (Except.error.inj h).symm
    · cases h
  · obtain ⟨d, hd, -, hspan⟩ := parseNumber_sound h
    exact ⟨d, hd, hspan⟩

/-! ## Integers -/

lemma roundHalfEven_intCast (n : ℤ) : roundHalfEven n = n := by
  rw [roundHalfEven, Int.floor_intCast, sub_self, if_pos (.inl (by norm_num))]

/-- A double holds every integer of 53 bits. -/
theorem roundToDouble_intCast {n : ℤ} (hn : |n| < 2 ^ 53) : roundToDouble n = n := by
  have hlog : Int.log 2 |(n : ℚ)| ≤ 52 := by
    rcases eq_or_ne n 0 with rfl | hne
    · simp
    · have hpos : (0 : ℚ) < |(n : ℚ)| := by positivity
      have hle := Int.zpow_log_le_self (b := 2) (by norm_num) hpos
      have hlt : |(n : ℚ)| < 2 ^ (53 : ℤ) := by exact_mod_cast hn
      have hpow : (2 : ℚ) ^ Int.log 2 |(n : ℚ)| < 2 ^ (53 : ℤ) :=
        lt_of_le_of_lt (by exact_mod_cast hle) hlt
      exact Int.le_of_lt_add_one ((zpow_lt_zpow_iff_right₀ (by norm_num)).mp hpow)
  obtain ⟨k, hk⟩ : ∃ k : ℕ, lastBit (n : ℚ) = -(k : ℤ) :=
    ⟨(-lastBit (n : ℚ)).toNat, by rw [lastBit]; omega⟩
  rw [roundToDouble, hk, zpow_neg, div_inv_eq_mul, zpow_natCast]
  have hcast : (n : ℚ) * 2 ^ k = ((n * 2 ^ k : ℤ) : ℚ) := by push_cast; ring
  rw [hcast, roundHalfEven_intCast, ← hcast]
  have hpow : (2 : ℚ) ^ k ≠ 0 := by positivity
  field_simp

lemma truncate_intCast (n : ℤ) : truncate n = n := by
  rw [truncate, Int.floor_intCast, Int.ceil_intCast, ite_self]

/-- The integers of 32 bits are read back. -/
theorem valueint_toInt (v : Int32) : valueint (v.toInt : ℚ) = v := by
  have hlo := v.le_toInt
  have hhi := v.toInt_lt
  rw [valueint, truncate_intCast]
  split_ifs with htop hbottom
  · have : v.toInt = 2147483647 := by
      have : (2147483647 : ℤ) ≤ v.toInt := by exact_mod_cast htop
      omega
    rw [← this, Int32.ofInt_toInt]
  · have : v.toInt = -2147483648 := by
      have : v.toInt ≤ (-2147483648 : ℤ) := by exact_mod_cast hbottom
      omega
    rw [← this, Int32.ofInt_toInt]
  · exact Int32.ofInt_toInt v

end CJson

end HardwareTest
