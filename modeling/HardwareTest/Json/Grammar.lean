import HardwareTest.Json.Parse

/-!
# What `cJSON_Parse` accepts

* `Grammar`: what a grammar of values leaves open: the padding between tokens, the strings with
  their output and the numbers with their `valueint`.
* `Value g`: the texts of the values of `g`, arrays and objects to any depth.
* `parserGrammar`: the tokens of the parser.
* `parseValue_sound`, `cJSONParse_sound`: **what is accepted is the text of a value**, nested within
  the limit, after a byte order mark and padding.
* `parseValue_complete`, `cJSONParse_text`: the text of a value, in any grammar whose tokens the
  parser has, is parsed into that value if this is nested within the limit, and is refused
  otherwise.
-/

namespace HardwareTest

open Lib

namespace CJson

/-! ## The grammar of values -/

/-- The tokens of a grammar of values. -/
structure Grammar where
  padding : List UInt8 → Prop
  string : List UInt8 → List UInt8 → Prop
  number : List UInt8 → Int32 → Prop

/-- A member: its name, a colon and its value. -/
inductive Member (g : Grammar) (value : List UInt8 → CJson → Prop) :
    List UInt8 → CString × CJson → Prop
  | mk {name output w w' text : List UInt8} {item : CJson} : g.string name output → g.padding w →
      g.padding w' → value text item →
      Member g value (name ++ w ++ colon :: (w' ++ text)) (cString output, item)

/-- The texts of values. -/
inductive Value (g : Grammar) : List UInt8 → CJson → Prop
  | null : Value g (cstr "null") .null
  | false : Value g (cstr "false") (.bool false)
  | true : Value g (cstr "true") (.bool true)
  | string {text output : List UInt8} : g.string text output →
      Value g text (.string (cString output))
  | number {text : List UInt8} {v : Int32} : g.number text v → Value g text (.number v)
  | emptyArray {w : List UInt8} : g.padding w → Value g (beginArray :: w ++ [endArray]) (.array [])
  | array {text : List UInt8} {items : List CJson} :
      Separated g.padding comma (Value g) text items →
      Value g (beginArray :: text ++ [endArray]) (.array items)
  | emptyObject {w : List UInt8} : g.padding w →
      Value g (beginObject :: w ++ [endObject]) (.object [])
  | object {text : List UInt8} {members : List (CString × CJson)} :
      Separated g.padding comma (Member g (Value g)) text members →
      Value g (beginObject :: text ++ [endObject]) (.object members)

/-- Arrays and objects are nested at most this deep. -/
def NestedWithin : ℕ → CJson → Prop
  | 0, .array _ => False
  | 0, .object _ => False
  | levels + 1, .array items => ∀ item ∈ items, NestedWithin levels item
  | levels + 1, .object members => ∀ m ∈ members, NestedWithin levels m.2
  | _, _ => True

/-- The numbers of the parser: a decimal that begins with a digit or a minus sign. -/
def NumberText (text : List UInt8) (v : Int32) : Prop :=
  ∃ d : Decimal, d.WellFormed ∧ d.text = text ∧ v = valueint (roundToDouble d.value) ∧
    ∃ b ∈ text.head?, b = minusSign ∨ isDigit b

/-- The tokens of the parser. -/
def parserGrammar : Grammar where
  padding := Whitespace
  string := StringText
  number := NumberText

/-- Every token is one of the parser's. -/
structure Grammar.Within (g : Grammar) : Prop where
  padding : ∀ w, g.padding w → Whitespace w
  string : ∀ text output, g.string text output → StringText text output
  number : ∀ text v, g.number text v → NumberText text v

lemma parserGrammar_within : parserGrammar.Within :=
  ⟨fun _ h => h, fun _ _ h => h, fun _ _ h => h⟩

variable {content : List UInt8} {p q : ℕ}

/-! ## Soundness -/

section Sound

/-- The parser of the items reads texts of values and ends inside the content. -/
structure SoundBelow (content : List UInt8) (levels : ℕ) (value : ℕ → Parse (CJson × ℕ)) :
    Prop where
  inside : ∀ p, p < content.length → EndsInside content p (value p)
  sound : ∀ p item q, p < content.length → value p = .ok (item, q) →
    ∃ text, Spans content p text q ∧ Value parserGrammar text item ∧ NestedWithin levels item

variable {levels : ℕ} {value : ℕ → Parse (CJson × ℕ)}

/-- A successful step and what follows it. -/
lemma ok_of_bind {ε α β : Type} {r : Except ε α} {f : α → Except ε β} {b : β}
    (h : (r >>= f) = .ok b) : ∃ a, r = .ok a ∧ f a = .ok b := by
  rcases r with e | a
  · cases h
  · exact ⟨a, rfl, h⟩

lemma parseElement_sound (hvalue : SoundBelow content levels value) {item : CJson}
    (hp : p + 1 < content.length) (h : parseElement content value p = .ok (item, q)) :
    ∃ w text w', Whitespace w ∧ (Value parserGrammar text item ∧ NestedWithin levels item) ∧
      Whitespace w' ∧ Spans content (p + 1) (w ++ text ++ w') q := by
  obtain ⟨w, hw, hwspan, hlt⟩ := skip_spans hp
  obtain ⟨⟨item', after⟩, hitem, hrest⟩ := ok_of_bind h
  obtain ⟨rfl, rfl⟩ := Prod.mk.inj (Except.ok.inj hrest)
  obtain ⟨text, htext, hval⟩ := hvalue.sound _ _ _ hlt hitem
  have hinside := (hvalue.inside _ hlt).of_ok hitem
  obtain ⟨w', hw', hwspan', -⟩ := skip_spans hinside.2
  exact ⟨w, text, w', hw, hval, hw', (hwspan.append htext).append hwspan'⟩

lemma parseMember_sound (hend : Terminated content) (hvalue : SoundBelow content levels value)
    {m : CString × CJson} (hp : p + 1 < content.length)
    (h : parseMember content value p = .ok (m, q)) :
    ∃ w text w', Whitespace w ∧ (Member parserGrammar (Value parserGrammar) text m ∧
      NestedWithin levels m.2) ∧ Whitespace w' ∧ Spans content (p + 1) (w ++ text ++ w') q := by
  obtain ⟨w, hw, hwspan, hlt⟩ := skip_spans hp
  rw [parseMember, if_neg (by omega)] at h
  obtain ⟨⟨output, afterName⟩, hname, hrest⟩ := ok_of_bind h
  obtain ⟨name, hnspan, hstring⟩ := (parseString_yields hlt).of_ok hname
  have hinside := (parseString_endsInside hend hlt).of_ok hname
  obtain ⟨v, hv, hvspan, hseparator⟩ := skip_spans hinside.2
  simp only at hrest hvspan hseparator
  split_ifs at hrest with hcolon
  rw [ne_eq, not_not] at hcolon
  have hcspan := Spans.singleton hcolon
  obtain ⟨v', hv', hvspan', hlt'⟩ := skip_spans (hend.lt_length hcolon (by decide))
  obtain ⟨⟨item, after⟩, hitem, hlast⟩ := ok_of_bind hrest
  obtain ⟨rfl, rfl⟩ := Prod.mk.inj (Except.ok.inj hlast)
  obtain ⟨text, htext, hval, hnested⟩ := hvalue.sound _ _ _ hlt' hitem
  have hafter := (hvalue.inside _ hlt').of_ok hitem
  obtain ⟨w', hw', hwspan', -⟩ := skip_spans hafter.2
  refine ⟨w, name ++ v ++ colon :: (v' ++ text), w', hw, ⟨.mk hstring hv hv' hval, hnested⟩, hw',
    ?_⟩
  have hmember := (hnspan.append hvspan).append (hcspan.append (hvspan'.append htext))
  exact (hwspan.append hmember).append hwspan'

/-- An array or an object that was read: brackets around padding, or around a list. -/
lemma parseBracketed_sound {α : Type} {item : List UInt8 → α → Prop} {opening close : UInt8}
    (hend : Terminated content) (hopen : content[p]? = some opening) (hne : opening ≠ 0)
    {round : ℕ → Parse (α × ℕ)} {result : CJson} {make : List α → CJson}
    (hround : ∀ p a q, p + 1 < content.length → round p = .ok (a, q) →
      ∃ w t w', Whitespace w ∧ item t a ∧ Whitespace w' ∧ Spans content (p + 1) (w ++ t ++ w') q)
    (h : parseBracketed content close round make p = .ok (result, q)) :
    (∃ w, Whitespace w ∧ result = make [] ∧ Spans content p (opening :: w ++ [close]) q) ∨
      ∃ text items, Separated Whitespace comma item text items ∧ result = make items ∧
        Spans content p (opening :: text ++ [close]) q := by
  obtain ⟨w, hw, hwspan, hlt⟩ := skip_spans (hend.lt_length hopen hne)
  have hlen := hwspan.length_eq
  have hospan := Spans.singleton hopen
  simp only [parseBracketed] at h
  generalize bufferSkipWhitespace content (p + 1) = first at h hwspan hlt hlen
  split_ifs at h with hempty
  · obtain ⟨rfl, rfl⟩ := Prod.mk.inj (Except.ok.inj h)
    exact .inl ⟨w, hw, rfl, (hospan.append hwspan).append (.singleton hempty)⟩
  · obtain ⟨⟨items, last⟩, hloop, hrest⟩ := ok_of_bind h
    simp only at hrest
    split_ifs at hrest with hbracket
    rw [ne_eq, not_not] at hbracket
    obtain ⟨rfl, rfl⟩ := Prod.mk.inj (Except.ok.inj hrest)
    obtain ⟨text, hspan, hlist⟩ := doWhile_sound (I := fun p => p + 1 < content.length) hround
      (fun q => decide_eq_true_iff) (fun q hq => hend.lt_length (of_decide_eq_true hq) (by decide))
      (by omega) hloop
    rw [Nat.sub_add_cancel (by omega)] at hspan
    have happend : ∀ u w, Whitespace u → Whitespace w → Whitespace (u ++ w) := fun u w hu hw b hb =>
      (List.mem_append.mp hb).elim (hu b) (hw b)
    exact .inr ⟨w ++ text, items, hlist.pad_left happend hw, rfl,
      (hospan.append (hwspan.append hspan)).append (.singleton hbracket)⟩

/-- **One level**: what `parse_value` passes is the text of the value. -/
lemma parseValueAt_sound (hend : Terminated content) {levels : ℕ}
    {below : Option (ℕ → Parse (CJson × ℕ))}
    (hbelow : ∀ value ∈ below, ∃ n, levels = n + 1 ∧ SoundBelow content n value)
    {item : CJson} (hp : p < content.length) (h : parseValueAt content below p = .ok (item, q)) :
    ∃ text, Spans content p text q ∧ Value parserGrammar text item ∧ NestedWithin levels item := by
  rw [parseValueAt] at h
  split_ifs at h with hnull hfalse htrue hstring hnumber harray hobject
  · obtain ⟨rfl, rfl⟩ := Prod.mk.inj (Except.ok.inj h)
    exact ⟨_, (readsLiteral_iff (by decide)).mp hnull, .null, by simp [NestedWithin]⟩
  · obtain ⟨rfl, rfl⟩ := Prod.mk.inj (Except.ok.inj h)
    exact ⟨_, (readsLiteral_iff (by decide)).mp hfalse, .false, by simp [NestedWithin]⟩
  · obtain ⟨rfl, rfl⟩ := Prod.mk.inj (Except.ok.inj h)
    exact ⟨_, (readsLiteral_iff (by decide)).mp htrue, .true, by simp [NestedWithin]⟩
  · obtain ⟨⟨output, after⟩, hparse, hrest⟩ := ok_of_bind h
    obtain ⟨rfl, rfl⟩ := Prod.mk.inj (Except.ok.inj hrest)
    obtain ⟨text, hspan, htext⟩ := (parseString_yields hp).of_ok hparse
    exact ⟨text, hspan, .string htext, by simp [NestedWithin]⟩
  · obtain ⟨d, hd, rfl, hspan⟩ := parseNumber_sound h
    refine ⟨d.text, hspan, .number ⟨d, hd, rfl, rfl, ?_⟩, by simp [NestedWithin]⟩
    obtain ⟨b, rest, htext⟩ := List.exists_cons_of_ne_nil hd.text_ne_nil
    rw [htext] at hspan ⊢
    rw [hspan.head] at hnumber
    exact ⟨b, rfl, by simpa using hnumber⟩
  · rcases below with _ | value
    · cases h
    obtain ⟨n, rfl, hvalue⟩ := hbelow value rfl
    rw [parseArray, readAt_of_getElem? harray, ok_bind, if_neg (by simp)] at h
    rcases parseBracketed_sound hend harray (by decide)
      (fun p a q hp h => parseElement_sound hvalue hp h)
      h with ⟨w, hw, rfl, hspan⟩ | ⟨text, items, hlist, rfl, hspan⟩
    · exact ⟨_, hspan, .emptyArray hw, by simp [NestedWithin]⟩
    · exact ⟨_, hspan, .array (hlist.mono (fun _ h => h) fun _ _ h => h.1),
        hlist.forall_mem fun _ _ h => h.2⟩
  · rcases below with _ | value
    · cases h
    obtain ⟨n, rfl, hvalue⟩ := hbelow value rfl
    simp only [parseObject] at h
    rw [if_neg (by simp [hobject])] at h
    rcases parseBracketed_sound hend hobject (by decide)
      (fun p a q hp h => parseMember_sound hend hvalue hp h)
      h with ⟨w, hw, rfl, hspan⟩ | ⟨text, items, hlist, rfl, hspan⟩
    · exact ⟨_, hspan, .emptyObject hw, by simp [NestedWithin]⟩
    · exact ⟨_, hspan, .object (hlist.mono (fun _ h => h) fun _ _ h => h.1),
        hlist.forall_mem fun _ _ h => h.2⟩

/-- What `parse_value` passes is the text of a value, nested within its levels. -/
theorem parseValue_sound (hend : Terminated content) (levels : ℕ) {item : CJson}
    (hp : p < content.length) (h : parseValue content levels p = .ok (item, q)) :
    ∃ text, Spans content p text q ∧ Value parserGrammar text item ∧ NestedWithin levels item := by
  induction levels generalizing p item q with
  | zero => exact parseValueAt_sound hend (fun _ h => by cases h) hp h
  | succ levels ih =>
      refine parseValueAt_sound hend (fun value hvalue => ⟨levels, rfl, ?_⟩) hp h
      obtain rfl := Option.some.inj hvalue
      exact ⟨fun p hp => parseValue_endsInside hend levels hp, fun p item q hp h => ih hp h⟩

end Sound

/-! ## Completeness -/

section Complete

variable {g : Grammar}

/-- The byte after a text of a value does not continue a number. -/
def Follows (content : List UInt8) (q : ℕ) : Prop := StopsAt isNumberByte (content.drop q)

lemma StringText.head {text output : List UInt8} (h : StringText text output) :
    ∃ rest, text = quotationMark :: rest := by
  obtain ⟨raw, rfl, -⟩ := h.exists_raw
  exact ⟨raw ++ [quotationMark], rfl⟩

lemma NumberText.head {text : List UInt8} {v : Int32} (h : NumberText text v) :
    ∃ b rest, text = b :: rest ∧ (b = minusSign ∨ isDigit b) := by
  obtain ⟨d, -, -, -, b, hb, hcases⟩ := h
  obtain ⟨rest, rfl⟩ := List.head?_eq_some_iff.mp hb
  exact ⟨b, rest, rfl, hcases⟩

lemma isDigit_bounds {b : UInt8} (h : isDigit b = true) : 48 ≤ b ∧ b ≤ 57 := by
  simpa [isDigit] using h

/-- A text of a value begins with a byte that is no whitespace and closes nothing. -/
lemma Value.head (hg : g.Within) {text : List UInt8} {item : CJson} (h : Value g text item) :
    ∃ b rest, text = b :: rest ∧ 32 < b ∧ b ≠ endArray ∧ b < 127 := by
  cases h with
  | null => exact ⟨110, cstr "ull", rfl, by decide, by decide, by decide⟩
  | false => exact ⟨102, cstr "alse", rfl, by decide, by decide, by decide⟩
  | true => exact ⟨116, cstr "rue", rfl, by decide, by decide, by decide⟩
  | string ht =>
      obtain ⟨rest, rfl⟩ := (hg.string _ _ ht).head
      exact ⟨_, rest, rfl, by decide, by decide, by decide⟩
  | number ht =>
      obtain ⟨b, rest, rfl, rfl | hb⟩ := (hg.number _ _ ht).head
      · exact ⟨_, rest, rfl, by decide, by decide, by decide⟩
      · obtain ⟨hlo, hhi⟩ := isDigit_bounds hb
        refine ⟨b, rest, rfl, ?_, ?_, ?_⟩
        · exact UInt8.lt_of_lt_of_le (by decide) hlo
        · rintro rfl
          cases hb
        · exact UInt8.lt_of_le_of_lt hhi (by decide)
  | emptyArray => exact ⟨_, _, rfl, by decide, by decide, by decide⟩
  | array => exact ⟨_, _, rfl, by decide, by decide, by decide⟩
  | emptyObject => exact ⟨_, _, rfl, by decide, by decide, by decide⟩
  | object => exact ⟨_, _, rfl, by decide, by decide, by decide⟩

/-- The next level reads every text of a value that is nested within its levels, and refuses the
others. -/
structure CompleteBelow (g : Grammar) (content : List UInt8) (levels : ℕ)
    (value : ℕ → Parse (CJson × ℕ)) : Prop where
  reads : ∀ {text item p q}, Value g text item → Spans content p text q → Follows content q →
    NestedWithin levels item → value p = .ok (item, q)
  refuses : ∀ {text item p q}, Value g text item → Spans content p text q → Follows content q →
    ¬ NestedWithin levels item → ∃ e, (∃ o, e = .refused o) ∧ value p = .error e

variable {levels : ℕ} {value : ℕ → Parse (CJson × ℕ)}

/-- Padding, a comma or a closing bracket follows an item. -/
lemma follows_of_padding {w : List UInt8} {b : UInt8} (hw : Whitespace w) (h : Spans content p w q)
    (hq : content[q]? = some b) (hb : isNumberByte b = false) : Follows content p := by
  obtain ⟨hlt, hget⟩ := List.getElem?_eq_some_iff.mp hq
  rw [Follows, h.drop_eq, List.drop_eq_getElem_cons hlt, hget]
  rcases w with _ | ⟨c, w⟩
  · exact .cons hb
  · refine .cons ?_
    have hc := hw c (by simp)
    by_contra hne
    have hnumber := Bool.eq_true_of_not_eq_false hne
    simp only [isNumberByte, isDigit, isExponentLetter, Bool.or_eq_true, Bool.and_eq_true,
      decide_eq_true_eq] at hnumber
    rcases hnumber with (((⟨h48, -⟩ | rfl) | rfl) | rfl | rfl) | rfl
    · exact absurd (UInt8.le_trans h48 hc) (by decide)
    all_goals exact absurd hc (by decide)

/-- A closing bracket. -/
structure Closes (b : UInt8) : Prop where
  ne_comma : b ≠ comma
  visible : 32 < b
  stops : isNumberByte b = false

variable {close : UInt8}

/-- What follows an item, after padding, is visible and does not continue a number. -/
lemma Closes.delimiter (hclose : Closes close)
    (hq : content[q]? = some comma ∨ content[q]? = some close) :
    ∃ b, content[q]? = some b ∧ 32 < b ∧ isNumberByte b = false := by
  rcases hq with hq | hq
  · exact ⟨comma, hq, by decide, rfl⟩
  · exact ⟨close, hq, hclose.visible, hclose.stops⟩

/-- A round of a loop hands the text of `item` to the next level, makes `a` of what comes back and
passes the padding up to `q`. -/
structure RoundOn (g : Grammar) (content : List UInt8) (value : ℕ → Parse (CJson × ℕ)) {α : Type}
    (r : Parse (α × ℕ)) (a : α) (item : CJson) (q : ℕ) : Prop where
  exists_text : ∃ text first after, ∃ make : CJson → α, Value g text item ∧
    Spans content first text after ∧ Follows content after ∧ make item = a ∧
    bufferSkipWhitespace content after = q ∧
    r = (value first >>= fun s => .ok (make s.1, bufferSkipWhitespace content s.2))

lemma RoundOn.reads {α : Type} {r : Parse (α × ℕ)} {a : α} {item : CJson}
    (h : RoundOn g content value r a item q) (hvalue : CompleteBelow g content levels value)
    (hitem : NestedWithin levels item) : r = .ok (a, q) := by
  obtain ⟨text, first, after, make, htext, hspan, hfollows, rfl, rfl, rfl⟩ := h.exists_text
  rw [hvalue.reads htext hspan hfollows hitem, ok_bind]

lemma RoundOn.refuses {α : Type} {r : Parse (α × ℕ)} {a : α} {item : CJson}
    (h : RoundOn g content value r a item q) (hvalue : CompleteBelow g content levels value)
    (hitem : ¬ NestedWithin levels item) : ∃ e, (∃ o, e = .refused o) ∧ r = .error e := by
  obtain ⟨text, first, after, make, htext, hspan, hfollows, rfl, rfl, rfl⟩ := h.exists_text
  obtain ⟨e, he, herror⟩ := hvalue.refuses htext hspan hfollows hitem
  exact ⟨e, he, by rw [herror, error_bind]⟩

/-- A round on an element. -/
lemma parseElement_round (hg : g.Within) (hclose : Closes close) {w text w' : List UInt8}
    {item : CJson} (hw : Whitespace w) (htext : Value g text item) (hw' : Whitespace w')
    (hspan : Spans content (p + 1) (w ++ text ++ w') q)
    (hq : content[q]? = some comma ∨ content[q]? = some close) :
    RoundOn g content value (parseElement content value p) item item q := by
  obtain ⟨b, hb, hvisible, hstops⟩ := hclose.delimiter hq
  obtain ⟨c, rest, hhead, hc, -⟩ := htext.head hg
  have htspan := hspan.split.1.split.2
  have hfirst := htspan
  rw [hhead] at hfirst
  refine ⟨text, _, _, id, htext, htspan,
    follows_of_padding hw' hspan.split.2 hb hstops, rfl, skip_eq hw' hspan.split.2 hb hvisible, ?_⟩
  rw [parseElement, skip_eq hw hspan.split.1.split.1 hfirst.head hc]
  rfl

/-- A round on a member: its name is read, and its value goes to the next level. -/
lemma parseMember_round (hg : g.Within) (hclose : Closes close) {w text w' : List UInt8}
    {m : CString × CJson} (hw : Whitespace w) (htext : Member g (Value g) text m)
    (hw' : Whitespace w')
    (hspan : Spans content (p + 1) (w ++ text ++ w') q)
    (hq : content[q]? = some comma ∨ content[q]? = some close) :
    RoundOn g content value (parseMember content value p) m m.2 q := by
  obtain ⟨b, hb, hvisible, hstops⟩ := hclose.delimiter hq
  obtain @⟨name, output, v, v', text, item, hname, hv, hv', hitem⟩ := htext
  obtain ⟨c, rest, hhead, hc, -⟩ := hitem.head hg
  obtain ⟨nrest, hnhead⟩ := (hg.string _ _ hname).head
  -- the parts of the member, one after the other
  have hmember := hspan.split.1.split.2
  have hnspan := hmember.split.1.split.1
  have hvspan := hmember.split.1.split.2
  have hcolon := hmember.split.2.head
  have hrest := hmember.split.2.tail.split
  have hfirst := hrest.2
  have hnfirst := hnspan
  rw [hhead] at hfirst
  rw [hnhead] at hnfirst
  have hlt : p + 1 < content.length := by
    obtain ⟨hlt, -⟩ := List.getElem?_eq_some_iff.mp hcolon
    omega
  refine ⟨text, _, _, fun item => (cString output, item), hitem, hrest.2, ?_, rfl,
    skip_eq hw' hspan.split.2 hb hvisible, ?_⟩
  · exact follows_of_padding hw' hspan.split.2 hb hstops
  · rw [parseMember, if_neg (by omega),
      skip_eq hw hspan.split.1.split.1 hnfirst.head (by decide),
      parseString_text (hg.string _ _ hname) hnspan, ok_bind]
    simp only
    rw [skip_eq (hg.padding _ hv) hvspan hcolon (by decide), if_neg (not_not.mpr hcolon),
      skip_eq (hg.padding _ hv') hrest.1 hfirst.head hc]

/-- Brackets around padding. -/
lemma parseBracketed_empty {α : Type} {round : ℕ → Parse (α × ℕ)} {make : List α → CJson}
    {opening : UInt8} {w : List UInt8} (hclose : Closes close) (hw : Whitespace w)
    (hspan : Spans content p (opening :: w ++ [close]) q) :
    parseBracketed content close round make p = .ok (make [], q) := by
  have htail : Spans content (p + 1) (w ++ [close]) q := hspan.tail
  have hbracket := htail.split.2.head
  have hlen := htail.length_eq
  rw [List.length_append, List.length_singleton] at hlen
  simp only [parseBracketed, skip_eq hw htail.split.1 hbracket hclose.visible]
  rw [if_pos hbracket, ← hlen, Nat.add_assoc]

section Items

variable {α : Type} {item : List UInt8 → α → Prop} {valueOf : α → CJson}
  {round : ℕ → Parse (α × ℕ)} {make : List α → CJson} {opening : UInt8} {text : List UInt8}
  {items : List α} (hg : g.Within) (hvalue : CompleteBelow g content levels value)
  (hround : ∀ {w t w' a p q}, Whitespace w → item t a → Whitespace w' →
    Spans content (p + 1) (w ++ t ++ w') q → content[q]? = some comma ∨ content[q]? = some close →
    RoundOn g content value (round p) a (valueOf a) q)
  (hhead : ∀ {t a}, item t a → ∃ b rest, t = b :: rest ∧ 32 < b ∧ b ≠ close)
  (hlist : Separated g.padding comma item text items)
  (hspan : Spans content p (opening :: text ++ [close]) q)

include hg hhead hlist hspan in
/-- The loop begins at the first item of a list, and the closing bracket stands after the list. -/
lemma parseBracketed_loop : ∃ first last body, Separated Whitespace comma item body items ∧
    Spans content (first - 1 + 1) body last ∧ content[last]? = some close ∧ last + 1 = q ∧
    items.length ≤ content.length + 1 ∧
    parseBracketed content close round make p = (do
      let (items, last) ←
        doWhile round (atComma content) .outOfFuel (content.length + 1) (first - 1)
      if content[last]? ≠ some close then .error (.refused last)
      else .ok (make items, last + 1)) := by
  have hpadded : Separated Whitespace comma item text items := hlist.mono hg.padding fun _ _ h => h
  obtain ⟨w, t, rest, rfl, hw, ⟨a, ht⟩, hbody⟩ := hpadded.trim (by simp [Whitespace])
  obtain ⟨b, t', rfl, hb, hne⟩ := hhead ht
  have htail : Spans content (p + 1) (w ++ (b :: t' ++ rest) ++ [close]) q := hspan.tail
  have hbracket := htail.split.2.head
  have hspanBody := htail.split.1.split.2
  have hfirst : content[p + 1 + w.length]? = some b := hspanBody.head
  obtain ⟨hlt, -⟩ := List.getElem?_eq_some_iff.mp hfirst
  have hlen := htail.length_eq
  rw [List.length_append, List.length_singleton] at hlen
  refine ⟨p + 1 + w.length, _, b :: t' ++ rest, hbody, ?_, hbracket, by omega, ?_, ?_⟩
  · rw [Nat.sub_add_cancel (by omega)]
    exact hspanBody
  · obtain ⟨hlast, -⟩ := List.getElem?_eq_some_iff.mp hbracket
    have hle := hbody.length_le
    have hend := hspanBody.length_eq
    omega
  · have hnot : ¬ content[p + 1 + w.length]? = some close := by
      rw [hfirst]
      exact fun heq => hne (Option.some.inj heq)
    simp only [parseBracketed, skip_eq hw htail.split.1.split.1 hfirst hb]
    rw [if_neg hnot, if_neg (by omega)]

include hg hvalue hround hhead hlist hspan

/-- **A list is read** when the values of its items are nested within the levels below. -/
lemma parseBracketed_reads (hclose : close ≠ comma)
    (hnested : ∀ a ∈ items, NestedWithin levels (valueOf a)) :
    parseBracketed content close round make p = .ok (make items, q) := by
  obtain ⟨first, last, body, hbody, hspanBody, hbracket, hlast, hfuel, heq⟩ :=
    parseBracketed_loop hg hhead hlist hspan
  have hloop : doWhile round (atComma content) ParseError.outOfFuel (content.length + 1)
      (first - 1) = .ok (items, last) := doWhile_complete
    (fun hw ht hw' ha hspan hq => (hround hw ht hw' hspan hq).reads hvalue ha)
    (fun q => decide_eq_true_iff) hclose hbody hnested hspanBody hbracket hfuel
  rw [heq, hloop, ok_bind]
  simp only [hlast]
  exact if_neg (not_not.mpr hbracket)

/-- **A list is refused** when the value of an item is not. -/
lemma parseBracketed_refuses (hdeep : ¬ ∀ a ∈ items, NestedWithin levels (valueOf a)) :
    ∃ e, (∃ o, e = .refused o) ∧ parseBracketed content close round make p = .error e := by
  obtain ⟨first, last, body, hbody, hspanBody, hbracket, hlast, hfuel, heq⟩ :=
    parseBracketed_loop hg hhead hlist hspan
  obtain ⟨e, he, hloop⟩ : ∃ e, (∃ o, e = ParseError.refused o) ∧
      doWhile round (atComma content) .outOfFuel (content.length + 1) (first - 1) = .error e :=
    doWhile_rejects (E := fun e => ∃ o, e = ParseError.refused o)
    (fun hw ht hw' ha hspan hq => (hround hw ht hw' hspan hq).reads hvalue ha)
    (fun q => decide_eq_true_iff)
    (fun hw ht hw' ha hspan hq => (hround hw ht hw' hspan hq).refuses hvalue ha)
    hbody hdeep hspanBody hbracket hfuel
  exact ⟨e, he, by rw [heq, hloop, error_bind]⟩

end Items

lemma not_readsLiteral {literal : CString} {b c : UInt8} (hc : literal.head? = some c)
    (hb : content[p]? = some b) (hne : b ≠ c) : ¬ readsLiteral content p literal = true := by
  intro h
  obtain ⟨rest, rfl⟩ := List.head?_eq_some_iff.mp hc
  have hhead := ((readsLiteral_iff (List.cons_ne_nil c rest)).mp h).head
  exact hne (Option.some.inj (hb.symm.trans hhead))

variable {below : Option (ℕ → Parse (CJson × ℕ))}

/-- `parse_value` at a byte with which no literal begins. -/
lemma parseValueAt_byte {b : UInt8} (hb : content[p]? = some b)
    (hne : b ≠ 110 ∧ b ≠ 102 ∧ b ≠ 116) :
    parseValueAt content below p =
      if b = quotationMark then do
        let (output, after) ← parseString content p
        .ok (.string (cString output), after)
      else if b = minusSign || isDigit b then parseNumber content p
      else if b = beginArray then parseArray content below p
      else if b = beginObject then parseObject content below p
      else .error (.refused p) := by
  rw [parseValueAt, if_neg (not_readsLiteral (c := 110) rfl hb hne.1),
    if_neg (not_readsLiteral (c := 102) rfl hb hne.2.1),
    if_neg (not_readsLiteral (c := 116) rfl hb hne.2.2)]
  simp only [hb, Option.some.injEq, Option.any_some]

lemma parseValueAt_array (hb : content[p]? = some beginArray) :
    parseValueAt content below p = match below with
      | none => .error (.refused p)
      | some value => parseBracketed content endArray (parseElement content value) .array p := by
  rw [parseValueAt_byte hb (by decide), if_neg (by decide), if_neg (by decide), if_pos rfl]
  rcases below with _ | value
  · rfl
  · simp only [parseArray, readAt_of_getElem? hb, ok_bind, ne_eq, not_true_eq_false, if_false]

lemma parseValueAt_object (hb : content[p]? = some beginObject) :
    parseValueAt content below p = match below with
      | none => .error (.refused p)
      | some value => parseBracketed content endObject (parseMember content value) .object p := by
  rw [parseValueAt_byte hb (by decide), if_neg (by decide), if_neg (by decide),
    if_neg (by decide), if_pos rfl]
  rcases below with _ | value
  · rfl
  · simp only [parseObject, hb, ne_eq, not_true_eq_false, if_false]

lemma closes_endArray : Closes endArray := ⟨by decide, by decide, rfl⟩

lemma closes_endObject : Closes endObject := ⟨by decide, by decide, rfl⟩

/-- A member begins with a quotation mark. -/
lemma Member.head (hg : g.Within) {value : List UInt8 → CJson → Prop} {text : List UInt8}
    {m : CString × CJson} (h : Member g value text m) :
    ∃ b rest, text = b :: rest ∧ 32 < b ∧ b ≠ endObject := by
  obtain ⟨hname, -, -, -⟩ := h
  obtain ⟨rest, rfl⟩ := (hg.string _ _ hname).head
  exact ⟨quotationMark, _, rfl, by decide, by decide⟩

lemma Value.head_element (hg : g.Within) {text : List UInt8} {item : CJson}
    (h : Value g text item) :
    ∃ b rest, text = b :: rest ∧ 32 < b ∧ b ≠ endArray := by
  obtain ⟨b, rest, htext, hb, hne, -⟩ := h.head hg
  exact ⟨b, rest, htext, hb, hne⟩

/-- A number does not begin like a literal or a string. -/
lemma number_byte_ne {b : UInt8} (hb : b = minusSign ∨ isDigit b) :
    (b ≠ 110 ∧ b ≠ 102 ∧ b ≠ 116) ∧ b ≠ quotationMark := by
  rcases hb with rfl | hb
  · decide
  · refine ⟨⟨?_, ?_, ?_⟩, ?_⟩
    all_goals
      rintro rfl
      cases hb

/-- Where a number begins, `parse_number` is called. -/
lemma parseValueAt_eq_parseNumber {text : List UInt8} {v : Int32} (h : NumberText text v)
    (hspan : Spans content p text q) : parseValueAt content below p = parseNumber content p := by
  obtain ⟨b, rest, rfl, hb⟩ := h.head
  obtain ⟨hliteral, hquote⟩ := number_byte_ne hb
  rw [parseValueAt_byte hspan.head hliteral, if_neg hquote, if_pos (by simpa using hb)]

lemma parseValueAt_number {text : List UInt8} {v : Int32} (h : NumberText text v)
    (hspan : Spans content p text q) (hfollows : Follows content q) :
    parseValueAt content below p = .ok (.number v, q) := by
  rw [parseValueAt_eq_parseNumber h hspan]
  obtain ⟨d, hd, rfl, rfl, -⟩ := h
  exact parseNumber_text hd hspan hfollows

/-- A level that is not the last one has a next one. -/
lemma exists_below
    (hbelow : ∀ n, levels = n + 1 → ∃ value, below = some value ∧ CompleteBelow g content n value)
    (hne : levels ≠ 0) :
    ∃ n value, levels = n + 1 ∧ below = some value ∧ CompleteBelow g content n value := by
  obtain ⟨n, hn⟩ := Nat.exists_eq_succ_of_ne_zero hne
  obtain ⟨value, hvalue, hcomplete⟩ := hbelow n hn
  exact ⟨n, value, hn, hvalue, hcomplete⟩

/-- What is nested within the levels is read; only a number depends on what follows it. -/
lemma parseValueAt_reads (hg : g.Within)
    (hbelow : ∀ n, levels = n + 1 → ∃ value, below = some value ∧ CompleteBelow g content n value)
    {text : List UInt8} {item : CJson} (h : Value g text item) (hspan : Spans content p text q)
    (hfollows : ∀ v, item = .number v → Follows content q) (hnested : NestedWithin levels item) :
    parseValueAt content below p = .ok (item, q) := by
  have hlen := hspan.length_eq
  cases h with
  | null =>
      obtain rfl : p + 4 = q := hlen
      rw [parseValueAt, if_pos ((readsLiteral_iff (by decide)).mpr hspan)]
  | false =>
      obtain rfl : p + 5 = q := hlen
      have hb : content[p]? = some 102 := Spans.head (t := cstr "alse") hspan
      rw [parseValueAt, if_neg (not_readsLiteral (c := 110) rfl hb (by decide)),
        if_pos ((readsLiteral_iff (by decide)).mpr hspan)]
  | true =>
      obtain rfl : p + 4 = q := hlen
      have hb : content[p]? = some 116 := Spans.head (t := cstr "rue") hspan
      rw [parseValueAt, if_neg (not_readsLiteral (c := 110) rfl hb (by decide)),
        if_neg (not_readsLiteral (c := 102) rfl hb (by decide)),
        if_pos ((readsLiteral_iff (by decide)).mpr hspan)]
  | string ht =>
      obtain ⟨rest, rfl⟩ := (hg.string _ _ ht).head
      rw [parseValueAt_byte hspan.head (by decide), if_pos rfl,
        parseString_text (hg.string _ _ ht) hspan, ok_bind]
  | number ht => exact parseValueAt_number (hg.number _ _ ht) hspan (hfollows _ rfl)
  | emptyArray hw =>
      obtain ⟨n, value, rfl, rfl, -⟩ := exists_below hbelow (by rintro rfl; exact hnested)
      rw [parseValueAt_array hspan.head]
      exact parseBracketed_empty closes_endArray (hg.padding _ hw) hspan
  | array hlist =>
      obtain ⟨n, value, rfl, rfl, hvalue⟩ := exists_below hbelow (by rintro rfl; exact hnested)
      rw [parseValueAt_array hspan.head]
      exact parseBracketed_reads hg hvalue (parseElement_round hg closes_endArray)
        (Value.head_element hg) hlist hspan (by decide) hnested
  | emptyObject hw =>
      obtain ⟨n, value, rfl, rfl, -⟩ := exists_below hbelow (by rintro rfl; exact hnested)
      rw [parseValueAt_object hspan.head]
      exact parseBracketed_empty closes_endObject (hg.padding _ hw) hspan
  | object hlist =>
      obtain ⟨n, value, rfl, rfl, hvalue⟩ := exists_below hbelow (by rintro rfl; exact hnested)
      rw [parseValueAt_object hspan.head]
      exact parseBracketed_reads hg hvalue (parseMember_round hg closes_endObject)
        (Member.head hg) hlist hspan (by decide) hnested

/-- At the limit every array and object is refused. -/
lemma parseValueAt_limit {text : List UInt8} {item : CJson} (h : Value g text item)
    (hspan : Spans content p text q) (hdeep : ¬ NestedWithin 0 item) :
    parseValueAt content none p = .error (.refused p) := by
  cases h with
  | emptyArray => exact parseValueAt_array hspan.head
  | array => exact parseValueAt_array hspan.head
  | emptyObject => exact parseValueAt_object hspan.head
  | object => exact parseValueAt_object hspan.head
  | _ => exact absurd (by simp [NestedWithin]) hdeep

/-- **One level**: `parse_value` reads the texts of values, if the next level does. At the limit it
refuses every array and object. -/
lemma parseValueAt_complete (hg : g.Within) (hlimit : levels = 0 → below = none)
    (hbelow : ∀ n, levels = n + 1 → ∃ value, below = some value ∧ CompleteBelow g content n value) :
    CompleteBelow g content levels (parseValueAt content below) := by
  refine ⟨fun h hspan hfollows => parseValueAt_reads hg hbelow h hspan fun _ _ => hfollows, ?_⟩
  intro text item p q h hspan hfollows hdeep
  by_cases hzero : levels = 0
  · obtain rfl := hlimit hzero
    subst hzero
    exact ⟨_, ⟨p, rfl⟩, parseValueAt_limit h hspan hdeep⟩
  · obtain ⟨n, value, rfl, rfl, hvalue⟩ := exists_below hbelow hzero
    cases h with
    | array hlist =>
        rw [parseValueAt_array hspan.head]
        exact parseBracketed_refuses hg hvalue (parseElement_round hg closes_endArray)
          (Value.head_element hg) hlist hspan hdeep
    | object hlist =>
        rw [parseValueAt_object hspan.head]
        exact parseBracketed_refuses hg hvalue (parseMember_round hg closes_endObject)
          (Member.head hg) hlist hspan hdeep
    | _ => exact absurd (by simp [NestedWithin]) hdeep

/-- `parse_value` reads the texts of values nested within its levels, and refuses the others. -/
theorem parseValue_complete (hg : g.Within) (content : List UInt8) (levels : ℕ) :
    CompleteBelow g content levels (parseValue content levels) := by
  induction levels with
  | zero => exact parseValueAt_complete hg (fun _ => rfl) fun _ h => by cases h
  | succ levels ih =>
      refine parseValueAt_complete hg (fun h => by cases h) fun n hn => ⟨_, rfl, ?_⟩
      obtain rfl := Nat.succ.inj hn
      exact ih

/-- Wherever a value that is no number ends, it is read. -/
lemma parseValue_reads (hg : g.Within) {levels : ℕ} {text : List UInt8} {item : CJson}
    (h : Value g text item) (hspan : Spans content p text q)
    (hfollows : ∀ v, item = .number v → Follows content q) (hnested : NestedWithin levels item) :
    parseValue content levels p = .ok (item, q) := by
  rcases levels with _ | levels
  · exact parseValueAt_reads hg (fun _ h => by cases h) h hspan hfollows hnested
  · refine parseValueAt_reads hg (fun n hn => ⟨_, rfl, ?_⟩) h hspan hfollows hnested
    obtain rfl := Nat.succ.inj hn
    exact parseValue_complete hg content levels

/-! ## Longer contents -/

/-- A number is read up to the terminator, whatever comes behind it. -/
lemma parseNumber_append {text : List UInt8} (hp : p ≤ text.length) (more : List UInt8) :
    parseNumber (text ++ 0 :: more) p = parseNumber (text ++ [0]) p := by
  have hrun : ∀ more : List UInt8, ((text ++ 0 :: more).drop p).takeWhile isNumberByte =
      (text.drop p).takeWhile isNumberByte := by
    intro more
    rw [List.drop_append_of_le_length hp, List.takeWhile_append]
    split_ifs with hall
    · rw [List.takeWhile_cons_of_neg (by decide), List.append_nil]
      exact ((List.takeWhile_prefix _).eq_of_length hall).symm
    · rfl
  simp only [parseNumber, hrun]

/-- **What is accepted stays accepted**: a value that is read in front of a terminator is read in
front of anything behind the terminator. -/
lemma parseValue_append {text : List UInt8} {levels : ℕ} {item : CJson} (hp : p ≤ text.length)
    (h : parseValue (text ++ [0]) levels p = .ok (item, q)) (more : List UInt8) :
    parseValue (text ++ 0 :: more) levels p = .ok (item, q) := by
  have hlt : p < (text ++ [0]).length := by
    rw [List.length_append, List.length_singleton]
    omega
  obtain ⟨body, hspan, hbody, hnested⟩ := parseValue_sound (terminated_text text) levels hlt h
  have hcontent : text ++ 0 :: more = text ++ [0] ++ more := by simp
  have hspan' : Spans (text ++ 0 :: more) p body q :=
    hcontent ▸ hspan.append_content (Nat.le_of_lt hlt) more
  by_cases hnumber : ∃ v, item = .number v
  · obtain ⟨v, rfl⟩ := hnumber
    have hread : ∀ {content : List UInt8}, Spans content p body q →
        parseValue content levels p = parseNumber content p := by
      intro content hspan
      cases hbody with
      | number hv =>
          rcases levels with _ | levels
          · exact parseValueAt_eq_parseNumber hv hspan
          · exact parseValueAt_eq_parseNumber hv hspan
    rw [hread hspan', parseNumber_append hp, ← hread hspan, h]
  · exact parseValue_reads parserGrammar_within hbody hspan'
      (fun v hv => absurd ⟨v, hv⟩ hnumber) hnested

end Complete

/-! ## The whole text -/

/-- Nothing, or the byte order mark. -/
def IsMark (mark : List UInt8) : Prop := mark = [] ∨ mark = [0xEF, 0xBB, 0xBF]

lemma ok_of_map {α : Type} {r : Parse (α × ℕ)} {a : α} (h : r.map Prod.fst = .ok a) :
    ∃ q, r = .ok (a, q) := by
  rcases r with e | ⟨a', q⟩
  · cases h
  · obtain rfl := Except.ok.inj h
    exact ⟨q, rfl⟩

/-- **What is accepted is the text of a value** of the parser's grammar, nested within the limit,
after a byte order mark or none and padding. Anything may follow it. -/
theorem cJSONParse_sound {text : CString} {item : CJson} (h : cJSONParse text = .ok item) :
    ∃ mark w body rest, text = mark ++ w ++ body ++ rest ∧ IsMark mark ∧ Whitespace w ∧
      Value parserGrammar body item ∧ NestedWithin nestingLimit item := by
  have hend := terminated_text text
  have hmark : ∃ mark, IsMark mark ∧ Spans (text ++ [0]) 0 mark (skipUtf8Bom (text ++ [0])) := by
    rw [skipUtf8Bom]
    split_ifs with hbom
    · refine ⟨_, .inr rfl, .of_drop_eq (u := (text ++ [0]).drop 3) ?_⟩
      rw [← hbom.2, List.drop_zero, List.take_append_drop]
    · exact ⟨[], .inl rfl, .nil⟩
  obtain ⟨mark, hismark, hmspan⟩ := hmark
  obtain ⟨w, hw, hwspan, hlt⟩ := skip_spans (skipUtf8Bom_lt text)
  rw [cJSONParse] at h
  obtain ⟨q, hvalue⟩ := ok_of_map h
  obtain ⟨body, hbspan, hbody, hnested⟩ := parseValue_sound hend nestingLimit hlt hvalue
  have hinside := (parseValue_endsInside hend nestingLimit hlt).of_ok hvalue
  -- the value ends before the terminator
  have hspan := (hmspan.append hwspan).append hbspan
  have hprefix : mark ++ w ++ body <+: text := by
    have hstart : mark ++ w ++ body <+: text ++ [0] := ⟨_, hspan.drop_eq.symm⟩
    refine List.prefix_of_prefix_length_le hstart (List.prefix_append _ _) ?_
    have hlen := hspan.length_eq
    have hq := hinside.2
    rw [List.length_append, List.length_singleton] at hq
    omega
  obtain ⟨rest, hrest⟩ := hprefix
  exact ⟨mark, w, body, rest, hrest.symm, hismark, hw, hbody, hnested⟩

/-- A list after a byte order mark, with padding between the tokens and a letter after it. -/
theorem cJSONParse_sound_list : ∃ mark w body rest,
    [0xEF, 0xBB, 0xBF] ++ cstr " [true , null] x" = mark ++ w ++ body ++ rest ∧ IsMark mark ∧
      Whitespace w ∧ Value parserGrammar body (.array [.bool true, .null]) ∧
      NestedWithin nestingLimit (.array [.bool true, .null]) :=
  cJSONParse_sound rfl

/-- The byte order mark is passed if it is there, and nothing else is taken for one. -/
lemma skipUtf8Bom_eq {mark : List UInt8} (hmark : IsMark mark) {b : UInt8} {s : List UInt8}
    (hb : b ≠ 0xEF) : skipUtf8Bom (mark ++ (b :: s) ++ [0]) = mark.length := by
  rw [skipUtf8Bom]
  rcases hmark with rfl | rfl
  · refine if_neg fun h => hb ?_
    have hhead := congrArg List.head? h.2
    simpa using hhead
  · exact if_pos ⟨by simp, rfl⟩

/-- The value is parsed from behind the byte order mark and the padding. -/
lemma cJSONParse_start {mark w body : List UInt8} (hmark : IsMark mark) (hw : Whitespace w)
    (rest : List UInt8) (hbody : ∃ b s, body = b :: s ∧ 32 < b ∧ b < 127) :
    cJSONParse (mark ++ w ++ body ++ rest) =
        (parseValue (mark ++ w ++ body ++ rest ++ [0]) nestingLimit
          (mark.length + w.length)).map Prod.fst ∧
      Spans (mark ++ w ++ body ++ rest ++ [0]) (mark.length + w.length) body
        (mark.length + w.length + body.length) := by
  obtain ⟨b, body, rfl, hb, hascii⟩ := hbody
  have hspan : Spans (mark ++ w ++ b :: body ++ rest ++ [0]) 0 (mark ++ (w ++ b :: body))
      (0 + (mark ++ (w ++ b :: body)).length) :=
    .of_drop_eq (u := rest ++ [0]) (by simp)
  have hbom : skipUtf8Bom (mark ++ w ++ b :: body ++ rest ++ [0]) = 0 + mark.length := by
    rw [Nat.zero_add]
    rcases w with _ | ⟨c, w⟩
    · have hne : b ≠ 0xEF := by
        rintro rfl
        exact absurd hascii (by decide)
      simpa using skipUtf8Bom_eq hmark (s := body ++ rest) hne
    · have hne : c ≠ 0xEF := by
        rintro rfl
        exact absurd (hw 0xEF (by simp)) (by decide)
      simpa using skipUtf8Bom_eq hmark (s := w ++ b :: body ++ rest) hne
  have hskip := skip_eq hw hspan.split.2.split.1 hspan.split.2.split.2.head hb
  have hvalue := hspan.split.2.split.2
  rw [← hvalue.length_eq, Nat.zero_add] at hvalue
  refine ⟨?_, hvalue⟩
  rw [cJSONParse, hbom, hskip, Nat.zero_add]

/-- **The text of a value is parsed into the value** if this is nested within the limit, and is
refused otherwise, whatever the padding around its tokens is and whatever follows it. -/
theorem cJSONParse_text {g : Grammar} (hg : g.Within) {mark w body rest : List UInt8} {item : CJson}
    (hmark : IsMark mark) (hw : Whitespace w) (hbody : Value g body item)
    (hrest : StopsAt isNumberByte rest) :
    (NestedWithin nestingLimit item → cJSONParse (mark ++ w ++ body ++ rest) = .ok item) ∧
      (¬ NestedWithin nestingLimit item →
        ∃ offset, cJSONParse (mark ++ w ++ body ++ rest) = .error (.refused offset)) := by
  obtain ⟨b, s, hhead, hb, -, hascii⟩ := hbody.head hg
  obtain ⟨hstart, hspan⟩ := cJSONParse_start hmark hw rest ⟨b, s, hhead, hb, hascii⟩
  have hfollow : Follows (mark ++ w ++ body ++ rest ++ [0])
      (mark.length + w.length + body.length) := by
    have hdrop : (mark ++ w ++ body ++ rest ++ [0]).drop (mark.length + w.length + body.length) =
        rest ++ [0] := by
      rw [List.append_assoc _ rest, List.drop_left' (by simp [Nat.add_assoc])]
    rw [Follows, hdrop]
    rcases rest with _ | ⟨c, rest⟩
    · exact .cons rfl
    · exact .cons (hrest c rfl)
  have hcomplete := parseValue_complete hg (mark ++ w ++ body ++ rest ++ [0]) nestingLimit
  rw [hstart]
  constructor
  · intro hnested
    rw [hcomplete.reads hbody hspan hfollow hnested]
    rfl
  · intro hdeep
    obtain ⟨e, ⟨offset, rfl⟩, herror⟩ := hcomplete.refuses hbody hspan hfollow hdeep
    refine ⟨offset, ?_⟩
    rw [herror]
    rfl

/-- **A text that is accepted stays accepted** with a terminator and anything else behind it. -/
theorem cJSONParse_append {text : CString} {item : CJson} (h : cJSONParse text = .ok item)
    (more : List UInt8) : cJSONParse (text ++ 0 :: more) = .ok item := by
  obtain ⟨mark, w, body, rest, rfl, hmark, hw, hbody, -⟩ := cJSONParse_sound h
  obtain ⟨b, s, hhead, hb, -, hascii⟩ := hbody.head parserGrammar_within
  have hvisible : ∃ b s, body = b :: s ∧ 32 < b ∧ b < 127 := ⟨b, s, hhead, hb, hascii⟩
  obtain ⟨hstart, -⟩ := cJSONParse_start hmark hw rest hvisible
  obtain ⟨hstart', -⟩ := cJSONParse_start hmark hw (rest ++ 0 :: more) hvisible
  rw [hstart] at h
  obtain ⟨q, hvalue⟩ := ok_of_map h
  have hinside : mark.length + w.length ≤ (mark ++ w ++ body ++ rest).length := by
    simp only [List.length_append]
    omega
  have hlonger := parseValue_append hinside hvalue (more ++ [0])
  have hsame : mark ++ w ++ body ++ rest ++ 0 :: more = mark ++ w ++ body ++ (rest ++ 0 :: more) :=
    List.append_assoc ..
  have hsame' : mark ++ w ++ body ++ (rest ++ 0 :: more) ++ [0] =
      mark ++ w ++ body ++ rest ++ 0 :: (more ++ [0]) := by simp
  rw [hsame, hstart', hsame', hlonger]
  rfl

lemma cJSONParse_ok_iff {g : Grammar} (hg : g.Within) {mark w body rest : List UInt8} {item : CJson}
    (hmark : IsMark mark) (hw : Whitespace w) (hbody : Value g body item)
    (hrest : StopsAt isNumberByte rest) :
    cJSONParse (mark ++ w ++ body ++ rest) = .ok item ↔ NestedWithin nestingLimit item := by
  obtain ⟨hreads, hrefuses⟩ := cJSONParse_text hg hmark hw hbody hrest
  refine ⟨fun h => ?_, hreads⟩
  by_contra hdeep
  obtain ⟨offset, herror⟩ := hrefuses hdeep
  rw [h] at herror
  cases herror

end CJson

end HardwareTest
