import Mathlib.Data.List.Basic
import Mathlib.Tactic.Common

/-!
# Separated lists and the loops that read them

* `Yields Q E r`: the outcome `r` is a value with `Q` or an error with `E`; `Yields.bind` composes.
* `Spans content p t q`: the text `t` stands in `content` from position `p` up to position `q`.
* `Separated pad sep item`: the grammar of a non-empty list, its items padded and separated.
* `doWhile`: a loop that reads an item and goes on while a condition holds.
* **Rules.** `doWhile_yields` (a loop whose body stays inside and advances needs no more rounds than
  there are positions), `doWhile_sound` (what the loop has read is a separated list) and
  `doWhile_complete`, `doWhile_rejects` (a separated list is read as far as its items can be).
-/

namespace HardwareTest.Lib

/-! ## Outcomes -/

section Outcomes

universe u v

variable {ε : Type u} {α γ : Type v}

@[simp] lemma ok_bind (a : α) (f : α → Except ε γ) : (Except.ok a >>= f) = f a := rfl

@[simp] lemma error_bind (e : ε) (f : α → Except ε γ) :
    ((Except.error e : Except ε α) >>= f) = .error e := rfl

/-- The outcome is a value with `Q` or an error with `E`. -/
def Yields (Q : α → Prop) (E : ε → Prop) : Except ε α → Prop
  | .ok a => Q a
  | .error e => E e

/-- Outcomes compose: the second step runs on what the first one returned. -/
lemma Yields.bind {Q : α → Prop} {R : γ → Prop} {E : ε → Prop} {r : Except ε α}
    {f : α → Except ε γ} (h : Yields Q E r) (hf : ∀ a, Q a → Yields R E (f a)) :
    Yields R E (r >>= f) := by
  rcases r with e | a
  · exact h
  · exact hf a h

lemma Yields.mono {Q R : α → Prop} {E F : ε → Prop} {r : Except ε α} (h : Yields Q E r)
    (hQ : ∀ a, Q a → R a) (hE : ∀ e, E e → F e) : Yields R F r := by
  rcases r with e | a
  · exact hE e h
  · exact hQ a h

/-- A computed value has what every outcome has. -/
lemma Yields.of_ok {Q : α → Prop} {E : ε → Prop} {r : Except ε α} {a : α} (h : Yields Q E r)
    (ha : r = .ok a) : Q a := by
  rw [ha] at h
  exact h

end Outcomes

variable {α β ε σ : Type*}

/-! ## Texts between positions -/

/-- The text `t` stands in `content` from `p` up to `q`. -/
structure Spans (content : List β) (p : ℕ) (t : List β) (q : ℕ) : Prop where
  drop_eq : content.drop p = t ++ content.drop q
  length_eq : p + t.length = q

variable {content s t : List β} {p q r : ℕ} {b : β}

namespace Spans

lemma nil : Spans content p [] p := ⟨rfl, rfl⟩

lemma of_drop_eq {u : List β} (h : content.drop p = t ++ u) :
    Spans content p t (p + t.length) := by
  refine ⟨?_, rfl⟩
  rw [← List.drop_drop, h, List.drop_left]

lemma append (hs : Spans content p s q) (ht : Spans content q t r) :
    Spans content p (s ++ t) r := by
  refine ⟨?_, ?_⟩
  · rw [hs.drop_eq, ht.drop_eq, List.append_assoc]
  · rw [List.length_append, ← ht.length_eq, ← hs.length_eq, Nat.add_assoc]

/-- A text of two parts stands there part by part. -/
lemma split (h : Spans content p (s ++ t) r) :
    Spans content p s (p + s.length) ∧ Spans content (p + s.length) t r := by
  have hs : Spans content p s (p + s.length) := .of_drop_eq (by rw [h.drop_eq, List.append_assoc])
  refine ⟨hs, ?_, ?_⟩
  · exact List.append_cancel_left (by rw [← hs.drop_eq, h.drop_eq, List.append_assoc])
  · rw [← h.length_eq, List.length_append, Nat.add_assoc]

lemma singleton (h : content[p]? = some b) : Spans content p [b] (p + 1) := by
  obtain ⟨hlt, hb⟩ := List.getElem?_eq_some_iff.mp h
  refine ⟨?_, rfl⟩
  rw [List.drop_eq_getElem_cons hlt, hb, List.singleton_append]

lemma head (h : Spans content p (b :: t) q) : content[p]? = some b := by
  rw [← List.head?_drop, h.drop_eq]
  rfl

/-- The text after the first entry. -/
lemma tail (h : Spans content p (b :: t) q) : Spans content (p + 1) t q :=
  (split (s := [b]) h).2

/-- A text that stands inside the content ends inside it. -/
lemma le_length (h : Spans content p t q) (hp : p ≤ content.length) : q ≤ content.length := by
  have hlen := congrArg List.length h.drop_eq
  rw [List.length_append, List.length_drop, List.length_drop] at hlen
  have := h.length_eq
  omega

/-- A text stands where it did when the content gets longer. -/
lemma append_content (h : Spans content p t q) (hp : p ≤ content.length) (more : List β) :
    Spans (content ++ more) p t q := by
  refine ⟨?_, h.length_eq⟩
  have hq := h.le_length hp
  rw [List.drop_append_of_le_length hp, List.drop_append_of_le_length hq, h.drop_eq,
    List.append_assoc]

/-- Two texts of one length from one position are the same. -/
lemma unique (hs : Spans content p s q) (ht : Spans content p t q) : s = t :=
  List.append_cancel_right (hs.drop_eq.symm.trans ht.drop_eq)

/-- Every part of the content is a text of its length. -/
lemma exists_of_le {n : ℕ} (h : p + n ≤ content.length) :
    ∃ t, t.length = n ∧ Spans content p t (p + n) := by
  have hlen : ((content.drop p).take n).length = n := by
    rw [List.length_take, List.length_drop]
    omega
  have hspan : Spans content p ((content.drop p).take n) (p + ((content.drop p).take n).length) :=
    .of_drop_eq (List.take_append_drop n _).symm
  rw [hlen] at hspan
  exact ⟨_, hlen, hspan⟩

/-- Of two texts from one position, the one that ends first is a beginning of the other. -/
lemma remainder (hs : Spans content p s q) (ht : Spans content p t r) (hle : q ≤ r) :
    ∃ t', t = s ++ t' ∧ Spans content q t' r := by
  have hprefix : s <+: t := by
    have hs' : s <+: content.drop p := ⟨_, hs.drop_eq.symm⟩
    refine List.prefix_of_prefix_length_le hs' ⟨_, ht.drop_eq.symm⟩ ?_
    have hq := hs.length_eq
    have hr := ht.length_eq
    omega
  obtain ⟨t', rfl⟩ := hprefix
  refine ⟨t', rfl, ?_⟩
  rw [← hs.length_eq]
  exact ht.split.2

end Spans

/-! ## Separated lists -/

/-- A non-empty list: items between padding, with separators between them. -/
inductive Separated (pad : List β → Prop) (sep : β) (item : List β → α → Prop) :
    List β → List α → Prop
  | last {w t w' : List β} {a : α} : pad w → item t a → pad w' →
      Separated pad sep item (w ++ t ++ w') [a]
  | next {w t w' rest : List β} {a : α} {as : List α} : pad w → item t a → pad w' →
      Separated pad sep item rest as →
      Separated pad sep item (w ++ t ++ w' ++ sep :: rest) (a :: as)

variable {pad : List β → Prop} {sep close : β} {item : List β → α → Prop}

/-- Every separator takes an entry of the text. -/
lemma Separated.length_le {text : List β} {as : List α} (h : Separated pad sep item text as) :
    as.length ≤ text.length + 1 := by
  induction h with
  | last => simp
  | next _ _ _ _ ih =>
      simp only [List.length_append, List.length_cons]
      omega

/-- What every item has, every entry of the list has. -/
lemma Separated.forall_mem {P : α → Prop} {text : List β} {as : List α}
    (h : Separated pad sep item text as) (hitem : ∀ t a, item t a → P a) : ∀ a ∈ as, P a := by
  induction h with
  | last _ ht _ => simpa using hitem _ _ ht
  | next _ ht _ _ ih => exact List.forall_mem_cons.mpr ⟨hitem _ _ ht, ih⟩

/-- What every padding, the separator and the text of every item of the list have, the whole text
has. -/
lemma Separated.forall_text {P : β → Prop} {text : List β} {as : List α}
    (h : Separated pad sep item text as) (hpad : ∀ w, pad w → ∀ b ∈ w, P b) (hsep : P sep)
    (hitem : ∀ t, ∀ a ∈ as, item t a → ∀ b ∈ t, P b) : ∀ b ∈ text, P b := by
  induction h with
  | last hw ht hw' =>
      have hone := hitem _ _ (List.mem_singleton_self _) ht
      simp only [List.forall_mem_append]
      exact ⟨⟨hpad _ hw, hone⟩, hpad _ hw'⟩
  | next hw ht hw' _ ih =>
      have hone := hitem _ _ List.mem_cons_self ht
      have hrest := ih fun t a ha => hitem t a (List.mem_cons_of_mem _ ha)
      simp only [List.forall_mem_append, List.forall_mem_cons]
      exact ⟨⟨⟨hpad _ hw, hone⟩, hpad _ hw'⟩, hsep, hrest⟩

/-- Paddings and items may be those of a larger grammar. -/
lemma Separated.mono {pad' : List β → Prop} {item' : List β → α → Prop} {text : List β}
    {as : List α} (h : Separated pad sep item text as) (hpad : ∀ w, pad w → pad' w)
    (hitem : ∀ t a, item t a → item' t a) : Separated pad' sep item' text as := by
  induction h with
  | last hw ht hw' => exact .last (hpad _ hw) (hitem _ _ ht) (hpad _ hw')
  | next hw ht hw' _ ih => exact .next (hpad _ hw) (hitem _ _ ht) (hpad _ hw') ih

/-- Padding before a list is padding of its first item. -/
lemma Separated.pad_left {v text : List β} {as : List α} (h : Separated pad sep item text as)
    (happend : ∀ u w, pad u → pad w → pad (u ++ w)) (hv : pad v) :
    Separated pad sep item (v ++ text) as := by
  cases h with
  | last hw ht hw' =>
      rw [← List.append_assoc, ← List.append_assoc]
      exact .last (happend _ _ hv hw) ht hw'
  | next hw ht hw' hrest =>
      rw [← List.append_assoc, ← List.append_assoc, ← List.append_assoc]
      exact .next (happend _ _ hv hw) ht hw' hrest

/-- The padding before the first item, and the list that begins with the item. -/
lemma Separated.trim {text : List β} {as : List α} (h : Separated pad sep item text as)
    (hnil : pad []) :
    ∃ w t rest, text = w ++ (t ++ rest) ∧ pad w ∧ (∃ a, item t a) ∧
      Separated pad sep item (t ++ rest) as := by
  cases h with
  | @last w t w' a hw ht hw' =>
      exact ⟨w, t, w', List.append_assoc _ _ _, hw, ⟨a, ht⟩, .last (w := []) hnil ht hw'⟩
  | @next w t w' rest a as hw ht hw' hrest =>
      refine ⟨w, t, w' ++ sep :: rest, by simp only [List.append_assoc], hw, ⟨a, ht⟩, ?_⟩
      rw [← List.append_assoc]
      exact .next (w := []) hnil ht hw' hrest

/-! ## The loop -/

/-- `do body while (again)`: the values the body read, and where it ended. At most `fuel` rounds. -/
def doWhile (body : σ → Except ε (α × σ)) (again : σ → Bool) (outOfFuel : ε) :
    ℕ → σ → Except ε (List α × σ)
  | 0, _ => .error outOfFuel
  | fuel + 1, p => do
      let (a, q) ← body p
      if again q then
        let (as, r) ← doWhile body again outOfFuel fuel q
        .ok (a :: as, r)
      else .ok ([a], q)

variable {body : σ → Except ε (α × σ)} {again : σ → Bool} {outOfFuel : ε} {fuel : ℕ}

lemma doWhile_of_error {p : σ} {e : ε} (h : body p = .error e) :
    doWhile body again outOfFuel (fuel + 1) p = .error e := by
  simp only [doWhile, h]
  rfl

lemma doWhile_of_last {p q : σ} {a : α} (h : body p = .ok (a, q)) (hq : again q = false) :
    doWhile body again outOfFuel (fuel + 1) p = .ok ([a], q) := by
  simp only [doWhile, h, ok_bind, hq, Bool.false_eq_true, if_false]

lemma doWhile_of_next {p q : σ} {a : α} (h : body p = .ok (a, q)) (hq : again q = true) :
    doWhile body again outOfFuel (fuel + 1) p =
      (doWhile body again outOfFuel fuel q).map fun r => (a :: r.1, r.2) := by
  simp only [doWhile, h, ok_bind, hq, if_true]
  rcases doWhile body again outOfFuel fuel q with _ | ⟨_, _⟩
  · rfl
  · rfl

/-- **Rounds.** A loop whose body, from every position where a round begins, ends in an error with
`E` or further on with `Q`, and begins again only where a round may begin, does so itself. The
measure of the position bounds the rounds. -/
theorem doWhile_yields {I Q : σ → Prop} {E : ε → Prop} (measure : σ → ℕ)
    (hbody : ∀ p, I p → Yields (fun r => Q r.2 ∧ measure r.2 < measure p) E (body p))
    (hagain : ∀ q, Q q → again q = true → I q) {fuel : ℕ} {p : σ} (hp : I p)
    (hfuel : measure p < fuel) :
    Yields (fun r => Q r.2 ∧ measure r.2 < measure p) E
      (doWhile body again outOfFuel fuel p) := by
  induction fuel generalizing p with
  | zero => omega
  | succ fuel ih =>
      have hround := hbody p hp
      rcases hb : body p with e | ⟨a, q⟩
      · rw [doWhile_of_error hb]
        rw [hb] at hround
        exact hround
      · obtain ⟨hq, hlt⟩ : Q q ∧ measure q < measure p := hround.of_ok hb
        rcases hagainq : again q with _ | _
        · rw [doWhile_of_last hb hagainq]
          exact ⟨hq, hlt⟩
        · rw [doWhile_of_next hb hagainq]
          have hrest := ih (hagain q hq hagainq) (by omega)
          rcases hr : doWhile body again outOfFuel fuel q with e | ⟨as, r⟩
          · rw [hr] at hrest
            exact hrest
          · obtain ⟨hQ, hmeasure⟩ : Q r ∧ measure r < measure q := hrest.of_ok hr
            exact ⟨hQ, Nat.lt_trans hmeasure hlt⟩

section Lists

variable {body : ℕ → Except ε (α × ℕ)} {again : ℕ → Bool}

/-- **Soundness.** When a round that begins where one may begin reads an item, from the position
after, and the loop goes on at a separator, it has read a separated list. -/
theorem doWhile_sound {I : ℕ → Prop}
    (hbody : ∀ p a q, I p → body p = .ok (a, q) → ∃ w t w', pad w ∧ item t a ∧ pad w' ∧
      Spans content (p + 1) (w ++ t ++ w') q)
    (hagain : ∀ q, again q = true ↔ content[q]? = some sep) (hnext : ∀ q, again q = true → I q)
    {fuel p : ℕ} {as : List α} {q : ℕ} (hp : I p)
    (h : doWhile body again outOfFuel fuel p = .ok (as, q)) :
    ∃ text, Spans content (p + 1) text q ∧ Separated pad sep item text as := by
  induction fuel generalizing p as q with
  | zero => cases h
  | succ fuel ih =>
      rcases hb : body p with e | ⟨a, r⟩
      · rw [doWhile_of_error hb] at h
        cases h
      · obtain ⟨w, t, w', hw, ht, hw', hspan⟩ := hbody p a r hp hb
        rcases hr : again r with _ | _
        · rw [doWhile_of_last hb hr] at h
          obtain ⟨rfl, rfl⟩ := Prod.mk.inj (Except.ok.inj h)
          exact ⟨_, hspan, .last hw ht hw'⟩
        · rw [doWhile_of_next hb hr] at h
          rcases hrest : doWhile body again outOfFuel fuel r with e | ⟨as', q'⟩
          · rw [hrest] at h
            cases h
          · rw [hrest] at h
            obtain ⟨rfl, rfl⟩ := Prod.mk.inj (Except.ok.inj h)
            obtain ⟨text, htext, hlist⟩ := ih (hnext r hr) hrest
            refine ⟨w ++ t ++ w' ++ sep :: text, ?_, .next hw ht hw' hlist⟩
            exact hspan.append ((Spans.singleton ((hagain r).mp hr)).append htext)

variable {good : α → Prop}
  (hread : ∀ {w t w' : List β} {a : α} {p q : ℕ}, pad w → item t a → pad w' → good a →
    Spans content (p + 1) (w ++ t ++ w') q → content[q]? = some sep ∨ content[q]? = some close →
    body p = .ok (a, q))
  (hagain : ∀ q, again q = true ↔ content[q]? = some sep) (hne : close ≠ sep)

/-- What stands between the brackets, cut after its first item: more items after a separator. -/
lemma Spans.cut {w : List β} {rest : List β} (h : Spans content p (w ++ sep :: rest) q) :
    Spans content p w (p + w.length) ∧ content[p + w.length]? = some sep ∧
      Spans content (p + w.length + 1) rest q :=
  ⟨h.split.1, h.split.2.head, h.split.2.tail⟩

include hread hagain hne in
/-- **Completeness.** A separated list of good items, up to the closing entry, is read. -/
theorem doWhile_complete {text : List β} {as : List α} {fuel p q : ℕ}
    (hlist : Separated pad sep item text as) (hgood : ∀ a ∈ as, good a)
    (hspan : Spans content (p + 1) text q) (hclose : content[q]? = some close)
    (hfuel : as.length ≤ fuel) : doWhile body again outOfFuel fuel p = .ok (as, q) := by
  induction hlist generalizing fuel p with
  | @last w t w' a hw ht hw' =>
      obtain ⟨fuel, rfl⟩ : ∃ n, fuel = n + 1 := ⟨fuel - 1, by simp at hfuel; omega⟩
      have hb := hread hw ht hw' (hgood a (by simp)) hspan (.inr hclose)
      refine doWhile_of_last hb (Bool.eq_false_iff.mpr fun htrue => hne ?_)
      exact Option.some.inj (hclose.symm.trans ((hagain q).mp htrue))
  | @next w t w' rest a as hw ht hw' _ ih =>
      obtain ⟨fuel, rfl⟩ : ∃ n, fuel = n + 1 := ⟨fuel - 1, by simp at hfuel; omega⟩
      obtain ⟨hfirst, hsep, hrest⟩ := hspan.cut
      have hb := hread hw ht hw' (hgood a (by simp)) hfirst (.inl hsep)
      rw [doWhile_of_next hb ((hagain _).mpr hsep),
        ih (fun b hb => hgood b (List.mem_cons_of_mem a hb)) hrest (Nat.le_of_succ_le_succ hfuel)]
      rfl

include hread hagain in
/-- **Rejection.** When a round that meets an item that is not good ends in an error with `E`, so
does the loop on a separated list with such an item. -/
theorem doWhile_rejects {E : ε → Prop}
    (hreject : ∀ {w t w' : List β} {a : α} {p q : ℕ}, pad w → item t a → pad w' → ¬ good a →
      Spans content (p + 1) (w ++ t ++ w') q →
      content[q]? = some sep ∨ content[q]? = some close → ∃ e, E e ∧ body p = .error e)
    {text : List β} {as : List α} {fuel p q : ℕ} (hlist : Separated pad sep item text as)
    (hbad : ¬ ∀ a ∈ as, good a) (hspan : Spans content (p + 1) text q)
    (hclose : content[q]? = some close) (hfuel : as.length ≤ fuel) :
    ∃ e, E e ∧ doWhile body again outOfFuel fuel p = .error e := by
  induction hlist generalizing fuel p with
  | @last w t w' a hw ht hw' =>
      obtain ⟨fuel, rfl⟩ : ∃ n, fuel = n + 1 := ⟨fuel - 1, by simp at hfuel; omega⟩
      have ha : ¬ good a := fun hgood => hbad (by simpa using hgood)
      obtain ⟨e, he, hb⟩ := hreject hw ht hw' ha hspan (.inr hclose)
      exact ⟨e, he, doWhile_of_error hb⟩
  | @next w t w' rest a as hw ht hw' _ ih =>
      obtain ⟨fuel, rfl⟩ : ∃ n, fuel = n + 1 := ⟨fuel - 1, by simp at hfuel; omega⟩
      obtain ⟨hfirst, hsep, hrest⟩ := hspan.cut
      by_cases ha : good a
      · have hb := hread hw ht hw' ha hfirst (.inl hsep)
        have hbad' : ¬ ∀ b ∈ as, good b := fun hall => hbad (List.forall_mem_cons.mpr ⟨ha, hall⟩)
        obtain ⟨e, he, hloop⟩ := ih hbad' hrest (Nat.le_of_succ_le_succ hfuel)
        refine ⟨e, he, ?_⟩
        rw [doWhile_of_next hb ((hagain _).mpr hsep), hloop]
        rfl
      · obtain ⟨e, he, hb⟩ := hreject hw ht hw' ha hfirst (.inl hsep)
        exact ⟨e, he, doWhile_of_error hb⟩

end Lists

end HardwareTest.Lib
