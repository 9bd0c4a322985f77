import HardwareTest.Services.GpioRoundTrip

/-!
# Opening a gpio device on lines of the caller

`validation_runtime_open_gpio` counts its lines from the caller's `lines_count` on, and its chips,
directions and polarities from 0 on. What the binding says is therefore laid over the caller's
entries instead of behind them.

* `KeepsAndAppends`: the caller's entries are kept and those of the binding follow them.
* `Repeats`: the values laid over the first cells are the caller's, over and over. That is exactly
  when the difference is not seen (`overlaid_iff`); for the chips the fallbacks count as well
  (`GpioConfiguration.ChipsRepeat`).
* `keepsAndAppends_iff` puts the three arrays together.
-/

namespace HardwareTest

open Lib FixedTable

/-! ## Values laid over a list -/

section overlaid

variable {α : Type} {old l : List α} {n : ℕ}

/-- A list begins with the first `n` elements of another one and a third one behind them. -/
lemma take_eq_take_append_iff {w : List α} (hn : n ≤ old.length) :
    w.take (n + l.length) = old.take n ++ l ↔
      (∀ j < n, w[j]? = old[j]?) ∧ ∀ k < l.length, w[n + k]? = l[k]? := by
  have hlen : (old.take n).length = n := by
    rw [List.length_take]
    omega
  constructor
  · intro h
    refine ⟨fun j hj => ?_, fun k hk => ?_⟩
    · have hat := congrArg (·[j]?) h
      rwa [List.getElem?_take, if_pos (by omega), List.getElem?_append_left (by omega),
        List.getElem?_take, if_pos hj] at hat
    · have hat := congrArg (·[n + k]?) h
      rwa [List.getElem?_take, if_pos (by omega), List.getElem?_append_right (by omega), hlen,
        Nat.add_sub_cancel_left] at hat
  · rintro ⟨hkept, hadded⟩
    apply List.ext_getElem?
    intro j
    rw [List.getElem?_take]
    rcases Nat.lt_or_ge j n with hj | hj
    · rw [if_pos (by omega), List.getElem?_append_left (by omega), List.getElem?_take, if_pos hj,
        hkept j hj]
    · obtain ⟨k, rfl⟩ := Nat.exists_eq_add_of_le hj
      rw [List.getElem?_append_right (by omega), hlen, Nat.add_sub_cancel_left]
      split_ifs with hk
      · exact hadded k (by omega)
      · rw [List.getElem?_eq_none (by omega)]

/-- The values `l` are the first `n` of a list over and over, and so is what follows `l` in the
list, up to `n` more. -/
structure Repeats (n : ℕ) (old l : List α) : Prop where
  values : ∀ k < l.length, l[k]? = old[k % n]?
  behind : ∀ j < n + l.length, l.length ≤ j → old[j]? = old[j % n]?

/-- **Laid over instead of appended.** Values written over the first cells leave the first `n` cells
as they were and come out behind them iff they repeat these. -/
lemma overlaid_iff (hn : 1 ≤ n) {w : List α}
    (hw : ∀ j < n + l.length, w[j]? = if j < l.length then l[j]? else old[j]?) :
    ((∀ j < n, w[j]? = old[j]?) ∧ ∀ k < l.length, w[n + k]? = l[k]?) ↔ Repeats n old l := by
  constructor
  · rintro ⟨hkept, hadded⟩
    have hall : ∀ j < n + l.length, w[j]? = old[j % n]? := by
      intro j
      induction j using Nat.strongRecOn with
      | _ j ih =>
          intro hj
          rcases Nat.lt_or_ge j n with hlt | hge
          · rw [hkept j hlt, Nat.mod_eq_of_lt hlt]
          · -- the value laid over an earlier cell
            obtain ⟨k, rfl⟩ := Nat.exists_eq_add_of_le hge
            have hearlier := ih k (by omega) (by omega)
            rw [hw k (by omega), if_pos (by omega)] at hearlier
            rw [hadded k (by omega), hearlier, Nat.add_mod_left]
    refine ⟨fun k hk => ?_, fun j hj hbehind => ?_⟩
    · rw [← hall k (by omega), hw k (by omega), if_pos hk]
    · rw [← hall j hj, hw j hj, if_neg (by omega)]
  · intro h
    have hall : ∀ j < n + l.length, w[j]? = old[j % n]? := by
      intro j hj
      rw [hw j hj]
      split_ifs with hlt
      · exact h.values j hlt
      · exact h.behind j hj (by omega)
    refine ⟨fun j hj => ?_, fun k hk => ?_⟩
    · rw [hall j (by omega), Nat.mod_eq_of_lt hj]
    · rw [hall (n + k) (by omega), Nat.add_mod_left, h.values k hk]

/-- An array whose values are written from the first cell on, and whose common value goes into the
first cell when there are none. -/
lemma laid_iff {size : ℕ} (hn : 1 ≤ n) (cells : Vector α size) (own : α)
    (hroom : n + l.length ≤ size) (hpos : 0 < size) :
    (if l.length = 0 then (writeFrom cells 0 l).set 0 own else writeFrom cells 0 l).toList.take
        (n + l.length) = cells.toList.take n ++ l ↔
      Repeats n cells.toList l ∧ (l = [] → cells.toList[0]? = some own) := by
  have hlen : cells.toList.length = size := cells.length_toList
  rw [take_eq_take_append_iff (by omega)]
  rcases Decidable.em (l.length = 0) with hnone | hsome
  · -- the common value goes into the first cell
    obtain rfl : l = [] := List.length_eq_zero_iff.mp hnone
    simp only [List.length_nil, if_true, writeFrom, Vector.toList_set]
    have hrepeats : Repeats n cells.toList [] := by
      refine ⟨fun k hk => absurd hk (Nat.not_lt_zero k), fun j hj _ => ?_⟩
      rw [List.length_nil, Nat.add_zero] at hj
      rw [Nat.mod_eq_of_lt hj]
    constructor
    · rintro ⟨hkept, -⟩
      refine ⟨hrepeats, fun _ => ?_⟩
      rw [← hkept 0 (by omega), List.getElem?_set_self (by omega)]
    · rintro ⟨-, hfirst⟩
      refine ⟨fun j _ => ?_, fun k hk => absurd hk (Nat.not_lt_zero k)⟩
      rcases Nat.eq_zero_or_pos j with rfl | hj
      · rw [List.getElem?_set_self (by omega), hfirst trivial]
      · rw [List.getElem?_set_ne (by omega)]
  · rw [if_neg hsome, overlaid_iff hn fun j _ => getElem?_writeFrom_zero cells (by omega) j]
    constructor
    · intro h
      exact ⟨h, fun hl => absurd (by rw [hl]; rfl) hsome⟩
    · intro h
      exact h.1

end overlaid

/-! ## The property and the condition -/

namespace Setting

/-- The name of a `line_chip`. -/
def asChipName : Setting → Option CString
  | .lineChip name => some name
  | _ => none

/-- What the chip cursor writes are copies of the names. -/
lemma filterMap_asLineChip (ss : List Setting) :
    ss.filterMap asLineChip = (ss.filterMap asChipName).map chipCopy := by
  rw [List.map_filterMap]
  congr 1
  funext s
  rcases s with _ | _ | _ | _ | _ | _
  all_goals rfl

end Setting

/-- A binding with `m` entries for each of the four arrays. -/
structure Aligned (ss : List Setting) (m : ℕ) : Prop where
  lines : (ss.filterMap Setting.asLine).length = m
  linesChip : (ss.filterMap Setting.asChipName).length = m
  directions : (ss.filterMap Setting.asDirection).length = m
  activeLow : (ss.filterMap Setting.asActiveLow).length = m

namespace GpioConfiguration

variable (c : GpioConfiguration) (ss : List Setting)

/-- The entries of the caller stay, and those of the binding come right behind them. -/
structure KeepsAndAppends (new : GpioConfiguration) (m : ℕ) : Prop where
  lines : new.lines.toList.take (c.linesCount + m) =
    c.lines.toList.take c.linesCount ++ ss.filterMap Setting.asLine
  linesChip : (new.linesChip.toList.map CharBuf.chars).take (c.linesCount + m) =
    (c.linesChip.toList.map CharBuf.chars).take c.linesCount ++ ss.filterMap Setting.asChipName
  directions : new.directions.toList.take (c.linesCount + m) =
    c.directions.toList.take c.linesCount ++ ss.filterMap Setting.asDirection
  activeLowLines : new.activeLowLines.toList.take (c.linesCount + m) =
    c.activeLowLines.toList.take c.linesCount ++ ss.filterMap Setting.asActiveLow

/-- No chip is named at all. -/
structure NoChips : Prop where
  common : (commonChip c.chip ss).chars = []
  kept : ∀ chip ∈ c.linesChip.toList.take c.linesCount, chip.chars = []
  names : ∀ name ∈ ss.filterMap Setting.asChipName, name = []

/-- The chip in the cell behind the caller's lines that is meant for the `k`-th line of the binding:
the binding's own chip of that index, else the one of the array. When that is blank, and was not
written after the line, it is the common chip known at the line. -/
def chipBehind (k : ℕ) : Option (CharBuf configKeyLength) :=
  let chips := ss.filterMap Setting.asLineChip
  let j := c.linesCount + k
  (if j < chips.length then chips[j]? else c.linesChip.toList[j]?).map fun own =>
    if ((beforeLine k ss).filterMap Setting.asLineChip).length ≤ j ∧ j < chips.length then own
    else fallbackChip own (commonChip c.chip (beforeLine k ss))

/-- The chips of the binding are the caller's where both have one, and behind the caller's lines the
right chip is found by chance. -/
structure ChipsRepeat : Prop where
  first : (c.linesChip.toList[0]?).map CharBuf.chars ≠ some []
  kept : ∀ k < (ss.filterMap Setting.asLineChip).length, k < c.linesCount →
    (ss.filterMap Setting.asLineChip)[k]? = c.linesChip.toList[k]?
  behind : ∀ k < (ss.filterMap Setting.asChipName).length,
    (c.chipBehind ss k).map CharBuf.chars = (ss.filterMap Setting.asChipName)[k]?

/-- The condition on the configuration of the caller and the settings of the binding. -/
structure Foresees : Prop where
  linesChip : c.NoChips ss ∨ c.ChipsRepeat ss
  directions : Repeats c.linesCount c.directions.toList (ss.filterMap Setting.asDirection)
  direction : ss.filterMap Setting.asDirection = [] → c.directions.toList[0]? = some c.direction
  activeLowLines : Repeats c.linesCount c.activeLowLines.toList (ss.filterMap Setting.asActiveLow)
  activeLow : ss.filterMap Setting.asActiveLow = [] →
    c.activeLowLines.toList[0]? = some c.activeLow

end GpioConfiguration

/-! ## The chips -/

/-- A copy is blank iff the name is. -/
lemma chipCopy_chars_eq_nil {name : CString} : (chipCopy name).chars = [] ↔ name = [] := by
  unfold chipCopy
  rw [safeStringCopy_chars, List.take_eq_nil_iff]
  constructor
  · rintro (hsize | hname)
    · cases hsize
    · exact hname
  · exact Or.inr

/-- Buffers are told apart by their strings. -/
lemma map_chars_inj {a b : Option (CharBuf configKeyLength)} :
    a.map CharBuf.chars = b.map CharBuf.chars ↔ a = b :=
  (Option.map_injective fun _ _ => CharBuf.ext).eq_iff

section chips

variable {c : GpioConfiguration} {ss : List Setting} {m : ℕ}

/-- The chips after the loop: those of the binding laid over those of the caller, and behind these
the ones that the lines of the binding have found. -/
structure GpioConfiguration.Laid (c : GpioConfiguration) (ss : List Setting)
    (filled : Vector (CharBuf configKeyLength) gpioMaxLines) : Prop where
  kept : ∀ j < c.linesCount, filled.toList[j]? =
    if j < (ss.filterMap Setting.asLineChip).length then (ss.filterMap Setting.asLineChip)[j]?
    else c.linesChip.toList[j]?
  behind : ∀ k < (ss.filterMap Setting.asLine).length,
    filled.toList[c.linesCount + k]? = c.chipBehind ss k

/-- The loop leaves them. -/
lemma laid_foldl (halign : Aligned ss m) (hroom : c.linesCount + m ≤ gpioMaxLines) :
    c.Laid ss (ss.foldl decodeSetting (.start c)).configuration.linesChip := by
  have hlines := halign.lines
  have hchips : (ss.filterMap Setting.asLineChip).length = m := by
    rw [Setting.filterMap_asLineChip, List.length_map, halign.linesChip]
  have hfit : (ss.filterMap Setting.asLineChip).length ≤ gpioMaxLines := by omega
  have hfit₀ : (GpioDecoder.start c).chipIndex + (ss.filterMap Setting.asLineChip).length ≤
      gpioMaxLines := by
    show 0 + _ ≤ _
    omega
  have hfit' : (GpioDecoder.start c).lineIndex + (ss.filterMap Setting.asLine).length ≤
      gpioMaxLines := by
    show c.linesCount + _ ≤ _
    omega
  refine ⟨fun j hj => ?_, fun k hk => ?_⟩
  · rw [linesChip_foldl_outside _ _ (Or.inl hj) hfit' hfit₀]
    exact getElem?_writeFrom_zero _ hfit j
  · rw [show c.linesCount = (GpioDecoder.start c).lineIndex from rfl,
      linesChip_foldl_line ss _ hk hfit' hfit₀]
    show Option.map _ (writeFrom c.linesChip 0 _).toList[c.linesCount + k]? = _
    rw [getElem?_writeFrom_zero _ hfit]
    unfold GpioConfiguration.chipBehind
    congr 1
    funext own
    show (if 0 + _ ≤ c.linesCount + k ∧ c.linesCount + k < 0 + _ then own else _) = _
    rw [Nat.zero_add, Nat.zero_add]
    rfl

/-- The chips as the fallback leaves them: the common one everywhere when the first one is blank. -/
def withCommon (filled : Vector (CharBuf configKeyLength) gpioMaxLines) (count : ℕ)
    (common : CharBuf configKeyLength) : Vector (CharBuf configKeyLength) gpioMaxLines :=
  haveI := gpioMaxLines_pos
  if filled[0].chars = [] then
    Vector.ofFn fun i => if i < count then chipCopy common.chars else filled.get i
  else filled

/-- The first chip is the binding's first one, else the caller's. -/
lemma first_of_laid {filled : Vector (CharBuf configKeyLength) gpioMaxLines}
    (hlaid : c.Laid ss filled) (hn : 1 ≤ c.linesCount) :
    some filled[0] = if 0 < (ss.filterMap Setting.asLineChip).length then
      (ss.filterMap Setting.asLineChip)[0]? else c.linesChip.toList[0]? := by
  rw [← hlaid.kept 0 (by omega), Vector.getElem?_toList]
  exact (Vector.getElem?_eq_getElem gpioMaxLines_pos).symm

/-- With a blank first chip every line gets the common one. -/
lemma getElem?_withCommon {filled : Vector (CharBuf configKeyLength) gpioMaxLines} {count : ℕ}
    {common : CharBuf configKeyLength} (hblank : filled[0].chars = []) (hcount : count ≤ gpioMaxLines)
    {j : ℕ} (hj : j < count) :
    (withCommon filled count common).toList[j]? = some (chipCopy common.chars) := by
  unfold withCommon
  rw [if_pos hblank, Vector.getElem?_toList, Vector.getElem?_ofFn, dif_pos (by omega), if_pos hj]

/-- The blank first chip is the binding's first one, else the caller's; a copy of the common one that
equals it is blank too. -/
lemma commonChip_eq_nil (hn : 1 ≤ c.linesCount) (halign : Aligned ss m)
    {filled : Vector (CharBuf configKeyLength) gpioMaxLines} (hlaid : c.Laid ss filled)
    (hblank : filled[0].chars = [])
    (hkept : m = 0 → some (chipCopy (commonChip c.chip ss).chars).chars =
      c.linesChip.toList[0]?.map CharBuf.chars)
    (hadded : 0 < m → some (chipCopy (commonChip c.chip ss).chars).chars =
      (ss.filterMap Setting.asChipName)[0]?) : (commonChip c.chip ss).chars = [] := by
  have hfirst := first_of_laid hlaid hn
  rw [Setting.filterMap_asLineChip, List.length_map, halign.linesChip] at hfirst
  rw [← chipCopy_chars_eq_nil]
  rcases Nat.eq_zero_or_pos m with hm | hm
  · have hown := hkept hm
    rw [if_neg (by omega)] at hfirst
    rw [← hfirst, Option.map_some, hblank] at hown
    exact Option.some.inj hown
  · have hown := hadded hm
    rw [if_pos hm, List.getElem?_map, ← hown, Option.map_some] at hfirst
    rw [← chipCopy_chars_eq_nil, ← Option.some.inj hfirst, hblank]

/-- With a blank first chip the lines keep their chips iff no chip is named at all. -/
lemma chips_of_blank (hn : 1 ≤ c.linesCount) (halign : Aligned ss m)
    (hroom : c.linesCount + m ≤ gpioMaxLines)
    {filled : Vector (CharBuf configKeyLength) gpioMaxLines} (hlaid : c.Laid ss filled)
    (hblank : filled[0].chars = []) :
    ((∀ j < c.linesCount, (withCommon filled (c.linesCount + m)
          (commonChip c.chip ss)).toList[j]?.map CharBuf.chars =
        (c.linesChip.toList[j]?).map CharBuf.chars) ∧
      ∀ k < m, (withCommon filled (c.linesCount + m)
          (commonChip c.chip ss)).toList[c.linesCount + k]?.map CharBuf.chars =
        (ss.filterMap Setting.asChipName)[k]?) ↔ c.NoChips ss := by
  have hnames := halign.linesChip
  have hcell : ∀ j < c.linesCount + m, (withCommon filled (c.linesCount + m)
      (commonChip c.chip ss)).toList[j]?.map CharBuf.chars =
        some (chipCopy (commonChip c.chip ss).chars).chars := by
    intro j hj
    rw [getElem?_withCommon hblank hroom hj, Option.map_some]
  constructor
  · rintro ⟨hkept, hadded⟩
    have hcommon : (commonChip c.chip ss).chars = [] :=
      commonChip_eq_nil hn halign hlaid hblank
        (fun _ => (hcell 0 (by omega)).symm.trans (hkept 0 (by omega)))
        (fun hm => (hcell _ (by omega)).symm.trans (hadded 0 hm))
    have hnone : (chipCopy (commonChip c.chip ss).chars).chars = [] :=
      chipCopy_chars_eq_nil.mpr hcommon
    refine ⟨hcommon, fun chip hchip => ?_, fun name hname => ?_⟩
    · obtain ⟨j, hj⟩ := List.mem_iff_getElem?.mp hchip
      rw [List.getElem?_take] at hj
      split_ifs at hj with hlt
      have hown := hkept j hlt
      rw [hcell j (by omega), hj, Option.map_some, hnone] at hown
      exact (Option.some.inj hown).symm
    · obtain ⟨k, hk⟩ := List.mem_iff_getElem?.mp hname
      have hlt : k < m := by
        rw [← hnames]
        exact (List.getElem?_eq_some_iff.mp hk).1
      have hown := hadded k hlt
      rw [hcell _ (by omega), hk, hnone] at hown
      exact (Option.some.inj hown).symm
  · intro h
    have hnone : (chipCopy (commonChip c.chip ss).chars).chars = [] :=
      chipCopy_chars_eq_nil.mpr h.common
    refine ⟨fun j hj => ?_, fun k hk => ?_⟩
    · have hlt : j < c.linesChip.toList.length := by
        rw [Vector.length_toList]
        omega
      rw [hcell j (by omega), hnone, List.getElem?_eq_getElem hlt, Option.map_some,
        h.kept _ (List.mem_take_iff_getElem.mpr ⟨j, by omega, rfl⟩)]
    · have hlt : k < (ss.filterMap Setting.asChipName).length := by omega
      rw [hcell _ (by omega), hnone, List.getElem?_eq_getElem hlt, h.names _ (List.getElem_mem hlt)]

/-- Otherwise the chips stay as the loop leaves them. -/
lemma chips_of_not_blank (hn : 1 ≤ c.linesCount) (halign : Aligned ss m)
    {filled : Vector (CharBuf configKeyLength) gpioMaxLines} (hlaid : c.Laid ss filled)
    (hblank : filled[0].chars ≠ []) :
    ((∀ j < c.linesCount, filled.toList[j]?.map CharBuf.chars =
        (c.linesChip.toList[j]?).map CharBuf.chars) ∧
      ∀ k < m, filled.toList[c.linesCount + k]?.map CharBuf.chars =
        (ss.filterMap Setting.asChipName)[k]?) ↔ c.ChipsRepeat ss := by
  have hnames := halign.linesChip
  have hlines := halign.lines
  have hfirst := first_of_laid hlaid hn
  constructor
  · rintro ⟨hkept, hadded⟩
    have hsame : ∀ j < c.linesCount, filled.toList[j]? = c.linesChip.toList[j]? :=
      fun j hj => map_chars_inj.mp (hkept j hj)
    refine ⟨?_, fun k hk hlt => ?_, fun k hk => ?_⟩
    · rw [← hlaid.kept 0 (by omega), hsame 0 (by omega)] at hfirst
      rw [← hfirst, Option.map_some]
      exact fun hnone => hblank (Option.some.inj hnone)
    · rw [← hsame k hlt, hlaid.kept k hlt, if_pos hk]
    · rw [← hlaid.behind k (by omega), hadded k (by omega)]
  · intro h
    refine ⟨fun j hj => ?_, fun k hk => ?_⟩
    · rw [hlaid.kept j hj]
      split_ifs with hlt
      · rw [h.kept j hlt hj]
      · rfl
    · rw [hlaid.behind k (by omega), h.behind k (by omega)]

/-- **The chips.** They are kept and appended iff none is named at all, or the first one is and they
repeat. -/
lemma chips_iff (hn : 1 ≤ c.linesCount) (halign : Aligned ss m)
    (hroom : c.linesCount + m ≤ gpioMaxLines)
    {filled : Vector (CharBuf configKeyLength) gpioMaxLines} (hlaid : c.Laid ss filled) :
    ((withCommon filled (c.linesCount + m) (commonChip c.chip ss)).toList.map CharBuf.chars).take
        (c.linesCount + m) =
      (c.linesChip.toList.map CharBuf.chars).take c.linesCount ++
        ss.filterMap Setting.asChipName ↔ c.NoChips ss ∨ c.ChipsRepeat ss := by
  have hnames := halign.linesChip
  have hfirst := first_of_laid hlaid hn
  have hlen : c.linesCount ≤ (c.linesChip.toList.map CharBuf.chars).length := by
    rw [List.length_map, Vector.length_toList]
    omega
  conv_lhs => rw [← hnames, take_eq_take_append_iff hlen]
  simp only [List.getElem?_map, hnames]
  rcases Decidable.em (filled[0].chars = []) with hblank | hblank
  · rw [chips_of_blank hn halign hroom hlaid hblank]
    constructor
    · exact Or.inl
    · rintro (hnone | hrepeat)
      · exact hnone
      · -- the chips of the caller come first
        exfalso
        apply hrepeat.first
        have hown : c.linesChip.toList[0]? = some filled[0] := by
          rw [hfirst]
          split_ifs with hpos
          · exact (hrepeat.kept 0 hpos (by omega)).symm
          · rfl
        rw [hown, Option.map_some, hblank]
  · have hsame : withCommon filled (c.linesCount + m) (commonChip c.chip ss) = filled :=
      if_neg hblank
    rw [hsame, chips_of_not_blank hn halign hlaid hblank]
    constructor
    · exact Or.inr
    · rintro (hnone | hrepeat)
      · exfalso
        apply hblank
        rw [Setting.filterMap_asLineChip, List.length_map] at hfirst
        split_ifs at hfirst with hpos
        · rw [List.getElem?_map, List.getElem?_eq_getElem hpos, Option.map_some] at hfirst
          rw [Option.some.inj hfirst, chipCopy_chars_eq_nil]
          exact hnone.names _ (List.getElem_mem hpos)
        · apply hnone.kept
          rw [List.mem_iff_getElem?]
          exact ⟨0, by rw [List.getElem?_take, if_pos (by omega), hfirst]⟩
      · exact hrepeat

end chips

/-! ## The four arrays -/

/-- What decoding aligned settings makes of a configuration with lines. -/
structure GpioConfiguration.Decoded (c new : GpioConfiguration) (ss : List Setting) (m : ℕ) :
    Prop where
  lines : new.lines = writeFrom c.lines c.linesCount (ss.filterMap Setting.asLine)
  linesChip : new.linesChip =
    withCommon (ss.foldl decodeSetting (.start c)).configuration.linesChip (c.linesCount + m)
      (commonChip c.chip ss)
  directions : new.directions = if (ss.filterMap Setting.asDirection).length = 0 then
      (writeFrom c.directions 0 (ss.filterMap Setting.asDirection)).set 0 c.direction
    else writeFrom c.directions 0 (ss.filterMap Setting.asDirection)
  activeLowLines : new.activeLowLines = if (ss.filterMap Setting.asActiveLow).length = 0 then
      (writeFrom c.activeLowLines 0 (ss.filterMap Setting.asActiveLow)).set 0 c.activeLow
    else writeFrom c.activeLowLines 0 (ss.filterMap Setting.asActiveLow)

/-- The fallback depends on the common value only where it is used. -/
lemma set_common {α : Type} {size count count' : ℕ} (hpos : 0 < size) {cells cells' : Vector α size}
    {own own' : α} (hcells : cells = cells') (hcount : count = count')
    (hown : count' = 0 → own = own') :
    (if count = 0 then cells.set 0 own hpos else cells) =
      if count' = 0 then cells'.set 0 own' hpos else cells' := by
  subst hcells hcount
  split_ifs with hnone
  · rw [hown hnone]
  · rfl

/-- The loop, the counts and the fallbacks together. -/
lemma decoded_of_aligned {c : GpioConfiguration} {ss : List Setting} {m : ℕ}
    (hn : 1 ≤ c.linesCount) (halign : Aligned ss m) (hroom : c.linesCount + m ≤ gpioMaxLines) :
    c.Decoded (applyDefaults (storeCounts (ss.foldl decodeSetting (.start c)))) ss m := by
  obtain ⟨hlines, hlineIndex⟩ := lines_foldl ss (.start c) (by
    rw [halign.lines]
    exact hroom)
  obtain ⟨hdirections, hdirectionIndex⟩ := directions_foldl ss (.start c) (by
    rw [halign.directions]
    show 0 + m ≤ gpioMaxLines
    omega)
  obtain ⟨hactive, hactiveIndex⟩ := activeLow_foldl ss (.start c) (by
    rw [halign.activeLow]
    show 0 + m ≤ gpioMaxLines
    omega)
  have hchip : (ss.foldl decodeSetting (.start c)).configuration.chip = commonChip c.chip ss :=
    chip_foldl ss (.start c)
  have hdirection := direction_foldl_of_none ss (.start c)
  have hactiveLow := activeLow_foldl_of_none ss (.start c)
  have hcount : (storeCounts (ss.foldl decodeSetting (.start c))).linesCount = c.linesCount + m := by
    show max _ _ = _
    rw [linesCount_foldl, hlineIndex, halign.lines]
    show max c.linesCount (c.linesCount + m) = _
    omega
  obtain ⟨-, hlines', hchips', hdirections', hactive'⟩ :=
    applyDefaults_of_pos (show (storeCounts (ss.foldl decodeSetting (.start c))).linesCount > 0 by
      omega)
  rw [hcount] at hchips'
  refine ⟨hlines'.trans hlines, ?_, ?_, ?_⟩
  · rw [hchips', ← hchip]
    rfl
  · rw [hdirections']
    exact set_common gpioMaxLines_pos hdirections (hdirectionIndex.trans (Nat.zero_add _))
      fun hnone => hdirection (List.length_eq_zero_iff.mp hnone)
  · rw [hactive']
    exact set_common gpioMaxLines_pos hactive (hactiveIndex.trans (Nat.zero_add _))
      fun hnone => hactiveLow (List.length_eq_zero_iff.mp hnone)

/-- **Lines of the caller.** Opening a gpio device whose binding has `m` entries for each array, on
a configuration that holds `n ≥ 1` lines, keeps the entries of the caller and puts those of the
binding behind them exactly when what is laid over the caller's entries repeats them. -/
theorem keepsAndAppends_iff {c : GpioConfiguration} {π η : Type} {dm : DeviceManager}
    (plugins : CString → Option π) (halOpen : π → Option η) {deviceName : CString} {device : Device}
    (hdevice : dm.getDeviceByName deviceName = some device) {plugin : π}
    (hplugin : plugins device.binding.plugin.chars = some plugin) {m : ℕ}
    (hn : 1 ≤ c.linesCount)
    (halign : Aligned (device.binding.configuration.items.map readSetting) m)
    (hroom : c.linesCount + m ≤ gpioMaxLines) :
    c.KeepsAndAppends (device.binding.configuration.items.map readSetting)
        (validationRuntimeOpenGpio dm plugins halOpen deviceName c).2 m ↔
      c.Foresees (device.binding.configuration.items.map readSetting) := by
  have hopen : (validationRuntimeOpenGpio dm plugins halOpen deviceName c).2 =
      decodeGpio device.binding.configuration.items c := by
    unfold validationRuntimeOpenGpio
    rw [hdevice]
    simp only
    rw [hplugin]
  rw [hopen, decodeGpio]
  generalize device.binding.configuration.items.map readSetting = ss at halign ⊢
  have hdecoded := decoded_of_aligned hn halign hroom
  generalize applyDefaults _ = new at hdecoded ⊢
  have hlines : new.lines.toList.take (c.linesCount + m) =
      c.lines.toList.take c.linesCount ++ ss.filterMap Setting.asLine := by
    rw [hdecoded.lines, toList_writeFrom _ (by rw [halign.lines]; exact hroom), ← halign.lines]
    exact List.take_left' (by simp; omega)
  have hchips := chips_iff hn halign hroom (laid_foldl halign hroom)
  rw [← hdecoded.linesChip] at hchips
  have hdirections := laid_iff (l := ss.filterMap Setting.asDirection) hn c.directions c.direction
    (by rw [halign.directions]; exact hroom) gpioMaxLines_pos
  rw [← hdecoded.directions, halign.directions] at hdirections
  have hactive := laid_iff (l := ss.filterMap Setting.asActiveLow) hn c.activeLowLines c.activeLow
    (by rw [halign.activeLow]; exact hroom) gpioMaxLines_pos
  rw [← hdecoded.activeLowLines, halign.activeLow] at hactive
  constructor
  · intro h
    obtain ⟨hrepeats, hfirst⟩ := hdirections.mp h.directions
    obtain ⟨hrepeats', hfirst'⟩ := hactive.mp h.activeLowLines
    exact ⟨hchips.mp h.linesChip, hrepeats, hfirst, hrepeats', hfirst'⟩
  · intro h
    exact ⟨hlines, hchips.mpr h.linesChip, hdirections.mpr ⟨h.directions, h.direction⟩,
      hactive.mpr ⟨h.activeLowLines, h.activeLow⟩⟩

/-! ## Two callers -/

/-- The settings of a binding with one output line, on a chip of its own, active low. -/
def ledSettings : List Setting :=
  (ledDevice (GpioArrays.uniform 1 true).object).binding.configuration.items.map readSetting

/-- It has one entry for each array. -/
lemma aligned_ledSettings : Aligned ledSettings 1 where
  lines := by decide +kernel
  linesChip := by decide +kernel
  directions := by decide +kernel
  activeLow := by decide +kernel

/-- A caller with line 5 whose arrays hold the given values in all cells. -/
def callerOf (chip : CString) (direction : UInt32) (activeLow : UInt8) : GpioConfiguration :=
  { GpioConfiguration.zeroed with
    linesCount := 1
    lines := .replicate _ 5
    linesChip := .replicate _ (chipCopy chip)
    directions := .replicate _ direction
    activeLowLines := .replicate _ activeLow }

/-- The configuration after opening that device for a caller. -/
def openedFor (c : GpioConfiguration) : GpioConfiguration :=
  (validationRuntimeOpenGpio (ledManager (GpioArrays.uniform 1 true).object) gpioPlugins some
    (cstr "led") c).2

/-- A caller whose line is like that of the binding sees its line kept and the other one behind. -/
theorem keepsAndAppends_iff_alike :
    (callerOf (cstr "gpiochip1") 1 1).KeepsAndAppends ledSettings
      (openedFor (callerOf (cstr "gpiochip1") 1 1)) 1 := by
  refine (keepsAndAppends_iff (c := callerOf (cstr "gpiochip1") 1 1) gpioPlugins some
    (getDeviceByName_ledManager _) rfl (by decide) aligned_ledSettings (by decide)).mpr ?_
  refine ⟨Or.inr ⟨?_, ?_, ?_⟩, ⟨?_, ?_⟩, ?_, ⟨?_, ?_⟩, ?_⟩
  all_goals decide +kernel

/-- The input line of another caller becomes an output on the wrong chip. -/
theorem openedFor_input_overwritten :
    Aligned ledSettings 1 ∧ ¬ (callerOf (cstr "gpiochip2") 0 0).KeepsAndAppends ledSettings
      (openedFor (callerOf (cstr "gpiochip2") 0 0)) 1 := by
  refine ⟨aligned_ledSettings, fun h => ?_⟩
  have hlost := h.directions
  revert hlost
  decide +kernel

end HardwareTest
