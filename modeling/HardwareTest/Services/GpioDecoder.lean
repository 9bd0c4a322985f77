import HardwareTest.Services.ValidationRuntime

/-!
# The cursors of the gpio decoder

The loop of `validation_runtime_open_gpio` walks one mixed parameter list with a cursor for each
key. Each array is what its own settings write, from the value its cursor starts with
(`lines_foldl`, `directions_foldl`, `activeLow_foldl`).

The chips of the lines are written by two cursors: a `line_chip` writes the cell of its own cursor,
and a `line` puts the common chip into its cell when that is blank. Outside the cells of the lines
only the first one counts (`linesChip_foldl_outside`), and for the cell of a line the list is cut at
the line (`linesChip_foldl_line`).
-/

namespace HardwareTest

open Lib

/-- The chip of a line as the decoder copies it. -/
def chipCopy (name : CString) : CharBuf configKeyLength := safeStringCopy name (configKeyLength - 1)

namespace Setting

/-- What a setting offers as the common chip. -/
def asChip : Setting → Option CString
  | .chip name => some name
  | _ => none

/-- What a setting writes to `lines`. -/
def asLine : Setting → Option UInt32
  | .line offset => some offset
  | _ => none

/-- What a setting writes to `lines_chip` by the chip cursor. -/
def asLineChip : Setting → Option (CharBuf configKeyLength)
  | .lineChip name => some (chipCopy name)
  | _ => none

/-- What a setting writes to `directions`. -/
def asDirection : Setting → Option UInt32
  | .direction value => some value
  | _ => none

/-- What a setting writes to `active_low_lines`. -/
def asActiveLow : Setting → Option UInt8
  | .activeLow value => some value.toUInt8
  | _ => none

end Setting

/-- The common chip once the settings have been read: the first name that is not blank. -/
def commonChip (chip : CharBuf configKeyLength) (ss : List Setting) : CharBuf configKeyLength :=
  (ss.filterMap Setting.asChip).foldl
    (fun chip name => if chip.chars = [] then chipCopy name else chip) chip

/-- The chip that a line leaves in its cell: the common one, when the cell is blank. -/
def fallbackChip (own common : CharBuf configKeyLength) : CharBuf configKeyLength :=
  if own.chars = [] then chipCopy common.chars else own

/-- The settings before the `k`-th line. -/
def beforeLine : ℕ → List Setting → List Setting
  | _, [] => []
  | 0, s :: ss => if s.asLine.isSome then [] else s :: beforeLine 0 ss
  | k + 1, s :: ss => s :: beforeLine (if s.asLine.isSome then k else k + 1) ss

/-- A list is cut at its `k`-th line. -/
lemma exists_beforeLine {ss : List Setting} {k : ℕ} (h : k < (ss.filterMap Setting.asLine).length) :
    ∃ s offset after, s.asLine = some offset ∧ ss = beforeLine k ss ++ s :: after ∧
      ((beforeLine k ss).filterMap Setting.asLine).length = k := by
  induction ss generalizing k with
  | nil => simp at h
  | cons s ss ih =>
      rcases hs : s.asLine with _ | offset
      · rw [List.filterMap_cons_none hs] at h
        obtain ⟨s', offset, after, hs', hsplit, hlen⟩ := ih h
        have hcut : beforeLine k (s :: ss) = s :: beforeLine k ss := by
          rcases k with _ | k
          · rw [beforeLine, hs]
            rfl
          · rw [beforeLine, hs]
            rfl
        refine ⟨s', offset, after, hs', ?_, ?_⟩
        · rw [hcut, List.cons_append, ← hsplit]
        · rw [hcut, List.filterMap_cons_none hs, hlen]
      · rw [List.filterMap_cons_some hs, List.length_cons] at h
        rcases k with _ | k
        · refine ⟨s, offset, ss, hs, ?_, ?_⟩
          · rw [beforeLine, hs]
            rfl
          · rw [beforeLine, hs]
            rfl
        · obtain ⟨s', offset', after, hs', hsplit, hlen⟩ := ih (k := k) (by omega)
          have hcut : beforeLine (k + 1) (s :: ss) = s :: beforeLine k ss := by
            rw [beforeLine, hs]
            rfl
          refine ⟨s', offset', after, hs', ?_, ?_⟩
          · rw [hcut, List.cons_append, ← hsplit]
          · rw [hcut, List.filterMap_cons_some hs, List.length_cons, hlen]

/-! ## One setting -/

/-- What a setting leaves alone. -/
structure Setting.Frame (s : Setting) (st st' : GpioDecoder) : Prop where
  linesCount : st'.configuration.linesCount = st.configuration.linesCount
  chip : s.asChip = none → st'.configuration.chip = st.configuration.chip
  lines : s.asLine = none → st'.configuration.lines = st.configuration.lines ∧
    st'.lineIndex = st.lineIndex
  linesChip : s.asLine = none → s.asLineChip = none →
    st'.configuration.linesChip = st.configuration.linesChip
  chipIndex : s.asLineChip = none → st'.chipIndex = st.chipIndex
  directions : s.asDirection = none →
    st'.configuration.directions = st.configuration.directions ∧
      st'.directionIndex = st.directionIndex
  direction : s.asDirection = none → st'.configuration.direction = st.configuration.direction
  activeLowLines : s.asActiveLow = none →
    st'.configuration.activeLowLines = st.configuration.activeLowLines ∧
      st'.activeLowIndex = st.activeLowIndex
  activeLow : s.asActiveLow = none → st'.configuration.activeLow = st.configuration.activeLow

/-- A step that does nothing. -/
lemma Setting.Frame.refl (s : Setting) (st : GpioDecoder) : s.Frame st st :=
  ⟨rfl, fun _ => rfl, fun _ => ⟨rfl, rfl⟩, fun _ _ => rfl, fun _ => rfl, fun _ => ⟨rfl, rfl⟩,
    fun _ => rfl, fun _ => ⟨rfl, rfl⟩, fun _ => rfl⟩

/-- What follows from a value that is given and is not. -/
lemma of_some_eq_none {α : Type} {a : α} {p : Prop} (h : some a = none) : p :=
  (Option.some_ne_none a h).elim

/-- A setting changes only what goes with its key. -/
lemma frame_decodeSetting (st : GpioDecoder) (s : Setting) : s.Frame st (decodeSetting st s) := by
  rcases s with name | offset | name | value | value | _
  · rw [decodeSetting]
    split_ifs
    · exact ⟨rfl, of_some_eq_none, fun _ => ⟨rfl, rfl⟩, fun _ _ => rfl, fun _ => rfl,
        fun _ => ⟨rfl, rfl⟩, fun _ => rfl, fun _ => ⟨rfl, rfl⟩, fun _ => rfl⟩
    · exact .refl _ st
  · rw [decodeSetting]
    by_cases hroom : st.lineIndex < gpioMaxLines
    · rw [dif_pos hroom]
      exact ⟨rfl, fun _ => rfl, of_some_eq_none, of_some_eq_none, fun _ => rfl, fun _ => ⟨rfl, rfl⟩,
        fun _ => rfl, fun _ => ⟨rfl, rfl⟩, fun _ => rfl⟩
    · rw [dif_neg hroom]
      exact .refl _ st
  · rw [decodeSetting]
    by_cases hroom : st.chipIndex < gpioMaxLines
    · rw [dif_pos hroom]
      exact ⟨rfl, fun _ => rfl, fun _ => ⟨rfl, rfl⟩, fun _ => of_some_eq_none, of_some_eq_none,
        fun _ => ⟨rfl, rfl⟩, fun _ => rfl, fun _ => ⟨rfl, rfl⟩, fun _ => rfl⟩
    · rw [dif_neg hroom]
      exact .refl _ st
  · rw [decodeSetting]
    by_cases hroom : st.directionIndex < gpioMaxLines
    · rw [dif_pos hroom]
      exact ⟨rfl, fun _ => rfl, fun _ => ⟨rfl, rfl⟩, fun _ _ => rfl, fun _ => rfl, of_some_eq_none,
        of_some_eq_none, fun _ => ⟨rfl, rfl⟩, fun _ => rfl⟩
    · rw [dif_neg hroom]
      exact .refl _ st
  · rw [decodeSetting]
    by_cases hroom : st.activeLowIndex < gpioMaxLines
    · rw [dif_pos hroom]
      exact ⟨rfl, fun _ => rfl, fun _ => ⟨rfl, rfl⟩, fun _ _ => rfl, fun _ => rfl,
        fun _ => ⟨rfl, rfl⟩, fun _ => rfl, of_some_eq_none, of_some_eq_none⟩
    · rw [dif_neg hroom]
      exact .refl _ st
  · exact .refl _ st

/-- A `line_chip` inside the array. -/
lemma lineChip_decodeSetting {st : GpioDecoder} (h : st.chipIndex < gpioMaxLines) {s : Setting}
    {chip : CharBuf configKeyLength} (hs : s.asLineChip = some chip) :
    (decodeSetting st s).chipIndex = st.chipIndex + 1 ∧
      (decodeSetting st s).configuration.linesChip =
        st.configuration.linesChip.setIfInBounds st.chipIndex chip := by
  rcases s with _ | _ | name | _ | _ | _
  case lineChip =>
    cases hs
    rw [decodeSetting, dif_pos h]
    exact ⟨rfl, FixedTable.set_eq_setIfInBounds _ h _⟩
  all_goals cases hs

/-- A `line` inside the array: a blank chip in its cell is replaced by the common one. -/
lemma line_decodeSetting {st : GpioDecoder} (h : st.lineIndex < gpioMaxLines) {s : Setting}
    {offset : UInt32} (hs : s.asLine = some offset) :
    s.asLineChip = none ∧ (decodeSetting st s).lineIndex = st.lineIndex + 1 ∧
      (decodeSetting st s).configuration.linesChip.toList =
        st.configuration.linesChip.toList.modify st.lineIndex
          (fallbackChip · st.configuration.chip) := by
  rcases s with _ | offset' | _ | _ | _ | _
  case line =>
    have hcell : st.configuration.linesChip.toList[st.lineIndex]? =
        some st.configuration.linesChip[st.lineIndex] := by
      rw [Vector.getElem?_toList]
      exact Vector.getElem?_eq_getElem h
    rw [decodeSetting, dif_pos h, List.modify_eq_set_getElem?, hcell]
    refine ⟨rfl, rfl, ?_⟩
    simp only [Option.map_eq_map, Option.map_some, Option.getD_some]
    unfold fallbackChip
    split_ifs with hcopied hblank hblank
    · rw [Vector.toList_set]
      rfl
    · exact absurd hcopied.1 hblank
    · -- the common chip is blank too
      have hcommon : st.configuration.chip.chars = [] := by
        by_contra hchip
        exact hcopied ⟨hblank, hchip⟩
      have hsame : chipCopy st.configuration.chip.chars =
          st.configuration.linesChip[st.lineIndex] := by
        apply CharBuf.ext
        rw [hblank, hcommon]
        rfl
      rw [hsame, ← Vector.toList_set h, Vector.set_getElem_self]
    · rw [← Vector.toList_set h, Vector.set_getElem_self]
  all_goals cases hs

/-! ## The cursors -/

section cursors

variable (ss : List Setting) (st : GpioDecoder)

/-- The lines. -/
lemma lines_foldl (h : st.lineIndex + (ss.filterMap Setting.asLine).length ≤ gpioMaxLines) :
    (ss.foldl decodeSetting st).configuration.lines =
        FixedTable.writeFrom st.configuration.lines st.lineIndex (ss.filterMap Setting.asLine) ∧
      (ss.foldl decodeSetting st).lineIndex =
        st.lineIndex + (ss.filterMap Setting.asLine).length := by
  refine FixedTable.foldl_writeFrom (fun st => st.configuration.lines) GpioDecoder.lineIndex
    Setting.asLine (fun st s _ a ha hroom => ?_)
    (fun st s _ hnone => (frame_decodeSetting st s).lines hnone) h
  rcases s with _ | offset | _ | _ | _ | _
  case line =>
    cases ha
    rw [decodeSetting, dif_pos hroom]
    exact ⟨FixedTable.set_eq_setIfInBounds _ hroom _, rfl⟩
  all_goals cases ha

/-- The directions. -/
lemma directions_foldl
    (h : st.directionIndex + (ss.filterMap Setting.asDirection).length ≤ gpioMaxLines) :
    (ss.foldl decodeSetting st).configuration.directions =
        FixedTable.writeFrom st.configuration.directions st.directionIndex
          (ss.filterMap Setting.asDirection) ∧
      (ss.foldl decodeSetting st).directionIndex =
        st.directionIndex + (ss.filterMap Setting.asDirection).length := by
  refine FixedTable.foldl_writeFrom (fun st => st.configuration.directions)
    GpioDecoder.directionIndex Setting.asDirection (fun st s _ a ha hroom => ?_)
    (fun st s _ hnone => (frame_decodeSetting st s).directions hnone) h
  rcases s with _ | _ | _ | value | _ | _
  case direction =>
    cases ha
    rw [decodeSetting, dif_pos hroom]
    exact ⟨FixedTable.set_eq_setIfInBounds _ hroom _, rfl⟩
  all_goals cases ha

/-- The polarities. -/
lemma activeLow_foldl
    (h : st.activeLowIndex + (ss.filterMap Setting.asActiveLow).length ≤ gpioMaxLines) :
    (ss.foldl decodeSetting st).configuration.activeLowLines =
        FixedTable.writeFrom st.configuration.activeLowLines st.activeLowIndex
          (ss.filterMap Setting.asActiveLow) ∧
      (ss.foldl decodeSetting st).activeLowIndex =
        st.activeLowIndex + (ss.filterMap Setting.asActiveLow).length := by
  refine FixedTable.foldl_writeFrom (fun st => st.configuration.activeLowLines)
    GpioDecoder.activeLowIndex Setting.asActiveLow (fun st s _ a ha hroom => ?_)
    (fun st s _ hnone => (frame_decodeSetting st s).activeLowLines hnone) h
  rcases s with _ | _ | _ | _ | value | _
  case activeLow =>
    cases ha
    rw [decodeSetting, dif_pos hroom]
    exact ⟨FixedTable.set_eq_setIfInBounds _ hroom _, rfl⟩
  all_goals cases ha

/-- The chips of the lines, when no line is among the settings. -/
lemma linesChip_foldl_of_no_line (hnone : ss.filterMap Setting.asLine = [])
    (h : st.chipIndex + (ss.filterMap Setting.asLineChip).length ≤ gpioMaxLines) :
    (ss.foldl decodeSetting st).configuration.linesChip =
      FixedTable.writeFrom st.configuration.linesChip st.chipIndex
        (ss.filterMap Setting.asLineChip) := by
  rw [List.filterMap_eq_nil_iff] at hnone
  refine (FixedTable.foldl_writeFrom (fun st => st.configuration.linesChip)
    GpioDecoder.chipIndex Setting.asLineChip (fun st s _ a ha hroom => ?_)
    (fun st s hs hskip => ?_) h).1
  · rcases s with _ | _ | name | _ | _ | _
    case lineChip =>
      cases ha
      rw [decodeSetting, dif_pos hroom]
      exact ⟨FixedTable.set_eq_setIfInBounds _ hroom _, rfl⟩
    all_goals cases ha
  · have hframe := frame_decodeSetting st s
    exact ⟨hframe.linesChip (hnone s hs) hskip, hframe.chipIndex hskip⟩

/-- The chip cursor. -/
lemma chipIndex_foldl
    (h : st.chipIndex + (ss.filterMap Setting.asLineChip).length ≤ gpioMaxLines) :
    (ss.foldl decodeSetting st).chipIndex =
      st.chipIndex + (ss.filterMap Setting.asLineChip).length := by
  induction ss generalizing st with
  | nil => rfl
  | cons s ss ih =>
      rw [List.foldl_cons]
      rcases hs : s.asLineChip with _ | chip
      · have hindex := (frame_decodeSetting st s).chipIndex hs
        rw [List.filterMap_cons_none hs] at h ⊢
        rw [ih _ (by omega), hindex]
      · rw [List.filterMap_cons_some hs, List.length_cons] at h ⊢
        obtain ⟨hindex, -⟩ := lineChip_decodeSetting (show st.chipIndex < gpioMaxLines by omega) hs
        rw [ih _ (by omega), hindex]
        omega

/-- The common chip. -/
lemma chip_foldl :
    (ss.foldl decodeSetting st).configuration.chip = commonChip st.configuration.chip ss := by
  induction ss generalizing st with
  | nil => rfl
  | cons s ss ih =>
      unfold commonChip at ih ⊢
      rw [List.foldl_cons, ih]
      rcases hs : s.asChip with _ | name
      · rw [(frame_decodeSetting st s).chip hs, List.filterMap_cons_none hs]
      · rw [List.filterMap_cons_some hs, List.foldl_cons]
        congr 1
        rcases s with name' | _ | _ | _ | _ | _
        case chip =>
          cases hs
          rw [decodeSetting]
          split_ifs
          · rfl
          · rfl
        all_goals cases hs

/-- The common direction without a direction among the settings. -/
lemma direction_foldl_of_none (hnone : ss.filterMap Setting.asDirection = []) :
    (ss.foldl decodeSetting st).configuration.direction = st.configuration.direction := by
  rw [List.filterMap_eq_nil_iff] at hnone
  induction ss generalizing st with
  | nil => rfl
  | cons s ss ih =>
      rw [List.foldl_cons, ih _ fun s hs => hnone s (List.mem_cons_of_mem _ hs)]
      exact (frame_decodeSetting st s).direction (hnone s List.mem_cons_self)

/-- The common polarity without a polarity among the settings. -/
lemma activeLow_foldl_of_none (hnone : ss.filterMap Setting.asActiveLow = []) :
    (ss.foldl decodeSetting st).configuration.activeLow = st.configuration.activeLow := by
  rw [List.filterMap_eq_nil_iff] at hnone
  induction ss generalizing st with
  | nil => rfl
  | cons s ss ih =>
      rw [List.foldl_cons, ih _ fun s hs => hnone s (List.mem_cons_of_mem _ hs)]
      exact (frame_decodeSetting st s).activeLow (hnone s List.mem_cons_self)

/-- The count of lines is stored after the loop. -/
lemma linesCount_foldl :
    (ss.foldl decodeSetting st).configuration.linesCount = st.configuration.linesCount := by
  induction ss generalizing st with
  | nil => rfl
  | cons s ss ih =>
      rw [List.foldl_cons, ih]
      exact (frame_decodeSetting st s).linesCount

/-- **Outside the cells of the lines** a chip is the one that the chip cursor writes, else the old
one. -/
lemma linesChip_foldl_outside {j : ℕ}
    (hj : j < st.lineIndex ∨ st.lineIndex + (ss.filterMap Setting.asLine).length ≤ j)
    (hlines : st.lineIndex + (ss.filterMap Setting.asLine).length ≤ gpioMaxLines)
    (hchips : st.chipIndex + (ss.filterMap Setting.asLineChip).length ≤ gpioMaxLines) :
    (ss.foldl decodeSetting st).configuration.linesChip.toList[j]? =
      (FixedTable.writeFrom st.configuration.linesChip st.chipIndex
        (ss.filterMap Setting.asLineChip)).toList[j]? := by
  induction ss generalizing st with
  | nil => rfl
  | cons s ss ih =>
      rw [List.foldl_cons]
      have hframe := frame_decodeSetting st s
      rcases hline : s.asLine with _ | offset
      · rw [List.filterMap_cons_none hline] at hlines hj
        obtain ⟨-, hindex⟩ := hframe.lines hline
        rcases hchip : s.asLineChip with _ | chip
        · -- neither cursor moves
          rw [List.filterMap_cons_none hchip] at hchips ⊢
          have hcursor := hframe.chipIndex hchip
          rw [ih _ (by omega) (by omega) (by omega), hcursor, hframe.linesChip hline hchip]
        · rw [List.filterMap_cons_some hchip] at hchips ⊢
          rw [List.length_cons] at hchips
          have hroom : st.chipIndex < gpioMaxLines := by omega
          obtain ⟨hcells, hcursor⟩ := lineChip_decodeSetting hroom hchip
          rw [ih _ (by omega) (by omega) (by omega), hcursor, hcells]
          rfl
      · -- the cell of this line is another one
        rw [List.filterMap_cons_some hline, List.length_cons] at hlines hj
        obtain ⟨hchip, hindex, hcells⟩ :=
          line_decodeSetting (show st.lineIndex < gpioMaxLines by omega) hline
        have hcursor := hframe.chipIndex hchip
        rw [List.filterMap_cons_none hchip] at hchips ⊢
        rw [ih _ (by omega) (by omega) (by omega), hcursor,
          FixedTable.getElem?_writeFrom _ hchips, FixedTable.getElem?_writeFrom _ hchips, hcells,
          List.getElem?_modify_ne _ _ (show st.lineIndex ≠ j by omega)]

/-- **The cell of a line** has the chip that the chip cursor writes. If the cursor has not come
there after the line, the common chip known at the line stands in for a blank one. -/
lemma linesChip_foldl_line {k : ℕ} (hk : k < (ss.filterMap Setting.asLine).length)
    (hlines : st.lineIndex + (ss.filterMap Setting.asLine).length ≤ gpioMaxLines)
    (hchips : st.chipIndex + (ss.filterMap Setting.asLineChip).length ≤ gpioMaxLines) :
    (ss.foldl decodeSetting st).configuration.linesChip.toList[st.lineIndex + k]? =
      ((FixedTable.writeFrom st.configuration.linesChip st.chipIndex
        (ss.filterMap Setting.asLineChip)).toList[st.lineIndex + k]?).map fun own =>
          if st.chipIndex + ((beforeLine k ss).filterMap Setting.asLineChip).length ≤
                st.lineIndex + k ∧
              st.lineIndex + k < st.chipIndex + (ss.filterMap Setting.asLineChip).length then own
          else fallbackChip own (commonChip st.configuration.chip (beforeLine k ss)) := by
  obtain ⟨s, offset, after, hs, hsplit, hlen⟩ := exists_beforeLine hk
  generalize beforeLine k ss = before at hsplit hlen ⊢
  subst hsplit
  generalize hj : st.lineIndex + k = j
  rw [List.filterMap_append, List.length_append, List.filterMap_cons_some hs, List.length_cons]
    at hlines
  -- up to the line, the line itself, and the settings behind it
  obtain ⟨-, hindex⟩ := lines_foldl before st (by omega)
  have hroom : (before.foldl decodeSetting st).lineIndex < gpioMaxLines := by omega
  obtain ⟨hpick, hindex', hcells⟩ := line_decodeSetting hroom hs
  have hcursor' := (frame_decodeSetting (before.foldl decodeSetting st) s).chipIndex hpick
  rw [List.filterMap_append, List.filterMap_cons_none hpick] at hchips ⊢
  rw [List.length_append] at hchips ⊢
  have hcursor := chipIndex_foldl before st (by omega)
  have hbefore := linesChip_foldl_outside before st
    (show _ ∨ st.lineIndex + (before.filterMap Setting.asLine).length ≤ j by omega) (by omega)
    (by omega)
  have hindex'' : j < (decodeSetting (before.foldl decodeSetting st) s).lineIndex := by omega
  rw [List.foldl_append, List.foldl_cons,
    linesChip_foldl_outside _ _ (Or.inl hindex'') (by omega) (by omega),
    FixedTable.getElem?_writeFrom _ (by omega), hcursor', hcursor]
  rw [FixedTable.getElem?_writeFrom _ (by omega)] at hbefore
  rw [FixedTable.getElem?_writeFrom _ (by rw [List.length_append]; omega), List.length_append]
  have hat : (before.foldl decodeSetting st).lineIndex = j := by omega
  rw [hcells, hat, List.getElem?_modify_eq, hbefore, chip_foldl, Option.map_eq_map]
  generalize before.filterMap Setting.asLineChip = early at hchips ⊢
  generalize after.filterMap Setting.asLineChip = late at hchips ⊢
  rcases Decidable.em (st.chipIndex + early.length ≤ j ∧
    j < st.chipIndex + (early.length + late.length)) with hbehind | hbehind
  · -- a later chip is written into the cell
    simp only [if_pos hbehind]
    rw [if_pos (by omega), if_pos (by omega), List.getElem?_append_right (by omega), Option.map_id']
    congr 1
    omega
  · simp only [if_neg hbehind]
    rw [if_neg (by omega)]
    rcases Decidable.em (st.chipIndex ≤ j ∧ j < st.chipIndex + early.length) with hown | hown
    · rw [if_pos hown, if_pos (by omega), List.getElem?_append_left (by omega)]
    · rw [if_neg hown, if_neg (by omega)]

end cursors

/-! ## The fallbacks -/

/-- The fallbacks when there is a line. -/
lemma applyDefaults_eq_of_pos {c : GpioConfiguration} (h : c.linesCount > 0) :
    applyDefaults c = { c with
      line := c.lines[0]
      linesChip := if c.linesChip[0].chars = [] then
        Vector.ofFn fun i => if i < c.linesCount then chipCopy c.chip.chars else c.linesChip.get i
        else c.linesChip
      directionsCount := if c.directionsCount = 0 then 1 else c.directionsCount
      directions :=
        if c.directionsCount = 0 then c.directions.set 0 c.direction else c.directions
      activeLowCount := if c.activeLowCount = 0 then 1 else c.activeLowCount
      activeLowLines :=
        if c.activeLowCount = 0 then c.activeLowLines.set 0 c.activeLow else c.activeLowLines } := by
  have hne : c.linesCount ≠ 0 := Nat.pos_iff_ne_zero.mp h
  rcases Decidable.em (c.linesChip[0].chars = []) with hchip | hchip
  all_goals rcases Decidable.em (c.directionsCount = 0) with hdirection | hdirection
  all_goals rcases Decidable.em (c.activeLowCount = 0) with hactive | hactive
  all_goals simp [applyDefaults, h, hne, hchip, hdirection, hactive, chipCopy]

/-- What the fallbacks leave when there is a line. -/
lemma applyDefaults_of_pos {c : GpioConfiguration} (h : c.linesCount > 0) :
    (applyDefaults c).linesCount = c.linesCount ∧ (applyDefaults c).lines = c.lines ∧
      (applyDefaults c).linesChip = (if c.linesChip[0].chars = [] then
        Vector.ofFn fun i => if i < c.linesCount then chipCopy c.chip.chars else c.linesChip.get i
        else c.linesChip) ∧
      (applyDefaults c).directions =
        (if c.directionsCount = 0 then c.directions.set 0 c.direction else c.directions) ∧
      (applyDefaults c).activeLowLines =
        (if c.activeLowCount = 0 then c.activeLowLines.set 0 c.activeLow else c.activeLowLines) := by
  rw [applyDefaults_eq_of_pos h]
  exact ⟨rfl, rfl, rfl, rfl, rfl⟩

/-- Without a line, a chip makes the single line the first one; without a chip nothing happens. -/
lemma applyDefaults_of_zero {c : GpioConfiguration} (h : c.linesCount = 0) :
    applyDefaults c =
      if c.chip.chars ≠ [] then
        applyDefaults { c with lines := c.lines.set 0 c.line, linesCount := 1 }
      else c := by
  by_cases hchip : c.chip.chars = []
  · rw [if_neg (not_not.mpr hchip)]
    simp [applyDefaults, h, hchip]
  · rw [if_pos hchip]
    simp [applyDefaults, h, hchip]

end HardwareTest
