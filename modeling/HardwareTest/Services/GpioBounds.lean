import HardwareTest.Services.GpioDecoder
import HardwareTest.Lib.Cells

/-!
# The arrays of the gpio decoder

`validation_runtime_open_gpio` writes four arrays of `GPIO_MAX_LINES` cells. Here every access is
one that can fail, written as the source has it; a decoding that returns has stayed inside.

* `gpioDecode`: the loop and the five passes after it, with checked accesses.
* `GpioDecoder.Within`: what the loop keeps, the four cursors and the two legacy fields.
* `gpioDecode_within`: the decoding stays inside, computes what `decodeGpio` says, and ends
  normalised.
-/

namespace HardwareTest

open Lib

/-! ## Checked accesses -/

/-- The loop body. Source: `services/validation-runtime.c`, `validation_runtime_open_gpio` -/
def gpioDecodeSetting (st : GpioDecoder) (setting : Setting) : Option GpioDecoder := do
  let c := st.configuration
  match setting with
  | .chip name =>
      if c.chip.chars = [] then
        return { st with
          configuration := { c with chip := safeStringCopy name (configKeyLength - 1) } }
      else return st
  | .line offset =>
      if st.lineIndex < gpioMaxLines then
        let lines ← storeAt c.lines st.lineIndex offset
        let lineChip ← loadAt c.linesChip st.lineIndex
        let linesChip ←
          if lineChip.chars = [] ∧ c.chip.chars ≠ [] then
            storeAt c.linesChip st.lineIndex (safeStringCopy c.chip.chars (configKeyLength - 1))
          else some c.linesChip
        return { st with
          configuration := { c with lines, linesChip }
          lineIndex := st.lineIndex + 1 }
      else return st
  | .lineChip name =>
      if st.chipIndex < gpioMaxLines then
        let linesChip ← storeAt c.linesChip st.chipIndex
          (safeStringCopy name (configKeyLength - 1))
        return { st with configuration := { c with linesChip }, chipIndex := st.chipIndex + 1 }
      else return st
  | .direction value =>
      if st.directionIndex < gpioMaxLines then
        let directions ← storeAt c.directions st.directionIndex value
        let direction ← if st.directionIndex = 0 then loadAt directions 0 else some c.direction
        return { st with
          configuration := { c with directions, direction }
          directionIndex := st.directionIndex + 1 }
      else return st
  | .activeLow value =>
      if st.activeLowIndex < gpioMaxLines then
        let activeLowLines ← storeAt c.activeLowLines st.activeLowIndex value.toUInt8
        let activeLow ←
          if st.activeLowIndex = 0 then loadAt activeLowLines 0 else some c.activeLow
        return { st with
          configuration := { c with activeLowLines, activeLow }
          activeLowIndex := st.activeLowIndex + 1 }
      else return st
  | .other => return st

/-- The single line and chip stand in for the list of lines.
Source: `services/validation-runtime.c`, `validation_runtime_open_gpio` -/
def defaultLine (c : GpioConfiguration) : Option GpioConfiguration := do
  if c.linesCount = 0 ∧ c.chip.chars ≠ [] then
    let lines ← storeAt c.lines 0 c.line
    return { c with lines, linesCount := 1 }
  else return c

/-- The first line is the single line.
Source: `services/validation-runtime.c`, `validation_runtime_open_gpio` -/
def legacyLine (c : GpioConfiguration) : Option GpioConfiguration := do
  if c.linesCount > 0 then
    let line ← loadAt c.lines 0
    return { c with line }
  else return c

/-- The single chip stands in for the chips of all lines.
Source: `services/validation-runtime.c`, `validation_runtime_open_gpio` -/
def defaultChips (c : GpioConfiguration) : Option GpioConfiguration := do
  if c.linesCount > 0 then
    let firstChip ← loadAt c.linesChip 0
    if firstChip.chars = [] then
      let linesChip ← (List.range c.linesCount).foldlM
        (fun linesChip i =>
          storeAt linesChip i (safeStringCopy c.chip.chars (configKeyLength - 1))) c.linesChip
      return { c with linesChip }
    else return c
  else return c

/-- The single direction stands in for the list of directions.
Source: `services/validation-runtime.c`, `validation_runtime_open_gpio` -/
def defaultDirection (c : GpioConfiguration) : Option GpioConfiguration := do
  if c.directionsCount = 0 ∧ c.linesCount > 0 then
    let directions ← storeAt c.directions 0 c.direction
    return { c with directions, directionsCount := 1 }
  else return c

/-- The single polarity stands in for the list of polarities.
Source: `services/validation-runtime.c`, `validation_runtime_open_gpio` -/
def defaultActiveLow (c : GpioConfiguration) : Option GpioConfiguration := do
  if c.activeLowCount = 0 ∧ c.linesCount > 0 then
    let activeLowLines ← storeAt c.activeLowLines 0 c.activeLow
    return { c with activeLowLines, activeLowCount := 1 }
  else return c

/-- The decoding, `none` when it leaves an array.
Source: `services/validation-runtime.c`, `validation_runtime_open_gpio` -/
def gpioDecode (parameters : List ConfigParameter) (configuration : GpioConfiguration) :
    Option GpioConfiguration := do
  let st ← (parameters.map readSetting).foldlM gpioDecodeSetting (.start configuration)
  let c ← defaultLine (storeCounts st)
  let c ← legacyLine c
  let c ← defaultChips c
  let c ← defaultDirection c
  defaultActiveLow c

/-! ## The loop -/

/-- **The body stays inside**, whatever the cursors are. -/
lemma gpioDecodeSetting_eq (st : GpioDecoder) (setting : Setting) :
    gpioDecodeSetting st setting = some (decodeSetting st setting) := by
  rcases setting with name | offset | name | value | value | _
  · simp only [gpioDecodeSetting, decodeSetting]
    split_ifs <;> rfl
  · simp only [gpioDecodeSetting, decodeSetting]
    by_cases hroom : st.lineIndex < gpioMaxLines
    · rw [if_pos hroom, dif_pos hroom, storeAt_of_lt _ hroom, loadAt_of_lt _ hroom]
      simp only [Option.bind_eq_bind, Option.bind_some]
      split_ifs
      · rw [storeAt_of_lt _ hroom]
        rfl
      · rfl
    · rw [if_neg hroom, dif_neg hroom]
      rfl
  · simp only [gpioDecodeSetting, decodeSetting]
    by_cases hroom : st.chipIndex < gpioMaxLines
    · rw [if_pos hroom, dif_pos hroom, storeAt_of_lt _ hroom]
      rfl
    · rw [if_neg hroom, dif_neg hroom]
      rfl
  · simp only [gpioDecodeSetting, decodeSetting]
    by_cases hroom : st.directionIndex < gpioMaxLines
    · rw [if_pos hroom, dif_pos hroom, storeAt_of_lt _ hroom]
      by_cases hfirst : st.directionIndex = 0
      · simp [hfirst, loadAt]
      · simp [hfirst]
    · rw [if_neg hroom, dif_neg hroom]
      rfl
  · simp only [gpioDecodeSetting, decodeSetting]
    by_cases hroom : st.activeLowIndex < gpioMaxLines
    · rw [if_pos hroom, dif_pos hroom, storeAt_of_lt _ hroom]
      by_cases hfirst : st.activeLowIndex = 0
      · simp [hfirst, loadAt]
      · simp [hfirst]
    · rw [if_neg hroom, dif_neg hroom]
      rfl
  · rfl

/-- **What the loop keeps**: the cursors stay within the arrays, and the legacy fields are the first
entries of their lists. -/
structure GpioDecoder.Within (st : GpioDecoder) : Prop where
  lines : st.configuration.linesCount ≤ gpioMaxLines ∧ st.lineIndex ≤ gpioMaxLines
  directionIndex : st.directionIndex ≤ gpioMaxLines
  activeLowIndex : st.activeLowIndex ≤ gpioMaxLines
  direction : 0 < st.directionIndex → st.configuration.direction = st.configuration.directions[0]
  activeLow : 0 < st.activeLowIndex →
    st.configuration.activeLow = st.configuration.activeLowLines[0]

/-- The cursors start within the arrays. -/
lemma within_start {c : GpioConfiguration} (h : c.linesCount ≤ gpioMaxLines) :
    (GpioDecoder.start c).Within :=
  ⟨⟨h, h⟩, Nat.zero_le _, Nat.zero_le _, nofun, nofun⟩

/-- A setting keeps the cursors within the arrays. -/
lemma within_decodeSetting {st : GpioDecoder} (h : st.Within) (setting : Setting) :
    (decodeSetting st setting).Within := by
  rcases setting with name | offset | name | value | value | _
  · rw [decodeSetting]
    split_ifs
    · exact ⟨h.lines, h.directionIndex, h.activeLowIndex, h.direction, h.activeLow⟩
    · exact h
  · rw [decodeSetting]
    by_cases hroom : st.lineIndex < gpioMaxLines
    · rw [dif_pos hroom]
      exact ⟨⟨h.lines.1, hroom⟩, h.directionIndex, h.activeLowIndex, h.direction, h.activeLow⟩
    · rw [dif_neg hroom]
      exact h
  · rw [decodeSetting]
    by_cases hroom : st.chipIndex < gpioMaxLines
    · rw [dif_pos hroom]
      exact ⟨h.lines, h.directionIndex, h.activeLowIndex, h.direction, h.activeLow⟩
    · rw [dif_neg hroom]
      exact h
  · rw [decodeSetting]
    by_cases hroom : st.directionIndex < gpioMaxLines
    · rw [dif_pos hroom]
      exact ⟨h.lines, hroom, h.activeLowIndex, fun _ => copy_of_set hroom h.direction,
        h.activeLow⟩
    · rw [dif_neg hroom]
      exact h
  · rw [decodeSetting]
    by_cases hroom : st.activeLowIndex < gpioMaxLines
    · rw [dif_pos hroom]
      exact ⟨h.lines, h.directionIndex, hroom, h.direction,
        fun _ => copy_of_set hroom h.activeLow⟩
    · rw [dif_neg hroom]
      exact h
  · exact h

/-- The loop keeps the cursors within the arrays. -/
lemma within_foldl (settings : List Setting) {st : GpioDecoder} (h : st.Within) :
    (settings.foldl decodeSetting st).Within := by
  induction settings generalizing st with
  | nil => exact h
  | cons setting settings ih =>
      rw [List.foldl_cons]
      exact ih (within_decodeSetting h setting)

/-! ## The passes -/

section passes

variable (c : GpioConfiguration)

lemma defaultLine_eq : defaultLine c = some (if c.linesCount = 0 ∧ c.chip.chars ≠ [] then
    { c with lines := c.lines.set 0 c.line, linesCount := 1 } else c) := by
  unfold defaultLine
  split_ifs
  · rw [storeAt_of_lt _ gpioMaxLines_pos]
    rfl
  · rfl

lemma legacyLine_eq : legacyLine c = some (if c.linesCount > 0 then
    { c with line := c.lines[0] } else c) := by
  unfold legacyLine
  split_ifs
  · rw [loadAt_of_lt _ gpioMaxLines_pos]
    rfl
  · rfl

/-- The loop over the lines stays inside as there are at most `GPIO_MAX_LINES`. -/
lemma defaultChips_eq {c : GpioConfiguration} (h : c.linesCount ≤ gpioMaxLines) :
    defaultChips c = some (if c.linesCount > 0 ∧ c.linesChip[0].chars = [] then
      { c with linesChip := Vector.ofFn fun i =>
          if i < c.linesCount then safeStringCopy c.chip.chars (configKeyLength - 1)
          else c.linesChip.get i } else c) := by
  unfold defaultChips
  by_cases hlines : c.linesCount > 0
  · rw [if_pos hlines, loadAt_of_lt _ gpioMaxLines_pos, Option.bind_eq_bind, Option.bind_some]
    by_cases hblank : c.linesChip[0].chars = []
    · rw [if_pos hblank, if_pos ⟨hlines, hblank⟩, foldlM_storeAt_range _ _ h]
      rfl
    · rw [if_neg hblank, if_neg fun hboth => hblank hboth.2]
      rfl
  · rw [if_neg hlines, if_neg fun hboth => hlines hboth.1]
    rfl

lemma defaultDirection_eq : defaultDirection c =
    some (if c.directionsCount = 0 ∧ c.linesCount > 0 then
      { c with directions := c.directions.set 0 c.direction, directionsCount := 1 } else c) := by
  unfold defaultDirection
  split_ifs
  · rw [storeAt_of_lt _ gpioMaxLines_pos]
    rfl
  · rfl

lemma defaultActiveLow_eq : defaultActiveLow c =
    some (if c.activeLowCount = 0 ∧ c.linesCount > 0 then
      { c with activeLowLines := c.activeLowLines.set 0 c.activeLow, activeLowCount := 1 }
      else c) := by
  unfold defaultActiveLow
  split_ifs
  · rw [storeAt_of_lt _ gpioMaxLines_pos]
    rfl
  · rfl

/-- **The passes stay inside**, and are the fallbacks. -/
lemma passes_eq {c : GpioConfiguration} (h : c.linesCount ≤ gpioMaxLines) :
    (do let c ← defaultLine c
        let c ← legacyLine c
        let c ← defaultChips c
        let c ← defaultDirection c
        defaultActiveLow c) = some (applyDefaults c) := by
  have hbind : ∀ {o : Option GpioConfiguration} {c : GpioConfiguration}, o = some c →
      ∀ g : GpioConfiguration → Option GpioConfiguration, (o >>= g) = g c := by
    rintro _ c rfl g
    rfl
  refine (hbind (defaultLine_eq c) _).trans ?_
  refine (hbind (legacyLine_eq _) _).trans ?_
  refine (hbind (defaultChips_eq ?_) _).trans ?_
  · split_ifs
    all_goals first | exact h | exact gpioMaxLines_pos
  refine (hbind (defaultDirection_eq _) _).trans ?_
  exact defaultActiveLow_eq _

end passes

/-! ## The decoding -/

/-- **What a plugin is given**: the counts are within the arrays, and as soon as there is a line the
legacy fields are the first entries of their lists. -/
structure GpioConfiguration.Normalised (c : GpioConfiguration) : Prop where
  linesCount : c.linesCount ≤ gpioMaxLines
  directionsCount : c.directionsCount ≤ gpioMaxLines
  activeLowCount : c.activeLowCount ≤ gpioMaxLines
  line : 0 < c.linesCount → c.line = c.lines[0]
  direction : 0 < c.linesCount → 1 ≤ c.directionsCount ∧ c.direction = c.directions[0]
  activeLow : 0 < c.linesCount → 1 ≤ c.activeLowCount ∧ c.activeLow = c.activeLowLines[0]

/-- What the counts after the loop keep. -/
structure GpioConfiguration.Counted (c : GpioConfiguration) : Prop where
  linesCount : c.linesCount ≤ gpioMaxLines
  directionsCount : c.directionsCount ≤ gpioMaxLines
  activeLowCount : c.activeLowCount ≤ gpioMaxLines
  direction : 0 < c.directionsCount → c.direction = c.directions[0]
  activeLow : 0 < c.activeLowCount → c.activeLow = c.activeLowLines[0]

/-- The counts after the loop are those of its cursors. -/
lemma counted_storeCounts {st : GpioDecoder} (h : st.Within) : (storeCounts st).Counted :=
  ⟨Nat.max_le.mpr h.lines, h.directionIndex, h.activeLowIndex, h.direction, h.activeLow⟩

/-- A list that is not given is started with its legacy field. -/
lemma started_of_given {α : Type} {count : ℕ} (hcount : count ≤ gpioMaxLines)
    {v : Vector α gpioMaxLines} {legacy : α} (h : 0 < count → legacy = v[0]) :
    (if count = 0 then 1 else count) ≤ gpioMaxLines ∧ 1 ≤ (if count = 0 then 1 else count) ∧
      legacy = (if count = 0 then v.set 0 legacy else v)[0] := by
  split_ifs with hzero
  · exact ⟨gpioMaxLines_pos, Nat.le_refl 1, by simp⟩
  · have hpos := Nat.pos_of_ne_zero hzero
    exact ⟨hcount, hpos, h hpos⟩

/-- The fallbacks normalise a configuration with a line. -/
lemma normalised_of_pos {c : GpioConfiguration} (h : c.Counted) (hpos : c.linesCount > 0) :
    (applyDefaults c).Normalised := by
  have hdirection := started_of_given h.directionsCount h.direction
  have hactive := started_of_given h.activeLowCount h.activeLow
  rw [applyDefaults_eq_of_pos hpos]
  exact ⟨h.linesCount, hdirection.1, hactive.1, fun _ => rfl, fun _ => hdirection.2,
    fun _ => hactive.2⟩

/-- **The fallbacks normalise.** -/
lemma normalised_applyDefaults {c : GpioConfiguration} (h : c.Counted) :
    (applyDefaults c).Normalised := by
  rcases Nat.eq_zero_or_pos c.linesCount with hzero | hpos
  · rw [applyDefaults_of_zero hzero]
    split_ifs
    · exact normalised_of_pos ⟨gpioMaxLines_pos, h.directionsCount, h.activeLowCount,
        h.direction, h.activeLow⟩ Nat.one_pos
    · -- without a line and a chip the legacy fields are not looked at
      have hnone : ¬ 0 < c.linesCount := by omega
      exact ⟨h.linesCount, h.directionsCount, h.activeLowCount, fun hlines => absurd hlines hnone,
        fun hlines => absurd hlines hnone, fun hlines => absurd hlines hnone⟩
  · exact normalised_of_pos h hpos

/-- **Decoding stays inside the arrays and normalises**, for every parameter list and every
configuration with at most `GPIO_MAX_LINES` lines.
Source: `services/validation-runtime.c`, `validation_runtime_open_gpio` -/
theorem gpioDecode_within {c : GpioConfiguration} (h : c.linesCount ≤ gpioMaxLines)
    (parameters : List ConfigParameter) :
    gpioDecode parameters c = some (decodeGpio parameters c) ∧
      (decodeGpio parameters c).Normalised := by
  have hcounted : (storeCounts ((parameters.map readSetting).foldl decodeSetting
      (.start c))).Counted :=
    counted_storeCounts (within_foldl _ (within_start h))
  refine ⟨?_, normalised_applyDefaults hcounted⟩
  unfold gpioDecode
  rw [foldlM_eq_some_foldl gpioDecodeSetting_eq, Option.bind_eq_bind, Option.bind_some]
  exact passes_eq hcounted.linesCount

/-- A line and a direction. -/
def lineAndDirection : List ConfigParameter :=
  [⟨safeStringCopy (cstr "line") 64, .int, ⟨.empty 128, 17, false⟩⟩,
    ⟨safeStringCopy (cstr "direction") 64, .int, ⟨.empty 128, gpioDirectionOutput, false⟩⟩]

/-- A configuration that counts as many lines as it has cells. -/
def fullConfiguration : GpioConfiguration :=
  { GpioConfiguration.zeroed with linesCount := gpioMaxLines }

/-- In a full configuration a further line finds no room. -/
theorem gpioDecode_within_fullConfiguration :
    gpioDecode lineAndDirection fullConfiguration =
        some (decodeGpio lineAndDirection fullConfiguration) ∧
      (decodeGpio lineAndDirection fullConfiguration).Normalised :=
  gpioDecode_within (Nat.le_refl gpioMaxLines) lineAndDirection

/-- With a line too many the pass over the chips leaves its array. -/
example :
    (gpioDecode [] { fullConfiguration with linesCount := gpioMaxLines + 1 }).isNone = true := by
  decide

end HardwareTest
