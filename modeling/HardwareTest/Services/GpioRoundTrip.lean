import HardwareTest.Services.GpioDecoder

/-!
# From the gpio JSON object to the driver

`get_gpio` flattens the arrays of a configuration object into the 32 parameters of a binding, and
`validation_runtime_open_gpio` collects them again.

* `GpioArrays`: the content of such an object, `GpioArrays.settings` the list the two sides have
  in common. The encoder produces its first 32 elements (`settings_gpioParameters`).
* `gpioRoundTrip_iff`: the decoder gets everything back exactly when the object has fewer than 8
  lines or its eighth `active_low` is false: 8 lines make 33 parameters.
-/

namespace HardwareTest

open Lib CJson ParameterWriter

/-- The content of a gpio configuration object with arrays. -/
structure GpioArrays where
  chip : CString
  lines : List Int32
  linesChip : List CString
  directions : List Int32
  activeLow : List Bool

/-- The object has these arrays, of length `n`, with non-empty chip names of at most 62 bytes. -/
structure GpioArrays.DescribedBy (a : GpioArrays) (config : CJson) (n : ℕ) : Prop where
  chip : config.getObjectItem (cstr "chip") = some (.string a.chip)
  lines : config.getObjectItem (cstr "lines") = some (.array (a.lines.map .number))
  linesChip : config.getObjectItem (cstr "lines_chip") = some (.array (a.linesChip.map .string))
  directions : config.getObjectItem (cstr "directions") = some (.array (a.directions.map .number))
  activeLow : config.getObjectItem (cstr "active_low") = some (.array (a.activeLow.map .bool))
  linesLength : a.lines.length = n
  linesChipLength : a.linesChip.length = n
  directionsLength : a.directions.length = n
  activeLowLength : a.activeLow.length = n
  chipName : a.chip ≠ [] ∧ a.chip.length ≤ 62
  linesChipNames : ∀ c ∈ a.linesChip, c ≠ [] ∧ c.length ≤ 62

/-- The settings of the object, in the order of the encoder. -/
def GpioArrays.settings (a : GpioArrays) : List Setting :=
  .chip a.chip :: (a.lines.map (fun v => .line v.toUInt32) ++ a.linesChip.map .lineChip ++
    a.directions.map (fun v => .direction v.toUInt32) ++ a.activeLow.map .activeLow)

/-! ## The encoder -/

/-- The settings of the parameters written so far. -/
def ParameterWriter.settings (w : ParameterWriter) : List Setting :=
  w.finish.items.map readSetting

/-- A list within its limit has as many settings as it counts. -/
lemma length_settings {w : ParameterWriter} (h : w.count ≤ maxConfigParameters) :
    w.settings.length = w.count := by
  unfold ParameterWriter.settings
  rw [List.length_map]
  exact FixedTable.WithinLimit.length_items (t := w.finish) h

/-- A write inside the list adds one setting. -/
lemma settings_put {w : ParameterWriter} (h : w.count < maxConfigParameters) {key : CString}
    {type : ConfigValueType} {f : ConfigValue → ConfigValue} {s : Setting}
    (hs : ∀ p, readSetting (rewriteParameter key type f p) = s) :
    (w.put key type f).settings = w.settings ++ [s] ∧ (w.put key type f).count = w.count + 1 := by
  unfold put
  rw [dif_pos h]
  refine ⟨?_, rfl⟩
  rw [ParameterWriter.settings, ParameterWriter.settings, FixedTable.items, finish,
    FixedTable.take_set_succ _ h, List.map_append, List.map_singleton, hs]
  rfl

/-- Cutting a list twice is cutting it once. -/
lemma take_append_take {α : Type} (l m : List α) (k : ℕ) :
    (l.take k ++ m).take k = (l ++ m).take k := by
  rw [List.take_append, List.take_append, List.take_take, Nat.min_self, List.length_take]
  congr 2
  omega

/-- From `w` to `w'` the settings `ss` are added, as far as there is room. -/
def Adds (w w' : ParameterWriter) (ss : List Setting) : Prop :=
  w.count ≤ maxConfigParameters →
    w'.settings = (w.settings ++ ss).take maxConfigParameters ∧ w'.count ≤ maxConfigParameters

namespace Adds

variable {w w' w'' : ParameterWriter} {ss ss' : List Setting}

/-- Nothing is added. -/
lemma refl (w : ParameterWriter) : Adds w w [] := by
  intro h
  refine ⟨?_, h⟩
  rw [List.append_nil, List.take_of_length_le (by rw [length_settings h]; exact h)]

/-- There is no room. -/
lemma of_full (hfull : w.count ≥ maxConfigParameters) (ss : List Setting) : Adds w w ss := by
  intro h
  have hlen := length_settings h
  refine ⟨?_, h⟩
  rw [List.take_append_of_le_length (by omega), List.take_of_length_le (by omega)]

/-- One write adds one setting. -/
lemma of_put (h : w.count < maxConfigParameters) {key : CString} {type : ConfigValueType}
    {f : ConfigValue → ConfigValue} {s : Setting}
    (hs : ∀ p, readSetting (rewriteParameter key type f p) = s) :
    Adds w (w.put key type f) [s] := by
  intro hlim
  obtain ⟨hput, hcount⟩ := settings_put h hs
  have hlen := length_settings hlim
  refine ⟨?_, by omega⟩
  rw [hput, List.take_of_length_le]
  rw [List.length_append, List.length_singleton, hlen]
  exact h

/-- One addition after another. -/
lemma trans (h : Adds w w' ss) (h' : Adds w' w'' ss') : Adds w w'' (ss ++ ss') := by
  intro hlim
  obtain ⟨hsettings, hcount⟩ := h hlim
  obtain ⟨hsettings', hcount'⟩ := h' hcount
  refine ⟨?_, hcount'⟩
  rw [hsettings', hsettings, take_append_take, List.append_assoc]

end Adds

/-- An array loop over elements of the right kind adds their settings. -/
lemma adds_putArray {α : Type} (key : CString) (type : ConfigValueType)
    (read : CJson → Option (ConfigValue → ConfigValue)) (json : α → CJson) {l : List α}
    (f : α → ConfigValue → ConfigValue) (s : α → Setting) (hread : ∀ a, read (json a) = some (f a))
    (hs : ∀ a ∈ l, ∀ p, readSetting (rewriteParameter key type (f a) p) = s a)
    (w : ParameterWriter) : Adds w (putArray key type read (l.map json) w) (l.map s) := by
  induction l generalizing w with
  | nil => exact .refl w
  | cons a l ih =>
      rw [List.map_cons, putArray, hread]
      by_cases hfull : w.count ≥ maxConfigParameters
      · simp only [hfull, if_true]
        exact .of_full hfull _
      · simp only [hfull, if_false]
        have hput : Adds w (w.put key type (f a)) [s a] :=
          .of_put (Nat.lt_of_not_le hfull) (hs a (by simp))
        exact hput.trans (ih (fun b hb => hs b (List.mem_cons_of_mem _ hb)) _)

/-- A short key is read back as it is written. -/
lemma key_rewriteParameter {key : CString} (h : key.length < configKeyLength - 1)
    (type : ConfigValueType) (f : ConfigValue → ConfigValue) (p : ConfigParameter) :
    (rewriteParameter key type f p).key.chars = key := by
  show (safeStringCopy key (configKeyLength - 1) : CharBuf configKeyLength).chars = key
  exact safeStringCopy_chars_of_lt h

section keys

variable {p : ConfigParameter}

lemma readSetting_chip (h : p.key.chars = cstr "chip") :
    readSetting p = .chip p.value.stringValue.chars := if_pos h

lemma readSetting_line (h : p.key.chars = cstr "line") :
    readSetting p = .line p.value.intValue := by
  unfold readSetting
  rw [h, if_neg (by decide), if_pos rfl]

lemma readSetting_lineChip (h : p.key.chars = cstr "line_chip") :
    readSetting p = .lineChip p.value.stringValue.chars := by
  unfold readSetting
  rw [h, if_neg (by decide), if_neg (by decide), if_pos rfl]

lemma readSetting_direction (h : p.key.chars = cstr "direction") :
    readSetting p = .direction p.value.intValue := by
  unfold readSetting
  rw [h, if_neg (by decide), if_neg (by decide), if_neg (by decide), if_pos rfl]

lemma readSetting_activeLow (h : p.key.chars = cstr "active_low") :
    readSetting p = .activeLow p.value.boolValue := by
  unfold readSetting
  rw [h, if_neg (by decide), if_neg (by decide), if_neg (by decide), if_neg (by decide), if_pos rfl]

end keys

section encoder

variable {a : GpioArrays} {config : CJson} {n : ℕ} (h : a.DescribedBy config n)
include h

/-- The chip. -/
lemma adds_chip (configuration : Configuration) : Adds (start configuration)
    ((start configuration).putString config (cstr "chip")) [.chip a.chip] := by
  refine .of_put (show 0 < maxConfigParameters by decide) fun p => ?_
  have hshort : a.chip.length < configStringLength := Nat.lt_of_le_of_lt h.chipName.2 (by decide)
  rw [readSetting_chip (key_rewriteParameter (by decide) _ _ p), rewriteParameter, getString,
    h.chip]
  show Setting.chip (safeStringCopy a.chip configStringLength : CharBuf configStringLength).chars =
    .chip a.chip
  rw [safeStringCopy_chars_of_lt hshort]

/-- The lines. -/
lemma adds_putLines (w : ParameterWriter) :
    Adds w (putLines config w) (a.lines.map fun v => .line v.toUInt32) := by
  rw [putLines, h.lines]
  exact adds_putArray _ _ _ _ (fun v u => { u with intValue := v.toUInt32 }) _ (fun _ => rfl)
    (fun v _ p => readSetting_line (key_rewriteParameter (by decide) _ _ p)) w

/-- The chips of the lines. -/
lemma adds_putLinesChip (w : ParameterWriter) :
    Adds w (putLinesChip config w) (a.linesChip.map .lineChip) := by
  rw [putLinesChip, h.linesChip]
  refine adds_putArray _ _ _ _
    (fun c u => { u with stringValue := safeStringCopy c (configKeyLength - 1) }) _ (fun _ => rfl)
    (fun c hc p => ?_) w
  have hshort : c.length < configKeyLength - 1 :=
    Nat.lt_of_le_of_lt (h.linesChipNames c hc).2 (by decide)
  rw [readSetting_lineChip (key_rewriteParameter (by decide) _ _ p), rewriteParameter]
  show Setting.lineChip
    (safeStringCopy c (configKeyLength - 1) : CharBuf configStringLength).chars = .lineChip c
  rw [safeStringCopy_chars_of_lt hshort]

/-- The directions. -/
lemma adds_putDirections (w : ParameterWriter) :
    Adds w (putDirections config w) (a.directions.map fun v => .direction v.toUInt32) := by
  rw [putDirections, h.directions]
  exact adds_putArray _ _ _ _ (fun v u => { u with intValue := v.toUInt32 }) _ (fun _ => rfl)
    (fun v _ p => readSetting_direction (key_rewriteParameter (by decide) _ _ p)) w

/-- The polarities. -/
lemma adds_putActiveLow (w : ParameterWriter) :
    Adds w (putActiveLow config w) (a.activeLow.map .activeLow) := by
  rw [putActiveLow, h.activeLow]
  exact adds_putArray _ _ _ _ (fun b u => { u with boolValue := b }) _ (fun _ => rfl)
    (fun b _ p => readSetting_activeLow (key_rewriteParameter (by decide) _ _ p)) w

/-- **The encoder** writes the settings of the object, as many as there are parameters. -/
theorem settings_gpioParameters (configuration : Configuration) :
    (gpioParameters config configuration).settings = a.settings.take maxConfigParameters := by
  have hadds : Adds (start configuration) (gpioParameters config configuration) _ :=
    ((((adds_chip h configuration).trans (adds_putLines h _)).trans (adds_putLinesChip h _)).trans
      (adds_putDirections h _)).trans (adds_putActiveLow h _)
  rw [(hadds (Nat.zero_le _)).1, GpioArrays.settings]
  show ([] ++ _ : List Setting).take _ = _
  simp only [List.append_assoc, List.cons_append, List.nil_append]

end encoder

/-! ## The decoder -/

/-- Short names are what the decoder's copies hold. -/
lemma map_chars_chipCopy {names : List CString} (h : ∀ c ∈ names, c ≠ [] ∧ c.length ≤ 62) :
    (names.map chipCopy).map CharBuf.chars = names := by
  rw [List.map_map]
  conv_rhs => rw [← List.map_id names]
  apply List.map_congr_left
  intro c hc
  exact safeStringCopy_chars_of_lt (Nat.lt_of_le_of_lt (h c hc).2 (by decide))

/-- What the loop has collected from four lists, over a zeroed configuration. -/
structure GpioConfiguration.Collected (c : GpioConfiguration) (lines : List UInt32)
    (linesChip : List CString) (directions : List UInt32) (activeLow : List Bool) : Prop where
  linesCount : c.linesCount = lines.length
  directionsCount : c.directionsCount = directions.length
  activeLowCount : c.activeLowCount = activeLow.length
  lines : c.lines = FixedTable.writeFrom (.replicate _ 0) 0 lines
  linesChip : ∃ filled, c.linesChip = FixedTable.writeFrom filled 0 (linesChip.map chipCopy)
  directions : c.directions = FixedTable.writeFrom (.replicate _ 0) 0 directions
  activeLow : c.activeLowLines =
    FixedTable.writeFrom (.replicate _ 0) 0 (activeLow.map Bool.toUInt8)

/-- The chips come after the last line, so that they are laid over whatever the lines have left. -/
lemma linesChip_lists (chip : CString) {lines directions : List UInt32} {linesChip : List CString}
    {activeLow : List Bool} (hlinesChip : linesChip.length ≤ gpioMaxLines) :
    ∃ filled, ((Setting.chip chip :: (lines.map Setting.line ++ linesChip.map .lineChip ++
      directions.map .direction ++ activeLow.map .activeLow)).foldl decodeSetting
        (.start .zeroed)).configuration.linesChip =
      FixedTable.writeFrom filled 0 (linesChip.map chipCopy) := by
  let front : List Setting := .chip chip :: lines.map .line
  let back : List Setting :=
    linesChip.map .lineChip ++ directions.map .direction ++ activeLow.map .activeLow
  have hsplit : Setting.chip chip :: (lines.map Setting.line ++ linesChip.map .lineChip ++
      directions.map .direction ++ activeLow.map .activeLow) = front ++ back := by
    simp only [front, back, List.cons_append, List.append_assoc]
  have hfront : (front.foldl decodeSetting (.start .zeroed)).chipIndex = 0 := by
    have hnone : front.filterMap Setting.asLineChip = [] := by
      simp [front, List.filterMap_cons, List.filterMap_map, Function.comp_def, Setting.asLineChip]
    rw [chipIndex_foldl front _ (by rw [hnone]; exact Nat.zero_le _), hnone]
    rfl
  have hpickChips : back.filterMap Setting.asLineChip = linesChip.map chipCopy := by
    simp [back, List.filterMap_map, Function.comp_def, Setting.asLineChip]
  have hnone : back.filterMap Setting.asLine = [] := by
    simp [back, List.filterMap_map, Function.comp_def, Setting.asLine]
  have hchips := linesChip_foldl_of_no_line back (front.foldl decodeSetting (.start .zeroed)) hnone
    (by
      rw [hfront, hpickChips, List.length_map]
      omega)
  rw [hfront, hpickChips] at hchips
  refine ⟨(front.foldl decodeSetting (.start .zeroed)).configuration.linesChip, ?_⟩
  rw [hsplit, List.foldl_append]
  exact hchips

/-- The loop collects one list after the other. -/
lemma collected_lists (chip : CString) {lines directions : List UInt32} {linesChip : List CString}
    {activeLow : List Bool} (hlines : lines.length ≤ gpioMaxLines)
    (hlinesChip : linesChip.length ≤ gpioMaxLines) (hdirections : directions.length ≤ gpioMaxLines)
    (hactive : activeLow.length ≤ gpioMaxLines) :
    (storeCounts ((Setting.chip chip :: (lines.map .line ++ linesChip.map .lineChip ++
      directions.map .direction ++ activeLow.map .activeLow)).foldl decodeSetting
        (.start .zeroed))).Collected lines linesChip directions activeLow := by
  generalize hss : Setting.chip chip :: (lines.map Setting.line ++ linesChip.map .lineChip ++
    directions.map .direction ++ activeLow.map .activeLow) = ss
  have hpickLines : ss.filterMap Setting.asLine = lines := by
    simp [← hss, List.filterMap_cons, List.filterMap_map, Function.comp_def, Setting.asLine]
  have hpickDirections : ss.filterMap Setting.asDirection = directions := by
    simp [← hss, List.filterMap_cons, List.filterMap_map, Function.comp_def, Setting.asDirection]
  have hpickActive : ss.filterMap Setting.asActiveLow = activeLow.map Bool.toUInt8 := by
    simp [← hss, List.filterMap_cons, List.filterMap_map, Function.comp_def, Setting.asActiveLow]
  obtain ⟨hcells₁, hindex₁⟩ := lines_foldl ss (.start .zeroed) (by
    rw [hpickLines]
    show 0 + lines.length ≤ gpioMaxLines
    omega)
  obtain ⟨hcells₂, hindex₂⟩ := directions_foldl ss (.start .zeroed) (by
    rw [hpickDirections]
    show 0 + directions.length ≤ gpioMaxLines
    omega)
  obtain ⟨hcells₃, hindex₃⟩ := activeLow_foldl ss (.start .zeroed) (by
    rw [hpickActive, List.length_map]
    show 0 + activeLow.length ≤ gpioMaxLines
    omega)
  rw [hpickLines] at hcells₁ hindex₁
  rw [hpickDirections] at hcells₂ hindex₂
  rw [hpickActive] at hcells₃ hindex₃
  refine ⟨?_, hindex₂.trans (Nat.zero_add _), ?_, hcells₁, ?_, hcells₂, hcells₃⟩
  · show max _ _ = lines.length
    rw [hindex₁, linesCount_foldl]
    show max 0 (0 + lines.length) = lines.length
    omega
  · rw [List.length_map] at hindex₃
    exact hindex₃.trans (Nat.zero_add _)
  · obtain ⟨filled, hfilled⟩ := linesChip_lists chip hlinesChip
    refine ⟨filled, ?_⟩
    rw [← hss]
    exact hfilled

/-- **The decoder** on a zeroed configuration: from lists of `n` lines, chips and directions and
some polarities it fills the first cells of its arrays. -/
theorem decode_lists (chip : CString) {lines directions : List UInt32} {linesChip : List CString}
    {activeLow : List Bool} {n : ℕ} (hn : 1 ≤ n) (hmax : n ≤ gpioMaxLines)
    (hlines : lines.length = n) (hlinesChip : linesChip.length = n)
    (hdirections : directions.length = n) (hpos : 1 ≤ activeLow.length)
    (hactive : activeLow.length ≤ gpioMaxLines) (hnames : ∀ c ∈ linesChip, c ≠ [] ∧ c.length ≤ 62) :
    ∃ c, applyDefaults (storeCounts ((Setting.chip chip :: (lines.map .line ++
          linesChip.map .lineChip ++ directions.map .direction ++ activeLow.map .activeLow)).foldl
            decodeSetting (.start .zeroed))) = c ∧
      c.linesCount = n ∧ c.lines.toList.take n = lines ∧
      (c.linesChip.toList.take n).map CharBuf.chars = linesChip ∧
      c.directions.toList.take n = directions ∧
      c.activeLowLines = FixedTable.writeFrom (.replicate _ 0) 0 (activeLow.map Bool.toUInt8) := by
  refine ⟨_, rfl, ?_⟩
  have hcollected := collected_lists chip (hlines ▸ hmax) (hlinesChip ▸ hmax)
    (hdirections ▸ hmax) hactive
  generalize storeCounts _ = c at hcollected ⊢
  obtain ⟨filled, hchips⟩ := hcollected.linesChip
  have hlinesCount := hcollected.linesCount
  have hdirectionsCount := hcollected.directionsCount
  have hactiveCount := hcollected.activeLowCount
  have hread : (c.linesChip.toList.take n).map CharBuf.chars = linesChip := by
    have hlen : (linesChip.map chipCopy).length = n := by rw [List.length_map, hlinesChip]
    rw [hchips, ← hlen, FixedTable.take_writeFrom_zero _ (by omega), map_chars_chipCopy hnames]
  -- the first chip is not empty, so that no fallback applies
  have hfirst : c.linesChip[0].chars ≠ [] := by
    have hmem : c.linesChip[0].chars ∈ (c.linesChip.toList.take n).map CharBuf.chars := by
      apply List.mem_map_of_mem
      rw [List.mem_take_iff_getElem]
      exact ⟨0, by simp; omega, by simp⟩
    rw [hread] at hmem
    exact (hnames _ hmem).1
  obtain ⟨hcount', hlines', hchips', hdirections', hactive'⟩ :=
    applyDefaults_of_pos (show c.linesCount > 0 by omega)
  rw [if_neg hfirst] at hchips'
  rw [if_neg (show c.directionsCount ≠ 0 by omega)] at hdirections'
  rw [if_neg (show c.activeLowCount ≠ 0 by omega)] at hactive'
  rw [hcount', hlines', hchips', hdirections', hactive']
  refine ⟨hlinesCount.trans hlines, ?_, hread, ?_, hcollected.activeLow⟩
  · rw [hcollected.lines, ← hlines, FixedTable.take_writeFrom_zero _ (by omega)]
  · rw [hcollected.directions, ← hdirections, FixedTable.take_writeFrom_zero _ (by omega)]

/-! ## The round trip -/

/-- The polarities there is room for: all of them but the eighth. -/
lemma take_settings {a : GpioArrays} {config : CJson} {n : ℕ} (h : a.DescribedBy config n)
    (hmax : n ≤ gpioMaxLines) :
    a.settings.take maxConfigParameters =
      .chip a.chip :: ((a.lines.map Int32.toUInt32).map .line ++ a.linesChip.map .lineChip ++
        (a.directions.map Int32.toUInt32).map .direction ++
        (a.activeLow.take (31 - 3 * n)).map .activeLow) := by
  have hlen := h.linesLength
  have hlen' := h.linesChipLength
  have hlen'' := h.directionsLength
  have hmax' : n ≤ 8 := hmax
  unfold GpioArrays.settings
  rw [maxConfigParameters, List.take_succ_cons, List.take_append,
    List.take_of_length_le (by simp; omega), ← List.map_take, List.map_map, List.map_map]
  congr 3
  simp
  omega

/-- The configuration has the lines of the object. -/
structure GpioConfiguration.Holds (c : GpioConfiguration) (a : GpioArrays) (n : ℕ) : Prop where
  linesCount : c.linesCount = n
  lines : c.lines.toList.take n = a.lines.map Int32.toUInt32
  linesChip : (c.linesChip.toList.take n).map CharBuf.chars = a.linesChip
  directions : c.directions.toList.take n = a.directions.map Int32.toUInt32
  activeLow : c.activeLowLines.toList.take n = a.activeLow.map Bool.toUInt8

/-- **Loss of the eighth polarity.** Polarities cut to the room that is left and written into zeroed
cells are read back whole exactly when there are fewer than 8 lines or the last one is false. -/
lemma take_activeLow_iff {activeLow : List Bool} {n : ℕ} (hn : 1 ≤ n) (hmax : n ≤ gpioMaxLines)
    (hlen : activeLow.length = n) :
    (FixedTable.writeFrom (.replicate gpioMaxLines 0) 0
        ((activeLow.take (31 - 3 * n)).map Bool.toUInt8)).toList.take n =
          activeLow.map Bool.toUInt8 ↔
      n < gpioMaxLines ∨ activeLow.getLast? = some false := by
  have hmax' : n ≤ 8 := hmax
  by_cases hfew : n < gpioMaxLines
  · have hfew' : n < 8 := hfew
    have hall : activeLow.take (31 - 3 * n) = activeLow := List.take_of_length_le (by omega)
    have hread := FixedTable.take_writeFrom_zero (.replicate gpioMaxLines (0 : UInt8))
      (l := activeLow.map Bool.toUInt8) (by rw [List.length_map, hlen]; exact hmax)
    rw [List.length_map, hlen] at hread
    rw [hall, hread]
    simp [hfew]
  · -- eight lines: seven polarities are written, and the eighth cell stays zero
    have hfull : n = 8 := by
      have hmin : ¬ n < 8 := hfew
      omega
    subst hfull
    obtain ⟨init, last, rfl⟩ : ∃ init last, activeLow = init ++ [last] := by
      have hne : activeLow ≠ [] := by
        intro h
        rw [h] at hlen
        simp at hlen
      exact ⟨_, _, (List.dropLast_append_getLast hne).symm⟩
    have hinit : init.length = 7 := by simpa using hlen
    have hwritten : (FixedTable.writeFrom (.replicate gpioMaxLines (0 : UInt8)) 0
        (init.map Bool.toUInt8)).toList.take 8 = init.map Bool.toUInt8 ++ [0] := by
      have hfit : 0 + (init.map Bool.toUInt8).length ≤ gpioMaxLines := by
        rw [List.length_map, hinit]
        decide
      rw [FixedTable.toList_writeFrom _ hfit, List.length_map, hinit,
        List.take_of_length_le (by simp [hinit, gpioMaxLines])]
      rfl
    rw [List.take_left' hinit, hwritten, List.map_append, List.getLast?_append]
    cases last with
    | false => simp [Bool.toUInt8]
    | true => simp [Bool.toUInt8]

/-- **From JSON to the driver.** For a gpio configuration object with arrays of length `n`, opening
the device on a zeroed configuration gives back every element exactly when there are fewer than 8
lines or the eighth `active_low` is false. -/
theorem gpioRoundTrip_iff {a : GpioArrays} {config : CJson} {n : ℕ} (h : a.DescribedBy config n)
    (hn : 1 ≤ n) (hmax : n ≤ gpioMaxLines) {binding : DeviceBinding} {bindingCount : ℕ}
    (hcount : bindingCount < maxBindings) {π η : Type} {dm : DeviceManager}
    (plugins : CString → Option π) (halOpen : π → Option η) {deviceName : CString} {device : Device}
    (hdevice : dm.getDeviceByName deviceName = some device)
    (hbinding : device.binding.configuration = (getGpio config bindingCount binding).2.configuration)
    {plugin : π} (hplugin : plugins device.binding.plugin.chars = some plugin) :
    (validationRuntimeOpenGpio dm plugins halOpen deviceName .zeroed).2.Holds a n ↔
      n < gpioMaxLines ∨ a.activeLow.getLast? = some false := by
  have hmax' : n ≤ 8 := hmax
  have hlen := h.activeLowLength
  have hlen₁ : (a.lines.map Int32.toUInt32).length = n := by rw [List.length_map, h.linesLength]
  have hlen₂ : (a.directions.map Int32.toUInt32).length = n := by
    rw [List.length_map, h.directionsLength]
  have hpos : 1 ≤ (a.activeLow.take (31 - 3 * n)).length := by
    rw [List.length_take]
    omega
  have hfit : (a.activeLow.take (31 - 3 * n)).length ≤ gpioMaxLines := by
    rw [List.length_take]
    omega
  obtain ⟨c, hc, hlinesCount, hlines, hlinesChip, hdirections, hactive⟩ :=
    decode_lists a.chip hn hmax hlen₁ h.linesChipLength hlen₂ hpos hfit h.linesChipNames
  have hopen : (validationRuntimeOpenGpio dm plugins halOpen deviceName .zeroed).2 = c := by
    unfold validationRuntimeOpenGpio
    rw [hdevice]
    simp only
    rw [hplugin, hbinding, getGpio, if_neg (by omega)]
    simp only
    unfold decodeGpio
    rw [← hc, ← take_settings h hmax, ← settings_gpioParameters h binding.configuration]
    rfl
  rw [hopen, ← take_activeLow_iff hn hmax hlen, ← hactive]
  constructor
  · intro hholds
    exact hholds.activeLow
  · intro hread
    exact ⟨hlinesCount, hlines, hlinesChip, hdirections, hread⟩

/-! ## Two objects -/

/-- The object that has the arrays. -/
def GpioArrays.object (a : GpioArrays) : CJson :=
  .object [(cstr "chip", .string a.chip), (cstr "lines", .array (a.lines.map .number)),
    (cstr "lines_chip", .array (a.linesChip.map .string)),
    (cstr "directions", .array (a.directions.map .number)),
    (cstr "active_low", .array (a.activeLow.map .bool))]

/-- An object of `n` output lines with one polarity. -/
def GpioArrays.uniform (n : ℕ) (activeLow : Bool) : GpioArrays where
  chip := cstr "gpiochip0"
  lines := (List.range n).map fun i => Int32.ofNat (16 + i)
  linesChip := List.replicate n (cstr "gpiochip1")
  directions := List.replicate n 1
  activeLow := List.replicate n activeLow

/-- Such an object is described by its arrays. -/
lemma describedBy_uniform (n : ℕ) (activeLow : Bool) :
    (GpioArrays.uniform n activeLow).DescribedBy (GpioArrays.uniform n activeLow).object n where
  chip := rfl
  lines := rfl
  linesChip := rfl
  directions := rfl
  activeLow := rfl
  linesLength := by simp [GpioArrays.uniform]
  linesChipLength := List.length_replicate
  directionsLength := List.length_replicate
  activeLowLength := List.length_replicate
  chipName := show cstr "gpiochip0" ≠ [] ∧ (cstr "gpiochip0").length ≤ 62 by decide
  linesChipNames := by
    intro c hc
    rw [List.eq_of_mem_replicate hc]
    decide

/-- A binding whose parameter list is still empty. -/
def ledBinding : DeviceBinding where
  device := safeStringCopy (cstr "led") deviceNameLength
  plugin := safeStringCopy (cstr "gpio") pluginNameLength
  interface := safeStringCopy (cstr "gpio") interfaceNameLength
  isEnabled := true
  compatible := .empty _
  configuration :=
    .ofList _ ⟨.empty _, .string, ⟨.empty _, 0, false⟩⟩ []

/-- The device bound with a configuration object. -/
def ledDevice (config : CJson) : Device where
  name := safeStringCopy (cstr "led") deviceNameLength
  state := .registered
  definition := ⟨.empty _, .led, safeStringCopy (cstr "led") deviceNameLength, .empty _⟩
  binding := (getGpio config 0 ledBinding).2

/-- A registry with that device. -/
def ledManager (config : CJson) : DeviceManager :=
  ⟨.ofList _ (ledDevice config) [ledDevice config]⟩

/-- It is found by its name. -/
lemma getDeviceByName_ledManager (config : CJson) :
    (ledManager config).getDeviceByName (cstr "led") = some (ledDevice config) := by
  unfold DeviceManager.getDeviceByName ledManager
  rw [FixedTable.items_ofList _ (show 1 ≤ deviceManagerMaxDevices by decide)]
  rfl

/-- A plugin manager that knows the gpio plugin. -/
def gpioPlugins (name : CString) : Option Unit := if name = cstr "gpio" then some () else none

/-- The configuration that opening that device leaves. -/
def openedLed (config : CJson) : GpioConfiguration :=
  (validationRuntimeOpenGpio (ledManager config) gpioPlugins some (cstr "led") .zeroed).2

/-- Eight lines that are not active low come back. -/
theorem gpioRoundTrip_iff_eightLines :
    (openedLed (GpioArrays.uniform 8 false).object).Holds (GpioArrays.uniform 8 false) 8 :=
  (gpioRoundTrip_iff (describedBy_uniform 8 false) (by decide) (by decide)
    (show 0 < maxBindings by decide) gpioPlugins some (getDeviceByName_ledManager _) rfl
    rfl).mpr (Or.inr rfl)

/-- Of eight lines that are active low the last one is lost. -/
theorem openedLed_eightActiveLow :
    (GpioArrays.uniform 8 true).DescribedBy (GpioArrays.uniform 8 true).object 8 ∧
      ¬ (openedLed (GpioArrays.uniform 8 true).object).Holds (GpioArrays.uniform 8 true) 8 := by
  refine ⟨describedBy_uniform 8 true, fun h => ?_⟩
  have hlost := h.activeLow
  revert hlost
  decide +kernel

end HardwareTest
