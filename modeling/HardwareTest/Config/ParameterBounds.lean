import HardwareTest.Config.Parameters

/-!
# The bound of the parameter list: `config/platform.c`, `get_gpio`

The sections of `get_gpio` share one index. An array form stops when the list is full, and so does
the single string `lines_chip`; a single direction and a single polarity are written without a
look at the index.

* `demand`: how many parameters a section asks for.
* `Filled w n`: `n` parameters were asked for so far, and those that fit are written. One lemma
  for each form of a section: an array keeps it, a single value keeps it below the limit and
  writes outside the list at the limit.
* `gpioBounded_iff`: no parameter is written outside the list iff each of the two unguarded values
  is absent or finds room.
-/

namespace HardwareTest

open Lib CJson

namespace CJson

variable {γ : Type}

/-- The array form of a section, or else its single form. -/
def arrayOr (item : Option CJson) (array : List CJson → γ) (single : γ) : γ :=
  match item with
  | some (.array items) => array items
  | _ => single

/-- Source: `cJSON.c`, `cJSON_IsArray` -/
def isArray (item : Option CJson) : Bool := arrayOr item (fun _ => true) false

/-- What is an array has items. -/
lemma exists_items {item : Option CJson} (h : isArray item = true) :
    ∃ items, item = some (.array items) := by
  unfold isArray arrayOr at h
  split at h
  · exact ⟨_, rfl⟩
  · exact absurd h (by decide)

/-- What is no array takes the single form. -/
lemma arrayOr_single {item : Option CJson} (h : isArray item = false) (array : List CJson → γ)
    (single : γ) : arrayOr item array single = single := by
  unfold isArray arrayOr at h
  unfold arrayOr
  split
  · exact absurd h (by simp)
  · rfl

end CJson

namespace ParameterWriter

/-- `n` parameters were asked for, and those that fit are written. -/
structure Filled (w : ParameterWriter) (n : ℕ) : Prop where
  outside : w.outside = []
  count : w.count = min maxConfigParameters n

section forms

variable {w : ParameterWriter} {n : ℕ} {key : CString} {type : ConfigValueType}
  {f : ConfigValue → ConfigValue} {read : CJson → Option (ConfigValue → ConfigValue)}

/-- There is room as long as fewer parameters than the limit are asked for. -/
lemma Filled.count_lt_iff (h : Filled w n) :
    w.count < maxConfigParameters ↔ n < maxConfigParameters := by
  rw [h.count]
  omega

/-- A single value below the limit. -/
lemma Filled.put (h : Filled w n) (hn : n < maxConfigParameters) :
    Filled (w.put key type f) (n + 1) := by
  have hcount := h.count
  have hput : w.put key type f = _ := dif_pos (h.count_lt_iff.mpr hn)
  constructor
  · rw [hput]
    exact h.outside
  · rw [hput]
    show w.count + 1 = _
    omega

/-- A value behind the bound check. -/
lemma Filled.put_guarded (h : Filled w n) :
    Filled (if w.count < maxConfigParameters then w.put key type f else w) (n + 1) := by
  split_ifs with hroom
  · exact h.put (h.count_lt_iff.mp hroom)
  · have hfull := mt h.count_lt_iff.mpr hroom
    have hcount := h.count
    exact ⟨h.outside, by omega⟩

/-- A single value at the limit is written outside the list. -/
lemma Filled.outside_put (h : Filled w n) (hn : maxConfigParameters ≤ n) :
    (w.put key type f).outside ≠ [] := by
  have hput : w.put key type f = _ := dif_neg (mt h.count_lt_iff.mp (Nat.not_lt.mpr hn))
  rw [hput, h.outside]
  exact List.cons_ne_nil _ _

/-- An array asks for as many parameters as it has elements of the right kind. -/
lemma Filled.putArray (h : Filled w n) (items : List CJson) :
    Filled (putArray key type read items w) (n + (items.filterMap read).length) := by
  induction items generalizing w n with
  | nil => exact h
  | cons element items ih =>
      rw [ParameterWriter.putArray]
      rcases hread : read element with _ | f
      · rw [List.filterMap_cons_none hread]
        exact ih h
      · rw [List.filterMap_cons_some hread, List.length_cons]
        simp only
        split_ifs with hfull
        · have hn := mt h.count_lt_iff.mpr (Nat.not_lt.mpr hfull)
          have hcount := h.count
          exact ⟨h.outside, by omega⟩
        · have hput : Filled (w.put key type f) (n + 1) :=
            h.put (h.count_lt_iff.mp (Nat.lt_of_not_le hfull))
          have hrest := ih hput
          rw [Nat.add_assoc, Nat.add_comm 1] at hrest
          exact hrest

/-- What lies outside stays recorded. -/
lemma outside_put_ne_nil (h : w.outside ≠ []) : (w.put key type f).outside ≠ [] := by
  unfold ParameterWriter.put
  split_ifs
  · exact h
  · exact List.append_ne_nil_of_left_ne_nil h _

/-- What lies outside stays recorded by an array. -/
lemma outside_putArray_ne_nil (h : w.outside ≠ []) (items : List CJson) :
    (ParameterWriter.putArray key type read items w).outside ≠ [] := by
  induction items generalizing w with
  | nil => exact h
  | cons element items ih =>
      rw [ParameterWriter.putArray]
      rcases read element with _ | f
      · exact ih h
      · simp only
        split_ifs
        · exact h
        · exact ih (outside_put_ne_nil h)

end forms

/-! ## The sections -/

/-- The parameters that an array asks for, or the one of the single form. -/
def demand (read : CJson → Option (ConfigValue → ConfigValue)) (item : Option CJson) : ℕ :=
  arrayOr item (fun items => (items.filterMap read).length) 1

/-- The parameters that `lines_chip` asks for; it may be absent. -/
def linesChipDemand : Option CJson → ℕ
  | some (.array items) => (items.filterMap stringElement).length
  | some (.string _) => 1
  | _ => 0

section sections

variable {w : ParameterWriter} {n : ℕ} {key : CString} {type : ConfigValueType}
  {f : ConfigValue → ConfigValue} {read : CJson → Option (ConfigValue → ConfigValue)}

/-- A section whose single form has no bound check, when that form finds room. -/
lemma Filled.unguarded (h : Filled w n) {item : Option CJson}
    (hroom : isArray item = true ∨ n < maxConfigParameters) :
    Filled (arrayOr item (ParameterWriter.putArray key type read · w) (w.put key type f))
      (n + demand read item) := by
  rcases harray : isArray item with _ | _
  · have hn := hroom.resolve_left (by simp [harray])
    rw [arrayOr_single harray, demand, arrayOr_single harray]
    exact h.put hn
  · obtain ⟨items, rfl⟩ := exists_items harray
    exact h.putArray items

/-- Such a section in its single form, when the list is full. -/
lemma Filled.outside_unguarded (h : Filled w n) {item : Option CJson}
    (hsingle : isArray item = false) (hn : maxConfigParameters ≤ n) :
    (arrayOr item (ParameterWriter.putArray key type read · w)
      (w.put key type f)).outside ≠ [] := by
  rw [arrayOr_single hsingle]
  exact h.outside_put hn

/-- Such a section keeps what lies outside. -/
lemma outside_unguarded_ne_nil (h : w.outside ≠ []) (item : Option CJson) :
    (arrayOr item (ParameterWriter.putArray key type read · w)
      (w.put key type f)).outside ≠ [] := by
  unfold arrayOr
  split
  · exact outside_putArray_ne_nil h _
  · exact outside_put_ne_nil h

/-- The chips of the lines, in every form. -/
lemma Filled.putLinesChip (h : Filled w n) (config : CJson) :
    Filled (putLinesChip config w)
      (n + linesChipDemand (config.getObjectItem (cstr "lines_chip"))) := by
  unfold HardwareTest.putLinesChip
  rcases config.getObjectItem (cstr "lines_chip") with _ | (_ | _ | _ | chip | chips | _)
  · exact h
  · exact h
  · exact h
  · exact h
  · exact h.put_guarded
  · exact h.putArray chips
  · exact h

end sections

end ParameterWriter

open ParameterWriter

/-! ## The whole list -/

/-- The parameters asked for before the directions: the chip, the lines and their chips. -/
def demandBeforeDirections (config : CJson) : ℕ :=
  1 + demand intElement (config.getObjectItem (cstr "lines")) +
    linesChipDemand (config.getObjectItem (cstr "lines_chip"))

/-- The parameters asked for before the polarities. -/
def demandBeforeActiveLow (config : CJson) : ℕ :=
  demandBeforeDirections config + demand intElement (config.getObjectItem (cstr "directions"))

/-- The two values that are written without a bound check find room, or are given as arrays. -/
structure FindsRoom (config : CJson) : Prop where
  direction : isArray (config.getObjectItem (cstr "directions")) = true ∨
    demandBeforeDirections config < maxConfigParameters
  activeLow : isArray (config.getObjectItem (cstr "active_low")) = true ∨
    demandBeforeActiveLow config < maxConfigParameters

/-- **Binding parameters never overflow** in a call of `get_gpio`: it writes inside the list, and
what it returns successfully counts no more parameters than there are. -/
structure GpioBounded (config : CJson) (bindingCount : ℕ) (binding : DeviceBinding) : Prop where
  inside : bindingCount < maxBindings → (gpioParameters config binding.configuration).outside = []
  count : (getGpio config bindingCount binding).1 = 0 →
    (getGpio config bindingCount binding).2.configuration.WithinLimit

section whole

variable (config : CJson) (configuration : Configuration)

/-- The list before the directions. -/
lemma filled_beforeDirections :
    Filled (putLinesChip config (putLines config ((start configuration).putString config
      (cstr "chip")))) (demandBeforeDirections config) := by
  have hstart : Filled (start configuration) 0 := ⟨rfl, rfl⟩
  have hchip : Filled ((start configuration).putString config (cstr "chip")) 1 :=
    hstart.put (by decide)
  have hlines : Filled (putLines config ((start configuration).putString config (cstr "chip")))
      (1 + demand intElement (config.getObjectItem (cstr "lines"))) :=
    hchip.unguarded (.inr (by decide))
  exact hlines.putLinesChip config

/-- The whole list, when the unguarded values find room. -/
lemma filled_gpioParameters {config : CJson} (hroom : FindsRoom config) :
    Filled (gpioParameters config configuration)
      (demandBeforeActiveLow config +
        demand boolElement (config.getObjectItem (cstr "active_low"))) :=
  ((filled_beforeDirections config configuration).unguarded hroom.direction).unguarded
    hroom.activeLow

/-- A value that finds no room is written outside the list. -/
lemma findsRoom_of_inside {config : CJson}
    (hinside : (gpioParameters config configuration).outside = []) : FindsRoom config := by
  have hbefore := filled_beforeDirections config configuration
  have hdirection : isArray (config.getObjectItem (cstr "directions")) = true ∨
      demandBeforeDirections config < maxConfigParameters := by
    by_contra hnone
    rw [not_or, Bool.not_eq_true, Nat.not_lt] at hnone
    exact outside_unguarded_ne_nil (hbefore.outside_unguarded hnone.1 hnone.2) _ hinside
  refine ⟨hdirection, ?_⟩
  by_contra hnone
  rw [not_or, Bool.not_eq_true, Nat.not_lt] at hnone
  exact (hbefore.unguarded hdirection).outside_unguarded hnone.1 hnone.2 hinside

end whole

/-- **Binding parameters stay inside their list** iff the call is refused, or the direction and
the polarity are given as arrays or find room behind what is asked for before them.
Source: `config/platform.c`, `get_gpio` -/
theorem gpioBounded_iff (config : CJson) (bindingCount : ℕ) (binding : DeviceBinding) :
    GpioBounded config bindingCount binding ↔ maxBindings ≤ bindingCount ∨ FindsRoom config := by
  constructor
  · intro hbounded
    rcases Nat.lt_or_ge bindingCount maxBindings with hlt | hge
    · exact .inr (findsRoom_of_inside _ (hbounded.inside hlt))
    · exact .inl hge
  · rintro (hge | hroom)
    · have hrefused : getGpio config bindingCount binding = (-1, binding) := if_pos hge
      constructor
      · intro hlt
        exact absurd hlt (Nat.not_lt.mpr hge)
      · rw [hrefused]
        nofun
    · have hfilled := filled_gpioParameters binding.configuration hroom
      refine ⟨fun _ => hfilled.outside, fun hzero => ?_⟩
      unfold getGpio at hzero ⊢
      split_ifs at hzero ⊢ with hge
      · exact absurd hzero (by simp)
      · show (gpioParameters config binding.configuration).count ≤ maxConfigParameters
        rw [hfilled.count]
        exact Nat.min_le_left _ _

/-- A gpio configuration with `n` lines, one direction and one polarity. -/
def manyLines (n : ℕ) : CJson :=
  .object [(cstr "chip", .string (cstr "gpiochip0")),
    (cstr "lines", .array (List.replicate n (.number 17))),
    (cstr "direction", .number 1), (cstr "active_low", .bool false)]

/-- A binding before its configuration is read. -/
def unconfiguredBinding : DeviceBinding where
  device := .empty _
  plugin := .empty _
  interface := .empty _
  isEnabled := true
  compatible := .empty _
  configuration := ⟨.replicate _ ⟨.empty _, .int, ⟨.empty _, 0, false⟩⟩, 0⟩

/-- With thirty-one lines the list is full before the direction is written. -/
theorem manyLines_outside : ¬ GpioBounded (manyLines 31) 0 unconfiguredBinding := by
  intro hbounded
  have hroom : FindsRoom (manyLines 31) := findsRoom_of_inside _ (hbounded.inside (by decide))
  rcases hroom.direction with harray | hlt
  · exact absurd harray (by decide)
  · exact absurd hlt (by decide)

end HardwareTest
