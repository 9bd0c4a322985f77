import HardwareTest.Config.ParameterSlots
import HardwareTest.Config.Reload

/-!
# Loading bindings over an earlier configuration

* `GpioComplete`, `I2cComplete`: a configuration object gives what `get_gpio` or `get_i2c` does not
  clear. That is exactly when the parameters it leaves are independent of the old ones.
* `BindingComplete`: the element of `bindings` gives what is not cleared.
* `forgetsPast_platformParserLoad_iff`: the loader of the bindings forgets the past iff the document
  cannot be read, or its bindings fit and each of them is complete.
-/

namespace HardwareTest

open Lib CJson ParameterWriter

/-- Two bindings that agree in every member and in the parameters they count. -/
structure DeviceBinding.Alike (a b : DeviceBinding) : Prop where
  device : a.device = b.device
  plugin : a.plugin = b.plugin
  interface : a.interface = b.interface
  isEnabled : a.isEnabled = b.isEnabled
  compatible : a.compatible = b.compatible
  configuration : FixedTable.Alike ConfigParameter.Alike a.configuration b.configuration

/-! ## The gpio parameters -/

section gpio

variable (config : CJson)

/-- The slot of the chip. -/
def chipSlot : ParameterSlot := ⟨cstr "chip", .string, fun v =>
  { v with stringValue := config.getString (cstr "chip") configStringLength }⟩

/-- The slots of the lines. -/
def lineSlots : List ParameterSlot :=
  sectionSlots (cstr "line") .int intElement (config.getObjectItem (cstr "lines"))
    fun v => { v with intValue := (config.getInt (cstr "line")).getD v.intValue }

/-- The slots of the directions. -/
def directionSlots : List ParameterSlot :=
  sectionSlots (cstr "direction") .int intElement (config.getObjectItem (cstr "directions"))
    fun v => { v with intValue := (config.getInt (cstr "direction")).getD v.intValue }

/-- The slots of the polarities. -/
def activeLowSlots : List ParameterSlot :=
  sectionSlots (cstr "active_low") .bool boolElement (config.getObjectItem (cstr "active_low"))
    fun v => { v with boolValue := (config.getBool (cstr "active_low")).getD v.boolValue }

/-- The slots before the directions. -/
def slotsBeforeDirections : List ParameterSlot :=
  [chipSlot config] ++ lineSlots config ++ linesChipSlots (config.getObjectItem (cstr "lines_chip"))

/-- The slots before the polarities. -/
def slotsBeforeActiveLow : List ParameterSlot :=
  slotsBeforeDirections config ++ directionSlots config

/-- All slots of a gpio configuration object. -/
def gpioSlots : List ParameterSlot := slotsBeforeActiveLow config ++ activeLowSlots config

/-- The slots before the directions are the parameters asked for. -/
lemma length_slotsBeforeDirections :
    (slotsBeforeDirections config).length = demandBeforeDirections config := by
  unfold slotsBeforeDirections lineSlots demandBeforeDirections
  rw [List.length_append, List.length_append, length_sectionSlots, length_linesChipSlots]
  rfl

/-- The slots before the polarities are the parameters asked for. -/
lemma length_slotsBeforeActiveLow :
    (slotsBeforeActiveLow config).length = demandBeforeActiveLow config := by
  unfold slotsBeforeActiveLow directionSlots demandBeforeActiveLow
  rw [List.length_append, length_slotsBeforeDirections, length_sectionSlots]

/-- The list has its slots written, when the unguarded values find room. -/
lemma written_gpioParameters {config : CJson} (hroom : FindsRoom config) (old : Configuration) :
    Written old (gpioParameters config old) (gpioSlots config) := by
  have hchip : Written old ((start old).putString config (cstr "chip")) _ :=
    written_start.put (by decide)
  have hlines : Written old (putLines config ((start old).putString config (cstr "chip"))) _ :=
    hchip.unguarded (.inr (show 1 < maxConfigParameters by decide))
  have hbefore : Written old _ (slotsBeforeDirections config) := hlines.putLinesChip config
  have hdirections : Written old _ (slotsBeforeActiveLow config) := hbefore.unguarded
    (hroom.direction.imp_right fun h => by rwa [length_slotsBeforeDirections])
  exact hdirections.unguarded
    (hroom.activeLow.imp_right fun h => by rwa [length_slotsBeforeActiveLow])

/-- A gpio configuration gives what is not cleared, and its parameters stay inside their list. -/
structure GpioComplete (config : CJson) : Prop where
  room : FindsRoom config
  line : isArray (config.getObjectItem (cstr "lines")) = true ∨
    (config.getInt (cstr "line")).isSome
  direction : isArray (config.getObjectItem (cstr "directions")) = true ∨
    (config.getInt (cstr "direction")).isSome
  activeLow : isArray (config.getObjectItem (cstr "active_low")) = true ∨
    (config.getBool (cstr "active_low")).isSome

section past

variable {w : ParameterWriter} {n : ℕ} {key : CString} {type : ConfigValueType}
  {f : ConfigValue → ConfigValue} {read : CJson → Option (ConfigValue → ConfigValue)}
  {item : Option CJson}

/-- A count past the list stays there. -/
lemma past_put (h : maxConfigParameters < w.count) :
    maxConfigParameters < (w.put key type f).count := by
  have hput : w.put key type f = _ := dif_neg (Nat.not_lt.mpr (Nat.le_of_lt h))
  rw [hput]
  show maxConfigParameters < w.count + 1
  omega

/-- A count past the list stays there in a section. -/
lemma past_unguarded (h : maxConfigParameters < w.count) (item : Option CJson) :
    maxConfigParameters <
      (arrayOr item (ParameterWriter.putArray key type read · w) (w.put key type f)).count := by
  unfold arrayOr
  split
  · rename_i items
    show maxConfigParameters < (ParameterWriter.putArray key type read items w).count
    induction items with
    | nil => exact h
    | cons element items ih =>
        rw [ParameterWriter.putArray]
        rcases read element with _ | g
        · exact ih
        · simp only
          rw [if_pos (Nat.le_of_lt h)]
          exact h
  · exact past_put h

/-- A single form that finds no room counts past the list. -/
lemma ParameterWriter.Filled.past_unguarded (h : Filled w n) (hsingle : isArray item = false)
    (hn : maxConfigParameters ≤ n) : maxConfigParameters <
      (arrayOr item (ParameterWriter.putArray key type read · w) (w.put key type f)).count := by
  have hcount := h.count
  have hput : w.put key type f = _ := dif_neg (mt h.count_lt_iff.mp (Nat.not_lt.mpr hn))
  rw [arrayOr_single hsingle, hput]
  show maxConfigParameters < w.count + 1
  omega

end past

/-- A list that counts no more than it holds has found room for the unguarded values. -/
lemma findsRoom_of_withinLimit {config : CJson} {old : Configuration}
    (h : (gpioParameters config old).finish.WithinLimit) : FindsRoom config := by
  have hwithin : ¬ maxConfigParameters < (gpioParameters config old).count := Nat.not_lt.mpr h
  have hbefore := filled_beforeDirections config old
  have hdirection : isArray (config.getObjectItem (cstr "directions")) = true ∨
      demandBeforeDirections config < maxConfigParameters := by
    by_contra hnone
    rw [not_or, Bool.not_eq_true, Nat.not_lt] at hnone
    exact hwithin (past_unguarded (hbefore.past_unguarded hnone.1 hnone.2) _)
  refine ⟨hdirection, ?_⟩
  by_contra hnone
  rw [not_or, Bool.not_eq_true, Nat.not_lt] at hnone
  exact hwithin ((hbefore.unguarded hdirection).past_unguarded hnone.1 hnone.2)

/-- **Gpio parameters** are independent of the old ones iff the configuration is complete. -/
lemma forall_alike_gpioParameters_iff (config : CJson) :
    (∀ old₁ old₂, FixedTable.Alike ConfigParameter.Alike (gpioParameters config old₁).finish
      (gpioParameters config old₂).finish) ↔ GpioComplete config := by
  constructor
  · intro halike
    have hroom : FindsRoom config :=
      findsRoom_of_withinLimit (halike unconfiguredBinding.configuration
        unconfiguredBinding.configuration).within
    have hforgets := (forall_alike_finish_iff (written_gpioParameters hroom)).mp halike
    have hline : gpioSlots config = [chipSlot config] ++ (lineSlots config ++
        (linesChipSlots (config.getObjectItem (cstr "lines_chip")) ++
          (directionSlots config ++ activeLowSlots config))) := by
      simp only [gpioSlots, slotsBeforeActiveLow, slotsBeforeDirections, List.append_assoc]
    have hdirection : gpioSlots config =
        slotsBeforeDirections config ++ (directionSlots config ++ activeLowSlots config) :=
      List.append_assoc _ _ _
    have hactiveLow : gpioSlots config =
        slotsBeforeActiveLow config ++ (activeLowSlots config ++ []) := by
      rw [List.append_nil, gpioSlots]
    refine ⟨hroom, ?_, ?_, ?_⟩
    · exact (forgets_single hforgets hline (.inr (show 1 < maxConfigParameters by
        decide))).imp_right ParameterSlot.forgets_int_iff.mp
    · exact (forgets_single hforgets hdirection (hroom.direction.imp_right fun h => by
        rwa [length_slotsBeforeDirections])).imp_right ParameterSlot.forgets_int_iff.mp
    · exact (forgets_single hforgets hactiveLow (hroom.activeLow.imp_right fun h => by
        rwa [length_slotsBeforeActiveLow])).imp_right ParameterSlot.forgets_bool_iff.mp
  · intro hcomplete
    rw [forall_alike_finish_iff (written_gpioParameters hcomplete.room)]
    intro j slot hslot _
    have hmem := List.mem_of_getElem? hslot
    unfold gpioSlots slotsBeforeActiveLow slotsBeforeDirections at hmem
    simp only [List.mem_append, List.mem_singleton] at hmem
    rcases hmem with (((rfl | hline) | hchip) | hdirection) | hactiveLow
    · exact ParameterSlot.forgets_string
    · exact (forgets_sectionSlots_iff fun _ _ => forgets_intElement).mpr
        (hcomplete.line.imp_right ParameterSlot.forgets_int_iff.mpr) slot hline
    · exact forgets_linesChipSlots slot hchip
    · exact (forgets_sectionSlots_iff fun _ _ => forgets_intElement).mpr
        (hcomplete.direction.imp_right ParameterSlot.forgets_int_iff.mpr) slot hdirection
    · exact (forgets_sectionSlots_iff fun _ _ => forgets_boolElement).mpr
        (hcomplete.activeLow.imp_right ParameterSlot.forgets_bool_iff.mpr) slot hactiveLow

end gpio

/-! ## The i2c and v4l2 parameters -/

section fixed

variable (config : CJson) (old : Configuration)

/-- The parameters of an i2c configuration object. -/
def i2cParameters : ParameterWriter :=
  (((start old).putString config (cstr "bus")).putInt config (cstr "address")).putInt config
    (cstr "frequency_hz")

/-- The parameters of a v4l2 configuration object. -/
def v4l2Parameters : ParameterWriter :=
  (((start old).putString config (cstr "device")).putString config
    (cstr "pixel_format")).putString config (cstr "resolution")

/-- An i2c configuration gives what is not cleared. -/
structure I2cComplete : Prop where
  address : (config.getInt (cstr "address")).isSome
  frequencyHz : (config.getInt (cstr "frequency_hz")).isSome

/-- An i2c list has three slots. -/
lemma written_i2cParameters : Written old (i2cParameters config old)
    [⟨cstr "bus", .string, fun v =>
        { v with stringValue := config.getString (cstr "bus") configStringLength }⟩,
      ⟨cstr "address", .int, fun v =>
        { v with intValue := (config.getInt (cstr "address")).getD v.intValue }⟩,
      ⟨cstr "frequency_hz", .int, fun v =>
        { v with intValue := (config.getInt (cstr "frequency_hz")).getD v.intValue }⟩] :=
  ((written_start.put (show 0 < maxConfigParameters by decide)).put
    (show 1 < maxConfigParameters by decide)).put (show 2 < maxConfigParameters by decide)

/-- A v4l2 list has three slots. -/
lemma written_v4l2Parameters : Written old (v4l2Parameters config old)
    [⟨cstr "device", .string, fun v =>
        { v with stringValue := config.getString (cstr "device") configStringLength }⟩,
      ⟨cstr "pixel_format", .string, fun v =>
        { v with stringValue := config.getString (cstr "pixel_format") configStringLength }⟩,
      ⟨cstr "resolution", .string, fun v =>
        { v with stringValue := config.getString (cstr "resolution") configStringLength }⟩] :=
  ((written_start.put (show 0 < maxConfigParameters by decide)).put
    (show 1 < maxConfigParameters by decide)).put (show 2 < maxConfigParameters by decide)

end fixed

/-- **I2c parameters** are independent of the old ones iff the configuration is complete. -/
lemma forall_alike_i2cParameters_iff (config : CJson) :
    (∀ old₁ old₂, FixedTable.Alike ConfigParameter.Alike (i2cParameters config old₁).finish
      (i2cParameters config old₂).finish) ↔ I2cComplete config := by
  rw [forall_alike_finish_iff (written_i2cParameters config)]
  constructor
  · intro hforgets
    refine ⟨?_, ?_⟩
    · exact ParameterSlot.forgets_int_iff.mp (hforgets 1 _ rfl (by decide))
    · exact ParameterSlot.forgets_int_iff.mp (hforgets 2 _ rfl (by decide))
  · rintro ⟨haddress, hfrequency⟩ j slot hslot _
    have hmem := List.mem_of_getElem? hslot
    simp only [List.mem_cons, List.not_mem_nil, or_false] at hmem
    rcases hmem with rfl | rfl | rfl
    · exact ParameterSlot.forgets_string
    · exact ParameterSlot.forgets_int_iff.mpr haddress
    · exact ParameterSlot.forgets_int_iff.mpr hfrequency

/-- V4l2 parameters are independent of the old ones. -/
lemma alike_v4l2Parameters (config : CJson) (old₁ old₂ : Configuration) :
    FixedTable.Alike ConfigParameter.Alike (v4l2Parameters config old₁).finish
      (v4l2Parameters config old₂).finish := by
  refine (forall_alike_finish_iff (written_v4l2Parameters config)).mpr ?_ old₁ old₂
  intro j slot hslot _
  have hmem := List.mem_of_getElem? hslot
  simp only [List.mem_cons, List.not_mem_nil, or_false] at hmem
  rcases hmem with rfl | rfl | rfl
  all_goals exact ParameterSlot.forgets_string

/-! ## Bindings -/

/-- The parameters that a binding with an interface has after its configuration object. -/
def configurationLeft (interface : CString) (config : CJson) (old : Configuration) :
    Configuration :=
  if interface = cstr "gpio" then (gpioParameters config old).finish
  else if interface = cstr "i2c" then (i2cParameters config old).finish
  else if interface = cstr "v4l2" then (v4l2Parameters config old).finish
  else old

/-- Inside the table the configuration object rewrites the parameters and nothing else. -/
lemma getConfiguration_eq {i : ℕ} (hi : i < maxBindings) (config : CJson) (b : DeviceBinding) :
    getConfiguration config i b =
      { b with configuration := configurationLeft b.interface.chars config b.configuration } := by
  have hin : ¬ i ≥ maxBindings := Nat.not_le.mpr hi
  unfold getConfiguration configurationLeft
  simp only [safeStringCompare_eq_true]
  split_ifs with hgpio hi2c hv4l2
  · simp only [getGpio, if_neg hin]
  · simp only [getI2c, if_neg hin]
    rfl
  · simp only [getV4l2, if_neg hin]
    rfl
  · rfl

/-- The configuration object of a binding rewrites its parameters, and gives what is not cleared. -/
inductive ConfigurationComplete (interface : CString) (config : CJson) : Prop
  | gpio (h : interface = cstr "gpio") (complete : GpioComplete config)
  | i2c (h : interface = cstr "i2c") (complete : I2cComplete config)
  | v4l2 (h : interface = cstr "v4l2")

/-- **The parameters of a binding** are independent of the old ones iff its configuration object is
complete. -/
lemma forall_alike_configurationLeft_iff (interface : CString) (config : CJson) :
    (∀ old₁ old₂, FixedTable.Alike ConfigParameter.Alike (configurationLeft interface config old₁)
      (configurationLeft interface config old₂)) ↔ ConfigurationComplete interface config := by
  unfold configurationLeft
  constructor
  · intro halike
    by_cases hgpio : interface = cstr "gpio"
    · simp only [if_pos hgpio] at halike
      exact .gpio hgpio ((forall_alike_gpioParameters_iff config).mp halike)
    by_cases hi2c : interface = cstr "i2c"
    · simp only [if_neg hgpio, if_pos hi2c] at halike
      exact .i2c hi2c ((forall_alike_i2cParameters_iff config).mp halike)
    by_cases hv4l2 : interface = cstr "v4l2"
    · exact .v4l2 hv4l2
    · simp only [if_neg hgpio, if_neg hi2c, if_neg hv4l2] at halike
      have hcount := (halike unconfiguredBinding.configuration
        ⟨unconfiguredBinding.configuration.entries, 1⟩).count
      exact absurd hcount (by decide)
  · intro hcomplete old₁ old₂
    rcases hcomplete with ⟨rfl, hcomplete⟩ | ⟨rfl, hcomplete⟩ | rfl
    · exact (forall_alike_gpioParameters_iff config).mpr hcomplete old₁ old₂
    · exact (forall_alike_i2cParameters_iff config).mpr hcomplete old₁ old₂
    · exact alike_v4l2Parameters config old₁ old₂

/-- The interface that an element of `bindings` gives. -/
def interfaceGiven (binding : CJson) : CharBuf interfaceNameLength :=
  binding.getString (cstr "interface") interfaceNameLength

/-- A binding gives what is not cleared: the enable flag and a configuration object that its
interface reads. -/
structure BindingComplete (binding : CJson) : Prop where
  enable : (binding.getBool (cstr "enable")).isSome
  configuration : ∃ members, binding.getObjectItem (cstr "configuration") = some (.object members) ∧
    ConfigurationComplete (interfaceGiven binding).chars (.object members)

/-- The configuration that an element of `bindings` leaves. -/
def bindingConfigurationLeft (binding : CJson) (old : Configuration) : Configuration :=
  match binding.getObjectItem (cstr "configuration") with
  | some (.object members) =>
      configurationLeft (interfaceGiven binding).chars (.object members) old
  | _ => old

/-- The entry that an element of `bindings` leaves. -/
lemma applyAll_bindingAssignments {i : ℕ} (hi : i < maxBindings) (binding : CJson)
    (b : DeviceBinding) :
    applyAll (bindingAssignments i binding) b =
      { device := binding.getString (cstr "device") deviceNameLength
        plugin := binding.getString (cstr "plugin") pluginNameLength
        interface := interfaceGiven binding
        isEnabled := (binding.getBool (cstr "enable")).getD b.isEnabled
        compatible := binding.getString (cstr "compatible") compatibleNameLength
        configuration := bindingConfigurationLeft binding b.configuration } := by
  unfold bindingAssignments bindingConfigurationLeft
  simp only [applyAll_append, applyAll_cons, applyAll_nil]
  rcases binding.getBool (cstr "enable") with _ | enable
  all_goals
    rcases binding.getObjectItem (cstr "configuration") with _ | (_ | _ | _ | _ | _ | members)
  case none.some.object => exact getConfiguration_eq hi _ _
  case some.some.object => exact getConfiguration_eq hi _ _
  all_goals rfl

/-- A binding inside the table forgets the old entry iff it is complete. -/
lemma forgets_bindingAssignments_iff {i : ℕ} (hi : i < maxBindings) (binding : CJson) :
    Forgets DeviceBinding.Alike (bindingAssignments i binding) ↔ BindingComplete binding := by
  unfold Forgets
  simp only [applyAll_bindingAssignments hi]
  constructor
  · intro h
    have hconfiguration : ∀ old₁ old₂, FixedTable.Alike ConfigParameter.Alike
        (bindingConfigurationLeft binding old₁) (bindingConfigurationLeft binding old₂) :=
      fun old₁ old₂ => (h { unconfiguredBinding with configuration := old₁ }
        { unconfiguredBinding with configuration := old₂ }).configuration
    have henable : (binding.getBool (cstr "enable")).getD true =
        (binding.getBool (cstr "enable")).getD false :=
      (h unconfiguredBinding { unconfiguredBinding with isEnabled := false }).isEnabled
    refine ⟨(getD_eq_getD_iff (by decide)).mp henable, ?_⟩
    unfold bindingConfigurationLeft at hconfiguration
    split at hconfiguration
    · rename_i members hobject
      exact ⟨members, hobject, (forall_alike_configurationLeft_iff _ _).mp hconfiguration⟩
    · -- without a configuration object the old counts remain
      have hcount := (hconfiguration unconfiguredBinding.configuration
        ⟨unconfiguredBinding.configuration.entries, 1⟩).count
      exact absurd hcount (by decide)
  · rintro ⟨henable, members, hobject, hcomplete⟩ b₁ b₂
    obtain ⟨enable, henable⟩ := Option.isSome_iff_exists.mp henable
    rw [henable]
    unfold bindingConfigurationLeft
    rw [hobject]
    exact ⟨rfl, rfl, rfl, rfl, rfl, (forall_alike_configurationLeft_iff _ _).mpr hcomplete _ _⟩

instance : Nonempty DeviceBinding := ⟨unconfiguredBinding⟩

/-- **Bindings.** The loader forgets the past iff the document cannot be read, or its bindings fit
and each of them is complete. -/
lemma forgetsPast_platformParserLoad_iff (root : Option CJson) :
    ForgetsPast PlatformConfig.bindings DeviceBinding.Alike (platformParserLoad root) ↔
      LoadsComplete root (cstr "bindings") maxBindings BindingComplete := by
  rcases root with _ | root
  · exact ⟨fun _ => loadsComplete_none, fun _ => forgetsPast_of_refused _ _⟩
  · rw [loadsComplete_iff]
    have hfill := forgetsPast_fill_iff PlatformConfig.bindings DeviceBinding.Alike
      bindingAssignments (elements (root.getObjectItem (cstr "bindings")))
      (fun c bindings => ⟨schemaVersion root c.schemaVersion,
        match root.getObjectItem (cstr "platform") with
        | some (.object members) => platformInfo (.object members)
        | _ => c.platform, bindings⟩)
      (fun _ _ => rfl) (fun t => ⟨⟨0, ⟨.empty _, .empty _, .empty _, .empty _, .empty _⟩, t⟩, rfl⟩)
    refine Iff.trans hfill (and_congr_right fun hfit => forall₃_congr fun i e he => ?_)
    have hlength := (List.getElem?_eq_some_iff.mp he).1
    exact forgets_bindingAssignments_iff (Nat.lt_of_lt_of_le hlength hfit) e

end HardwareTest
