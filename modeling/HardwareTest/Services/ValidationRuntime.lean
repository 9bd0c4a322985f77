import HardwareTest.Config.Parameters
import HardwareTest.Hal.Gpio
import HardwareTest.Services.DeviceManager

/-!
# Opening a gpio device: `services/validation-runtime.c`

`validation_runtime_open_gpio` decodes the parameters of a binding into a `gpio_configuration_t`,
with one counter for each key. A direction is the number stored in the enumeration.

* `Setting` is what the chain of `strcmp` reads of a parameter: its key, and the reading of the
  value that goes with it. `decodeSetting` is the loop body.
-/

namespace HardwareTest

open Lib

/-- What the loop reads of a parameter. -/
inductive Setting
  | chip (name : CString)
  | line (offset : UInt32)
  | lineChip (name : CString)
  | direction (value : UInt32)
  | activeLow (value : Bool)
  | other
deriving DecidableEq

/-- The chain of `strcmp`. Source: `services/validation-runtime.c`, `validation_runtime_open_gpio`
-/
def readSetting (p : ConfigParameter) : Setting :=
  if p.key.chars = cstr "chip" then .chip p.value.stringValue.chars
  else if p.key.chars = cstr "line" then .line p.value.intValue
  else if p.key.chars = cstr "line_chip" then .lineChip p.value.stringValue.chars
  else if p.key.chars = cstr "direction" then .direction p.value.intValue
  else if p.key.chars = cstr "active_low" then .activeLow p.value.boolValue
  else .other

/-- The configuration under construction with the four counters. -/
structure GpioDecoder where
  configuration : GpioConfiguration
  lineIndex : ℕ
  chipIndex : ℕ
  directionIndex : ℕ
  activeLowIndex : ℕ

/-- Before the loop: lines the caller has put in are kept. -/
def GpioDecoder.start (configuration : GpioConfiguration) : GpioDecoder :=
  ⟨configuration, configuration.linesCount, 0, 0, 0⟩

/-- The loop body. Source: `services/validation-runtime.c`, `validation_runtime_open_gpio` -/
def decodeSetting (st : GpioDecoder) : Setting → GpioDecoder
  | .chip name =>
      let c := st.configuration
      if c.chip.chars = [] then
        { st with configuration := { c with chip := safeStringCopy name (configKeyLength - 1) } }
      else st
  | .line offset =>
      let c := st.configuration
      if h : st.lineIndex < gpioMaxLines then
        { st with
          configuration := { c with
            lines := c.lines.set st.lineIndex offset
            linesChip :=
              if c.linesChip[st.lineIndex].chars = [] ∧ c.chip.chars ≠ [] then
                c.linesChip.set st.lineIndex (safeStringCopy c.chip.chars (configKeyLength - 1))
              else c.linesChip }
          lineIndex := st.lineIndex + 1 }
      else st
  | .lineChip name =>
      let c := st.configuration
      if h : st.chipIndex < gpioMaxLines then
        { st with
          configuration := { c with
            linesChip := c.linesChip.set st.chipIndex (safeStringCopy name (configKeyLength - 1)) }
          chipIndex := st.chipIndex + 1 }
      else st
  | .direction value =>
      let c := st.configuration
      if h : st.directionIndex < gpioMaxLines then
        { st with
          configuration := { c with
            directions := c.directions.set st.directionIndex value
            direction := if st.directionIndex = 0 then value else c.direction }
          directionIndex := st.directionIndex + 1 }
      else st
  | .activeLow value =>
      let c := st.configuration
      if h : st.activeLowIndex < gpioMaxLines then
        { st with
          configuration := { c with
            activeLowLines := c.activeLowLines.set st.activeLowIndex value.toUInt8
            activeLow := if st.activeLowIndex = 0 then value.toUInt8 else c.activeLow }
          activeLowIndex := st.activeLowIndex + 1 }
      else st
  | .other => st

/-- The counts after the loop. -/
def storeCounts (st : GpioDecoder) : GpioConfiguration :=
  { st.configuration with
    linesCount := max st.configuration.linesCount st.lineIndex
    directionsCount := st.directionIndex
    activeLowCount := st.activeLowIndex }

/-- The fallbacks after the loop: the single line, chip, direction and polarity stand in for lists
that were not given. The chip copies are within the array as `lines_count <= GPIO_MAX_LINES`. -/
def applyDefaults (c : GpioConfiguration) : GpioConfiguration :=
  haveI := gpioMaxLines_pos
  let c :=
    if c.linesCount = 0 ∧ c.chip.chars ≠ [] then
      { c with lines := c.lines.set 0 c.line, linesCount := 1 }
    else c
  let c := if c.linesCount > 0 then { c with line := c.lines[0] } else c
  let c :=
    if c.linesCount > 0 ∧ c.linesChip[0].chars = [] then
      { c with linesChip := Vector.ofFn fun i =>
          if i < c.linesCount then safeStringCopy c.chip.chars (configKeyLength - 1)
          else c.linesChip.get i }
    else c
  let c :=
    if c.directionsCount = 0 ∧ c.linesCount > 0 then
      { c with directions := c.directions.set 0 c.direction, directionsCount := 1 }
    else c
  if c.activeLowCount = 0 ∧ c.linesCount > 0 then
    { c with activeLowLines := c.activeLowLines.set 0 c.activeLow, activeLowCount := 1 }
  else c

/-- The decoding of a parameter list into a gpio configuration. -/
def decodeGpio (parameters : List ConfigParameter) (configuration : GpioConfiguration) :
    GpioConfiguration :=
  applyDefaults (storeCounts ((parameters.map readSetting).foldl decodeSetting (.start configuration)))

/-- The handle, if there is one, and the configuration afterwards; `plugins` is the plugin manager's
table and `halOpen` is `gpio_hal_open`.
Source: `services/validation-runtime.c`, `validation_runtime_open_gpio` -/
def validationRuntimeOpenGpio {π η : Type} (dm : DeviceManager) (plugins : CString → Option π)
    (halOpen : π → Option η) (deviceName : CString) (configuration : GpioConfiguration) :
    Option η × GpioConfiguration :=
  match dm.getDeviceByName deviceName with
  | none => (none, configuration)
  | some device =>
      match plugins device.binding.plugin.chars with
      | none => (none, configuration)
      | some plugin =>
          (halOpen plugin, decodeGpio device.binding.configuration.items configuration)

end HardwareTest
