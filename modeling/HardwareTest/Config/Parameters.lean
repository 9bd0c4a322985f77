import HardwareTest.Config.CJson
import HardwareTest.Config.Definitions

/-!
# Binding parameters: `config/platform.c`

`get_gpio`, `get_i2c` and `get_v4l2` write the members of a configuration object as a flat
list of keyed parameters. `ParameterWriter` is the list under construction with the local counter;
a write outside `parameters[MAX_CONFIG_PARAMETERS]` is recorded in `outside` and otherwise dropped.
The counter, a `uint8_t`, stays far below its limit: each array stops at 32.
-/

namespace HardwareTest

open Lib CJson

/-- The parameter list under construction. -/
structure ParameterWriter where
  parameters : Vector ConfigParameter maxConfigParameters
  count : ℕ
  /-- The indices outside the list that were written. -/
  outside : List ℕ

namespace ParameterWriter

/-- Start over in the parameter list of a binding: `uint8_t count = 0;`. -/
def start (configuration : Configuration) : ParameterWriter :=
  ⟨configuration.entries, 0, []⟩

/-- The configuration a finished list leaves: `parameter_count = count;`. -/
def finish (w : ParameterWriter) : Configuration := ⟨w.parameters, w.count⟩

/-- A parameter rewritten: the key and the type, and of the value what `f` rewrites. -/
def rewriteParameter (key : CString) (type : ConfigValueType) (f : ConfigValue → ConfigValue)
    (p : ConfigParameter) : ConfigParameter where
  key := safeStringCopy key (configKeyLength - 1)
  type := type
  value := f p.value

/-- Write the next parameter and count it. -/
def put (w : ParameterWriter) (key : CString) (type : ConfigValueType)
    (f : ConfigValue → ConfigValue) : ParameterWriter :=
  if h : w.count < maxConfigParameters then
    { w with
      parameters := w.parameters.set w.count
        (rewriteParameter key type f (w.parameters.get ⟨w.count, h⟩))
      count := w.count + 1 }
  else { w with count := w.count + 1, outside := w.outside ++ [w.count] }

/-- The array loop: an element of another kind is skipped (`read` is `none`), and the loop breaks
when the list is full. -/
def putArray (key : CString) (type : ConfigValueType)
    (read : CJson → Option (ConfigValue → ConfigValue)) : List CJson → ParameterWriter →
    ParameterWriter
  | [], w => w
  | element :: rest, w =>
      match read element with
      | none => putArray key type read rest w
      | some f =>
          if w.count ≥ maxConfigParameters then w
          else putArray key type read rest (w.put key type f)

/-- `get_string` into the value of the next parameter. -/
def putString (w : ParameterWriter) (config : CJson) (key : CString) : ParameterWriter :=
  w.put key .string fun v => { v with stringValue := config.getString key configStringLength }

/-- `get_int` into the value of the next parameter. -/
def putInt (w : ParameterWriter) (config : CJson) (key : CString) : ParameterWriter :=
  w.put key .int fun v => { v with intValue := (config.getInt key).getD v.intValue }

/-- `get_bool` into the value of the next parameter. -/
def putBool (w : ParameterWriter) (config : CJson) (key : CString) : ParameterWriter :=
  w.put key .bool fun v => { v with boolValue := (config.getBool key).getD v.boolValue }

end ParameterWriter

open ParameterWriter

/-! ## Reading an array element -/

/-- A number, as an integer value. -/
def intElement (element : CJson) : Option (ConfigValue → ConfigValue) :=
  (asInt (some element)).map fun x v => { v with intValue := x }

/-- A string, as a string value of at most 62 bytes. -/
def stringElement (element : CJson) : Option (ConfigValue → ConfigValue) :=
  (asString (some element)).map fun s v =>
    { v with stringValue := safeStringCopy s (configKeyLength - 1) }

/-- A boolean, as a boolean value. -/
def boolElement (element : CJson) : Option (ConfigValue → ConfigValue) :=
  (asBool (some element)).map fun b v => { v with boolValue := b }

/-! ## The encoders -/

/-- The lines: the array `lines`, or the single `line`. -/
def putLines (config : CJson) (w : ParameterWriter) : ParameterWriter :=
  match config.getObjectItem (cstr "lines") with
  | some (.array items) => putArray (cstr "line") .int intElement items w
  | _ => w.putInt config (cstr "line")

/-- The chips of the lines: the array or the single string `lines_chip`. -/
def putLinesChip (config : CJson) (w : ParameterWriter) : ParameterWriter :=
  match config.getObjectItem (cstr "lines_chip") with
  | some (.array items) => putArray (cstr "line_chip") .string stringElement items w
  | some (.string s) =>
      if w.count < maxConfigParameters then
        w.put (cstr "line_chip") .string fun v =>
          { v with stringValue := safeStringCopy s (configKeyLength - 1) }
      else w
  | _ => w

/-- The directions: the array `directions`, or the single `direction`. -/
def putDirections (config : CJson) (w : ParameterWriter) : ParameterWriter :=
  match config.getObjectItem (cstr "directions") with
  | some (.array items) => putArray (cstr "direction") .int intElement items w
  | _ => w.putInt config (cstr "direction")

/-- The polarities: the array or the single boolean `active_low`. -/
def putActiveLow (config : CJson) (w : ParameterWriter) : ParameterWriter :=
  match config.getObjectItem (cstr "active_low") with
  | some (.array items) => putArray (cstr "active_low") .bool boolElement items w
  | _ => w.putBool config (cstr "active_low")

/-- The parameter list of a gpio configuration object, over what the list held before. -/
def gpioParameters (config : CJson) (configuration : Configuration) : ParameterWriter :=
  putActiveLow config <| putDirections config <| putLinesChip config <| putLines config <|
    (start configuration).putString config (cstr "chip")

/-- Source: `config/platform.c`, `get_gpio` -/
def getGpio (config : CJson) (bindingCount : ℕ) (binding : DeviceBinding) : ℤ × DeviceBinding :=
  if bindingCount ≥ maxBindings then (-1, binding)
  else (0, { binding with configuration := (gpioParameters config binding.configuration).finish })

/-- Source: `config/platform.c`, `get_i2c` -/
def getI2c (config : CJson) (bindingCount : ℕ) (binding : DeviceBinding) : ℤ × DeviceBinding :=
  if bindingCount ≥ maxBindings then (-1, binding)
  else
    let w := start binding.configuration
    let w := w.putString config (cstr "bus")
    let w := w.putInt config (cstr "address")
    let w := w.putInt config (cstr "frequency_hz")
    (0, { binding with configuration := w.finish })

/-- Source: `config/platform.c`, `get_v4l2` -/
def getV4l2 (config : CJson) (bindingCount : ℕ) (binding : DeviceBinding) : ℤ × DeviceBinding :=
  if bindingCount ≥ maxBindings then (-1, binding)
  else
    let w := start binding.configuration
    let w := w.putString config (cstr "device")
    let w := w.putString config (cstr "pixel_format")
    let w := w.putString config (cstr "resolution")
    (0, { binding with configuration := w.finish })

end HardwareTest
