import HardwareTest.Config.ParameterBounds

/-!
# The four loaders: `config/device.c`, `function.c`, `test.c`, `platform.c`

Each loader walks the array of its document and writes one table entry for every element, at the
index that counts the elements. What an element writes is a list of assignments to that entry, in
source order (`FixedTable.fill`); an assignment at an index outside the table makes the loader
`none`. `root` is the parsed document, `none` when the file cannot be read or parsed.

The counters are 32 bits wide and do not wrap: `read_file_to_string` reads at most `2 ^ 32 - 1`
bytes, so no array has `2 ^ 32` elements.

`loaders_within_limits_iff`: a loader stays inside its table exactly when the array is no longer
than the table; the parameters of a gpio binding have to find room in the binding as well. Nothing
in the loaders compares the counter with the capacity.
-/

namespace HardwareTest

open Lib CJson

/-- The schema version of a document, when it has one. -/
def schemaVersion (root : CJson) (old : UInt32) : UInt32 :=
  (root.getInt (cstr "schema_version")).getD old

/-- An assignment of a string member, made when the element has the string. -/
def assignString {α : Type} (element : CJson) (key : CString) (f : CString → α → α) :
    List (α → α) :=
  ((asString (element.getObjectItem key)).map f).toList

/-! ## Devices -/

/-- Source: `config/device.c`, `string_to_device_type` -/
def stringToDeviceType (typeStr : CString) : DeviceType :=
  if typeStr = cstr "LED" then .led
  else if typeStr = cstr "Button" then .button
  else if typeStr = cstr "Temperature Sensor" then .temperatureSensor
  else if typeStr = cstr "Power Source" then .powerSorce
  else if typeStr = cstr "Accelerometer" then .accelerometer
  else if typeStr = cstr "Camera" then .camera
  else if typeStr = cstr "Network Interface" then .nwInterface
  else if typeStr = cstr "Storage" then .storage
  else if typeStr = cstr "Audio Device" then .audio
  else if typeStr = cstr "Display" then .display
  else if typeStr = cstr "Fan" then .fan
  else if typeStr = cstr "Bluetooth Device" then .bluetooth
  else if typeStr = cstr "NPU" then .npu
  else if typeStr = cstr "Console" then .console
  else .unknown

/-- What one element of `devices` writes. -/
def deviceAssignments (device : CJson) : List (DeviceDef → DeviceDef) :=
  assignString device (cstr "id") (fun s d => { d with id := safeStringCopy s deviceNameLength }) ++
  assignString device (cstr "name") (fun s d =>
    { d with name := safeStringCopy s deviceNameLength }) ++
  assignString device (cstr "type") (fun s d => { d with type := stringToDeviceType s }) ++
  assignString device (cstr "description") fun s d =>
    { d with description := safeStringCopy s deviceDescLength }

/-- Source: `config/device.c`, `device_parser_load` -/
def deviceParserLoad (root : Option CJson) (cfg : DeviceConfig) : Option (ℤ × DeviceConfig) :=
  match root with
  | none => some (-1, cfg)
  | some root =>
      (FixedTable.fill (fun _ => deviceAssignments) { cfg.devices with count := 0 }
        (elements (root.getObjectItem (cstr "devices")))).map fun devices =>
          (0, { schemaVersion := schemaVersion root cfg.schemaVersion, devices := devices })

/-! ## Functions -/

/-- The next device name of a function: strings only, while the list has a cell for it. -/
def addDeviceName (names : FixedTable (CharBuf functionNameLength) maxDevices) (device : CJson) :
    FixedTable (CharBuf functionNameLength) maxDevices :=
  match asString (some device) with
  | none => names
  | some s =>
      if h : names.count < maxDevices then names.push (safeStringCopy s functionNameLength) h
      else names

/-- The device names of a function, from the first cell on. -/
def fillDeviceNames (deviceNames : List CJson) (f : FunctionDef) : FunctionDef :=
  { f with deviceName := deviceNames.foldl addDeviceName { f.deviceName with count := 0 } }

/-- What one element of `functions` writes. -/
def functionAssignments (function : CJson) : List (FunctionDef → FunctionDef) :=
  assignString function (cstr "name") (fun s f =>
    { f with name := safeStringCopy s functionNameLength }) ++
  assignString function (cstr "description") (fun s f =>
    { f with description := safeStringCopy s functionDescLength }) ++
  match function.getObjectItem (cstr "device-name") with
  | some (.array deviceNames) => [fillDeviceNames deviceNames]
  | _ => []

/-- Source: `config/function.c`, `function_parser_load` -/
def functionParserLoad (root : Option CJson) (cfg : FunctionConfig) :
    Option (ℤ × FunctionConfig) :=
  match root with
  | none => some (-1, cfg)
  | some root =>
      (FixedTable.fill (fun _ => functionAssignments) { cfg.functions with count := 0 }
        (elements (root.getObjectItem (cstr "functions")))).map fun functions =>
          (0, { schemaVersion := schemaVersion root cfg.schemaVersion, functions := functions })

/-! ## Tests -/

/-- What one element of `tests` writes. -/
def testAssignments (test : CJson) : List (TestDef → TestDef) :=
  assignString test (cstr "name") (fun s t => { t with name := safeStringCopy s testNameLength }) ++
  assignString test (cstr "description") (fun s t =>
    { t with description := safeStringCopy s testDescLength }) ++
  assignString test (cstr "function") fun s t =>
    { t with function := safeStringCopy s functionNameLength }

/-- Source: `config/test.c`, `test_parser_load` -/
def testParserLoad (root : Option CJson) (cfg : TestConfig) : Option (ℤ × TestConfig) :=
  match root with
  | none => some (-1, cfg)
  | some root =>
      (FixedTable.fill (fun _ => testAssignments) { cfg.tests with count := 0 }
        (elements (root.getObjectItem (cstr "tests")))).map fun tests =>
          (0, { schemaVersion := schemaVersion root cfg.schemaVersion, tests := tests })

/-! ## The platform -/

/-- The members of the `platform` object. -/
def platformInfo (platform : CJson) : PlatformInfo where
  name := platform.getString (cstr "name") 64
  vendor := platform.getString (cstr "vendor") 64
  soc := platform.getString (cstr "soc") 64
  description := platform.getString (cstr "description") 256
  pluginDirectory := platform.getString (cstr "plugin_directory") 256

/-- The parameters of a binding, by its interface. -/
def getConfiguration (config : CJson) (bindingCount : ℕ) (b : DeviceBinding) : DeviceBinding :=
  if safeStringCompare b.interface.chars (cstr "gpio") then (getGpio config bindingCount b).2
  else if safeStringCompare b.interface.chars (cstr "i2c") then (getI2c config bindingCount b).2
  else if safeStringCompare b.interface.chars (cstr "v4l2") then (getV4l2 config bindingCount b).2
  else b

/-- What one element of `bindings` writes at an index; `get_string` writes even when the element
has no such member. -/
def bindingAssignments (bindingCount : ℕ) (binding : CJson) : List (DeviceBinding → DeviceBinding) :=
  [fun b => { b with device := binding.getString (cstr "device") deviceNameLength },
    fun b => { b with plugin := binding.getString (cstr "plugin") pluginNameLength },
    fun b => { b with interface := binding.getString (cstr "interface") interfaceNameLength }] ++
  ((binding.getBool (cstr "enable")).map fun x b => { b with isEnabled := x }).toList ++
  [fun b => { b with compatible := binding.getString (cstr "compatible") compatibleNameLength }] ++
  match binding.getObjectItem (cstr "configuration") with
  | some (.object members) => [getConfiguration (.object members) bindingCount]
  | _ => []

/-- Source: `config/platform.c`, `platform_parser_load` -/
def platformParserLoad (root : Option CJson) (cfg : PlatformConfig) :
    Option (ℤ × PlatformConfig) :=
  match root with
  | none => some (-1, cfg)
  | some root =>
      (FixedTable.fill bindingAssignments { cfg.bindings with count := 0 }
        (elements (root.getObjectItem (cstr "bindings")))).map fun bindings =>
          (0, { schemaVersion := schemaVersion root cfg.schemaVersion
                platform :=
                  match root.getObjectItem (cstr "platform") with
                  | some (.object members) => platformInfo (.object members)
                  | _ => cfg.platform
                bindings := bindings })

/-! ## Staying inside the tables -/

/-- A loader stays inside: no write outside the table, and a count within the capacity. -/
def LoadsWithin {κ α : Type} {n : ℕ} (table : κ → FixedTable α n) (r : Option (ℤ × κ)) : Prop :=
  ∃ code cfg, r = some (code, cfg) ∧ (table cfg).WithinLimit

/-- A loader that fills its table from an array stays inside iff the array fits. -/
lemma loadsWithin_fill_iff {κ α : Type} {n : ℕ} {table : κ → FixedTable α n}
    (fs : ℕ → CJson → List (α → α)) (t : FixedTable α n) (items : List CJson)
    {result : FixedTable α n → κ} (hresult : ∀ u, table (result u) = u) :
    LoadsWithin table ((FixedTable.fill fs { t with count := 0 } items).map fun u =>
      ((0 : ℤ), result u)) ↔ items.length ≤ n := by
  have hfill := FixedTable.exists_fill_iff fs { t with count := 0 } items
  rw [Nat.zero_add] at hfill
  rw [← hfill]
  constructor
  · rintro ⟨code, cfg, hload, hlim⟩
    rw [Option.map_eq_some_iff] at hload
    obtain ⟨u, hu, heq⟩ := hload
    cases heq
    rw [hresult] at hlim
    exact ⟨u, hu, hlim⟩
  · rintro ⟨u, hu, hlim⟩
    exact ⟨0, result u, by rw [hu]; rfl, by rwa [hresult]⟩

/-- The object that an element of `bindings` gives to `get_gpio`. -/
def gpioConfiguration (binding : CJson) : Option CJson :=
  match binding.getObjectItem (cstr "configuration") with
  | some (.object members) =>
      if safeStringCompare (binding.getString (cstr "interface") interfaceNameLength).chars
        (cstr "gpio") then some (.object members) else none
  | _ => none

/-- **The platform loader stays inside**: its table, and for each element that is a gpio binding
the `parameters[]` of the entry, whatever the entry held before. A parameter behind the last entry
is behind the table. -/
structure PlatformWithin (root : CJson) (cfg : PlatformConfig) : Prop where
  table : LoadsWithin PlatformConfig.bindings (platformParserLoad (some root) cfg)
  parameters : ∀ binding ∈ elements (root.getObjectItem (cstr "bindings")),
    ∀ config ∈ gpioConfiguration binding, ∀ old, (gpioParameters config old).outside = []

/-- Every gpio object of the bindings finds room for the values that have no bound check. -/
def GpioFindRoom (root : CJson) : Prop :=
  ∀ binding ∈ elements (root.getObjectItem (cstr "bindings")),
    ∀ config ∈ gpioConfiguration binding, FindsRoom config

/-- No parameter is written outside an entry, whatever it held, iff the two unguarded values find
room. -/
lemma outside_gpioParameters_iff (config : CJson) :
    (∀ old, (gpioParameters config old).outside = []) ↔ FindsRoom config := by
  constructor
  · intro hinside
    exact findsRoom_of_inside unconfiguredBinding.configuration (hinside _)
  · intro hroom old
    exact (filled_gpioParameters old hroom).outside

/-- The platform loader stays inside iff the array fits and its gpio objects find room. -/
lemma platformWithin_iff (root : CJson) (cfg : PlatformConfig) :
    PlatformWithin root cfg ↔
      (elements (root.getObjectItem (cstr "bindings"))).length ≤ maxBindings ∧
        GpioFindRoom root := by
  have htable : LoadsWithin PlatformConfig.bindings (platformParserLoad (some root) cfg) ↔
      (elements (root.getObjectItem (cstr "bindings"))).length ≤ maxBindings :=
    loadsWithin_fill_iff _ _ _ fun _ => rfl
  rw [← htable]
  constructor
  · rintro ⟨hwithin, hinside⟩
    exact ⟨hwithin, fun binding hb config hc =>
      (outside_gpioParameters_iff config).mp (hinside binding hb config hc)⟩
  · rintro ⟨hwithin, hroom⟩
    exact ⟨hwithin, fun binding hb config hc =>
      (outside_gpioParameters_iff config).mpr (hroom binding hb config hc)⟩

/-- **Configuration tables.** For every JSON document, whatever the length of its arrays and the
kind of their elements, and whatever the tables held before: each loader writes only inside its
table and ends with a count within the capacity if and only if the array it loads has at most
`MAX_DEVICES`, `MAX_FUNCTIONS`, `MAX_TESTS` or `MAX_BINDINGS` elements and, in the bindings, every
gpio object finds room for its direction and its polarity in the parameters of its entry.
Source: `config/device.c`, `config/function.c`, `config/test.c`, `config/platform.c` -/
theorem loaders_within_limits_iff (root : CJson) (deviceConfig : DeviceConfig)
    (functionConfig : FunctionConfig) (testConfig : TestConfig) (platformConfig : PlatformConfig) :
    (LoadsWithin DeviceConfig.devices (deviceParserLoad (some root) deviceConfig) ↔
      (elements (root.getObjectItem (cstr "devices"))).length ≤ maxDevices) ∧
    (LoadsWithin FunctionConfig.functions (functionParserLoad (some root) functionConfig) ↔
      (elements (root.getObjectItem (cstr "functions"))).length ≤ maxFunctions) ∧
    (LoadsWithin TestConfig.tests (testParserLoad (some root) testConfig) ↔
      (elements (root.getObjectItem (cstr "tests"))).length ≤ maxTests) ∧
    (PlatformWithin root platformConfig ↔
      (elements (root.getObjectItem (cstr "bindings"))).length ≤ maxBindings ∧
        GpioFindRoom root) :=
  ⟨loadsWithin_fill_iff _ _ _ fun _ => rfl, loadsWithin_fill_iff _ _ _ fun _ => rfl,
    loadsWithin_fill_iff _ _ _ fun _ => rfl, platformWithin_iff root platformConfig⟩

/-- A document with one device more than the table has cells. -/
def oneDeviceTooMany : CJson :=
  .object [(cstr "devices", .array
    (List.replicate (maxDevices + 1) (.object [(cstr "name", .string (cstr "status_led"))])))]

/-- A device table with no entry. -/
def noDevices : DeviceConfig := ⟨1, .ofList _ ⟨.empty _, .led, .empty _, .empty _⟩ []⟩

/-- The loader writes the 129th device behind the table of 128. -/
theorem deviceParserLoad_oneDeviceTooMany :
    ¬ LoadsWithin DeviceConfig.devices
      (deviceParserLoad (some oneDeviceTooMany) noDevices) := by
  unfold deviceParserLoad
  rw [loadsWithin_fill_iff _ _ _ fun _ => rfl]
  show ¬ (List.replicate (maxDevices + 1) _).length ≤ maxDevices
  rw [List.length_replicate]
  omega

end HardwareTest
