import HardwareTest.Lib.FixedTable
import HardwareTest.Common.SafeString
import Mathlib.Data.Int.Notation

/-!
# The configuration data model

The tables of `config/device.h`, `config/function.h`, `config/test.h` and `config/platform.h`,
the configuration manager that owns one of each, and its bounds-checked accessors. Every `char[n]`
member is a `CharBuf n`, every array with a counter is a `FixedTable`. A `configuration_t` value
is a union; `ConfigValue` holds its three readings side by side. The two differ in a slot that is
used again, under another key, for an integer or a boolean that the document does not give: C takes
the bytes of the old string, and here the old integer or boolean is taken. In both the value depends
on what the slot held before. Every other reading is the one that was written under the same key.
-/

namespace HardwareTest

open Lib

/-! ## Limits -/

abbrev maxDevices : ℕ := 128
abbrev deviceNameLength : ℕ := 64
abbrev deviceDescLength : ℕ := 128
abbrev maxFunctions : ℕ := 128
abbrev functionNameLength : ℕ := 64
abbrev functionDescLength : ℕ := 128
abbrev maxTests : ℕ := 128
abbrev testNameLength : ℕ := 64
abbrev testDescLength : ℕ := 128
abbrev maxBindings : ℕ := 64
abbrev pluginNameLength : ℕ := 64
abbrev interfaceNameLength : ℕ := 32
abbrev compatibleNameLength : ℕ := 64
abbrev maxConfigParameters : ℕ := 32
abbrev configKeyLength : ℕ := 64
abbrev configStringLength : ℕ := 128

/-! ## Devices: `config/device.h` -/

/-- Source: `config/device.h`, `DeviceType_e` -/
inductive DeviceType
  | led | button | temperatureSensor | powerSorce | accelerometer | camera | nwInterface
  | storage | audio | display | fan | bluetooth | npu | console | unknown
deriving DecidableEq

/-- Source: `config/device.h`, `device_def_t` -/
structure DeviceDef where
  id : CharBuf deviceNameLength
  type : DeviceType
  name : CharBuf deviceNameLength
  description : CharBuf deviceDescLength
deriving DecidableEq

/-- Source: `config/device.h`, `device_config_t` -/
structure DeviceConfig where
  schemaVersion : UInt32
  devices : FixedTable DeviceDef maxDevices

/-! ## Functions: `config/function.h` -/

/-- A logical function and the devices it needs: `device_name[]` with `count`.
Source: `config/function.h`, `function_def_t` -/
structure FunctionDef where
  name : CharBuf functionNameLength
  description : CharBuf functionDescLength
  deviceName : FixedTable (CharBuf functionNameLength) maxDevices

/-- Source: `config/function.h`, `function_config_t` -/
structure FunctionConfig where
  schemaVersion : UInt32
  functions : FixedTable FunctionDef maxFunctions

/-! ## Tests: `config/test.h` -/

/-- Source: `config/test.h`, `test_def_t` -/
structure TestDef where
  name : CharBuf testNameLength
  description : CharBuf testDescLength
  function : CharBuf functionNameLength
deriving DecidableEq

/-- Source: `config/test.h`, `test_config_t` -/
structure TestConfig where
  schemaVersion : UInt32
  tests : FixedTable TestDef maxTests

/-! ## The platform: `config/platform.h` -/

/-- Source: `config/platform.h`, `config_value_type_t` -/
inductive ConfigValueType
  | string | int | double | bool
deriving DecidableEq

/-- The readings of the `value` union: as a string, an integer and a boolean. Writing one of them
leaves the others, which share its bytes in C. -/
structure ConfigValue where
  stringValue : CharBuf configStringLength
  intValue : UInt32
  boolValue : Bool
deriving DecidableEq

/-- Source: `config/platform.h`, `config_parameter_t` -/
structure ConfigParameter where
  key : CharBuf configKeyLength
  type : ConfigValueType
  value : ConfigValue
deriving DecidableEq

/-- `parameters[]` with `parameter_count`. Source: `config/platform.h`, `configuration_t` -/
abbrev Configuration := FixedTable ConfigParameter maxConfigParameters

/-- Source: `config/platform.h`, `device_binding_t` -/
structure DeviceBinding where
  device : CharBuf deviceNameLength
  plugin : CharBuf pluginNameLength
  interface : CharBuf interfaceNameLength
  isEnabled : Bool
  compatible : CharBuf compatibleNameLength
  configuration : Configuration

/-- Source: `config/platform.h`, `platform_info_t` -/
structure PlatformInfo where
  name : CharBuf 64
  vendor : CharBuf 64
  soc : CharBuf 64
  description : CharBuf 256
  pluginDirectory : CharBuf 256

/-- Source: `config/platform.h`, `platform_config_t` -/
structure PlatformConfig where
  schemaVersion : UInt32
  platform : PlatformInfo
  bindings : FixedTable DeviceBinding maxBindings

/-! ## The configuration manager: `config/config-manager.c` -/

/-- Source: `config/config-manager.c`, `config_manager_t` -/
structure ConfigManager where
  deviceConfig : DeviceConfig
  functionConfig : FunctionConfig
  testConfig : TestConfig
  platformConfig : PlatformConfig

namespace ConfigManager

variable (cfgMan : ConfigManager)

/-- Source: `config/config-manager.c`, `config_manager_get_platform_device_count` -/
def getPlatformDeviceCount : ℕ := cfgMan.platformConfig.bindings.count

/-- Source: `config/config-manager.c`, `config_manager_get_platform_device_by_index` -/
def getPlatformDeviceByIndex (index : ℕ) : Option DeviceBinding :=
  cfgMan.platformConfig.bindings.get? index

/-- Source: `config/config-manager.c`, `config_manager_get_device_count` -/
def getDeviceCount : ℕ := cfgMan.deviceConfig.devices.count

/-- Source: `config/config-manager.c`, `config_manager_get_device_by_index` -/
def getDeviceByIndex (index : ℕ) : Option DeviceDef := cfgMan.deviceConfig.devices.get? index

/-- Source: `config/config-manager.c`, `config_manager_get_function_count` -/
def getFunctionCount : ℕ := cfgMan.functionConfig.functions.count

/-- Source: `config/config-manager.c`, `config_manager_get_function_by_index` -/
def getFunctionByIndex (index : ℕ) : Option FunctionDef :=
  cfgMan.functionConfig.functions.get? index

/-- Source: `config/config-manager.c`, `config_manager_get_test_count` -/
def getTestCount : ℕ := cfgMan.testConfig.tests.count

/-- Source: `config/config-manager.c`, `config_manager_get_test_by_index` -/
def getTestByIndex (index : ℕ) : Option TestDef := cfgMan.testConfig.tests.get? index

/-! The entries of the four tables. -/

/-- The configured devices. -/
def devices : List DeviceDef := cfgMan.deviceConfig.devices.items

/-- The configured bindings. -/
def bindings : List DeviceBinding := cfgMan.platformConfig.bindings.items

/-- The configured functions. -/
def functions : List FunctionDef := cfgMan.functionConfig.functions.items

/-- The configured tests. -/
def tests : List TestDef := cfgMan.testConfig.tests.items

/-- Every table counts at most as many entries as it has cells, and so does the device list of
every function. -/
structure WithinLimits : Prop where
  deviceLimit : cfgMan.deviceConfig.devices.WithinLimit
  bindingLimit : cfgMan.platformConfig.bindings.WithinLimit
  functionLimit : cfgMan.functionConfig.functions.WithinLimit
  testLimit : cfgMan.testConfig.tests.WithinLimit
  functionDeviceLimit : ∀ f ∈ cfgMan.functions, f.deviceName.WithinLimit

end ConfigManager

end HardwareTest
