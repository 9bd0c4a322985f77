import HardwareTest.Config.Definitions

/-!
# The gpio abstraction: `hal/gpio/gpio-hal.h`

The configuration that travels from the binding parameters to the gpio plugin. Directions and
levels are kept as the numbers that the enumerations stand for.
-/

namespace HardwareTest

abbrev gpioMaxLines : ℕ := 8

/-- There is a first line. -/
lemma gpioMaxLines_pos : 0 < gpioMaxLines := by decide

/-- Source: `hal/gpio/gpio-hal.h`, `gpio_configuration_t` -/
structure GpioConfiguration where
  chip : CharBuf configKeyLength
  line : UInt32
  linesCount : ℕ
  lines : Vector UInt32 gpioMaxLines
  linesChip : Vector (CharBuf configKeyLength) gpioMaxLines
  direction : UInt32
  activeLow : UInt8
  directionsCount : ℕ
  directions : Vector UInt32 gpioMaxLines
  activeLowCount : ℕ
  activeLowLines : Vector UInt8 gpioMaxLines

/-- `gpio_configuration_t configuration = {0};` -/
def GpioConfiguration.zeroed : GpioConfiguration where
  chip := .empty _
  line := 0
  linesCount := 0
  lines := .replicate _ 0
  linesChip := .replicate _ (.empty _)
  direction := 0
  activeLow := 0
  directionsCount := 0
  directions := .replicate _ 0
  activeLowCount := 0
  activeLowLines := .replicate _ 0

/-- Source: `hal/gpio/gpio-hal.h`, `gpio_direction_t` -/
def gpioDirectionInput : UInt32 := 0

/-- Source: `hal/gpio/gpio-hal.h`, `gpio_direction_t` -/
def gpioDirectionOutput : UInt32 := 1

/-- Source: `hal/gpio/gpio-hal.h`, `gpio_level_t` -/
def gpioLevelLow : UInt32 := 0

/-- Source: `hal/gpio/gpio-hal.h`, `gpio_level_t` -/
def gpioLevelHigh : UInt32 := 1

/-- Source: `hal/gpio/gpio-hal.h`, `gpio_command_t` -/
def gpioCommandSetConfiguration : UInt32 := 0

end HardwareTest
