import HardwareTest.Hal.Gpio
import HardwareTest.Lib.Ledger

/-!
# The gpio device: `plugins/gpio_linux/gpio-device.c`

The Linux build of the plugin, over a model of libgpiod that numbers its calls, makes a fresh object
for every call that succeeds and logs what is acquired, used and released. Which calls succeed, and
which level a read finds, is an arbitrary `Outcomes`. An access outside an array and a null line
request handed to libgpiod make a program fail.

* An object remembers what it was made from and set to (a chip its path, a line request its chip and
  its lines); the code never reads that. The settings and the line config of a line are local, so a
  call that changes them gives them back changed.
* `rollback` and `abandonLine` are the parts that the failure exits of `gpio_device_control` share.
-/

namespace HardwareTest

open Lib

/-! ## libgpiod -/

/-- `struct gpiod_chip`, with the path it was opened by. -/
structure Chip where
  number : ℕ
  path : CString
deriving DecidableEq

/-- `enum gpiod_line_direction`, as far as the plugin uses it. -/
inductive LineDirection
  | asIs
  | input
  | output
deriving DecidableEq

/-- `struct gpiod_line_settings` -/
structure LineSettings where
  number : ℕ
  direction : LineDirection
  outputActive : Bool

/-- A line with the settings it was given. -/
structure LineSetup where
  offset : UInt32
  direction : LineDirection
  outputActive : Bool
deriving DecidableEq

/-- `struct gpiod_line_config`, with the lines added to it. -/
structure LineConfig where
  number : ℕ
  lines : List LineSetup

/-- `struct gpiod_line_request`, with the chip and the lines it was made for. -/
structure LineRequest where
  number : ℕ
  chip : Chip
  lines : List LineSetup
deriving DecidableEq

/-- The objects that libgpiod hands out. -/
inductive GpiodObject
  | chip (c : Chip)
  | requestConfig (number : ℕ)
  | lineConfig (number : ℕ)
  | lineSettings (number : ℕ)
  | lineRequest (r : LineRequest)
deriving DecidableEq

instance : Resource GpiodObject where
  number
    | .chip c => c.number
    | .requestConfig k | .lineConfig k | .lineSettings k => k
    | .lineRequest r => r.number
  parent
    | .lineRequest r => some (.chip r.chip)
    | _ => none

/-- Which calls succeed, and whether a line that is read is active. -/
structure Outcomes where
  succeeds : ℕ → Bool
  active : ℕ → Bool

/-- A computation that calls libgpiod. -/
abbrev GpioProgram := Program GpiodObject

section libgpiod

variable (o : Outcomes)

def gpiodChipOpen (path : CString) : GpioProgram (Option Chip) :=
  acquire o.succeeds .chip fun k => ⟨k, path⟩

def gpiodChipClose (chip : Chip) : GpioProgram Unit := release (.chip chip)

def gpiodRequestConfigNew : GpioProgram (Option ℕ) := acquire o.succeeds .requestConfig id

def gpiodRequestConfigFree (reqCfg : ℕ) : GpioProgram Unit := release (.requestConfig reqCfg)

def gpiodRequestConfigSetConsumer (reqCfg : ℕ) (_consumer : CString) : GpioProgram Unit :=
  use (.requestConfig reqCfg)

def gpiodLineConfigNew : GpioProgram (Option LineConfig) :=
  acquire o.succeeds (fun c => .lineConfig c.number) fun k => ⟨k, []⟩

def gpiodLineConfigFree (lineCfg : LineConfig) : GpioProgram Unit :=
  release (.lineConfig lineCfg.number)

def gpiodLineSettingsNew : GpioProgram (Option LineSettings) :=
  acquire o.succeeds (fun s => .lineSettings s.number) fun k => ⟨k, .asIs, false⟩

def gpiodLineSettingsFree (lineSettings : LineSettings) : GpioProgram Unit :=
  release (.lineSettings lineSettings.number)

/-- The settings afterwards, `none` when the call fails. -/
def gpiodLineSettingsSetDirection (lineSettings : LineSettings) (direction : LineDirection) :
    GpioProgram (Option LineSettings) := do
  use (.lineSettings lineSettings.number)
  attempt o.succeeds { lineSettings with direction }

/-- The settings afterwards, `none` when the call fails. -/
def gpiodLineSettingsSetOutputValue (lineSettings : LineSettings) (outputActive : Bool) :
    GpioProgram (Option LineSettings) := do
  use (.lineSettings lineSettings.number)
  attempt o.succeeds { lineSettings with outputActive }

/-- The line config with a line more, `none` when the call fails. -/
def gpiodLineConfigAddLineSettings (lineCfg : LineConfig) (offset : UInt32)
    (lineSettings : LineSettings) : GpioProgram (Option LineConfig) := do
  use (.lineConfig lineCfg.number)
  use (.lineSettings lineSettings.number)
  attempt o.succeeds { lineCfg with
    lines := lineCfg.lines ++ [⟨offset, lineSettings.direction, lineSettings.outputActive⟩] }

def gpiodChipRequestLines (chip : Chip) (reqCfg : ℕ) (lineCfg : LineConfig) :
    GpioProgram (Option LineRequest) := do
  use (.chip chip)
  use (.requestConfig reqCfg)
  use (.lineConfig lineCfg.number)
  acquire o.succeeds .lineRequest fun k => ⟨k, chip, lineCfg.lines⟩

def gpiodLineRequestRelease (request : LineRequest) : GpioProgram Unit :=
  release (.lineRequest request)

/-- Whether the line is active, `none` for `GPIOD_LINE_VALUE_ERROR`. -/
def gpiodLineRequestGetValue (request : LineRequest) (_offset : UInt32) :
    GpioProgram (Option Bool) := do
  use (.lineRequest request)
  outcome fun k => if o.succeeds k then some (o.active k) else none

/-- Whether the call succeeds. -/
def gpiodLineRequestSetValue (request : LineRequest) (_offset : UInt32) (_active : Bool) :
    GpioProgram Bool := do
  use (.lineRequest request)
  outcome o.succeeds

end libgpiod

/-! ## The device context -/

/-- Source: `plugins/gpio_linux/gpio-device.h`, `gpio_device_context_t` -/
structure GpioDeviceContext where
  configuration : GpioConfiguration
  chips : Vector (Option Chip) gpioMaxLines
  lines : Vector (Option LineRequest) gpioMaxLines
  linesCount : ℕ
  activeLow : UInt8

/-- The context after the `memset` and the loop of `gpio_device_open`. -/
def GpioDeviceContext.zeroed : GpioDeviceContext where
  configuration := .zeroed
  chips := .replicate _ none
  lines := .replicate _ none
  linesCount := 0
  activeLow := 0

/-- The return code and the context; `block` is what `malloc` returns, `none` for `NULL`.
Source: `plugins/gpio_linux/gpio-device.c`, `gpio_device_open` -/
def gpioDeviceOpen (block : Option GpioDeviceContext) : ℤ × Option GpioDeviceContext :=
  match block with
  | none => (-1, none)
  | some _ => (0, some .zeroed)

/-! ## Giving lines back -/

/-- `if (context->lines[i] != NULL)`: release the request and clear the pointer. -/
def releaseLineRequest (ctx : GpioDeviceContext) (i : ℕ) : GpioProgram GpioDeviceContext := do
  match ← readCell ctx.lines i with
  | none => pure ctx
  | some request => do
      gpiodLineRequestRelease request
      let lines ← writeCell ctx.lines i none
      pure { ctx with lines := lines }

/-- `if (context->chips[i] != NULL)`: close the chip and clear the pointer. -/
def closeLineChip (ctx : GpioDeviceContext) (i : ℕ) : GpioProgram GpioDeviceContext := do
  match ← readCell ctx.chips i with
  | none => pure ctx
  | some chip => do
      gpiodChipClose chip
      let chips ← writeCell ctx.chips i none
      pure { ctx with chips := chips }

/-- The body of the loop that gives back every line. -/
def releaseLine (ctx : GpioDeviceContext) (i : ℕ) : GpioProgram GpioDeviceContext := do
  let ctx ← releaseLineRequest ctx i
  closeLineChip ctx i

/-- The loop that gives back every line, before a new configuration and on close. -/
def releaseLines (ctx : GpioDeviceContext) : GpioProgram GpioDeviceContext := do
  let ctx ← (List.range ctx.linesCount).foldlM releaseLine ctx
  pure { ctx with linesCount := 0 }

/-- The body of the rollback loop: both pointers are cleared at its end. -/
def rollbackLine (ctx : GpioDeviceContext) (j : ℕ) : GpioProgram GpioDeviceContext := do
  let request ← readCell ctx.lines j
  ifAny gpiodLineRequestRelease request
  let chip ← readCell ctx.chips j
  ifAny gpiodChipClose chip
  let lines ← writeCell ctx.lines j none
  let chips ← writeCell ctx.chips j none
  pure { ctx with lines := lines, chips := chips }

/-- The rollback of a failure exit: give back all earlier lines and return `-1`. -/
def rollback (ctx : GpioDeviceContext) : GpioProgram (ℤ × GpioDeviceContext) := do
  let ctx ← (List.range ctx.linesCount).foldlM rollbackLine ctx
  pure (-1, { ctx with linesCount := 0 })

/-! ## Configuring one line -/

/-- The chip name of a line: its own, else the common one. -/
def lineChipName (configuration : GpioConfiguration) (lineChip : CharBuf configKeyLength) :
    Option CString :=
  if lineChip.chars ≠ [] then some lineChip.chars
  else if configuration.chip.chars ≠ [] then some configuration.chip.chars
  else none

/-- Open a chip by its path, or by its name under `/dev/` when that fits `chip_path[64]`. -/
def openChip (o : Outcomes) (chipName : CString) : GpioProgram (Option Chip) :=
  if chipName.head? = some 47 then gpiodChipOpen o chipName
  else
    let chipPath := cstr "/dev/" ++ chipName
    if chipPath.length ≥ 64 then pure none else gpiodChipOpen o chipPath

/-- Free the three objects that describe a line. -/
def freeLineObjects (reqCfg : ℕ) (lineCfg : LineConfig) (lineSettings : LineSettings) :
    GpioProgram Unit := do
  gpiodRequestConfigFree reqCfg
  gpiodLineConfigFree lineCfg
  gpiodLineSettingsFree lineSettings

/-- The failure exit once the three objects of a line are there. -/
def abandonLine (ctx : GpioDeviceContext) (chip : Chip) (reqCfg : ℕ) (lineCfg : LineConfig)
    (lineSettings : LineSettings) : GpioProgram (ℤ × GpioDeviceContext) := do
  freeLineObjects reqCfg lineCfg lineSettings
  gpiodChipClose chip
  rollback ctx

/-- An output line starts inactive. -/
def initialOutput (o : Outcomes) (lineSettings : LineSettings) (direction : UInt32) :
    GpioProgram (Option LineSettings) :=
  if direction = gpioDirectionOutput then gpiodLineSettingsSetOutputValue o lineSettings false
  else pure (some lineSettings)

/-- The end of the loop body: request the line and store it, or roll back. -/
def requestLine (o : Outcomes) (ctx : GpioDeviceContext) (chip : Chip) (reqCfg : ℕ)
    (lineCfg : LineConfig) (lineSettings : LineSettings) :
    GpioProgram (ℤ × GpioDeviceContext) := do
  let request ← gpiodChipRequestLines o chip reqCfg lineCfg
  freeLineObjects reqCfg lineCfg lineSettings
  match request with
  | none => do
      gpiodChipClose chip
      rollback ctx
  | some request => do
      let chips ← writeCell ctx.chips ctx.linesCount (some chip)
      let lines ← writeCell ctx.lines ctx.linesCount (some request)
      pure (0, { ctx with chips := chips, lines := lines, linesCount := ctx.linesCount + 1 })

/-- The direction that is asked for: everything but an input is an output. -/
def gpiodDirection (direction : UInt32) : LineDirection :=
  if direction = gpioDirectionInput then .input else .output

/-- The middle of the loop body: set up the line with its three objects. -/
def setUpLine (o : Outcomes) (ctx : GpioDeviceContext) (chip : Chip) (direction offset : UInt32)
    (reqCfg : ℕ) (lineCfg : LineConfig) (lineSettings : LineSettings) :
    GpioProgram (ℤ × GpioDeviceContext) := do
  gpiodRequestConfigSetConsumer reqCfg (cstr "gpio_linux")
  match ← gpiodLineSettingsSetDirection o lineSettings (gpiodDirection direction) with
  | none => abandonLine ctx chip reqCfg lineCfg lineSettings
  | some lineSettings => do
      match ← initialOutput o lineSettings direction with
      | none => abandonLine ctx chip reqCfg lineCfg lineSettings
      | some lineSettings => do
          match ← gpiodLineConfigAddLineSettings o lineCfg offset lineSettings with
          | none => abandonLine ctx chip reqCfg lineCfg lineSettings
          | some lineCfg => requestLine o ctx chip reqCfg lineCfg lineSettings

/-- The direction of a line: its own, else the common one. -/
def lineDirection (configuration : GpioConfiguration) (i : ℕ) : GpioProgram UInt32 :=
  if i < configuration.directionsCount then readCell configuration.directions i
  else pure configuration.direction

/-- The loop body once the chip is open. -/
def configureOnChip (o : Outcomes) (ctx : GpioDeviceContext) (i : ℕ) (chip : Chip) :
    GpioProgram (ℤ × GpioDeviceContext) := do
  let direction ← lineDirection ctx.configuration i
  let reqCfg ← gpiodRequestConfigNew o
  let lineCfg ← gpiodLineConfigNew o
  let lineSettings ← gpiodLineSettingsNew o
  let offset ← readCell ctx.configuration.lines i
  match reqCfg, lineCfg, lineSettings with
  | some reqCfg, some lineCfg, some lineSettings =>
      setUpLine o ctx chip direction offset reqCfg lineCfg lineSettings
  | reqCfg, lineCfg, lineSettings => do
      ifAny gpiodRequestConfigFree reqCfg
      ifAny gpiodLineConfigFree lineCfg
      ifAny gpiodLineSettingsFree lineSettings
      gpiodChipClose chip
      rollback ctx

/-- The loop body of `gpio_device_control`: code 0 to go on, `-1` to return.
Source: `plugins/gpio_linux/gpio-device.c`, `gpio_device_control` -/
def configureLine (o : Outcomes) (ctx : GpioDeviceContext) (i : ℕ) :
    GpioProgram (ℤ × GpioDeviceContext) := do
  let lineChip ← readCell ctx.configuration.linesChip i
  match lineChipName ctx.configuration lineChip with
  | none => pure (-1, ctx)
  | some chipName => do
      match ← openChip o chipName with
      | none => rollback ctx
      | some chip => configureOnChip o ctx i chip

/-- The loop over the lines of the configuration, from line `i` on. -/
def configureLines (o : Outcomes) (ctx : GpioDeviceContext) (i : ℕ) :
    ℕ → GpioProgram (ℤ × GpioDeviceContext)
  | 0 => pure (0, ctx)
  | k + 1 => do
      let (code, ctx) ← configureLine o ctx i
      if code ≠ 0 then pure (code, ctx) else configureLines o ctx (i + 1) k

/-! ## The operations -/

/-- A configuration without a count but with a chip has the single line. -/
def withSingleLine (configuration : GpioConfiguration) : GpioConfiguration :=
  if configuration.linesCount = 0 ∧ configuration.chip.chars ≠ [] then
    { configuration with
      lines := configuration.lines.set 0 configuration.line
      linesCount := 1 }
  else configuration

/-- Source: `plugins/gpio_linux/gpio-device.c`, `gpio_device_control` -/
def gpioDeviceControl (o : Outcomes) (ctx : GpioDeviceContext) (command : UInt32)
    (argument : Option GpioConfiguration) : GpioProgram (ℤ × GpioDeviceContext) :=
  if command = gpioCommandSetConfiguration then
    match argument with
    | none => pure (-1, ctx)
    | some argument =>
        let ctx := { ctx with configuration := withSingleLine argument }
        if ctx.configuration.linesCount > gpioMaxLines then pure (-1, ctx)
        else do
          let ctx ← releaseLines ctx
          let (code, ctx) ← configureLines o ctx 0 ctx.configuration.linesCount
          if code ≠ 0 then pure (code, ctx)
          else pure (0, { ctx with activeLow := ctx.configuration.activeLow })
  else pure (-1, ctx)

/-- Source: `plugins/gpio_linux/gpio-device.c`, `gpio_device_close` -/
def gpioDeviceClose (ctx : GpioDeviceContext) : GpioProgram ℤ := do
  let _ ← releaseLines ctx
  pure 0

/-- The size of a level: `sizeof(gpio_level_t)`. -/
def gpioLevelSize : ℕ := 4

/-- A level, turned over when the lines are active low. -/
def invertIfActiveLow (configuration : GpioConfiguration) (value : Bool) : Bool :=
  if configuration.activeLow = 0 then value else !value

/-- The level of one line, `none` on an error. -/
def readLevel (o : Outcomes) (ctx : GpioDeviceContext) (i : ℕ) : GpioProgram (Option UInt32) := do
  let request ← readPointer ctx.lines i
  let offset ← readCell ctx.configuration.lines i
  let value ← gpiodLineRequestGetValue o request offset
  pure (value.map fun active =>
    if invertIfActiveLow ctx.configuration active then gpioLevelHigh else gpioLevelLow)

/-- The loop over the lines from line `i` on, with the levels it stores. -/
def readLevels (o : Outcomes) (ctx : GpioDeviceContext) (i : ℕ) :
    ℕ → GpioProgram (ℤ × List UInt32)
  | 0 => pure (0, [])
  | k + 1 => do
      match ← readLevel o ctx i with
      | none => pure (-1, [])
      | some level => do
          let (code, levels) ← readLevels o ctx (i + 1) k
          pure (code, level :: levels)

/-- The return code and the levels stored in the buffer, from its beginning.
Source: `plugins/gpio_linux/gpio-device.c`, `gpio_device_read` -/
def gpioDeviceRead (o : Outcomes) (ctx : GpioDeviceContext) (hasBuffer : Bool) (size : ℕ) :
    GpioProgram (ℤ × List UInt32) :=
  if hasBuffer = false then pure (-1, [])
  else if ctx.linesCount = 0 then pure (-1, [])
  else if size = gpioLevelSize then readLevels o ctx 0 1
  else if size ≠ ctx.linesCount * gpioLevelSize then pure (-1, [])
  else readLevels o ctx 0 ctx.linesCount

/-- The loop over the lines from line `i` on; `buffer` is what the memory at the buffer holds. -/
def writeLevels (o : Outcomes) (ctx : GpioDeviceContext) (buffer : ℕ → UInt32) (i : ℕ) :
    ℕ → GpioProgram ℤ
  | 0 => pure 0
  | k + 1 => do
      let request ← readPointer ctx.lines i
      let offset ← readCell ctx.configuration.lines i
      let active := invertIfActiveLow ctx.configuration (buffer i = gpioLevelHigh)
      if ← gpiodLineRequestSetValue o request offset active then writeLevels o ctx buffer (i + 1) k
      else pure (-1)

/-- Source: `plugins/gpio_linux/gpio-device.c`, `gpio_device_write` -/
def gpioDeviceWrite (o : Outcomes) (ctx : GpioDeviceContext) (buffer : Option (ℕ → UInt32))
    (size : ℕ) : GpioProgram ℤ :=
  match buffer with
  | none => pure (-1)
  | some buffer =>
      if ctx.linesCount = 0 then pure (-1)
      else if size = gpioLevelSize then writeLevels o ctx buffer 0 1
      else if size ≠ ctx.linesCount * gpioLevelSize then pure (-1)
      else writeLevels o ctx buffer 0 ctx.linesCount

/-! ## Sessions -/

/-- A call on an open device. -/
inductive GpioCall
  | control (command : UInt32) (argument : Option GpioConfiguration)
  | read (hasBuffer : Bool) (size : ℕ)
  | write (buffer : Option (ℕ → UInt32)) (size : ℕ)

/-- The context a call leaves; a read and a write leave it as it is. -/
def gpioCall (o : Outcomes) (ctx : GpioDeviceContext) : GpioCall → GpioProgram GpioDeviceContext
  | .control command argument => do
      let (_, ctx) ← gpioDeviceControl o ctx command argument
      pure ctx
  | .read hasBuffer size => do
      let _ ← gpioDeviceRead o ctx hasBuffer size
      pure ctx
  | .write buffer size => do
      let _ ← gpioDeviceWrite o ctx buffer size
      pure ctx

/-- A sequence of calls on an open device. -/
def gpioCalls (o : Outcomes) (ctx : GpioDeviceContext) (calls : List GpioCall) :
    GpioProgram GpioDeviceContext :=
  calls.foldlM (gpioCall o) ctx

/-- A sequence of calls on an open device, and the close. -/
def gpioSession (o : Outcomes) (ctx : GpioDeviceContext) (calls : List GpioCall) :
    GpioProgram ℤ := do
  let ctx ← gpioCalls o ctx calls
  gpioDeviceClose ctx

end HardwareTest
