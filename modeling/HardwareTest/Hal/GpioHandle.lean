import HardwareTest.Hal.GpioTransfer
import HardwareTest.Lib.Inclusion

/-!
# Handles: `hal/gpio/gpio-hal.c`

A handle is a block with the plugin and the device that the plugin has made for it. Every function
goes through the operations of the plugin, which may be NULL (`utils/plugin.h`).

* `HalObject`: what a handle costs: its own block, the block of the device context, and the objects
  of libgpiod that belong to this context. A context may only be freed when they are given back.
* `HalPlugin` and `PluginOps` are for any type `δ` of devices; `gpioPluginOps` are the operations of
  `plugins/gpio_linux`, whose device is a block with a `GpioDeviceContext`.
* The functions on handles: `gpioHalOpen`, `gpioHalConfigure` and so on, `none` for NULL.
-/

namespace HardwareTest

open Lib

/-! ## Objects -/

/-- Blocks of memory by the number of the call that made them, and the objects of libgpiod by the
block of the device context that they belong to. -/
inductive HalObject
  | handle (number : ℕ)
  | context (number : ℕ)
  | gpiod (device : ℕ) (object : GpiodObject)
deriving DecidableEq

instance : Resource HalObject where
  number
    | .handle k | .context k => k
    | .gpiod _ x => Resource.number x
  parent
    | .gpiod d x => ((Resource.parent x).map (.gpiod d)).or (some (.context d))
    | _ => none

/-- A computation that allocates memory and calls libgpiod. -/
abbrev HalProgram := Program HalObject

/-- The objects of libgpiod that belong to a device context. -/
def gpiodOf (device : ℕ) : Inclusion GpiodObject HalObject where
  wrap := .gpiod device
  unwrap
    | .gpiod d x => if d = device then some x else none
    | _ => none
  root := some (.context device)
  unwrap_eq_some := by
    intro y x
    rcases y with k | k | ⟨d, z⟩
    · simp
    · simp
    · simp
  number_wrap _ := rfl
  parent_wrap _ := rfl
  parent_outside := by
    intro y x houtside hparent
    rcases y with k | k | ⟨d, z⟩
    · cases hparent
    · cases hparent
    · have hd : d ≠ device := by simpa using houtside
      simp only [Resource.parent, Option.or_eq_some_iff, Option.map_eq_some_iff] at hparent
      rcases hparent with ⟨p, -, hp⟩ | ⟨-, hp⟩
      · exact hd (HalObject.gpiod.inj hp).1
      · cases hp
  root_outside := by simp

/-- `malloc`: the number of the block, `none` for NULL. -/
def malloc (o : Outcomes) (wrap : ℕ → HalObject) : HalProgram (Option ℕ) :=
  acquire o.succeeds wrap id

/-! ## Plugins -/

/-- The operations of a plugin with devices of type `δ`; an `open` that returns 0 has stored a
device. Source: `utils/plugin.h`, `plugin_ops_t` -/
structure PluginOps (δ : Type) where
  openDevice : Option (HalProgram (ℤ × Option δ))
  closeDevice : Option (δ → HalProgram ℤ)
  read : Option (δ → Bool → ℕ → HalProgram (ℤ × List UInt32))
  write : Option (δ → Option (ℕ → UInt32) → ℕ → HalProgram ℤ)
  control : Option (δ → UInt32 → Option GpioConfiguration → HalProgram (ℤ × δ))

/-- What the handles use of a plugin. Source: `utils/plugin.h`, `plugin_t` -/
structure HalPlugin (δ : Type) where
  ops : Option (PluginOps δ)

/-- Source: `hal/gpio/gpio-hal.c`, `gpio_handle` -/
structure GpioHandle (δ : Type) where
  number : ℕ
  plugin : HalPlugin δ
  device : δ

variable {δ : Type}

/-- `handle->plugin->ops->f`, which is called without a check. -/
def GpioHandle.operation {α : Type} (handle : GpioHandle δ) (f : PluginOps δ → Option α) :
    HalProgram α := do
  use (.handle handle.number)
  match handle.plugin.ops.bind f with
  | none => failure
  | some operation => pure operation

/-! ## The functions -/

/-- Source: `hal/gpio/gpio-hal.c`, `gpio_hal_open` -/
def gpioHalOpen (o : Outcomes) (plugin : Option (HalPlugin δ)) :
    HalProgram (Option (GpioHandle δ)) :=
  match plugin with
  | none => pure none
  | some plugin =>
  match plugin.ops.bind PluginOps.openDevice with
  | none => pure none
  | some openDevice => do
      match ← malloc o .handle with
      | none => pure none
      | some number => do
          use (.handle number)
          let (code, device) ← openDevice
          if code ≠ 0 then do
            release (.handle number)
            pure none
          else
            match device with
            | none => failure
            | some device => pure (some ⟨number, plugin, device⟩)

/-- Source: `hal/gpio/gpio-hal.c`, `gpio_hal_close` -/
def gpioHalClose (handle : Option (GpioHandle δ)) : HalProgram ℤ :=
  match handle with
  | none => pure (-1)
  | some handle => do
      use (.handle handle.number)
      match handle.plugin.ops.bind PluginOps.closeDevice with
      | none => pure ()
      | some closeDevice => do
          let _ ← closeDevice handle.device
          pure ()
      release (.handle handle.number)
      pure 0

/-- The return code and the handle afterwards.
Source: `hal/gpio/gpio-hal.c`, `gpio_hal_control` -/
def gpioHalControl (handle : Option (GpioHandle δ)) (command : UInt32)
    (argument : Option GpioConfiguration) : HalProgram (ℤ × Option (GpioHandle δ)) :=
  match handle with
  | none => pure (-1, none)
  | some handle => do
      let control ← handle.operation PluginOps.control
      let (code, device) ← control handle.device command argument
      pure (code, some { handle with device })

/-- The return code and the handle afterwards.
Source: `hal/gpio/gpio-hal.c`, `gpio_hal_configure` -/
def gpioHalConfigure (handle : Option (GpioHandle δ)) (configuration : Option GpioConfiguration) :
    HalProgram (ℤ × Option (GpioHandle δ)) :=
  match configuration with
  | none => pure (-1, handle)
  | some configuration => gpioHalControl handle gpioCommandSetConfiguration (some configuration)

/-- `handle->plugin->ops->read(handle->device_private_data, buffer, size)` -/
def GpioHandle.read (handle : GpioHandle δ) (hasBuffer : Bool) (size : ℕ) :
    HalProgram (ℤ × List UInt32) := do
  let read ← handle.operation PluginOps.read
  read handle.device hasBuffer size

/-- `handle->plugin->ops->write(handle->device_private_data, buffer, size)` -/
def GpioHandle.write (handle : GpioHandle δ) (buffer : Option (ℕ → UInt32)) (size : ℕ) :
    HalProgram ℤ := do
  let write ← handle.operation PluginOps.write
  write handle.device buffer size

/-- Source: `hal/gpio/gpio-hal.c`, `gpio_hal_read` -/
def gpioHalRead (handle : Option (GpioHandle δ)) (hasLevel : Bool) :
    HalProgram (ℤ × List UInt32) :=
  match handle with
  | none => pure (-1, [])
  | some handle =>
      if hasLevel = false then pure (-1, []) else handle.read hasLevel gpioLevelSize

/-- Source: `hal/gpio/gpio-hal.c`, `gpio_hal_read_multi` -/
def gpioHalReadMulti (handle : Option (GpioHandle δ)) (hasLevels : Bool) (count : UInt32) :
    HalProgram (ℤ × List UInt32) :=
  match handle with
  | none => pure (-1, [])
  | some handle =>
      if hasLevels = false ∨ count = 0 then pure (-1, [])
      else handle.read hasLevels (transferSize count)

/-- Source: `hal/gpio/gpio-hal.c`, `gpio_hal_write` -/
def gpioHalWrite (handle : Option (GpioHandle δ)) (level : UInt32) : HalProgram ℤ :=
  match handle with
  | none => pure (-1)
  | some handle => handle.write (some fun _ => level) gpioLevelSize

/-- Source: `hal/gpio/gpio-hal.c`, `gpio_hal_write_multi` -/
def gpioHalWriteMulti (handle : Option (GpioHandle δ)) (levels : Option (ℕ → UInt32))
    (count : UInt32) : HalProgram ℤ :=
  match handle with
  | none => pure (-1)
  | some handle =>
      if levels = none ∨ count = 0 then pure (-1) else handle.write levels (transferSize count)

/-! ## A caller -/

/-- A call on a handle. -/
inductive HalAction
  | close
  | configure (configuration : Option GpioConfiguration)
  | control (command : UInt32) (argument : Option GpioConfiguration)
  | read (hasLevel : Bool)
  | readMulti (hasLevels : Bool) (count : UInt32)
  | write (level : UInt32)
  | writeMulti (levels : Option (ℕ → UInt32)) (count : UInt32)

/-- The variables of a caller, and the handles that were overwritten in one. -/
structure HalState (ι δ : Type) where
  handles : ι → Option (GpioHandle δ)
  lost : List (GpioHandle δ)

/-- All variables are NULL. -/
def HalState.start (ι δ : Type) : HalState ι δ := ⟨fun _ => none, []⟩

/-- A call of a caller: a variable is set by an `open`, or something is done with its handle. -/
inductive HalCall (ι δ : Type)
  | openHandle (i : ι) (plugin : Option (HalPlugin δ))
  | act (i : ι) (action : HalAction)

/-- The block of a device context. Source: `plugins/gpio_linux/gpio-device.h`,
`gpio_device_context_t` -/
structure GpioDevice where
  number : ℕ
  context : GpioDeviceContext

/-- A function of the device on its context, with the objects of libgpiod that belong to it. -/
def GpioDevice.call {α : Type} (device : GpioDevice) (f : GpioDeviceContext → GpioProgram α) :
    HalProgram α := do
  use (.context device.number)
  (gpiodOf device.number).within (f device.context)

/-- Source: `plugins/gpio_linux/gpio-plugin.c`, `gpio_plugin_ops` -/
def gpioPluginOps (o : Outcomes) : PluginOps GpioDevice where
  openDevice := some do
    match ← malloc o .context with
    | none => pure ((gpioDeviceOpen none).1, none)
    | some number =>
        let r := gpioDeviceOpen (some .zeroed)
        pure (r.1, r.2.map fun context => ⟨number, context⟩)
  closeDevice := some fun device => do
    let code ← device.call gpioDeviceClose
    release (.context device.number)
    pure code
  read := some fun device hasBuffer size =>
    device.call fun context => gpioDeviceRead o context hasBuffer size
  write := some fun device buffer size =>
    device.call fun context => gpioDeviceWrite o context buffer size
  control := some fun device command argument => do
    let (code, context) ← device.call fun context => gpioDeviceControl o context command argument
    pure (code, { device with context })

/-! ## Transfers through the gpio plugin -/

section transfers

variable {o : Outcomes} {handle : GpioHandle GpioDevice}

/-- A read through a handle of the gpio plugin is the one that `GpioTransfer` is about, on the
device behind the handle. -/
lemma GpioHandle.read_gpioPlugin (hops : handle.plugin.ops = some (gpioPluginOps o))
    (hasBuffer : Bool) (size : ℕ) :
    handle.read hasBuffer size = (do
      use (.handle handle.number)
      handle.device.call fun context =>
        (ledgerCalls o).gpioDeviceRead context hasBuffer size) := by
  unfold GpioHandle.read GpioHandle.operation
  rw [hops]
  simp only [gpioDeviceRead_ledger]
  rfl

/-- A write through a handle of the gpio plugin, too. -/
lemma GpioHandle.write_gpioPlugin (hops : handle.plugin.ops = some (gpioPluginOps o))
    (buffer : Option (ℕ → UInt32)) (size : ℕ) :
    handle.write buffer size = (do
      use (.handle handle.number)
      handle.device.call fun context => (ledgerCalls o).gpioDeviceWrite context buffer size) := by
  unfold GpioHandle.write GpioHandle.operation
  rw [hops]
  simp only [gpioDeviceWrite_ledger]
  rfl

end transfers

end HardwareTest
