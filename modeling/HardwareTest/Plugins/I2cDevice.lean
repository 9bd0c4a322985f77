import HardwareTest.Common.SafeString
import HardwareTest.Lib.Ledger

/-!
# The i2c device: `plugins/i2c_linux/i2c-device.c`

The plugin over a model of the system calls that numbers them and logs which files are opened, used
and closed. What each call does is an arbitrary `I2cOutcomes`.

* A descriptor stands for the open file behind it, since the kernel may give the same number again
  after a close. It remembers the path it was opened by and the slave address an `ioctl` has bound
  it to; the code never reads that. A negative descriptor is `none`.
* `Agrees`: the descriptor of a context was opened for the configuration in it. A new configuration
  is stored only behind its own descriptor (`spec_i2cDeviceControl`).
* `i2cSession_settled`: whatever the calls and the outcomes, the contexts of a session agree and
  its log is settled.
-/

namespace HardwareTest

open Lib

/-! ## System calls -/

/-- An open file: the call that opened it, and its path. -/
structure OpenFile where
  number : ℕ
  path : CString
deriving DecidableEq

instance : Resource OpenFile where
  number := OpenFile.number
  parent _ := none

/-- A file descriptor, with the slave address it is bound to. -/
structure FileDescriptor extends OpenFile where
  slave : Option UInt16

/-- Which calls of `open` and `ioctl` succeed, what `read` receives and how much `write` sends;
`none` for an error. -/
structure I2cOutcomes where
  succeeds : ℕ → Bool
  received : ℕ → Option (List UInt8)
  sent : ℕ → Option ℕ

/-- A computation that makes system calls. -/
abbrev I2cProgram := Program OpenFile

section calls

variable (o : I2cOutcomes)

/-- `open(path, O_RDWR)` -/
def posixOpen (path : CString) : I2cProgram (Option FileDescriptor) :=
  acquire o.succeeds FileDescriptor.toOpenFile fun k => ⟨⟨k, path⟩, none⟩

/-- `close(fd)` -/
def posixClose (fd : FileDescriptor) : I2cProgram Unit := release fd.toOpenFile

/-- `ioctl(fd, I2C_SLAVE, address)`: the descriptor bound, `none` when the call fails. -/
def ioctlSlave (fd : FileDescriptor) (address : UInt16) : I2cProgram (Option FileDescriptor) := do
  use fd.toOpenFile
  attempt o.succeeds { fd with slave := some address }

/-- `read(fd, buffer, size)`: at most `size` bytes. -/
def posixRead (fd : FileDescriptor) (size : ℕ) : I2cProgram (Option (List UInt8)) := do
  use fd.toOpenFile
  outcome fun k => (o.received k).map (List.take size)

/-- `write(fd, buffer, size)`: how many bytes are sent, at most `size`. -/
def posixWrite (fd : FileDescriptor) (size : ℕ) : I2cProgram (Option ℕ) := do
  use fd.toOpenFile
  outcome fun k => (o.sent k).map (min size)

end calls

/-! ## The device -/

/-- Source: `plugins/i2c_linux/i2c-device.h`, `i2c_configuration_t` -/
structure I2cConfiguration where
  bus : CharBuf 64
  address : UInt16
  frequencyHz : UInt32

/-- Source: `plugins/i2c_linux/i2c-device.h`, `i2c_device_context_t` -/
structure I2cDeviceContext where
  configuration : I2cConfiguration
  fd : Option FileDescriptor

/-- Source: `plugins/i2c_linux/i2c-device.h`, `I2C_COMMAND_SET_CONFIGURATION` -/
def i2cCommandSetConfiguration : UInt32 := 0

/-- The context after `calloc` and `context->fd = -1`. -/
def I2cDeviceContext.zeroed : I2cDeviceContext where
  configuration := ⟨.empty _, 0, 0⟩
  fd := none

/-- The return code and the context; `allocates` says whether `calloc` succeeds.
Source: `plugins/i2c_linux/i2c-device.c`, `i2c_device_open` -/
def i2cDeviceOpen (hasResult allocates : Bool) : ℤ × Option I2cDeviceContext :=
  if hasResult = false then (-1, none)
  else if allocates = false then (-1, none)
  else (0, some .zeroed)

/-- The descriptor stored in `fd_out`, `none` when the call fails.
Source: `plugins/i2c_linux/i2c-device.c`, `i2c_open_bus` -/
def i2cOpenBus (o : I2cOutcomes) (bus : CString) (address : UInt16) :
    I2cProgram (Option FileDescriptor) := do
  match ← posixOpen o bus with
  | none => pure none
  | some fd => do
      match ← ioctlSlave o fd address with
      | none => do
          posixClose fd
          pure none
      | some fd => pure (some fd)

/-- `if (context->fd >= 0)`: close the descriptor and clear it. -/
def closeDescriptor (ctx : I2cDeviceContext) : I2cProgram I2cDeviceContext := do
  ifAny posixClose ctx.fd
  pure { ctx with fd := none }

/-- The return code and the context.
Source: `plugins/i2c_linux/i2c-device.c`, `i2c_device_control` -/
def i2cDeviceControl (o : I2cOutcomes) (ctx : I2cDeviceContext) (command : UInt32)
    (argument : Option I2cConfiguration) : I2cProgram (ℤ × I2cDeviceContext) :=
  match argument with
  | none => pure (-1, ctx)
  | some configuration =>
      if command = i2cCommandSetConfiguration then
        if configuration.bus.chars = [] then pure (-1, ctx)
        else do
          let ctx ← closeDescriptor ctx
          match ← i2cOpenBus o configuration.bus.chars configuration.address with
          | none => pure (-1, ctx)
          | some fd => pure (0, { ctx with fd := some fd, configuration := configuration })
      else pure (-1, ctx)

/-- Source: `plugins/i2c_linux/i2c-device.c`, `i2c_device_close` -/
def i2cDeviceClose (ctx : I2cDeviceContext) : I2cProgram ℤ := do
  let _ ← closeDescriptor ctx
  pure 0

/-- `(int32_t)` of a number of bytes. -/
def byteCode (count : ℕ) : ℤ := (Int32.ofNat count).toInt

/-- The return code and the bytes stored in the buffer.
Source: `plugins/i2c_linux/i2c-device.c`, `i2c_device_read` -/
def i2cDeviceRead (o : I2cOutcomes) (ctx : I2cDeviceContext) (hasBuffer : Bool) (size : UInt32) :
    I2cProgram (ℤ × List UInt8) :=
  if hasBuffer = false ∨ size = 0 then pure (-1, [])
  else
    match ctx.fd with
    | none => pure (-1, [])
    | some fd => do
        match ← posixRead o fd size.toNat with
        | none => pure (-1, [])
        | some bytes => pure (byteCode bytes.length, bytes)

/-- Source: `plugins/i2c_linux/i2c-device.c`, `i2c_device_write` -/
def i2cDeviceWrite (o : I2cOutcomes) (ctx : I2cDeviceContext) (hasBuffer : Bool) (size : UInt32) :
    I2cProgram ℤ :=
  if hasBuffer = false ∨ size = 0 then pure (-1)
  else
    match ctx.fd with
    | none => pure (-1)
    | some fd => do
        match ← posixWrite o fd size.toNat with
        | none => pure (-1)
        | some count => pure (byteCode count)

/-- A call on an open device. -/
inductive I2cCall
  | control (command : UInt32) (argument : Option I2cConfiguration)
  | read (hasBuffer : Bool) (size : UInt32)
  | write (hasBuffer : Bool) (size : UInt32)

/-- The context a call leaves; a read and a write leave it as it is. -/
def i2cCall (o : I2cOutcomes) (ctx : I2cDeviceContext) : I2cCall → I2cProgram I2cDeviceContext
  | .control command argument => do
      let (_, ctx) ← i2cDeviceControl o ctx command argument
      pure ctx
  | .read hasBuffer size => do
      let _ ← i2cDeviceRead o ctx hasBuffer size
      pure ctx
  | .write hasBuffer size => do
      let _ ← i2cDeviceWrite o ctx hasBuffer size
      pure ctx

/-- A sequence of calls on an open device. -/
def i2cCalls (o : I2cOutcomes) (ctx : I2cDeviceContext) (calls : List I2cCall) :
    I2cProgram I2cDeviceContext :=
  calls.foldlM (i2cCall o) ctx

/-- A sequence of calls on an open device, and the close. -/
def i2cSession (o : I2cOutcomes) (ctx : I2cDeviceContext) (calls : List I2cCall) :
    I2cProgram ℤ := do
  let ctx ← i2cCalls o ctx calls
  i2cDeviceClose ctx

/-! ## Accounting -/

namespace I2cDeviceContext

/-- What a context refers to. -/
def held (ctx : I2cDeviceContext) : Multiset OpenFile := pointee FileDescriptor.toOpenFile ctx.fd

/-- The descriptor was opened for the bus and bound to the slave address of the configuration. -/
def Agrees (ctx : I2cDeviceContext) : Prop :=
  ∀ fd, ctx.fd = some fd →
    fd.path = ctx.configuration.bus.chars ∧ fd.slave = some ctx.configuration.address

end I2cDeviceContext

open I2cDeviceContext

section

variable (o : I2cOutcomes) {ctx : I2cDeviceContext}

/-- Closing a held file. -/
lemma spec_posixClose (fd : FileDescriptor) :
    Spec (fd.toOpenFile ::ₘ 0) (posixClose fd) (fun _ => 0) (fun _ => True) :=
  Spec.release fun _ _ => nofun

/-- A context without descriptor refers to nothing. -/
lemma spec_closeDescriptor (ctx : I2cDeviceContext) :
    Spec ctx.held (closeDescriptor ctx) (fun _ => 0)
      (fun ctx' => ctx' = { ctx with fd := none }) := by
  have hheld : ctx.held = pointee FileDescriptor.toOpenFile ctx.fd + 0 := (Multiset.add_zero _).symm
  rw [hheld]
  apply Spec.bind (Spec.ifAny spec_posixClose)
  intro _ _
  exact Spec.pure rfl rfl

/-- `i2c_open_bus` gives a descriptor for the bus and the address, or leaves nothing open. -/
lemma spec_i2cOpenBus (bus : CString) (address : UInt16) :
    Spec 0 (i2cOpenBus o bus address) (pointee FileDescriptor.toOpenFile)
      (fun result => ∀ fd, result = some fd → fd.path = bus ∧ fd.slave = some address) := by
  apply Spec.bind (Spec.acquire (fun _ => rfl) fun _ _ hparent => by cases hparent)
  rintro (_ | fd) ⟨hmade, -⟩
  · exact Spec.pure rfl nofun
  · obtain ⟨k, rfl⟩ := hmade fd rfl
    have hheld : pointee FileDescriptor.toOpenFile (some (⟨⟨k, bus⟩, none⟩ : FileDescriptor)) + 0 =
        (⟨k, bus⟩ : OpenFile) ::ₘ 0 := rfl
    rw [hheld]
    apply Spec.bind (Spec.bind (Spec.use (Multiset.mem_cons_self _ _)) fun _ _ => Spec.attempt)
    rintro _ (rfl | ⟨rfl, -⟩)
    · refine Spec.pure rfl fun fd hfd => ?_
      obtain rfl := Option.some.inj hfd
      exact ⟨rfl, rfl⟩
    · exact Spec.bind (spec_posixClose ⟨⟨k, bus⟩, none⟩) fun _ _ => Spec.pure rfl nofun

/-- **A new configuration.** Whatever happens in it, `i2c_device_control` leaves a context that
agrees, and no other file open. -/
theorem spec_i2cDeviceControl (hagrees : ctx.Agrees) (command : UInt32)
    (argument : Option I2cConfiguration) :
    Spec ctx.held (i2cDeviceControl o ctx command argument) (fun r => r.2.held)
      (fun r => r.2.Agrees) := by
  unfold i2cDeviceControl
  rcases argument with _ | configuration
  · exact Spec.pure rfl hagrees
  · simp only
    split_ifs
    · exact Spec.pure rfl hagrees
    · apply Spec.bind (spec_closeDescriptor ctx)
      rintro _ rfl
      apply Spec.bind (spec_i2cOpenBus o _ _)
      rintro (_ | fd) hopened
      · exact Spec.pure rfl fun _ => nofun
      · refine Spec.pure rfl fun fd' hfd => ?_
        obtain rfl := Option.some.inj hfd
        exact hopened _ rfl
    · exact Spec.pure rfl hagrees

/-- `i2c_device_close` closes the descriptor. -/
theorem spec_i2cDeviceClose (ctx : I2cDeviceContext) :
    Spec ctx.held (i2cDeviceClose ctx) (fun _ => 0) (fun code => code = 0) :=
  Spec.bind (spec_closeDescriptor ctx) fun _ _ => Spec.pure rfl rfl

/-- The descriptor of a context is held. -/
lemma mem_held {fd : FileDescriptor} (h : ctx.fd = some fd) : fd.toOpenFile ∈ ctx.held := by
  unfold held
  rw [h]
  exact Multiset.mem_singleton_self _

/-- `i2c_device_read` changes nothing that is held. -/
lemma spec_i2cDeviceRead (hasBuffer : Bool) (size : UInt32) :
    Spec ctx.held (i2cDeviceRead o ctx hasBuffer size) (fun _ => ctx.held) (fun _ => True) := by
  unfold i2cDeviceRead
  split_ifs
  · exact Spec.pure rfl trivial
  · rcases hfd : ctx.fd with _ | fd
    · exact Spec.pure rfl trivial
    · apply Spec.bind (Spec.bind (Spec.use (mem_held hfd)) fun _ _ => Spec.outcome)
      rintro (_ | bytes) _
      · exact Spec.pure rfl trivial
      · exact Spec.pure rfl trivial

/-- `i2c_device_write` changes nothing that is held. -/
lemma spec_i2cDeviceWrite (hasBuffer : Bool) (size : UInt32) :
    Spec ctx.held (i2cDeviceWrite o ctx hasBuffer size) (fun _ => ctx.held) (fun _ => True) := by
  unfold i2cDeviceWrite
  split_ifs
  · exact Spec.pure rfl trivial
  · rcases hfd : ctx.fd with _ | fd
    · exact Spec.pure rfl trivial
    · apply Spec.bind (Spec.bind (Spec.use (mem_held hfd)) fun _ _ => Spec.outcome)
      rintro (_ | count) _
      · exact Spec.pure rfl trivial
      · exact Spec.pure rfl trivial

/-- Every call keeps the agreement. -/
theorem spec_i2cCall (call : I2cCall) (hagrees : ctx.Agrees) :
    Spec ctx.held (i2cCall o ctx call) held Agrees := by
  rcases call with ⟨command, argument⟩ | ⟨hasBuffer, size⟩ | ⟨hasBuffer, size⟩
  · exact Spec.bind (spec_i2cDeviceControl o hagrees command argument) fun _ h => Spec.pure rfl h
  · exact Spec.bind (spec_i2cDeviceRead o hasBuffer size) fun _ _ => Spec.pure rfl hagrees
  · exact Spec.bind (spec_i2cDeviceWrite o hasBuffer size) fun _ _ => Spec.pure rfl hagrees

/-- A sequence of calls keeps the agreement. -/
theorem spec_i2cCalls (calls : List I2cCall) (hagrees : ctx.Agrees) :
    Spec ctx.held (i2cCalls o ctx calls) held Agrees :=
  Spec.foldlM calls hagrees fun call _ h => spec_i2cCall o call h

/-- A session with the close leaves nothing open. -/
theorem spec_i2cSession (calls : List I2cCall) (hagrees : ctx.Agrees) :
    Spec ctx.held (i2cSession o ctx calls) (fun _ => 0) (fun code => code = 0) :=
  Spec.bind (spec_i2cCalls o calls hagrees) fun ctx' _ => spec_i2cDeviceClose ctx'

end

/-- A context from `i2c_device_open` has no descriptor. -/
lemma eq_zeroed_of_i2cDeviceOpen {hasResult allocates : Bool} {ctx : I2cDeviceContext}
    (h : i2cDeviceOpen hasResult allocates = (0, some ctx)) : ctx = .zeroed := by
  unfold i2cDeviceOpen at h
  split_ifs at h
  · exact absurd (congrArg Prod.snd h) nofun
  · exact absurd (congrArg Prod.snd h) nofun
  · exact (Option.some.inj (congrArg Prod.snd h)).symm

/-- **Descriptor accounting.** Whatever the calls on an opened device, their configurations and the
outcomes of the system calls: after every part of the calls a descriptor in the context is open, and
was opened for the bus and bound to the address of the configuration in it; and after the close the
log is settled. -/
theorem i2cSession_settled (o : I2cOutcomes) (calls : List I2cCall) {hasResult allocates : Bool}
    {ctx : I2cDeviceContext} (hopen : i2cDeviceOpen hasResult allocates = (0, some ctx)) :
    (∀ before, before <+: calls → ∃ ctx' ledger,
      (i2cCalls o ctx before).run (.empty _) = some (ctx', ledger) ∧ ctx'.Agrees ∧
        ∀ fd, ctx'.fd = some fd →
          .acquire fd.toOpenFile ∈ ledger.log ∧ .release fd.toOpenFile ∉ ledger.log) ∧
    ∃ ledger, (i2cSession o ctx calls).run (.empty _) = some (0, ledger) ∧ Settled ledger.log := by
  obtain rfl := eq_zeroed_of_i2cDeviceOpen hopen
  have hagrees : I2cDeviceContext.zeroed.Agrees := fun _ => nofun
  have hstart : (Ledger.empty OpenFile).Owns I2cDeviceContext.zeroed.held := Ledger.owns_empty
  constructor
  · intro before _
    obtain ⟨ctx', ledger, hrun, howns, hagrees', -⟩ := spec_i2cCalls o before hagrees _ hstart
    refine ⟨ctx', ledger, hrun, hagrees', fun fd hfd => ?_⟩
    have hheld := mem_held hfd
    exact ⟨howns.orderly.acquire_of_mem hheld, howns.orderly.release_notMem_of_mem hheld⟩
  · obtain ⟨code, ledger, hrun, howns, rfl, -⟩ := spec_i2cSession o calls hagrees _ hstart
    exact ⟨ledger, hrun, howns.orderly.settled⟩

/-- Slave `0x50` on the first bus. -/
def firstBus : I2cConfiguration :=
  ⟨safeStringCopy (cstr "/dev/i2c-1") 64, 0x50, 400000⟩

/-- A session in which the device is read, a second `ioctl` fails and a write is refused. -/
theorem i2cSession_settled_firstBus :
    (∀ before, before <+: [I2cCall.control 0 (some firstBus), .read true 4,
        .control 0 (some firstBus), .write true 4] → ∃ ctx' ledger,
      (i2cCalls ⟨fun k => k ≠ 5, fun _ => some [1, 2, 3, 4], fun _ => some 4⟩ .zeroed before).run
        (.empty _) = some (ctx', ledger) ∧ ctx'.Agrees ∧
          ∀ fd, ctx'.fd = some fd →
            .acquire fd.toOpenFile ∈ ledger.log ∧ .release fd.toOpenFile ∉ ledger.log) ∧
    ∃ ledger, (i2cSession ⟨fun k => k ≠ 5, fun _ => some [1, 2, 3, 4], fun _ => some 4⟩ .zeroed
        [I2cCall.control 0 (some firstBus), .read true 4, .control 0 (some firstBus),
          .write true 4]).run (.empty _) = some (0, ledger) ∧ Settled ledger.log :=
  i2cSession_settled _ _ (show i2cDeviceOpen true true = (0, some .zeroed) from rfl)

end HardwareTest
