import HardwareTest.Plugins.GpioControl

/-!
# Accounting for the handles of a gpio device

`gpioSession_accounted`: whatever the calls, the configurations and the outcomes, the contexts of
a session are consistent and its log gives everything back. An object is passed to libgpiod only
while it is held (`gpioSession_uses_held`).
-/

namespace HardwareTest

open Lib GpioDeviceContext

/-! ## The other operations -/

section

variable {ctx : GpioDeviceContext}

/-- `gpio_device_close` gives everything back. -/
theorem spec_gpioDeviceClose (hg : ctx.Good) :
    Spec ctx.held (gpioDeviceClose ctx) (fun _ => 0) (fun code => code = 0) := by
  apply Spec.bind (spec_releaseLines hg)
  rintro ctx' ⟨hheld, -⟩
  exact Spec.pure hheld.symm rfl

/-- Below the count there is a line request, and it is held. -/
lemma exists_request (hg : ctx.Good) {i : ℕ} (hi : i < ctx.linesCount) :
    ∃ hi' : i < gpioMaxLines, ∃ request, ctx.lines[i] = some request ∧
      .lineRequest request ∈ ctx.held := by
  have hi' : i < gpioMaxLines := Nat.lt_of_lt_of_le hi hg.linesCount_le
  obtain ⟨request, hrequest⟩ := Option.ne_none_iff_exists'.mp ((hg.lines i hi').mpr hi)
  refine ⟨hi', request, hrequest, ?_⟩
  rw [held_of_request hrequest]
  exact Multiset.mem_cons_self _ _

/-- Reading levels changes nothing that is held. -/
lemma spec_readLevels (o : Outcomes) (hg : ctx.Good) {i k : ℕ} (hk : i + k ≤ ctx.linesCount) :
    Spec ctx.held (readLevels o ctx i k) (fun _ => ctx.held) (fun _ => True) := by
  induction k generalizing i with
  | zero => exact Spec.pure rfl trivial
  | succ k ih =>
      have hlevel : Spec ctx.held (readLevel o ctx i) (fun _ => ctx.held) (fun _ => True) := by
        obtain ⟨hi, request, hrequest, hheld⟩ := exists_request hg (show i < ctx.linesCount by omega)
        apply Spec.bind (Spec.readPointer hi hrequest)
        rintro _ rfl
        refine Spec.bind (Spec.readCell hi) fun _ _ => ?_
        refine Spec.bind (Spec.bind (Spec.use hheld) fun _ _ => Spec.outcome) fun _ _ => ?_
        exact Spec.pure rfl trivial
      refine Spec.bind hlevel fun level _ => ?_
      cases level with
      | none => exact Spec.pure rfl trivial
      | some level => exact Spec.bind (ih (by omega)) fun _ _ => Spec.pure rfl trivial

/-- `gpio_device_read` changes nothing that is held. -/
lemma spec_gpioDeviceRead (o : Outcomes) (hg : ctx.Good) (hasBuffer : Bool) (size : ℕ) :
    Spec ctx.held (gpioDeviceRead o ctx hasBuffer size) (fun _ => ctx.held) (fun _ => True) := by
  unfold gpioDeviceRead
  split_ifs
  · exact Spec.pure rfl trivial
  · exact Spec.pure rfl trivial
  · exact spec_readLevels o hg (by omega)
  · exact Spec.pure rfl trivial
  · exact spec_readLevels o hg (by omega)

/-- Writing levels changes nothing that is held. -/
lemma spec_writeLevels (o : Outcomes) (hg : ctx.Good) (buffer : ℕ → UInt32) {i k : ℕ}
    (hk : i + k ≤ ctx.linesCount) :
    Spec ctx.held (writeLevels o ctx buffer i k) (fun _ => ctx.held) (fun _ => True) := by
  induction k generalizing i with
  | zero => exact Spec.pure rfl trivial
  | succ k ih =>
      obtain ⟨hi, request, hrequest, hheld⟩ := exists_request hg (show i < ctx.linesCount by omega)
      apply Spec.bind (Spec.readPointer hi hrequest)
      rintro _ rfl
      refine Spec.bind (Spec.readCell hi) fun _ _ => ?_
      refine Spec.bind (Spec.bind (Spec.use hheld) fun _ _ => Spec.outcome) fun a _ => ?_
      cases a with
      | false => exact Spec.pure rfl trivial
      | true => exact ih (by omega)

/-- `gpio_device_write` changes nothing that is held. -/
lemma spec_gpioDeviceWrite (o : Outcomes) (hg : ctx.Good) (buffer : Option (ℕ → UInt32))
    (size : ℕ) :
    Spec ctx.held (gpioDeviceWrite o ctx buffer size) (fun _ => ctx.held) (fun _ => True) := by
  unfold gpioDeviceWrite
  cases buffer with
  | none => exact Spec.pure rfl trivial
  | some buffer =>
      simp only
      split_ifs
      · exact Spec.pure rfl trivial
      · exact spec_writeLevels o hg buffer (by omega)
      · exact Spec.pure rfl trivial
      · exact spec_writeLevels o hg buffer (by omega)

/-! ## Sessions -/

/-- Every call keeps the context good. -/
theorem spec_gpioCall (o : Outcomes) (call : GpioCall) (hg : ctx.Good) :
    Spec ctx.held (gpioCall o ctx call) held Good := by
  cases call with
  | control command argument =>
      exact Spec.bind (spec_gpioDeviceControl o hg command argument) fun _ hg' => Spec.pure rfl hg'
  | read hasBuffer size =>
      exact Spec.bind (spec_gpioDeviceRead o hg hasBuffer size) fun _ _ => Spec.pure rfl hg
  | write buffer size =>
      exact Spec.bind (spec_gpioDeviceWrite o hg buffer size) fun _ _ => Spec.pure rfl hg

/-- A sequence of calls keeps the context good. -/
theorem spec_gpioCalls (o : Outcomes) (calls : List GpioCall) (hg : ctx.Good) :
    Spec ctx.held (gpioCalls o ctx calls) held Good :=
  Spec.foldlM calls hg fun call _ hg' => spec_gpioCall o call hg'

/-- A session with the close gives everything back. -/
theorem spec_gpioSession (o : Outcomes) (calls : List GpioCall) (hg : ctx.Good) :
    Spec ctx.held (gpioSession o ctx calls) (fun _ => 0) (fun code => code = 0) :=
  Spec.bind (spec_gpioCalls o calls hg) fun _ hg' => spec_gpioDeviceClose hg'

end

/-- A context from `gpio_device_open` is good and refers to nothing. -/
lemma good_of_gpioDeviceOpen {block : Option GpioDeviceContext} {ctx : GpioDeviceContext}
    (h : gpioDeviceOpen block = (0, some ctx)) : ctx.Good ∧ ctx.held = 0 := by
  have hctx : ctx = .zeroed := by
    cases block with
    | none => cases h
    | some block =>
        cases h
        rfl
  subst hctx
  refine ⟨⟨⟨Nat.zero_le _, ?_, ?_⟩, ?_⟩, ?_⟩
  · intro i _
    simp [GpioDeviceContext.zeroed]
  · intro i _
    simp [GpioDeviceContext.zeroed]
  · intro i hi r hr
    simp [GpioDeviceContext.zeroed] at hr
  · unfold held
    rw [heldIn_eq_zero (by simp [GpioDeviceContext.zeroed]),
      heldIn_eq_zero (by simp [GpioDeviceContext.zeroed])]
    rfl

/-- The log gives everything back: what is obtained is given back exactly once, nothing else is
given back, and a line request is made on an open chip and given back before it. -/
structure Accounted (log : List (Event GpiodObject)) : Prop where
  once : ∀ x, .acquire x ∈ log → log.count (.acquire x) = 1 ∧ log.count (.release x) = 1
  obtained : ∀ x, .release x ∈ log → .acquire x ∈ log
  requestFirst : ∀ r, .acquire (.lineRequest r) ∈ log → .acquire (.chip r.chip) ∈ log ∧
    log.idxOf (.release (.lineRequest r)) < log.idxOf (.release (.chip r.chip))

/-- An orderly log after which nothing is held is accounted for. -/
lemma accounted_of_orderly {log : List (Event GpiodObject)} (h : Orderly log 0) :
    Accounted log where
  once := h.settled.once
  obtained := h.settled.obtained
  requestFirst := fun _ hr => ⟨h.acquire_parent rfl hr, h.idxOf_release_lt rfl hr⟩

/-- **Handle accounting.** Whatever the calls on an opened device, their configurations and the
outcomes of libgpiod: after every part of the calls the context is consistent, and after the close
the log is accounted for. -/
theorem gpioSession_accounted (o : Outcomes) (calls : List GpioCall)
    {block : Option GpioDeviceContext} {ctx : GpioDeviceContext}
    (hopen : gpioDeviceOpen block = (0, some ctx)) :
    (∀ before, before <+: calls → ∃ ctx' ledger,
      (gpioCalls o ctx before).run (.empty _) = some (ctx', ledger) ∧ ctx'.Consistent) ∧
    ∃ ledger, (gpioSession o ctx calls).run (.empty _) = some (0, ledger) ∧
      Accounted ledger.log := by
  obtain ⟨hg, hheld⟩ := good_of_gpioDeviceOpen hopen
  have hstart : (Ledger.empty GpiodObject).Owns ctx.held := hheld ▸ Ledger.owns_empty
  constructor
  · intro before _
    obtain ⟨ctx', ledger, hrun, -, hgood, -⟩ := spec_gpioCalls o before hg _ hstart
    exact ⟨ctx', ledger, hrun, hgood.toConsistent⟩
  · obtain ⟨code, ledger, hrun, howns, rfl, -⟩ := spec_gpioSession o calls hg _ hstart
    exact ⟨ledger, hrun, accounted_of_orderly howns.orderly⟩

/-- Two output lines on one chip. -/
def twoOutputs : GpioConfiguration :=
  { GpioConfiguration.zeroed with
    chip := safeStringCopy (cstr "gpiochip0") configKeyLength
    linesCount := 2
    lines := .ofFn fun i => i.val.toUInt32
    direction := gpioDirectionOutput }

/-- A session in which the second line request fails, the device is configured again and read. -/
theorem gpioSession_accounted_twoOutputs :
    (∀ before, before <+: [GpioCall.control 0 (some twoOutputs), .control 0 (some twoOutputs),
        .read true 8] → ∃ ctx' ledger,
      (gpioCalls ⟨fun k => k ≠ 18, fun _ => true⟩ .zeroed before).run (.empty _) =
        some (ctx', ledger) ∧ ctx'.Consistent) ∧
    ∃ ledger, (gpioSession ⟨fun k => k ≠ 18, fun _ => true⟩ .zeroed
        [GpioCall.control 0 (some twoOutputs), .control 0 (some twoOutputs), .read true 8]).run
      (.empty _) = some (0, ledger) ∧ Accounted ledger.log :=
  gpioSession_accounted _ _ (show gpioDeviceOpen (some .zeroed) = (0, some .zeroed) from rfl)

/-- In every session an object is passed to libgpiod only between its making and its release. -/
theorem gpioSession_uses_held (o : Outcomes) (calls : List GpioCall)
    {block : Option GpioDeviceContext} {ctx : GpioDeviceContext}
    (hopen : gpioDeviceOpen block = (0, some ctx)) {code : ℤ} {ledger : Ledger GpiodObject}
    (hrun : (gpioSession o ctx calls).run (.empty _) = some (code, ledger))
    {before after : List (Event GpiodObject)} {x : GpiodObject}
    (hlog : ledger.log = before ++ .use x :: after) :
    .acquire x ∈ before ∧ .release x ∉ before := by
  obtain ⟨hg, hheld⟩ := good_of_gpioDeviceOpen hopen
  have hstart : (Ledger.empty GpiodObject).Owns ctx.held := hheld ▸ Ledger.owns_empty
  obtain ⟨_, ledger', hrun', howns, -⟩ := spec_gpioSession o calls hg _ hstart
  rw [hrun] at hrun'
  cases hrun'
  have horderly := howns.orderly
  rw [hlog] at horderly
  exact horderly.used_while_held

end HardwareTest
