import HardwareTest.Plugins.GpioReconfigure
import HardwareTest.Services.GpioLines
import HardwareTest.Validation.StatusIndication

/-!
# From the gpio JSON object to the requested lines

The parameters of a binding are written by `get_gpio`, read by `validation_runtime_open_gpio` and
handed by the handle to the gpio plugin, which asks libgpiod for the lines.

* `GpioConfiguration.HasLines`: what the decoded configuration has of the lines of the object.
* `GpioArrays.Requested`: the requests of a context are the lines of the object, one by one.
* `statusIndicationSetup_lines`: **all lines or none**: whatever calls fail, `setup` returns 0 with
  exactly the lines of the object requested or with none of them, or -1 without a handle.
-/

namespace HardwareTest

open Lib GpioDeviceContext

/-! ## The lines of an object -/

section decoded

variable {a : GpioArrays} {config : CJson} {n : ℕ}

/-- An array and the list that its first cells are. -/
lemma getElem?_of_take {α : Type*} {m i : ℕ} {v : Vector α m} {l : List α}
    (h : v.toList.take n = l) (hin : i < n) (hi : i < m) : l[i]? = some v[i] := by
  rw [← h, List.getElem?_take_of_lt hin]
  simp [hi]

namespace GpioConfiguration.HasLines

variable {c : GpioConfiguration} (h : c.HasLines a n) {i : ℕ} (hin : i < n) (hi : i < gpioMaxLines)

include h hin

/-- The chip, the offset and the direction of a line. -/
lemma line_eq (hnames : ∀ name ∈ a.linesChip, name ≠ []) :
    ∃ name offset direction, a.linesChip[i]? = some name ∧ a.lines[i]? = some offset ∧
      a.directions[i]? = some direction ∧ c.chipNameOf i hi = some name ∧
      c.lines[i] = offset.toUInt32 ∧ c.directionOf i hi = direction.toUInt32 := by
  obtain ⟨offset, hoffset, hline⟩ : ∃ offset, a.lines[i]? = some offset ∧
      offset.toUInt32 = c.lines[i] := by
    have hget := getElem?_of_take h.lines hin hi
    rwa [List.getElem?_map, Option.map_eq_some_iff] at hget
  obtain ⟨direction, hdirection, hread⟩ : ∃ direction, a.directions[i]? = some direction ∧
      direction.toUInt32 = c.directions[i] := by
    have hget := getElem?_of_take h.directions hin hi
    rwa [List.getElem?_map, Option.map_eq_some_iff] at hget
  have hname : a.linesChip[i]? = some c.linesChip[i].chars := by
    rw [← h.linesChip, List.getElem?_map, getElem?_of_take rfl hin hi]
    rfl
  refine ⟨_, offset, direction, hname, hoffset, hdirection, ?_, hline.symm, ?_⟩
  · exact if_pos (hnames _ (List.mem_of_getElem? hname))
  · rw [GpioConfiguration.directionOf, h.directionsCount, if_pos hin, hread]

end GpioConfiguration.HasLines

/-- The context has requested the lines of the object, each on its chip with its offset and its
direction, and no others. -/
structure GpioArrays.Requested (a : GpioArrays) (n : ℕ) (ctx : GpioDeviceContext) : Prop where
  linesCount : ctx.linesCount = n
  requests : ∀ i < n, ∃ hi : i < gpioMaxLines, ∃ r name offset direction,
    ctx.lines[i] = some r ∧ a.linesChip[i]? = some name ∧ a.lines[i]? = some offset ∧
      a.directions[i]? = some direction ∧ chipPath name = some r.chip.path ∧
      r.lines = [⟨offset.toUInt32, gpiodDirection direction.toUInt32, false⟩]
  others : ∀ i, ∀ hi : i < gpioMaxLines, n ≤ i → ctx.lines[i] = none

/-- A context that describes the configuration has requested the lines of the object. -/
lemma Describes.requested {c : GpioConfiguration} {ctx : GpioDeviceContext} (h : Describes c ctx)
    (hc : c.HasLines a n) (hnames : ∀ name ∈ a.linesChip, name ≠ []) : a.Requested n ctx where
  linesCount := h.linesCount.trans hc.linesCount
  requests := by
    intro i hin
    obtain ⟨hi, r, hr, hrequest⟩ := h.requests i (hc.linesCount ▸ hin)
    obtain ⟨name, offset, direction, hname, hoffset, hdirection, hchip, hline, hdir⟩ :=
      hc.line_eq hin hi hnames
    refine ⟨hi, r, name, offset, direction, hr, hname, hoffset, hdirection, ?_, ?_⟩
    · have hpath := hrequest.chip
      rwa [hchip, Option.bind_some] at hpath
    · rw [hrequest.lines, hline, hdir]
  others := fun i hi hle => h.others i hi (hc.linesCount ▸ hle)

/-! ## Through the handle -/

variable {o : Outcomes}

/-- **Configuring a handle** of the gpio plugin is configuring its device. -/
lemma spec_gpioHalConfigure {handle : GpioHandle GpioDevice}
    (hops : handle.plugin.ops = some (gpioPluginOps o)) (hgood : handle.device.context.Good)
    (c : GpioConfiguration) :
    Spec (handle.held gpioContract) (gpioHalConfigure (some handle) (some c))
      (fun r => heldBy gpioContract r.2)
      fun r => ∃ context, r.2 = some { handle with device := { handle.device with context } } ∧
        Reconfigured o handle.device.context (withSingleLine c) (r.1, context) := by
  have hframe : Closed (HalObject.handle handle.number ::ₘ 0) := closed_cons rfl closed_zero
  have hdevice : Spec (gpioContract.held handle.device + HalObject.handle handle.number ::ₘ 0)
      (handle.device.call (fun context =>
          gpioDeviceControl o context gpioCommandSetConfiguration (some c)) >>= fun r =>
        pure (r.1, { handle.device with context := r.2 }))
      (fun s => s.2.held + HalObject.handle handle.number ::ₘ 0)
      fun s => ∃ context, s.2 = { handle.device with context } ∧
        Reconfigured o handle.device.context (withSingleLine c) (s.1, context) :=
    Spec.bind (spec_deviceCall
      (fun context => gpioDeviceControl o context gpioCommandSetConfiguration (some c))
      (spec_setConfiguration o hgood c) hframe) fun r hr => Spec.pure rfl ⟨r.2, rfl, hr⟩
  have hcontrol : Spec (handle.held gpioContract + 0)
      (gpioHalControl (some handle) gpioCommandSetConfiguration (some c))
      (fun r => heldBy gpioContract r.2)
      fun r => ∃ context, r.2 = some { handle with device := { handle.device with context } } ∧
        Reconfigured o handle.device.context (withSingleLine c) (r.1, context) := by
    refine spec_operation (f := PluginOps.control) hops rfl (fun _ => ?_) closed_zero
    refine Spec.bind hdevice fun s hs => ?_
    obtain ⟨context, hs, hdone⟩ := hs
    refine Spec.pure ?_ ⟨context, by rw [hs], hdone⟩
    rw [Multiset.add_cons, Multiset.add_zero]
    rfl
  rw [Multiset.add_zero] at hcontrol
  exact hcontrol

/-- Opening a gpio plugin makes a zeroed context, or `malloc` fails. -/
lemma spec_gpioHalOpen_zeroed {plugin : HalPlugin GpioDevice}
    (hops : plugin.ops = some (gpioPluginOps o)) :
    Spec 0 (gpioHalOpen o (some plugin)) (heldBy gpioContract)
      fun handle => (∀ x ∈ handle, x.plugin = plugin ∧ x.device.context = .zeroed) ∧
        (handle = none → ∃ k, o.succeeds k = false) := by
  have hopen : ∀ f, plugin.ops.bind PluginOps.openDevice = some f → ∀ R, Closed R →
      Spec R f (fun r => r.2.elim 0 GpioDevice.held + R)
        fun r => (r.1 = 0 ↔ r.2.isSome) ∧ (∀ d ∈ r.2, d.context = .zeroed) ∧
          (r.2 = none → ∃ k, o.succeeds k = false) := by
    intro f hf R _
    rw [hops, Option.bind_some] at hf
    exact spec_gpioPluginOpen o hf R
  have hspec := spec_gpioHalOpen_of o (Q := fun device : Option GpioDevice =>
    (∀ d ∈ device, d.context = .zeroed) ∧ (device = none → ∃ k, o.succeeds k = false))
    hopen closed_zero
  simp only [Multiset.add_zero] at hspec
  refine hspec.mono fun handle hhandle => ⟨fun x hx => ?_, fun hnone => ?_⟩
  · obtain ⟨hx, -, hzeroed, -⟩ := hhandle.1 x hx
    exact ⟨hx, hzeroed _ rfl⟩
  · rcases hhandle.2 hnone with hmissing | hfails | hfails
    · rw [hops] at hmissing
      cases hmissing
    · exact hfails
    · exact hfails.2 trivial

/-- What a new configuration with the lines of an object leaves on a zeroed context: all of them are
requested, or none because a call has failed or a chip name is too long. -/
lemma Reconfigured.lines {c : GpioConfiguration} (hc : c.HasLines a n) (hn : 1 ≤ n)
    (hmax : n ≤ gpioMaxLines) (hnames : ∀ name ∈ a.linesChip, name ≠ [])
    {r : ℤ × GpioDeviceContext} (h : Reconfigured o .zeroed (withSingleLine c) r) :
    a.Requested n r.2 ∨ HoldsNothing r.2 ∧
      ((∃ k, o.succeeds k = false) ∨ ∃ name ∈ a.linesChip, chipPath name = none) := by
  have hcount := hc.linesCount
  have hsingle : withSingleLine c = c := if_neg fun hzero => by omega
  rw [hsingle] at h
  rcases h with hmany | ⟨hfew, ctx, hdone⟩ | ⟨hfew, ctx, hdone⟩
  · exact absurd (hcount ▸ hmany) (Nat.not_lt.mpr hmax)
  · rcases hdone with _ | ⟨_, i, hi, hin, -, hname⟩ | ⟨_, _, i, hin, -, hback, hfail⟩
    · obtain ⟨_, _, _, _, _, _, hchip, _⟩ := hc.line_eq (hcount ▸ hin) hi hnames
      rw [hname] at hchip
      cases hchip
    · refine .inr ⟨⟨hback.linesCount, fun j hj => ?_⟩, hfail.imp_right ?_⟩
      · have hlines := hback.good.lines j hj
        rw [hback.linesCount] at hlines
        simpa using hlines
      · rintro ⟨hi, name, hchip, hlong⟩
        obtain ⟨name', _, _, hname, _, _, hchip', _⟩ := hc.line_eq (hcount ▸ hin) hi hnames
        rw [hchip] at hchip'
        cases hchip'
        exact ⟨name, List.mem_of_getElem? hname, hlong⟩
  · have hdescribes : Describes c { ctx with activeLow := c.activeLow } :=
      ⟨hdone.describes.configuration, hdone.describes.linesCount, hdone.describes.requests,
        hdone.describes.others⟩
    exact .inl (hdescribes.requested hc hnames)

end decoded

/-- **All lines or none.** The binding of the status LED is to a gpio plugin, and its parameters are
those of a gpio object with arrays of length `n`. Whatever calls fail, `setup` returns 0 with a
handle on which exactly the lines of the object are requested; or none of them, when a call has
failed or a chip name is too long; or it returns -1 without a handle, when an allocation has failed.
Source: `validation/status_indication_test/status-indication-test.c`, `status_indication_setup` -/
theorem statusIndicationSetup_lines (o : Outcomes) {a : GpioArrays} {config : CJson} {n : ℕ}
    (h : a.DescribedBy config n) (hn : 1 ≤ n) (hmax : n ≤ gpioMaxLines) {binding : DeviceBinding}
    {bindingCount : ℕ} (hcount : bindingCount < maxBindings) {dm : DeviceManager}
    {plugins : CString → Option (HalPlugin GpioDevice)} {device : Device}
    (hdevice : dm.getDeviceByName (cstr "status_led") = some device)
    (hbinding : device.binding.configuration =
      (getGpio config bindingCount binding).2.configuration)
    {plugin : HalPlugin GpioDevice} (hplugin : plugins device.binding.plugin.chars = some plugin)
    (hops : plugin.ops = some (gpioPluginOps o)) (ctx : StatusIndicationContext)
    {w : Ledger HalObject} (hw : w.Owns 0) :
    ∃ code handle w', (statusIndicationSetup o (some ⟨some dm, some plugins⟩) (some ctx)).run w =
        some ((code, some ⟨handle⟩), w') ∧ w'.Owns (heldBy gpioContract handle) ∧
      ((code = 0 ∧ ∃ x, handle = some x ∧ a.Requested n x.device.context) ∨
        (code = 0 ∧ ∃ x, handle = some x ∧ HoldsNothing x.device.context ∧
          ((∃ k, o.succeeds k = false) ∨ ∃ name ∈ a.linesChip, chipPath name = none)) ∨
        (code = -1 ∧ handle = none ∧ ∃ k, o.succeeds k = false)) := by
  have hc := hasLines_decodeGpio h hn hmax hcount binding
  rw [← hbinding] at hc
  have hopening : validationRuntimeOpenHandle o (some ⟨some dm, some plugins⟩) (cstr "status_led")
      .zeroed = (do
        let handle ← gpioHalOpen o (some plugin)
        pure (handle, decodeGpio device.binding.configuration.items .zeroed)) := by
    simp only [validationRuntimeOpenHandle, validationRuntimeOpenGpio, hdevice, Option.getD_some,
      hplugin]
  generalize decodeGpio device.binding.configuration.items .zeroed = c at hc hopening
  obtain ⟨handle, w₁, hrun, howns, ⟨hopened, hfails⟩, -⟩ := spec_gpioHalOpen_zeroed hops w hw
  unfold statusIndicationSetup
  simp only [hopening, StateT.run_bind, hrun, Option.bind_eq_bind, Option.bind_some, bind_assoc]
  rcases handle with _ | handle
  · exact ⟨-1, none, w₁, rfl, howns, .inr (.inr ⟨rfl, rfl, hfails rfl⟩)⟩
  · obtain ⟨hhandle, hzeroed⟩ := hopened handle rfl
    have hgood : handle.device.context.Good := by
      rw [hzeroed]
      exact good_zeroed.1
    obtain ⟨r, w₂, hrun', howns', ⟨context, hr, hdone⟩, -⟩ :=
      spec_gpioHalConfigure (hhandle ▸ hops) hgood c w₁ howns
    refine ⟨0, r.2, w₂, ?_, howns', ?_⟩
    · show ((gpioHalConfigure (some handle) (some c)).run w₁ >>= _) = _
      rw [hrun']
      rfl
    · rw [hzeroed] at hdone
      have hnames := fun name hname => (h.linesChipNames name hname).1
      rcases hdone.lines hc hn hmax hnames with hall | ⟨hnone, hfail⟩
      · exact .inl ⟨rfl, _, hr, hall⟩
      · exact .inr (.inl ⟨rfl, _, hr, hnone, hfail⟩)

/-- Two lines, with every call succeeding. -/
theorem statusIndicationSetup_lines_two :
    ∃ code handle w', (statusIndicationSetup .fortunate (some (statusRuntime .fortunate))
        (some .start)).run (.empty _) = some ((code, some ⟨handle⟩), w') ∧
      w'.Owns (heldBy gpioContract handle) ∧
      ((code = 0 ∧ ∃ x, handle = some x ∧
          (GpioArrays.uniform 2 false).Requested 2 x.device.context) ∨
        (code = 0 ∧ ∃ x, handle = some x ∧ HoldsNothing x.device.context ∧
          ((∃ k, Outcomes.fortunate.succeeds k = false) ∨
            ∃ name ∈ (GpioArrays.uniform 2 false).linesChip, chipPath name = none)) ∨
        (code = -1 ∧ handle = none ∧ ∃ k, Outcomes.fortunate.succeeds k = false)) := by
  have hdevice : (DeviceManager.getDeviceByName ⟨.ofList _ statusLed [statusLed]⟩
      (cstr "status_led")) = some statusLed := by
    unfold DeviceManager.getDeviceByName
    rw [FixedTable.items_ofList _ (show 1 ≤ deviceManagerMaxDevices by decide)]
    rfl
  have hbindings : 0 < maxBindings := by decide
  exact statusIndicationSetup_lines .fortunate (describedBy_uniform 2 false) (by decide) (by decide)
    hbindings hdevice rfl rfl rfl .start Ledger.owns_empty

end HardwareTest
