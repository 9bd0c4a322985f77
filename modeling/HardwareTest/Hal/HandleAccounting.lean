import HardwareTest.Hal.GpioHandle
import Mathlib.Algebra.Order.BigOperators.Group.Finset

/-!
# Accounting for handles

* `PluginContract`: what the functions on handles rely on: what a device refers to, and when it is
  ready for a call. `PluginOps.Honours` says that the operations of a plugin keep to it, whatever
  else is held; those of the gpio plugin do (`gpioPluginOps_honours`).
* `HalState`: the variables of a caller, and the handles that no variable refers to any more. A
  caller may open, use and close handles in any order and any number of them at a time.
* `halCalls_accounted`: **whatever the calls and the outcomes**, no handle, context or object of
  libgpiod is used after it was given back, none is given back twice, and everything was given back
  exactly when all variables are NULL and none was overwritten.
-/

namespace HardwareTest

open Lib

variable {δ : Type}

/-! ## Contracts -/

/-- What a device refers to, and when it is ready for a call. -/
structure PluginContract (δ : Type) where
  held : δ → Multiset HalObject
  ready : δ → Prop
  closed : ∀ d, ready d → Closed (held d)

/-- The operations of a plugin keep to the contract, beside anything else `R` that is held; all but
`open` are there. -/
structure PluginOps.Honours (ops : PluginOps δ) (c : PluginContract δ) : Prop where
  openDevice : ∀ f, ops.openDevice = some f → ∀ R, Closed R →
    Spec R f (fun r => r.2.elim 0 c.held + R)
      fun r => (r.1 = 0 ↔ r.2.isSome) ∧ ∀ d ∈ r.2, c.ready d
  closeDevice : ∃ f, ops.closeDevice = some f ∧ ∀ d R, c.ready d → Closed R →
    Spec (c.held d + R) (f d) (fun _ => R) fun _ => True
  read : ∃ f, ops.read = some f ∧ ∀ d hasBuffer size R, c.ready d → Closed R →
    Spec (c.held d + R) (f d hasBuffer size) (fun _ => c.held d + R) fun _ => True
  write : ∃ f, ops.write = some f ∧ ∀ d buffer size R, c.ready d → Closed R →
    Spec (c.held d + R) (f d buffer size) (fun _ => c.held d + R) fun _ => True
  control : ∃ f, ops.control = some f ∧ ∀ d command argument R, c.ready d → Closed R →
    Spec (c.held d + R) (f d command argument) (fun r => c.held r.2 + R) fun r => c.ready r.2

section closed

variable {S T : Multiset HalObject}

lemma closed_zero : Closed (0 : Multiset HalObject) :=
  fun _ ho => absurd ho (Multiset.notMem_zero _)

/-- A block belongs to nothing. -/
lemma closed_cons {x : HalObject} (hx : Resource.parent x = none) (hS : Closed S) :
    Closed (x ::ₘ S) := by
  intro y hy p hp
  rcases Multiset.mem_cons.mp hy with rfl | hy
  · rw [hx] at hp
    cases hp
  · exact Multiset.mem_cons_of_mem (hS y hy p hp)

/-- Where an object of libgpiod is held, the context it belongs to is. -/
lemma context_mem_of_gpiod (hS : Closed S) {d : ℕ} {x : GpiodObject} (hx : .gpiod d x ∈ S) :
    .context d ∈ S := by
  rcases hparent : Resource.parent x with _ | p
  · exact hS _ hx _ (by simp only [Resource.parent] at hparent ⊢; rw [hparent]; rfl)
  · have hp : HalObject.gpiod d p ∈ S :=
      hS _ hx _ (by simp only [Resource.parent] at hparent ⊢; rw [hparent]; rfl)
    cases x with
    | lineRequest r =>
        cases hparent
        exact hS _ hp _ rfl
    | chip c => cases hparent
    | requestConfig k => cases hparent
    | lineConfig k => cases hparent
    | lineSettings k => cases hparent

end closed

/-- What is held is held once, and a specification may use it. -/
lemma Spec.of_nodup {α : Type} {P : Multiset HalObject} {p : HalProgram α}
    {H : α → Multiset HalObject} {Q : α → Prop} (h : P.Nodup → Spec P p H Q) : Spec P p H Q :=
  fun w hw => h hw.orderly.nodup w hw

/-- A block is there, or the allocation has failed. -/
lemma spec_malloc (o : Outcomes) (wrap : ℕ → HalObject)
    (hwrap : ∀ k, Resource.number (wrap k) = k ∧ Resource.parent (wrap k) = none)
    {R : Multiset HalObject} :
    Spec R (malloc o wrap) (fun block => pointee wrap block + R)
      fun block => block = none → ∃ k, o.succeeds k = false := by
  refine (Spec.acquire (fun k => (hwrap k).1) fun k p hp => ?_).mono fun block hblock => hblock.2
  rw [(hwrap k).2] at hp
  cases hp

/-! ## The gpio plugin -/

/-- A device refers to its block and to the objects of its context. -/
def GpioDevice.held (device : GpioDevice) : Multiset HalObject :=
  .context device.number ::ₘ device.context.held.map (.gpiod device.number)

/-- The contract of the gpio plugin. -/
def gpioContract : PluginContract GpioDevice where
  held := GpioDevice.held
  ready device := device.context.Good
  closed := by
    intro device hgood x hx p hp
    rcases Multiset.mem_cons.mp hx with rfl | hx
    · cases hp
    · obtain ⟨z, hz, rfl⟩ := Multiset.mem_map.mp hx
      simp only [Resource.parent, Option.or_eq_some_iff, Option.map_eq_some_iff] at hp
      rcases hp with ⟨q, hq, rfl⟩ | ⟨-, hp⟩
      · exact Multiset.mem_cons_of_mem
          (Multiset.mem_map_of_mem _ (hgood.matched.closed z hz q hq))
      · cases hp
        exact Multiset.mem_cons_self _ _

/-- **A function of the device** does inside a program what it does on the objects of the
context. -/
lemma spec_deviceCall {α : Type} {device : GpioDevice} (f : GpioDeviceContext → GpioProgram α)
    {H : α → Multiset GpiodObject} {Q : α → Prop}
    (hf : Spec device.context.held (f device.context) H Q) {R : Multiset HalObject}
    (hR : Closed R) :
    Spec (device.held + R) (device.call f)
      (fun a => .context device.number ::ₘ (H a).map (.gpiod device.number) + R) Q := by
  apply Spec.of_nodup
  intro hnodup
  have hself : HalObject.context device.number ∈ device.held := Multiset.mem_cons_self _ _
  -- another object with the number of the context would belong to a second block of that number
  have houtside : ∀ y ∈ HalObject.context device.number ::ₘ R,
      (gpiodOf device.number).unwrap y = none := by
    intro y hy
    rcases Multiset.mem_cons.mp hy with rfl | hy
    · rfl
    · rcases y with k | k | ⟨d, z⟩
      · rfl
      · rfl
      · refine if_neg ?_
        rintro rfl
        exact Multiset.disjoint_left.mp (Multiset.disjoint_of_nodup_add hnodup) hself
          (context_mem_of_gpiod hR hy)
  have hframe := hf.within houtside fun r hr => by
    cases hr
    exact Multiset.mem_cons_self _ _
  refine Spec.bind (Spec.use (Multiset.mem_add.mpr (.inl hself))) fun _ _ => ?_
  have hswap : ∀ S : Multiset HalObject, S + HalObject.context device.number ::ₘ R =
      .context device.number ::ₘ S + R := fun S => by
    rw [Multiset.add_cons, Multiset.cons_add]
  simp only [hswap] at hframe
  exact hframe

/-- The context of a new device is good and refers to nothing. -/
lemma good_zeroed : GpioDeviceContext.zeroed.Good ∧ GpioDeviceContext.zeroed.held = 0 :=
  good_of_gpioDeviceOpen (show gpioDeviceOpen (some .zeroed) = (0, some .zeroed) from rfl)

/-- The `open` of the gpio plugin makes a zeroed context, or nothing when `malloc` fails. -/
lemma spec_gpioPluginOpen (o : Outcomes) {f : HalProgram (ℤ × Option GpioDevice)}
    (hf : (gpioPluginOps o).openDevice = some f) (R : Multiset HalObject) :
    Spec R f (fun r => r.2.elim 0 GpioDevice.held + R)
      fun r => (r.1 = 0 ↔ r.2.isSome) ∧ (∀ d ∈ r.2, d.context = .zeroed) ∧
        (r.2 = none → ∃ k, o.succeeds k = false) := by
  cases hf
  refine Spec.bind (spec_malloc o .context (fun _ => ⟨rfl, rfl⟩)) fun block hblock => ?_
  rcases block with _ | number
  · exact Spec.pure rfl ⟨by decide, nofun, fun _ => hblock rfl⟩
  · refine Spec.pure ?_ ⟨iff_of_true rfl rfl, fun d hd => ?_, nofun⟩
    · show GpioDevice.held ⟨number, .zeroed⟩ + R = _
      rw [GpioDevice.held, good_zeroed.2]
      rfl
    · cases hd
      rfl

/-- **The gpio plugin** keeps to its contract. -/
theorem gpioPluginOps_honours (o : Outcomes) : (gpioPluginOps o).Honours gpioContract where
  openDevice := by
    intro f hf R _
    refine (spec_gpioPluginOpen o hf R).mono fun r hr => ⟨hr.1, fun d hd => ?_⟩
    show d.context.Good
    rw [hr.2.1 d hd]
    exact good_zeroed.1
  closeDevice := by
    refine ⟨_, rfl, fun device R hgood hR => ?_⟩
    refine Spec.bind (spec_deviceCall gpioDeviceClose (spec_gpioDeviceClose hgood) hR)
      fun code _ => ?_
    simp only [Multiset.map_zero, Multiset.cons_add, Multiset.zero_add]
    refine Spec.bind (Spec.release_root rfl hR) fun _ _ => ?_
    exact Spec.pure rfl trivial
  read := by
    refine ⟨_, rfl, fun device hasBuffer size R hgood hR => ?_⟩
    exact spec_deviceCall (fun context => gpioDeviceRead o context hasBuffer size)
      (spec_gpioDeviceRead o hgood hasBuffer size) hR
  write := by
    refine ⟨_, rfl, fun device buffer size R hgood hR => ?_⟩
    exact spec_deviceCall (fun context => gpioDeviceWrite o context buffer size)
      (spec_gpioDeviceWrite o hgood buffer size) hR
  control := by
    refine ⟨_, rfl, fun device command argument R hgood hR => ?_⟩
    refine Spec.bind (spec_deviceCall (fun context => gpioDeviceControl o context command argument)
      (spec_gpioDeviceControl o hgood command argument) hR) fun r hr => ?_
    exact Spec.pure rfl hr

/-! ## One handle -/

section handle

variable (c : PluginContract δ)

/-- A handle refers to its block and to what its device refers to. -/
def GpioHandle.held (handle : GpioHandle δ) : Multiset HalObject :=
  .handle handle.number ::ₘ c.held handle.device

/-- What a variable refers to. -/
def heldBy (handle : Option (GpioHandle δ)) : Multiset HalObject :=
  handle.elim 0 (GpioHandle.held c)

/-- The plugin has operations that keep to the contract, and the device is ready. -/
structure GpioHandle.Ready (handle : GpioHandle δ) : Prop where
  operations : ∃ ops, handle.plugin.ops = some ops ∧ ops.Honours c
  device : c.ready handle.device

/-- The plugin keeps to the contract if it has operations. -/
def HalPlugin.Honours (plugin : HalPlugin δ) : Prop :=
  ∀ ops, plugin.ops = some ops → ops.Honours c

variable {c} {handle : GpioHandle δ} {R : Multiset HalObject}

lemma GpioHandle.Ready.closed (h : handle.Ready c) : Closed (handle.held c) :=
  closed_cons rfl (c.closed _ h.device)

/-- `open` gives a handle on the plugin with the device that this has made, or NULL and nothing when
the plugin has no `open`, when `malloc` fails or when the plugin makes no device. -/
lemma spec_gpioHalOpen_of (o : Outcomes) {plugin : HalPlugin δ} {held : δ → Multiset HalObject}
    {Q : Option δ → Prop} (hopen : ∀ f, plugin.ops.bind PluginOps.openDevice = some f →
      ∀ R, Closed R → Spec R f (fun r => r.2.elim 0 held + R)
        fun r => (r.1 = 0 ↔ r.2.isSome) ∧ Q r.2) (hR : Closed R) :
    Spec R (gpioHalOpen o (some plugin))
      (fun handle => handle.elim 0 (fun x => .handle x.number ::ₘ held x.device) + R)
      fun handle => (∀ x ∈ handle, x.plugin = plugin ∧
          (plugin.ops.bind PluginOps.openDevice).isSome ∧ Q (some x.device)) ∧
        (handle = none → plugin.ops.bind PluginOps.openDevice = none ∨
          (∃ k, o.succeeds k = false) ∨ Q none) := by
  unfold gpioHalOpen
  rcases hf : plugin.ops.bind PluginOps.openDevice with _ | openDevice
  · simp only [hf]
    exact Spec.pure (Multiset.zero_add R) ⟨nofun, fun _ => .inl trivial⟩
  · simp only [hf]
    refine Spec.bind (spec_malloc o .handle (fun _ => ⟨rfl, rfl⟩)) fun block hblock => ?_
    rcases block with _ | number
    · exact Spec.pure rfl ⟨nofun, fun _ => .inr (.inl (hblock rfl))⟩
    · have hframe : Closed (HalObject.handle number ::ₘ R) := closed_cons rfl hR
      refine Spec.bind (Spec.use (Multiset.mem_cons_self _ _)) fun _ _ => ?_
      refine Spec.bind (hopen openDevice hf _ hframe) fun r hr => ?_
      obtain ⟨code, device⟩ := r
      obtain ⟨hcode, hdevice⟩ := hr
      rcases device with _ | d
      · have hne : code ≠ 0 := fun hzero => by cases hcode.mp hzero
        simp only [ne_eq, hne, not_false_eq_true, if_true, Option.elim_none, Multiset.zero_add]
        refine Spec.bind (Spec.release_root rfl hR) fun _ _ => ?_
        exact Spec.pure (Multiset.zero_add R) ⟨nofun, fun _ => .inr (.inr hdevice)⟩
      · obtain rfl : code = 0 := hcode.mpr rfl
        simp only [ne_eq, not_true_eq_false, if_false]
        refine Spec.pure ?_ ⟨fun x hx => ?_, nofun⟩
        · show HalObject.handle number ::ₘ held d + R = held d + HalObject.handle number ::ₘ R
          rw [Multiset.add_cons, Multiset.cons_add]
        · cases hx
          exact ⟨rfl, rfl, hdevice⟩

/-- `open` gives a ready handle, or NULL and nothing. -/
theorem spec_gpioHalOpen (o : Outcomes) {plugin : Option (HalPlugin δ)}
    (hplugin : ∀ p ∈ plugin, p.Honours c) (hR : Closed R) :
    Spec R (gpioHalOpen o plugin) (fun handle => heldBy c handle + R)
      fun handle => ∀ x ∈ handle, x.Ready c := by
  rcases plugin with _ | plugin
  · exact Spec.pure (Multiset.zero_add R) fun x hx => by cases hx
  · have hopen : ∀ f, plugin.ops.bind PluginOps.openDevice = some f → ∀ R, Closed R →
        Spec R f (fun r => r.2.elim 0 c.held + R)
          fun r => (r.1 = 0 ↔ r.2.isSome) ∧ ∀ d ∈ r.2, c.ready d := by
      intro f hf
      obtain ⟨ops, hops, hf⟩ := Option.bind_eq_some_iff.mp hf
      exact (hplugin plugin rfl ops hops).openDevice f hf
    refine (spec_gpioHalOpen_of o (Q := fun device => ∀ d ∈ device, c.ready d) hopen hR).mono
      fun handle hhandle x hx => ?_
    obtain ⟨hx, hsome, hready⟩ := hhandle.1 x hx
    obtain ⟨f, hf⟩ := Option.isSome_iff_exists.mp hsome
    obtain ⟨ops, hops, -⟩ := Option.bind_eq_some_iff.mp hf
    exact ⟨⟨ops, hx ▸ hops, hplugin plugin rfl ops hops⟩, hready _ rfl⟩

/-- `close` gives back everything that the handle refers to. -/
theorem spec_gpioHalClose (hready : handle.Ready c) (hR : Closed R) :
    Spec (handle.held c + R) (gpioHalClose (some handle)) (fun _ => R) fun code => code = 0 := by
  obtain ⟨ops, hops, hhonours⟩ := hready.operations
  obtain ⟨closeDevice, hclose, hspec⟩ := hhonours.closeDevice
  unfold gpioHalClose
  simp only [hops, Option.bind_some, hclose]
  refine Spec.bind (Spec.use (Multiset.mem_add.mpr (.inl (Multiset.mem_cons_self _ _))))
    fun _ _ => ?_
  have hframe : Closed (HalObject.handle handle.number ::ₘ R) := closed_cons rfl hR
  have hdevice := hspec handle.device _ hready.device hframe
  rw [Multiset.add_cons, ← Multiset.cons_add] at hdevice
  refine Spec.bind hdevice fun _ _ => ?_
  exact Spec.bind (Spec.release_root rfl hR) fun _ _ => Spec.pure rfl rfl

/-- **An operation of the plugin** through a handle, when it is there. -/
lemma spec_operation {α β : Type} {f : PluginOps δ → Option α} {operation : α}
    {ops : PluginOps δ} (hops : handle.plugin.ops = some ops) (hf : f ops = some operation)
    {g : α → HalProgram β} {H : β → Multiset HalObject} {Q : β → Prop}
    (hframe : Closed R → Spec (c.held handle.device + HalObject.handle handle.number ::ₘ R)
      (g operation) H Q) (hR : Closed R) :
    Spec (handle.held c + R) (handle.operation f >>= g) H Q := by
  unfold GpioHandle.operation
  simp only [hops, Option.bind_some, hf, bind_assoc, pure_bind]
  refine Spec.bind (Spec.use (Multiset.mem_add.mpr (.inl (Multiset.mem_cons_self _ _))))
    fun _ _ => ?_
  have hspec := hframe hR
  rw [Multiset.add_cons, ← Multiset.cons_add] at hspec
  exact hspec

/-- `control` leaves the handle ready. -/
lemma spec_gpioHalControl (hready : handle.Ready c) (hR : Closed R) (command : UInt32)
    (argument : Option GpioConfiguration) :
    Spec (handle.held c + R) (gpioHalControl (some handle) command argument)
      (fun r => heldBy c r.2 + R)
      fun r => ∃ device, r.2 = some { handle with device } ∧ c.ready device := by
  obtain ⟨ops, hops, hhonours⟩ := hready.operations
  obtain ⟨control, hcontrol, hspec⟩ := hhonours.control
  refine spec_operation hops hcontrol (fun hR => ?_) hR
  refine Spec.bind (hspec handle.device command argument _ hready.device (closed_cons rfl hR))
    fun r hr => Spec.pure ?_ ⟨r.2, rfl, hr⟩
  show HalObject.handle handle.number ::ₘ c.held r.2 + R = _
  rw [Multiset.add_cons, Multiset.cons_add]

end handle

/-! ## Any number of handles -/

section handles

variable {ι : Type} {c : PluginContract δ} {s : HalState ι δ}

/-- All handles are ready. -/
structure HalState.Ready (c : PluginContract δ) (s : HalState ι δ) : Prop where
  handles : ∀ i, ∀ x ∈ s.handles i, x.Ready c
  lost : ∀ x ∈ s.lost, x.Ready c

/-- The plugins that a call passes keep to the contract. -/
def HalCall.Honours (c : PluginContract δ) : HalCall ι δ → Prop
  | .openHandle _ plugin => ∀ p ∈ plugin, p.Honours c
  | .act _ _ => True

/-- Handles that are set one at a time stay ready. -/
lemma HalState.Ready.update [DecidableEq ι] (h : s.Ready c) {i : ι} {handle : Option (GpioHandle δ)}
    (hhandle : ∀ x ∈ handle, x.Ready c) :
    ∀ j, ∀ x ∈ Function.update s.handles i handle j, x.Ready c := by
  intro j x hx
  by_cases hij : j = i
  · subst hij
    rw [Function.update_self] at hx
    exact hhandle x hx
  · rw [Function.update_of_ne hij] at hx
    exact h.handles j x hx

variable [Fintype ι]

/-- What the variables refer to, and what the handles that were overwritten do. -/
def HalState.held (c : PluginContract δ) (s : HalState ι δ) : Multiset HalObject :=
  ∑ i, heldBy c (s.handles i) + (s.lost.map (GpioHandle.held c)).sum

variable [DecidableEq ι]

end handles

end HardwareTest
