import HardwareTest.Plugins.GpioDevice
import Mathlib.Algebra.Order.Group.Multiset

/-!
# What `gpio_device_control` does

* `GpioDeviceContext.held`: the objects that the context refers to. Each part of the plugin has a
  specification over what is held: it starts from the objects of its context and ends with those of
  the context it leaves, on every exit.
* `Consistent`: the first `lines_count` pointers are set and the others null; `Good` adds that every
  line request lies beside the chip it was made on, which orders the releases.
* `LineDone`, `LinesDone`, `Reconfigured`: what a round of the configure loop, the loop, and the
  command that sets a configuration can do, case by case.
-/

namespace HardwareTest

open Lib

namespace GpioDeviceContext

/-- The objects that the context refers to. -/
def held (ctx : GpioDeviceContext) : Multiset GpiodObject :=
  (heldIn ctx.lines).map .lineRequest + (heldIn ctx.chips).map .chip

/-- The count is within the arrays, and exactly the pointers below it are set. -/
structure Consistent (ctx : GpioDeviceContext) : Prop where
  linesCount_le : ctx.linesCount ≤ gpioMaxLines
  chips : ∀ i, ∀ hi : i < gpioMaxLines, ctx.chips[i] ≠ none ↔ i < ctx.linesCount
  lines : ∀ i, ∀ hi : i < gpioMaxLines, ctx.lines[i] ≠ none ↔ i < ctx.linesCount

/-- Every line request lies beside the chip it was made on. -/
def Matched (ctx : GpioDeviceContext) : Prop :=
  ∀ i, ∀ hi : i < gpioMaxLines, ∀ r, ctx.lines[i] = some r → ctx.chips[i] = some r.chip

/-- What holds of the context between two calls. -/
structure Good (ctx : GpioDeviceContext) : Prop extends Consistent ctx where
  matched : ctx.Matched

/-- Clear the line request of a line. -/
def clearRequest (ctx : GpioDeviceContext) (i : ℕ) (hi : i < gpioMaxLines) : GpioDeviceContext :=
  { ctx with lines := ctx.lines.set i none }

/-- Clear the chip of a line. -/
def clearChip (ctx : GpioDeviceContext) (i : ℕ) (hi : i < gpioMaxLines) : GpioDeviceContext :=
  { ctx with chips := ctx.chips.set i none }

variable {ctx : GpioDeviceContext} {i : ℕ} {hi : i < gpioMaxLines}

/-- A line request that is held is taken out by clearing it. -/
lemma held_of_request {r : LineRequest} (h : ctx.lines[i] = some r) :
    ctx.held = .lineRequest r ::ₘ (ctx.clearRequest i hi).held := by
  unfold held
  rw [heldIn_set_none hi h, Multiset.map_cons, Multiset.cons_add]
  rfl

/-- A chip that is held is taken out by clearing it. -/
lemma held_of_chip {c : Chip} (h : ctx.chips[i] = some c) :
    ctx.held = .chip c ::ₘ (ctx.clearChip i hi).held := by
  unfold held
  rw [heldIn_set_none hi h, Multiset.map_cons, Multiset.add_cons]
  rfl

/-- Clearing a null pointer changes nothing. -/
lemma clearRequest_of_none (h : ctx.lines[i] = none) : ctx.clearRequest i hi = ctx := by
  have hset : ctx.lines.set i none = ctx.lines := by
    rw [← h]
    exact Vector.set_getElem_self hi
  unfold clearRequest
  rw [hset]

/-- Clearing a null pointer changes nothing. -/
lemma clearChip_of_none (h : ctx.chips[i] = none) : ctx.clearChip i hi = ctx := by
  have hset : ctx.chips.set i none = ctx.chips := by
    rw [← h]
    exact Vector.set_getElem_self hi
  unfold clearChip
  rw [hset]

/-- When line requests lie beside their chips, their parents are held. -/
lemma Matched.closed (h : ctx.Matched) : Closed ctx.held := by
  intro x hx p hp
  unfold held at hx
  rw [Multiset.mem_add, Multiset.mem_map, Multiset.mem_map] at hx
  rcases hx with ⟨r, hr, rfl⟩ | ⟨c, hc, rfl⟩
  · cases hp
    obtain ⟨i, hi, hri⟩ := mem_heldIn.mp hr
    unfold held
    rw [Multiset.mem_add]
    exact Or.inr (Multiset.mem_map_of_mem _ (mem_heldIn.mpr ⟨i, hi, h i hi r hri⟩))
  · cases hp

/-- Clearing a line keeps the requests beside their chips. -/
lemma Matched.clear (h : ctx.Matched) : ((ctx.clearRequest i hi).clearChip i hi).Matched := by
  intro j hj r hr
  by_cases hij : i = j
  · subst hij
    simp [clearRequest, clearChip] at hr
  · simp only [clearRequest, clearChip, Vector.getElem_set_ne _ _ hij] at hr ⊢
    exact h j hj r hr

/-- A configuration is good beside any lines. -/
lemma Good.withConfiguration (h : ctx.Good) (c : GpioConfiguration) :
    { ctx with configuration := c }.Good :=
  ⟨⟨h.linesCount_le, h.chips, h.lines⟩, h.matched⟩

end GpioDeviceContext

open GpioDeviceContext

/-! ## Giving lines back -/

section

variable {ctx : GpioDeviceContext} {S : Multiset GpiodObject}

/-- Only chips have children. -/
lemma release_leaf {x : GpiodObject} (hx : ∀ c, x ≠ .chip c) :
    Spec (x ::ₘ S) (release x) (fun _ => S) (fun _ => True) := by
  refine Spec.release fun c _ hparent => ?_
  cases c with
  | lineRequest r =>
      cases hparent
      exact hx _ rfl
  | chip c => cases hparent
  | requestConfig k => cases hparent
  | lineConfig k => cases hparent
  | lineSettings k => cases hparent

/-- Releasing the request of a line, if there is one. -/
lemma spec_releaseRequest (ctx : GpioDeviceContext) {i : ℕ} (hi : i < gpioMaxLines) :
    Spec ctx.held (ifAny gpiodLineRequestRelease ctx.lines[i])
      (fun _ => (ctx.clearRequest i hi).held) (fun _ => True) := by
  cases h : ctx.lines[i] with
  | none =>
      rw [clearRequest_of_none h]
      exact Spec.pure rfl trivial
  | some r =>
      rw [held_of_request h]
      exact release_leaf (by simp)

/-- Closing the chip of a line, if there is one, when no request on it is left. -/
lemma spec_closeChip (ctx : GpioDeviceContext) {i : ℕ} (hi : i < gpioMaxLines)
    (hclosed : Closed (ctx.clearChip i hi).held) :
    Spec ctx.held (ifAny gpiodChipClose ctx.chips[i])
      (fun _ => (ctx.clearChip i hi).held) (fun _ => True) := by
  cases h : ctx.chips[i] with
  | none =>
      rw [clearChip_of_none h]
      exact Spec.pure rfl trivial
  | some c =>
      rw [held_of_chip h]
      exact Spec.release_root rfl hclosed

/-- The body of the rollback loop clears one line. -/
lemma spec_rollbackLine (hm : ctx.Matched) {i : ℕ} (hi : i < gpioMaxLines) :
    Spec ctx.held (rollbackLine ctx i) held
      (fun ctx' => ctx' = (ctx.clearRequest i hi).clearChip i hi) := by
  apply Spec.bind (Spec.readCell hi)
  rintro _ rfl
  refine Spec.bind (spec_releaseRequest ctx hi) fun _ _ => ?_
  apply Spec.bind (Spec.readCell hi)
  rintro _ rfl
  refine Spec.bind (spec_closeChip (ctx.clearRequest i hi) hi hm.clear.closed) fun _ _ => ?_
  apply Spec.bind (Spec.writeCell hi)
  rintro _ rfl
  apply Spec.bind (Spec.writeCell hi)
  rintro _ rfl
  exact Spec.pure rfl rfl

/-- The body of the other loop does the same. -/
lemma spec_releaseLine (hm : ctx.Matched) {i : ℕ} (hi : i < gpioMaxLines) :
    Spec ctx.held (releaseLine ctx i) held
      (fun ctx' => ctx' = (ctx.clearRequest i hi).clearChip i hi) := by
  have hrequest : Spec ctx.held (releaseLineRequest ctx i) held
      (fun ctx' => ctx' = ctx.clearRequest i hi) := by
    apply Spec.bind (Spec.readCell hi)
    rintro _ rfl
    have hspec := spec_releaseRequest ctx hi
    cases h : ctx.lines[i] with
    | none =>
        exact Spec.pure rfl (clearRequest_of_none h).symm
    | some r =>
        rw [h] at hspec
        refine Spec.bind hspec fun _ _ => ?_
        apply Spec.bind (Spec.writeCell hi)
        rintro _ rfl
        exact Spec.pure rfl rfl
  apply Spec.bind hrequest
  rintro _ rfl
  apply Spec.bind (Spec.readCell hi)
  rintro _ rfl
  have hspec := spec_closeChip (ctx.clearRequest i hi) hi hm.clear.closed
  cases h : (ctx.clearRequest i hi).chips[i] with
  | none =>
      exact Spec.pure rfl (clearChip_of_none h).symm
  | some c =>
      rw [h] at hspec
      refine Spec.bind hspec fun _ _ => ?_
      apply Spec.bind (Spec.writeCell hi)
      rintro _ rfl
      exact Spec.pure rfl rfl

/-- After `i` rounds over the lines of `ctx`: the first lines are cleared, those behind the count
were null before. -/
structure Cleared (ctx : GpioDeviceContext) (i : ℕ) (ctx' : GpioDeviceContext) : Prop where
  matched : ctx'.Matched
  configuration : ctx'.configuration = ctx.configuration
  null : ∀ j, ∀ hj : j < gpioMaxLines, j < i ∨ ctx.linesCount ≤ j →
    ctx'.lines[j] = none ∧ ctx'.chips[j] = none

/-- Clearing a line is one more round. -/
lemma Cleared.next {i : ℕ} {ctx' : GpioDeviceContext} (h : Cleared ctx i ctx')
    (hi : i < gpioMaxLines) : Cleared ctx (i + 1) ((ctx'.clearRequest i hi).clearChip i hi) where
  matched := h.matched.clear
  configuration := h.configuration
  null := by
    intro j hj hor
    by_cases hij : i = j
    · subst hij
      simp [clearRequest, clearChip]
    · simp only [clearRequest, clearChip, Vector.getElem_set_ne _ _ hij]
      exact h.null j hj (by omega)

/-- **Either loop** gives back everything that the context refers to. -/
lemma spec_clearLoop {body : GpioDeviceContext → ℕ → GpioProgram GpioDeviceContext}
    (hbody : ∀ ctx : GpioDeviceContext, ctx.Matched → ∀ i, ∀ hi : i < gpioMaxLines,
      Spec ctx.held (body ctx i) held fun ctx' => ctx' = (ctx.clearRequest i hi).clearChip i hi)
    (hg : ctx.Good) :
    Spec ctx.held ((List.range ctx.linesCount).foldlM body ctx) held
      (fun ctx' => ctx'.held = 0 ∧ { ctx' with linesCount := 0 }.Good ∧
        ctx'.configuration = ctx.configuration) := by
  have hstart : Cleared ctx 0 ctx := by
    refine ⟨hg.matched, rfl, fun j hj hor => ?_⟩
    have hlines := hg.lines j hj
    have hchips := hg.chips j hj
    simp only [show ¬ j < ctx.linesCount by omega, iff_false, not_not] at hlines hchips
    exact ⟨hlines, hchips⟩
  refine (Spec.foldlM_range (I := Cleared ctx) ctx.linesCount hstart ?_).mono ?_
  · intro i hi ctx' hcleared
    have hi' : i < gpioMaxLines := Nat.lt_of_lt_of_le hi hg.linesCount_le
    apply (hbody ctx' hcleared.matched i hi').mono
    rintro _ rfl
    exact hcleared.next hi'
  · intro ctx' hcleared
    have hnull : ∀ j, ∀ hj : j < gpioMaxLines, ctx'.lines[j] = none ∧ ctx'.chips[j] = none :=
      fun j hj => hcleared.null j hj (Nat.lt_or_ge j ctx.linesCount)
    refine ⟨?_, ⟨⟨Nat.zero_le _, ?_, ?_⟩, hcleared.matched⟩, hcleared.configuration⟩
    · unfold held
      rw [heldIn_eq_zero fun j hj => (hnull j hj).1, heldIn_eq_zero fun j hj => (hnull j hj).2]
      rfl
    · intro j hj
      simp [hnull j hj]
    · intro j hj
      simp [hnull j hj]

/-- Giving every line back leaves an empty context. -/
lemma spec_releaseLines (hg : ctx.Good) :
    Spec ctx.held (releaseLines ctx) held
      (fun ctx' => ctx'.held = 0 ∧ ctx'.Good ∧ ctx'.linesCount = 0 ∧
        ctx'.configuration = ctx.configuration) := by
  apply Spec.bind (spec_clearLoop (fun _ => spec_releaseLine) hg)
  rintro ctx' ⟨hheld, hgood, hconf⟩
  exact Spec.pure rfl ⟨hheld, hgood, rfl, hconf⟩

/-! ## Configuring one line -/

/-- The path a chip of that name is opened by, `none` when it does not fit `chip_path[64]`. -/
def chipPath (chipName : CString) : Option CString :=
  if chipName.head? = some 47 then some chipName
  else if (cstr "/dev/" ++ chipName).length ≥ 64 then none
  else some (cstr "/dev/" ++ chipName)

namespace GpioConfiguration

variable (c : GpioConfiguration) (i : ℕ) (hi : i < gpioMaxLines)

/-- The chip name the configuration gives for a line. -/
def chipNameOf : Option CString := lineChipName c c.linesChip[i]

/-- The direction the configuration gives for a line. -/
def directionOf : UInt32 := if i < c.directionsCount then c.directions[i] else c.direction

/-- A line request as the configuration says for line `i`: its offset, its direction, and its chip.
An output line starts inactive. -/
structure Requests (r : LineRequest) : Prop where
  chip : (c.chipNameOf i hi).bind chipPath = some r.chip.path
  lines : r.lines = [⟨c.lines[i], gpiodDirection (c.directionOf i hi), false⟩]

end GpioConfiguration

/-- Store a line request beside its chip behind the others. -/
def GpioDeviceContext.store (ctx : GpioDeviceContext) (hroom : ctx.linesCount < gpioMaxLines)
    (request : LineRequest) : GpioDeviceContext :=
  { ctx with
    chips := ctx.chips.set ctx.linesCount (some request.chip)
    lines := ctx.lines.set ctx.linesCount (some request)
    linesCount := ctx.linesCount + 1 }

/-- Storing a line request behind the others. -/
lemma good_store (hg : ctx.Good) (hroom : ctx.linesCount < gpioMaxLines) (request : LineRequest) :
    (ctx.store hroom request).Good ∧
      (ctx.store hroom request).held = .lineRequest request ::ₘ .chip request.chip ::ₘ ctx.held := by
  have hlines : ctx.lines[ctx.linesCount] = none := by
    have h := hg.lines ctx.linesCount hroom
    simpa using h
  have hchips : ctx.chips[ctx.linesCount] = none := by
    have h := hg.chips ctx.linesCount hroom
    simpa using h
  refine ⟨⟨⟨hroom, ?_, ?_⟩, ?_⟩, ?_⟩
  · intro j hj
    have h := hg.chips j hj
    by_cases hij : ctx.linesCount = j
    · simp [store, hij]
    · simp only [store, Vector.getElem_set_ne _ _ hij, h]
      omega
  · intro j hj
    have h := hg.lines j hj
    by_cases hij : ctx.linesCount = j
    · simp [store, hij]
    · simp only [store, Vector.getElem_set_ne _ _ hij, h]
      omega
  · intro j hj r hr
    by_cases hij : ctx.linesCount = j
    · subst hij
      simp only [store, Vector.getElem_set_self, Option.some.injEq] at hr ⊢
      rw [hr]
    · simp only [store, Vector.getElem_set_ne _ _ hij] at hr ⊢
      exact hg.matched j hj r hr
  · rw [held, store, heldIn_set_some hroom hlines, heldIn_set_some hroom hchips, Multiset.map_cons,
      Multiset.map_cons, Multiset.cons_add, Multiset.add_cons]
    rfl

/-- What the rollback leaves. -/
structure RolledBack (ctx : GpioDeviceContext) (r : ℤ × GpioDeviceContext) : Prop where
  code : r.1 = -1
  good : r.2.Good
  linesCount : r.2.linesCount = 0
  configuration : r.2.configuration = ctx.configuration

/-- What a round of the configure loop can do for line `i`. -/
inductive LineDone (o : Outcomes) (ctx : GpioDeviceContext) (i : ℕ) (hi : i < gpioMaxLines) :
    ℤ × GpioDeviceContext → Prop
  | stored (hroom : ctx.linesCount < gpioMaxLines) (request : LineRequest)
      (hrequest : ctx.configuration.Requests i hi request) :
      LineDone o ctx i hi (0, ctx.store hroom request)
  /-- No chip is named: nothing of this line is held yet, and the earlier lines stay. -/
  | unnamed (hname : ctx.configuration.chipNameOf i hi = none) : LineDone o ctx i hi (-1, ctx)
  /-- A call has failed, or the chip name is too long. -/
  | rolledBack (r : ℤ × GpioDeviceContext) (hback : RolledBack ctx r)
      (hfail : (∃ k, o.succeeds k = false) ∨
        ∃ name, ctx.configuration.chipNameOf i hi = some name ∧ chipPath name = none) :
      LineDone o ctx i hi r

/-- The rollback gives every line back. -/
lemma spec_rollback (hg : ctx.Good) :
    Spec ctx.held (rollback ctx) (fun r => r.2.held) (RolledBack ctx) := by
  apply Spec.bind (spec_clearLoop (fun _ => spec_rollbackLine) hg)
  rintro ctx' ⟨-, hgood, hconf⟩
  exact Spec.pure rfl ⟨rfl, hgood, rfl, hconf⟩

/-- A chip that no line uses yet is closed before the rollback. -/
lemma spec_closeAndRollback (hg : ctx.Good) (chip : Chip) :
    Spec (.chip chip ::ₘ ctx.held) (do
      gpiodChipClose chip
      rollback ctx) (fun r => r.2.held) (RolledBack ctx) :=
  Spec.bind (Spec.release_root rfl hg.matched.closed) fun _ _ => spec_rollback hg

/-- The three objects that describe a line are freed. -/
lemma spec_freeLineObjects (reqCfg : ℕ) (lineCfg : LineConfig) (lineSettings : LineSettings) :
    Spec (.lineSettings lineSettings.number ::ₘ .lineConfig lineCfg.number ::ₘ
        .requestConfig reqCfg ::ₘ S)
      (freeLineObjects reqCfg lineCfg lineSettings) (fun _ => S) (fun _ => True) := by
  rw [Multiset.cons_swap (GpiodObject.lineConfig lineCfg.number),
    Multiset.cons_swap (GpiodObject.lineSettings lineSettings.number),
    Multiset.cons_swap (GpiodObject.lineSettings lineSettings.number)]
  refine Spec.bind (release_leaf (by simp)) fun _ _ => ?_
  refine Spec.bind (release_leaf (by simp)) fun _ _ => ?_
  exact release_leaf (by simp)

/-- What is held while a line is set up. -/
def lineHeld (ctx : GpioDeviceContext) (chip : Chip) (reqCfg : ℕ) (lineCfg : LineConfig)
    (lineSettings : LineSettings) : Multiset GpiodObject :=
  .lineSettings lineSettings.number ::ₘ .lineConfig lineCfg.number ::ₘ .requestConfig reqCfg ::ₘ
    .chip chip ::ₘ ctx.held

section line

variable {o : Outcomes} {i : ℕ} {hi : i < gpioMaxLines} {chip : Chip} {reqCfg : ℕ}
  {lineCfg : LineConfig} {lineSettings : LineSettings}

/-- The failure exit once the three objects are there. -/
lemma spec_abandonLine (hg : ctx.Good) (hfail : ∃ k, o.succeeds k = false) :
    Spec (lineHeld ctx chip reqCfg lineCfg lineSettings)
      (abandonLine ctx chip reqCfg lineCfg lineSettings) (fun r => r.2.held)
      (LineDone o ctx i hi) := by
  refine Spec.bind (spec_freeLineObjects reqCfg lineCfg lineSettings) fun _ _ => ?_
  exact (spec_closeAndRollback hg chip).mono fun r hr => .rolledBack r hr (.inl hfail)

/-- Requesting the line. -/
lemma spec_requestLine (hg : ctx.Good) (hroom : ctx.linesCount < gpioMaxLines)
    (hchip : (ctx.configuration.chipNameOf i hi).bind chipPath = some chip.path)
    (lineCfg : LineConfig) (lineSettings : LineSettings)
    (hlines : lineCfg.lines = [⟨ctx.configuration.lines[i],
      gpiodDirection (ctx.configuration.directionOf i hi), false⟩]) :
    Spec (lineHeld ctx chip reqCfg lineCfg lineSettings)
      (requestLine o ctx chip reqCfg lineCfg lineSettings) (fun r => r.2.held)
      (LineDone o ctx i hi) := by
  have hrequest : Spec (lineHeld ctx chip reqCfg lineCfg lineSettings)
      (gpiodChipRequestLines o chip reqCfg lineCfg)
      (fun a => .lineSettings lineSettings.number ::ₘ .lineConfig lineCfg.number ::ₘ
        .requestConfig reqCfg ::ₘ (pointee .lineRequest a + .chip chip ::ₘ ctx.held))
      (fun a => (∀ r, a = some r → r.chip = chip ∧ r.lines = lineCfg.lines) ∧
        (a = none → ∃ k, o.succeeds k = false)) := by
    refine Spec.bind (Spec.use (by simp [lineHeld])) fun _ _ => ?_
    refine Spec.bind (Spec.use (by simp [lineHeld])) fun _ _ => ?_
    refine Spec.bind (Spec.use (by simp [lineHeld])) fun _ _ => ?_
    refine ((Spec.acquire (fun _ => rfl) ?_).congr ?_).mono ?_
    · intro k p hp
      cases hp
      simp [lineHeld]
    · intro a _
      simp only [lineHeld, Multiset.add_cons]
    · rintro a ⟨ha, hnone⟩
      refine ⟨fun r hr => ?_, hnone⟩
      obtain ⟨k, rfl⟩ := ha r hr
      exact ⟨rfl, rfl⟩
  refine Spec.bind hrequest fun a ⟨ha, hnone⟩ => ?_
  refine Spec.bind (spec_freeLineObjects reqCfg lineCfg lineSettings) fun _ _ => ?_
  rcases a with _ | request
  · unfold pointee
    rw [Multiset.zero_add]
    exact (spec_closeAndRollback hg chip).mono fun r hr => .rolledBack r hr (.inl (hnone rfl))
  · obtain ⟨rfl, hset⟩ := ha request rfl
    apply Spec.bind (Spec.writeCell hroom)
    rintro _ rfl
    apply Spec.bind (Spec.writeCell hroom)
    rintro _ rfl
    unfold pointee
    rw [Multiset.singleton_add, ← (good_store hg hroom request).2]
    exact Spec.pure rfl (.stored hroom request ⟨hchip, hset.trans hlines⟩)

/-- Setting up the line: three failure exits and the request. -/
lemma spec_setUpLine (hg : ctx.Good) (hroom : ctx.linesCount < gpioMaxLines)
    (hchip : (ctx.configuration.chipNameOf i hi).bind chipPath = some chip.path)
    (hnew : lineCfg.lines = [] ∧ lineSettings.outputActive = false) :
    Spec (lineHeld ctx chip reqCfg lineCfg lineSettings)
      (setUpLine o ctx chip (ctx.configuration.directionOf i hi) ctx.configuration.lines[i] reqCfg
        lineCfg lineSettings) (fun r => r.2.held) (LineDone o ctx i hi) := by
  refine Spec.bind (Spec.use (by simp [lineHeld])) fun _ _ => ?_
  refine Spec.bind (Spec.bind (Spec.use (by simp [lineHeld])) fun _ _ => Spec.attempt)
    fun a ha => ?_
  rcases ha with rfl | ⟨rfl, hfail⟩
  case inr => exact spec_abandonLine hg hfail
  have houtput : Spec (lineHeld ctx chip reqCfg lineCfg lineSettings)
      (initialOutput o
        { lineSettings with direction := gpiodDirection (ctx.configuration.directionOf i hi) }
        (ctx.configuration.directionOf i hi))
      (fun _ => lineHeld ctx chip reqCfg lineCfg lineSettings)
      (fun a => a = some { lineSettings with
          direction := gpiodDirection (ctx.configuration.directionOf i hi) } ∨
        a = none ∧ ∃ k, o.succeeds k = false) := by
    unfold initialOutput
    split_ifs
    · refine (Spec.bind (Spec.use (by simp [lineHeld])) fun _ _ => Spec.attempt).mono ?_
      -- the value was inactive before
      rw [← hnew.2]
      exact fun _ h => h
    · exact Spec.pure rfl (.inl rfl)
  refine Spec.bind houtput fun a ha => ?_
  rcases ha with rfl | ⟨rfl, hfail⟩
  case inr => exact spec_abandonLine hg hfail
  refine Spec.bind (Spec.bind (Spec.use (by simp [lineHeld])) fun _ _ =>
    Spec.bind (Spec.use (by simp [lineHeld])) fun _ _ => Spec.attempt) fun a ha => ?_
  rcases ha with rfl | ⟨rfl, hfail⟩
  case inr => exact spec_abandonLine hg hfail
  let asked : LineSettings :=
    { lineSettings with direction := gpiodDirection (ctx.configuration.directionOf i hi) }
  let described : LineConfig := { lineCfg with
    lines := lineCfg.lines ++ [⟨ctx.configuration.lines[i], asked.direction, asked.outputActive⟩] }
  exact spec_requestLine hg hroom hchip described asked (by simp [described, asked, hnew])

/-- The loop body once the chip is open: an allocation may fail, or the line is set up. -/
lemma spec_configureOnChip (hg : ctx.Good) (hroom : ctx.linesCount < gpioMaxLines)
    (hchip : (ctx.configuration.chipNameOf i hi).bind chipPath = some chip.path) :
    Spec (.chip chip ::ₘ ctx.held) (configureOnChip o ctx i chip) (fun r => r.2.held)
      (LineDone o ctx i hi) := by
  have hdirection : Spec (.chip chip ::ₘ ctx.held) (lineDirection ctx.configuration i)
      (fun _ => .chip chip ::ₘ ctx.held)
      (fun direction => direction = ctx.configuration.directionOf i hi) := by
    unfold lineDirection GpioConfiguration.directionOf
    split_ifs
    · exact Spec.readCell hi
    · exact Spec.pure rfl rfl
  apply Spec.bind hdirection
  rintro _ rfl
  refine Spec.bind (Spec.acquire (fun _ => rfl) (by simp [Resource.parent])) fun reqCfg hreq => ?_
  refine Spec.bind (Spec.acquire (fun _ => rfl) (by simp [Resource.parent])) fun lineCfg hcfg => ?_
  refine Spec.bind (Spec.acquire (fun _ => rfl) (by simp [Resource.parent]))
    fun lineSettings hset => ?_
  apply Spec.bind (Spec.readCell hi)
  rintro _ rfl
  -- without all three objects, free those that are there
  have hfree : (∃ k, o.succeeds k = false) → Spec
      (pointee (fun s : LineSettings => .lineSettings s.number) lineSettings +
        (pointee (fun c : LineConfig => .lineConfig c.number) lineCfg +
          (pointee .requestConfig reqCfg + .chip chip ::ₘ ctx.held)))
      (do
        ifAny gpiodRequestConfigFree reqCfg
        ifAny gpiodLineConfigFree lineCfg
        ifAny gpiodLineSettingsFree lineSettings
        gpiodChipClose chip
        rollback ctx) (fun r => r.2.held) (LineDone o ctx i hi) := by
    intro hfail
    rw [add_left_comm (pointee _ lineCfg), add_left_comm (pointee _ lineSettings),
      add_left_comm (pointee _ lineSettings)]
    refine Spec.bind (Spec.ifAny fun _ => release_leaf (by simp)) fun _ _ => ?_
    refine Spec.bind (Spec.ifAny fun _ => release_leaf (by simp)) fun _ _ => ?_
    refine Spec.bind (Spec.ifAny fun _ => release_leaf (by simp)) fun _ _ => ?_
    exact (spec_closeAndRollback hg chip).mono fun r hr => .rolledBack r hr (.inl hfail)
  rcases reqCfg with _ | reqCfg
  · exact hfree (hreq.2 rfl)
  rcases lineCfg with _ | lineCfg
  · exact hfree (hcfg.2 rfl)
  rcases lineSettings with _ | lineSettings
  · exact hfree (hset.2 rfl)
  obtain ⟨k, rfl⟩ := hcfg.1 lineCfg rfl
  obtain ⟨l, rfl⟩ := hset.1 lineSettings rfl
  exact spec_setUpLine hg hroom hchip ⟨rfl, rfl⟩

end line

/-- Opening a chip by its path, when the path fits. -/
lemma openChip_eq (o : Outcomes) (chipName : CString) :
    openChip o chipName = (chipPath chipName).elim (pure none) (gpiodChipOpen o) := by
  unfold openChip chipPath
  simp only
  split_ifs <;> rfl

/-- **One round** of the configure loop, with all its exits. -/
lemma spec_configureLine (o : Outcomes) (hg : ctx.Good) (hroom : ctx.linesCount < gpioMaxLines)
    {i : ℕ} (hi : i < gpioMaxLines) :
    Spec ctx.held (configureLine o ctx i) (fun r => r.2.held) (LineDone o ctx i hi) := by
  apply Spec.bind (Spec.readCell hi)
  rintro _ rfl
  rcases hname : lineChipName ctx.configuration ctx.configuration.linesChip[i] with _ | chipName
  · exact Spec.pure rfl (.unnamed hname)
  · simp only
    rw [openChip_eq]
    rcases hpath : chipPath chipName with _ | path
    · rw [Option.elim_none]
      refine Spec.bind (Spec.pure (H := fun _ => ctx.held) (Q := fun a => a = none) rfl rfl) ?_
      rintro _ rfl
      exact (spec_rollback hg).mono fun r hr => .rolledBack r hr (.inr ⟨chipName, hname, hpath⟩)
    · rw [Option.elim_some]
      refine Spec.bind (Spec.acquire (fun _ => rfl) (by simp [Resource.parent])) fun a ha => ?_
      rcases a with _ | chip
      · unfold pointee
        rw [Multiset.zero_add]
        exact (spec_rollback hg).mono fun r hr => .rolledBack r hr (.inl (ha.2 rfl))
      · obtain ⟨k, rfl⟩ := ha.1 chip rfl
        have hchip : (ctx.configuration.chipNameOf i hi).bind chipPath = some path := by
          rw [GpioConfiguration.chipNameOf, hname, Option.bind_some, hpath]
        exact spec_configureOnChip hg hroom hchip

/-! ## The operation -/

/-- The first `n` lines of the configuration, and no others, are requested as it says. -/
structure Configured (c : GpioConfiguration) (n : ℕ) (ctx : GpioDeviceContext) : Prop where
  good : ctx.Good
  configuration : ctx.configuration = c
  linesCount : ctx.linesCount = n
  requests : ∀ i, ∀ hi : i < gpioMaxLines, i < n → ∃ r, ctx.lines[i] = some r ∧ c.Requests i hi r

/-- The chip of line `i` is named, and the name is too long. -/
def NameTooLong (c : GpioConfiguration) (i : ℕ) : Prop :=
  ∃ hi : i < gpioMaxLines, ∃ name, c.chipNameOf i hi = some name ∧ chipPath name = none

/-- What the configure loop can do for `n` lines. -/
inductive LinesDone (o : Outcomes) (c : GpioConfiguration) (n : ℕ) :
    ℤ × GpioDeviceContext → Prop
  | all (ctx : GpioDeviceContext) (h : Configured c n ctx) : LinesDone o c n (0, ctx)
  /-- The chip of a line is not named: the earlier lines stay. -/
  | unnamed (ctx : GpioDeviceContext) (i : ℕ) (hi : i < gpioMaxLines) (hin : i < n)
      (h : Configured c i ctx) (hname : c.chipNameOf i hi = none) : LinesDone o c n (-1, ctx)
  | rolledBack (ctx ctx' : GpioDeviceContext) (i : ℕ) (hin : i < n) (h : Configured c i ctx)
      (hback : RolledBack ctx (-1, ctx'))
      (hfail : (∃ k, o.succeeds k = false) ∨ NameTooLong c i) : LinesDone o c n (-1, ctx')

/-- A line more. -/
lemma Configured.store {c : GpioConfiguration} {n : ℕ} {hn : n < gpioMaxLines}
    (h : Configured c n ctx) (hroom : ctx.linesCount < gpioMaxLines) {request : LineRequest}
    (hrequest : c.Requests n hn request) : Configured c (n + 1) (ctx.store hroom request) where
  good := (good_store h.good hroom request).1
  configuration := h.configuration
  linesCount := congrArg (· + 1) h.linesCount
  requests := by
    intro j hj hjn
    obtain ⟨hgood, hconf, hcount, hrequests⟩ := h
    subst hcount
    by_cases hij : ctx.linesCount = j
    · subst hij
      exact ⟨request, by simp [GpioDeviceContext.store], hrequest⟩
    · simp only [GpioDeviceContext.store, Vector.getElem_set_ne _ _ hij]
      exact hrequests j hj (by omega)

/-- **The configure loop**, line after line. -/
lemma spec_configureLines (o : Outcomes) {c : GpioConfiguration} {i k : ℕ}
    (h : Configured c i ctx) (hroom : i + k ≤ gpioMaxLines) :
    Spec ctx.held (configureLines o ctx i k) (fun r => r.2.held) (LinesDone o c (i + k)) := by
  induction k generalizing ctx i with
  | zero => exact Spec.pure rfl (.all ctx h)
  | succ k ih =>
      have hi : i < gpioMaxLines := by omega
      have hcount : ctx.linesCount < gpioMaxLines := h.linesCount ▸ hi
      obtain rfl := h.configuration
      refine Spec.bind (spec_configureLine o h.good hcount hi) fun r hdone => ?_
      rcases hdone with ⟨hroom', request, hrequest⟩ | hname | ⟨r, hback, hfail⟩
      · simp only [ne_eq, not_true_eq_false, if_false]
        rw [show i + (k + 1) = i + 1 + k by omega]
        exact ih (h.store hroom' hrequest) (by omega)
      · exact Spec.pure rfl (.unnamed ctx i hi (by omega) h hname)
      · obtain ⟨code, ctx'⟩ := r
        obtain rfl : code = -1 := hback.code
        refine Spec.pure rfl (.rolledBack ctx ctx' i (by omega) h hback ?_)
        exact hfail.imp_right fun hlong => ⟨hi, hlong⟩

/-- The context is good after the configure loop. -/
lemma LinesDone.good {o : Outcomes} {c : GpioConfiguration} {n : ℕ} {r : ℤ × GpioDeviceContext}
    (h : LinesDone o c n r) : r.2.Good := by
  rcases h with ⟨ctx, h⟩ | ⟨ctx, i, hi, hin, h, hname⟩ | ⟨ctx, ctx', i, hin, h, hback, hfail⟩
  · exact h.good
  · exact h.good
  · exact hback.good

/-- What `GPIO_COMMAND_SET_CONFIGURATION` can do with the configuration `c`. -/
inductive Reconfigured (o : Outcomes) (ctx : GpioDeviceContext) (c : GpioConfiguration) :
    ℤ × GpioDeviceContext → Prop
  /-- Too many lines: the new configuration stands beside the old lines. -/
  | refused (hmany : c.linesCount > gpioMaxLines) :
      Reconfigured o ctx c (-1, { ctx with configuration := c })
  | failed (hfew : c.linesCount ≤ gpioMaxLines) (ctx' : GpioDeviceContext)
      (h : LinesDone o c c.linesCount (-1, ctx')) : Reconfigured o ctx c (-1, ctx')
  | configured (hfew : c.linesCount ≤ gpioMaxLines) (ctx' : GpioDeviceContext)
      (h : Configured c c.linesCount ctx') :
      Reconfigured o ctx c (0, { ctx' with activeLow := c.activeLow })

/-- The context is good after a new configuration. -/
lemma Reconfigured.good {o : Outcomes} {c : GpioConfiguration} {r : ℤ × GpioDeviceContext}
    (h : Reconfigured o ctx c r) (hg : ctx.Good) : r.2.Good := by
  rcases h with hmany | ⟨hfew, ctx', h⟩ | ⟨hfew, ctx', h⟩
  · exact hg.withConfiguration c
  · exact h.good
  · exact ⟨⟨h.good.linesCount_le, h.good.chips, h.good.lines⟩, h.good.matched⟩

/-- **A new configuration** of at most `GPIO_MAX_LINES` lines: nothing that was held before is held
afterwards. -/
theorem setConfiguration_renews (o : Outcomes) (hg : ctx.Good) {argument : GpioConfiguration}
    (hfew : (withSingleLine argument).linesCount ≤ gpioMaxLines) {w : Ledger GpiodObject}
    (hw : w.Owns ctx.held) :
    ∃ r w', (gpioDeviceControl o ctx gpioCommandSetConfiguration (some argument)).run w =
        some (r, w') ∧ w'.Owns r.2.held ∧ Reconfigured o ctx (withSingleLine argument) r ∧
      w.log <+: w'.log ∧ ∀ x ∈ ctx.held, x ∉ r.2.held := by
  have hmany : ¬ (withSingleLine argument).linesCount > gpioMaxLines := Nat.not_lt.mpr hfew
  unfold gpioDeviceControl
  simp only [if_true]
  rw [if_neg hmany]
  generalize withSingleLine argument = c at hfew ⊢
  have hrelease : Spec ctx.held (releaseLines { ctx with configuration := c }) (fun _ => 0)
      (fun ctx' => ctx'.held = 0 ∧ Configured c 0 ctx') := by
    refine ((spec_releaseLines (hg.withConfiguration c)).congr fun ctx' h => h.1).mono ?_
    rintro ctx' ⟨hheld, hgood, hcount, hconf⟩
    exact ⟨hheld, hgood, hconf, hcount, fun i _ hi => absurd hi (Nat.not_lt_zero i)⟩
  refine Spec.renew hrelease (fun ctx₁ ⟨hheld, h₁⟩ => ?_) hw
  have hloop := spec_configureLines o (k := c.linesCount) h₁ (by rwa [Nat.zero_add])
  rw [Nat.zero_add, hheld] at hloop
  rw [h₁.configuration]
  refine Spec.bind hloop fun r hdone => ?_
  rcases hdone with ⟨ctx₂, h⟩ | ⟨ctx₂, i, hi, hin, h, hname⟩ |
    ⟨ctx₂, ctx₃, i, hin, h, hback, hfail⟩
  · obtain rfl := h.configuration
    exact Spec.pure rfl (.configured hfew ctx₂ h)
  · exact Spec.pure rfl (.failed hfew ctx₂ (.unnamed ctx₂ i hi hin h hname))
  · exact Spec.pure rfl (.failed hfew ctx₃ (.rolledBack ctx₂ ctx₃ i hin h hback hfail))

/-- What `GPIO_COMMAND_SET_CONFIGURATION` does, whatever the outcomes. -/
theorem spec_setConfiguration (o : Outcomes) (hg : ctx.Good) (argument : GpioConfiguration) :
    Spec ctx.held (gpioDeviceControl o ctx gpioCommandSetConfiguration (some argument))
      (fun r => r.2.held) (Reconfigured o ctx (withSingleLine argument)) := by
  by_cases hfew : (withSingleLine argument).linesCount ≤ gpioMaxLines
  · intro w hw
    obtain ⟨r, w', hrun, hw', hdone, hgrows, -⟩ := setConfiguration_renews o hg hfew hw
    exact ⟨r, w', hrun, hw', hdone, hgrows⟩
  · unfold gpioDeviceControl
    simp only [if_true]
    rw [if_pos (Nat.lt_of_not_le hfew)]
    exact Spec.pure rfl (.refused (Nat.lt_of_not_le hfew))

/-- `gpio_device_control` leaves a good context, whatever it returns. -/
theorem spec_gpioDeviceControl (o : Outcomes) (hg : ctx.Good) (command : UInt32)
    (argument : Option GpioConfiguration) :
    Spec ctx.held (gpioDeviceControl o ctx command argument) (fun r => r.2.held)
      (fun r => r.2.Good) := by
  by_cases hcommand : command = gpioCommandSetConfiguration
  · subst hcommand
    rcases argument with _ | argument
    · exact Spec.pure rfl hg
    · exact (spec_setConfiguration o hg argument).mono fun r hr => hr.good hg
  · unfold gpioDeviceControl
    rw [if_neg hcommand]
    exact Spec.pure rfl hg

end

end HardwareTest
