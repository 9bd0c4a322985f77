import HardwareTest.Lib.Transition
import HardwareTest.Plugins.GpioAccounting

/-!
# Reconfiguring a gpio device

The requests of a context are read and written with the offsets of the configuration cached beside
them.

* `Describes c ctx`: the context holds one request for each line of `c`, made as `c` says.
* `ConsistentUpdate`: a new configuration is in force, or refused without a trace or with no request
  left.
* `reconfiguration_iff`: whatever the outcomes, the update of a reachable context is consistent iff
  the configuration `Replaces` the one before it: it does not have too many lines, and names a chip
  for each line behind the first, as far as the loop comes.
* `inStep_of_replaces`: in a session of such configurations no request is read or written with the
  offset of another configuration.
-/

namespace HardwareTest

open Lib GpioDeviceContext

/-- The context holds a request for each line of the configuration, made as it says, and no
other. -/
structure Describes (c : GpioConfiguration) (ctx : GpioDeviceContext) : Prop where
  configuration : ctx.configuration = c
  linesCount : ctx.linesCount = c.linesCount
  requests : ∀ i < c.linesCount, ∃ hi : i < gpioMaxLines, ∃ r,
    ctx.lines[i] = some r ∧ c.Requests i hi r
  others : ∀ i, ∀ hi : i < gpioMaxLines, c.linesCount ≤ i → ctx.lines[i] = none

/-- The context holds no request. -/
structure HoldsNothing (ctx : GpioDeviceContext) : Prop where
  linesCount : ctx.linesCount = 0
  lines : ∀ i, ∀ hi : i < gpioMaxLines, ctx.lines[i] = none

/-- The new configuration is in force, or the code is `-1` and the context is as before or holds no
request. -/
def ConsistentUpdate (ctx : GpioDeviceContext) (argument : Option GpioConfiguration)
    (r : ℤ × GpioDeviceContext) : Prop :=
  (r.1 = 0 ∧ ∃ c, argument = some c ∧ Describes (withSingleLine c) r.2) ∨
    (r.1 = -1 ∧ (r.2 = ctx ∨ HoldsNothing r.2))

/-- The configuration may replace the one in the context: it has too many lines only when no request
is held or it is the same one, and before a line behind the first that names no chip there is one
whose chip cannot be opened. -/
structure Replaces (ctx : GpioDeviceContext) (c : GpioConfiguration) : Prop where
  many : gpioMaxLines < c.linesCount → ctx.linesCount = 0 ∨ c = ctx.configuration
  unnamed : c.linesCount ≤ gpioMaxLines → ∀ i, ∀ hi : i < gpioMaxLines, 0 < i → i < c.linesCount →
    c.chipNameOf i hi = none →
    ∃ j, ∃ hj : j < gpioMaxLines, j < i ∧ (c.chipNameOf j hj).bind chipPath = none

section

variable {ctx : GpioDeviceContext} {c : GpioConfiguration}

/-- A good context without lines holds no request. -/
lemma holdsNothing_of_good (hg : ctx.Good) (hcount : ctx.linesCount = 0) : HoldsNothing ctx := by
  refine ⟨hcount, fun i hi => ?_⟩
  have hlines := hg.lines i hi
  simpa [hcount] using hlines

/-- With all lines configured the context describes the configuration. -/
lemma Configured.describes (h : Configured c c.linesCount ctx) : Describes c ctx where
  configuration := h.configuration
  linesCount := h.linesCount
  requests := by
    intro i hin
    have hi : i < gpioMaxLines := Nat.lt_of_lt_of_le (h.linesCount ▸ hin) h.good.linesCount_le
    exact ⟨hi, h.requests i hi hin⟩
  others := by
    intro i hi hle
    have hlines := h.good.lines i hi
    rw [h.linesCount] at hlines
    by_contra hset
    exact Nat.not_lt.mpr hle (hlines.mp hset)

/-- The chip of a configured line can be opened. -/
lemma Configured.named {n i : ℕ} (h : Configured c n ctx) (hi : i < gpioMaxLines) (hin : i < n) :
    (c.chipNameOf i hi).bind chipPath ≠ none := by
  obtain ⟨r, -, hr⟩ := h.requests i hi hin
  rw [hr.chip]
  nofun

/-- With a common chip and not too many lines, a configuration may replace any other. -/
lemma replaces_of_chip (hchip : c.chip.chars ≠ []) (hfew : c.linesCount ≤ gpioMaxLines) :
    Replaces ctx c := by
  refine ⟨fun hmany => absurd hmany (Nat.not_lt.mpr hfew), fun _ i hi _ _ hname => ?_⟩
  unfold GpioConfiguration.chipNameOf lineChipName at hname
  split_ifs at hname

/-- A configuration that may replace the one before is updated to consistently. -/
lemma Reconfigured.consistentUpdate {o : Outcomes} {argument : GpioConfiguration}
    {r : ℤ × GpioDeviceContext} (h : Reconfigured o ctx (withSingleLine argument) r)
    (hg : ctx.Good) (hreplaces : Replaces ctx (withSingleLine argument)) :
    ConsistentUpdate ctx (some argument) r := by
  rcases h with hmany | ⟨hfew, ctx', hdone⟩ | ⟨hfew, ctx', hdone⟩
  · refine .inr ⟨rfl, ?_⟩
    rcases hreplaces.many hmany with hnone | hsame
    · exact .inr (holdsNothing_of_good (hg.withConfiguration _) hnone)
    · exact .inl (by rw [hsame])
  · refine .inr ⟨rfl, .inr ?_⟩
    rcases hdone with _ | ⟨_, i, hi, hin, hbefore, hname⟩ |
      ⟨ctx₂, _, i, hin, hbefore, hback, hfail⟩
    · rcases Nat.eq_zero_or_pos i with rfl | hpos
      · exact holdsNothing_of_good hbefore.good hbefore.linesCount
      · obtain ⟨j, hj, hji, hclosed⟩ := hreplaces.unnamed hfew i hi hpos hin hname
        exact absurd hclosed (hbefore.named hj hji)
    · exact holdsNothing_of_good hback.good hback.linesCount
  · have hdescribes := hdone.describes
    exact .inl ⟨rfl, argument, rfl, hdescribes.configuration, hdescribes.linesCount,
      hdescribes.requests, hdescribes.others⟩

/-- Each call of libgpiod succeeds, and each line is active. -/
def Outcomes.fortunate : Outcomes := ⟨fun _ => true, fun _ => true⟩

/-- When all calls succeed and the chip of every line before line `i` can be opened, but line `i`
names none, the loop leaves the earlier lines. -/
lemma LinesDone.of_unnamed {n i : ℕ} {r : ℤ × GpioDeviceContext}
    (h : LinesDone .fortunate c n r) (hi : i < gpioMaxLines) (hin : i < n)
    (hname : c.chipNameOf i hi = none)
    (hopen : ∀ j, ∀ hj : j < gpioMaxLines, j < i → (c.chipNameOf j hj).bind chipPath ≠ none) :
    r.1 = -1 ∧ Configured c i r.2 := by
  have hclosed : (c.chipNameOf i hi).bind chipPath = none := by rw [hname, Option.bind_none]
  -- the loop does not come behind line `i`
  have hle : ∀ {k ctx'}, Configured c k ctx' → k ≤ i := by
    intro k ctx' hk
    by_contra hlt
    exact hk.named hi (by omega) hclosed
  rcases h with ⟨ctx', h⟩ | ⟨ctx', k, hk, hkn, h, hnone⟩ | ⟨ctx', ctx'', k, hkn, h, hback, hfail⟩
  · exact absurd hin (Nat.not_lt.mpr (hle h))
  · rcases Nat.lt_or_eq_of_le (hle h) with hlt | rfl
    · exact absurd (by rw [hnone, Option.bind_none]) (hopen k hk hlt)
    · exact ⟨rfl, h⟩
  · rcases hfail with ⟨l, hl⟩ | ⟨hk, name, hnamed, hlong⟩
    · cases hl
    · rcases Nat.lt_or_eq_of_le (hle h) with hlt | rfl
      · exact absurd (by rw [hnamed, Option.bind_some, hlong]) (hopen k hk hlt)
      · rw [hname] at hnamed
        cases hnamed

/-- A consistent update whatever the outcomes is one to a configuration that may replace the one
before. -/
lemma replaces_of_consistentUpdate {argument : GpioConfiguration} {w : Ledger GpiodObject}
    (hg : ctx.Good) (hw : w.Owns ctx.held)
    (hall : ∀ o, ∃ r w',
      (gpioDeviceControl o ctx gpioCommandSetConfiguration (some argument)).run w = some (r, w') ∧
        ConsistentUpdate ctx (some argument) r) :
    Replaces ctx (withSingleLine argument) := by
  obtain ⟨r, w', hrun, hupdate⟩ := hall .fortunate
  constructor
  · intro hmany
    obtain ⟨_, _, hrun', -, hdone, -⟩ := spec_setConfiguration .fortunate hg argument w hw
    rw [hrun] at hrun'
    cases hrun'
    rcases hdone with _ | ⟨hfew, _⟩ | ⟨hfew, _⟩
    · rcases hupdate with ⟨hcode, -⟩ | ⟨-, hsame | hnothing⟩
      · cases hcode
      · exact .inr (congrArg GpioDeviceContext.configuration hsame)
      · exact .inl hnothing.linesCount
    · exact absurd hmany (Nat.not_lt.mpr hfew)
    · exact absurd hmany (Nat.not_lt.mpr hfew)
  · intro hfew i hi hpos hin hname
    by_contra hopen
    obtain ⟨_, _, hrun', -, hdone, -, hfresh⟩ :=
      setConfiguration_renews .fortunate hg hfew hw
    rw [hrun] at hrun'
    cases hrun'
    rcases hdone with hmany | ⟨_, ctx', hdone⟩ | ⟨_, ctx', hdone⟩
    · exact absurd hmany (Nat.not_lt.mpr hfew)
    · obtain ⟨-, hlines⟩ := hdone.of_unnamed hi hin hname
        fun j hj hji hclosed => hopen ⟨j, hj, hji, hclosed⟩
      -- line 0 has a new request
      obtain ⟨r, hr, -⟩ := hlines.requests 0 (by omega) hpos
      rcases hupdate with ⟨hcode, -⟩ | ⟨-, hsame | hnothing⟩
      · cases hcode
      · obtain ⟨_, r', hr', hheld⟩ := exists_request hlines.good
          (show 0 < ctx'.linesCount by rw [hlines.linesCount]; exact hpos)
        simp only at hsame hfresh
        exact hfresh _ (hsame ▸ hheld) hheld
      · have hnone := hnothing.lines 0 (by omega)
        rw [hr] at hnone
        cases hnone
    · exact hdone.named hi hin (by rw [hname, Option.bind_none])

end

/-- A context that calls on an opened device leave is good, and the ledger owns what it holds. -/
lemma good_of_gpioCalls {o : Outcomes} {calls : List GpioCall} {block : Option GpioDeviceContext}
    {opened ctx : GpioDeviceContext} {w : Ledger GpiodObject}
    (hopen : gpioDeviceOpen block = (0, some opened))
    (hrun : (gpioCalls o opened calls).run (.empty _) = some (ctx, w)) :
    ctx.Good ∧ w.Owns ctx.held := by
  obtain ⟨hg, hheld⟩ := good_of_gpioDeviceOpen hopen
  obtain ⟨_, _, hrun', hw, hgood, -⟩ :=
    spec_gpioCalls o calls hg _ (hheld ▸ Ledger.owns_empty)
  rw [hrun] at hrun'
  cases hrun'
  exact ⟨hgood, hw⟩

/-- **Reconfiguration.** Whatever calls led to the context, its update by
`GPIO_COMMAND_SET_CONFIGURATION` is consistent for all outcomes iff the configuration may replace
the one before. -/
theorem reconfiguration_iff (o : Outcomes) (calls : List GpioCall)
    {block : Option GpioDeviceContext} {opened ctx : GpioDeviceContext} {w : Ledger GpiodObject}
    (hopen : gpioDeviceOpen block = (0, some opened))
    (hrun : (gpioCalls o opened calls).run (.empty _) = some (ctx, w))
    (argument : Option GpioConfiguration) :
    (∀ o, ∃ r w', (gpioDeviceControl o ctx gpioCommandSetConfiguration argument).run w =
        some (r, w') ∧ ConsistentUpdate ctx argument r) ↔
      ∀ c, argument = some c → Replaces ctx (withSingleLine c) := by
  obtain ⟨hg, hw⟩ := good_of_gpioCalls hopen hrun
  constructor
  · rintro hall c rfl
    exact replaces_of_consistentUpdate hg hw hall
  · intro hreplaces o
    rcases argument with _ | c
    · exact ⟨_, w, rfl, .inr ⟨rfl, .inl rfl⟩⟩
    · obtain ⟨r, w', hrun', -, hdone, -⟩ := spec_setConfiguration o hg c w hw
      exact ⟨r, w', hrun', hdone.consistentUpdate hg (hreplaces c rfl)⟩

/-- Two output lines may be configured again: both have the common chip. -/
theorem reconfiguration_twoOutputs :
    ∃ ctx w, (gpioCalls .fortunate .zeroed
        [.control gpioCommandSetConfiguration (some twoOutputs)]).run (.empty _) = some (ctx, w) ∧
      ∀ o, ∃ r w', (gpioDeviceControl o ctx gpioCommandSetConfiguration (some twoOutputs)).run w =
        some (r, w') ∧ ConsistentUpdate ctx (some twoOutputs) r := by
  have hopen : gpioDeviceOpen (some .zeroed) = (0, some .zeroed) := rfl
  obtain ⟨hg, hheld⟩ := good_of_gpioDeviceOpen hopen
  obtain ⟨ctx, w, hrun, -⟩ := spec_gpioCalls .fortunate
    [.control gpioCommandSetConfiguration (some twoOutputs)] hg _ (hheld ▸ Ledger.owns_empty)
  refine ⟨ctx, w, hrun, (reconfiguration_iff _ _ hopen hrun _).mpr ?_⟩
  rintro _ ⟨⟩
  exact replaces_of_chip (by decide) (by decide)

/-- Nine lines are refused on a context with two, but cached beside its two requests. -/
theorem nineLines_inconsistent :
    ∃ opened ctx w, gpioDeviceOpen (some .zeroed) = (0, some opened) ∧
      (gpioCalls .fortunate opened
        [.control gpioCommandSetConfiguration (some twoOutputs)]).run (.empty _) = some (ctx, w) ∧
      ¬ ∃ r w', (gpioDeviceControl .fortunate ctx gpioCommandSetConfiguration
          (some { twoOutputs with linesCount := 9 })).run w = some (r, w') ∧
        ConsistentUpdate ctx (some { twoOutputs with linesCount := 9 }) r := by
  have hcounts : ((gpioCalls .fortunate .zeroed
      [.control gpioCommandSetConfiguration (some twoOutputs)]).run (.empty _)).map
      (fun p => (p.1.linesCount, p.1.configuration.linesCount)) = some (2, 2) := by decide +kernel
  rw [Option.map_eq_some_iff] at hcounts
  obtain ⟨⟨ctx, w⟩, hrun, hcounts⟩ := hcounts
  obtain ⟨hlines : ctx.linesCount = 2, hconfigured : ctx.configuration.linesCount = 2⟩ :=
    Prod.mk.inj hcounts
  refine ⟨.zeroed, ctx, w, rfl, hrun, ?_⟩
  have hrefused : (gpioDeviceControl .fortunate ctx gpioCommandSetConfiguration
      (some { twoOutputs with linesCount := 9 })).run w =
        some ((-1, { ctx with configuration := { twoOutputs with linesCount := 9 } }), w) := rfl
  rintro ⟨r, w', hrun', hupdate⟩
  rw [hrefused] at hrun'
  cases hrun'
  rcases hupdate with ⟨hcode, -⟩ | ⟨-, hsame | hnothing⟩
  · cases hcode
  · have hnine : 9 = ctx.configuration.linesCount :=
      congrArg (fun ctx => ctx.configuration.linesCount) hsame
    omega
  · have hnone : ctx.linesCount = 0 := hnothing.linesCount
    omega

/-! ## Reads and writes after a reconfiguration -/

/-- The requests of the context are those of the configuration cached beside them. -/
def InStep (ctx : GpioDeviceContext) : Prop := Describes ctx.configuration ctx ∨ HoldsNothing ctx

/-- A context in step has the request of each line for the offset it is read and written with. -/
lemma InStep.offset {ctx : GpioDeviceContext} (h : InStep ctx) {i : ℕ} (hi : i < ctx.linesCount) :
    ∃ hi' : i < gpioMaxLines, ∃ r, ctx.lines[i] = some r ∧
      r.lines.map LineSetup.offset = [ctx.configuration.lines[i]] := by
  rcases h with h | h
  · obtain ⟨hi', r, hr, hrequest⟩ := h.requests i (h.linesCount ▸ hi)
    exact ⟨hi', r, hr, by rw [hrequest.lines]; rfl⟩
  · rw [h.linesCount] at hi
    exact absurd hi (Nat.not_lt_zero i)

/-- A consistent update keeps the context in step. -/
lemma ConsistentUpdate.inStep {ctx : GpioDeviceContext} {argument : Option GpioConfiguration}
    {r : ℤ × GpioDeviceContext} (h : ConsistentUpdate ctx argument r) (hctx : InStep ctx) :
    InStep r.2 := by
  rcases h with ⟨-, c, -, hc⟩ | ⟨-, hsame | hnothing⟩
  · exact .inl (hc.configuration ▸ hc)
  · exact hsame ▸ hctx
  · exact .inr hnothing

/-- A call whose configuration, if it sets one, may replace the one before. -/
def CallReplaces (ctx : GpioDeviceContext) (call : GpioCall) : Prop :=
  ∀ c, call = .control gpioCommandSetConfiguration (some c) → Replaces ctx (withSingleLine c)

/-- Such a call keeps the context in step. -/
lemma spec_gpioCall_inStep (o : Outcomes) {ctx : GpioDeviceContext} (hg : ctx.Good)
    (hctx : InStep ctx) {call : GpioCall} (hcall : CallReplaces ctx call) :
    Spec ctx.held (gpioCall o ctx call) held (fun ctx' => ctx'.Good ∧ InStep ctx') := by
  rcases call with ⟨command, argument⟩ | ⟨hasBuffer, size⟩ | ⟨buffer, size⟩
  · have hcontrol : Spec ctx.held (gpioDeviceControl o ctx command argument) (fun r => r.2.held)
        (fun r => r.2.Good ∧ InStep r.2) := by
      by_cases hcommand : command = gpioCommandSetConfiguration
      · subst hcommand
        rcases argument with _ | c
        · exact Spec.pure rfl ⟨hg, hctx⟩
        · refine (spec_setConfiguration o hg c).mono fun r hr => ⟨hr.good hg, ?_⟩
          exact (hr.consistentUpdate hg (hcall c rfl)).inStep hctx
      · unfold gpioDeviceControl
        rw [if_neg hcommand]
        exact Spec.pure rfl ⟨hg, hctx⟩
    exact Spec.bind hcontrol fun _ h => Spec.pure rfl h
  · exact Spec.bind (spec_gpioDeviceRead o hg hasBuffer size) fun _ _ => Spec.pure rfl ⟨hg, hctx⟩
  · exact Spec.bind (spec_gpioDeviceWrite o hg buffer size) fun _ _ => Spec.pure rfl ⟨hg, hctx⟩

/-- A call as a step of the context and the ledger. -/
def gpioStep (o : Outcomes) (s : GpioDeviceContext × Ledger GpiodObject) (call : GpioCall) :
    Option (GpioDeviceContext × Ledger GpiodObject) := (gpioCall o s.1 call).run s.2

/-- **In step.** When each configuration may replace the one before, every context of a session
has its requests beside the configuration they were made for. -/
theorem inStep_of_replaces (o : Outcomes) {block : Option GpioDeviceContext}
    {opened : GpioDeviceContext} (hopen : gpioDeviceOpen block = (0, some opened))
    {tr : List ((GpioDeviceContext × Ledger GpiodObject) × GpioCall)}
    {t u : GpioDeviceContext × Ledger GpiodObject}
    (hrun : Run (stepOf (gpioStep o)) (opened, .empty _) tr t)
    (hcalls : ∀ p ∈ tr, CallReplaces p.1.1 p.2) (hu : Visits tr t u) : InStep u.1 := by
  obtain ⟨hg, hheld⟩ := good_of_gpioDeviceOpen hopen
  let I (s : GpioDeviceContext × Ledger GpiodObject) : Prop :=
    s.1.Good ∧ InStep s.1 ∧ s.2.Owns s.1.held
  have hstart : I (opened, .empty _) := by
    have hcount : opened.linesCount = 0 := by
      by_contra hpos
      obtain ⟨_, r, -, hr⟩ := exists_request hg (Nat.pos_of_ne_zero hpos)
      rw [hheld] at hr
      exact Multiset.notMem_zero _ hr
    exact ⟨hg, .inr (holdsNothing_of_good hg hcount), hheld ▸ Ledger.owns_empty⟩
  have hkeep : ∀ s call s', I s → CallReplaces s.1 call → stepOf (gpioStep o) s call s' → I s' := by
    rintro ⟨ctx, w⟩ call ⟨ctx', w'⟩ ⟨hgood, hctx, hw⟩ hcall hstep
    obtain ⟨_, _, hrun', hw', ⟨hgood', hctx'⟩, -⟩ := spec_gpioCall_inStep o hgood hctx hcall w hw
    have hsame : some (ctx', w') = some _ := hstep.symm.trans hrun'
    cases hsame
    exact ⟨hgood', hctx', hw'⟩
  exact (hrun.visits_invariantAlong hstart hkeep hcalls hu).2.1

end HardwareTest
