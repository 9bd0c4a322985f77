import HardwareTest.Plugins.GpioReconfigure
import Mathlib.Data.List.FinRange

/-!
# Moving levels: the loops of `plugins/gpio_linux/gpio-device.c` on lines that keep a value

`gpio_device_read` and `gpio_device_write` reach the lines through two calls of libgpiod. Here they
are written over these two calls (`LineCalls`).

* With the calls that keep a log they are the functions of `GpioDevice` (`gpioDeviceRead_ledger`,
  `gpioDeviceWrite_ledger`).
* With the calls on `Lines`, where every line request has a value that reads return and writes
  change, each loop has one specification (`spec_readLevels_lines`, `spec_writeLevels_lines`).
* `polarityPerLine_iff`: levels pass through the polarity of their own line exactly when all lines
  have the common polarity. `active_low_lines` is never read.
-/

namespace HardwareTest

open Lib

/-! ## The loops over two calls -/

/-- The two calls that move a value, and what becomes of an access outside an array or through a
null pointer. -/
structure LineCalls (m : Type → Type) where
  getValue : LineRequest → UInt32 → m (Option Bool)
  setValue : LineRequest → UInt32 → Bool → m Bool
  undefined : {α : Type} → m α

namespace LineCalls

variable {m : Type → Type} [Monad m] (c : LineCalls m)

/-- `context->lines[i]`, for a call that follows the pointer. -/
def lineRequest (ctx : GpioDeviceContext) (i : ℕ) : m LineRequest :=
  if h : i < gpioMaxLines then
    match ctx.lines[i] with
    | some request => pure request
    | none => c.undefined
  else c.undefined

/-- `context->configuration.lines[i]` -/
def lineOffset (ctx : GpioDeviceContext) (i : ℕ) : m UInt32 :=
  if h : i < gpioMaxLines then pure ctx.configuration.lines[i] else c.undefined

/-- The level of one line, `none` on an error. -/
def readLevel (ctx : GpioDeviceContext) (i : ℕ) : m (Option UInt32) := do
  let request ← c.lineRequest ctx i
  let offset ← c.lineOffset ctx i
  let value ← c.getValue request offset
  pure (value.map fun active =>
    if invertIfActiveLow ctx.configuration active then gpioLevelHigh else gpioLevelLow)

/-- The loop over the lines from line `i` on, with the levels it stores. -/
def readLevels (ctx : GpioDeviceContext) (i : ℕ) : ℕ → m (ℤ × List UInt32)
  | 0 => pure (0, [])
  | k + 1 => do
      match ← c.readLevel ctx i with
      | none => pure (-1, [])
      | some level => do
          let (code, levels) ← readLevels ctx (i + 1) k
          pure (code, level :: levels)

/-- Source: `plugins/gpio_linux/gpio-device.c`, `gpio_device_read` -/
def gpioDeviceRead (ctx : GpioDeviceContext) (hasBuffer : Bool) (size : ℕ) :
    m (ℤ × List UInt32) :=
  if hasBuffer = false then pure (-1, [])
  else if ctx.linesCount = 0 then pure (-1, [])
  else if size = gpioLevelSize then c.readLevels ctx 0 1
  else if size ≠ ctx.linesCount * gpioLevelSize then pure (-1, [])
  else c.readLevels ctx 0 ctx.linesCount

/-- The loop over the lines from line `i` on. -/
def writeLevels (ctx : GpioDeviceContext) (buffer : ℕ → UInt32) (i : ℕ) : ℕ → m ℤ
  | 0 => pure 0
  | k + 1 => do
      let request ← c.lineRequest ctx i
      let offset ← c.lineOffset ctx i
      let active := invertIfActiveLow ctx.configuration (buffer i = gpioLevelHigh)
      if ← c.setValue request offset active then writeLevels ctx buffer (i + 1) k
      else pure (-1)

/-- Source: `plugins/gpio_linux/gpio-device.c`, `gpio_device_write` -/
def gpioDeviceWrite (ctx : GpioDeviceContext) (buffer : Option (ℕ → UInt32)) (size : ℕ) : m ℤ :=
  match buffer with
  | none => pure (-1)
  | some buffer =>
      if ctx.linesCount = 0 then pure (-1)
      else if size = gpioLevelSize then c.writeLevels ctx buffer 0 1
      else if size ≠ ctx.linesCount * gpioLevelSize then pure (-1)
      else c.writeLevels ctx buffer 0 ctx.linesCount

end LineCalls

/-! ## The calls that keep a log -/

/-- The calls of libgpiod, as they are logged. -/
def ledgerCalls (o : Outcomes) : LineCalls GpioProgram where
  getValue := gpiodLineRequestGetValue o
  setValue := gpiodLineRequestSetValue o
  undefined := failure

section ledger

variable (o : Outcomes) (ctx : GpioDeviceContext)

/-- Following a pointer of the context. -/
lemma lineRequest_ledger (i : ℕ) :
    (ledgerCalls o).lineRequest ctx i = readPointer ctx.lines i := by
  unfold LineCalls.lineRequest readPointer readCell
  split_ifs with hi
  · rw [pure_bind]
    rcases ctx.lines[i] with _ | request
    · rfl
    · rfl
  · rfl

/-- Reading an offset of the configuration. -/
lemma lineOffset_ledger (i : ℕ) :
    (ledgerCalls o).lineOffset ctx i = readCell ctx.configuration.lines i := rfl

/-- The loop of `gpio_device_read`. -/
lemma readLevels_ledger (i k : ℕ) : (ledgerCalls o).readLevels ctx i k = readLevels o ctx i k := by
  induction k generalizing i with
  | zero => rfl
  | succ k ih =>
      unfold LineCalls.readLevels readLevels LineCalls.readLevel readLevel
      rw [lineRequest_ledger, lineOffset_ledger, ih]
      rfl

/-- The loop of `gpio_device_write`. -/
lemma writeLevels_ledger (buffer : ℕ → UInt32) (i k : ℕ) :
    (ledgerCalls o).writeLevels ctx buffer i k = writeLevels o ctx buffer i k := by
  induction k generalizing i with
  | zero => rfl
  | succ k ih =>
      unfold LineCalls.writeLevels writeLevels
      rw [lineRequest_ledger, lineOffset_ledger, ih]
      rfl

/-- `gpio_device_read` over the logged calls. -/
theorem gpioDeviceRead_ledger (hasBuffer : Bool) (size : ℕ) :
    (ledgerCalls o).gpioDeviceRead ctx hasBuffer size = gpioDeviceRead o ctx hasBuffer size := by
  unfold LineCalls.gpioDeviceRead gpioDeviceRead
  rw [readLevels_ledger, readLevels_ledger]

/-- `gpio_device_write` over the logged calls. -/
theorem gpioDeviceWrite_ledger (buffer : Option (ℕ → UInt32)) (size : ℕ) :
    (ledgerCalls o).gpioDeviceWrite ctx buffer size = gpioDeviceWrite o ctx buffer size := by
  unfold LineCalls.gpioDeviceWrite gpioDeviceWrite
  rcases buffer with _ | buffer
  · rfl
  · simp only [writeLevels_ledger]

end ledger

/-! ## The requests of a context -/

namespace GpioDeviceContext

/-- The line requests of the context from line `i` on begin with these. -/
def HoldsFrom (ctx : GpioDeviceContext) (i : ℕ) : List LineRequest → Prop
  | [] => True
  | r :: rs => (∃ hi : i < gpioMaxLines, ctx.lines[i] = some r) ∧ ctx.HoldsFrom (i + 1) rs

/-- The context has these line requests, no two of its lines the same one. -/
structure HoldsRequests (ctx : GpioDeviceContext) (requests : List LineRequest) : Prop where
  linesCount : ctx.linesCount = requests.length
  stored : ctx.HoldsFrom 0 requests
  distinct : requests.Nodup

variable {ctx : GpioDeviceContext} {i : ℕ} {requests : List LineRequest}

/-- The requests line by line. -/
lemma holdsFrom_iff : ctx.HoldsFrom i requests ↔ ∀ j, ∀ hj : j < requests.length,
    ∃ hi : i + j < gpioMaxLines, ctx.lines[i + j] = some requests[j] := by
  induction requests generalizing i with
  | nil => simp [HoldsFrom]
  | cons r rs ih =>
      unfold HoldsFrom
      rw [ih]
      constructor
      · rintro ⟨hfirst, hrest⟩ (_ | j) hj
        · exact hfirst
        · obtain ⟨hi, hline⟩ := hrest j (by simpa using hj)
          refine ⟨by omega, ?_⟩
          simpa [Nat.add_assoc, Nat.add_comm 1] using hline
      · intro hall
        refine ⟨hall 0 (by simp), fun j hj => ?_⟩
        obtain ⟨hi, hline⟩ := hall (j + 1) (by simpa using hj)
        refine ⟨by omega, ?_⟩
        simpa [Nat.add_assoc, Nat.add_comm 1] using hline

/-- Fewer requests. -/
lemma HoldsFrom.take (h : ctx.HoldsFrom i requests) (k : ℕ) :
    ctx.HoldsFrom i (requests.take k) := by
  rw [holdsFrom_iff] at h ⊢
  intro j hj
  rw [List.length_take] at hj
  obtain ⟨hi, hline⟩ := h j (by omega)
  exact ⟨hi, by rw [hline, List.getElem_take]⟩

/-- There are no more requests than lines. -/
lemma HoldsRequests.length_le (h : ctx.HoldsRequests requests) :
    requests.length ≤ gpioMaxLines := by
  by_contra hmany
  obtain ⟨hi, -⟩ := holdsFrom_iff.mp h.stored (requests.length - 1) (by omega)
  omega

end GpioDeviceContext

open GpioDeviceContext

/-- A good context whose objects are held has its requests, no two the same. -/
lemma exists_holdsRequests {ctx : GpioDeviceContext} (hg : ctx.Good) {w : Ledger GpiodObject}
    (hw : w.Owns ctx.held) : ∃ requests, ctx.HoldsRequests requests := by
  have hsome : ∀ i : Fin ctx.linesCount,
      ∃ hi : i.val < gpioMaxLines, ∃ r, ctx.lines[i.val] = some r := by
    intro i
    obtain ⟨hi, r, hr, -⟩ := exists_request hg i.isLt
    exact ⟨hi, r, hr⟩
  choose hi request hrequest using hsome
  refine ⟨List.ofFn request, ?_, holdsFrom_iff.mpr fun j hj => ?_, ?_⟩
  · rw [List.length_ofFn]
  · rw [List.length_ofFn] at hj
    refine ⟨by simpa using hi ⟨j, hj⟩, ?_⟩
    simpa using hrequest ⟨j, hj⟩
  · rw [List.nodup_ofFn]
    intro i j hij
    by_contra hne
    -- the request of two lines would be held twice
    have hnodup := hw.orderly.nodup
    rw [held_of_request (hrequest i), Multiset.nodup_cons] at hnodup
    apply hnodup.1
    have hj := hi j
    have hother : (ctx.clearRequest i.val (hi i)).lines[j.val] = some (request i) := by
      rw [hij, ← hrequest j]
      exact Vector.getElem_set_ne (hi i) hj fun h => hne (Fin.ext h)
    rw [held_of_request hother]
    exact Multiset.mem_cons_self _ _

/-- **Configured contexts.** After any calls on an opened device the context has its requests. -/
theorem gpioCalls_holdsRequests (o : Outcomes) (calls : List GpioCall)
    {block : Option GpioDeviceContext} {opened ctx : GpioDeviceContext}
    (hopen : gpioDeviceOpen block = (0, some opened)) {ledger : Ledger GpiodObject}
    (hrun : (gpioCalls o opened calls).run (.empty _) = some (ctx, ledger)) :
    ∃ requests, ctx.HoldsRequests requests := by
  obtain ⟨hg, howns⟩ := good_of_gpioCalls hopen hrun
  exact exists_holdsRequests hg howns

/-- A configuration whose chips can be opened is in force when all calls of libgpiod succeed. -/
lemma exists_configured (c : GpioConfiguration) (hpos : c.linesCount ≠ 0)
    (hfew : c.linesCount ≤ gpioMaxLines)
    (hopen : ∀ i, ∀ hi : i < gpioMaxLines, (c.chipNameOf i hi).bind chipPath ≠ none) :
    ∃ ctx ledger requests, (gpioCalls .fortunate .zeroed
        [.control gpioCommandSetConfiguration (some c)]).run (.empty _) = some (ctx, ledger) ∧
      ctx.HoldsRequests requests ∧ requests.length = c.linesCount ∧ ctx.configuration = c := by
  have hzeroed : gpioDeviceOpen (some .zeroed) = (0, some .zeroed) := rfl
  obtain ⟨hg, hheld⟩ := good_of_gpioDeviceOpen hzeroed
  have hsingle : withSingleLine c = c := if_neg fun h => hpos h.1
  have hcontrol : Spec GpioDeviceContext.zeroed.held
      (gpioDeviceControl .fortunate .zeroed gpioCommandSetConfiguration (some c))
      (fun r => r.2.held) (fun r => r.2.Good ∧ Describes c r.2) := by
    refine (spec_setConfiguration .fortunate hg c).mono fun r hr => ⟨hr.good hg, ?_⟩
    rw [hsingle] at hr
    rcases hr with hmany | ⟨_, ctx, hdone⟩ | ⟨_, ctx, hdone⟩
    · exact absurd hmany (Nat.not_lt.mpr hfew)
    · rcases hdone with _ | ⟨_, i, hi, _, _, hname⟩ | ⟨_, _, i, _, _, _, ⟨k, hk⟩ | hlong⟩
      · exact absurd (by rw [hname, Option.bind_none]) (hopen i hi)
      · cases hk
      · obtain ⟨hi, name, hname, hlong⟩ := hlong
        exact absurd (by rw [hname, Option.bind_some, hlong]) (hopen i hi)
    · have hdescribes := hdone.describes
      exact ⟨hdescribes.configuration, hdescribes.linesCount, hdescribes.requests,
        hdescribes.others⟩
  have hcall : Spec GpioDeviceContext.zeroed.held (gpioCalls .fortunate .zeroed
      [.control gpioCommandSetConfiguration (some c)]) held
      (fun ctx => ctx.Good ∧ Describes c ctx) :=
    Spec.bind (Spec.bind hcontrol fun _ h => Spec.pure rfl h) fun _ h => Spec.pure rfl h
  obtain ⟨ctx, ledger, hrun, howns, ⟨hgood, hdescribes⟩, -⟩ :=
    hcall (.empty _) (hheld ▸ Ledger.owns_empty)
  obtain ⟨requests, hrequests⟩ := exists_holdsRequests hgood howns
  exact ⟨ctx, ledger, requests, hrun, hrequests,
    hrequests.linesCount.symm.trans hdescribes.linesCount, hdescribes.configuration⟩

/-- The chip of every line can be opened when the common chip can and no line has its own. -/
lemma chip_opens_of_common {c : GpioConfiguration} (hchip : c.chip.chars ≠ [])
    (hpath : chipPath c.chip.chars ≠ none)
    (hown : ∀ i, ∀ hi : i < gpioMaxLines, c.linesChip[i].chars = []) (i : ℕ)
    (hi : i < gpioMaxLines) : (c.chipNameOf i hi).bind chipPath ≠ none := by
  unfold GpioConfiguration.chipNameOf lineChipName
  rw [if_neg (not_not.mpr (hown i hi)), if_pos hchip]
  exact hpath

/-- The device with two output lines of one chip. -/
lemma exists_twoOutputs : ∃ ctx ledger requests, (gpioCalls .fortunate .zeroed
      [.control gpioCommandSetConfiguration (some twoOutputs)]).run (.empty _) =
        some (ctx, ledger) ∧
    ctx.HoldsRequests requests ∧ requests.length = 2 ∧ ctx.configuration = twoOutputs :=
  exists_configured twoOutputs (by decide) (by decide)
    (chip_opens_of_common (by decide) (by decide) fun i _ => by
      simp [twoOutputs, GpioConfiguration.zeroed, CharBuf.empty])

/-! ## Lines that keep their values -/

/-- The lines behind libgpiod: the calls made so far, which requests are active, and the requests
that were written, oldest first. -/
structure Lines where
  calls : ℕ
  active : LineRequest → Bool
  written : List LineRequest

/-- A computation on the lines; it fails where the code is undefined. -/
abbrev LineProgram := StateT Lines Option

/-- A read returns the value of the request and a write changes it, as far as the calls succeed. -/
def lineCalls (succeeds : ℕ → Bool) : LineCalls LineProgram where
  getValue request _ := fun w =>
    some (if succeeds w.calls then some (w.active request) else none,
      { w with calls := w.calls + 1 })
  setValue request _ active := fun w =>
    if succeeds w.calls then
      some (true, ⟨w.calls + 1, Function.update w.active request active, w.written ++ [request]⟩)
    else some (false, { w with calls := w.calls + 1 })
  undefined := failure

/-- A read of a line. -/
lemma run_getValue_lines (succeeds : ℕ → Bool) (request : LineRequest) (offset : UInt32)
    (w : Lines) : ((lineCalls succeeds).getValue request offset).run w =
      some (if succeeds w.calls then some (w.active request) else none,
        { w with calls := w.calls + 1 }) := rfl

/-- A write that fails changes nothing. -/
lemma run_setValue_lines_fails {succeeds : ℕ → Bool} (request : LineRequest) (offset : UInt32)
    (active : Bool) {w : Lines} (hs : succeeds w.calls ≠ true) :
    ((lineCalls succeeds).setValue request offset active).run w =
      some (false, { w with calls := w.calls + 1 }) := if_neg hs

/-- A write that succeeds. -/
lemma run_setValue_lines {succeeds : ℕ → Bool} (request : LineRequest) (offset : UInt32)
    (active : Bool) {w : Lines} (hs : succeeds w.calls = true) :
    ((lineCalls succeeds).setValue request offset active).run w = some (true,
      ⟨w.calls + 1, Function.update w.active request active, w.written ++ [request]⟩) := if_pos hs

/-- The level that is stored for a value. -/
def shownLevel (configuration : GpioConfiguration) (active : Bool) : UInt32 :=
  if invertIfActiveLow configuration active then gpioLevelHigh else gpioLevelLow

/-- The value that is set for a level. -/
def drivenValue (configuration : GpioConfiguration) (level : UInt32) : Bool :=
  invertIfActiveLow configuration (level = gpioLevelHigh)

section loops

variable {ctx : GpioDeviceContext} {requests : List LineRequest} (succeeds : ℕ → Bool) {i : ℕ}

/-- **The read loop** leaves the lines alone; when it succeeds, it stores the level of each. -/
lemma spec_readLevels_lines (h : ctx.HoldsFrom i requests) (w : Lines) :
    ∃ code levels calls, ((lineCalls succeeds).readLevels ctx i requests.length).run w =
        some ((code, levels), { w with calls := calls }) ∧
      (code = 0 → levels = requests.map fun r => shownLevel ctx.configuration (w.active r)) ∧
      ((∀ k, succeeds k = true) → code = 0) := by
  induction requests generalizing i w with
  | nil => exact ⟨0, [], w.calls, rfl, fun _ => rfl, fun _ => rfl⟩
  | cons r rs ih =>
      obtain ⟨⟨hi, hline⟩, hrest⟩ := h
      have hlevel : ((lineCalls succeeds).readLevel ctx i).run w =
          some (if succeeds w.calls then some (shownLevel ctx.configuration (w.active r)) else none,
            { w with calls := w.calls + 1 }) := by
        unfold LineCalls.readLevel LineCalls.lineRequest LineCalls.lineOffset
        rw [dif_pos hi, dif_pos hi, hline]
        simp only [pure_bind]
        rw [StateT.run_bind, run_getValue_lines]
        split_ifs
        · rfl
        · rfl
      rw [List.length_cons, LineCalls.readLevels, StateT.run_bind, hlevel]
      by_cases hs : succeeds w.calls = true
      · obtain ⟨code, levels, calls, hrun, hlevels, hcode⟩ :=
          ih hrest { w with calls := w.calls + 1 }
        refine ⟨code, shownLevel ctx.configuration (w.active r) :: levels, calls, ?_,
          fun hzero => ?_, hcode⟩
        · rw [if_pos hs]
          simp only [Option.bind_eq_bind, Option.bind_some]
          rw [StateT.run_bind, hrun]
          rfl
        · rw [hlevels hzero, List.map_cons]
      · refine ⟨-1, [], w.calls + 1, ?_, by simp, fun hall => absurd (hall _) hs⟩
        rw [if_neg hs]
        rfl

/-- What the write loop leaves: when it succeeds, each line has the value of its level and was
written once; other lines are as they were. -/
structure LinesWritten (ctx : GpioDeviceContext) (buffer : ℕ → UInt32) (i : ℕ)
    (requests : List LineRequest) (w : Lines) (code : ℤ) (w' : Lines) : Prop where
  values : code = 0 → requests.map w'.active =
    (List.range' i requests.length).map fun j => drivenValue ctx.configuration (buffer j)
  written : code = 0 → w'.written = w.written ++ requests
  others : ∀ r, r ∉ requests → w'.active r = w.active r

/-- **The write loop.** -/
lemma spec_writeLevels_lines (buffer : ℕ → UInt32) (h : ctx.HoldsFrom i requests)
    (hdistinct : requests.Nodup) (w : Lines) :
    ∃ code w', ((lineCalls succeeds).writeLevels ctx buffer i requests.length).run w =
        some (code, w') ∧ LinesWritten ctx buffer i requests w code w' ∧
      ((∀ k, succeeds k = true) → code = 0) := by
  induction requests generalizing i w with
  | nil => exact ⟨0, w, rfl, ⟨fun _ => rfl, fun _ => by simp, fun _ _ => rfl⟩, fun _ => rfl⟩
  | cons r rs ih =>
      obtain ⟨⟨hi, hline⟩, hrest⟩ := h
      obtain ⟨hnew, hdistinct⟩ := List.nodup_cons.mp hdistinct
      rw [List.length_cons, LineCalls.writeLevels, LineCalls.lineRequest, LineCalls.lineOffset,
        dif_pos hi, dif_pos hi, hline]
      simp only [pure_bind]
      rw [StateT.run_bind]
      by_cases hs : succeeds w.calls = true
      · obtain ⟨code, w', hrun, hwritten, hcode⟩ := ih hrest hdistinct
          ⟨w.calls + 1, Function.update w.active r (drivenValue ctx.configuration (buffer i)),
            w.written ++ [r]⟩
        refine ⟨code, w', ?_, ⟨fun hzero => ?_, fun hzero => ?_, fun r' hr' => ?_⟩, hcode⟩
        · rw [run_setValue_lines _ _ _ hs]
          exact hrun
        · have hsame : w'.active r = drivenValue ctx.configuration (buffer i) := by
            rw [hwritten.others r hnew]
            exact Function.update_self _ _ _
          rw [List.map_cons, hsame, hwritten.values hzero, List.length_cons, List.range'_succ,
            List.map_cons]
        · rw [hwritten.written hzero, List.append_assoc]
          rfl
        · rw [List.mem_cons, not_or] at hr'
          rw [hwritten.others r' hr'.2]
          exact Function.update_of_ne hr'.1 _ _
      · refine ⟨-1, { w with calls := w.calls + 1 }, ?_, ⟨by simp, by simp, fun _ _ => rfl⟩,
          fun hall => absurd (hall _) hs⟩
        rw [run_setValue_lines_fails _ _ _ hs]
        rfl

/-- The value of each line. -/
lemma LinesWritten.value {buffer : ℕ → UInt32} {w w' : Lines} {code : ℤ}
    (h : LinesWritten ctx buffer i requests w code w') (hzero : code = 0) {j : ℕ}
    (hj : j < requests.length) :
    w'.active requests[j] = drivenValue ctx.configuration (buffer (i + j)) := by
  have hvalue := List.getElem_of_eq (h.values hzero) (show j < (requests.map _).length by simpa)
  simpa using hvalue

end loops

/-! ## The operations, by the number of levels -/

section sizes

variable {m : Type → Type} [Monad m] (c : LineCalls m) {ctx : GpioDeviceContext} {size k : ℕ}

/-- A read of one level, or of one for each line. -/
lemma LineCalls.gpioDeviceRead_of_size (hpos : ctx.linesCount ≠ 0)
    (hk : k = 1 ∨ k = ctx.linesCount) :
    c.gpioDeviceRead ctx true (k * gpioLevelSize) = c.readLevels ctx 0 k := by
  unfold gpioDeviceRead
  rw [if_neg (by simp), if_neg hpos]
  by_cases hone : k = 1
  · subst hone
    exact if_pos (Nat.one_mul _)
  · obtain rfl := hk.resolve_left hone
    rw [if_neg (by unfold gpioLevelSize; omega), if_neg (by simp)]

/-- A write of one level, or of one for each line. -/
lemma LineCalls.gpioDeviceWrite_of_size (hpos : ctx.linesCount ≠ 0)
    (hk : k = 1 ∨ k = ctx.linesCount) (buffer : ℕ → UInt32) :
    c.gpioDeviceWrite ctx (some buffer) (k * gpioLevelSize) = c.writeLevels ctx buffer 0 k := by
  unfold gpioDeviceWrite
  simp only
  rw [if_neg hpos]
  by_cases hone : k = 1
  · subst hone
    exact if_pos (Nat.one_mul _)
  · obtain rfl := hk.resolve_left hone
    rw [if_neg (by unfold gpioLevelSize; omega), if_neg (by simp)]

/-- Any other size is refused. -/
lemma LineCalls.gpioDeviceRead_of_other_size (hasBuffer : Bool)
    (hsize : ctx.linesCount = 0 ∨ size ≠ gpioLevelSize ∧ size ≠ ctx.linesCount * gpioLevelSize) :
    c.gpioDeviceRead ctx hasBuffer size = pure (-1, []) := by
  unfold gpioDeviceRead
  split_ifs with hbuffer hzero hone hall
  · rfl
  · rfl
  · exact absurd hone (hsize.resolve_left hzero).1
  · rfl
  · exact absurd (not_not.mp hall) (hsize.resolve_left hzero).2

/-- Any other size is refused. -/
lemma LineCalls.gpioDeviceWrite_of_other_size (buffer : Option (ℕ → UInt32))
    (hsize : ctx.linesCount = 0 ∨ size ≠ gpioLevelSize ∧ size ≠ ctx.linesCount * gpioLevelSize) :
    c.gpioDeviceWrite ctx buffer size = pure (-1) := by
  unfold gpioDeviceWrite
  rcases buffer with _ | buffer
  · rfl
  · simp only
    split_ifs with hzero hone hall
    · rfl
    · exact absurd hone (hsize.resolve_left hzero).1
    · rfl
    · exact absurd (not_not.mp hall) (hsize.resolve_left hzero).2

end sizes

section operations

variable {ctx : GpioDeviceContext} {requests : List LineRequest} (succeeds : ℕ → Bool) {k : ℕ}

/-- The first `k` requests, when that many are transferred. -/
lemma GpioDeviceContext.HoldsRequests.transferred (h : ctx.HoldsRequests requests)
    (hne : requests ≠ []) (hk : k = 1 ∨ k = requests.length) :
    ctx.linesCount ≠ 0 ∧ (k = 1 ∨ k = ctx.linesCount) ∧ (requests.take k).length = k := by
  have hpos := List.length_pos_of_ne_nil hne
  have hcount := h.linesCount
  refine ⟨by omega, hcount ▸ hk, ?_⟩
  rw [List.length_take]
  omega

/-- `gpio_device_read` of one level or of all. -/
lemma spec_gpioDeviceRead_lines (h : ctx.HoldsRequests requests) (hne : requests ≠ [])
    (hk : k = 1 ∨ k = requests.length) (w : Lines) :
    ∃ code levels calls, ((lineCalls succeeds).gpioDeviceRead ctx true (k * gpioLevelSize)).run w =
        some ((code, levels), { w with calls := calls }) ∧
      (code = 0 →
        levels = (requests.take k).map fun r => shownLevel ctx.configuration (w.active r)) ∧
      ((∀ j, succeeds j = true) → code = 0) := by
  obtain ⟨hpos, hcount, hlen⟩ := h.transferred hne hk
  have hloop := spec_readLevels_lines succeeds (h.stored.take k) w
  rw [hlen] at hloop
  rw [LineCalls.gpioDeviceRead_of_size _ hpos hcount]
  exact hloop

/-- `gpio_device_write` of one level or of all. -/
lemma spec_gpioDeviceWrite_lines (buffer : ℕ → UInt32) (h : ctx.HoldsRequests requests)
    (hne : requests ≠ []) (hk : k = 1 ∨ k = requests.length) (w : Lines) :
    ∃ code w', ((lineCalls succeeds).gpioDeviceWrite ctx (some buffer) (k * gpioLevelSize)).run w =
        some (code, w') ∧ LinesWritten ctx buffer 0 (requests.take k) w code w' ∧
      ((∀ j, succeeds j = true) → code = 0) := by
  obtain ⟨hpos, hcount, hlen⟩ := h.transferred hne hk
  have hloop := spec_writeLevels_lines succeeds buffer (h.stored.take k)
    (h.distinct.sublist (List.take_sublist k requests)) w
  rw [hlen] at hloop
  rw [LineCalls.gpioDeviceWrite_of_size _ hpos hcount]
  exact hloop

end operations

/-! ## Polarity -/

/-- A level is set active when it is high, or the other way round under a common polarity. -/
lemma drivenValue_eq_true_iff (configuration : GpioConfiguration) (level : UInt32) :
    drivenValue configuration level = true ↔
      ¬ (level = gpioLevelHigh ↔ configuration.activeLow ≠ 0) := by
  unfold drivenValue invertIfActiveLow
  split_ifs with hpolarity
  · simp [hpolarity]
  · simp [hpolarity]

/-- A line is shown as high when it is active, or the other way round. -/
lemma shownLevel_eq_high_iff (configuration : GpioConfiguration) (active : Bool) :
    shownLevel configuration active = gpioLevelHigh ↔
      ¬ (active = true ↔ configuration.activeLow ≠ 0) := by
  have hlevels : gpioLevelLow ≠ gpioLevelHigh := by decide
  unfold shownLevel invertIfActiveLow
  split_ifs with hpolarity hactive hactive
  · simp [hpolarity, hactive]
  · simpa [hpolarity, hactive] using hlevels
  · simpa [hpolarity] using hactive
  · have hhigh : active = true := by simpa using hactive
    simpa [hpolarity, hhigh] using hlevels

/-- Transfers of all levels go through the polarity of each line. -/
structure PolarityPerLine (ctx : GpioDeviceContext) (requests : List LineRequest)
    (buffer : ℕ → UInt32) : Prop where
  writes : ∀ succeeds w w', ((lineCalls succeeds).gpioDeviceWrite ctx (some buffer)
      (requests.length * gpioLevelSize)).run w = some (0, w') →
    ∀ i, ∀ hi : i < requests.length, ∀ hi' : i < gpioMaxLines, w'.active requests[i] = true ↔
      ¬ (buffer i = gpioLevelHigh ↔ ctx.configuration.activeLowLines[i] ≠ 0)
  reads : ∀ succeeds w levels w', ((lineCalls succeeds).gpioDeviceRead ctx true
      (requests.length * gpioLevelSize)).run w = some ((0, levels), w') →
    ∀ i, ∀ hi : i < requests.length, ∀ hi' : i < gpioMaxLines, levels[i]? = some gpioLevelHigh ↔
      ¬ (w.active requests[i] = true ↔ ctx.configuration.activeLowLines[i] ≠ 0)

/-- **Polarity.** Levels go through the polarity of each line iff every line has the common
polarity `active_low`.
Source: `plugins/gpio_linux/gpio-device.c`, `gpio_device_read`, `gpio_device_write` -/
theorem polarityPerLine_iff {ctx : GpioDeviceContext} {requests : List LineRequest}
    (h : ctx.HoldsRequests requests) (buffer : ℕ → UInt32) :
    PolarityPerLine ctx requests buffer ↔
      ∀ i, i < requests.length → ∀ hi : i < gpioMaxLines,
        (ctx.configuration.activeLowLines[i] ≠ 0 ↔ ctx.configuration.activeLow ≠ 0) := by
  constructor
  · intro hpolarity i hi hi'
    obtain ⟨code, w', hrun, hwritten, hcode⟩ := spec_gpioDeviceWrite_lines
      (fun _ => true) buffer h (List.ne_nil_of_length_pos (by omega)) (.inr rfl)
      ⟨0, fun _ => false, []⟩
    obtain rfl := hcode fun _ => rfl
    rw [List.take_length] at hwritten
    have hown := hpolarity.writes _ _ _ hrun i hi hi'
    rw [hwritten.value rfl hi, Nat.zero_add, drivenValue_eq_true_iff] at hown
    tauto
  · intro hcommon
    constructor
    · intro succeeds w w' hrun i hi hi'
      obtain ⟨code, w₁, hrun', hwritten, -⟩ := spec_gpioDeviceWrite_lines
        succeeds buffer h (List.ne_nil_of_length_pos (by omega)) (.inr rfl) w
      rw [hrun'] at hrun
      cases hrun
      rw [List.take_length] at hwritten
      rw [hwritten.value rfl hi, Nat.zero_add, drivenValue_eq_true_iff, hcommon i hi hi']
    · intro succeeds w levels w' hrun i hi hi'
      obtain ⟨code, levels', calls, hrun', hlevels, -⟩ := spec_gpioDeviceRead_lines
        succeeds h (List.ne_nil_of_length_pos (by omega)) (.inr rfl) w
      rw [hrun'] at hrun
      cases hrun
      rw [hlevels rfl, List.take_length, List.getElem?_map, List.getElem?_eq_getElem hi,
        Option.map_some, Option.some_inj, shownLevel_eq_high_iff, hcommon i hi hi']

/-- Two output lines that are not active low. -/
theorem polarityPerLine_twoOutputs :
    ∃ ctx ledger requests, (gpioCalls .fortunate .zeroed
        [.control gpioCommandSetConfiguration (some twoOutputs)]).run (.empty _) =
          some (ctx, ledger) ∧
      requests.length = 2 ∧ PolarityPerLine ctx requests fun _ => gpioLevelHigh := by
  obtain ⟨ctx, ledger, requests, hrun, hrequests, htwo, hconfiguration⟩ := exists_twoOutputs
  refine ⟨ctx, ledger, requests, hrun, htwo, (polarityPerLine_iff hrequests _).mpr ?_⟩
  intro i _ hi
  rw [hconfiguration]
  simp [twoOutputs, GpioConfiguration.zeroed]

/-- Two output lines of one chip, the second of them active low. -/
def mixedOutputs : GpioConfiguration :=
  { twoOutputs with
    activeLowCount := 2
    activeLowLines := (Vector.replicate gpioMaxLines 0).set 1 1 }

/-- Both lines high: the second one is set active, as if it were not active low. -/
theorem mixedOutputs_polarity_ignored :
    ∃ ctx ledger requests, (gpioCalls .fortunate .zeroed
        [.control gpioCommandSetConfiguration (some mixedOutputs)]).run (.empty _) =
          some (ctx, ledger) ∧
      requests.length = 2 ∧ ctx.configuration.activeLowCount = 2 ∧
      ¬ PolarityPerLine ctx requests fun _ => gpioLevelHigh := by
  obtain ⟨ctx, ledger, requests, hrun, hrequests, htwo, hconfiguration⟩ :=
    exists_configured mixedOutputs (by decide) (by decide)
      (chip_opens_of_common (by decide) (by decide) fun i _ => by
        simp [mixedOutputs, twoOutputs, GpioConfiguration.zeroed, CharBuf.empty])
  have htwo' : requests.length = 2 := htwo
  refine ⟨ctx, ledger, requests, hrun, htwo, by rw [hconfiguration]; rfl, fun hpolarity => ?_⟩
  obtain ⟨code, w', hwrite, hwritten, hcode⟩ := spec_gpioDeviceWrite_lines (fun _ => true)
    (fun _ => gpioLevelHigh) hrequests (List.ne_nil_of_length_pos (by omega)) (.inr rfl)
    ⟨0, fun _ => false, []⟩
  obtain rfl := hcode fun _ => rfl
  rw [List.take_length] at hwritten
  have hown := hpolarity.writes _ _ _ hwrite 1 (by omega) (by decide)
  rw [hwritten.value rfl (by omega), drivenValue_eq_true_iff, hconfiguration] at hown
  revert hown
  decide

end HardwareTest
