import HardwareTest.Plugins.GpioLevels

/-!
# Moving levels through a handle: `hal/gpio/gpio-hal.c`

`gpio_hal_read`, `gpio_hal_write` and their forms for several levels hand the buffer and its size in
bytes to the plugin, here the gpio plugin for Linux.

* `levelsRoundTrip`: what is written through a handle is read back, one level or all of them.
* `transfersExact_iff`: the size is a 64-bit product passed as `uint32_t`, and a count from `2 ^ 30`
  on may be taken for a small one.
-/

namespace HardwareTest

open Lib GpioDeviceContext

/-! ## The model -/

/-- `count * sizeof(gpio_level_t)`, passed as `uint32_t size`. -/
def transferSize (count : UInt32) : ℕ := (count.toUInt64 * 4).toUInt32.toNat

namespace LineCalls

variable {m : Type → Type} [Monad m] (c : LineCalls m)

/-- The handle is the device behind it, `none` for NULL.
Source: `hal/gpio/gpio-hal.c`, `gpio_hal_read` -/
def gpioHalRead (handle : Option GpioDeviceContext) (hasLevel : Bool) : m (ℤ × List UInt32) :=
  match handle with
  | none => pure (-1, [])
  | some ctx =>
      if hasLevel = false then pure (-1, []) else c.gpioDeviceRead ctx hasLevel gpioLevelSize

/-- Source: `hal/gpio/gpio-hal.c`, `gpio_hal_read_multi` -/
def gpioHalReadMulti (handle : Option GpioDeviceContext) (hasLevels : Bool) (count : UInt32) :
    m (ℤ × List UInt32) :=
  match handle with
  | none => pure (-1, [])
  | some ctx =>
      if hasLevels = false ∨ count = 0 then pure (-1, [])
      else c.gpioDeviceRead ctx hasLevels (transferSize count)

/-- Source: `hal/gpio/gpio-hal.c`, `gpio_hal_write` -/
def gpioHalWrite (handle : Option GpioDeviceContext) (level : UInt32) : m ℤ :=
  match handle with
  | none => pure (-1)
  | some ctx => c.gpioDeviceWrite ctx (some fun _ => level) gpioLevelSize

/-- Source: `hal/gpio/gpio-hal.c`, `gpio_hal_write_multi` -/
def gpioHalWriteMulti (handle : Option GpioDeviceContext) (levels : Option (ℕ → UInt32))
    (count : UInt32) : m ℤ :=
  match handle with
  | none => pure (-1)
  | some ctx =>
      if levels = none ∨ count = 0 then pure (-1)
      else c.gpioDeviceWrite ctx levels (transferSize count)

end LineCalls

/-! ## Sizes -/

/-- The size in bytes, cut to 32 bits. -/
lemma transferSize_eq (count : UInt32) :
    transferSize count = count.toNat % 2 ^ 30 * gpioLevelSize := by
  have hcount := count.toNat_lt
  unfold transferSize gpioLevelSize
  rw [UInt64.toNat_toUInt32, UInt64.toNat_mul, UInt32.toNat_toUInt64]
  show count.toNat * 4 % 2 ^ 64 % 2 ^ 32 = _
  omega

/-- A small count is not cut. -/
lemma transferSize_ofNat {n : ℕ} (h : n < 2 ^ 30) :
    transferSize (UInt32.ofNat n) = n * gpioLevelSize := by
  rw [transferSize_eq, UInt32.toNat_ofNat_of_lt' (by change n < 2 ^ 32; omega),
    Nat.mod_eq_of_lt h]

section calls

variable {m : Type → Type} [Monad m] (c : LineCalls m) (ctx : GpioDeviceContext) {count : UInt32}

/-- A read of several levels that gets to the plugin. -/
lemma LineCalls.gpioHalReadMulti_of_ne_zero (h : count ≠ 0) :
    c.gpioHalReadMulti (some ctx) true count =
      c.gpioDeviceRead ctx true (transferSize count) := if_neg (by simpa using h)

/-- A write of several levels that gets to the plugin. -/
lemma LineCalls.gpioHalWriteMulti_of_ne_zero (h : count ≠ 0) (buffer : ℕ → UInt32) :
    c.gpioHalWriteMulti (some ctx) (some buffer) count =
      c.gpioDeviceWrite ctx (some buffer) (transferSize count) := if_neg (by simpa using h)

/-- A read of one level. -/
lemma LineCalls.gpioHalRead_eq :
    c.gpioHalRead (some ctx) true = c.gpioDeviceRead ctx true (1 * gpioLevelSize) := rfl

/-- A write of one level. -/
lemma LineCalls.gpioHalWrite_eq (level : UInt32) :
    c.gpioHalWrite (some ctx) level =
      c.gpioDeviceWrite ctx (some fun _ => level) (1 * gpioLevelSize) := rfl

/-- A read of one level is a read of several. -/
lemma LineCalls.gpioHalReadMulti_one :
    c.gpioHalReadMulti (some ctx) true 1 = c.gpioHalRead (some ctx) true := by
  rw [c.gpioHalReadMulti_of_ne_zero ctx (by decide), gpioHalRead_eq]
  rfl

/-- A write of one level is a write of several. -/
lemma LineCalls.gpioHalWriteMulti_one (buffer : ℕ → UInt32) :
    c.gpioHalWriteMulti (some ctx) (some buffer) 1 = c.gpioHalWrite (some ctx) (buffer 0) := by
  rw [c.gpioHalWriteMulti_of_ne_zero ctx (by decide), gpioHalWrite_eq]
  show c.gpioDeviceWrite ctx (some buffer) (1 * gpioLevelSize) = _
  by_cases hpos : ctx.linesCount = 0
  · rw [c.gpioDeviceWrite_of_other_size _ (.inl hpos), c.gpioDeviceWrite_of_other_size _ (.inl hpos)]
  · rw [c.gpioDeviceWrite_of_size hpos (.inl rfl), c.gpioDeviceWrite_of_size hpos (.inl rfl)]
    rfl

end calls

/-! ## The round trip -/

/-- A level that is driven and shown again, whatever the polarity. -/
lemma shownLevel_drivenValue (configuration : GpioConfiguration) {level : UInt32}
    (h : level = gpioLevelLow ∨ level = gpioLevelHigh) :
    shownLevel configuration (drivenValue configuration level) = level := by
  unfold shownLevel drivenValue invertIfActiveLow
  rcases h with rfl | rfl
  · split_ifs
    all_goals simp_all [gpioLevelLow, gpioLevelHigh]
  · split_ifs
    all_goals simp_all [gpioLevelHigh]

/-- Levels written through a handle on `n` lines and read again. -/
structure LevelsRoundTrip (ctx : GpioDeviceContext) (requests : List LineRequest)
    (succeeds : ℕ → Bool) : Prop where
  /-- All levels come back. -/
  multi : ∀ buffer : ℕ → UInt32,
    (∀ i < requests.length, buffer i = gpioLevelLow ∨ buffer i = gpioLevelHigh) →
    ∀ w w₁ w₂ levels,
      ((lineCalls succeeds).gpioHalWriteMulti (some ctx) (some buffer)
        (.ofNat requests.length)).run w = some (0, w₁) →
      ((lineCalls succeeds).gpioHalReadMulti (some ctx) true (.ofNat requests.length)).run w₁ =
        some ((0, levels), w₂) →
      levels = (List.range requests.length).map buffer
  /-- One level comes back. -/
  single : ∀ level, level = gpioLevelLow ∨ level = gpioLevelHigh → ∀ w w₁ w₂ levels,
    ((lineCalls succeeds).gpioHalWrite (some ctx) level).run w = some (0, w₁) →
    ((lineCalls succeeds).gpioHalRead (some ctx) true).run w₁ = some ((0, levels), w₂) →
    levels = [level]
  /-- One level leaves the other lines alone, even when it cannot be written. -/
  others : ∀ level w code w₁,
    ((lineCalls succeeds).gpioHalWrite (some ctx) level).run w = some (code, w₁) →
    ∀ i, ∀ hi : i < requests.length, 1 ≤ i → w₁.active requests[i] = w.active requests[i]
  /-- On one line, a write or a read of several levels is one of a single level. -/
  one : requests.length = 1 → ∀ buffer : ℕ → UInt32,
    (lineCalls succeeds).gpioHalWriteMulti (some ctx) (some buffer) (.ofNat requests.length) =
        (lineCalls succeeds).gpioHalWrite (some ctx) (buffer 0) ∧
      (lineCalls succeeds).gpioHalReadMulti (some ctx) true (.ofNat requests.length) =
        (lineCalls succeeds).gpioHalRead (some ctx) true
  /-- When the calls of libgpiod succeed, so do these. -/
  succeed : (∀ k, succeeds k = true) → ∀ w (buffer : ℕ → UInt32) level,
    (∃ w', ((lineCalls succeeds).gpioHalWriteMulti (some ctx) (some buffer)
        (.ofNat requests.length)).run w = some (0, w')) ∧
      (∃ levels w', ((lineCalls succeeds).gpioHalReadMulti (some ctx) true
        (.ofNat requests.length)).run w = some ((0, levels), w')) ∧
      (∃ w', ((lineCalls succeeds).gpioHalWrite (some ctx) level).run w = some (0, w')) ∧
      ∃ levels w', ((lineCalls succeeds).gpioHalRead (some ctx) true).run w = some ((0, levels), w')

section

variable {ctx : GpioDeviceContext} {requests : List LineRequest}

/-- As many levels as there are requests are a size of their own. -/
lemma size_of_length (h : ctx.HoldsRequests requests) (hne : requests ≠ []) :
    UInt32.ofNat requests.length ≠ 0 ∧
      transferSize (.ofNat requests.length) = requests.length * gpioLevelSize := by
  have hle := h.length_le
  have hpos := List.length_pos_of_ne_nil hne
  have hlt : requests.length < 2 ^ 30 := Nat.lt_of_le_of_lt hle (by decide)
  refine ⟨fun hzero => ?_, transferSize_ofNat hlt⟩
  have hnat := congrArg UInt32.toNat hzero
  rw [UInt32.toNat_ofNat_of_lt' (by change _ < 2 ^ 32; omega)] at hnat
  exact absurd hnat (by simpa using hne)

/-- One level or all of them, written to the device and read back. -/
lemma gpioDeviceRead_of_gpioDeviceWrite (h : ctx.HoldsRequests requests) (hne : requests ≠ [])
    {k : ℕ} (hk : k = 1 ∨ k = requests.length) {succeeds : ℕ → Bool} {buffer : ℕ → UInt32}
    (hlevels : ∀ i < k, buffer i = gpioLevelLow ∨ buffer i = gpioLevelHigh) {w w₁ w₂ : Lines}
    {levels : List UInt32}
    (hwrite : ((lineCalls succeeds).gpioDeviceWrite ctx (some buffer) (k * gpioLevelSize)).run w =
      some (0, w₁))
    (hread : ((lineCalls succeeds).gpioDeviceRead ctx true (k * gpioLevelSize)).run w₁ =
      some ((0, levels), w₂)) : levels = (List.range k).map buffer := by
  obtain ⟨_, _, hwrite', hwritten, -⟩ := spec_gpioDeviceWrite_lines succeeds buffer h hne hk w
  rw [hwrite] at hwrite'
  cases hwrite'
  obtain ⟨_, _, _, hread', hshown, -⟩ := spec_gpioDeviceRead_lines succeeds h hne hk w₁
  rw [hread] at hread'
  cases hread'
  obtain ⟨-, -, hlength⟩ := h.transferred hne hk
  have hvalues := hwritten.values rfl
  rw [hlength, ← List.range_eq_range'] at hvalues
  calc levels
      = ((requests.take k).map w₁.active).map (shownLevel ctx.configuration) := by
        rw [hshown rfl, List.map_map]
        rfl
    _ = (List.range k).map fun i =>
          shownLevel ctx.configuration (drivenValue ctx.configuration (buffer i)) := by
        rw [hvalues, List.map_map]
        rfl
    _ = (List.range k).map buffer := by
        apply List.map_congr_left
        intro i hi
        exact shownLevel_drivenValue _ (hlevels i (List.mem_range.mp hi))

/-- A single level leaves the lines behind the first alone. -/
lemma active_of_gpioHalWrite (h : ctx.HoldsRequests requests) {succeeds : ℕ → Bool}
    {level : UInt32} {w w₁ : Lines} {code : ℤ}
    (hwrite : ((lineCalls succeeds).gpioHalWrite (some ctx) level).run w = some (code, w₁)) {i : ℕ}
    (hi : i < requests.length) (hpos : 1 ≤ i) : w₁.active requests[i] = w.active requests[i] := by
  rw [LineCalls.gpioHalWrite_eq] at hwrite
  obtain ⟨_, _, hwrite', hwritten, -⟩ := spec_gpioDeviceWrite_lines succeeds (fun _ => level) h
    (List.ne_nil_of_length_pos (by omega)) (.inl rfl) w
  rw [hwrite] at hwrite'
  cases hwrite'
  apply hwritten.others
  rw [List.mem_take_iff_getElem]
  rintro ⟨j, hj, hsame⟩
  have hindex := (h.distinct.getElem_inj_iff).mp hsame
  omega

/-- **The round trip** of levels, for every number of lines, every polarity and all outcomes.
Source: `hal/gpio/gpio-hal.c`, `plugins/gpio_linux/gpio-device.c` -/
theorem levelsRoundTrip (h : ctx.HoldsRequests requests) (hne : requests ≠ [])
    (succeeds : ℕ → Bool) : LevelsRoundTrip ctx requests succeeds := by
  obtain ⟨hcount, hsize⟩ := size_of_length h hne
  constructor
  · intro buffer hlevels w w₁ w₂ levels hwrite hread
    rw [LineCalls.gpioHalWriteMulti_of_ne_zero _ _ hcount, hsize] at hwrite
    rw [LineCalls.gpioHalReadMulti_of_ne_zero _ _ hcount, hsize] at hread
    exact gpioDeviceRead_of_gpioDeviceWrite h hne (.inr rfl) hlevels hwrite hread
  · intro level hlevel w w₁ w₂ levels hwrite hread
    rw [LineCalls.gpioHalWrite_eq] at hwrite
    rw [LineCalls.gpioHalRead_eq] at hread
    exact gpioDeviceRead_of_gpioDeviceWrite h hne (.inl rfl) (fun _ _ => hlevel) hwrite hread
  · intro level w code w₁ hwrite i hi hpos
    exact active_of_gpioHalWrite h hwrite hi hpos
  · intro hone buffer
    rw [hone]
    exact ⟨LineCalls.gpioHalWriteMulti_one _ _ _, LineCalls.gpioHalReadMulti_one _ _⟩
  · intro hall w buffer level
    rw [LineCalls.gpioHalWriteMulti_of_ne_zero _ _ hcount, hsize,
      LineCalls.gpioHalReadMulti_of_ne_zero _ _ hcount, hsize, LineCalls.gpioHalWrite_eq,
      LineCalls.gpioHalRead_eq]
    obtain ⟨_, w₁, hrun₁, -, hcode₁⟩ := spec_gpioDeviceWrite_lines succeeds buffer h hne
      (.inr rfl) w
    obtain ⟨_, levels₂, _, hrun₂, -, hcode₂⟩ := spec_gpioDeviceRead_lines succeeds h hne (.inr rfl) w
    obtain ⟨_, w₃, hrun₃, -, hcode₃⟩ := spec_gpioDeviceWrite_lines succeeds (fun _ => level) h hne
      (.inl rfl) w
    obtain ⟨_, levels₄, _, hrun₄, -, hcode₄⟩ := spec_gpioDeviceRead_lines succeeds h hne (.inl rfl) w
    obtain rfl := hcode₁ hall
    obtain rfl := hcode₂ hall
    obtain rfl := hcode₃ hall
    obtain rfl := hcode₄ hall
    exact ⟨⟨w₁, hrun₁⟩, ⟨levels₂, _, hrun₂⟩, ⟨w₃, hrun₃⟩, levels₄, _, hrun₄⟩

end

/-- The levels of two output lines. -/
theorem levelsRoundTrip_twoOutputs :
    ∃ ctx ledger requests, (gpioCalls .fortunate .zeroed
        [.control gpioCommandSetConfiguration (some twoOutputs)]).run (.empty _) =
          some (ctx, ledger) ∧
      requests.length = 2 ∧ LevelsRoundTrip ctx requests fun _ => true := by
  obtain ⟨ctx, ledger, requests, hrun, hrequests, htwo, -⟩ := exists_twoOutputs
  refine ⟨ctx, ledger, requests, hrun, htwo, levelsRoundTrip hrequests ?_ _⟩
  exact List.ne_nil_of_length_pos (by omega)

/-! ## Counts -/

/-- Whatever libgpiod does, a transfer of `count` levels that returns 0 has moved as many, which is
one or one for each line. -/
structure TransfersExact (ctx : GpioDeviceContext) (requests : List LineRequest)
    (count : UInt32) : Prop where
  reads : ∀ succeeds w levels w',
    ((lineCalls succeeds).gpioHalReadMulti (some ctx) true count).run w =
      some ((0, levels), w') →
    levels.length = count.toNat ∧ (count.toNat = 1 ∨ count.toNat = requests.length)
  writes : ∀ succeeds buffer w w',
    ((lineCalls succeeds).gpioHalWriteMulti (some ctx) (some buffer) count).run w = some (0, w') →
    (∃ lines, w'.written = w.written ++ lines ∧ lines.length = count.toNat) ∧
      (count.toNat = 1 ∨ count.toNat = requests.length)

section

variable {ctx : GpioDeviceContext} {requests : List LineRequest} {count : UInt32}

/-- What is left of a count in 30 bits is not zero, when it is the size of a transfer. -/
lemma count_ne_zero (hne : requests ≠ [])
    (hk : count.toNat % 2 ^ 30 = 1 ∨ count.toNat % 2 ^ 30 = requests.length) : count ≠ 0 := by
  rintro rfl
  have hpos := List.length_pos_of_ne_nil hne
  simp only [UInt32.toNat_zero, Nat.zero_mod] at hk
  omega

/-- A read moves as many levels as are left of the count in 30 bits. -/
lemma length_of_gpioHalReadMulti (h : ctx.HoldsRequests requests) (hne : requests ≠ [])
    (hk : count.toNat % 2 ^ 30 = 1 ∨ count.toNat % 2 ^ 30 = requests.length)
    (succeeds : ℕ → Bool) (w : Lines) :
    ∃ code levels w', ((lineCalls succeeds).gpioHalReadMulti (some ctx) true count).run w =
        some ((code, levels), w') ∧
      (code = 0 → levels.length = count.toNat % 2 ^ 30) ∧
      ((∀ j, succeeds j = true) → code = 0) := by
  obtain ⟨-, -, hlength⟩ := h.transferred hne hk
  obtain ⟨code, levels, calls, hrun, hlevels, hcode⟩ :=
    spec_gpioDeviceRead_lines succeeds h hne hk w
  refine ⟨code, levels, { w with calls := calls }, ?_, fun hzero => ?_, hcode⟩
  · rw [LineCalls.gpioHalReadMulti_of_ne_zero _ _ (count_ne_zero hne hk), transferSize_eq]
    exact hrun
  · rw [hlevels hzero, List.length_map, hlength]

/-- A write that succeeds has moved as many levels as are left of the count in 30 bits. -/
lemma length_of_gpioHalWriteMulti (h : ctx.HoldsRequests requests) (hne : requests ≠ [])
    (hk : count.toNat % 2 ^ 30 = 1 ∨ count.toNat % 2 ^ 30 = requests.length)
    {succeeds : ℕ → Bool} {buffer : ℕ → UInt32} {w w' : Lines}
    (hrun : ((lineCalls succeeds).gpioHalWriteMulti (some ctx) (some buffer) count).run w =
      some (0, w')) :
    ∃ lines, w'.written = w.written ++ lines ∧ lines.length = count.toNat % 2 ^ 30 := by
  obtain ⟨-, -, hlength⟩ := h.transferred hne hk
  obtain ⟨_, _, hrun', hwritten, -⟩ := spec_gpioDeviceWrite_lines succeeds buffer h hne hk w
  rw [LineCalls.gpioHalWriteMulti_of_ne_zero _ _ (count_ne_zero hne hk), transferSize_eq,
    hrun'] at hrun
  cases hrun
  exact ⟨_, hwritten.written rfl, hlength⟩

/-- A count of which nothing is left that is the size of a transfer is refused. -/
lemma refused_of_count (h : ctx.HoldsRequests requests)
    (hk : ¬ (requests ≠ [] ∧
      (count.toNat % 2 ^ 30 = 1 ∨ count.toNat % 2 ^ 30 = requests.length)))
    {m : Type → Type} [Monad m] (c : LineCalls m) (buffer : ℕ → UInt32) :
    c.gpioHalReadMulti (some ctx) true count = pure (-1, []) ∧
      c.gpioHalWriteMulti (some ctx) (some buffer) count = pure (-1) := by
  by_cases hzero : count = 0
  · exact ⟨if_pos (.inr hzero), if_pos (.inr hzero)⟩
  · have hcount := h.linesCount
    have hsize : ctx.linesCount = 0 ∨ transferSize count ≠ gpioLevelSize ∧
        transferSize count ≠ ctx.linesCount * gpioLevelSize := by
      rw [transferSize_eq, hcount]
      unfold gpioLevelSize
      rcases requests with _ | ⟨r, rs⟩
      · exact .inl rfl
      · simp only [ne_eq, reduceCtorEq, not_false_eq_true, true_and, not_or] at hk
        omega
    rw [c.gpioHalReadMulti_of_ne_zero _ hzero, c.gpioHalWriteMulti_of_ne_zero _ hzero]
    exact ⟨c.gpioDeviceRead_of_other_size _ hsize, c.gpioDeviceWrite_of_other_size _ hsize⟩

/-- **Counts.** Transfers are exact iff there is no line, the count is below `2 ^ 30`, or what is
left of it in 30 bits is neither one nor the number of lines.
Source: `hal/gpio/gpio-hal.c`, `gpio_hal_read_multi`, `gpio_hal_write_multi` -/
theorem transfersExact_iff (h : ctx.HoldsRequests requests) (count : UInt32) :
    TransfersExact ctx requests count ↔ requests = [] ∨ count.toNat < 2 ^ 30 ∨
      count.toNat % 2 ^ 30 ≠ 1 ∧ count.toNat % 2 ^ 30 ≠ requests.length := by
  by_cases hk : requests ≠ [] ∧
      (count.toNat % 2 ^ 30 = 1 ∨ count.toNat % 2 ^ 30 = requests.length)
  · obtain ⟨hne, hk⟩ := hk
    constructor
    · intro hexact
      obtain ⟨code, levels, w', hrun, hlength, hcode⟩ :=
        length_of_gpioHalReadMulti h hne hk (fun _ => true) ⟨0, fun _ => false, []⟩
      obtain rfl := hcode fun _ => rfl
      have hmoved := (hexact.reads _ _ _ _ hrun).1
      rw [hlength rfl] at hmoved
      exact .inr (.inl (hmoved ▸ Nat.mod_lt _ (by decide)))
    · intro hcount
      have hsmall : count.toNat < 2 ^ 30 := by
        rcases hcount with hnone | hsmall | hother
        · exact absurd hnone hne
        · exact hsmall
        · exact absurd hk (not_or.mpr hother)
      have hsame := Nat.mod_eq_of_lt hsmall
      constructor
      · intro succeeds w levels w' hrun
        obtain ⟨_, _, _, hrun', hlength, -⟩ := length_of_gpioHalReadMulti h hne hk succeeds w
        rw [hrun] at hrun'
        cases hrun'
        exact ⟨(hlength rfl).trans hsame, hsame ▸ hk⟩
      · intro succeeds buffer w w' hrun
        obtain ⟨lines, hwritten, hlength⟩ := length_of_gpioHalWriteMulti h hne hk hrun
        exact ⟨⟨lines, hwritten, hlength.trans hsame⟩, hsame ▸ hk⟩
  · refine iff_of_true ⟨?_, ?_⟩ ?_
    · intro succeeds w levels w' hrun
      rw [(refused_of_count h hk _ fun _ => 0).1] at hrun
      cases hrun
    · intro succeeds buffer w w' hrun
      rw [(refused_of_count h hk _ buffer).2] at hrun
      cases hrun
    · tauto

/-- Two levels on two lines. -/
theorem transfersExact_twoOutputs :
    ∃ ctx ledger requests, (gpioCalls .fortunate .zeroed
        [.control gpioCommandSetConfiguration (some twoOutputs)]).run (.empty _) =
          some (ctx, ledger) ∧
      requests.length = 2 ∧ TransfersExact ctx requests 2 := by
  obtain ⟨ctx, ledger, requests, hrun, hrequests, htwo, -⟩ := exists_twoOutputs
  exact ⟨ctx, ledger, requests, hrun, htwo,
    (transfersExact_iff hrequests 2).mpr (.inr (.inl (by decide)))⟩

/-- A read of `2 ^ 30 + 1` levels on two lines returns 0 and has stored one. -/
theorem manyLevels_inexact :
    ∃ ctx ledger requests, (gpioCalls .fortunate .zeroed
        [.control gpioCommandSetConfiguration (some twoOutputs)]).run (.empty _) =
          some (ctx, ledger) ∧
      requests.length = 2 ∧ ¬ TransfersExact ctx requests 1073741825 := by
  obtain ⟨ctx, ledger, requests, hrun, hrequests, htwo, -⟩ := exists_twoOutputs
  refine ⟨ctx, ledger, requests, hrun, htwo, fun hexact => ?_⟩
  obtain ⟨code, levels, w', hread, hlength, hcode⟩ := length_of_gpioHalReadMulti hrequests
    (List.ne_nil_of_length_pos (by omega))
    (show (1073741825 : UInt32).toNat % 2 ^ 30 = 1 ∨ _ from .inl (by decide))
    (fun _ => true) ⟨0, fun _ => false, []⟩
  obtain rfl := hcode fun _ => rfl
  have hmoved := (hexact.reads _ _ _ _ hread).1
  rw [hlength rfl] at hmoved
  exact absurd hmoved (by decide)

end

end HardwareTest
