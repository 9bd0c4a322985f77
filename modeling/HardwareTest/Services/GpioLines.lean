import HardwareTest.Services.GpioRoundTrip

/-!
# The lines of a decoded gpio object

What `validation_runtime_open_gpio` decodes from the parameters that `get_gpio` has written of an
object, up to the polarity: the lines, their chips and their directions come back for every number
of lines (`hasLines_decodeGpio`), also where the last polarity is lost (`gpioRoundTrip_iff`).
-/

namespace HardwareTest

open Lib

/-- The configuration has the lines of the object, up to their polarity. -/
structure GpioConfiguration.HasLines (c : GpioConfiguration) (a : GpioArrays) (n : ℕ) : Prop where
  linesCount : c.linesCount = n
  lines : c.lines.toList.take n = a.lines.map Int32.toUInt32
  linesChip : (c.linesChip.toList.take n).map CharBuf.chars = a.linesChip
  directionsCount : c.directionsCount = n
  directions : c.directions.toList.take n = a.directions.map Int32.toUInt32

/-- **Writing and reading the parameters** keeps the lines of an object. -/
theorem hasLines_decodeGpio {a : GpioArrays} {config : CJson} {n : ℕ}
    (h : a.DescribedBy config n) (hn : 1 ≤ n) (hmax : n ≤ gpioMaxLines) {bindingCount : ℕ}
    (hcount : bindingCount < maxBindings) (binding : DeviceBinding) :
    (decodeGpio (getGpio config bindingCount binding).2.configuration.items .zeroed).HasLines
      a n := by
  have hmax' : n ≤ 8 := hmax
  have hlen := h.activeLowLength
  have hlines : (a.lines.map Int32.toUInt32).length = n := by rw [List.length_map, h.linesLength]
  have hdirections : (a.directions.map Int32.toUInt32).length = n := by
    rw [List.length_map, h.directionsLength]
  have hpos : 1 ≤ (a.activeLow.take (31 - 3 * n)).length := by
    rw [List.length_take]
    omega
  have hfit : (a.activeLow.take (31 - 3 * n)).length ≤ gpioMaxLines := by
    rw [List.length_take]
    omega
  obtain ⟨c, hc, hlinesCount, hread, hchips, hdirs, -⟩ := decode_lists a.chip hn hmax hlines
    h.linesChipLength hdirections hpos hfit h.linesChipNames
  have hcollected := collected_lists a.chip (hlines ▸ hmax) (h.linesChipLength ▸ hmax)
    (hdirections ▸ hmax) hfit
  have hdecode : decodeGpio (getGpio config bindingCount binding).2.configuration.items .zeroed =
      c := by
    rw [getGpio, if_neg (by omega)]
    simp only
    unfold decodeGpio
    rw [← hc, ← take_settings h hmax, ← settings_gpioParameters h binding.configuration]
    rfl
  rw [hdecode]
  refine ⟨hlinesCount, hread, hchips, ?_, hdirs⟩
  rw [← hc, applyDefaults_eq_of_pos (by rw [hcollected.linesCount, hlines]; omega)]
  simp only [hcollected.directionsCount, hdirections]
  rw [if_neg (by omega)]

end HardwareTest
