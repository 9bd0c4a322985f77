import HardwareTest.Services.RuntimeManager
import HardwareTest.Services.TestManager
import HardwareTest.Lib.Transition

/-!
# Starting the device manager again: `services/dm.c`

`device_manager_init` keeps a static flag beside the manager that it returns: the first success
sets it, and no code resets it.

* `deviceManagerStep`: calls of `device_manager_init` and `device_manager_deinit`, with at most one
  manager live.
* `startsAfresh_iff`: every call that can succeed does what a first call would iff there is at most
  one such call.
-/

namespace HardwareTest

open Lib

/-! ## The process -/

/-- The static flag `init` and the manager that is live. Source: `services/dm.c`,
`device_manager_init` -/
structure DeviceManagerProcess where
  init : Bool
  live : Option DeviceManager

/-- The process before the first call. -/
def DeviceManagerProcess.fresh : DeviceManagerProcess := ⟨false, none⟩

/-- A call. -/
inductive DeviceManagerCall
  /-- `block` is what `malloc` returns. -/
  | init (block : Option DeviceManager) (cfgMan : ConfigManager)
  /-- With the live manager, or with NULL. -/
  | deinit

/-- A call of the process. `device_manager_init` is not called while a manager is live; `none` is
also a store outside the table. Source: `services/dm.c`, `device_manager_init`,
`device_manager_deinit` -/
def deviceManagerStep (s : DeviceManagerProcess) : DeviceManagerCall → Option DeviceManagerProcess
  | .init block cfgMan =>
      if s.live.isSome then none
      else (deviceManagerInit s.init block cfgMan).map fun r => ⟨r.2, r.1⟩
  | .deinit => some { s with live := none }

/-- Nothing hinders the call: the configuration has bindings and the allocation succeeds. -/
def DeviceManagerCall.canStart : DeviceManagerCall → Bool
  | .init block cfgMan => block.isSome && decide (cfgMan.getPlatformDeviceCount ≠ 0)
  | .deinit => false

/-- **A start without memory**: the call returns a manager, and it is the one that a first call
returns over the same block. -/
def StartsAfresh (s : DeviceManagerProcess) : DeviceManagerCall → Prop
  | .init block cfgMan =>
      (DeviceManagerCall.init block cfgMan).canStart = true →
        ∃ dm flag, deviceManagerInit s.init block cfgMan = some (some dm, flag) ∧
          deviceManagerInit DeviceManagerProcess.fresh.init block cfgMan = some (some dm, flag)
  | .deinit => True

/-! ## One call -/

/-- A first call that can succeed makes a manager. -/
lemma exists_of_canStart {block : Option DeviceManager} {cfgMan : ConfigManager}
    {r : Option DeviceManager × Bool}
    (hstart : (DeviceManagerCall.init block cfgMan).canStart = true)
    (h : deviceManagerInit false block cfgMan = some r) : ∃ dm, r = (some dm, true) := by
  rcases block with _ | dm₀
  · cases hstart
  · have hbindings : cfgMan.getPlatformDeviceCount ≠ 0 := by
      simpa [DeviceManagerCall.canStart] using hstart
    unfold deviceManagerInit at h
    simp only [Bool.false_eq_true, if_false] at h
    rw [prepareDeviceInfo_eq dm₀ hbindings, Option.map_map, Option.map_eq_some_iff] at h
    obtain ⟨st, -, rfl⟩ := h
    exact ⟨_, rfl⟩

/-- A call that cannot succeed makes no manager. -/
lemma eq_none_of_not_canStart {init flag : Bool} {block made : Option DeviceManager}
    {cfgMan : ConfigManager} (hstart : (DeviceManagerCall.init block cfgMan).canStart = false)
    (h : deviceManagerInit init block cfgMan = some (made, flag)) : made = none := by
  unfold deviceManagerInit at h
  split_ifs at h with hinit
  · cases h
    rfl
  · rcases block with _ | dm₀
    · cases h
      rfl
    · have hbindings : cfgMan.getPlatformDeviceCount = 0 := by
        simpa [DeviceManagerCall.canStart] using hstart
      simp only [prepareDeviceInfo, if_pos hbindings, Option.map_some] at h
      cases h
      rfl

/-- **One call**: it starts afresh iff it cannot succeed or the flag is not set, and it sets the
flag iff it can succeed. -/
lemma startsAfresh_step {s t : DeviceManagerProcess} {call : DeviceManagerCall}
    (h : deviceManagerStep s call = some t) :
    (StartsAfresh s call ↔ (call.canStart = true → s.init = false)) ∧
      t.init = (s.init || call.canStart) := by
  rcases call with ⟨block, cfgMan⟩ | _
  · unfold deviceManagerStep at h
    simp only at h
    split_ifs at h
    obtain ⟨⟨made, flag⟩, hinit, rfl⟩ := Option.map_eq_some_iff.mp h
    have hrule := flagRule_deviceManagerInit hinit
    rcases hstart : (DeviceManagerCall.init block cfgMan).canStart with _ | _
    · obtain rfl := eq_none_of_not_canStart hstart hinit
      refine ⟨iff_of_true (fun hcan => ?_) nofun, by simpa using hrule.flag_eq⟩
      rw [hstart] at hcan
      cases hcan
    · rcases hset : s.init with _ | _
      · rw [hset] at hinit
        obtain ⟨dm, hmade⟩ := exists_of_canStart hstart hinit
        cases hmade
        refine ⟨iff_of_true (fun _ => ⟨dm, true, ?_, hinit⟩) fun _ => rfl, rfl⟩
        rw [hset]
        exact hinit
      · have hnone := hrule.once hset
        refine ⟨iff_of_false (fun hafresh => ?_) (by simp), by simpa [hset] using hrule.flag_eq⟩
        obtain ⟨dm, flag', hdm, -⟩ := hafresh hstart
        rw [hdm] at hinit
        cases hinit
        cases hnone
  · cases h
    exact ⟨iff_of_true trivial nofun, by simp [DeviceManagerCall.canStart]⟩

/-! ## Sequences of calls -/

/-- The calls of a run that can succeed. -/
def startCount (tr : List (DeviceManagerProcess × DeviceManagerCall)) : ℕ :=
  tr.countP fun p => p.2.canStart

/-- One more call. -/
lemma startCount_append (tr : List (DeviceManagerProcess × DeviceManagerCall))
    (s : DeviceManagerProcess) (call : DeviceManagerCall) :
    startCount (tr ++ [(s, call)]) = startCount tr + if call.canStart then 1 else 0 := by
  unfold startCount
  rw [List.countP_append, List.countP_singleton]

section runs

variable {tr : List (DeviceManagerProcess × DeviceManagerCall)} {t : DeviceManagerProcess}

/-- The flag remembers every call that could succeed. -/
lemma init_eq_false_iff (hrun : Run (stepOf deviceManagerStep) .fresh tr t) :
    t.init = false ↔ startCount tr = 0 := by
  induction hrun with
  | start => exact iff_of_true rfl rfl
  | next hrun hstep ih =>
      rw [(startsAfresh_step hstep).2, Bool.or_eq_false_iff, ih, startCount_append]
      split_ifs with hstart
      · simp [hstart]
      · simp [hstart]

/-- **Start-up has no memory exactly** when at most one call of the sequence is made on a
configuration with bindings and with an allocation that succeeds. Source: `services/dm.c`,
`device_manager_init`, `device_manager_deinit` -/
theorem startsAfresh_iff (hrun : Run (stepOf deviceManagerStep) .fresh tr t) :
    (∀ p ∈ tr, StartsAfresh p.1 p.2) ↔ startCount tr ≤ 1 := by
  induction hrun with
  | start => exact iff_of_true (by simp) (by simp [startCount])
  | @next tr t call u hrun hstep ih =>
      have hall : (∀ p ∈ tr ++ [(t, call)], StartsAfresh p.1 p.2) ↔
          (∀ p ∈ tr, StartsAfresh p.1 p.2) ∧ StartsAfresh t call := by
        simp [or_imp, forall_and]
      rw [hall, ih, (startsAfresh_step hstep).1, init_eq_false_iff hrun, startCount_append]
      split_ifs with hstart
      · simp only [hstart, forall_const]
        omega
      · simp [hstart]

end runs

/-- One start on the one-LED platform, after a failed allocation and before the end. -/
theorem startsAfresh_oneStart :
    ∃ tr t, Run (stepOf deviceManagerStep) .fresh tr t ∧ startCount tr = 1 ∧
      ∀ p ∈ tr, StartsAfresh p.1 p.2 := by
  have hrun : Run (stepOf deviceManagerStep) .fresh _ _ :=
    run_of_exec [.init none ledConfig, .init (some ledDevices) ledConfig, .deinit] rfl
  exact ⟨_, _, hrun, rfl, (startsAfresh_iff hrun).mpr (Nat.le_refl 1)⟩

/-- After a start and an end the second start returns NULL. -/
theorem secondStart_returns_null :
    ∃ tr t, Run (stepOf deviceManagerStep) .fresh tr t ∧ t.live.isSome = false ∧
      ¬ ∀ p ∈ tr, StartsAfresh p.1 p.2 := by
  have hrun : Run (stepOf deviceManagerStep) .fresh _ _ :=
    run_of_exec [.init (some ledDevices) ledConfig, .deinit, .init (some ledDevices) ledConfig] rfl
  refine ⟨_, _, hrun, rfl, fun hall => ?_⟩
  obtain ⟨dm, flag, hdm, -⟩ := hall (⟨true, none⟩, .init (some ledDevices) ledConfig)
    (List.mem_of_getElem? (i := 2) rfl) rfl
  cases hdm

end HardwareTest
