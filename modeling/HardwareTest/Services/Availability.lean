import HardwareTest.Services.Atomicity

/-!
# Asking for a function and acquiring it

`resource_manager_is_available` and `resource_manager_acquire` repeat the same lookups, and the
scheduler asks the one before the worker calls the other.

* For a function that the function manager reports available both come down to the checking pass,
  whatever the two tables hold (`isAvailable_eq_devicesFree`, `acquire_returns_zero_iff`).
* For any other function the query says no and `acquire` returns `false`, which is 0
  (`queryAgrees_iff`).
-/

namespace HardwareTest

open Lib

variable {ι : Type*} {m : ResourceManager ι} {functionName : CString}

/-- `acquire` returns 0 in this state. -/
def AcquireSucceeds (m : ResourceManager ι) (functionName : CString) (inst : ι) : Prop :=
  ∃ m', resourceManagerAcquire m functionName inst = some (0, m')

/-- **The query agrees with the acquisition.** -/
def QueryAgrees (m : ResourceManager ι) (functionName : CString) (inst : ι) : Prop :=
  resourceManagerIsAvailable m functionName = true ↔ AcquireSucceeds m functionName inst

/-- An available function has a device count, since both lookups find the same entry. -/
lemma FunctionManager.getDeviceCount_of_isAvailable {fm : FunctionManager}
    (h : fm.isAvailable functionName = true) : ∃ n, fm.getDeviceCount functionName = some n := by
  unfold FunctionManager.isAvailable at h
  unfold FunctionManager.getDeviceCount
  rcases hfind : fm.find functionName with _ | entry
  · rw [hfind] at h
    cases h
  · exact ⟨_, rfl⟩

/-- The query for an available function is the checking pass. -/
lemma isAvailable_eq_devicesFree (h : m.functionManager.isAvailable functionName = true) {n : ℕ}
    (hn : m.functionManager.getDeviceCount functionName = some n) :
    resourceManagerIsAvailable m functionName = devicesFree m functionName n := by
  unfold resourceManagerIsAvailable
  rw [h, hn]
  rfl

/-- `acquire` for an available function returns 0 exactly when the checking pass succeeds: the
marking pass behind it cannot fail. -/
lemma acquire_returns_zero_iff (h : m.functionManager.isAvailable functionName = true) {n : ℕ}
    (hn : m.functionManager.getDeviceCount functionName = some n) (inst : ι) :
    AcquireSucceeds m functionName inst ↔ devicesFree m functionName n = true := by
  have hacquire : resourceManagerAcquire m functionName inst =
      if devicesFree m functionName n then
        (markAllBusy m functionName n inst).map fun m' => (0, m')
      else some (-1, m) := by
    unfold resourceManagerAcquire
    rw [h, hn]
    rfl
  unfold AcquireSucceeds
  rw [hacquire]
  constructor
  · rintro ⟨m', hm'⟩
    by_contra hbusy
    rw [if_neg hbusy] at hm'
    cases hm'
  · intro hfree
    refine ⟨m.markEntries (m.scanned functionName n) inst, ?_⟩
    rw [if_pos hfree, markAllBusy_of_devicesFree hfree]
    rfl

/-- `acquire` for a function that is not available returns 0. -/
lemma acquire_of_not_available (h : m.functionManager.isAvailable functionName = false) (inst : ι) :
    AcquireSucceeds m functionName inst := by
  refine ⟨m, ?_⟩
  unfold resourceManagerAcquire
  rw [if_pos h]

/-- **Query and acquisition agree** on every resource table and every function table exactly for
the functions that the function manager reports available.
Source: `services/resource-manager.c`, `resource_manager_is_available`,
`resource_manager_acquire` -/
theorem queryAgrees_iff (m : ResourceManager ι) (functionName : CString) (inst : ι) :
    QueryAgrees m functionName inst ↔ m.functionManager.isAvailable functionName = true := by
  unfold QueryAgrees
  rcases h : m.functionManager.isAvailable functionName with _ | _
  · have hquery : resourceManagerIsAvailable m functionName = false := by
      unfold resourceManagerIsAvailable
      rw [if_pos h]
    simp [hquery, acquire_of_not_available h inst]
  · obtain ⟨n, hn⟩ := FunctionManager.getDeviceCount_of_isAvailable h
    rw [isAvailable_eq_devicesFree h hn, acquire_returns_zero_iff h hn inst]
    simp

/-- The query knows no function of this name, and `acquire` returns 0 for it. -/
theorem unknownFunction_acquired :
    ¬ QueryAgrees pinTable (cstr "no_such_function") (1 : ℕ) := by
  rintro ⟨-, hacquired⟩
  have hquery := hacquired ⟨pinTable, rfl⟩
  cases hquery

end HardwareTest
