import HardwareTest.Services.ResourceManager

/-!
# Ownership over sequences of calls

* `ResourceCall`, `resourceCalls`: any sequence of `register`, `acquire` and `release` calls, with
  the codes they return.
* `resourceCall_spec`: one call is the abstract `Holdings.after` of the slots (`absCall`).
* `ownership_persists`: between an `acquire` and the matching `release` nobody else gets at the
  devices, and the `release` gives back exactly them.
-/

namespace HardwareTest

set_option linter.unusedSectionVars false

open Lib

variable {ι : Type*}

/-- A call on the resource table. -/
inductive ResourceCall (ι : Type*)
  | register (name : CString)
  | acquire (functionName : CString) (inst : ι)
  | release (functionName : CString) (inst : ι)

/-- The instance that makes the call, if one does. -/
def ResourceCall.caller : ResourceCall ι → Option ι
  | .register _ => none
  | .acquire _ inst => some inst
  | .release _ inst => some inst

/-- A FREE entry has a NULL owner. Source: `services/resource-manager.h`, `resource_info_t` -/
def ResourceInfo.FreeUnowned (r : ResourceInfo ι) : Prop := r.state = .free → r.owner = none

/-- Every FREE entry of the table has a NULL owner. -/
def ResourceManager.FreeUnowned (m : ResourceManager ι) : Prop := ∀ r ∈ m.resources, r.FreeUnowned

/-- A table the calls are made on: the function table is one `prepare_function_info` builds,
something is registered, and FREE entries have a NULL owner. -/
structure ResourceManager.WellFormed (m : ResourceManager ι) : Prop where
  functions : m.functionManager.AllAvailable
  nonempty : 0 < m.resources.length
  freeUnowned : m.FreeUnowned

variable [DecidableEq ι]

/-- Make one call. -/
def resourceCall (m : ResourceManager ι) : ResourceCall ι → Option (ℤ × ResourceManager ι)
  | .register name => some (resourceManagerRegister m name)
  | .acquire functionName inst => resourceManagerAcquire m functionName inst
  | .release functionName inst => some (resourceManagerRelease m functionName inst)

/-- Make the calls one after the other; the codes they return, and the table they leave. -/
def resourceCalls (m : ResourceManager ι) : List (ResourceCall ι) →
    Option (List ℤ × ResourceManager ι)
  | [] => some ([], m)
  | c :: calls =>
      (resourceCall m c).bind fun r => (resourceCalls r.2 calls).map fun rs => (r.1 :: rs.1, rs.2)

/-! ## What the passes keep -/

/-- What every marking of an entry keeps, the marking pass keeps. -/
lemma markAllBusy_invariant {P : ResourceManager ι → Prop} {inst : ι}
    (keep : ∀ m i, P m → P (m.modifyAt i (.markBusy inst))) {m m' : ResourceManager ι}
    {functionName : CString} {n : ℕ} (h : P m) (hm' : markAllBusy m functionName n inst = some m') :
    P m' := by
  -- carried through the loop over the devices, and inside it through the loop over the resources
  refine FixedTable.foldlM_invariant ?_ h hm'
  intro m₁ deviceIndex m₂ h₁ hm₂
  cases hd : m.functionManager.getDeviceByIndex functionName deviceIndex with
  | none =>
      rw [hd] at hm₂
      cases hm₂
      exact h₁
  | some d =>
      rw [hd] at hm₂
      refine FixedTable.foldlM_invariant ?_ h₁ hm₂
      intro m₃ _ m₄ h₃ hm₄
      unfold markBusy at hm₄
      rw [Option.map_eq_some_iff] at hm₄
      obtain ⟨i, -, rfl⟩ := hm₄
      exact keep m₃ i h₃

/-- What every freeing of an entry keeps, the freeing pass keeps. -/
lemma freeAllOwned_invariant {P : ResourceManager ι → Prop} {inst : ι}
    (keep : ∀ m i, P m → P (m.modifyAt i (.freeOwned inst))) {m : ResourceManager ι}
    (functionName : CString) (n : ℕ) (h : P m) : P (freeAllOwned m functionName n inst) := by
  have hdevice : ∀ m₁ (d : CString), P m₁ → P (freeOwned inst m₁ d) := by
    intro m₁ d h₁
    unfold freeOwned
    cases resourceManagerFind m₁.resources d with
    | none => exact h₁
    | some i => exact keep m₁ i h₁
  unfold freeAllOwned
  refine List.foldlRecOn _ _ h fun m₁ h₁ deviceIndex _ => ?_
  cases m.functionManager.getDeviceByIndex functionName deviceIndex with
  | none => exact h₁
  | some d => exact List.foldlRecOn _ _ h₁ fun m₂ h₂ _ _ => hdevice m₂ d.chars h₂

/-- What every marking keeps, an acquire keeps. -/
lemma resourceManagerAcquire_invariant {P : ResourceManager ι → Prop} {inst : ι}
    (keep : ∀ m i, P m → P (m.modifyAt i (.markBusy inst))) {m m' : ResourceManager ι}
    {functionName : CString} {code : ℤ} (h : P m)
    (hm' : resourceManagerAcquire m functionName inst = some (code, m')) : P m' := by
  unfold resourceManagerAcquire at hm'
  split_ifs at hm' with hf
  · cases hm'
    exact h
  · cases hn : m.functionManager.getDeviceCount functionName with
    | none =>
        rw [hn] at hm'
        cases hm'
        exact h
    | some n =>
        simp only [hn] at hm'
        split_ifs at hm' with hfree
        · rw [Option.map_eq_some_iff] at hm'
          obtain ⟨m₁, hm₁, heq⟩ := hm'
          cases heq
          exact markAllBusy_invariant keep h hm₁
        · cases hm'
          exact h

/-- What every freeing keeps, a release keeps. -/
lemma resourceManagerRelease_invariant {P : ResourceManager ι → Prop} {inst : ι}
    (keep : ∀ m i, P m → P (m.modifyAt i (.freeOwned inst))) {m : ResourceManager ι}
    (functionName : CString) (h : P m) : P (resourceManagerRelease m functionName inst).2 := by
  unfold resourceManagerRelease
  split_ifs with hf
  · exact h
  · cases m.functionManager.getDeviceCount functionName with
    | none => exact h
    | some n => exact freeAllOwned_invariant keep functionName n h

/-- Marking an entry leaves no FREE entry with an owner. -/
lemma ResourceInfo.freeUnowned_markBusy (inst : ι) (r : ResourceInfo ι) :
    (r.markBusy inst).FreeUnowned := by
  intro hfree
  cases hfree

/-- Freeing an entry leaves no FREE entry with an owner. -/
lemma ResourceInfo.freeUnowned_freeOwned {r : ResourceInfo ι} (inst : ι) (h : r.FreeUnowned) :
    (r.freeOwned inst).FreeUnowned := by
  unfold ResourceInfo.freeOwned
  split_ifs
  · intro _
    rfl
  · exact h

omit [DecidableEq ι] in
/-- Rewriting an entry keeps what holds of all entries when the rewriting does. -/
lemma ResourceManager.forall_modifyAt {P : ResourceInfo ι → Prop} {m : ResourceManager ι}
    (h : ∀ r ∈ m.resources, P r) (i : ℕ) {f : ResourceInfo ι → ResourceInfo ι}
    (hf : ∀ r, P r → P (f r)) : ∀ r ∈ (m.modifyAt i f).resources, P r := by
  intro r hr
  obtain ⟨j, hj, rfl⟩ := List.mem_iff_getElem.mp hr
  simp only [ResourceManager.modifyAt, List.getElem_modify]
  split_ifs
  · exact hf _ (h _ (List.getElem_mem _))
  · exact h _ (List.getElem_mem _)

/-- Rewriting an entry keeps FREE entries without owner when the rewriting does. -/
lemma ResourceManager.FreeUnowned.modifyAt {m : ResourceManager ι} (h : m.FreeUnowned) (i : ℕ)
    {f : ResourceInfo ι → ResourceInfo ι} (hf : ∀ r, r.FreeUnowned → (f r).FreeUnowned) :
    (m.modifyAt i f).FreeUnowned := ResourceManager.forall_modifyAt h i hf

/-- A registration leaves no FREE entry with an owner. -/
lemma ResourceManager.FreeUnowned.register {m : ResourceManager ι} (h : m.FreeUnowned)
    (name : CString) : (resourceManagerRegister m name).2.FreeUnowned := by
  unfold resourceManagerRegister
  split_ifs
  · exact h
  · exact h
  · intro r hr hfree
    rw [List.mem_append, List.mem_singleton] at hr
    rcases hr with hr | rfl
    · exact h r hr hfree
    · rfl

/-- An acquire leaves no FREE entry with an owner. -/
lemma ResourceManager.FreeUnowned.acquire {m m' : ResourceManager ι} (h : m.FreeUnowned)
    {functionName : CString} {inst : ι} {code : ℤ}
    (hm' : resourceManagerAcquire m functionName inst = some (code, m')) : m'.FreeUnowned :=
  resourceManagerAcquire_invariant (P := ResourceManager.FreeUnowned)
    (fun _ i h₁ => h₁.modifyAt i fun r _ => r.freeUnowned_markBusy inst) h hm'

/-- A release leaves no FREE entry with an owner. -/
lemma ResourceManager.FreeUnowned.release {m : ResourceManager ι} (h : m.FreeUnowned)
    (functionName : CString) (inst : ι) :
    (resourceManagerRelease m functionName inst).2.FreeUnowned :=
  resourceManagerRelease_invariant (P := ResourceManager.FreeUnowned)
    (fun _ i h₁ => h₁.modifyAt i fun _ => ResourceInfo.freeUnowned_freeOwned inst) functionName h

/-- A release changes no entry that another instance owns. -/
lemma resourceManagerRelease_getElem? (m : ResourceManager ι) (functionName : CString) (inst : ι)
    {i : ℕ} {r : ResourceInfo ι} (hr : m.resources[i]? = some r) (howner : r.owner ≠ some inst) :
    (resourceManagerRelease m functionName inst).2.resources[i]? = some r := by
  refine resourceManagerRelease_invariant (P := fun m => m.resources[i]? = some r) ?_ functionName hr
  intro m₁ j h₁
  unfold ResourceManager.modifyAt
  rw [List.getElem?_modify, h₁]
  by_cases hj : j = i
  · simp [hj, ResourceInfo.freeOwned, howner]
  · simp [hj]

/-! ## One call -/

/-- The abstract call: what it adds, takes or drops among the device names. -/
def absCall (m : ResourceManager ι) : ResourceCall ι → Call CString (Option ι)
  | .register name => .add (addedName m name)
  | .acquire functionName inst => .take (m.functionManager.deviceKeys functionName) (some inst)
  | .release functionName inst => .drop (m.functionManager.deviceKeys functionName) (some inst)

/-- The abstract call is made by the same instance. -/
lemma absCall_owner (m : ResourceManager ι) (c : ResourceCall ι) :
    (absCall m c).owner = c.caller.map some := by
  cases c <;> rfl

/-- What one call does: it stays inside the table, keeps its shape and the function table, and is
the abstract call on the slots. -/
structure CallSpec (m : ResourceManager ι) (c : ResourceCall ι) (code : ℤ)
    (m' : ResourceManager ι) : Prop where
  wellFormed : m'.WellFormed
  functionManager : m'.functionManager = m.functionManager
  slots : slot m' = (slot m).after (absCall m c)
  refused : ∀ functionName inst, c = .acquire functionName inst →
    ¬ (slot m).CanTake (m.functionManager.deviceKeys functionName) → code = -1

/-- Every call on a well-formed table meets its specification. -/
theorem resourceCall_spec {m : ResourceManager ι} (h : m.WellFormed) (c : ResourceCall ι) :
    ∃ code m', resourceCall m c = some (code, m') ∧ CallSpec m c code m' := by
  have hne : ∀ functionName, ∀ d ∈ m.functionManager.deviceKeys functionName,
      0 < m.resources.length := fun _ _ _ => h.nonempty
  cases c with
  | register name =>
      obtain ⟨hfm, hlen, hslots⟩ := resourceManagerRegister_spec m name
      refine ⟨(resourceManagerRegister m name).1, (resourceManagerRegister m name).2, rfl,
        ⟨?_, ?_, h.freeUnowned.register name⟩, hfm, hslots, ?_⟩
      · rw [hfm]
        exact h.functions
      · exact Nat.lt_of_lt_of_le h.nonempty hlen
      · intro _ _ hc
        cases hc
  | acquire functionName inst =>
      obtain ⟨code, m', hm', hu, hcode⟩ :=
        resourceManagerAcquire_spec h.functions functionName (hne functionName) inst
      refine ⟨code, m', hm', ⟨?_, ?_, h.freeUnowned.acquire hm'⟩, hu.functionManager, hu.slots, ?_⟩
      · rw [hu.functionManager]
        exact h.functions
      · rw [hu.length]
        exact h.nonempty
      · intro _ _ hc hbusy
        cases hc
        rw [hcode, if_neg hbusy]
  | release functionName inst =>
      obtain ⟨m', hm', hu⟩ :=
        resourceManagerRelease_spec h.functions functionName (hne functionName) inst
      have hfree := h.freeUnowned.release functionName inst
      rw [hm'] at hfree
      refine ⟨0, m', congrArg some hm', ⟨?_, ?_, hfree⟩, hu.functionManager, hu.slots, ?_⟩
      · rw [hu.functionManager]
        exact h.functions
      · rw [hu.length]
        exact h.nonempty
      · intro _ _ hc
        cases hc

/-! ## Sequences of calls -/

/-- Through any calls of other instances a held device stays held, and every request that shares
a held device is answered with `-1`. -/
theorem resourceCalls_keep {m : ResourceManager ι} (h : m.WellFormed) {ds : List CString} {inst : ι}
    (hheld : ∀ d ∈ ds, slot m d = .held (some inst)) {calls : List (ResourceCall ι)}
    (hcalls : ∀ c ∈ calls, c.caller ≠ some inst) :
    ∃ codes m', resourceCalls m calls = some (codes, m') ∧ m'.WellFormed ∧
      m'.functionManager = m.functionManager ∧ (∀ d ∈ ds, slot m' d = .held (some inst)) ∧
      ∀ (k : ℕ) functionName other, calls[k]? = some (.acquire functionName other) →
        (∃ d ∈ ds, d ∈ m.functionManager.deviceKeys functionName) → codes[k]? = some (-1) := by
  induction calls generalizing m with
  | nil => exact ⟨[], m, rfl, h, rfl, hheld, by simp⟩
  | cons c calls ih =>
      obtain ⟨code, m₁, hm₁, hspec⟩ := resourceCall_spec h c
      have howner : (absCall m c).owner ≠ some (some inst) := by
        rw [absCall_owner]
        intro hc
        rw [Option.map_eq_some_iff] at hc
        obtain ⟨o, ho, hinst⟩ := hc
        cases hinst
        exact hcalls c (by simp) ho
      have hheld₁ : ∀ d ∈ ds, slot m₁ d = .held (some inst) := by
        intro d hd
        rw [hspec.slots]
        exact Holdings.held_after_call (hheld d hd) howner
      obtain ⟨codes, m₂, hm₂, hwf, hfm, hheld₂, hrefused⟩ :=
        ih hspec.wellFormed hheld₁ fun c' hc' => hcalls c' (List.mem_cons_of_mem _ hc')
      refine ⟨code :: codes, m₂, by simp [resourceCalls, hm₁, hm₂], hwf,
        hfm.trans hspec.functionManager, hheld₂, ?_⟩
      intro k functionName other hk hshared
      cases k with
      | zero =>
          obtain ⟨d, hd, hdf⟩ := hshared
          rw [List.getElem?_cons_zero, Option.some_inj] at hk
          rw [List.getElem?_cons_zero,
            hspec.refused functionName other hk (Holdings.not_canTake hdf (hheld d hd))]
      | succ k =>
          rw [List.getElem?_cons_succ] at hk ⊢
          rw [← hspec.functionManager] at hshared
          exact hrefused k functionName other hk hshared

/-- A device that is not absent has the slot of the entry that the scans reach. -/
lemma exists_entry_of_slot {m : ResourceManager ι} {d : CString} {x : Slot (Option ι)}
    (h : slot m d = x) (hx : x ≠ .absent) :
    ∃ r ∈ m.resources, m.entry d = some r ∧ r.slot = x := by
  unfold slot at h
  rw [ResourceManager.entry_eq_lookup]
  cases hr : lookup ResourceInfo.key m.resources d with
  | none =>
      rw [hr] at h
      exact absurd h.symm hx
  | some r =>
      rw [hr] at h
      exact ⟨r, List.mem_of_find?_eq_some hr, rfl, h⟩

/-- A held device is BUSY with that owner in the entry the scans reach. -/
lemma entry_of_held {m : ResourceManager ι} {d : CString} {inst : ι}
    (h : slot m d = .held (some inst)) :
    ∃ r, m.entry d = some r ∧ r.state = .busy ∧ r.owner = some inst := by
  obtain ⟨r, -, hr, hslot⟩ := exists_entry_of_slot h nofun
  refine ⟨r, hr, ?_⟩
  cases hstate : r.state with
  | free => simp [ResourceInfo.slot, hstate] at hslot
  | busy => simpa [ResourceInfo.slot, hstate] using hslot

/-- A free device is FREE without owner in the entry the scans reach. -/
lemma entry_of_free {m : ResourceManager ι} (hm : m.FreeUnowned) {d : CString}
    (h : slot m d = .free) : ∃ r, m.entry d = some r ∧ r.state = .free ∧ r.owner = none := by
  obtain ⟨r, hmem, hr, hslot⟩ := exists_entry_of_slot h nofun
  have hstate : r.state = .free := by
    cases hs : r.state with
    | free => rfl
    | busy => simp [ResourceInfo.slot, hs] at hslot
  exact ⟨r, hr, hstate, hm r hmem hstate⟩

/-- **Ownership persists until the owner releases.** After an `acquire` that returned 0 (for an
unknown function it does too, but that has no devices), and any calls of other instances, none of
which leaves the table, every device of the function is BUSY with the acquiring instance and
every `acquire` among the calls that shares a device returned `-1`; and the `release` frees every
device and leaves the entries that others own as they are.
Source: `services/resource-manager.c` -/
theorem ownership_persists {m m₁ : ResourceManager ι} (h : m.WellFormed) {functionName : CString}
    {inst : ι} (hacquire : resourceManagerAcquire m functionName inst = some (0, m₁))
    (calls : List (ResourceCall ι)) (hcalls : ∀ c ∈ calls, c.caller ≠ some inst) :
    ∃ codes m₂, resourceCalls m₁ calls = some (codes, m₂) ∧
      (∀ d ∈ m.functionManager.deviceKeys functionName,
        ∃ r, m₂.entry d = some r ∧ r.state = .busy ∧ r.owner = some inst) ∧
      (∀ (k : ℕ) other inst', calls[k]? = some (.acquire other inst') →
        (∃ d ∈ m.functionManager.deviceKeys functionName,
          d ∈ m.functionManager.deviceKeys other) → codes[k]? = some (-1)) ∧
      ∃ m₃, resourceManagerRelease m₂ functionName inst = (0, m₃) ∧
        (∀ d ∈ m.functionManager.deviceKeys functionName,
          ∃ r, m₃.entry d = some r ∧ r.state = .free ∧ r.owner = none) ∧
        ∀ (i : ℕ) (r : ResourceInfo ι), m₂.resources[i]? = some r → r.owner ≠ some inst →
          m₃.resources[i]? = some r := by
  -- the acquire took all devices
  obtain ⟨code, m', hm', hspec⟩ := resourceCall_spec h (.acquire functionName inst)
  rw [resourceCall, hacquire, Option.some_inj, Prod.mk.injEq] at hm'
  obtain ⟨rfl, rfl⟩ := hm'
  have hfree : (slot m).CanTake (m.functionManager.deviceKeys functionName) := by
    by_contra hbusy
    have hcode := hspec.refused functionName inst rfl hbusy
    omega
  have hheld : ∀ d ∈ m.functionManager.deviceKeys functionName,
      slot m₁ d = .held (some inst) := by
    intro d hd
    rw [hspec.slots, absCall, Holdings.after, if_pos hfree, Holdings.take_of_mem hd]
  -- nobody else gets at them
  obtain ⟨codes, m₂, hm₂, hwf, hfm, hheld₂, hrefused⟩ :=
    resourceCalls_keep hspec.wellFormed hheld hcalls
  rw [hspec.functionManager] at hfm hrefused
  refine ⟨codes, m₂, hm₂, fun d hd => entry_of_held (hheld₂ d hd), hrefused, ?_⟩
  -- the release drops exactly them
  obtain ⟨m₃, hm₃, hu⟩ := resourceManagerRelease_spec hwf.functions functionName
    (fun _ _ => hwf.nonempty) inst
  have hfreed := hwf.freeUnowned.release functionName inst
  rw [hm₃] at hfreed
  refine ⟨m₃, hm₃, ?_, ?_⟩
  · intro d hd
    apply entry_of_free hfreed
    rw [hu.slots, hfm]
    exact Holdings.drop_of_mem hd (hheld₂ d hd)
  · intro i r hr howner
    have hkept := resourceManagerRelease_getElem? m₂ functionName inst hr howner
    rwa [hm₃] at hkept

/-- Two functions that share the pin `gpio17`, on a table with both devices registered. -/
def pinTable : ResourceManager ℕ where
  functionManager := ⟨.ofList _ (function "status_indication" []) [
    function "status_indication" [pin "gpio17", pin "led0"],
    function "user_input" [pin "gpio17"]]⟩
  resources := [freeResource (cstr "led0"), freeResource (cstr "gpio17")]
  bounded := by decide
where
  pin (name : String) : CharBuf 64 := safeStringCopy (cstr name) 64
  function (name : String) (devices : List (CharBuf 64)) : FunctionEntry :=
    availableFunction ⟨safeStringCopy (cstr name) 64, .empty 128, .ofList _ (.empty 64) devices⟩

/-- While instance 1 holds both pins, instance 2 is refused the shared one and its release frees
nothing; instance 1 is still the owner of `gpio17` and gives it back. -/
theorem ownership_persists_pinTable :
    ∃ m₁ codes m₂ m₃, resourceManagerAcquire pinTable (cstr "status_indication") 1 = some (0, m₁) ∧
      resourceCalls m₁ [.acquire (cstr "user_input") 2, .register (cstr "gpio4"),
        .release (cstr "user_input") 2] = some (codes, m₂) ∧
      codes[0]? = some (-1) ∧
      (∃ r, m₂.entry (cstr "gpio17") = some r ∧ r.state = .busy ∧ r.owner = some 1) ∧
      resourceManagerRelease m₂ (cstr "status_indication") 1 = (0, m₃) ∧
      ∃ r, m₃.entry (cstr "gpio17") = some r ∧ r.state = .free ∧ r.owner = none := by
  have hwf : pinTable.WellFormed := ⟨⟨by decide, by decide⟩, by decide, by
    intro r hr _
    simp only [pinTable, List.mem_cons, List.not_mem_nil, or_false] at hr
    rcases hr with rfl | rfl <;> rfl⟩
  obtain ⟨code, m₁, hacquire, -, hcode⟩ := resourceManagerAcquire_spec hwf.functions
    (cstr "status_indication") (fun _ _ => hwf.nonempty) 1
  rw [if_pos (by decide)] at hcode
  subst hcode
  obtain ⟨codes, m₂, hm₂, hheld, hrefused, m₃, hm₃, hfreed, -⟩ :=
    ownership_persists hwf hacquire [.acquire (cstr "user_input") 2,
      .register (cstr "gpio4"), .release (cstr "user_input") 2] (by simp [ResourceCall.caller])
  have hshared : cstr "gpio17" ∈
      pinTable.functionManager.deviceKeys (cstr "status_indication") := by decide
  exact ⟨m₁, codes, m₂, m₃, hacquire, hm₂,
    hrefused 0 (cstr "user_input") 2 rfl ⟨_, hshared, by decide⟩, hheld _ hshared, hm₃,
    hfreed _ hshared⟩

end HardwareTest
