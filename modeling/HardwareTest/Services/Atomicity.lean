import HardwareTest.Services.Ownership

/-!
# `acquire` takes all devices of a function or none

* `ResourceManager.markEntries`: the table in which exactly the entries that the scans find for a
  list of devices are BUSY with an instance.
* `markAllBusy_of_devicesFree`: after a passed check the marking pass computes that table. It never
  writes at index `-1`, whatever the tables hold (`resourceManagerAcquire_isSome`).
* `acquire_all_or_nothing`: from every table that calls can reach.
-/

namespace HardwareTest

open Lib

variable {ι : Type*}

/-! ## The marked table -/

/-- The entry at the index is the one a scan finds for a device of the list. -/
def ResourceManager.Finds (m : ResourceManager ι) (ds : List CString) (i : ℕ) : Prop :=
  ∃ d ∈ ds, resourceManagerFind m.resources d = some i

instance (m : ResourceManager ι) (ds : List CString) (i : ℕ) : Decidable (m.Finds ds i) :=
  inferInstanceAs (Decidable (∃ d ∈ ds, _))

/-- The entries of the listed devices BUSY with the instance, all other entries as they are. -/
def ResourceManager.markEntries (m : ResourceManager ι) (ds : List CString) (inst : ι) :
    ResourceManager ι :=
  { m with
    resources := m.resources.mapIdx fun i r => if m.Finds ds i then r.markBusy inst else r
    bounded := by rw [List.length_mapIdx]; exact m.bounded }

/-- Marking no device changes nothing. -/
lemma markEntries_nil (m : ResourceManager ι) (inst : ι) : m.markEntries [] inst = m := by
  have hfinds : ∀ i, ¬ m.Finds [] i := by
    rintro i ⟨d, hd, -⟩
    exact List.not_mem_nil hd
  have hresources : (m.markEntries [] inst).resources = m.resources := by
    apply List.ext_getElem?
    intro i
    simp [ResourceManager.markEntries, hfinds]
  rcases m with ⟨functionManager, resources, bounded⟩
  exact (ResourceManager.mk.injEq ..).mpr ⟨rfl, hresources⟩

/-- The marked table depends on which devices are listed, not on how often. -/
lemma markEntries_congr {m : ResourceManager ι} {ds es : List CString} (h : ∀ d, d ∈ ds ↔ d ∈ es)
    (inst : ι) : m.markEntries ds inst = m.markEntries es inst := by
  have hfinds : ∀ i, m.Finds ds i ↔ m.Finds es i := by
    intro i
    simp only [ResourceManager.Finds, h]
  simp only [ResourceManager.markEntries, hfinds]

/-- Marking does not move what the scans find. -/
lemma resourceManagerFind_markEntries (m : ResourceManager ι) (ds : List CString) (inst : ι)
    (d : CString) :
    resourceManagerFind (m.markEntries ds inst).resources d =
      resourceManagerFind m.resources d := by
  apply indexOf_congr
  apply List.ext_getElem?
  intro i
  simp only [ResourceManager.markEntries, List.getElem?_map, List.getElem?_mapIdx,
    Option.map_map]
  congr 1
  funext r
  simp only [Function.comp_apply]
  split_ifs <;> rfl

/-- Marking one more device marks one more entry. -/
lemma markBusy_markEntries {m : ResourceManager ι} {d : CString} {i : ℕ}
    (h : resourceManagerFind m.resources d = some i) (ds : List CString) (inst : ι) :
    markBusy inst (m.markEntries ds inst) d = some (m.markEntries (ds ++ [d]) inst) := by
  have hfinds : ∀ j, m.Finds (ds ++ [d]) j ↔ m.Finds ds j ∨ i = j := by
    intro j
    simp [ResourceManager.Finds, or_and_right, exists_or, h]
  unfold markBusy
  rw [resourceManagerFind_markEntries, h, Option.map_some, Option.some_inj]
  unfold ResourceManager.modifyAt
  simp only [ResourceManager.markEntries, ResourceManager.mk.injEq, true_and]
  apply List.ext_getElem?
  intro j
  rw [List.getElem?_modify, List.getElem?_mapIdx, List.getElem?_mapIdx]
  rcases m.resources[j]? with _ | r
  · rfl
  · by_cases hij : i = j
    · by_cases hj : m.Finds ds j <;> simp [hfinds, hij, hj, ResourceInfo.markBusy]
    · simp [hfinds, hij]

/-- A pass all of whose steps mark devices marks the devices of all steps. -/
lemma foldlM_markEntries {β : Type*} {m : ResourceManager ι} {inst : ι}
    {g : ResourceManager ι → β → Option (ResourceManager ι)} {ks : β → List CString} {bs : List β}
    (hg : ∀ b ∈ bs, ∀ ds, g (m.markEntries ds inst) b = some (m.markEntries (ds ++ ks b) inst))
    (ds : List CString) :
    bs.foldlM g (m.markEntries ds inst) = some (m.markEntries (ds ++ bs.flatMap ks) inst) := by
  induction bs generalizing ds with
  | nil =>
      rw [List.flatMap_nil, List.append_nil]
      rfl
  | cons b bs ih =>
      rw [List.foldlM_cons, hg b (by simp), List.flatMap_cons, ← List.append_assoc]
      exact ih (fun c hc => hg c (List.mem_cons_of_mem _ hc)) _

/-! ## The two passes -/

/-- The devices that the lookups by index find for a function of `n` devices. -/
def FunctionManager.lookedUp (fm : FunctionManager) (functionName : CString) (n : ℕ) :
    List (CharBuf functionNameLength) :=
  (List.range n).filterMap (fm.getDeviceByIndex functionName)

/-- The names that a pass looks up in the table: every device once for each entry. -/
def ResourceManager.scanned (m : ResourceManager ι) (functionName : CString) (n : ℕ) :
    List CString :=
  (m.functionManager.lookedUp functionName n).flatMap fun d =>
    (List.range m.resources.length).flatMap fun _ => [d.chars]

/-- The checking pass looks at every scanned name. -/
lemma devicesFree_iff_scanned (m : ResourceManager ι) (functionName : CString) (n : ℕ) :
    devicesFree m functionName n = true ↔
      ∀ d ∈ m.scanned functionName n, deviceFree m d = true := by
  unfold devicesFree ResourceManager.scanned FunctionManager.lookedUp
  simp only [List.all_eq_true, List.mem_flatMap, List.mem_filterMap, List.mem_singleton]
  constructor
  · rintro hall d ⟨b, ⟨k, hk, hb⟩, i, hi, rfl⟩
    have hdevice := hall k hk
    rw [hb, Option.elim_some, List.all_eq_true] at hdevice
    exact hdevice i hi
  · intro hall k hk
    rcases hb : m.functionManager.getDeviceByIndex functionName k with _ | b
    · rfl
    · rw [Option.elim_some, List.all_eq_true]
      intro i hi
      exact hall _ ⟨b, ⟨k, hk, hb⟩, i, hi, rfl⟩

/-- **The marking pass after a passed check** finds every device it marks. -/
theorem markAllBusy_of_devicesFree {m : ResourceManager ι} {functionName : CString} {n : ℕ}
    (h : devicesFree m functionName n = true) (inst : ι) :
    markAllBusy m functionName n inst =
      some (m.markEntries (m.scanned functionName n) inst) := by
  rw [devicesFree_iff_scanned] at h
  have hfound : ∀ d ∈ m.scanned functionName n, ∃ i, resourceManagerFind m.resources d = some i := by
    intro d hd
    have hfree := h d hd
    unfold deviceFree ResourceManager.entry at hfree
    rcases hfind : resourceManagerFind m.resources d with _ | i
    · rw [hfind] at hfree
      cases hfree
    · exact ⟨i, rfl⟩
  unfold markAllBusy
  rw [FixedTable.foldlM_orContinue]
  conv_lhs => rw [← markEntries_nil m inst]
  apply foldlM_markEntries
  -- the inner loop marks one device again and again
  intro b hb ds
  rw [markEntries_nil]
  apply foldlM_markEntries
  intro i hi es
  obtain ⟨j, hj⟩ := hfound b.chars
    (List.mem_flatMap.mpr ⟨b, hb, List.mem_flatMap.mpr ⟨i, hi, List.mem_singleton_self _⟩⟩)
  exact markBusy_markEntries hj es inst

/-- `acquire` never writes at index `-1`, whatever the two tables hold. -/
theorem resourceManagerAcquire_isSome (m : ResourceManager ι) (functionName : CString) (inst : ι) :
    (resourceManagerAcquire m functionName inst).isSome = true := by
  unfold resourceManagerAcquire
  split_ifs
  · rfl
  · rcases m.functionManager.getDeviceCount functionName with _ | n
    · rfl
    · simp only
      split_ifs with hfree
      · rw [markAllBusy_of_devicesFree hfree]
        rfl
      · rfl

/-- For a function of the table, scanning reaches the devices of its first entry. -/
lemma mem_scanned_iff {m : ResourceManager ι} (h : m.functionManager.AllAvailable)
    (hne : 0 < m.resources.length) {functionName : CString} {n : ℕ}
    (hn : m.functionManager.getDeviceCount functionName = some n) (d : CString) :
    d ∈ m.scanned functionName n ↔ d ∈ m.functionManager.deviceKeys functionName := by
  have hlen := FunctionManager.getDeviceCount_eq h hn
  have hlookedUp : ∀ b, b ∈ m.functionManager.lookedUp functionName n ↔
      b ∈ m.functionManager.devicesOf functionName := by
    intro b
    unfold FunctionManager.lookedUp
    rw [List.mem_filterMap, List.mem_iff_getElem?]
    constructor
    · rintro ⟨i, hi, hb⟩
      rw [FunctionManager.getDeviceByIndex_eq h hn (List.mem_range.mp hi)] at hb
      exact ⟨i, hb⟩
    · rintro ⟨i, hb⟩
      have hi : i < n := by
        rw [hlen]
        exact (List.getElem?_eq_some_iff.mp hb).1
      exact ⟨i, List.mem_range.mpr hi, by rwa [FunctionManager.getDeviceByIndex_eq h hn hi]⟩
  unfold ResourceManager.scanned
  rw [List.mem_flatMap]
  simp only [hlookedUp]
  rw [← List.mem_flatMap]
  exact mem_repeated_iff (fun _ _ => hne) d

/-! ## Any sequence of calls -/

/-- An entry is FREE exactly when its owner is NULL. -/
def ResourceInfo.Settled (r : ResourceInfo ι) : Prop := r.state = .free ↔ r.owner = none

/-- Every entry of the table is settled. -/
def ResourceManager.Settled (m : ResourceManager ι) : Prop := ∀ r ∈ m.resources, r.Settled

/-- Rewriting an entry keeps the table settled when the rewriting does. -/
lemma ResourceManager.Settled.modifyAt {m : ResourceManager ι} (h : m.Settled) (i : ℕ)
    {f : ResourceInfo ι → ResourceInfo ι} (hf : ∀ r, r.Settled → (f r).Settled) :
    (m.modifyAt i f).Settled := ResourceManager.forall_modifyAt h i hf

/-- What every call leaves alone. -/
structure Kept (fm : FunctionManager) (m : ResourceManager ι) : Prop where
  functionManager : m.functionManager = fm
  settled : m.Settled

/-- Rewriting an entry keeps this when the rewriting leaves entries settled. -/
lemma Kept.modifyAt {fm : FunctionManager} {m : ResourceManager ι} (h : Kept fm m) (i : ℕ)
    {f : ResourceInfo ι → ResourceInfo ι} (hf : ∀ r, r.Settled → (f r).Settled) :
    Kept fm (m.modifyAt i f) :=
  ⟨h.functionManager, h.settled.modifyAt i hf⟩

variable [DecidableEq ι]

/-- **Step.** Every call stays inside the table and leaves every entry settled. -/
lemma Kept.call {fm : FunctionManager} {m : ResourceManager ι} (h : Kept fm m)
    (c : ResourceCall ι) : ∃ code m', resourceCall m c = some (code, m') ∧ Kept fm m' := by
  rcases c with name | ⟨functionName, inst⟩ | ⟨functionName, inst⟩
  · refine ⟨(resourceManagerRegister m name).1, (resourceManagerRegister m name).2, rfl,
      (resourceManagerRegister_spec m name).1.trans h.functionManager, ?_⟩
    unfold resourceManagerRegister
    split_ifs
    · exact h.settled
    · exact h.settled
    · intro r hr
      rw [List.mem_append, List.mem_singleton] at hr
      rcases hr with hr | rfl
      · exact h.settled r hr
      · exact iff_of_true rfl rfl
  · obtain ⟨⟨code, m'⟩, hm'⟩ :=
      Option.isSome_iff_exists.mp (resourceManagerAcquire_isSome m functionName inst)
    refine ⟨code, m', hm', resourceManagerAcquire_invariant (P := Kept fm) ?_ h hm'⟩
    intro m₁ i h₁
    apply h₁.modifyAt
    intro r _
    simp [ResourceInfo.Settled, ResourceInfo.markBusy]
  · refine ⟨_, _, rfl, resourceManagerRelease_invariant (P := Kept fm) ?_ functionName h⟩
    intro m₁ i h₁
    apply h₁.modifyAt
    intro r hr
    unfold ResourceInfo.freeOwned
    split_ifs
    · exact iff_of_true rfl rfl
    · exact hr

/-- **Run.** Any sequence of calls does. -/
theorem Kept.calls {fm : FunctionManager} {m : ResourceManager ι} (h : Kept fm m)
    (calls : List (ResourceCall ι)) :
    ∃ codes m', resourceCalls m calls = some (codes, m') ∧ Kept fm m' := by
  induction calls generalizing m with
  | nil => exact ⟨[], m, rfl, h⟩
  | cons c calls ih =>
      obtain ⟨code, m₁, hm₁, h₁⟩ := h.call c
      obtain ⟨codes, m₂, hm₂, h₂⟩ := ih h₁
      refine ⟨code :: codes, m₂, ?_, h₂⟩
      rw [resourceCalls, hm₁, Option.bind_some, hm₂]
      rfl

/-- The device is registered and FREE. -/
def ResourceManager.DeviceFree (m : ResourceManager ι) (d : CString) : Prop :=
  ∃ r, m.entry d = some r ∧ r.state = .free

omit [DecidableEq ι] in
/-- The test of the checking pass. -/
lemma deviceFree_iff_entry (m : ResourceManager ι) (d : CString) :
    deviceFree m d = true ↔ m.DeviceFree d := by
  unfold deviceFree ResourceManager.DeviceFree
  rcases m.entry d with _ | r
  · simp
  · rcases hstate : r.state <;> simp [hstate]

/-- **All or nothing.** From the empty table over a function table that `prepare_function_info`
built, any sequence of calls stays inside the table and leaves every entry FREE exactly when its
owner is NULL; and once something is registered, `acquire` for a known function returns 0 when every
device of the function is registered and FREE, and then the entries of its devices are BUSY with the
instance and nothing else has changed, and otherwise returns `-1` with the table unchanged.
Source: `services/resource-manager.c`, `resource_manager_acquire` -/
theorem acquire_all_or_nothing {fm : FunctionManager} (hfm : fm.AllAvailable)
    (calls : List (ResourceCall ι)) :
    ∃ codes m, resourceCalls (resourceManagerInit fm) calls = some (codes, m) ∧
      (∀ r ∈ m.resources, r.state = .free ↔ r.owner = none) ∧
      (0 < m.resources.length → ∀ functionName, fm.isAvailable functionName = true → ∀ inst,
        ((∀ d ∈ fm.deviceKeys functionName, m.DeviceFree d) ∧
          resourceManagerAcquire m functionName inst =
            some (0, m.markEntries (fm.deviceKeys functionName) inst)) ∨
        ((¬ ∀ d ∈ fm.deviceKeys functionName, m.DeviceFree d) ∧
          resourceManagerAcquire m functionName inst = some (-1, m))) := by
  have hstart : Kept fm (resourceManagerInit fm : ResourceManager ι) := by
    refine ⟨rfl, ?_⟩
    intro r hr
    cases hr
  obtain ⟨codes, m, hm, hkept⟩ := hstart.calls calls
  refine ⟨codes, m, hm, hkept.settled, ?_⟩
  intro hne functionName hknown inst
  have hsame := hkept.functionManager
  subst hsame
  obtain ⟨n, hn⟩ := FunctionManager.getDeviceCount_of_known hfm (Bool.ne_false_iff.mpr hknown)
  have hscanned := mem_scanned_iff hfm hne hn
  have hcheck : devicesFree m functionName n = true ↔
      ∀ d ∈ m.functionManager.deviceKeys functionName, m.DeviceFree d := by
    rw [devicesFree_iff_scanned]
    simp only [hscanned, deviceFree_iff_entry]
  unfold resourceManagerAcquire
  simp only [hknown, Bool.true_eq_false, if_false, hn]
  by_cases hfree : devicesFree m functionName n = true
  · left
    rw [if_pos hfree, markAllBusy_of_devicesFree hfree, markEntries_congr hscanned]
    exact ⟨hcheck.mp hfree, rfl⟩
  · right
    rw [if_neg hfree, ← hcheck]
    exact ⟨hfree, rfl⟩

/-- On the table of the two functions that share a pin, reached by two registrations and an
`acquire`: the second function is refused the shared pin. -/
theorem acquire_all_or_nothing_pinTable :
    ∃ codes m, resourceCalls (resourceManagerInit pinTable.functionManager)
        [.register (cstr "led0"), .register (cstr "gpio17"),
          .acquire (cstr "status_indication") 1] = some (codes, m) ∧
      codes = [0, 0, 0] ∧ resourceManagerAcquire m (cstr "user_input") 2 = some (-1, m) := by
  have hfm : pinTable.functionManager.AllAvailable := ⟨by decide, by decide⟩
  obtain ⟨codes, m, hm, -, hacquire⟩ := acquire_all_or_nothing (ι := ℕ) hfm
    [.register (cstr "led0"), .register (cstr "gpio17"), .acquire (cstr "status_indication") 1]
  have hrun : ∃ m', resourceCalls (resourceManagerInit pinTable.functionManager)
      [.register (cstr "led0"), .register (cstr "gpio17"),
        .acquire (cstr "status_indication") (1 : ℕ)] = some ([0, 0, 0], m') ∧
      m'.resources.length = 2 ∧ deviceFree m' (cstr "gpio17") = false :=
    ⟨_, rfl, rfl, rfl⟩
  obtain ⟨m', hm', hlength, hbusy⟩ := hrun
  rw [hm, Option.some_inj, Prod.mk.injEq] at hm'
  obtain ⟨rfl, rfl⟩ := hm'
  refine ⟨_, m, hm, rfl, ?_⟩
  rcases hacquire (by omega) (cstr "user_input") (by decide) 2 with ⟨hfree, -⟩ | ⟨-, hrefused⟩
  · have hpin := (deviceFree_iff_entry m _).mpr (hfree (cstr "gpio17") (by decide))
    rw [hbusy] at hpin
    cases hpin
  · exact hrefused

end HardwareTest
