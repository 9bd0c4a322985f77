import HardwareTest.Services.FunctionManager
import HardwareTest.Lib.KeyedTable
import HardwareTest.Lib.Holdings

/-!
# The resource manager: `services/resource-manager.c`

The table of devices with their state and owner, and the calls on it. Owners are instance
pointers, an arbitrary type `ι`; `NULL` is `none`. The `for(index < resource_count)` loops around
every `resource_manager_find` are kept, as are the two passes of `acquire`; the marking pass
writes at the index found without looking at it, and `none` is the write at index `-1`.

* `slot m` is the abstract state of every device name, as `Lib.Holdings`.
* `resourceManagerIsAvailable_iff`, `resourceManagerAcquire_spec`, `resourceManagerRelease_spec`
  and `resourceManagerRegister_spec`: each call, in terms of `Holdings.CanTake`, `take`, `drop`
  and `add` on the slots.
-/

namespace HardwareTest

open Lib

/-- Source: `services/resource-manager.h`, `resource_state_e` -/
inductive ResourceState
  | free | busy
deriving DecidableEq

/-- Source: `services/resource-manager.h`, `resource_info_t` -/
structure ResourceInfo (ι : Type*) where
  name : CharBuf deviceNameLength
  state : ResourceState
  owner : Option ι

abbrev resourceManagerMaxResources : ℕ := maxDevices

/-- The registered resources are `resources[0 .. resource_count)`.
Source: `services/resource-manager.c`, `resource_manager_t` -/
structure ResourceManager (ι : Type*) where
  functionManager : FunctionManager
  resources : List (ResourceInfo ι)
  bounded : resources.length ≤ resourceManagerMaxResources

variable {ι : Type*}

/-- The name a scan compares. -/
def ResourceInfo.key (r : ResourceInfo ι) : CString := r.name.chars

/-- The index of a resource, `none` for `-1`.
Source: `services/resource-manager.c`, `resource_manager_find` -/
def resourceManagerFind (resources : List (ResourceInfo ι)) (name : CString) : Option ℕ :=
  indexOf ResourceInfo.key resources name

/-- The manager after `malloc`. Source: `services/resource-manager.c`, `resource_manager_init` -/
def resourceManagerInit (functionManager : FunctionManager) : ResourceManager ι where
  functionManager := functionManager
  resources := []
  bounded := Nat.zero_le _

/-- The entry `register` appends. -/
def freeResource (name : CString) : ResourceInfo ι where
  name := safeStringCopy name deviceNameLength
  state := .free
  owner := none

/-- Source: `services/resource-manager.c`, `resource_manager_register` -/
def resourceManagerRegister (m : ResourceManager ι) (name : CString) : ℤ × ResourceManager ι :=
  if h : m.resources.length ≥ resourceManagerMaxResources then (-1, m)
  else if (resourceManagerFind m.resources name).isSome then (-1, m)
  else
    (0, { m with
      resources := m.resources ++ [freeResource name]
      bounded := by rw [List.length_append, List.length_singleton]; omega })

/-- Rewrite one entry of the table. -/
def ResourceManager.modifyAt (m : ResourceManager ι) (i : ℕ)
    (f : ResourceInfo ι → ResourceInfo ι) : ResourceManager ι :=
  { m with
    resources := m.resources.modify i f
    bounded := by rw [List.length_modify]; exact m.bounded }

/-- The entry a scan for a device reaches. -/
def ResourceManager.entry (m : ResourceManager ι) (deviceName : CString) : Option (ResourceInfo ι) :=
  (resourceManagerFind m.resources deviceName).bind fun i => m.resources[i]?

/-- The test in the loop bodies: the device is registered and not BUSY. -/
def deviceFree (m : ResourceManager ι) (deviceName : CString) : Bool :=
  match m.entry deviceName with
  | none => false
  | some r => decide (r.state ≠ .busy)

/-- The checking pass over the devices of a function; a failed device lookup is skipped. -/
def devicesFree (m : ResourceManager ι) (functionName : CString) (deviceCount : ℕ) : Bool :=
  (List.range deviceCount).all fun deviceIndex =>
    (m.functionManager.getDeviceByIndex functionName deviceIndex).elim true fun deviceName =>
      (List.range m.resources.length).all fun _ => deviceFree m deviceName.chars

/-- Source: `services/resource-manager.c`, `resource_manager_is_available` -/
def resourceManagerIsAvailable (m : ResourceManager ι) (functionName : CString) : Bool :=
  if m.functionManager.isAvailable functionName = false then false
  else match m.functionManager.getDeviceCount functionName with
    | none => false
    | some deviceCount => devicesFree m functionName deviceCount

/-- The two assignments of the marking pass. -/
def ResourceInfo.markBusy (inst : ι) (r : ResourceInfo ι) : ResourceInfo ι :=
  { r with state := .busy, owner := some inst }

/-- The body of the freeing pass: an entry the instance owns becomes FREE without owner. -/
def ResourceInfo.freeOwned [DecidableEq ι] (inst : ι) (r : ResourceInfo ι) : ResourceInfo ι :=
  if r.owner = some inst then { r with state := .free, owner := none } else r

/-- Mark the entry of a device BUSY; `none` is the write at index `-1`. -/
def markBusy (inst : ι) (m : ResourceManager ι) (deviceName : CString) :
    Option (ResourceManager ι) :=
  (resourceManagerFind m.resources deviceName).map fun i => m.modifyAt i (.markBusy inst)

/-- The marking pass over the devices of a function. -/
def markAllBusy (m : ResourceManager ι) (functionName : CString) (deviceCount : ℕ) (inst : ι) :
    Option (ResourceManager ι) :=
  (List.range deviceCount).foldlM
    (fun m' deviceIndex =>
      FixedTable.orContinue
        (fun m' deviceName => (List.range m.resources.length).foldlM
          (fun m' _ => markBusy inst m' deviceName.chars) m')
        m' (m.functionManager.getDeviceByIndex functionName deviceIndex)) m

/-- An unknown function is answered with `return false`, that is 0.
Source: `services/resource-manager.c`, `resource_manager_acquire` -/
def resourceManagerAcquire (m : ResourceManager ι) (functionName : CString) (inst : ι) :
    Option (ℤ × ResourceManager ι) :=
  if m.functionManager.isAvailable functionName = false then some (0, m)
  else match m.functionManager.getDeviceCount functionName with
    | none => some (0, m)
    | some deviceCount =>
        if devicesFree m functionName deviceCount then
          (markAllBusy m functionName deviceCount inst).map fun m' => (0, m')
        else some (-1, m)

/-- Free the entry of a device when the instance owns it. -/
def freeOwned [DecidableEq ι] (inst : ι) (m : ResourceManager ι) (deviceName : CString) :
    ResourceManager ι :=
  match resourceManagerFind m.resources deviceName with
  | none => m
  | some i => m.modifyAt i (.freeOwned inst)

/-- The freeing pass over the devices of a function. -/
def freeAllOwned [DecidableEq ι] (m : ResourceManager ι) (functionName : CString)
    (deviceCount : ℕ) (inst : ι) : ResourceManager ι :=
  (List.range deviceCount).foldl
    (fun m' deviceIndex =>
      (m.functionManager.getDeviceByIndex functionName deviceIndex).elim m' fun deviceName =>
        (List.range m.resources.length).foldl
          (fun m' _ => freeOwned inst m' deviceName.chars) m') m

/-- Source: `services/resource-manager.c`, `resource_manager_release` -/
def resourceManagerRelease [DecidableEq ι] (m : ResourceManager ι) (functionName : CString)
    (inst : ι) : ℤ × ResourceManager ι :=
  if m.functionManager.isAvailable functionName = false then (0, m)
  else match m.functionManager.getDeviceCount functionName with
    | none => (0, m)
    | some deviceCount => (0, freeAllOwned m functionName deviceCount inst)

/-! ## The slots of a table -/

/-- The abstract state of an entry. -/
def ResourceInfo.slot (r : ResourceInfo ι) : Slot (Option ι) :=
  match r.state with
  | .free => .free
  | .busy => .held r.owner

/-- The abstract state of every device name, as the scans see it. -/
def slot (m : ResourceManager ι) : Holdings CString (Option ι) := fun d =>
  match lookup ResourceInfo.key m.resources d with
  | none => .absent
  | some r => r.slot

/-- A registered resource is not absent. -/
lemma ResourceInfo.slot_ne_absent (r : ResourceInfo ι) : r.slot ≠ .absent := by
  unfold ResourceInfo.slot
  cases r.state <;> simp

/-- The device names of a function, as the scans compare them. -/
def FunctionManager.deviceKeys (fm : FunctionManager) (functionName : CString) : List CString :=
  (fm.devicesOf functionName).map CharBuf.chars

/-- A device of a function is listed by an entry of the function table. -/
lemma FunctionManager.exists_of_mem_deviceKeys {fm : FunctionManager} {functionName d : CString}
    (h : d ∈ fm.deviceKeys functionName) :
    ∃ entry ∈ fm.functions.items, ∃ b ∈ entry.definition.deviceName.items, b.chars = d := by
  unfold FunctionManager.deviceKeys at h
  rw [List.mem_map] at h
  obtain ⟨b, hb, rfl⟩ := h
  unfold FunctionManager.devicesOf at hb
  cases hfind : fm.find functionName with
  | none =>
      rw [hfind] at hb
      cases hb
  | some entry =>
      rw [hfind] at hb
      exact ⟨entry, List.mem_of_find?_eq_some hfind, b, hb, rfl⟩

/-- What a call on the table may change: the slots, not the names and not the function table. -/
structure Updates (m m' : ResourceManager ι) (H : Holdings CString (Option ι)) : Prop where
  functionManager : m'.functionManager = m.functionManager
  length : m'.resources.length = m.resources.length
  slots : slot m' = H

/-- The entry a scan reaches is the first one of the name. -/
lemma ResourceManager.entry_eq_lookup (m : ResourceManager ι) (d : CString) :
    m.entry d = lookup ResourceInfo.key m.resources d :=
  (lookup_eq_getElem? m.resources d).symm

/-- A scan finds a device iff its slot is not absent. -/
lemma resourceManagerFind_eq_none_iff (m : ResourceManager ι) (d : CString) :
    resourceManagerFind m.resources d = none ↔ slot m d = .absent := by
  unfold resourceManagerFind
  rw [indexOf_eq_none_iff, slot]
  cases lookup ResourceInfo.key m.resources d with
  | none => simp
  | some r =>
      simp only [reduceCtorEq, false_iff, ResourceInfo.slot]
      cases r.state <;> simp

/-- The loop test is that the slot is free. -/
lemma deviceFree_iff (m : ResourceManager ι) (d : CString) :
    deviceFree m d = true ↔ slot m d = .free := by
  unfold deviceFree
  rw [ResourceManager.entry_eq_lookup, slot]
  cases lookup ResourceInfo.key m.resources d with
  | none => simp
  | some r =>
      simp only [decide_eq_true_eq, ResourceInfo.slot]
      cases r.state <;> simp

/-- Rewriting the entry of a device changes its slot only. -/
lemma slot_modifyAt {m : ResourceManager ι} {d : CString} {i : ℕ}
    {f : ResourceInfo ι → ResourceInfo ι} (hf : ∀ r, (f r).key = r.key)
    (h : resourceManagerFind m.resources d = some i) (e : CString) :
    slot (m.modifyAt i f) e =
      if e = d then (match lookup ResourceInfo.key m.resources d with
        | none => .absent
        | some r => (f r).slot) else slot m e := by
  split_ifs with he
  · subst he
    unfold slot ResourceManager.modifyAt
    rw [lookup_modify_same hf h]
    cases lookup ResourceInfo.key m.resources e <;> rfl
  · rw [slot, ResourceManager.modifyAt, lookup_modify_other hf h he]
    rfl

/-- Marking a registered device hands it to the instance. -/
lemma markBusy_updates {m : ResourceManager ι} {d : CString} (inst : ι)
    (h : slot m d ≠ .absent) :
    ∃ m', markBusy inst m d = some m' ∧ Updates m m' ((slot m).take [d] (some inst)) := by
  rw [ne_eq, ← resourceManagerFind_eq_none_iff] at h
  obtain ⟨i, hi⟩ := Option.ne_none_iff_exists'.mp h
  refine ⟨m.modifyAt i (.markBusy inst), by rw [markBusy, hi]; rfl, rfl,
    List.length_modify .., ?_⟩
  funext e
  rw [slot_modifyAt (f := .markBusy inst) (fun _ => rfl) hi, Holdings.take]
  simp only [List.mem_singleton]
  split_ifs with he
  · have hne : lookup ResourceInfo.key m.resources d ≠ none := by
      rw [ne_eq, ← indexOf_eq_none_iff]
      exact h
    obtain ⟨r, hr⟩ := Option.ne_none_iff_exists'.mp hne
    rw [hr]
    rfl
  · rfl

/-- Freeing an entry keeps its name. -/
lemma ResourceInfo.key_freeOwned [DecidableEq ι] (inst : ι) (r : ResourceInfo ι) :
    (r.freeOwned inst).key = r.key := by
  unfold ResourceInfo.freeOwned
  split_ifs <;> rfl

/-- Freeing an entry frees its slot when the instance holds it. -/
lemma ResourceInfo.slot_freeOwned [DecidableEq ι] (inst : ι) (r : ResourceInfo ι) :
    (r.freeOwned inst).slot = if r.slot = .held (some inst) then .free else r.slot := by
  obtain ⟨name, state, owner⟩ := r
  by_cases ho : owner = some inst
  · cases state <;> simp [ResourceInfo.freeOwned, ResourceInfo.slot, ho]
  · cases state <;> simp [ResourceInfo.freeOwned, ResourceInfo.slot, ho]

/-- Freeing what the instance owns drops it. -/
lemma freeOwned_updates [DecidableEq ι] (m : ResourceManager ι) (d : CString) (inst : ι) :
    Updates m (freeOwned inst m d) ((slot m).drop [d] (some inst)) := by
  unfold freeOwned
  cases hfind : resourceManagerFind m.resources d with
  | none =>
      have habsent := (resourceManagerFind_eq_none_iff m d).mp hfind
      refine ⟨rfl, rfl, ?_⟩
      funext e
      unfold Holdings.drop
      rw [if_neg]
      rintro ⟨he, hheld⟩
      rw [List.mem_singleton.mp he, habsent] at hheld
      cases hheld
  | some i =>
      refine ⟨rfl, List.length_modify .., ?_⟩
      funext e
      rw [slot_modifyAt (ResourceInfo.key_freeOwned inst) hfind, Holdings.drop]
      simp only [List.mem_singleton]
      by_cases he : e = d
      · subst he
        rw [if_pos rfl, slot]
        cases lookup ResourceInfo.key m.resources e with
        | none => simp
        | some r => simp only [ResourceInfo.slot_freeOwned, true_and]
      · simp [he]

/-! ## The loops

Each device is looked up once per registered resource; what a pass does to the slots is a take or
a drop of the list of all these lookups. -/

/-- A pass all of whose steps take devices takes the devices of all steps. -/
lemma foldlM_take {β : Type*} {inst : ι} {g : ResourceManager ι → β → Option (ResourceManager ι)}
    {ks : β → List CString}
    (hg : ∀ m b, (∀ d ∈ ks b, slot m d ≠ .absent) →
      ∃ m', g m b = some m' ∧ Updates m m' ((slot m).take (ks b) (some inst)))
    (bs : List β) (m : ResourceManager ι) (h : ∀ d ∈ bs.flatMap ks, slot m d ≠ .absent) :
    ∃ m', bs.foldlM g m = some m' ∧ Updates m m' ((slot m).take (bs.flatMap ks) (some inst)) := by
  induction bs generalizing m with
  | nil => exact ⟨m, rfl, rfl, rfl, by simp⟩
  | cons b bs ih =>
      simp only [List.flatMap_cons, List.forall_mem_append] at h
      obtain ⟨m₁, hm₁, hu₁⟩ := hg m b h.1
      have hrest : ∀ d ∈ bs.flatMap ks, slot m₁ d ≠ .absent := by
        intro d hd
        rw [hu₁.slots]
        exact Holdings.take_ne_absent (h.2 d hd)
      obtain ⟨m₂, hm₂, hu₂⟩ := ih m₁ hrest
      refine ⟨m₂, ?_, hu₂.functionManager.trans hu₁.functionManager,
        hu₂.length.trans hu₁.length, ?_⟩
      · rw [List.foldlM_cons, hm₁]
        exact hm₂
      · rw [hu₂.slots, hu₁.slots, Holdings.take_take, List.flatMap_cons]

/-- A pass all of whose steps drop devices drops the devices of all steps. -/
lemma foldl_drop [DecidableEq ι] {β : Type*} {inst : ι}
    {g : ResourceManager ι → β → ResourceManager ι} {ks : β → List CString}
    (hg : ∀ m b, Updates m (g m b) ((slot m).drop (ks b) (some inst)))
    (bs : List β) (m : ResourceManager ι) :
    Updates m (bs.foldl g m) ((slot m).drop (bs.flatMap ks) (some inst)) := by
  induction bs generalizing m with
  | nil => exact ⟨rfl, rfl, by simp⟩
  | cons b bs ih =>
      have hu₁ := hg m b
      have hu₂ := ih (g m b)
      refine ⟨hu₂.functionManager.trans hu₁.functionManager, hu₂.length.trans hu₁.length, ?_⟩
      rw [List.foldl_cons, hu₂.slots, hu₁.slots, Holdings.drop_drop, List.flatMap_cons]

/-- Looking every device up once per resource reaches the same devices as looking it up once,
when there is a resource. -/
lemma mem_repeated_iff {ds : List (CharBuf functionNameLength)} {n : ℕ}
    (hn : ∀ d ∈ ds.map CharBuf.chars, 0 < n) (e : CString) :
    e ∈ ds.flatMap (fun d => (List.range n).flatMap fun _ => [d.chars]) ↔
      e ∈ ds.map CharBuf.chars := by
  simp only [List.mem_flatMap, List.mem_range, List.mem_singleton, List.mem_map]
  constructor
  · rintro ⟨d, hd, -, -, rfl⟩
    exact ⟨d, hd, rfl⟩
  · rintro ⟨d, hd, rfl⟩
    exact ⟨d, hd, 0, hn _ (List.mem_map_of_mem hd), rfl⟩

section calls

variable {m : ResourceManager ι} {functionName : CString}

/-- The checking pass asks whether every device is free. -/
lemma devicesFree_iff (h : m.functionManager.AllAvailable) {n : ℕ}
    (hn : m.functionManager.getDeviceCount functionName = some n)
    (hne : ∀ d ∈ m.functionManager.deviceKeys functionName, 0 < m.resources.length) :
    devicesFree m functionName n = true ↔
      (slot m).CanTake (m.functionManager.deviceKeys functionName) := by
  unfold devicesFree
  rw [FunctionManager.all_devices h hn, List.all_eq_true, Holdings.CanTake,
    FunctionManager.deviceKeys, List.forall_mem_map]
  refine forall₂_congr fun d hd => ?_
  rw [List.all_eq_true, ← deviceFree_iff]
  constructor
  · intro hall
    exact hall 0 (List.mem_range.mpr (hne _ (List.mem_map_of_mem hd)))
  · intro hfree _ _
    exact hfree

/-- The marking pass hands every device to the instance, when all of them are registered. -/
lemma markAllBusy_updates (h : m.functionManager.AllAvailable) {n : ℕ}
    (hn : m.functionManager.getDeviceCount functionName = some n)
    (hne : ∀ d ∈ m.functionManager.deviceKeys functionName, 0 < m.resources.length)
    (hreg : ∀ d ∈ m.functionManager.deviceKeys functionName, slot m d ≠ .absent) (inst : ι) :
    ∃ m', markAllBusy m functionName n inst = some m' ∧
      Updates m m' ((slot m).take (m.functionManager.deviceKeys functionName) (some inst)) := by
  have hrepeat := mem_repeated_iff hne
  unfold markAllBusy
  rw [FunctionManager.foldlM_devices h hn]
  -- the loop over the resources marks one device again and again
  have hdevice : ∀ m₁ (d : CharBuf functionNameLength),
      (∀ e ∈ (List.range m.resources.length).flatMap fun _ => [d.chars], slot m₁ e ≠ .absent) →
        ∃ m₂, (List.range m.resources.length).foldlM (fun m' _ => markBusy inst m' d.chars) m₁ =
            some m₂ ∧
          Updates m₁ m₂ ((slot m₁).take
            ((List.range m.resources.length).flatMap fun _ => [d.chars]) (some inst)) := by
    intro m₁ d hd
    refine foldlM_take (fun m₂ _ h₂ => markBusy_updates inst (h₂ d.chars ?_)) _ m₁ hd
    exact List.mem_singleton_self _
  obtain ⟨m', hm', hu⟩ := foldlM_take hdevice (m.functionManager.devicesOf functionName) m
    fun d hd => hreg d ((hrepeat d).mp hd)
  exact ⟨m', hm', hu.functionManager, hu.length, hu.slots.trans (Holdings.take_congr hrepeat _)⟩

/-- The freeing pass drops every device the instance holds. -/
lemma freeAllOwned_updates [DecidableEq ι] (h : m.functionManager.AllAvailable) {n : ℕ}
    (hn : m.functionManager.getDeviceCount functionName = some n)
    (hne : ∀ d ∈ m.functionManager.deviceKeys functionName, 0 < m.resources.length) (inst : ι) :
    Updates m (freeAllOwned m functionName n inst)
      ((slot m).drop (m.functionManager.deviceKeys functionName) (some inst)) := by
  unfold freeAllOwned
  rw [FunctionManager.foldl_devices h hn]
  have hdevice : ∀ m₁ (d : CharBuf functionNameLength),
      Updates m₁ ((List.range m.resources.length).foldl (fun m' _ => freeOwned inst m' d.chars) m₁)
        ((slot m₁).drop
          ((List.range m.resources.length).flatMap fun _ => [d.chars]) (some inst)) := by
    intro m₁ d
    exact foldl_drop (fun m₂ _ => freeOwned_updates m₂ d.chars inst) _ m₁
  have hu := foldl_drop hdevice (m.functionManager.devicesOf functionName) m
  exact ⟨hu.functionManager, hu.length,
    hu.slots.trans (Holdings.drop_congr (mem_repeated_iff hne) _)⟩

/-! ## The calls -/

/-- An unknown function has no devices. -/
lemma FunctionManager.deviceKeys_of_unknown {fm : FunctionManager} (h : fm.AllAvailable)
    {name : CString} (hf : fm.isAvailable name = false) : fm.deviceKeys name = [] := by
  rw [FunctionManager.isAvailable_eq_isSome h] at hf
  have hnone : fm.find name = none := by simpa using hf
  unfold FunctionManager.deviceKeys FunctionManager.devicesOf
  rw [hnone]
  rfl

/-- A known function has a device count. -/
lemma FunctionManager.getDeviceCount_of_known {fm : FunctionManager} (h : fm.AllAvailable)
    {name : CString} (hf : fm.isAvailable name ≠ false) : ∃ n, fm.getDeviceCount name = some n := by
  rw [FunctionManager.isAvailable_eq_isSome h, Bool.ne_false_iff] at hf
  obtain ⟨entry, hentry⟩ := Option.isSome_iff_exists.mp hf
  exact ⟨entry.definition.deviceName.count, by rw [FunctionManager.getDeviceCount, hentry]; rfl⟩

/-- **Availability**: the function is known and all its devices are free. -/
theorem resourceManagerIsAvailable_iff (h : m.functionManager.AllAvailable)
    (functionName : CString)
    (hne : ∀ d ∈ m.functionManager.deviceKeys functionName, 0 < m.resources.length) :
    resourceManagerIsAvailable m functionName = true ↔
      m.functionManager.isAvailable functionName = true ∧
        (slot m).CanTake (m.functionManager.deviceKeys functionName) := by
  unfold resourceManagerIsAvailable
  split_ifs with hf
  · simp [hf]
  · obtain ⟨n, hn⟩ := FunctionManager.getDeviceCount_of_known h hf
    rw [hn]
    simp only [devicesFree_iff h hn hne, Bool.ne_false_iff.mp hf, true_and]

/-- **Acquire** never leaves the table; it takes all devices when all are free, and otherwise is
refused and changes nothing. -/
theorem resourceManagerAcquire_spec [DecidableEq ι] (h : m.functionManager.AllAvailable)
    (functionName : CString)
    (hne : ∀ d ∈ m.functionManager.deviceKeys functionName, 0 < m.resources.length) (inst : ι) :
    ∃ code m', resourceManagerAcquire m functionName inst = some (code, m') ∧
      Updates m m' ((slot m).after
        (.take (m.functionManager.deviceKeys functionName) (some inst))) ∧
      code = if (slot m).CanTake (m.functionManager.deviceKeys functionName) then 0 else -1 := by
  rw [resourceManagerAcquire, Holdings.after]
  split_ifs with hf hfree hfree
  · refine ⟨0, m, rfl, ⟨rfl, rfl, ?_⟩, rfl⟩
    rw [FunctionManager.deviceKeys_of_unknown h hf, Holdings.take_nil]
  · refine absurd ?_ hfree
    rw [FunctionManager.deviceKeys_of_unknown h hf]
    simp [Holdings.CanTake]
  · obtain ⟨n, hn⟩ := FunctionManager.getDeviceCount_of_known h hf
    have hreg : ∀ d ∈ m.functionManager.deviceKeys functionName, slot m d ≠ .absent := by
      intro d hd
      rw [hfree d hd]
      simp
    obtain ⟨m', hm', hu⟩ := markAllBusy_updates h hn hne hreg inst
    refine ⟨0, m', ?_, hu, rfl⟩
    simp only [hn, (devicesFree_iff h hn hne).mpr hfree, if_true, hm', Option.map_some]
  · obtain ⟨n, hn⟩ := FunctionManager.getDeviceCount_of_known h hf
    refine ⟨-1, m, ?_, ⟨rfl, rfl, rfl⟩, rfl⟩
    rw [← devicesFree_iff h hn hne] at hfree
    simp [hn, hfree]

/-- **Release** drops what the instance holds among the devices of the function. -/
theorem resourceManagerRelease_spec [DecidableEq ι] (h : m.functionManager.AllAvailable)
    (functionName : CString)
    (hne : ∀ d ∈ m.functionManager.deviceKeys functionName, 0 < m.resources.length) (inst : ι) :
    ∃ m', resourceManagerRelease m functionName inst = (0, m') ∧
      Updates m m' ((slot m).drop (m.functionManager.deviceKeys functionName) (some inst)) := by
  unfold resourceManagerRelease
  split_ifs with hf
  · refine ⟨m, rfl, rfl, rfl, ?_⟩
    rw [FunctionManager.deviceKeys_of_unknown h hf, Holdings.drop_nil]
  · obtain ⟨n, hn⟩ := FunctionManager.getDeviceCount_of_known h hf
    refine ⟨freeAllOwned m functionName n inst, by rw [hn], ?_⟩
    exact freeAllOwned_updates h hn hne inst

/-- What a registration adds: the name as stored, unless the table is full or the name is found. -/
def addedName (m : ResourceManager ι) (name : CString) : Option CString :=
  if m.resources.length ≥ resourceManagerMaxResources ∨
      (resourceManagerFind m.resources name).isSome then none
  else some (freeResource (ι := ι) name).key

/-- **Register** adds the stored name as a free resource. -/
theorem resourceManagerRegister_spec [DecidableEq ι] (m : ResourceManager ι) (name : CString) :
    (resourceManagerRegister m name).2.functionManager = m.functionManager ∧
      m.resources.length ≤ (resourceManagerRegister m name).2.resources.length ∧
      slot (resourceManagerRegister m name).2 = (slot m).after (.add (addedName m name)) := by
  unfold resourceManagerRegister addedName
  by_cases hfull : m.resources.length ≥ resourceManagerMaxResources
  · rw [dif_pos hfull, if_pos (Or.inl hfull)]
    exact ⟨rfl, Nat.le_refl _, rfl⟩
  by_cases hfound : (resourceManagerFind m.resources name).isSome
  · rw [dif_neg hfull, if_pos hfound, if_pos (Or.inr hfound)]
    exact ⟨rfl, Nat.le_refl _, rfl⟩
  · rw [dif_neg hfull, if_neg hfound, if_neg (not_or.mpr ⟨hfull, hfound⟩)]
    refine ⟨rfl, by simp, ?_⟩
    funext d
    rw [Holdings.after, Holdings.add, slot, slot, lookup_append]
    cases hd : lookup ResourceInfo.key m.resources d with
    | some r =>
        have hne : r.slot ≠ .absent := r.slot_ne_absent
        simp [hne]
    | none =>
        by_cases hk : d = (freeResource (ι := ι) name).key
        · subst hk
          simp [ResourceInfo.slot, freeResource]
        · simp [hk, Ne.symm hk]

end calls

end HardwareTest
