import HardwareTest.Config.ParameterBounds
import HardwareTest.Lib.Alike

/-!
# The parameters of a binding as slots

The parameters of a binding are rewritten in place, each by the key and the type of a
`ParameterSlot`. `get_string` clears a value that the document does not give, `get_int` and
`get_bool` leave it.

* `Written old w slots`: the list under construction has the slots written over the old parameters,
  as far as there is room; one lemma for each form of a section.
* `forall_alike_finish_iff`: such lists are alike from any two old ones iff the slots that find room
  forget the old value.
-/

namespace HardwareTest

open Lib CJson

/-! ## Alike parameters -/

/-- Two values with the same reading of a type. -/
def ConfigValue.ReadsAlike (type : ConfigValueType) (v w : ConfigValue) : Prop :=
  match type with
  | .string => v.stringValue = w.stringValue
  | .int => v.intValue = w.intValue
  | .bool => v.boolValue = w.boolValue
  | .double => v = w

/-- Two parameters that agree in their key, their type and the reading that goes with it. -/
structure ConfigParameter.Alike (p q : ConfigParameter) : Prop where
  key : p.key = q.key
  type : p.type = q.type
  value : p.value.ReadsAlike p.type q.value

/-! ## Slots -/

/-- How one parameter is rewritten. -/
structure ParameterSlot where
  key : CString
  type : ConfigValueType
  write : ConfigValue → ConfigValue

namespace ParameterSlot

/-- The parameter that a slot leaves. -/
def rewrite (slot : ParameterSlot) (p : ConfigParameter) : ConfigParameter :=
  ParameterWriter.rewriteParameter slot.key slot.type slot.write p

/-- The slot leaves nothing of the old value. -/
def Forgets (slot : ParameterSlot) : Prop :=
  ∀ v w, (slot.write v).ReadsAlike slot.type (slot.write w)

end ParameterSlot

namespace ParameterWriter

/-- The slots are written over the old parameters, as far as there is room. -/
structure Written (old : Configuration) (w : ParameterWriter) (slots : List ParameterSlot) :
    Prop where
  count : w.count = min maxConfigParameters slots.length
  written : ∀ j slot, slots[j]? = some slot → ∀ h : j < maxConfigParameters,
    w.parameters[j] = slot.rewrite old.entries[j]
  untouched : ∀ j, ∀ h : j < maxConfigParameters, w.count ≤ j →
    w.parameters[j] = old.entries[j]

section written

variable {old : Configuration} {w : ParameterWriter} {slots : List ParameterSlot}

/-- Before the first section. -/
lemma written_start : Written old (start old) [] := ⟨rfl, nofun, fun _ _ _ => rfl⟩

/-- A slot that finds room. -/
lemma Written.put (h : Written old w slots) (hroom : slots.length < maxConfigParameters)
    {key : CString} {type : ConfigValueType} {f : ConfigValue → ConfigValue} :
    Written old (w.put key type f) (slots ++ [⟨key, type, f⟩]) := by
  have hcount := h.count
  have hlt : w.count < maxConfigParameters := by omega
  have hput : w.put key type f = _ := dif_pos hlt
  rw [hput]
  refine ⟨?_, fun j slot hslot hj => ?_, fun j hj hle => ?_⟩
  · show w.count + 1 = _
    rw [List.length_append, List.length_singleton]
    omega
  · rcases Nat.lt_or_ge j slots.length with hearlier | hlast
    · rw [List.getElem?_append_left hearlier] at hslot
      rw [Vector.getElem_set_ne _ _ (by omega)]
      exact h.written j slot hslot hj
    · rw [List.getElem?_append_right hlast, List.getElem?_singleton] at hslot
      split_ifs at hslot with hzero
      obtain rfl := Option.some.inj hslot
      obtain rfl : w.count = j := by omega
      have hread := h.untouched w.count hj (Nat.le_refl _)
      simp only [Vector.getElem_set_self]
      show rewriteParameter key type f w.parameters[w.count] = _
      rw [hread]
      rfl
  · have hle' : w.count + 1 ≤ j := hle
    rw [Vector.getElem_set_ne _ _ (by omega), h.untouched j hj (by omega)]

/-- Slots that find no room. -/
lemma Written.full (h : Written old w slots) (hfull : maxConfigParameters ≤ slots.length)
    (more : List ParameterSlot) : Written old w (slots ++ more) := by
  have hcount := h.count
  refine ⟨?_, fun j slot hslot hj => ?_, h.untouched⟩
  · rw [List.length_append]
    omega
  · rw [List.getElem?_append_left (by omega)] at hslot
    exact h.written j slot hslot hj

/-- A slot behind the bound check. -/
lemma Written.put_guarded (h : Written old w slots) {key : CString} {type : ConfigValueType}
    {f : ConfigValue → ConfigValue} :
    Written old (if w.count < maxConfigParameters then w.put key type f else w)
      (slots ++ [⟨key, type, f⟩]) := by
  have hcount := h.count
  split_ifs with hroom
  · exact h.put (by omega)
  · exact h.full (by omega) _

/-- An array writes a slot for each of its elements of the right kind. -/
lemma Written.putArray (h : Written old w slots) (key : CString) (type : ConfigValueType)
    (read : CJson → Option (ConfigValue → ConfigValue)) (items : List CJson) :
    Written old (putArray key type read items w)
      (slots ++ (items.filterMap read).map (ParameterSlot.mk key type)) := by
  induction items generalizing w slots with
  | nil =>
      rw [List.filterMap_nil, List.map_nil, List.append_nil]
      exact h
  | cons element items ih =>
      have hcount := h.count
      rw [ParameterWriter.putArray]
      rcases hread : read element with _ | f
      · rw [List.filterMap_cons_none hread]
        exact ih h
      · rw [List.filterMap_cons_some hread, List.map_cons]
        simp only
        split_ifs with hfull
        · exact h.full (by omega) _
        · have hput : Written old (w.put key type f) (slots ++ [⟨key, type, f⟩]) :=
            h.put (by omega)
          have hrest := ih hput
          rwa [List.append_assoc] at hrest

/-- The slots of a section: those of its array, or the one of its single form. -/
def sectionSlots (key : CString) (type : ConfigValueType)
    (read : CJson → Option (ConfigValue → ConfigValue)) (item : Option CJson)
    (f : ConfigValue → ConfigValue) : List ParameterSlot :=
  arrayOr item (fun items => (items.filterMap read).map (ParameterSlot.mk key type))
    [⟨key, type, f⟩]

/-- A section has as many slots as it asks for parameters. -/
lemma length_sectionSlots (key : CString) (type : ConfigValueType)
    (read : CJson → Option (ConfigValue → ConfigValue)) (item : Option CJson)
    (f : ConfigValue → ConfigValue) :
    (sectionSlots key type read item f).length = demand read item := by
  unfold sectionSlots demand
  rcases harray : isArray item with _ | _
  · rw [arrayOr_single harray, arrayOr_single harray]
    rfl
  · obtain ⟨items, rfl⟩ := exists_items harray
    exact List.length_map _

/-- A section whose single form has no bound check, when that form finds room. -/
lemma Written.unguarded (h : Written old w slots) {key : CString} {type : ConfigValueType}
    {f : ConfigValue → ConfigValue} {read : CJson → Option (ConfigValue → ConfigValue)}
    {item : Option CJson} (hroom : isArray item = true ∨ slots.length < maxConfigParameters) :
    Written old (arrayOr item (ParameterWriter.putArray key type read · w) (w.put key type f))
      (slots ++ sectionSlots key type read item f) := by
  unfold sectionSlots
  rcases harray : isArray item with _ | _
  · rw [arrayOr_single harray, arrayOr_single harray]
    exact h.put (hroom.resolve_left (by simp [harray]))
  · obtain ⟨items, rfl⟩ := exists_items harray
    exact h.putArray key type read items

/-- The slots of the chips of the lines. -/
def linesChipSlots : Option CJson → List ParameterSlot
  | some (.array items) =>
      (items.filterMap stringElement).map (ParameterSlot.mk (cstr "line_chip") .string)
  | some (.string s) => [⟨cstr "line_chip", .string, fun v =>
      { v with stringValue := safeStringCopy s (configKeyLength - 1) }⟩]
  | _ => []

/-- The chips of the lines have as many slots as they ask for parameters. -/
lemma length_linesChipSlots (item : Option CJson) :
    (linesChipSlots item).length = linesChipDemand item := by
  rcases item with _ | (_ | _ | _ | _ | items | _)
  case some.array => exact List.length_map _
  all_goals rfl

/-- The chips of the lines, in every form. -/
lemma Written.putLinesChip (h : Written old w slots) (config : CJson) :
    Written old (putLinesChip config w)
      (slots ++ linesChipSlots (config.getObjectItem (cstr "lines_chip"))) := by
  unfold HardwareTest.putLinesChip
  rcases config.getObjectItem (cstr "lines_chip") with _ | (_ | _ | _ | chip | chips | _)
  case some.string => exact h.put_guarded
  case some.array => exact h.putArray _ _ _ chips
  all_goals simpa [linesChipSlots] using h

end written

end ParameterWriter

/-! ## Forgetting slots -/

namespace ParameterSlot

/-- An integer slot that may leave the old value forgets it iff it does not. -/
lemma forgets_int_iff {key : CString} {x : Option UInt32} :
    Forgets ⟨key, .int, fun v => { v with intValue := x.getD v.intValue }⟩ ↔ x.isSome := by
  constructor
  · intro h
    have hread : x.getD 0 = x.getD 1 := h ⟨.empty _, 0, false⟩ ⟨.empty _, 1, false⟩
    exact (getD_eq_getD_iff (by decide)).mp hread
  · intro h v w
    obtain ⟨y, rfl⟩ := Option.isSome_iff_exists.mp h
    rfl

/-- A boolean slot likewise. -/
lemma forgets_bool_iff {key : CString} {x : Option Bool} :
    Forgets ⟨key, .bool, fun v => { v with boolValue := x.getD v.boolValue }⟩ ↔ x.isSome := by
  constructor
  · intro h
    have hread : x.getD false = x.getD true := h ⟨.empty _, 0, false⟩ ⟨.empty _, 0, true⟩
    exact (getD_eq_getD_iff (by decide)).mp hread
  · intro h v w
    obtain ⟨y, rfl⟩ := Option.isSome_iff_exists.mp h
    rfl

/-- A string slot always writes. -/
lemma forgets_string {key : CString} {s : CharBuf configStringLength} :
    Forgets ⟨key, .string, fun v => { v with stringValue := s }⟩ := fun _ _ => rfl

end ParameterSlot

namespace ParameterWriter

variable {key : CString} {type : ConfigValueType} {f : ConfigValue → ConfigValue}
  {read : CJson → Option (ConfigValue → ConfigValue)} {item : Option CJson}

/-- The slots of a section forget iff it is an array or its single form forgets. -/
lemma forgets_sectionSlots_iff
    (hread : ∀ e g, read e = some g → ParameterSlot.Forgets ⟨key, type, g⟩) :
    (∀ slot ∈ sectionSlots key type read item f, slot.Forgets) ↔
      isArray item = true ∨ ParameterSlot.Forgets ⟨key, type, f⟩ := by
  unfold sectionSlots
  rcases harray : isArray item with _ | _
  · rw [arrayOr_single harray]
    simp
  · obtain ⟨items, rfl⟩ := exists_items harray
    refine ⟨fun _ => .inl rfl, fun _ slot hslot => ?_⟩
    obtain ⟨g, hg, rfl⟩ := List.mem_map.mp hslot
    obtain ⟨e, -, he⟩ := List.mem_filterMap.mp hg
    exact hread e g he

/-- A section whose single form finds room forgets, when all slots that find room do. -/
lemma forgets_single {slots before after : List ParameterSlot}
    (h : ∀ (j : ℕ) slot, slots[j]? = some slot → j < maxConfigParameters → slot.Forgets)
    (hsplit : slots = before ++ (sectionSlots key type read item f ++ after))
    (hroom : isArray item = true ∨ before.length < maxConfigParameters) :
    isArray item = true ∨ ParameterSlot.Forgets ⟨key, type, f⟩ := by
  rcases harray : isArray item with _ | _
  · refine .inr (h before.length _ ?_ (hroom.resolve_left (by simp [harray])))
    rw [hsplit, List.getElem?_append_right (Nat.le_refl _), Nat.sub_self, sectionSlots,
      arrayOr_single harray]
    rfl
  · exact .inl rfl

/-- The slots of the chips of the lines forget. -/
lemma forgets_linesChipSlots : ∀ slot ∈ linesChipSlots item, slot.Forgets := by
  rcases item with _ | (_ | _ | _ | chip | chips | _)
  case some.string =>
    intro slot hslot
    rw [List.mem_singleton.mp hslot]
    exact ParameterSlot.forgets_string
  case some.array =>
    intro slot hslot
    obtain ⟨g, hg, rfl⟩ := List.mem_map.mp hslot
    obtain ⟨e, -, he⟩ := List.mem_filterMap.mp hg
    obtain ⟨s, -, rfl⟩ := Option.map_eq_some_iff.mp he
    exact ParameterSlot.forgets_string
  all_goals nofun

/-- A number of an array forgets. -/
lemma forgets_intElement {e : CJson} {g : ConfigValue → ConfigValue} (h : intElement e = some g) :
    ParameterSlot.Forgets ⟨key, .int, g⟩ := by
  obtain ⟨x, -, rfl⟩ := Option.map_eq_some_iff.mp h
  exact fun _ _ => rfl

/-- A boolean of an array forgets. -/
lemma forgets_boolElement {e : CJson} {g : ConfigValue → ConfigValue}
    (h : boolElement e = some g) : ParameterSlot.Forgets ⟨key, .bool, g⟩ := by
  obtain ⟨b, -, rfl⟩ := Option.map_eq_some_iff.mp h
  exact fun _ _ => rfl

/-- **A list** of slots leaves alike configurations from any two old ones iff the slots that find
room forget the old value. -/
lemma forall_alike_finish_iff {run : Configuration → ParameterWriter} {slots : List ParameterSlot}
    (h : ∀ old, Written old (run old) slots) :
    (∀ old₁ old₂, FixedTable.Alike ConfigParameter.Alike (run old₁).finish (run old₂).finish) ↔
      ∀ (j : ℕ) slot, slots[j]? = some slot → j < maxConfigParameters → slot.Forgets := by
  constructor
  · intro halike j slot hslot hj v w
    have hlength := (List.getElem?_eq_some_iff.mp hslot).1
    let filledWith (v : ConfigValue) : Configuration := ⟨.replicate _ ⟨.empty _, .int, v⟩, 0⟩
    have hcount := (h (filledWith v)).count
    have hsame := (halike (filledWith v) (filledWith w)).entries j hj
      (show j < (run (filledWith v)).count by omega)
    have hread : (run (filledWith v)).finish.entries[j] = _ :=
      (h (filledWith v)).written j slot hslot hj
    have hread' : (run (filledWith w)).finish.entries[j] = _ :=
      (h (filledWith w)).written j slot hslot hj
    rw [hread, hread'] at hsame
    have hvalue := hsame.value
    simp only [filledWith, Vector.getElem_replicate] at hvalue
    exact hvalue
  · intro hforgets old₁ old₂
    have hcount₁ := (h old₁).count
    have hcount₂ := (h old₂).count
    refine ⟨?_, hcount₁.trans hcount₂.symm, fun j hj hlt => ?_⟩
    · show (run old₁).count ≤ maxConfigParameters
      omega
    · have hlength : j < slots.length := by
        have hlt' : j < (run old₁).count := hlt
        omega
      have hslot := List.getElem?_eq_getElem hlength
      show ConfigParameter.Alike ((run old₁).parameters[j]) ((run old₂).parameters[j])
      rw [(h old₁).written j _ hslot hj, (h old₂).written j _ hslot hj]
      exact ⟨rfl, rfl, hforgets j _ hslot hj _ _⟩

end ParameterWriter

end HardwareTest
