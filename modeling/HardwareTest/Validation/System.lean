import HardwareTest.Engine.State
import HardwareTest.Lib.KeyedTable

/-!
# The validation system: `validation/validation-system.c`

The validations linked into the program (`validation_registry`) and the tests of the test manager
are joined by name; the joined entries can be registered with the test engine.

* `ValidationSystem.Joins`: after `validation_system_init` a name has a descriptor iff a test of
  the test manager has the name, and it is the first linked one (`joins_init`).
* `validationSystemRegister` goes back to the test manager and the function manager by name, then
  to the engine.

The managers come from `system->runtime`; they are passed as arguments.
-/

namespace HardwareTest

open Lib

/-! ## The model -/

/-- Source: `validation/validation-system.h`, `VALIDATION_MAX_COUNT` -/
abbrev validationMaxCount : ℕ := maxTests

/-- `ops` may be NULL. Source: `validation/validation-system.h`, `validation_descriptor_t` -/
structure ValidationDescriptor where
  name : CString
  context : Option Address
  ops : Option TestOperations

/-- Source: `validation/validation-system.h`, `validation_entry_t` -/
structure ValidationEntry where
  name : CharBuf testNameLength
  descriptor : Option ValidationDescriptor

/-- The entry `memset` leaves. -/
def ValidationEntry.zeroed : ValidationEntry := ⟨.empty _, none⟩

/-- Source: `validation/validation-system.c`, `validation_system_t` -/
structure ValidationSystem where
  validations : FixedTable ValidationEntry validationMaxCount

namespace ValidationSystem

variable (system : ValidationSystem)

/-- Source: `validation/validation-system.c`, `validation_system_get_descriptor` -/
def getDescriptor (name : CString) : Option ValidationDescriptor :=
  (system.validations.items.find? fun entry => safeStringCompare entry.name.chars name).bind
    ValidationEntry.descriptor

/-- Source: `validation/validation-system.c`, `validation_system_is_implemented` -/
def isImplemented (name : CString) : Bool := (system.getDescriptor name).isSome

/-- Source: `validation/validation-system.c`, `validation_system_register_descriptor` -/
def registerDescriptor (name : CString) (descriptor : ValidationDescriptor) :
    ℤ × ValidationSystem :=
  if h : validationMaxCount ≤ system.validations.count then (-1, system)
  else if system.validations.items.any fun entry => safeStringCompare entry.name.chars name then
    (-1, system)
  else
    let entry := ⟨safeStringCopy name testNameLength, some descriptor⟩
    (0, ⟨system.validations.push entry (Nat.lt_of_not_le h)⟩)

end ValidationSystem

/-- The `while` loop over `validation_registry` up to its NULL: the first descriptor of a name.
Source: `validation/validation-system.c`, `validation_system_register_all_descriptors` -/
def linkedDescriptor (registry : List ValidationDescriptor) (name : CString) :
    Option ValidationDescriptor :=
  registry.find? fun descriptor => safeStringCompare name descriptor.name

/-- One round of the loop over the tests.
Source: `validation/validation-system.c`, `validation_system_register_all_descriptors` -/
def registerLinked (registry : List ValidationDescriptor) (system : ValidationSystem)
    (test : Test) : ValidationSystem :=
  match linkedDescriptor registry test.definition.name.chars with
  | some descriptor => (system.registerDescriptor test.definition.name.chars descriptor).2
  | none => system

/-- Source: `validation/validation-system.c`, `validation_system_register_all_descriptors` -/
def validationSystemRegisterAllDescriptors (registry : List ValidationDescriptor)
    (testManager : TestManager) (system : ValidationSystem) : ℤ × ValidationSystem :=
  (0, testManager.tests.items.foldl (registerLinked registry) system)

/-- The system in the block `malloc` returned (`none` for NULL).
Source: `validation/validation-system.c`, `validation_system_init` -/
def validationSystemInit (block : Option ValidationSystem) (registry : List ValidationDescriptor)
    (testManager : TestManager) : Option ValidationSystem :=
  block.map fun _ =>
    (validationSystemRegisterAllDescriptors registry testManager ⟨⟨.replicate _ .zeroed, 0⟩⟩).2

/-- Source: `validation/validation-system.c`, `validation_system_register`, with the NULL test of
`test_engine_register` -/
def validationSystemRegister (system : ValidationSystem) (testManager : TestManager)
    (functionManager : FunctionManager) (e : TestEngine) (name : CString) : ℤ × TestEngine :=
  match testManager.getTest name with
  | none => (-1, e)
  | some test =>
    if !functionManager.isAvailable test.function.chars then (-1, e)
    else match functionManager.getFunction test.function.chars with
    | none => (-1, e)
    | some _ =>
      match system.getDescriptor name with
      | none => (-1, e)
      | some descriptor =>
        match descriptor.ops with
        | none => (-1, e)
        | some ops => e.register name descriptor.context ops

/-- Source: `validation/validation-system.c`, `validation_system_register_all` -/
def validationSystemRegisterAll (system : ValidationSystem) (testManager : TestManager)
    (functionManager : FunctionManager) (e : TestEngine) : ℤ × TestEngine :=
  (0, testManager.tests.items.foldl (fun e test =>
    (validationSystemRegister system testManager functionManager e
      test.definition.name.chars).2) e)

/-! ## The joined table -/

/-- What the loop has joined after the tests of the given names: every entry is linked, the entries
fit beside the names that are left, and the descriptor of a name is the first linked one. -/
structure ValidationSystem.Joins (registry : List ValidationDescriptor)
    (names : List CString) (system : ValidationSystem) : Prop where
  count_le : system.validations.count ≤ names.length
  linked : ∀ entry ∈ system.validations.items, entry.descriptor.isSome = true
  lookup : ∀ name, system.getDescriptor name =
    if name ∈ names then linkedDescriptor registry name else none

/-- The entry found has a descriptor. -/
lemma getDescriptor_isSome_iff {system : ValidationSystem}
    (h : ∀ entry ∈ system.validations.items, entry.descriptor.isSome = true) (name : CString) :
    (system.getDescriptor name).isSome = true ↔
      ∃ entry ∈ system.validations.items, entry.name.chars = name := by
  unfold ValidationSystem.getDescriptor
  cases hfind : system.validations.items.find? fun entry =>
      safeStringCompare entry.name.chars name with
  | none =>
      rw [List.find?_eq_none] at hfind
      simpa using hfind
  | some entry =>
      have hmem := List.mem_of_find?_eq_some hfind
      have hname := List.find?_some hfind
      rw [safeStringCompare_eq_true] at hname
      exact iff_of_true (h entry hmem) ⟨entry, hmem, hname⟩

/-- An entry stored behind the others is found when none of them has its name. -/
lemma getDescriptor_push {system : ValidationSystem} {entry : ValidationEntry}
    {h : system.validations.count < validationMaxCount}
    (hnew : ¬ ∃ other ∈ system.validations.items, other.name = entry.name) (name : CString) :
    (⟨system.validations.push entry h⟩ : ValidationSystem).getDescriptor name =
      if entry.name.chars = name then entry.descriptor else system.getDescriptor name := by
  unfold ValidationSystem.getDescriptor
  rw [FixedTable.items_push, List.find?_append]
  split_ifs with hname
  · have hnone : (system.validations.items.find? fun other =>
        safeStringCompare other.name.chars name) = none := by
      rw [List.find?_eq_none]
      intro other hother
      rw [safeStringCompare_eq_true, ← hname, ← CharBuf.ext_iff]
      exact fun heq => hnew ⟨other, hother, heq⟩
    simp [hnone, hname]
  · simp [safeStringCompare, hname]

/-- A name that is joined already or is not linked changes nothing. -/
lemma ValidationSystem.Joins.append_of_mem_or_unlinked {registry : List ValidationDescriptor}
    {names : List CString} {system : ValidationSystem} (h : system.Joins registry names)
    {added : CString} (hadded : added ∈ names ∨ linkedDescriptor registry added = none) :
    system.Joins registry (names ++ [added]) := by
  have hcount := h.count_le
  refine ⟨by rw [List.length_append]; omega, h.linked, fun name => ?_⟩
  rw [h.lookup]
  simp only [List.mem_append, List.mem_singleton, eq_comm (a := name)]
  rcases hadded with hin | hnone
  · by_cases hname : name ∈ names
    · simp [hname]
    · have hne : added ≠ name := fun heq => hname (heq ▸ hin)
      simp [hname, hne]
  · by_cases hname : added = name
    · rw [← hname, hnone, ite_self, ite_self]
    · simp [hname]

/-- One round joins one more name. -/
lemma ValidationSystem.Joins.registerLinked {registry : List ValidationDescriptor}
    {names : List CString} {system : ValidationSystem} (h : system.Joins registry names)
    (hlen : names.length < validationMaxCount) (test : Test) :
    (registerLinked registry system test).Joins registry
      (names ++ [test.definition.name.chars]) := by
  have hcount := h.count_le
  unfold HardwareTest.registerLinked
  rcases hlinked : linkedDescriptor registry test.definition.name.chars with _ | descriptor
  · exact h.append_of_mem_or_unlinked (.inr hlinked)
  · have hroom : ¬ validationMaxCount ≤ system.validations.count := by omega
    simp only [ValidationSystem.registerDescriptor, dif_neg hroom]
    split_ifs with hany
    · apply h.append_of_mem_or_unlinked
      left
      have hsome : (system.getDescriptor test.definition.name.chars).isSome = true := by
        rw [getDescriptor_isSome_iff h.linked]
        simpa using hany
      by_contra hnot
      rw [h.lookup, if_neg hnot] at hsome
      cases hsome
    · have hnew : ¬ ∃ other ∈ system.validations.items, other.name = test.definition.name := by
        simpa [CharBuf.ext_iff] using hany
      refine ⟨?_, ?_, fun name => ?_⟩
      · show system.validations.count + 1 ≤ _
        rw [List.length_append, List.length_singleton]
        omega
      · intro entry hentry
        rw [FixedTable.items_push, List.mem_append, List.mem_singleton] at hentry
        rcases hentry with hentry | rfl
        · exact h.linked entry hentry
        · rfl
      · rw [getDescriptor_push (by rwa [safeStringCopy_self])]
        rw [h.lookup]
        simp only [safeStringCopy_self, List.mem_append, List.mem_singleton, eq_comm (a := name)]
        by_cases hname : test.definition.name.chars = name
        · rw [if_pos hname, if_pos (.inr hname), ← hname, hlinked]
        · simp [hname]

/-- **The joined table** of `validation_system_init`: a name has a descriptor iff a test of the test
manager has the name and a linked validation has it; the descriptor is the first such one.
Source: `validation/validation-system.c`, `validation_system_init` -/
theorem joins_init (block : ValidationSystem) (registry : List ValidationDescriptor)
    (testManager : TestManager) :
    ∃ system, validationSystemInit (some block) registry testManager = some system ∧
      system.Joins registry
        (testManager.tests.items.map fun test => test.definition.name.chars) := by
  have hround : ∀ (tests : List Test) (names : List CString) (system : ValidationSystem),
      system.Joins registry names → names.length + tests.length ≤ validationMaxCount →
      (tests.foldl (registerLinked registry) system).Joins registry
        (names ++ tests.map fun test => test.definition.name.chars) := by
    intro tests
    induction tests with
    | nil =>
        intro names system h _
        simpa using h
    | cons test tests ih =>
        intro names system h hlen
        rw [List.length_cons] at hlen
        have hnext := ih _ _ (h.registerLinked (by omega) test)
          (by rw [List.length_append, List.length_singleton]; omega)
        simpa using hnext
  have hempty : (⟨⟨.replicate _ .zeroed, 0⟩⟩ : ValidationSystem).Joins registry [] :=
    ⟨Nat.le_refl _, nofun, fun _ => rfl⟩
  refine ⟨_, rfl, ?_⟩
  have hall := hround testManager.tests.items [] _ hempty
    (by simpa using FixedTable.length_items_le testManager.tests)
  simpa [validationSystemRegisterAllDescriptors] using hall

end HardwareTest
