import HardwareTest.Validation.System

/-!
# Implemented validations: `validation_system_is_implemented`

* `Distinct`: no name is stored twice, and the entries fit their table. Every round of the loop over
  the tests keeps it, whatever the tests and the registry repeat.
* `linkedDescriptor_eq_some_iff`: the descriptor of a name is the first entry of the registry that
  has it.
* `implementedExact_init`: a name is implemented iff it is configured and linked.
-/

namespace HardwareTest

open Lib

namespace ValidationSystem

/-- The table holds each name once, and no more entries than cells. -/
structure Distinct (system : ValidationSystem) : Prop where
  nodup : (system.validations.items.map ValidationEntry.name).Nodup
  within : system.validations.WithinLimit

/-- A round of the loop keeps the names apart. -/
lemma Distinct.registerLinked {system : ValidationSystem} (h : system.Distinct)
    (registry : List ValidationDescriptor) (test : Test) :
    (registerLinked registry system test).Distinct := by
  unfold HardwareTest.registerLinked
  rcases linkedDescriptor registry test.definition.name.chars with _ | descriptor
  · exact h
  · simp only [registerDescriptor]
    split_ifs with hfull hany
    · exact h
    · exact h
    · refine ⟨?_, Nat.lt_of_not_le hfull⟩
      have hnew : ∀ other ∈ system.validations.items, other.name ≠ test.definition.name := by
        simpa [CharBuf.ext_iff] using hany
      rw [FixedTable.items_push, List.map_append, List.nodup_append]
      refine ⟨h.nodup, List.nodup_singleton _, fun name hname added hadded heq => ?_⟩
      obtain ⟨other, hother, rfl⟩ := List.mem_map.mp hname
      rw [List.map_singleton, List.mem_singleton] at hadded
      rw [safeStringCopy_self] at hadded
      exact hnew other hother (heq.trans hadded)

/-- The table before the first test. -/
def empty : ValidationSystem := ⟨⟨.replicate _ .zeroed, 0⟩⟩

/-- The table after any tests. -/
lemma distinct_foldl (registry : List ValidationDescriptor) (tests : List Test)
    {system : ValidationSystem} (h : system.Distinct) :
    (tests.foldl (HardwareTest.registerLinked registry) system).Distinct := by
  induction tests generalizing system with
  | nil => exact h
  | cons test tests ih => exact ih (h.registerLinked registry test)

end ValidationSystem

/-- The descriptor that the loop over the registry stops at is the first one of the name. -/
lemma linkedDescriptor_eq_some_iff {registry : List ValidationDescriptor} {name : CString}
    {descriptor : ValidationDescriptor} : linkedDescriptor registry name = some descriptor ↔
      descriptor.name = name ∧ ∃ earlier later, registry = earlier ++ descriptor :: later ∧
        ∀ other ∈ earlier, other.name ≠ name := by
  unfold linkedDescriptor
  rw [List.find?_eq_some_iff_append]
  simp only [safeStringCompare_eq_true, Bool.not_eq_true', safeStringCompare_eq_false,
    eq_comm (a := name), ne_comm (a := name)]

/-- The loop stops at a descriptor iff one of the registry has the name. -/
lemma linkedDescriptor_isSome_iff {registry : List ValidationDescriptor} {name : CString} :
    (linkedDescriptor registry name).isSome ↔ ∃ descriptor ∈ registry, descriptor.name = name := by
  unfold linkedDescriptor
  rw [List.find?_isSome]
  simp only [safeStringCompare_eq_true, eq_comm (a := name)]

/-- What the validation system holds after it was made for a registry and some tests. -/
structure ImplementedExact (registry : List ValidationDescriptor) (tests : List Test)
    (system : ValidationSystem) : Prop where
  implemented : ∀ name, system.isImplemented name = true ↔
    (∃ test ∈ tests, test.definition.name.chars = name) ∧
      ∃ descriptor ∈ registry, descriptor.name = name
  first : ∀ name descriptor, system.getDescriptor name = some descriptor →
    descriptor.name = name ∧ ∃ earlier later, registry = earlier ++ descriptor :: later ∧
      ∀ other ∈ earlier, other.name ≠ name
  nodup : (system.validations.items.map ValidationEntry.name).Nodup
  bounded : system.validations.count ≤ validationMaxCount

open ValidationSystem

/-- **Implemented means configured and linked.** Whatever names the tests and the registry repeat:
after `validation_system_init` a name is implemented iff a test of the test manager and a descriptor
of the registry have it; the descriptor returned is the first such one; and after any number of
tests no name is stored twice and the table has room for its entries.
Source: `validation/validation-system.c`, `validation_system_register_all_descriptors` -/
theorem implementedExact_init (block : ValidationSystem) (registry : List ValidationDescriptor)
    (testManager : TestManager) :
    (∃ system, validationSystemInit (some block) registry testManager = some system ∧
      ImplementedExact registry testManager.tests.items system) ∧
    ∀ k, ((testManager.tests.items.take k).foldl (registerLinked registry)
      ValidationSystem.empty).Distinct := by
  have hempty : ValidationSystem.empty.Distinct := ⟨List.nodup_nil, Nat.zero_le _⟩
  constructor
  · obtain ⟨system, hinit, hjoins⟩ := joins_init block registry testManager
    have hdistinct : system.Distinct := by
      obtain rfl := Option.some.inj hinit
      exact distinct_foldl registry _ hempty
    refine ⟨system, hinit, fun name => ?_, fun name descriptor hfound => ?_, hdistinct.nodup,
      hdistinct.within⟩
    · unfold isImplemented
      rw [hjoins.lookup, ← linkedDescriptor_isSome_iff]
      simp only [List.mem_map]
      split_ifs with hmem
      · simp [hmem]
      · simp [hmem]
    · rw [hjoins.lookup] at hfound
      split_ifs at hfound
      exact linkedDescriptor_eq_some_iff.mp hfound
  · intro k
    exact distinct_foldl registry (testManager.tests.items.take k) hempty

end HardwareTest
