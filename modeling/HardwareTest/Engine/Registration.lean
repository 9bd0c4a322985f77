import HardwareTest.Engine.State
import HardwareTest.Lib.KeyedTable
import Mathlib.Data.List.Find

/-!
# Sequences of registrations: `services/test-engine.c`

`test_engine_register` fills the table that `test_engine_find_test` searches.

* `register_cases`: the two ways a call can go.
* `Holds`: the table holds the successful calls in their order, and these have one name. It holds
  after every sequence of calls (`Holds.answer` for one call, `Holds.afterCalls` for the sequence):
  the duplicate check accepts the name that is there and no other.
* `BoundedMap`: what registration is for, a map of at most `maxTests` names in which a name is
  entered once.
* `boundedMap_iff`: a sequence of calls behaves so iff it has at most one call.
-/

namespace HardwareTest

open Lib

/-! ## Calls -/

/-- The arguments of a `test_engine_register` call, none of them NULL but the context. -/
structure RegisterCall where
  name : CString
  context : Option Address
  operations : TestOperations

/-- The entry that a successful call fills in.
Source: `services/test-engine.c`, `test_engine_register` -/
def RegisterCall.entry (call : RegisterCall) : TestEntry where
  name := safeStringCopy call.name testNameLength
  operations := call.operations
  timeoutMs := 0
  privateData := call.context

namespace TestEngine

/-- What a call returns, and the engine after it. -/
def answer (e : TestEngine) (call : RegisterCall) : ℤ × TestEngine :=
  e.register call.name call.context call.operations

/-- The engine after a sequence of calls. -/
def afterCalls (e : TestEngine) (calls : List RegisterCall) : TestEngine :=
  calls.foldl (fun e call => (e.answer call).2) e

/-- The calls of a sequence that return 0, in their order. -/
def successful (e : TestEngine) : List RegisterCall → List RegisterCall
  | [] => []
  | call :: calls =>
      (if (e.answer call).1 = 0 then [call] else []) ++ (e.answer call).2.successful calls

/-- Every successful call is a call. -/
lemma length_successful_le (e : TestEngine) (calls : List RegisterCall) :
    (e.successful calls).length ≤ calls.length := by
  induction calls generalizing e with
  | nil => exact Nat.le_refl _
  | cons call calls ih =>
      have hrest := ih (e.answer call).2
      rw [successful, List.length_append, List.length_cons]
      split_ifs
      · rw [List.length_singleton]
        omega
      · rw [List.length_nil]
        omega

/-- The entry that the pointer returned by `test_engine_find_test` refers to. -/
def findEntry (e : TestEngine) (name : CString) : Option TestEntry :=
  (e.findTest name).bind e.tests.get?

/-- **What a call does.** It is refused when the table is full or an entry of another name is in
it; otherwise the entry is appended. Source: `services/test-engine.c`, `test_engine_register` -/
lemma register_cases (e : TestEngine) (name : CString) (context : Option Address)
    (operations : TestOperations) :
    ((maxTests ≤ e.tests.count ∨ ∃ entry ∈ e.tests.items, entry.name.chars ≠ name) ∧
      e.register name context operations = (-1, e)) ∨
    ∃ hroom : e.tests.count < maxTests, (∀ entry ∈ e.tests.items, entry.name.chars = name) ∧
      e.register name context operations =
        (0, { e with
          tests := e.tests.push (RegisterCall.mk name context operations).entry hroom }) := by
  unfold TestEngine.register
  by_cases hfull : e.tests.count ≥ maxTests
  · rw [dif_pos hfull]
    exact .inl ⟨.inl hfull, rfl⟩
  · rw [dif_neg hfull]
    split_ifs with hany
    · rw [List.any_eq_true] at hany
      obtain ⟨entry, hentry, hne⟩ := hany
      rw [Bool.not_eq_true', safeStringCompare_eq_false] at hne
      exact .inl ⟨.inr ⟨entry, hentry, hne⟩, rfl⟩
    · refine .inr ⟨Nat.lt_of_not_le hfull, fun entry hentry => ?_, rfl⟩
      by_contra hne
      apply hany
      rw [List.any_eq_true]
      exact ⟨entry, hentry, by rw [safeStringCompare_eq_false.mpr hne]; rfl⟩

/-- What the answer to a call is. -/
lemma answer_cases (e : TestEngine) (call : RegisterCall) :
    ((maxTests ≤ e.tests.count ∨ ∃ entry ∈ e.tests.items, entry.name.chars ≠ call.name) ∧
      e.answer call = (-1, e)) ∨
    ∃ hroom : e.tests.count < maxTests, (∀ entry ∈ e.tests.items, entry.name.chars = call.name) ∧
      e.answer call = (0, { e with tests := e.tests.push call.entry hroom }) :=
  e.register_cases call.name call.context call.operations

/-- The entry found is the first one of the name. -/
lemma findEntry_eq_lookup (e : TestEngine) (name : CString) :
    e.findEntry name = lookup (fun entry => entry.name.chars) e.tests.items name := by
  rw [lookup_eq_getElem?]
  unfold findEntry
  congr 1
  funext index
  exact FixedTable.get?_eq_items _ _

end TestEngine

/-! ## The table after a sequence of calls -/

/-- The table holds the calls `done`, which have one name. -/
structure Holds (e : TestEngine) (done : List RegisterCall) : Prop where
  items : e.tests.items = done.map RegisterCall.entry
  count : e.tests.count = done.length
  fits : ∀ call ∈ done, call.name.length < testNameLength
  oneName : ∀ call ∈ done, ∀ other ∈ done, call.name = other.name

section holds

variable {e : TestEngine} {done : List RegisterCall} {call : RegisterCall}

/-- An entry keeps a name that fits. -/
lemma RegisterCall.entry_name (h : call.name.length < testNameLength) :
    call.entry.name.chars = call.name := by
  rw [RegisterCall.entry, safeStringCopy_chars_of_lt h]

/-- The entries have a name iff the calls have it. -/
lemma Holds.forall_name_iff (h : Holds e done) (name : CString) :
    (∀ entry ∈ e.tests.items, entry.name.chars = name) ↔ ∀ c ∈ done, c.name = name := by
  rw [h.items, List.forall_mem_map]
  constructor
  · intro hall c hc
    rw [← hall c hc, RegisterCall.entry_name (h.fits c hc)]
  · intro hall c hc
    rw [RegisterCall.entry_name (h.fits c hc), hall c hc]

/-- One call: a successful one is appended. -/
lemma Holds.answer (h : Holds e done) (hname : call.name.length < testNameLength) :
    Holds (e.answer call).2 (done ++ if (e.answer call).1 = 0 then [call] else []) := by
  rcases e.answer_cases call with ⟨-, hanswer⟩ | ⟨hroom, hsame, hanswer⟩
  · rw [hanswer, if_neg (by simp), List.append_nil]
    exact h
  · rw [h.forall_name_iff] at hsame
    rw [hanswer, if_pos rfl]
    constructor
    · rw [List.map_append, ← h.items]
      exact FixedTable.items_push _ _ hroom
    · rw [List.length_append, ← h.count]
      rfl
    · rw [List.forall_mem_append]
      exact ⟨h.fits, by simpa using hname⟩
    · have hall : ∀ c ∈ done ++ [call], c.name = call.name := by
        rw [List.forall_mem_append]
        exact ⟨hsame, by simp⟩
      intro c hc d hd
      rw [hall c hc, hall d hd]

/-- A sequence of calls: the successful ones are appended. -/
lemma Holds.afterCalls (h : Holds e done) {calls : List RegisterCall}
    (hnames : ∀ call ∈ calls, call.name.length < testNameLength) :
    Holds (e.afterCalls calls) (done ++ e.successful calls) := by
  induction calls generalizing e done with
  | nil =>
      rw [TestEngine.successful, List.append_nil]
      exact h
  | cons call calls ih =>
      rw [List.forall_mem_cons] at hnames
      rw [TestEngine.successful, ← List.append_assoc]
      exact ih (h.answer hnames.1) hnames.2

/-- A table without entries holds no call. -/
lemma holds_nil (hempty : e.tests.count = 0) : Holds e [] where
  items := by simp [FixedTable.items, hempty]
  count := hempty
  fits := by simp
  oneName := by simp

/-- The entry found is the one of the first call with the name. -/
lemma Holds.findEntry (h : Holds e done) (name : CString) :
    e.findEntry name = (lookup RegisterCall.name done name).map RegisterCall.entry := by
  rw [TestEngine.findEntry_eq_lookup, h.items]
  unfold lookup
  rw [List.find?_map]
  congr 1
  apply List.find?_congr
  intro c hc
  simp only [Function.comp_apply, RegisterCall.entry_name (h.fits c hc)]

end holds

/-! ## Registration as a map -/

/-- What a bounded map answers to a call when the calls `done` are in it. -/
structure AnsweredAsMap (e : TestEngine) (done : List RegisterCall) (call : RegisterCall) :
    Prop where
  accepted : (e.answer call).1 = 0 ↔
    e.tests.count < maxTests ∧ ∀ earlier ∈ done, earlier.name ≠ call.name
  refused : (e.answer call).1 ≠ 0 → (e.answer call).2 = e

/-- **Registration is a bounded map** over a sequence of calls: every call is answered as one
answers it, and afterwards the successful calls are found under their names and nothing else. -/
structure BoundedMap (e : TestEngine) (calls : List RegisterCall) : Prop where
  answers : ∀ before call after, calls = before ++ call :: after →
    AnsweredAsMap (e.afterCalls before) (e.successful before) call
  found : ∀ call ∈ e.successful calls, ∃ entry,
    (e.afterCalls calls).findEntry call.name = some entry ∧
      entry.operations = call.operations ∧ entry.privateData = call.context
  others : ∀ name, (∀ call ∈ e.successful calls, call.name ≠ name) →
    (e.afterCalls calls).findTest name = none

/-- Between empty and full the duplicate check says the opposite of what a map says. -/
lemma not_answeredAsMap {e : TestEngine} {done : List RegisterCall} (h : Holds e done)
    {first : RegisterCall} (hfirst : first ∈ done) (hroom : e.tests.count < maxTests)
    (call : RegisterCall) : ¬ AnsweredAsMap e done call := by
  intro hmap
  have haccepted := hmap.accepted
  have hcases := e.answer_cases call
  rw [h.forall_name_iff] at hcases
  rcases hcases with ⟨hfull | ⟨entry, hentry, hother⟩, hanswer⟩ | ⟨_, hsame, hanswer⟩
  · exact absurd hroom (Nat.not_lt.mpr hfull)
  · -- a call with a new name is refused
    have hnew : ∀ earlier ∈ done, earlier.name ≠ call.name := by
      intro earlier hearlier heq
      refine hother ((h.forall_name_iff call.name).mpr (fun c hc => ?_) entry hentry)
      rw [h.oneName c hc earlier hearlier, heq]
    rw [hanswer] at haccepted
    exact absurd (haccepted.mpr ⟨hroom, hnew⟩) (by simp)
  · -- a call with the old name is accepted
    rw [hanswer] at haccepted
    exact (haccepted.mp rfl).2 first hfirst (hsame first hfirst)

/-- An empty table accepts a call, and a full one refuses it, as a map does. -/
lemma answeredAsMap_of_empty_or_full {e : TestEngine} {done : List RegisterCall} (h : Holds e done)
    (hcond : done = [] ∨ maxTests ≤ e.tests.count) (call : RegisterCall) :
    AnsweredAsMap e done call := by
  rcases e.answer_cases call with ⟨hwhy, hanswer⟩ | ⟨hroom, -, hanswer⟩
  · have hfull : maxTests ≤ e.tests.count := by
      rcases hcond with rfl | hfull
      · apply hwhy.resolve_right
        rintro ⟨entry, hentry, -⟩
        rw [h.items] at hentry
        exact absurd hentry (by simp)
      · exact hfull
    constructor
    · rw [hanswer]
      exact iff_of_false (by simp) fun hroom => absurd hroom.1 (Nat.not_lt.mpr hfull)
    · rw [hanswer]
      exact fun _ => rfl
  · have hnil : done = [] := hcond.resolve_right (Nat.not_le.mpr hroom)
    subst hnil
    constructor
    · rw [hanswer]
      exact iff_of_true rfl ⟨hroom, by simp⟩
    · rw [hanswer]
      exact fun hne => absurd rfl hne

/-- **One call** is answered as a map answers it iff the table is empty or full. -/
lemma answeredAsMap_iff {e : TestEngine} {done : List RegisterCall} (h : Holds e done)
    (call : RegisterCall) : AnsweredAsMap e done call ↔ done = [] ∨ maxTests ≤ e.tests.count := by
  constructor
  · intro hmap
    by_contra hbetween
    rw [not_or, Nat.not_le] at hbetween
    obtain ⟨first, hfirst⟩ := List.exists_mem_of_ne_nil _ hbetween.1
    exact not_answeredAsMap h hfirst hbetween.2 call hmap
  · intro hcond
    exact answeredAsMap_of_empty_or_full h hcond call

section sequences

variable {e : TestEngine}

/-- From an empty table the second call of a sequence is answered wrongly. -/
lemma not_boundedMap_of_two (hempty : e.tests.count = 0) {first second : RegisterCall}
    (hname : first.name.length < testNameLength) (rest : List RegisterCall) :
    ¬ BoundedMap e (first :: second :: rest) := by
  intro hmap
  have hroom : e.tests.count < maxTests := by
    rw [hempty]
    decide
  have hfirst : (e.answer first).1 = 0 :=
    (hmap.answers [] first (second :: rest) rfl).accepted.mpr
      ⟨hroom, by simp [TestEngine.successful]⟩
  have hdone : e.successful [first] = [first] := by
    rw [TestEngine.successful, if_pos hfirst]
    rfl
  -- the first call is in the table when the second is made
  have hone : Holds (e.afterCalls [first]) ([] ++ e.successful [first]) :=
    (holds_nil hempty).afterCalls (by simpa using hname)
  rw [hdone, List.nil_append] at hone
  have hsecond := hmap.answers [first] second rest rfl
  rw [hdone] at hsecond
  refine not_answeredAsMap hone (List.mem_singleton_self first) ?_ second hsecond
  rw [hone.count, List.length_singleton]
  decide

/-- From an empty table, a sequence of at most one call is answered as by a map. -/
lemma boundedMap_of_length_le_one (hempty : e.tests.count = 0) {calls : List RegisterCall}
    (hnames : ∀ call ∈ calls, call.name.length < testNameLength) (hlen : calls.length ≤ 1) :
    BoundedMap e calls := by
  have hstart : Holds e [] := holds_nil hempty
  have hafter : Holds (e.afterCalls calls) (e.successful calls) := hstart.afterCalls hnames
  constructor
  · rintro before call after rfl
    obtain rfl : before = [] := by
      rw [List.length_append, List.length_cons] at hlen
      exact List.length_eq_zero_iff.mp (by omega)
    exact (answeredAsMap_iff hstart call).mpr (.inl rfl)
  · intro call hcall
    have hone : e.successful calls = [call] := by
      have hle := (e.length_successful_le calls).trans hlen
      obtain ⟨only, hone⟩ := List.length_eq_one_iff.mp
        (Nat.le_antisymm hle (List.length_pos_of_mem hcall))
      rw [hone, List.mem_singleton] at hcall
      rw [hone, hcall]
    refine ⟨call.entry, ?_, rfl, rfl⟩
    rw [hafter.findEntry, hone, lookup_cons, if_pos rfl]
    rfl
  · intro name hother
    have hnone := hafter.findEntry name
    have hlookup : lookup RegisterCall.name (e.successful calls) name = none := by
      unfold lookup
      rw [List.find?_eq_none]
      intro c hc
      simpa using hother c hc
    rw [hlookup, Option.map_none, TestEngine.findEntry_eq_lookup, ← indexOf_eq_none_iff] at hnone
    exact hnone

end sequences

/-- **Registration is a bounded map** exactly over the sequences of at most one call: the second
call of a longer one is answered wrongly. Source: `services/test-engine.c`,
`test_engine_register`, `test_engine_find_test` -/
theorem boundedMap_iff {e : TestEngine} (hempty : e.tests.count = 0) {calls : List RegisterCall}
    (hnames : ∀ call ∈ calls, call.name.length < testNameLength) :
    BoundedMap e calls ↔ calls.length ≤ 1 := by
  constructor
  · intro hmap
    rcases calls with _ | ⟨first, _ | ⟨second, rest⟩⟩
    · exact Nat.zero_le 1
    · exact Nat.le_refl 1
    · exact absurd hmap (not_boundedMap_of_two hempty (hnames first (by simp)) rest)
  · exact boundedMap_of_length_le_one hempty hnames

/-- The one-LED engine before the registration of its test. -/
def unregisteredLed : TestEngine := { ledEngine with tests := ⟨.replicate _ .zeroed, 0⟩ }

/-- The registration of the LED's test. -/
def registerStatus : RegisterCall :=
  ⟨cstr "status_indication_test", none, ⟨some 16, some 32, none⟩⟩

/-- The registration of a second test. -/
def registerBlink : RegisterCall := ⟨cstr "led_blink_test", none, ⟨none, some 48, none⟩⟩

/-- The one test of the LED is registered as in a map. -/
theorem boundedMap_status : BoundedMap unregisteredLed [registerStatus] :=
  (boundedMap_iff rfl (by decide)).mpr (Nat.le_refl 1)

/-- The second test is refused, although there is room and its name is new. -/
theorem registerBlink_refused : ¬ BoundedMap unregisteredLed [registerStatus, registerBlink] := by
  intro hmap
  have hblink := (hmap.answers [registerStatus] registerBlink [] rfl).accepted.mpr
    ⟨by decide, by decide⟩
  exact absurd hblink (by decide)

end HardwareTest
