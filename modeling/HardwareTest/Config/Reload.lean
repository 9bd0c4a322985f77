import HardwareTest.Config.Loaders
import HardwareTest.Lib.Alike

/-!
# Loading over an earlier configuration

The loaders rewrite the entries of their tables in place. A member that a document does not give is
left as it was, except where `get_string` clears it, so that what a load leaves may depend on the
configuration that was there before.

* `ForgetsPast`: from any two previous contents a load gives the same code and, on success, the same
  count and the same entries below it.
* `DeviceComplete`, `FunctionComplete`, `TestComplete`: an element gives every member. That is
  exactly when its assignments forget the old entry (`forgets_deviceAssignments_iff` and its
  siblings).
-/

namespace HardwareTest

open Lib CJson

/-- From any two previous contents a load gives the same code and, on success, tables that are
alike. -/
def ForgetsPast {κ α : Type} {n : ℕ} (table : κ → FixedTable α n) (same : α → α → Prop)
    (load : κ → Option (ℤ × κ)) : Prop :=
  ∀ c₁ c₂, ∃ code r₁ r₂, load c₁ = some (code, r₁) ∧ load c₂ = some (code, r₂) ∧
    (code = 0 → FixedTable.Alike same (table r₁) (table r₂))

/-- A load that fails at once changes nothing. -/
lemma forgetsPast_of_refused {κ α : Type} {n : ℕ} (table : κ → FixedTable α n)
    (same : α → α → Prop) : ForgetsPast table same fun c => some (-1, c) :=
  fun c₁ c₂ => ⟨-1, c₁, c₂, rfl, rfl, fun h => absurd h (by decide)⟩

/-- **A loader** that fills its table from an array forgets the past iff the array fits and every
element forgets the old entry. -/
lemma forgetsPast_fill_iff {κ α : Type} {n : ℕ} [Nonempty α] (table : κ → FixedTable α n)
    (same : α → α → Prop) (fs : ℕ → CJson → List (α → α)) (items : List CJson)
    (result : κ → FixedTable α n → κ) (htable : ∀ c u, table (result c u) = u)
    (hall : ∀ t, ∃ c, table c = t) :
    ForgetsPast table same (fun c =>
        (FixedTable.fill fs { table c with count := 0 } items).map fun u => ((0 : ℤ), result c u)) ↔
      items.length ≤ n ∧ ∀ i e, items[i]? = some e → Forgets same (fs i e) := by
  rw [← FixedTable.forall_alike_fill_iff same fs items]
  constructor
  · intro h t u
    obtain ⟨c₁, rfl⟩ := hall t
    obtain ⟨c₂, rfl⟩ := hall u
    obtain ⟨code, r₁, r₂, hload₁, hload₂, halike⟩ := h c₁ c₂
    rw [Option.map_eq_some_iff] at hload₁ hload₂
    obtain ⟨t', hfill₁, hr₁⟩ := hload₁
    obtain ⟨u', hfill₂, hr₂⟩ := hload₂
    obtain ⟨rfl, rfl⟩ := Prod.mk.inj hr₁
    obtain ⟨-, rfl⟩ := Prod.mk.inj hr₂
    have hsame := halike rfl
    rw [htable, htable] at hsame
    exact ⟨t', u', hfill₁, hfill₂, hsame⟩
  · intro h c₁ c₂
    obtain ⟨t', u', hfill₁, hfill₂, halike⟩ := h (table c₁) (table c₂)
    refine ⟨0, result c₁ t', result c₂ u', ?_, ?_, fun _ => ?_⟩
    · exact congrArg (Option.map fun u => ((0 : ℤ), result c₁ u)) hfill₁
    · exact congrArg (Option.map fun u => ((0 : ℤ), result c₂ u)) hfill₂
    · rwa [htable, htable]

/-- What an assignment of a string member does. -/
@[simp] lemma applyAll_assignString {α : Type} (element : CJson) (key : CString)
    (f : CString → α → α) (a : α) : applyAll (assignString element key f) a =
      (asString (element.getObjectItem key)).elim a (f · a) := by
  unfold assignString
  rcases asString (element.getObjectItem key) with _ | s
  · rfl
  · rfl

/-- The element has the string. -/
def HasString (element : CJson) (key : CString) : Prop :=
  (asString (element.getObjectItem key)).isSome

/-- Two buffers that differ. -/
lemma empty_ne_letter : (CharBuf.empty 64 ≠ safeStringCopy [97] 64) ∧
    (CharBuf.empty 128 ≠ safeStringCopy [97] 128) := by decide

/-! ## Devices -/

/-- A device gives every member. -/
structure DeviceComplete (device : CJson) : Prop where
  id : HasString device (cstr "id")
  name : HasString device (cstr "name")
  type : HasString device (cstr "type")
  description : HasString device (cstr "description")

/-- The entry that an element of `devices` leaves. -/
lemma applyAll_deviceAssignments (device : CJson) (d : DeviceDef) :
    applyAll (deviceAssignments device) d =
      ⟨((asString (device.getObjectItem (cstr "id"))).map (safeStringCopy · deviceNameLength)).getD
          d.id,
        ((asString (device.getObjectItem (cstr "type"))).map stringToDeviceType).getD d.type,
        ((asString (device.getObjectItem (cstr "name"))).map
          (safeStringCopy · deviceNameLength)).getD d.name,
        ((asString (device.getObjectItem (cstr "description"))).map
          (safeStringCopy · deviceDescLength)).getD d.description⟩ := by
  unfold deviceAssignments
  simp only [applyAll_append, applyAll_assignString]
  rcases asString (device.getObjectItem (cstr "id")) with _ | id
  all_goals rcases asString (device.getObjectItem (cstr "name")) with _ | name
  all_goals rcases asString (device.getObjectItem (cstr "type")) with _ | type
  all_goals rcases asString (device.getObjectItem (cstr "description")) with _ | description
  all_goals rfl

/-- A device forgets the old entry iff it gives every member. -/
lemma forgets_deviceAssignments_iff (device : CJson) :
    Forgets (· = ·) (deviceAssignments device) ↔ DeviceComplete device := by
  unfold Forgets
  simp only [applyAll_deviceAssignments]
  constructor
  · intro h
    obtain ⟨hid, htype, hname, hdescription⟩ := DeviceDef.mk.inj
      (h ⟨.empty _, .led, .empty _, .empty _⟩
        ⟨safeStringCopy [97] 64, .button, safeStringCopy [97] 64, safeStringCopy [97] 128⟩)
    rw [getD_map_eq_iff empty_ne_letter.1] at hid hname
    rw [getD_map_eq_iff (by decide)] at htype
    rw [getD_map_eq_iff empty_ne_letter.2] at hdescription
    exact ⟨hid, hname, htype, hdescription⟩
  · rintro ⟨hid, hname, htype, hdescription⟩ d₁ d₂
    obtain ⟨id, hid⟩ := Option.isSome_iff_exists.mp hid
    obtain ⟨name, hname⟩ := Option.isSome_iff_exists.mp hname
    obtain ⟨type, htype⟩ := Option.isSome_iff_exists.mp htype
    obtain ⟨description, hdescription⟩ := Option.isSome_iff_exists.mp hdescription
    rw [hid, hname, htype, hdescription]
    rfl

instance : Nonempty DeviceDef := ⟨⟨.empty _, .led, .empty _, .empty _⟩⟩

/-- The condition on a document that is loaded from an array: it cannot be read, or its array fits
and every element is complete. -/
def LoadsComplete (root : Option CJson) (key : CString) (n : ℕ) (complete : CJson → Prop) : Prop :=
  ∀ r, root = some r → (elements (r.getObjectItem key)).length ≤ n ∧
    ∀ e ∈ elements (r.getObjectItem key), complete e

/-- The condition element by element. -/
lemma loadsComplete_iff {r : CJson} {key : CString} {n : ℕ} {complete : CJson → Prop} :
    LoadsComplete (some r) key n complete ↔ (elements (r.getObjectItem key)).length ≤ n ∧
      ∀ (i : ℕ) (e : CJson), (elements (r.getObjectItem key))[i]? = some e → complete e := by
  constructor
  · intro h
    obtain ⟨hfit, hall⟩ := h r rfl
    exact ⟨hfit, fun i e he => hall e (List.mem_of_getElem? he)⟩
  · rintro ⟨hfit, hall⟩ r' hr
    obtain rfl := Option.some.inj hr
    refine ⟨hfit, fun e he => ?_⟩
    obtain ⟨i, hi⟩ := List.mem_iff_getElem?.mp he
    exact hall i e hi

/-- A document that cannot be read meets the condition. -/
lemma loadsComplete_none {key : CString} {n : ℕ} {complete : CJson → Prop} :
    LoadsComplete none key n complete := fun _ => nofun

/-- **Devices.** The loader forgets the past iff the document cannot be read, or its devices fit and
each of them gives every member. -/
lemma forgetsPast_deviceParserLoad_iff (root : Option CJson) :
    ForgetsPast DeviceConfig.devices (· = ·) (deviceParserLoad root) ↔
      LoadsComplete root (cstr "devices") maxDevices DeviceComplete := by
  rcases root with _ | root
  · exact ⟨fun _ => loadsComplete_none, fun _ => forgetsPast_of_refused _ _⟩
  · rw [loadsComplete_iff]
    simp only [← forgets_deviceAssignments_iff]
    exact forgetsPast_fill_iff DeviceConfig.devices _ (fun _ => deviceAssignments) _
      (fun c devices => ⟨schemaVersion root c.schemaVersion, devices⟩) (fun _ _ => rfl)
      (fun t => ⟨⟨0, t⟩, rfl⟩)

/-! ## Tests -/

/-- A test gives every member. -/
structure TestComplete (test : CJson) : Prop where
  name : HasString test (cstr "name")
  description : HasString test (cstr "description")
  function : HasString test (cstr "function")

/-- The entry that an element of `tests` leaves. -/
lemma applyAll_testAssignments (test : CJson) (t : TestDef) :
    applyAll (testAssignments test) t =
      ⟨((asString (test.getObjectItem (cstr "name"))).map (safeStringCopy · testNameLength)).getD
          t.name,
        ((asString (test.getObjectItem (cstr "description"))).map
          (safeStringCopy · testDescLength)).getD t.description,
        ((asString (test.getObjectItem (cstr "function"))).map
          (safeStringCopy · functionNameLength)).getD t.function⟩ := by
  unfold testAssignments
  simp only [applyAll_append, applyAll_assignString]
  rcases asString (test.getObjectItem (cstr "name")) with _ | name
  all_goals rcases asString (test.getObjectItem (cstr "description")) with _ | description
  all_goals rcases asString (test.getObjectItem (cstr "function")) with _ | function
  all_goals rfl

/-- A test forgets the old entry iff it gives every member. -/
lemma forgets_testAssignments_iff (test : CJson) :
    Forgets (· = ·) (testAssignments test) ↔ TestComplete test := by
  unfold Forgets
  simp only [applyAll_testAssignments]
  constructor
  · intro h
    obtain ⟨hname, hdescription, hfunction⟩ := TestDef.mk.inj
      (h ⟨.empty _, .empty _, .empty _⟩
        ⟨safeStringCopy [97] 64, safeStringCopy [97] 128, safeStringCopy [97] 64⟩)
    rw [getD_map_eq_iff empty_ne_letter.1] at hname hfunction
    rw [getD_map_eq_iff empty_ne_letter.2] at hdescription
    exact ⟨hname, hdescription, hfunction⟩
  · rintro ⟨hname, hdescription, hfunction⟩ t₁ t₂
    obtain ⟨name, hname⟩ := Option.isSome_iff_exists.mp hname
    obtain ⟨description, hdescription⟩ := Option.isSome_iff_exists.mp hdescription
    obtain ⟨function, hfunction⟩ := Option.isSome_iff_exists.mp hfunction
    rw [hname, hdescription, hfunction]
    rfl

instance : Nonempty TestDef := ⟨⟨.empty _, .empty _, .empty _⟩⟩

/-- **Tests.** The loader forgets the past iff the document cannot be read, or its tests fit and
each of them gives every member. -/
lemma forgetsPast_testParserLoad_iff (root : Option CJson) :
    ForgetsPast TestConfig.tests (· = ·) (testParserLoad root) ↔
      LoadsComplete root (cstr "tests") maxTests TestComplete := by
  rcases root with _ | root
  · exact ⟨fun _ => loadsComplete_none, fun _ => forgetsPast_of_refused _ _⟩
  · rw [loadsComplete_iff]
    simp only [← forgets_testAssignments_iff]
    exact forgetsPast_fill_iff TestConfig.tests _ (fun _ => testAssignments) _
      (fun c tests => ⟨schemaVersion root c.schemaVersion, tests⟩) (fun _ _ => rfl)
      (fun t => ⟨⟨0, t⟩, rfl⟩)

/-! ## Functions -/

/-- Two functions that agree in every member and in the devices they count. -/
structure FunctionDef.Alike (f g : FunctionDef) : Prop where
  name : f.name = g.name
  description : f.description = g.description
  deviceName : FixedTable.Alike (· = ·) f.deviceName g.deviceName

/-- A function gives every member. -/
structure FunctionComplete (function : CJson) : Prop where
  name : HasString function (cstr "name")
  description : HasString function (cstr "description")
  deviceName : ∃ names, function.getObjectItem (cstr "device-name") = some (.array names)

/-- The device list that an element of `functions` leaves. -/
def deviceNamesLeft (item : Option CJson)
    (old : FixedTable (CharBuf functionNameLength) maxDevices) :
    FixedTable (CharBuf functionNameLength) maxDevices :=
  match item with
  | some (.array names) => names.foldl addDeviceName { old with count := 0 }
  | _ => old

/-- The entry that an element of `functions` leaves. -/
lemma applyAll_functionAssignments (function : CJson) (f : FunctionDef) :
    applyAll (functionAssignments function) f =
      ⟨((asString (function.getObjectItem (cstr "name"))).map
          (safeStringCopy · functionNameLength)).getD f.name,
        ((asString (function.getObjectItem (cstr "description"))).map
          (safeStringCopy · functionDescLength)).getD f.description,
        deviceNamesLeft (function.getObjectItem (cstr "device-name")) f.deviceName⟩ := by
  unfold functionAssignments deviceNamesLeft
  simp only [applyAll_append, applyAll_assignString]
  rcases asString (function.getObjectItem (cstr "name")) with _ | name
  all_goals rcases asString (function.getObjectItem (cstr "description")) with _ | description
  all_goals
    rcases function.getObjectItem (cstr "device-name") with _ | (_ | _ | _ | _ | names | _)
  all_goals rfl

/-- Adding names to alike lists makes alike lists. -/
lemma alike_foldl_addDeviceName (names : List CJson)
    {t u : FixedTable (CharBuf functionNameLength) maxDevices}
    (h : FixedTable.Alike (· = ·) t u) :
    FixedTable.Alike (· = ·) (names.foldl addDeviceName t) (names.foldl addDeviceName u) := by
  induction names generalizing t u with
  | nil => exact h
  | cons name names ih =>
      rw [List.foldl_cons, List.foldl_cons]
      apply ih
      have hcount := h.count
      unfold addDeviceName
      rcases asString (some name) with _ | s
      · exact h
      · simp only
        split_ifs with hroom hroom' hroom'
        · refine ⟨hroom, congrArg (· + 1) hcount, fun i hi hlt => ?_⟩
          have hlt' : i < t.count + 1 := hlt
          unfold FixedTable.push
          simp only [Vector.getElem_set]
          split_ifs with hold hnew hnew
          · rfl
          · omega
          · omega
          · exact h.entries i hi (by omega)
        · omega
        · omega
        · exact h

/-- A function forgets the old entry iff it gives every member. -/
lemma forgets_functionAssignments_iff (function : CJson) :
    Forgets FunctionDef.Alike (functionAssignments function) ↔ FunctionComplete function := by
  unfold Forgets
  simp only [applyAll_functionAssignments]
  constructor
  · intro h
    obtain ⟨hname, hdescription, hdevices⟩ := h ⟨.empty _, .empty _, .ofList _ (.empty _) []⟩
      ⟨safeStringCopy [97] 64, safeStringCopy [97] 128, .ofList _ (.empty _) [.empty _]⟩
    simp only at hname hdescription hdevices
    rw [getD_map_eq_iff empty_ne_letter.1] at hname
    rw [getD_map_eq_iff empty_ne_letter.2] at hdescription
    refine ⟨hname, hdescription, ?_⟩
    -- without an array the old counts remain
    have hcount := hdevices.count
    unfold deviceNamesLeft at hcount
    split at hcount
    · exact ⟨_, by assumption⟩
    · cases hcount
  · rintro ⟨hname, hdescription, names, hnames⟩ f₁ f₂
    obtain ⟨name, hname⟩ := Option.isSome_iff_exists.mp hname
    obtain ⟨description, hdescription⟩ := Option.isSome_iff_exists.mp hdescription
    rw [hname, hdescription, hnames]
    refine ⟨rfl, rfl, alike_foldl_addDeviceName names ?_⟩
    exact ⟨Nat.zero_le _, rfl, fun k _ hk => absurd hk (Nat.not_lt_zero k)⟩

instance : Nonempty FunctionDef := ⟨⟨.empty _, .empty _, .ofList _ (.empty _) []⟩⟩

/-- **Functions.** The loader forgets the past iff the document cannot be read, or its functions fit
and each of them gives every member. -/
lemma forgetsPast_functionParserLoad_iff (root : Option CJson) :
    ForgetsPast FunctionConfig.functions FunctionDef.Alike (functionParserLoad root) ↔
      LoadsComplete root (cstr "functions") maxFunctions FunctionComplete := by
  rcases root with _ | root
  · exact ⟨fun _ => loadsComplete_none, fun _ => forgetsPast_of_refused _ _⟩
  · rw [loadsComplete_iff]
    simp only [← forgets_functionAssignments_iff]
    exact forgetsPast_fill_iff FunctionConfig.functions _ (fun _ => functionAssignments) _
      (fun c functions => ⟨schemaVersion root c.schemaVersion, functions⟩) (fun _ _ => rfl)
      (fun t => ⟨⟨0, t⟩, rfl⟩)

end HardwareTest
