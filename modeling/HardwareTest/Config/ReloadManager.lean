import HardwareTest.Config.Manager
import HardwareTest.Config.ReloadBindings

/-!
# Loading a used manager

* `TablesAlike`: two managers with the same counts and the same entries below them.
* `result_configManagerLoad_iff`: with readable documents a load is the four loads, each on its own
  part of the manager.
* `loadsAlike_iff`: from any two managers with one directory a load leaves the same tables iff the
  four documents are complete.
* `forgetsPast_iff`: when each loader, and the manager, forgets what was there before.
-/

namespace HardwareTest

open Lib CJson

/-- Two managers with the same tables. -/
structure TablesAlike (m₁ m₂ : ConfigManager) : Prop where
  devices : FixedTable.Alike (· = ·) m₁.deviceConfig.devices m₂.deviceConfig.devices
  functions : FixedTable.Alike FunctionDef.Alike m₁.functionConfig.functions
    m₂.functionConfig.functions
  tests : FixedTable.Alike (· = ·) m₁.testConfig.tests m₂.testConfig.tests
  bindings : FixedTable.Alike DeviceBinding.Alike m₁.platformConfig.bindings
    m₂.platformConfig.bindings

namespace LocatedManager

variable {m : LocatedManager} {documents : CString → CJson}

/-- A parser that gets a readable document does not fail. -/
lemma code_of_load {parser : Parser} {root : CJson} {code : ℤ} {m' : LocatedManager}
    (h : parser.load (some root) m = some (code, m')) : code = 0 := by
  rcases parser with _ | _ | _ | _
  all_goals
    unfold Parser.load at h
    simp only [Option.map_eq_some_iff] at h
    obtain ⟨⟨c, part⟩, hload, hcode⟩ := h
    obtain ⟨u, -, hu⟩ := Option.map_eq_some_iff.mp hload
    obtain rfl := (Prod.mk.inj hcode).1
    exact (Prod.mk.inj hu).1.symm

/-- The calls from a parser on, when the documents can be read. -/
lemma result_loadEach_cons {parser : Parser} {rest : List Parser} {r : ℤ × LocatedManager} :
    (m.loadEach (fun path => some (documents path)) (parser :: rest)).result = some r ↔
      ∃ mid, parser.load (some (documents (m.configFilePath parser.file).chars)) m = some (0, mid) ∧
        (mid.loadEach (fun path => some (documents path)) rest).result = some r := by
  rw [loadEach]
  rcases hload : parser.load (some (documents (m.configFilePath parser.file).chars)) m
    with _ | ⟨code, mid⟩
  · simp
  · obtain rfl := code_of_load hload
    simp

/-- A successful load of a part, put back into the manager. -/
lemma map_part_eq_some_iff {κ : Type} (g : κ → LocatedManager) {o : Option (ℤ × κ)}
    {m' : LocatedManager} : (o.map fun r => (r.1, g r.2)) = some (0, m') ↔
      ∃ part, o = some (0, part) ∧ g part = m' := by
  rw [Option.map_eq_some_iff]
  constructor
  · rintro ⟨⟨code, part⟩, rfl, hr⟩
    obtain ⟨rfl, rfl⟩ := Prod.mk.inj hr
    exact ⟨part, rfl, rfl⟩
  · rintro ⟨part, rfl, rfl⟩
    exact ⟨(0, part), rfl, rfl⟩

/-- The devices. -/
lemma load_device_iff {root : Option CJson} {m' : LocatedManager} :
    Parser.device.load root m = some (0, m') ↔
      ∃ d, deviceParserLoad root m.deviceConfig = some (0, d) ∧ { m with deviceConfig := d } = m' :=
  map_part_eq_some_iff fun part => { m with deviceConfig := part }

/-- The functions. -/
lemma load_function_iff {root : Option CJson} {m' : LocatedManager} :
    Parser.function.load root m = some (0, m') ↔
      ∃ f, functionParserLoad root m.functionConfig = some (0, f) ∧
        { m with functionConfig := f } = m' :=
  map_part_eq_some_iff fun part => { m with functionConfig := part }

/-- The tests. -/
lemma load_test_iff {root : Option CJson} {m' : LocatedManager} :
    Parser.test.load root m = some (0, m') ↔
      ∃ t, testParserLoad root m.testConfig = some (0, t) ∧ { m with testConfig := t } = m' :=
  map_part_eq_some_iff fun part => { m with testConfig := part }

/-- The platform. -/
lemma load_platform_iff {root : Option CJson} {m' : LocatedManager} :
    Parser.platform.load root m = some (0, m') ↔
      ∃ p, platformParserLoad root m.platformConfig = some (0, p) ∧
        { m with platformConfig := p } = m' :=
  map_part_eq_some_iff fun part => { m with platformConfig := part }

/-- The document of a parser in a directory, when every path leads to a readable document. -/
def documentOf (documents : CString → CJson) (configPath : CharBuf configManagerFilePath)
    (parser : Parser) : Option CJson :=
  some (documents (configFilePath ⟨.zeroed, configPath⟩ parser.file).chars)

/-- Each part of a manager is loaded from its document. -/
structure LoadsParts (document : Parser → Option CJson) (m r : ConfigManager) : Prop where
  devices : deviceParserLoad (document .device) m.deviceConfig = some (0, r.deviceConfig)
  functions : functionParserLoad (document .function) m.functionConfig = some (0, r.functionConfig)
  tests : testParserLoad (document .test) m.testConfig = some (0, r.testConfig)
  bindings : platformParserLoad (document .platform) m.platformConfig = some (0, r.platformConfig)

/-- **The four loads.** With readable documents a load loads each part from its document. -/
lemma result_configManagerLoad_iff {configPath : CharBuf configManagerFilePath} {m : ConfigManager}
    {r : ℤ × LocatedManager} :
    (configManagerLoad (fun path => some (documents path)) ⟨m, configPath⟩).result = some r ↔
      r.1 = 0 ∧ r.2.configPath = configPath ∧
        LoadsParts (documentOf documents configPath) m r.2.toConfigManager := by
  unfold configManagerLoad
  constructor
  · intro hresult
    obtain ⟨_, hload, hresult⟩ := result_loadEach_cons.mp hresult
    obtain ⟨d, hd, rfl⟩ := load_device_iff.mp hload
    obtain ⟨_, hload, hresult⟩ := result_loadEach_cons.mp hresult
    obtain ⟨f, hf, rfl⟩ := load_function_iff.mp hload
    obtain ⟨_, hload, hresult⟩ := result_loadEach_cons.mp hresult
    obtain ⟨t, ht, rfl⟩ := load_test_iff.mp hload
    obtain ⟨_, hload, hresult⟩ := result_loadEach_cons.mp hresult
    obtain ⟨p, hp, rfl⟩ := load_platform_iff.mp hload
    obtain rfl := Option.some.inj hresult
    exact ⟨rfl, rfl, hd, hf, ht, hp⟩
  · rcases r with ⟨code, r⟩
    rintro ⟨hcode, hpath, hd, hf, ht, hp⟩
    obtain rfl : code = 0 := hcode
    obtain rfl : r.configPath = configPath := hpath
    refine result_loadEach_cons.mpr ⟨_, load_device_iff.mpr ⟨_, hd, rfl⟩, ?_⟩
    refine result_loadEach_cons.mpr ⟨_, load_function_iff.mpr ⟨_, hf, rfl⟩, ?_⟩
    refine result_loadEach_cons.mpr ⟨_, load_test_iff.mpr ⟨_, ht, rfl⟩, ?_⟩
    exact result_loadEach_cons.mpr ⟨_, load_platform_iff.mpr ⟨_, hp, rfl⟩, rfl⟩

end LocatedManager

/-! ## Two managers -/

open LocatedManager

/-- A load from a directory gives the same code from any two managers and, on success, the same
tables. -/
def LoadsAlike (documents : CString → CJson) (configPath : CharBuf configManagerFilePath) : Prop :=
  ∀ m₁ m₂ : ConfigManager, ∃ code r₁ r₂,
    (configManagerLoad (fun path => some (documents path)) ⟨m₁, configPath⟩).result =
      some (code, r₁) ∧
    (configManagerLoad (fun path => some (documents path)) ⟨m₂, configPath⟩).result =
      some (code, r₂) ∧
    (code = 0 → TablesAlike r₁.toConfigManager r₂.toConfigManager)

/-- The four documents of a directory fit and give what is not cleared. -/
structure DirectoryComplete (document : Parser → Option CJson) : Prop where
  devices : LoadsComplete (document .device) (cstr "devices") maxDevices DeviceComplete
  functions : LoadsComplete (document .function) (cstr "functions") maxFunctions FunctionComplete
  tests : LoadsComplete (document .test) (cstr "tests") maxTests TestComplete
  bindings : LoadsComplete (document .platform) (cstr "bindings") maxBindings BindingComplete

/-- A load that fills its table from a document gives the code 0. -/
lemma code_of_fill {α κ : Type} {o : Option α} {g : α → κ} {code : ℤ} {r : κ}
    (h : (o.map fun u => ((0 : ℤ), g u)) = some (code, r)) : code = 0 := by
  obtain ⟨u, -, hu⟩ := Option.map_eq_some_iff.mp h
  exact (Prod.mk.inj hu).1.symm

/-- A loader that forgets the past succeeds on a readable document, with alike tables. -/
lemma ForgetsPast.exists_alike {κ α : Type} {n : ℕ} {table : κ → FixedTable α n}
    {same : α → α → Prop} {load : κ → Option (ℤ × κ)} (h : ForgetsPast table same load)
    (hzero : ∀ c code r, load c = some (code, r) → code = 0) (c₁ c₂ : κ) :
    ∃ r₁ r₂, load c₁ = some (0, r₁) ∧ load c₂ = some (0, r₂) ∧
      FixedTable.Alike same (table r₁) (table r₂) := by
  obtain ⟨code, r₁, r₂, hload₁, hload₂, halike⟩ := h c₁ c₂
  obtain rfl := hzero c₁ code r₁ hload₁
  exact ⟨r₁, r₂, hload₁, hload₂, halike rfl⟩

/-- A load of two managers is the loads of their parts. -/
lemma loadsAlike_iff_parts {documents : CString → CJson}
    {configPath : CharBuf configManagerFilePath} :
    LoadsAlike documents configPath ↔ ∀ m₁ m₂, ∃ r₁ r₂,
      LoadsParts (documentOf documents configPath) m₁ r₁ ∧
        LoadsParts (documentOf documents configPath) m₂ r₂ ∧ TablesAlike r₁ r₂ := by
  refine forall₂_congr fun m₁ m₂ => ?_
  constructor
  · rintro ⟨code, r₁, r₂, hload₁, hload₂, halike⟩
    obtain ⟨hcode, -, hparts₁⟩ := result_configManagerLoad_iff.mp hload₁
    obtain ⟨-, -, hparts₂⟩ := result_configManagerLoad_iff.mp hload₂
    exact ⟨r₁.toConfigManager, r₂.toConfigManager, hparts₁, hparts₂, halike hcode⟩
  · rintro ⟨r₁, r₂, hparts₁, hparts₂, halike⟩
    refine ⟨0, ⟨r₁, configPath⟩, ⟨r₂, configPath⟩, ?_, ?_, fun _ => halike⟩
    · exact result_configManagerLoad_iff.mpr ⟨rfl, rfl, hparts₁⟩
    · exact result_configManagerLoad_iff.mpr ⟨rfl, rfl, hparts₂⟩

/-- **A used manager.** From any two managers with one directory a load leaves the same tables iff
the four documents are complete. -/
lemma loadsAlike_iff (documents : CString → CJson) (configPath : CharBuf configManagerFilePath) :
    LoadsAlike documents configPath ↔ DirectoryComplete (documentOf documents configPath) := by
  rw [loadsAlike_iff_parts]
  constructor
  · intro hparts
    refine ⟨?_, ?_, ?_, ?_⟩
    · rw [← forgetsPast_deviceParserLoad_iff]
      intro c₁ c₂
      obtain ⟨r₁, r₂, hparts₁, hparts₂, halike⟩ := hparts
        { ConfigManager.zeroed with deviceConfig := c₁ }
        { ConfigManager.zeroed with deviceConfig := c₂ }
      exact ⟨0, _, _, hparts₁.devices, hparts₂.devices, fun _ => halike.devices⟩
    · rw [← forgetsPast_functionParserLoad_iff]
      intro c₁ c₂
      obtain ⟨r₁, r₂, hparts₁, hparts₂, halike⟩ := hparts
        { ConfigManager.zeroed with functionConfig := c₁ }
        { ConfigManager.zeroed with functionConfig := c₂ }
      exact ⟨0, _, _, hparts₁.functions, hparts₂.functions, fun _ => halike.functions⟩
    · rw [← forgetsPast_testParserLoad_iff]
      intro c₁ c₂
      obtain ⟨r₁, r₂, hparts₁, hparts₂, halike⟩ := hparts
        { ConfigManager.zeroed with testConfig := c₁ }
        { ConfigManager.zeroed with testConfig := c₂ }
      exact ⟨0, _, _, hparts₁.tests, hparts₂.tests, fun _ => halike.tests⟩
    · rw [← forgetsPast_platformParserLoad_iff]
      intro c₁ c₂
      obtain ⟨r₁, r₂, hparts₁, hparts₂, halike⟩ := hparts
        { ConfigManager.zeroed with platformConfig := c₁ }
        { ConfigManager.zeroed with platformConfig := c₂ }
      exact ⟨0, _, _, hparts₁.bindings, hparts₂.bindings, fun _ => halike.bindings⟩
  · rintro ⟨hdevices, hfunctions, htests, hbindings⟩ m₁ m₂
    rw [← forgetsPast_deviceParserLoad_iff] at hdevices
    rw [← forgetsPast_functionParserLoad_iff] at hfunctions
    rw [← forgetsPast_testParserLoad_iff] at htests
    rw [← forgetsPast_platformParserLoad_iff] at hbindings
    obtain ⟨d₁, d₂, hd₁, hd₂, hd⟩ := hdevices.exists_alike (fun _ _ _ => code_of_fill)
      m₁.deviceConfig m₂.deviceConfig
    obtain ⟨f₁, f₂, hf₁, hf₂, hf⟩ := hfunctions.exists_alike (fun _ _ _ => code_of_fill)
      m₁.functionConfig m₂.functionConfig
    obtain ⟨t₁, t₂, ht₁, ht₂, ht⟩ := htests.exists_alike (fun _ _ _ => code_of_fill)
      m₁.testConfig m₂.testConfig
    obtain ⟨p₁, p₂, hp₁, hp₂, hp⟩ := hbindings.exists_alike (fun _ _ _ => code_of_fill)
      m₁.platformConfig m₂.platformConfig
    exact ⟨⟨d₁, f₁, t₁, p₁⟩, ⟨d₂, f₂, t₂, p₂⟩, ⟨hd₁, hf₁, ht₁, hp₁⟩, ⟨hd₂, hf₂, ht₂, hp₂⟩,
      ⟨hd, hf, ht, hp⟩⟩

/-- **Reloading.** Each loader forgets the past iff the document cannot be read, or its array fits
and each of its elements gives what the loader does not clear: every member of a device, a test and
a function, and of a binding the enable flag and the configuration of its interface. A used manager
gets the tables of a fresh one iff that holds of its four documents.
Source: `config/device.c`, `config/function.c`, `config/test.c`, `config/platform.c`,
`config/config-manager.c` -/
theorem forgetsPast_iff (root : Option CJson) (documents : CString → CJson)
    (configPath : CharBuf configManagerFilePath) :
    (ForgetsPast DeviceConfig.devices (· = ·) (deviceParserLoad root) ↔
      LoadsComplete root (cstr "devices") maxDevices DeviceComplete) ∧
    (ForgetsPast FunctionConfig.functions FunctionDef.Alike (functionParserLoad root) ↔
      LoadsComplete root (cstr "functions") maxFunctions FunctionComplete) ∧
    (ForgetsPast TestConfig.tests (· = ·) (testParserLoad root) ↔
      LoadsComplete root (cstr "tests") maxTests TestComplete) ∧
    (ForgetsPast PlatformConfig.bindings DeviceBinding.Alike (platformParserLoad root) ↔
      LoadsComplete root (cstr "bindings") maxBindings BindingComplete) ∧
    (LoadsAlike documents configPath ↔ DirectoryComplete (documentOf documents configPath)) :=
  ⟨forgetsPast_deviceParserLoad_iff root, forgetsPast_functionParserLoad_iff root,
    forgetsPast_testParserLoad_iff root, forgetsPast_platformParserLoad_iff root,
    loadsAlike_iff documents configPath⟩

/-- A function without a device list. -/
def functionWithoutDevices : CJson :=
  .object [(cstr "name", .string (cstr "blink")),
    (cstr "description", .string (cstr "Blink a led"))]

/-- The function keeps the device list of the function that was there before. -/
theorem functionParserLoad_functionWithoutDevices :
    ¬ ForgetsPast FunctionConfig.functions FunctionDef.Alike (functionParserLoad
      (some (.object [(cstr "functions", .array [functionWithoutDevices])]))) := by
  rw [forgetsPast_functionParserLoad_iff]
  intro hcomplete
  obtain ⟨-, hall⟩ := hcomplete _ rfl
  have hmem : functionWithoutDevices ∈ [functionWithoutDevices] := List.mem_singleton_self _
  obtain ⟨names, hnames⟩ := (hall functionWithoutDevices hmem).deviceName
  have hnone : functionWithoutDevices.getObjectItem (cstr "device-name") = none := rfl
  rw [hnone] at hnames
  cases hnames

end HardwareTest
