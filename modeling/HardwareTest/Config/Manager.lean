import HardwareTest.Config.Loaders

/-!
# Loading the configuration: `config/config-manager.c`

`config_manager_load` prints the path of each file into a buffer of 255 bytes and hands it to the
parser of that file, in the order devices, functions, tests, platform. It stops at the first parser
that fails. The configuration directory is itself kept in a buffer of 255 bytes; nothing looks at
what `safe_string_copy` and `safe_sprintf` return.

* `files` says what document a path leads to, `none` when it cannot be read or parsed.
* `LoadRun` is what a load does: the calls of the parsers, and the result.
* `handsFullPaths_iff`: the paths are those of the files in the directory iff the longest one fits.
-/

namespace HardwareTest

open Lib CJson

/-- Source: `config/config-manager.h`, `CONFIG_MANAGER_FILE_PATH` -/
abbrev configManagerFilePath : ℕ := 255

/-- The manager with the directory that it loads from.
Source: `config/config-manager.c`, `config_manager_t` -/
structure LocatedManager extends ConfigManager where
  configPath : CharBuf configManagerFilePath

/-- The manager after `memset`. -/
def ConfigManager.zeroed : ConfigManager where
  deviceConfig := ⟨0, .ofList _ ⟨.empty _, .led, .empty _, .empty _⟩ []⟩
  functionConfig := ⟨0, .ofList _ ⟨.empty _, .empty _, .ofList _ (.empty _) []⟩ []⟩
  testConfig := ⟨0, .ofList _ ⟨.empty _, .empty _, .empty _⟩ []⟩
  platformConfig :=
    { schemaVersion := 0
      platform := ⟨.empty _, .empty _, .empty _, .empty _, .empty _⟩
      bindings := .ofList _ ⟨.empty _, .empty _, .empty _, false, .empty _,
        .ofList _ ⟨.empty _, .string, ⟨.empty _, 0, false⟩⟩ []⟩ [] }

/-- The four parsers. -/
inductive Parser
  | device | function | test | platform
deriving DecidableEq

namespace Parser

/-- The file of a parser. Source: `config/config-manager.c`, `config_manager_load` -/
def file : Parser → CString
  | device => cstr "device.jsonc"
  | function => cstr "function.jsonc"
  | test => cstr "test.jsonc"
  | platform => cstr "platform.json"

/-- A call of a parser on the part of the manager that it loads. -/
def load (parser : Parser) (root : Option CJson) (m : LocatedManager) :
    Option (ℤ × LocatedManager) :=
  match parser with
  | device => (deviceParserLoad root m.deviceConfig).map fun r =>
      (r.1, { m with deviceConfig := r.2 })
  | function => (functionParserLoad root m.functionConfig).map fun r =>
      (r.1, { m with functionConfig := r.2 })
  | test => (testParserLoad root m.testConfig).map fun r => (r.1, { m with testConfig := r.2 })
  | platform => (platformParserLoad root m.platformConfig).map fun r =>
      (r.1, { m with platformConfig := r.2 })

end Parser

/-- What a load does: the parsers it calls, each with its path, and the return code with the
manager; `none` when a parser writes outside its table. -/
structure LoadRun where
  calls : List (Parser × CString)
  result : Option (ℤ × LocatedManager)

namespace LocatedManager

/-- The manager, when the allocation succeeds.
Source: `config/config-manager.c`, `config_manager_init` -/
def configManagerInit (configPath : CString) (allocates : Bool) : Option LocatedManager :=
  if allocates then
    some { ConfigManager.zeroed with configPath := safeStringCopy configPath configManagerFilePath }
  else none

/-- `safe_sprintf(config_file_path, sizeof(config_file_path), "%s/%s", cfg_man->config_path, file)`,
whose result is not tested. -/
def configFilePath (m : LocatedManager) (file : CString) : CharBuf configManagerFilePath :=
  (safeSprintf (m.configPath.chars ++ cstr "/" ++ file) configManagerFilePath).2

/-- The calls of some parsers, one after the other. -/
def loadEach (files : CString → Option CJson) (m : LocatedManager) : List Parser → LoadRun
  | [] => ⟨[], some (0, m)⟩
  | parser :: rest =>
      let path := (m.configFilePath parser.file).chars
      match parser.load (files path) m with
      | none => ⟨[(parser, path)], none⟩
      | some (code, m') =>
          if code ≠ 0 then ⟨[(parser, path)], some (-1, m')⟩
          else
            let run := loadEach files m' rest
            ⟨(parser, path) :: run.calls, run.result⟩

/-- Source: `config/config-manager.c`, `config_manager_load` -/
def configManagerLoad (files : CString → Option CJson) (m : LocatedManager) : LoadRun :=
  m.loadEach files [.device, .function, .test, .platform]

/-! ## The calls -/

variable {m m' : LocatedManager} {files : CString → Option CJson}

/-- A parser leaves the directory alone. -/
lemma configPath_of_load {parser : Parser} {root : Option CJson} {code : ℤ}
    (h : parser.load root m = some (code, m')) : m'.configPath = m.configPath := by
  rcases parser with _ | _ | _ | _
  all_goals
    unfold Parser.load at h
    simp only [Option.map_eq_some_iff] at h
    obtain ⟨r, -, hr⟩ := h
    obtain rfl := (Prod.mk.inj hr).2
    rfl

/-- Every call gets the path that the manager prints for the file. -/
lemma path_of_mem_calls {parsers : List Parser} :
    ∀ call ∈ (m.loadEach files parsers).calls, call.2 = (m.configFilePath call.1.file).chars := by
  induction parsers generalizing m with
  | nil => nofun
  | cons parser rest ih =>
      rw [loadEach]
      rcases hload : parser.load (files (m.configFilePath parser.file).chars) m with _ | ⟨code, m'⟩
      · intro call hcall
        rw [List.mem_singleton.mp hcall]
      · simp only
        split_ifs with hcode
        · intro call hcall
          rw [List.mem_singleton.mp hcall]
        · intro call hcall
          rcases List.mem_cons.mp hcall with rfl | hcall
          · rfl
          · have hsame := configPath_of_load hload
            have hpath := ih call hcall
            unfold configFilePath at hpath ⊢
            rwa [hsame] at hpath

/-- A load that does not fail has called every parser. -/
lemma calls_of_result {parsers : List Parser} {code : ℤ} (hcode : code ≠ -1)
    (h : (m.loadEach files parsers).result = some (code, m')) :
    (m.loadEach files parsers).calls.map Prod.fst = parsers := by
  induction parsers generalizing m with
  | nil => rfl
  | cons parser rest ih =>
      rw [loadEach] at h ⊢
      rcases hload : parser.load (files (m.configFilePath parser.file).chars) m with _ | ⟨c, mid⟩
      · rw [hload] at h
        cases h
      · rw [hload] at h
        simp only at h ⊢
        split_ifs at h ⊢ with hc
        · exact absurd (congrArg Prod.fst (Option.some.inj h)).symm hcode
        · rw [List.map_cons, ih h]

/-- Empty documents are loaded without a failure. -/
lemma result_of_empty (m : LocatedManager) (parsers : List Parser) :
    ∃ m', (m.loadEach (fun _ => some (.object [])) parsers).result = some (0, m') := by
  induction parsers generalizing m with
  | nil => exact ⟨m, rfl⟩
  | cons parser rest ih =>
      have hload : ∃ mid, parser.load (some (.object [])) m = some (0, mid) := by
        rcases parser with _ | _ | _ | _
        all_goals exact ⟨_, rfl⟩
      obtain ⟨mid, hmid⟩ := hload
      rw [loadEach, hmid]
      exact ih mid

end LocatedManager

/-! ## Full paths -/

open LocatedManager

/-- What a load hands to the parsers: the files of the directory in full. A parser that is not
called makes the load fail. -/
structure HandsFullPaths (directory : CString) (run : LoadRun) : Prop where
  full : ∀ call ∈ run.calls, call.2 = directory ++ cstr "/" ++ call.1.file
  refused : ∀ parser, parser ∉ run.calls.map Prod.fst → ∀ code m, run.result = some (code, m) →
    code = -1

/-- A manager for a directory prints a path in full iff it fits. -/
lemma configFilePath_eq_iff {directory file : CString} {allocates : Bool} {m : LocatedManager}
    (h : configManagerInit directory allocates = some m) :
    (m.configFilePath file).chars = directory ++ cstr "/" ++ file ↔
      (directory ++ cstr "/" ++ file).length < configManagerFilePath := by
  unfold configManagerInit at h
  split_ifs at h
  obtain rfl := Option.some.inj h
  constructor
  · intro hpath
    rw [← hpath]
    exact (configFilePath _ file).terminated
  · intro hfits
    have hdirectory : directory.length < configManagerFilePath := by
      rw [List.length_append, List.length_append] at hfits
      omega
    unfold configFilePath
    rw [safeStringCopy_chars_of_lt hdirectory]
    exact (safeSprintf_chars_eq_iff (by decide)).mpr hfits

/-- No file name is longer than that of the functions. -/
lemma Parser.file_length_le (parser : Parser) :
    parser.file.length ≤ Parser.function.file.length := by
  rcases parser with _ | _ | _ | _
  all_goals decide

/-- **Full paths.** Whatever the files hold, a manager made for a directory hands full paths to the
parsers iff the longest one, that of the functions, fits its buffer. -/
lemma handsFullPaths_iff (directory : CString) :
    (∀ allocates m files, configManagerInit directory allocates = some m →
      HandsFullPaths directory (m.configManagerLoad files)) ↔
      (directory ++ cstr "/" ++ Parser.function.file).length < configManagerFilePath := by
  constructor
  · intro h
    obtain ⟨m, hinit⟩ : ∃ m, configManagerInit directory true = some m := ⟨_, rfl⟩
    obtain ⟨m', hresult⟩ := result_of_empty m [.device, .function, .test, .platform]
    have hcalls := calls_of_result (by decide) hresult
    obtain ⟨⟨parser, path⟩, hcall, hparser⟩ : ∃ call ∈ (m.loadEach (fun _ => some (.object []))
        [.device, .function, .test, .platform]).calls, call.1 = Parser.function := by
      have hmem : Parser.function ∈ [Parser.device, .function, .test, .platform] := by decide
      rwa [← hcalls, List.mem_map] at hmem
    obtain rfl : parser = Parser.function := hparser
    rw [← configFilePath_eq_iff hinit, ← path_of_mem_calls _ hcall]
    exact (h true m (fun _ => some (.object [])) hinit).full _ hcall
  · intro hfits allocates m files hinit
    refine ⟨fun call hcall => ?_, fun parser hmissing code m' hresult => ?_⟩
    · rw [path_of_mem_calls call hcall, configFilePath_eq_iff hinit]
      have hlength := call.1.file_length_le
      rw [List.length_append] at hfits ⊢
      omega
    · by_contra hcode
      apply hmissing
      unfold configManagerLoad at hresult ⊢
      rw [calls_of_result hcode hresult]
      rcases parser with _ | _ | _ | _
      all_goals decide

end HardwareTest
