import HardwareTest.Config.Manager
import HardwareTest.Services.PluginManager

/-!
# The paths of configuration files and plugins

Both `config_manager_load` and `plugin_manager_load` print a path into a buffer of fixed size and
ignore what `safe_sprintf` returns, so that they open whatever a shortened path leads to.

* `OpensFullPath`: what `plugin_manager_load` opens is the path in full.
* `fullPaths_iff`: for a configuration directory, and for a directory with a plugin, nothing else is
  opened exactly when the path fits its buffer, or the plugin is known already.
-/

namespace HardwareTest

open Lib LocatedManager

variable {ι : Type*} [DecidableEq ι]

/-- The path of a plugin. -/
def fullPluginPath (directory name : CString) : CString :=
  directory ++ cstr "/" ++ name ++ cstr ".so"

/-- A library that a call of `plugin_manager_load` opens is opened by its full path, and a call that
opens none returns `-1`. -/
structure OpensFullPath (s : PluginSystem ι) (p : ι) (directory : CString) : Prop where
  full : ∀ env code s', pluginManagerLoad s p directory env = some (code, s') →
    ∀ handle, .acquire handle ∈ s'.ledger.log.drop s.ledger.log.length →
      handle.path.chars = fullPluginPath directory (s.nameOf p)
  refused : ∀ env code s', pluginManagerLoad s p directory env = some (code, s') →
    (∀ handle, .acquire handle ∉ s'.ledger.log.drop s.ledger.log.length) → code = -1

/-- The path that is printed is the full one iff it fits. -/
lemma pluginPath_eq_iff (directory name : CString) :
    (pluginPath directory name).chars = fullPluginPath directory name ↔
      (fullPluginPath directory name).length < platformPluginDirectoryLength :=
  safeSprintf_chars_eq_iff (by decide)

/-- What a load adds to the log begins with the opening of the printed path, unless nothing is
opened. -/
lemma log_of_pluginManagerLoad {s s' : PluginSystem ι} {p : ι} {directory : CString}
    {env : LoadOutcome} {code : ℤ} (h : pluginManagerLoad s p directory env = some (code, s')) :
    (code = -1 ∧ s'.ledger.log = s.ledger.log) ∨
      pluginManagerFind s (s.nameOf p) = none ∧ ∃ e, (∀ handle, e ≠ .acquire handle) ∧
        s'.ledger.log = s.ledger.log ++
          [.acquire ⟨s.ledger.calls, pluginPath directory (s.nameOf p)⟩, e] := by
  unfold pluginManagerLoad at h
  split_ifs at h with hfind hopened
  · obtain ⟨rfl, rfl⟩ := Prod.mk.inj (Option.some.inj h)
    exact .inl ⟨rfl, rfl⟩
  · rw [Bool.not_eq_true, Option.isSome_eq_false_iff, Option.isNone_iff_eq_none] at hfind
    unfold loadSymbols at h
    simp only at h
    split_ifs at h
    all_goals
      obtain ⟨-, rfl⟩ := Prod.mk.inj (Option.some.inj h)
      refine .inr ⟨hfind, _, fun handle => ?_, List.append_assoc _ _ _⟩
      nofun
  · obtain ⟨rfl, rfl⟩ := Prod.mk.inj (Option.some.inj h)
    exact .inl ⟨rfl, rfl⟩

/-- A load of an unknown plugin may open the printed path. -/
lemma exists_opened {s : PluginSystem ι} {p : ι} (directory : CString)
    (hfind : pluginManagerFind s (s.nameOf p) = none) :
    ∃ env s', pluginManagerLoad s p directory env = some (0, s') ∧
      .acquire ⟨s.ledger.calls, pluginPath directory (s.nameOf p)⟩ ∈
        s'.ledger.log.drop s.ledger.log.length := by
  obtain ⟨s', hload⟩ : ∃ s', pluginManagerLoad s p directory ⟨true, .found, .found, none⟩ =
      some (0, s') := by
    unfold pluginManagerLoad
    rw [hfind]
    exact ⟨_, rfl⟩
  refine ⟨_, s', hload, ?_⟩
  rcases log_of_pluginManagerLoad hload with ⟨hcode, -⟩ | ⟨-, e, -, hlog⟩
  · exact absurd hcode (by decide)
  · rw [hlog, List.drop_left]
    exact List.mem_cons_self

/-- Plugins are opened by their full paths iff the plugin is known or its path fits. -/
lemma opensFullPath_iff (s : PluginSystem ι) (p : ι) (directory : CString) :
    OpensFullPath s p directory ↔ (pluginManagerFind s (s.nameOf p)).isSome ∨
      (fullPluginPath directory (s.nameOf p)).length < platformPluginDirectoryLength := by
  rw [← pluginPath_eq_iff]
  constructor
  · intro h
    rcases hfind : pluginManagerFind s (s.nameOf p) with _ | index
    · obtain ⟨env, s', hload, hopened⟩ := exists_opened directory hfind
      exact .inr (h.full env 0 s' hload _ hopened)
    · exact .inl rfl
  · intro h
    refine ⟨fun env code s' hload handle hopened => ?_, fun env code s' hload hnone => ?_⟩
    · rcases log_of_pluginManagerLoad hload with ⟨-, hlog⟩ | ⟨hfind, e, he, hlog⟩
      · rw [hlog, List.drop_length] at hopened
        cases hopened
      · rw [hlog, List.drop_left, List.mem_cons, List.mem_singleton] at hopened
        rcases hopened with hopened | hopened
        · obtain rfl := Event.acquire.inj hopened
          rw [hfind] at h
          exact h.resolve_left nofun
        · exact absurd hopened.symm (he handle)
    · rcases log_of_pluginManagerLoad hload with ⟨hcode, -⟩ | ⟨-, e, -, hlog⟩
      · exact hcode
      · rw [hlog, List.drop_left] at hnone
        exact absurd List.mem_cons_self (hnone _)

/-- **Opened paths.** For a configuration directory: whatever the files hold, `config_manager_load`
after `config_manager_init` hands the full paths to the parsers iff the longest one fits its buffer.
For a plugin and a directory: whatever `dlopen` and `dlsym` return, `plugin_manager_load` opens the
full path iff the name is loaded already or the path fits its buffer. -/
theorem fullPaths_iff (configDirectory : CString) (s : PluginSystem ι) (p : ι)
    (pluginDirectory : CString) :
    ((∀ allocates m files, configManagerInit configDirectory allocates = some m →
        HandsFullPaths configDirectory (m.configManagerLoad files)) ↔
      (configDirectory ++ cstr "/" ++ Parser.function.file).length < configManagerFilePath) ∧
    (OpensFullPath s p pluginDirectory ↔ (pluginManagerFind s (s.nameOf p)).isSome ∨
      (fullPluginPath pluginDirectory (s.nameOf p)).length < platformPluginDirectoryLength) :=
  ⟨handsFullPaths_iff configDirectory, opensFullPath_iff s p pluginDirectory⟩

/-- In a directory of 240 characters the path of the function file is one character too long. -/
theorem configDirectory_oneTooLong : ¬ ∀ allocates m files,
    configManagerInit (List.replicate 240 97) allocates = some m →
      HandsFullPaths (List.replicate 240 97) (m.configManagerLoad files) := by
  rw [handsFullPaths_iff, List.length_append, List.length_append, List.length_replicate]
  decide

end HardwareTest
