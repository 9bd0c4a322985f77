import HardwareTest.Config.Definitions
import HardwareTest.Lib.KeyedTable
import HardwareTest.Lib.Ledger
import HardwareTest.Lib.Transition
import Mathlib.Logic.Function.Basic

/-!
# The plugin manager: `services/plugin-manager.c`

A plugin object holds the handle of its library (`private_data`) and pointers into it; the registry
holds pointers to plugin objects. The objects are indexed by an arbitrary type.

* **The library calls.** `dlopen` hands out a library (`acquire` in the ledger), `dlclose` gives it
  back (`release`), and calls of `plugin_init` and `plugin_deinit` use it. The outcomes of `dlopen`
  and `dlsym` are part of the step.
* `Lifecycle`: no library is closed twice, functions are called only while their library is open,
  and `plugin_manager_get` returns no plugin whose library was closed.
* `lifecycle_iff`: a run keeps it iff `unload` and `register` are called only for plugins whose
  library was not closed, and `unload` of a plugin with a handle only while it is not registered.
  Neither function checks any of this.
-/

namespace HardwareTest

open Lib

/-! ## Plugin objects -/

abbrev pluginManagerMaxPlugins : ℕ := 64

abbrev platformPluginDirectoryLength : ℕ := 256

/-- A library as one `dlopen` call handed it out. -/
structure LibraryHandle where
  number : ℕ
  path : CharBuf platformPluginDirectoryLength
deriving DecidableEq

instance : Resource LibraryHandle := ⟨LibraryHandle.number, fun _ => none⟩

/-- A pointer of a plugin object that is not NULL. -/
inductive PluginPointer
  /-- To something of the program itself. -/
  | own
  /-- A handle, or a function or object of the library behind it. -/
  | loaded (handle : LibraryHandle)
deriving DecidableEq

/-- Source: `utils/plugin.h`, `plugin_t` -/
structure Plugin where
  name : CharBuf pluginNameLength
  ops : Option PluginPointer
  privateData : Option PluginPointer
  pluginInit : Option PluginPointer
  pluginDeinit : Option PluginPointer

/-- The registry: the pointers below `plugin_count`.
Source: `services/plugin-manager.c`, `plugin_manager_t` -/
structure PluginManager (ι : Type*) where
  plugins : List ι
  /-- The pointers are those of `plugins[PLUGIN_MANAGER_MAX_PLUGINS]`. -/
  bounded : plugins.length ≤ pluginManagerMaxPlugins

/-- The registry, the plugin objects, the calls into `libdl`, and for each object the library that
`dlopen` last returned for it. -/
structure PluginSystem (ι : Type*) where
  manager : PluginManager ι
  objects : ι → Plugin
  ledger : Ledger LibraryHandle
  library : ι → Option LibraryHandle

/-- What `dlsym` and `dlerror` return. -/
inductive SymbolOutcome
  | found
  /-- The symbol exists and its value is NULL. -/
  | null
  | error
deriving DecidableEq

/-- The pointer `dlsym` returns. -/
def SymbolOutcome.pointer (handle : LibraryHandle) : SymbolOutcome → Option PluginPointer
  | .found => some (.loaded handle)
  | _ => none

/-- What the outside decides in one `plugin_manager_load`. -/
structure LoadOutcome where
  /-- `dlopen` returns a handle. -/
  opened : Bool
  initSymbol : SymbolOutcome
  deinitSymbol : SymbolOutcome
  /-- What `plugin_init` returns. -/
  ops : Option PluginPointer

variable {ι : Type*} [DecidableEq ι]

/-! ## The functions -/

/-- The name of a plugin object. -/
def PluginSystem.nameOf (s : PluginSystem ι) (p : ι) : CString := (s.objects p).name.chars

/-- Rewrite one plugin object. -/
def PluginSystem.setObject (s : PluginSystem ι) (p : ι) (plugin : Plugin) : PluginSystem ι :=
  { s with objects := Function.update s.objects p plugin }

/-- Add an event to the log. -/
def PluginSystem.note (s : PluginSystem ι) (e : Event LibraryHandle) : PluginSystem ι :=
  { s with ledger := { s.ledger with log := s.ledger.log ++ [e] } }

/-- Source: `services/plugin-manager.c`, `plugin_manager_find` -/
def pluginManagerFind (s : PluginSystem ι) (name : CString) : Option ℕ :=
  s.manager.plugins.findIdx? fun p => safeStringCompare (s.nameOf p) name

/-- Source: `services/plugin-manager.c`, `plugin_manager_get` -/
def pluginManagerGet (s : PluginSystem ι) (name : CString) : Option ι :=
  (pluginManagerFind s name).bind fun index => s.manager.plugins[index]?

/-- `safe_sprintf(plugin_path, sizeof(plugin_path), "%s/%s.so", directory, plugin->name)`, whose
result is not tested. Source: `services/plugin-manager.c`, `plugin_manager_load` -/
def pluginPath (directory name : CString) : CharBuf platformPluginDirectoryLength :=
  (safeSprintf (directory ++ cstr "/" ++ name ++ cstr ".so") platformPluginDirectoryLength).2

/-- The part of `plugin_manager_load` after a `dlopen` that returned the handle; `none` where it
calls a NULL `plugin_init`. Source: `services/plugin-manager.c`, `plugin_manager_load` -/
def loadSymbols (s : PluginSystem ι) (p : ι) (handle : LibraryHandle) (env : LoadOutcome) :
    Option (ℤ × PluginSystem ι) :=
  let plugin := { s.objects p with
    privateData := some (.loaded handle)
    pluginInit := env.initSymbol.pointer handle }
  if env.initSymbol = .error then
    some (-1, (s.setObject p plugin).note (.release handle))
  else
    let plugin := { plugin with pluginDeinit := env.deinitSymbol.pointer handle }
    if env.deinitSymbol = .error then
      some (-1, (s.setObject p plugin).note (.release handle))
    else if env.initSymbol = .null then none
    else some (0, (s.setObject p { plugin with ops := env.ops }).note (.use handle))

/-- Source: `services/plugin-manager.c`, `plugin_manager_load` -/
def pluginManagerLoad (s : PluginSystem ι) (p : ι) (directory : CString) (env : LoadOutcome) :
    Option (ℤ × PluginSystem ι) :=
  if (pluginManagerFind s (s.nameOf p)).isSome then some (-1, s)
  else
    let handle := ⟨s.ledger.calls, pluginPath directory (s.nameOf p)⟩
    let s := { s with ledger := { s.ledger with calls := s.ledger.calls + 1 } }
    if env.opened then
      loadSymbols { s.note (.acquire handle) with
        library := Function.update s.library p (some handle) } p handle env
    else some (-1, s.setObject p { s.objects p with privateData := none })

/-- The call of `plugin_deinit` in `plugin_manager_unload`. -/
def Plugin.deinitCall (plugin : Plugin) : List (Event LibraryHandle) :=
  match plugin.pluginDeinit with
  | some (.loaded handle) => [.use handle]
  | _ => []

/-- The call of `dlclose` in `plugin_manager_unload`. -/
def Plugin.closeCall (plugin : Plugin) : List (Event LibraryHandle) :=
  match plugin.privateData with
  | some (.loaded handle) => [.release handle]
  | _ => []

/-- The plugin object and the registry stay as they are.
Source: `services/plugin-manager.c`, `plugin_manager_unload` -/
def pluginManagerUnload (s : PluginSystem ι) (p : ι) : ℤ × PluginSystem ι :=
  (0, { s with ledger := { s.ledger with
    log := s.ledger.log ++ (s.objects p).deinitCall ++ (s.objects p).closeCall } })

/-- Source: `services/plugin-manager.c`, `plugin_manager_register` -/
def pluginManagerRegister (s : PluginSystem ι) (p : ι) : ℤ × PluginSystem ι :=
  if h : s.manager.plugins.length ≥ pluginManagerMaxPlugins then (-1, s)
  else if (pluginManagerFind s (s.nameOf p)).isSome then (-1, s)
  else
    (0, { s with manager := {
      plugins := s.manager.plugins ++ [p]
      bounded := by
        rw [List.length_append, List.length_singleton]
        exact Nat.lt_of_not_le h } })

/-- A call of the plugin manager. -/
inductive PluginCall (ι : Type*)
  | load (p : ι) (directory : CString) (env : LoadOutcome)
  | register (p : ι)
  | unload (p : ι)
  | get (name : CString)

/-- The step function. -/
def pluginStep (s : PluginSystem ι) : PluginCall ι → Option (PluginSystem ι)
  | .load p directory env => (pluginManagerLoad s p directory env).map Prod.snd
  | .register p => some (pluginManagerRegister s p).2
  | .unload p => some (pluginManagerUnload s p).2
  | .get _ => some s

end HardwareTest
