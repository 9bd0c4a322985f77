import HardwareTest.Services.PluginManager

/-!
# The life of a plugin's library

* `PluginSystem.Sound`: what is known about handles, registered plugins and the ledger while the
  calls are safe. `Sound.step` says that a safe call keeps it, one lemma for each function.
* `Lifecycle`: the property itself, a consequence (`Sound.lifecycle`).
* `not_lifecycle`: a call that is not safe leads out of it. Together they give `lifecycle_iff`.
-/

namespace HardwareTest

open Lib

variable {ι : Type*}

/-! ## The property and the condition -/

/-- A library was given back with `dlclose`. -/
def PluginSystem.Closed (s : PluginSystem ι) (handle : LibraryHandle) : Prop :=
  .release handle ∈ s.ledger.log

/-- The library of a plugin was closed: the one that `dlopen` last returned for it. -/
def PluginSystem.PluginClosed (s : PluginSystem ι) (p : ι) : Prop :=
  ∃ handle, s.library p = some handle ∧ s.Closed handle

/-- **Plugin lifecycle**: no library is closed twice, its functions are called only while it is
open, and no plugin whose library was closed can be got. -/
structure Lifecycle (s : PluginSystem ι) : Prop where
  closedOnce : ∀ handle, s.ledger.log.count (.release handle) ≤ 1
  calledOpen : ∀ l₁ handle l₂, s.ledger.log = l₁ ++ .use handle :: l₂ →
    .acquire handle ∈ l₁ ∧ .release handle ∉ l₁
  got : ∀ name p, pluginManagerGet s name = some p → ¬ s.PluginClosed p

/-- `unload`: the library of `plugin_deinit` is open, and so is the one of the handle, whose plugin
is not registered. `register`: where it goes through, the library of the plugin was not closed. -/
def CallSafe (s : PluginSystem ι) : PluginCall ι → Prop
  | .unload p =>
      (∀ handle, (s.objects p).pluginDeinit = some (.loaded handle) → ¬ s.Closed handle) ∧
      ∀ handle, (s.objects p).privateData = some (.loaded handle) →
        ¬ s.Closed handle ∧ p ∉ s.manager.plugins
  | .register p =>
      s.manager.plugins.length < pluginManagerMaxPlugins →
        pluginManagerFind s (s.nameOf p) = none → ¬ s.PluginClosed p
  | _ => True

/-- **The invariant of the plugin manager**: the ledger is in order, a handle in an object is the
one `dlopen` last returned for it, handles are known and belong to one object, the names of the
registered plugins differ, and no registered plugin has its library closed. -/
structure PluginSystem.Sound (s : PluginSystem ι) : Prop where
  owns : ∃ S, s.ledger.Owns S
  handle : ∀ p h, (s.objects p).privateData = some (.loaded h) → s.library p = some h
  known : ∀ p h, s.library p = some h → .acquire h ∈ s.ledger.log
  deinitKnown : ∀ p h, (s.objects p).pluginDeinit = some (.loaded h) → .acquire h ∈ s.ledger.log
  distinct : ∀ p q h, s.library p = some h → s.library q = some h → p = q
  names : (s.manager.plugins.map s.nameOf).Nodup
  intact : ∀ p ∈ s.manager.plugins, ¬ s.PluginClosed p

/-- `get` is the first registered plugin of the name. -/
lemma pluginManagerGet_eq (s : PluginSystem ι) (name : CString) :
    pluginManagerGet s name = lookup s.nameOf s.manager.plugins name :=
  (lookup_eq_getElem? _ _).symm

/-- No plugin is found iff none has the name. -/
lemma pluginManagerFind_eq_none_iff (s : PluginSystem ι) (name : CString) :
    pluginManagerFind s name = none ↔ ∀ p ∈ s.manager.plugins, s.nameOf p ≠ name := by
  unfold pluginManagerFind
  simp [safeStringCompare]

/-- **Soundness gives the lifecycle.** -/
lemma PluginSystem.Sound.lifecycle {s : PluginSystem ι} (h : s.Sound) : Lifecycle s := by
  obtain ⟨S, hS⟩ := h.owns
  refine ⟨?_, ?_, ?_⟩
  · intro handle
    have hbalance := hS.orderly.count_release_add handle
    have honce := hS.orderly.count_acquire_le handle
    omega
  · intro l₁ handle l₂ hlog
    have horderly := hS.orderly
    rw [hlog] at horderly
    exact horderly.used_while_held
  · intro name p hget
    rw [pluginManagerGet_eq] at hget
    exact h.intact p (List.mem_of_find?_eq_some hget)

/-! ## The ledger -/

/-- What was acquired and not released is held. -/
lemma mem_of_not_closed {w : Ledger LibraryHandle} {S : Multiset LibraryHandle} (h : w.Owns S)
    {handle : LibraryHandle} (hacquired : .acquire handle ∈ w.log)
    (hopen : .release handle ∉ w.log) : handle ∈ S := by
  have hbalance := h.orderly.count_release_add handle
  rw [h.orderly.count_acquire hacquired, List.count_eq_zero_of_not_mem hopen] at hbalance
  rw [← Multiset.one_le_count_iff_mem]
  omega

/-- An open library may be used. -/
lemma owns_use {w : Ledger LibraryHandle} {S : Multiset LibraryHandle} (h : w.Owns S)
    {handle : LibraryHandle} (hheld : handle ∈ S) :
    (⟨w.calls, w.log ++ [.use handle]⟩ : Ledger LibraryHandle).Owns S :=
  h.append (e := .use handle) ⟨hheld, rfl⟩ (Nat.le_refl _) nofun

/-- An open library may be closed. -/
lemma owns_release {w : Ledger LibraryHandle} {S : Multiset LibraryHandle} (h : w.Owns S)
    {handle : LibraryHandle} (hheld : handle ∈ S) :
    (⟨w.calls, w.log ++ [.release handle]⟩ : Ledger LibraryHandle).Owns (S.erase handle) :=
  h.append (e := .release handle) ⟨(Multiset.cons_erase hheld).symm, nofun⟩ (Nat.le_refl _) nofun

/-- The next library is fresh. -/
lemma owns_acquire {w : Ledger LibraryHandle} {S : Multiset LibraryHandle} (h : w.Owns S)
    (path : CharBuf platformPluginDirectoryLength) :
    (⟨w.calls + 1, w.log ++ [.acquire ⟨w.calls, path⟩]⟩ : Ledger LibraryHandle).Owns
      (⟨w.calls, path⟩ ::ₘ S) := by
  refine h.append (e := .acquire ⟨w.calls, path⟩) ⟨?_, nofun, rfl⟩ (Nat.le_succ _) ?_
  · intro hmem
    exact absurd (h.numbered _ hmem) (Nat.lt_irrefl _)
  · rintro o ho
    cases ho
    exact Nat.lt_succ_self _

/-! ## Load -/

section load

variable [DecidableEq ι]

/-- What `plugin_manager_load` can do. -/
inductive LoadMove (s : PluginSystem ι) (p : ι) : PluginSystem ι → Prop
  /-- A plugin of the name is registered. -/
  | refused : LoadMove s p s
  /-- `dlopen` fails: the object loses its handle. -/
  | notOpened (plugin : Plugin) (hnew : p ∉ s.manager.plugins)
      (hname : plugin.name = (s.objects p).name) (hprivate : plugin.privateData = none)
      (hdeinit : plugin.pluginDeinit = (s.objects p).pluginDeinit) :
      LoadMove s p { s.setObject p plugin with ledger := ⟨s.ledger.calls + 1, s.ledger.log⟩ }
  /-- The library is opened, and closed again when a symbol is missing. -/
  | opened (plugin : Plugin) (path : CharBuf platformPluginDirectoryLength)
      (e : Event LibraryHandle) (hnew : p ∉ s.manager.plugins)
      (he : e = .release ⟨s.ledger.calls, path⟩ ∨ e = .use ⟨s.ledger.calls, path⟩)
      (hname : plugin.name = (s.objects p).name)
      (hprivate : plugin.privateData = some (.loaded ⟨s.ledger.calls, path⟩))
      (hdeinit : plugin.pluginDeinit = (s.objects p).pluginDeinit ∨ plugin.pluginDeinit = none ∨
        plugin.pluginDeinit = some (.loaded ⟨s.ledger.calls, path⟩)) :
      LoadMove s p { s.setObject p plugin with
        library := Function.update s.library p (some ⟨s.ledger.calls, path⟩)
        ledger := ⟨s.ledger.calls + 1,
          s.ledger.log ++ [.acquire ⟨s.ledger.calls, path⟩] ++ [e]⟩ }

/-- The symbol `dlsym` finds is NULL or belongs to the library. -/
lemma SymbolOutcome.pointer_cases (handle : LibraryHandle) (outcome : SymbolOutcome) :
    outcome.pointer handle = none ∨ outcome.pointer handle = some (.loaded handle) := by
  rcases outcome with _ | _ | _
  · exact .inr rfl
  · exact .inl rfl
  · exact .inl rfl

/-- **Load** moves as listed. -/
lemma pluginManagerLoad_move {s t : PluginSystem ι} {p : ι} {directory : CString}
    {env : LoadOutcome} {code : ℤ} (h : pluginManagerLoad s p directory env = some (code, t)) :
    LoadMove s p t := by
  unfold pluginManagerLoad at h
  split_ifs at h with hfind hopened
  · cases h
    exact .refused
  all_goals
    rw [Bool.not_eq_true, Option.isSome_eq_false_iff, Option.isNone_iff_eq_none,
      pluginManagerFind_eq_none_iff] at hfind
    have hnew : p ∉ s.manager.plugins := fun hp => hfind p hp rfl
  · unfold loadSymbols at h
    simp only at h
    split_ifs at h with hinit hdeinit hnull
    · cases h
      exact .opened { s.objects p with
          privateData := some (.loaded ⟨s.ledger.calls, pluginPath directory (s.nameOf p)⟩)
          pluginInit := env.initSymbol.pointer _ } _ _ hnew (.inl rfl) rfl rfl (.inl rfl)
    · cases h
      exact .opened { s.objects p with
          privateData := some (.loaded ⟨s.ledger.calls, pluginPath directory (s.nameOf p)⟩)
          pluginInit := env.initSymbol.pointer _
          pluginDeinit := env.deinitSymbol.pointer _ } _ _ hnew (.inl rfl) rfl rfl
        (.inr (SymbolOutcome.pointer_cases _ _))
    · cases h
      exact .opened { s.objects p with
          ops := env.ops
          privateData := some (.loaded ⟨s.ledger.calls, pluginPath directory (s.nameOf p)⟩)
          pluginInit := env.initSymbol.pointer _
          pluginDeinit := env.deinitSymbol.pointer _ } _ _ hnew (.inr rfl) rfl rfl
        (.inr (SymbolOutcome.pointer_cases _ _))
  · cases h
    exact .notOpened _ hnew rfl rfl rfl

/-- Rewriting an object that keeps its name leaves all names alone. -/
lemma nameOf_setObject {s : PluginSystem ι} {p : ι} {plugin : Plugin}
    (h : plugin.name = (s.objects p).name) : (s.setObject p plugin).nameOf = s.nameOf := by
  funext q
  unfold PluginSystem.nameOf PluginSystem.setObject
  by_cases hq : q = p
  · subst hq
    simp [h]
  · simp [hq]

/-- A load that opens nothing keeps the invariant: the object has no handle afterwards. -/
lemma PluginSystem.Sound.notOpened {s : PluginSystem ι} {p : ι} {plugin : Plugin} (h : s.Sound)
    (hname : plugin.name = (s.objects p).name) (hprivate : plugin.privateData = none)
    (hdeinit : plugin.pluginDeinit = (s.objects p).pluginDeinit) :
    PluginSystem.Sound
      { s.setObject p plugin with ledger := ⟨s.ledger.calls + 1, s.ledger.log⟩ } := by
  obtain ⟨S, hS⟩ := h.owns
  have howns : (⟨s.ledger.calls + 1, s.ledger.log⟩ : Ledger LibraryHandle).Owns S :=
    ⟨hS.orderly, fun o ho => Nat.lt_succ_of_lt (hS.numbered o ho)⟩
  refine ⟨⟨S, howns⟩, ?_, h.known, ?_, h.distinct, ?_, h.intact⟩
  · intro q handle hq
    by_cases hqp : q = p
    · subst hqp
      simp [PluginSystem.setObject, hprivate] at hq
    · apply h.handle q handle
      simpa [PluginSystem.setObject, hqp] using hq
  · intro q handle hq
    apply h.deinitKnown q handle
    by_cases hqp : q = p
    · subst hqp
      simpa [PluginSystem.setObject, hdeinit] using hq
    · simpa [PluginSystem.setObject, hqp] using hq
  · have hnames := h.names
    rwa [← nameOf_setObject hname] at hnames

/-- The library of a plugin after another one is opened for `p`. -/
lemma library_update_cases {library : ι → Option LibraryHandle} {p q : ι}
    {opened handle : LibraryHandle} (hq : Function.update library p (some opened) q = some handle) :
    (q = p ∧ handle = opened) ∨ (q ≠ p ∧ library q = some handle) := by
  by_cases hqp : q = p
  · subst hqp
    left
    simpa [eq_comm] using hq
  · right
    exact ⟨hqp, by simpa [hqp] using hq⟩

/-- Different plugins still have different libraries after a fresh one is opened. -/
lemma library_update_distinct {library : ι → Option LibraryHandle} {p : ι} {opened : LibraryHandle}
    (hfresh : ∀ q handle, library q = some handle → handle ≠ opened)
    (hdistinct : ∀ q r handle, library q = some handle → library r = some handle → q = r)
    {q r : ι} {handle : LibraryHandle}
    (hq : Function.update library p (some opened) q = some handle)
    (hr : Function.update library p (some opened) r = some handle) : q = r := by
  rcases library_update_cases hq with ⟨rfl, rfl⟩ | ⟨-, holdq⟩
  · rcases library_update_cases hr with ⟨rfl, -⟩ | ⟨-, holdr⟩
    · rfl
    · exact absurd rfl (hfresh r _ holdr)
  · rcases library_update_cases hr with ⟨-, rfl⟩ | ⟨-, holdr⟩
    · exact absurd rfl (hfresh q _ holdq)
    · exact hdistinct q r handle holdq holdr

omit [DecidableEq ι] in
/-- The handle of the next call is none of the known ones. -/
lemma PluginSystem.Sound.fresh {s : PluginSystem ι} (h : s.Sound)
    (path : CharBuf platformPluginDirectoryLength) (q : ι) (handle : LibraryHandle)
    (hq : s.library q = some handle) : handle ≠ ⟨s.ledger.calls, path⟩ := by
  obtain ⟨S, hS⟩ := h.owns
  rintro rfl
  exact absurd (hS.numbered _ (h.known q _ hq)) (Nat.lt_irrefl _)

/-- A load that opens a library keeps the invariant. -/
lemma PluginSystem.Sound.opened {s : PluginSystem ι} {p : ι} {plugin : Plugin} (h : s.Sound)
    (path : CharBuf platformPluginDirectoryLength) {e : Event LibraryHandle}
    (hnew : p ∉ s.manager.plugins)
    (he : e = .release ⟨s.ledger.calls, path⟩ ∨ e = .use ⟨s.ledger.calls, path⟩)
    (hname : plugin.name = (s.objects p).name)
    (hprivate : plugin.privateData = some (.loaded ⟨s.ledger.calls, path⟩))
    (hdeinit : plugin.pluginDeinit = (s.objects p).pluginDeinit ∨ plugin.pluginDeinit = none ∨
      plugin.pluginDeinit = some (.loaded ⟨s.ledger.calls, path⟩)) :
    PluginSystem.Sound { s.setObject p plugin with
      library := Function.update s.library p (some ⟨s.ledger.calls, path⟩)
      ledger := ⟨s.ledger.calls + 1,
        s.ledger.log ++ [.acquire ⟨s.ledger.calls, path⟩] ++ [e]⟩ } := by
  obtain ⟨S, hS⟩ := h.owns
  have hacquire := owns_acquire hS path
  refine ⟨?_, ?_, ?_, ?_, ?_, ?_, ?_⟩
  · rcases he with rfl | rfl
    · exact ⟨_, owns_release hacquire (Multiset.mem_cons_self _ _)⟩
    · exact ⟨_, owns_use hacquire (Multiset.mem_cons_self _ _)⟩
  · intro q handle hq
    by_cases hqp : q = p
    · subst hqp
      simpa [PluginSystem.setObject, hprivate] using hq
    · have hold := h.handle q handle (by simpa [PluginSystem.setObject, hqp] using hq)
      simpa [hqp] using hold
  · intro q handle hq
    rcases library_update_cases hq with ⟨-, rfl⟩ | ⟨-, hold⟩
    · simp
    · simp [h.known q handle hold]
  · intro q handle hq
    by_cases hqp : q = p
    · subst hqp
      rcases hdeinit with hsame | hnone | hnew
      · have hold := h.deinitKnown q handle
          (by simpa [PluginSystem.setObject, hsame] using hq)
        simp [hold]
      · simp [PluginSystem.setObject, hnone] at hq
      · have heq : handle = ⟨s.ledger.calls, path⟩ := by
          simpa [PluginSystem.setObject, hnew, eq_comm] using hq
        simp [heq]
    · have hold := h.deinitKnown q handle (by simpa [PluginSystem.setObject, hqp] using hq)
      simp [hold]
  · exact fun q r handle => library_update_distinct (h.fresh path) h.distinct
  · have hnames := h.names
    rwa [← nameOf_setObject hname] at hnames
  · rintro q hq ⟨handle, hhandle, hclosed⟩
    have hqp : q ≠ p := fun heq => hnew (heq ▸ hq)
    rcases library_update_cases hhandle with ⟨heq, -⟩ | ⟨-, hold⟩
    · exact hqp heq
    · apply h.intact q hq
      refine ⟨handle, hold, ?_⟩
      have hne := h.fresh path q handle hold
      rcases he with rfl | rfl
      · simpa [PluginSystem.Closed, hne] using hclosed
      · simpa [PluginSystem.Closed] using hclosed

/-- **Load keeps the invariant.** -/
lemma LoadMove.sound {s t : PluginSystem ι} {p : ι} (hmove : LoadMove s p t) (h : s.Sound) :
    t.Sound := by
  cases hmove with
  | refused => exact h
  | notOpened plugin hnew hname hprivate hdeinit => exact h.notOpened hname hprivate hdeinit
  | opened plugin path e hnew he hname hprivate hdeinit =>
      exact h.opened path hnew he hname hprivate hdeinit

end load

/-! ## Unload and register -/

/-- What is closed after `unload`. -/
lemma closed_unload_iff (s : PluginSystem ι) (p : ι) (handle : LibraryHandle) :
    (pluginManagerUnload s p).2.Closed handle ↔
      s.Closed handle ∨ (s.objects p).privateData = some (.loaded handle) := by
  have hdeinit : .release handle ∉ (s.objects p).deinitCall := by
    unfold Plugin.deinitCall
    split
    · simp
    · simp
  have hclose : .release handle ∈ (s.objects p).closeCall ↔
      (s.objects p).privateData = some (.loaded handle) := by
    unfold Plugin.closeCall
    split
    · rename_i other hother
      simp [hother, eq_comm]
    · rename_i hother
      simpa using hother handle
  simp only [PluginSystem.Closed, pluginManagerUnload, List.mem_append, hdeinit, hclose, or_false]

/-- **Unload keeps the invariant** where it is safe. -/
lemma PluginSystem.Sound.unload {s : PluginSystem ι} (h : s.Sound) {p : ι}
    (hsafe : CallSafe s (.unload p)) : (pluginManagerUnload s p).2.Sound := by
  obtain ⟨S, hS⟩ := h.owns
  obtain ⟨hdeinit, hhandle⟩ := hsafe
  have hcalled : (⟨s.ledger.calls, s.ledger.log ++ (s.objects p).deinitCall⟩ :
      Ledger LibraryHandle).Owns S := by
    unfold Plugin.deinitCall
    split
    · rename_i handle hcall
      exact owns_use hS (mem_of_not_closed hS (h.deinitKnown p _ hcall) (hdeinit _ hcall))
    · simpa using hS
  have howns : ∃ T, (⟨s.ledger.calls, s.ledger.log ++ (s.objects p).deinitCall ++
      (s.objects p).closeCall⟩ : Ledger LibraryHandle).Owns T := by
    unfold Plugin.closeCall
    split
    · rename_i handle hclose
      have hheld := mem_of_not_closed hS (h.known p _ (h.handle p _ hclose)) (hhandle _ hclose).1
      exact ⟨_, owns_release hcalled hheld⟩
    · exact ⟨S, by simpa using hcalled⟩
  have hgrows : ∀ e, e ∈ s.ledger.log → e ∈ (pluginManagerUnload s p).2.ledger.log := by
    intro e he
    simp [pluginManagerUnload, he]
  refine ⟨howns, h.handle, fun q handle hq => hgrows _ (h.known q handle hq),
    fun q handle hq => hgrows _ (h.deinitKnown q handle hq), h.distinct, h.names, ?_⟩
  rintro q hq ⟨handle, hlibrary, hclosed⟩
  rw [closed_unload_iff] at hclosed
  rcases hclosed with hclosed | hclosed
  · exact h.intact q hq ⟨handle, hlibrary, hclosed⟩
  · -- the library just closed is the one of a plugin that is not registered
    have heq := h.distinct q p handle hlibrary (h.handle p handle hclosed)
    exact (hhandle handle hclosed).2 (heq ▸ hq)

/-- **Register** goes through with a new name while there is room. -/
lemma pluginManagerRegister_cases (s : PluginSystem ι) (p : ι) :
    (pluginManagerRegister s p).2 = s ∨
      (s.manager.plugins.length < pluginManagerMaxPlugins ∧
        pluginManagerFind s (s.nameOf p) = none ∧
        ∃ manager : PluginManager ι, manager.plugins = s.manager.plugins ++ [p] ∧
          (pluginManagerRegister s p).2 = { s with manager := manager }) := by
  unfold pluginManagerRegister
  split_ifs with hfull hfind
  · exact .inl rfl
  · exact .inl rfl
  · right
    rw [Bool.not_eq_true, Option.isSome_eq_false_iff, Option.isNone_iff_eq_none] at hfind
    exact ⟨Nat.lt_of_not_le hfull, hfind, _, rfl, rfl⟩

/-- **Register keeps the invariant** where it is safe. -/
lemma PluginSystem.Sound.register {s : PluginSystem ι} (h : s.Sound) {p : ι}
    (hsafe : CallSafe s (.register p)) : (pluginManagerRegister s p).2.Sound := by
  rcases pluginManagerRegister_cases s p with hsame | ⟨hroom, hfind, manager, hplugins, hnew⟩
  · rw [hsame]
    exact h
  · rw [hnew]
    have hnotClosed := hsafe hroom hfind
    rw [pluginManagerFind_eq_none_iff] at hfind
    refine ⟨h.owns, h.handle, h.known, h.deinitKnown, h.distinct, ?_, ?_⟩
    · show (manager.plugins.map s.nameOf).Nodup
      rw [hplugins, List.map_append, List.map_singleton, List.nodup_append]
      refine ⟨h.names, List.nodup_singleton _, ?_⟩
      intro a ha b hb
      rw [List.mem_map] at ha
      obtain ⟨q, hq, rfl⟩ := ha
      rw [List.mem_singleton] at hb
      rw [hb]
      exact hfind q hq
    · intro q hq
      have hq' : q ∈ s.manager.plugins ++ [p] := hplugins ▸ hq
      rw [List.mem_append, List.mem_singleton] at hq'
      rcases hq' with hold | rfl
      · exact h.intact q hold
      · exact hnotClosed

/-! ## Runs -/

/-- **A safe call keeps the invariant.** -/
lemma PluginSystem.Sound.step [DecidableEq ι] {s t : PluginSystem ι} (h : s.Sound) {l : PluginCall ι}
    (hsafe : CallSafe s l) (hstep : stepOf pluginStep s l t) : t.Sound := by
  rcases l with ⟨p, directory, env⟩ | p | p | name
  · obtain ⟨⟨code, t⟩, hload, rfl⟩ := Option.map_eq_some_iff.mp hstep
    exact (pluginManagerLoad_move hload).sound h
  · cases hstep
    exact h.register hsafe
  · cases hstep
    exact h.unload hsafe
  · cases hstep
    exact h

/-- A registered plugin is what `get` returns for its name. -/
lemma PluginSystem.Sound.get_registered {s : PluginSystem ι} (h : s.Sound) {p : ι}
    (hp : p ∈ s.manager.plugins) : pluginManagerGet s (s.nameOf p) = some p := by
  rw [pluginManagerGet_eq]
  have hfound : (s.manager.plugins.find? fun q => decide (s.nameOf q = s.nameOf p)).isSome := by
    rw [List.find?_isSome]
    exact ⟨p, hp, decide_eq_true rfl⟩
  obtain ⟨q, hq⟩ := Option.isSome_iff_exists.mp hfound
  have hname := List.find?_some hq
  rw [decide_eq_true_eq] at hname
  rw [lookup, hq, List.inj_on_of_nodup_map h.names (List.mem_of_find?_eq_some hq) hp hname]

/-- Of an unsafe `unload`: a function of a closed library is called, a library is closed again, or
the library of a registered plugin is closed. -/
lemma not_lifecycle_unload {s : PluginSystem ι} (h : s.Sound) {p : ι}
    (hbad : ¬ CallSafe s (.unload p)) : ¬ Lifecycle (pluginManagerUnload s p).2 := by
  intro hlife
  apply hbad
  constructor
  · intro handle hdeinit hclosed
    have hcalled := hlife.calledOpen s.ledger.log handle (s.objects p).closeCall (by
      simp [pluginManagerUnload, Plugin.deinitCall, hdeinit])
    exact hcalled.2 hclosed
  · intro handle hprivate
    refine ⟨fun hclosed => ?_, fun hp => ?_⟩
    · have honce := hlife.closedOnce handle
      have hpos : 0 < s.ledger.log.count (.release handle) := List.count_pos_iff.mpr hclosed
      simp [pluginManagerUnload, Plugin.closeCall, hprivate] at honce
      omega
    · refine hlife.got (s.nameOf p) p (h.get_registered hp) ⟨handle, h.handle p _ hprivate, ?_⟩
      rw [closed_unload_iff]
      exact .inr hprivate

/-- Of an unsafe `register`: a plugin whose library was closed can be got. -/
lemma not_lifecycle_register {s : PluginSystem ι} {p : ι}
    (hbad : ¬ CallSafe s (.register p)) : ¬ Lifecycle (pluginManagerRegister s p).2 := by
  intro hlife
  apply hbad
  intro hroom hfind hclosed
  have hnew : ∃ manager : PluginManager ι, manager.plugins = s.manager.plugins ++ [p] ∧
      (pluginManagerRegister s p).2 = { s with manager := manager } := by
    unfold pluginManagerRegister
    rw [dif_neg (Nat.not_le.mpr hroom), hfind]
    exact ⟨_, rfl, rfl⟩
  obtain ⟨manager, hplugins, hnew⟩ := hnew
  rw [hnew] at hlife
  refine hlife.got (s.nameOf p) p ?_ hclosed
  rw [pluginManagerFind_eq_none_iff] at hfind
  have hnone : lookup s.nameOf s.manager.plugins (s.nameOf p) = none := by
    simpa [lookup] using hfind
  rw [pluginManagerGet_eq]
  show lookup s.nameOf manager.plugins (s.nameOf p) = some p
  rw [hplugins, lookup_append, hnone]
  simp

/-- The plugin objects before any call: none has a handle, or a function of a library. -/
structure PluginSystem.Unloaded (s : PluginSystem ι) : Prop where
  empty : s.manager.plugins = []
  ledger : s.ledger = Ledger.empty _
  library : ∀ p, s.library p = none
  handle : ∀ p h, (s.objects p).privateData ≠ some (.loaded h)
  deinit : ∀ p h, (s.objects p).pluginDeinit ≠ some (.loaded h)

/-- The invariant holds before any call. -/
lemma PluginSystem.Unloaded.sound {s : PluginSystem ι} (h : s.Unloaded) : s.Sound where
  owns := ⟨0, h.ledger ▸ Ledger.owns_empty⟩
  handle := fun p handle hp => absurd hp (h.handle p handle)
  known := fun p handle hp => by simp [h.library] at hp
  deinitKnown := fun p handle hp => absurd hp (h.deinit p handle)
  distinct := fun p q handle hp => by simp [h.library] at hp
  names := by simp [h.empty]
  intact := by simp [h.empty]

/-- **The plugin lifecycle, exactly.** For every sequence of calls over any plugin objects, with any
outcomes of `dlopen` and `dlsym`: every visited state has the lifecycle property iff every `unload`
finds the libraries of `plugin_deinit` and of the handle open and, when there is a handle, the
plugin not registered, and every `register` that goes through is of a plugin whose library was not
closed.
Source: `services/plugin-manager.c` -/
theorem lifecycle_iff [DecidableEq ι] {s t : PluginSystem ι} (hs : s.Unloaded)
    {tr : List (PluginSystem ι × PluginCall ι)} (hrun : Run (stepOf pluginStep) s tr t) :
    (∀ u, Visits tr t u → Lifecycle u) ↔ ∀ p ∈ tr, CallSafe p.1 p.2 := by
  refine hrun.always_iff_along (I := PluginSystem.Sound) hs.sound ?_ (fun _ h => h.lifecycle) ?_
  · intro u l v hu hsafe hstep
    exact hu.step hsafe hstep
  · intro u l v hu hbad hstep
    rcases l with ⟨p, directory, env⟩ | p | p | name
    · exact absurd trivial hbad
    · cases hstep
      exact not_lifecycle_register hbad
    · cases hstep
      exact not_lifecycle_unload hu hbad
    · exact absurd trivial hbad

/-- One plugin object, never loaded. -/
def unloadedGpio : PluginSystem Unit where
  manager := ⟨[], Nat.zero_le _⟩
  objects := fun _ => ⟨safeStringCopy (cstr "gpio_linux") 64, none, none, none, none⟩
  ledger := Ledger.empty _
  library := fun _ => none

/-- A load that finds both symbols. -/
def loadGpio : PluginCall Unit :=
  .load () (cstr "./plugins") ⟨true, .found, .found, some .own⟩

/-- The library of that load. -/
def gpioLibrary : LibraryHandle := ⟨0, pluginPath (cstr "./plugins") (cstr "gpio_linux")⟩

/-- Loaded and unloaded, and never registered, the plugin keeps the lifecycle. -/
theorem lifecycle_loadUnload :
    ∃ tr t, Run (stepOf pluginStep) unloadedGpio tr t ∧
      t.ledger.log = [.acquire gpioLibrary, .use gpioLibrary, .use gpioLibrary,
        .release gpioLibrary] ∧
      ∀ u, Visits tr t u → Lifecycle u := by
  have hrun : Run (stepOf pluginStep) unloadedGpio _ _ :=
    run_of_exec [loadGpio, .unload ()] rfl
  refine ⟨_, _, hrun, rfl, (lifecycle_iff ⟨rfl, rfl, fun _ => rfl, nofun, nofun⟩ hrun).mpr ?_⟩
  have hopen : ∀ handle, Event.release handle ∉ [.acquire gpioLibrary, .use gpioLibrary] := by
    simp
  change ∀ p ∈ [(_, loadGpio), (_, .unload ())], _
  rw [List.forall_mem_cons, List.forall_mem_cons]
  exact ⟨trivial, ⟨fun handle _ => hopen handle,
    fun handle _ => ⟨hopen handle, List.not_mem_nil⟩⟩, nofun⟩

/-- Loaded, registered and unloaded: the registry still returns the plugin. -/
theorem unloaded_plugin_got :
    unloadedGpio.Unloaded ∧ ∃ t, Reachable (stepOf pluginStep) unloadedGpio t ∧ ¬ Lifecycle t := by
  have hrun : Run (stepOf pluginStep) unloadedGpio _ _ :=
    run_of_exec [loadGpio, .register (), .unload ()] rfl
  refine ⟨⟨rfl, rfl, fun _ => rfl, nofun, nofun⟩, _, ⟨_, hrun⟩, ?_⟩
  intro hlife
  have hclosed : Event.release gpioLibrary ∈ [.acquire gpioLibrary, .use gpioLibrary,
      .use gpioLibrary, .release gpioLibrary] := by simp
  exact hlife.got (cstr "gpio_linux") () rfl ⟨gpioLibrary, rfl, hclosed⟩

end HardwareTest
