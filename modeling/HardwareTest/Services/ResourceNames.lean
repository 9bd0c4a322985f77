import HardwareTest.Services.ResourceManager
import HardwareTest.Services.TestManager
import HardwareTest.Lib.Transition

/-!
# The names in the resource table: `services/resource-manager.c`

`resource_manager_register` looks for the name it is given and stores a copy cut to 63 bytes. A
name that does not fit is never found again, not even by the next call with the same name.

* `registerStep`: the table under any sequence of calls; the label of a step is the name.
* `NamesUnique`: what the calls of a run promise.
* `namesUnique_iff`: they keep it iff every name fits its buffer, or comes when the table is full.
-/

namespace HardwareTest

open Lib

variable {ι : Type*}

/-- Any call of `resource_manager_register`. -/
def registerStep (m : ResourceManager ι) (name : CString) : Option (ResourceManager ι) :=
  some (resourceManagerRegister m name).2

namespace ResourceManager

variable (m : ResourceManager ι) (name : CString)

/-- The stored names, in the order of their registration. -/
def names : List CString := m.resources.map ResourceInfo.key

/-- The table is full. -/
def Full : Prop := resourceManagerMaxResources ≤ m.resources.length

/-- The table is full or has an entry of the name. -/
def Refuses : Prop := m.Full ∨ (resourceManagerFind m.resources name).isSome = true

/-- A call refuses a name, or adds it cut to the buffer. -/
lemma register_cases :
    (m.Refuses name ∧ resourceManagerRegister m name = (-1, m)) ∨
    (¬ m.Full ∧ resourceManagerFind m.resources name = none ∧
      (resourceManagerRegister m name).1 = 0 ∧
      (resourceManagerRegister m name).2.resources = m.resources ++ [freeResource name]) := by
  unfold resourceManagerRegister Refuses
  by_cases hfull : m.resources.length ≥ resourceManagerMaxResources
  · left
    rw [dif_pos hfull]
    exact ⟨.inl hfull, rfl⟩
  rw [dif_neg hfull]
  by_cases hfound : (resourceManagerFind m.resources name).isSome = true
  · left
    rw [if_pos hfound]
    exact ⟨.inr hfound, rfl⟩
  · right
    rw [if_neg hfound]
    exact ⟨hfull, by simpa using hfound, rfl, rfl⟩

/-- A name is refused with the code `-1`. -/
lemma register_code_iff : (resourceManagerRegister m name).1 = -1 ↔ m.Refuses name := by
  rcases m.register_cases name with ⟨hrefuses, hregister⟩ | ⟨hroom, hnone, hcode, -⟩
  · rw [hregister]
    exact iff_of_true rfl hrefuses
  · rw [hcode]
    refine iff_of_false (by decide) ?_
    rintro (hfull | hfound)
    · exact hroom hfull
    · rw [hnone] at hfound
      cases hfound

/-- What a call promises: a failing one changes nothing, any other adds an entry that is found under
the name given. -/
structure Registers : Prop where
  adds : (resourceManagerRegister m name).1 = 0 →
    (resourceManagerRegister m name).2.resources = m.resources ++ [freeResource name] ∧
      resourceManagerFind (resourceManagerRegister m name).2.resources name =
        some m.resources.length
  unchanged : (resourceManagerRegister m name).1 ≠ 0 → (resourceManagerRegister m name).2 = m

/-- The name fits the buffer of an entry, or the table is full. -/
def Fits : Prop := name.length < deviceNameLength ∨ m.Full

/-- The key of a new entry is the name iff the name fits. -/
lemma key_freeResource_eq_iff :
    (freeResource name : ResourceInfo ι).key = name ↔ name.length < deviceNameLength := by
  unfold freeResource ResourceInfo.key
  rw [safeStringCopy_chars_eq_iff]

/-- A name that has an entry fits. -/
lemma Refuses.fits {m : ResourceManager ι} {name : CString} (h : m.Refuses name) :
    m.Fits name := by
  rcases h with hfull | hfound
  · exact .inr hfull
  · left
    by_contra hlong
    have hnone : resourceManagerFind m.resources name = none := by
      unfold resourceManagerFind
      rw [indexOf_eq_none_iff_forall]
      rintro r - rfl
      exact hlong r.name.terminated
    rw [hnone] at hfound
    cases hfound

/-- **A call keeps its promise exactly when the name fits.** -/
lemma registers_iff : m.Registers name ↔ m.Fits name := by
  rcases m.register_cases name with ⟨hrefuses, hregister⟩ | ⟨hroom, hnone, hcode, hadded⟩
  · have hfails : (resourceManagerRegister m name).1 ≠ 0 := by
      rw [(m.register_code_iff name).mpr hrefuses]
      decide
    refine iff_of_true ⟨fun h => absurd h hfails, fun _ => ?_⟩ hrefuses.fits
    rw [hregister]
  · have hfind : resourceManagerFind (resourceManagerRegister m name).2.resources name =
        if (freeResource name : ResourceInfo ι).key = name then some m.resources.length
        else none := by
      rw [hadded]
      exact indexOf_append_of_none hnone _
    constructor
    · intro h
      have hfound := (h.adds hcode).2
      rw [hfind] at hfound
      split_ifs at hfound with hkey
      exact .inl ((key_freeResource_eq_iff name).mp hkey)
    · intro hfits
      have hkey := (key_freeResource_eq_iff (ι := ι) name).mpr (hfits.resolve_right hroom)
      refine ⟨fun _ => ⟨hadded, ?_⟩, fun h => absurd hcode h⟩
      rw [hfind, if_pos hkey]

end ResourceManager

/-! ## Runs -/

namespace ResourceManager

variable {m : ResourceManager ι} {name : CString}

/-- A refused name is refused from then on. -/
lemma Refuses.register (h : m.Refuses name) (other : CString) :
    (resourceManagerRegister m other).2.Refuses name := by
  rcases m.register_cases other with ⟨-, hregister⟩ | ⟨-, -, -, hadded⟩
  · rw [hregister]
    exact h
  · rcases h with hfull | hfound
    · left
      unfold Full at hfull ⊢
      rw [hadded, List.length_append]
      omega
    · right
      unfold resourceManagerFind indexOf at hfound ⊢
      rw [hadded, List.findIdx?_append]
      simp [Option.isSome_or, hfound]

/-- A name that fits is refused after its call. -/
lemma Fits.refuses_register (h : m.Fits name) :
    (resourceManagerRegister m name).2.Refuses name := by
  rcases m.register_cases name with ⟨hrefuses, -⟩ | ⟨-, -, hcode, -⟩
  · exact hrefuses.register name
  · right
    rw [(((m.registers_iff name).mpr h).adds hcode).2]
    rfl

/-- A call with a name that fits keeps the names distinct. -/
lemma nodup_register (hnodup : m.names.Nodup) (h : m.Fits name) :
    (resourceManagerRegister m name).2.names.Nodup := by
  rcases m.register_cases name with ⟨-, hregister⟩ | ⟨hroom, hnone, -, hadded⟩
  · rw [hregister]
    exact hnodup
  · have hkey := (key_freeResource_eq_iff (ι := ι) name).mpr (h.resolve_right hroom)
    unfold names
    rw [hadded, List.map_append, List.map_singleton, hkey]
    refine List.nodup_append.mpr ⟨hnodup, List.nodup_singleton _, ?_⟩
    intro k hk l hl heq
    obtain ⟨r, hr, rfl⟩ := List.mem_map.mp hk
    rw [List.mem_singleton] at hl
    exact (indexOf_eq_none_iff_forall _ _).mp hnone r hr (heq.trans hl)

end ResourceManager

/-- **What the calls of a run promise**: the names are distinct in every state; every call keeps its
own promise; and a call with the name of an earlier call returns `-1`. -/
structure NamesUnique (tr : List (ResourceManager ι × CString)) (t : ResourceManager ι) : Prop where
  distinct : ∀ u, Visits tr t u → u.names.Nodup
  registers : ∀ call ∈ tr, call.1.Registers call.2
  refusesSecond : ∀ past call future, tr = past ++ call :: future →
    call.2 ∈ past.map Prod.snd → (resourceManagerRegister call.1 call.2).1 = -1

section runs

variable {fm : FunctionManager} {tr : List (ResourceManager ι × CString)} {t : ResourceManager ι}

/-- After calls with names that fit, every one of these names is refused. -/
lemma refuses_of_called (hrun : Run (stepOf registerStep) (resourceManagerInit fm) tr t)
    (hfits : ∀ call ∈ tr, call.1.Fits call.2) : ∀ call ∈ tr, t.Refuses call.2 := by
  induction hrun with
  | start => simp
  | @next tr t name u hrun hstep ih =>
      obtain rfl : (resourceManagerRegister t name).2 = u := Option.some.inj hstep
      intro call hcall
      rw [List.mem_append, List.mem_singleton] at hcall
      rcases hcall with hcall | rfl
      · exact (ih (fun p hp => hfits p (List.mem_append_left _ hp)) call hcall).register name
      · exact (hfits (t, name) (by simp)).refuses_register

/-- **Resource names stay unique exactly** when every call's name fits its buffer, or comes when the
table is full. Source: `services/resource-manager.c`, `resource_manager_register`,
`resource_manager_find`; `utils/safe_string.h`, `safe_string_copy`, `safe_string_compare` -/
theorem namesUnique_iff (hrun : Run (stepOf registerStep) (resourceManagerInit fm) tr t) :
    NamesUnique tr t ↔ ∀ call ∈ tr, call.2.length < deviceNameLength ∨ call.1.Full := by
  constructor
  · intro h call hcall
    exact (call.1.registers_iff call.2).mp (h.registers call hcall)
  · intro hfits
    refine ⟨?_, ?_, ?_⟩
    · intro u hu
      refine hrun.visits_invariantAlong (I := fun m => m.names.Nodup)
        (C := fun m name => m.Fits name) List.nodup_nil ?_ hfits hu
      intro m name m' hnodup hfit hstep
      obtain rfl : (resourceManagerRegister m name).2 = m' := Option.some.inj hstep
      exact ResourceManager.nodup_register hnodup hfit
    · intro call hcall
      exact (call.1.registers_iff call.2).mpr (hfits call hcall)
    · rintro past call future rfl hcalled
      obtain ⟨earlier, hearlier, hname⟩ := List.mem_map.mp hcalled
      have hpast := refuses_of_called (hrun.before rfl)
        (fun p hp => hfits p (List.mem_append_left _ hp)) earlier hearlier
      rw [ResourceManager.register_code_iff, ← hname]
      exact hpast

end runs

/-- Two names that fit, the first given twice. -/
theorem namesUnique_twoNames :
    ∃ (tr : List (ResourceManager ℕ × CString)) (t : ResourceManager ℕ),
      Run (stepOf registerStep) (resourceManagerInit ledFunctions) tr t ∧
        t.names = [cstr "status_led", cstr "power_led"] ∧ NamesUnique tr t := by
  have hrun : Run (stepOf registerStep) (resourceManagerInit (ι := ℕ) ledFunctions) _ _ :=
    run_of_exec [cstr "status_led", cstr "power_led", cstr "status_led"] rfl
  refine ⟨_, _, hrun, rfl, (namesUnique_iff hrun).mpr fun call hcall => .inl ?_⟩
  have hname := mem_of_mem_history hcall
  simp only [List.mem_cons, List.not_mem_nil, or_false] at hname
  rcases hname with hname | hname | hname
  all_goals
    rw [hname]
    decide

/-- A name of 64 bytes is registered twice and stored cut to the same 63 bytes. -/
theorem longName_registered_twice :
    ∃ (tr : List (ResourceManager ℕ × CString)) (t : ResourceManager ℕ),
      Run (stepOf registerStep) (resourceManagerInit ledFunctions) tr t ∧
        t.names = [.replicate 63 97, .replicate 63 97] ∧ ¬ NamesUnique tr t := by
  have hrun : Run (stepOf registerStep) (resourceManagerInit (ι := ℕ) ledFunctions) _ _ :=
    run_of_exec [.replicate 64 97, .replicate 64 97] rfl
  refine ⟨_, _, hrun, rfl, fun h => ?_⟩
  have hdistinct := h.distinct _ Visits.last
  exact absurd (hdistinct : [List.replicate 63 (97 : UInt8), .replicate 63 97].Nodup) (by decide)

end HardwareTest
