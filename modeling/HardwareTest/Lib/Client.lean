import Mathlib.Tactic.Common

/-!
# Clients of a concurrent service

One thread calls the operations of a component while other threads change its state.

* `Client`: a program that calls operations and goes on with their replies. `Client.eval` runs it
  against a sequential service, a function of the state.
* `Service`: the replies an operation can get in a state, and the steps of the other threads.
  `Service.Executes`: a client between whose operations the other threads take any steps.
* **Rules.** `Refines` relates the states of a service to those of a sequential one. Then a client
  can get a result under some interleaving iff it is the sequential result (`Refines.executes_iff`).
  `Refines.of_projection` lifts a refinement to a larger state.
-/

namespace HardwareTest.Lib

variable {Op : Type} {Reply : Op → Type} {α β : Type} {σ τ : Type*}

/-! ## Clients -/

/-- A program that calls operations. -/
inductive Client (Op : Type) (Reply : Op → Type) (α : Type)
  | done (a : α)
  | call (op : Op) (next : Reply op → Client Op Reply α)

namespace Client

/-- One client after another. -/
def bind : Client Op Reply α → (α → Client Op Reply β) → Client Op Reply β
  | .done a, f => f a
  | .call op next, f => .call op fun r => (next r).bind f

instance : Monad (Client Op Reply) where
  pure := .done
  bind := bind

/-- The call of one operation. -/
def invoke (op : Op) : Client Op Reply (Reply op) := .call op .done

/-- The result and the last state against a sequential service. -/
def eval (serve : τ → (op : Op) → Reply op × τ) : Client Op Reply α → τ → α × τ
  | .done a, x => (a, x)
  | .call op next, x => eval serve (next (serve x op).1) (serve x op).2

variable (serve : τ → (op : Op) → Reply op × τ)

@[simp] lemma eval_pure (a : α) (x : τ) : eval serve (pure a : Client Op Reply α) x = (a, x) := rfl

@[simp] lemma eval_invoke (op : Op) (x : τ) : eval serve (invoke op) x = serve x op := rfl

@[simp] lemma eval_bind (c : Client Op Reply α) (f : α → Client Op Reply β) (x : τ) :
    eval serve (c >>= f) x = eval serve (f (eval serve c x).1) (eval serve c x).2 := by
  induction c generalizing x with
  | done a => rfl
  | call op next ih => exact ih _ _

end Client

/-! ## Services -/

/-- A component in use: what its operations reply, and what the other threads do. -/
structure Service (Op : Type) (Reply : Op → Type) (σ : Type*) where
  background : σ → σ → Prop
  replies : (op : Op) → σ → Reply op → σ → Prop

/-- The client ends with a result, whatever the other threads do before, between and after its
operations. -/
inductive Service.Executes (S : Service Op Reply σ) : σ → Client Op Reply α → α → σ → Prop
  | done {s : σ} {a : α} : Executes S s (.done a) a s
  | interleave {s s' t : σ} {c : Client Op Reply α} {a : α} :
      S.background s s' → Executes S s' c a t → Executes S s c a t
  | call {s s' t : σ} {op : Op} {r : Reply op} {next : Reply op → Client Op Reply α} {a : α} :
      S.replies op s r s' → Executes S s' (next r) a t → Executes S s (.call op next) a t

/-- **Refinement**: the other threads do not show, every reply is the sequential one, and every
operation gets a reply. -/
structure Refines (S : Service Op Reply σ) (serve : τ → (op : Op) → Reply op × τ)
    (R : σ → τ → Prop) : Prop where
  background : ∀ s x s', R s x → S.background s s' → R s' x
  replies : ∀ op s x r s', R s x → S.replies op s r s' → r = (serve x op).1 ∧ R s' (serve x op).2
  responds : ∀ op s x, R s x → ∃ r s', S.replies op s r s'

namespace Refines

variable {S : Service Op Reply σ} {serve : τ → (op : Op) → Reply op × τ} {R : σ → τ → Prop}
  {s t : σ} {x : τ}

/-- Under every interleaving the client gets the sequential result. -/
theorem executes (h : Refines S serve R) {c : Client Op Reply α} {a : α} (hR : R s x)
    (hrun : S.Executes s c a t) :
    a = (c.eval serve x).1 ∧ R t (c.eval serve x).2 := by
  induction hrun generalizing x with
  | done => exact ⟨rfl, hR⟩
  | interleave hstep _ ih => exact ih (h.background _ _ _ hR hstep)
  | call hreply _ ih =>
      obtain ⟨rfl, hR'⟩ := h.replies _ _ _ _ _ hR hreply
      exact ih hR'

/-- Some interleaving lets the client end, and keeps what the replies can keep. -/
theorem exists_executes_keeping (h : Refines S serve R) {K : σ → Prop}
    (hK : ∀ op s x, R s x → K s → ∃ r s', S.replies op s r s' ∧ K s') (c : Client Op Reply α)
    (hR : R s x) (hs : K s) : ∃ t, S.Executes s c (c.eval serve x).1 t ∧ K t := by
  induction c generalizing s x with
  | done a => exact ⟨s, .done, hs⟩
  | call op next ih =>
      obtain ⟨r, s', hreply, hs'⟩ := hK op s x hR hs
      obtain ⟨rfl, hR'⟩ := h.replies _ _ _ _ _ hR hreply
      obtain ⟨t, ht, hkept⟩ := ih _ hR' hs'
      exact ⟨t, .call hreply ht, hkept⟩

/-- Some interleaving lets the client end. -/
theorem exists_executes (h : Refines S serve R) (c : Client Op Reply α) (hR : R s x) :
    ∃ t, S.Executes s c (c.eval serve x).1 t := by
  have hresponds : ∀ op s x, R s x → True → ∃ r s', S.replies op s r s' ∧ True := by
    intro op s x hR _
    obtain ⟨r, s', hreply⟩ := h.responds op s x hR
    exact ⟨r, s', hreply, trivial⟩
  obtain ⟨t, ht, -⟩ := h.exists_executes_keeping hresponds c hR trivial
  exact ⟨t, ht⟩

/-- **A client of a refined service** gets the sequential result, and no other. -/
theorem executes_iff (h : Refines S serve R) (c : Client Op Reply α) (hR : R s x) (a : α) :
    (∃ t, S.Executes s c a t) ↔ a = (c.eval serve x).1 := by
  constructor
  · rintro ⟨t, hrun⟩
    exact (h.executes hR hrun).1
  · rintro rfl
    exact h.exists_executes c hR

/-- **A service over a larger state** refines what the service on a part of the state does, when its
steps show there as steps or not at all. -/
theorem of_projection {σ' : Type*} {S' : Service Op Reply σ'} (f : σ' → σ) {I : σ' → Prop}
    (hbackground : ∀ s t, I s → S'.background s t → I t ∧ (f t = f s ∨ S.background (f s) (f t)))
    (hreplies : ∀ op s r t, I s → S'.replies op s r t → I t ∧ S.replies op (f s) r (f t))
    (hresponds : ∀ op s x, I s → R (f s) x → ∃ r t, S'.replies op s r t)
    (h : Refines S serve R) : Refines S' serve fun s x => I s ∧ R (f s) x where
  background s x t hs hstep := by
    obtain ⟨ht, hsame | hshows⟩ := hbackground s t hs.1 hstep
    · exact ⟨ht, hsame ▸ hs.2⟩
    · exact ⟨ht, h.background _ _ _ hs.2 hshows⟩
  replies op s x r t hs hreply := by
    obtain ⟨ht, hreply⟩ := hreplies op s r t hs.1 hreply
    obtain ⟨hr, hR⟩ := h.replies op _ x r _ hs.2 hreply
    exact ⟨hr, ht, hR⟩
  responds op s x hs := hresponds op s x hs.1 hs.2

end Refines

end HardwareTest.Lib
