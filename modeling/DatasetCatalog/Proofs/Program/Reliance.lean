import DatasetCatalog.Proofs.Program.Interleaving

/-!
# Programs that rely on what they are answered

What a program asks for next can depend on an earlier answer: it adds the instance whose specification
it was given, and removes the one that it has found. So its calls are in order only if the answers
are. `Relies P R p Q` says that all calls of `p` are as `P` says for as long as they are answered as `R`
says, and that it then ends as `Q` says.

The other half is that of the collaborators: in states of an invariant they answer the calls of `P` as
`R` says and keep the invariant. Then both hold throughout, in runs (`Runs.reliant`) and for programs
side by side (`InterleavesBy.reliant`).
-/

namespace DatasetCatalog.Program

variable {α β ι σ τ : Type} {P P' : Call → Prop} {R R' : Exchange → Prop}

/-- As long as its calls are answered as `R` says they are as `P` says, and the program ends as `Q`
says. -/
def Relies (P : Call → Prop) (R : Exchange → Prop) : Program α → (α → Prop) → Prop
  | .done a, Q => Q a
  | .call c next, Q => P c ∧ ∀ a, R ⟨c, a⟩ → Relies P R (next a) Q

namespace Relies

theorem mono {p : Program α} {Q Q' : α → Prop} (h : Relies P R p Q) (hP : ∀ c, P c → P' c)
    (hQ : ∀ a, Q a → Q' a) : Relies P' R p Q' := by
  induction p with
  | done a => exact hQ a h
  | call c next ih => exact ⟨hP c h.1, fun a ha => ih a (h.2 a ha)⟩

/-- Collaborators that answer more strictly can be relied on as well. -/
theorem strengthen {p : Program α} {Q : α → Prop} (h : Relies P R p Q) (hR : ∀ x, R' x → R x) :
    Relies P R' p Q := by
  induction p with
  | done a => exact h
  | call c next ih => exact ⟨h.1, fun a ha => ih a (h.2 a (hR _ ha))⟩

theorem bind {p : Program α} {f : α → Program β} {Q : α → Prop} {Q' : β → Prop}
    (h : Relies P R p Q) (hf : ∀ a, Q a → Relies P R (f a) Q') : Relies P R (p >>= f) Q' := by
  induction p with
  | done a => exact hf a h
  | call c next ih => exact ⟨h.1, fun a ha => ih a (h.2 a ha)⟩

/-- One call. -/
theorem ask {c : Call} (h : P c) : Relies P R (Program.ask c) fun a => R ⟨c, a⟩ :=
  ⟨h, fun _ ha => ha⟩

/-- A program whose answer is not needed. -/
theorem discard {p : Program α} {Q : α → Prop} (h : Relies P R p Q) :
    Relies P R (Functor.discard p) fun _ => True := bind h fun _ _ => trivial

/-- A program whose calls are in order whatever they are answered. -/
theorem of_only {p : Program α} (h : p.Only P) : Relies P R p fun _ => True := by
  induction p with
  | done a => exact trivial
  | call c next ih => exact ⟨h.1, fun a _ => ih a (h.2 a)⟩

/-- Nothing is asked of a program, and nothing of those that answer it. -/
theorem nothing (p : Program α) : Relies (fun _ => True) R p fun _ => True := by
  induction p with
  | done a => exact trivial
  | call c next ih => exact ⟨trivial, fun a _ => ih a⟩

open Lifecycle

variable {f : α → Step β}

/-- One step after another. -/
theorem step_bind {x : Step α} (h : Relies P R x.run fun _ => True)
    (hf : ∀ a, Relies P R (f a).run fun _ => True) : Relies P R (x >>= f).run fun _ => True := by
  refine bind h fun r _ => ?_
  cases r with
  | ok a => exact hf a
  | error e => exact trivial

/-- A step of whose answer only the failure is needed. -/
theorem step_discard {x : Step α} (h : Relies P R x.run fun _ => True) :
    Relies P R (Functor.discard x : Step Unit).run fun _ => True := by
  refine bind h fun r _ => ?_
  cases r <;> exact trivial

/-- A part that cannot fail, and then a step. -/
theorem always_bind {p : Program α} {Q : α → Prop} (h : Relies P R p Q)
    (hf : ∀ a, Q a → Relies P R (f a).run fun _ => True) :
    Relies P R (always p >>= f).run fun _ => True := by
  rw [run_always_bind]
  exact bind h hf

/-- A registry call, and then a step if it does not fail. -/
theorem ofRegistry_bind {p : Program (Except RegistryError α)} {Q : Except RegistryError α → Prop}
    (h : Relies P R p Q) (hf : ∀ a, Q (.ok a) → Relies P R (f a).run fun _ => True) :
    Relies P R (ofRegistry p >>= f).run fun _ => True := by
  rw [run_ofRegistry_bind]
  refine bind h fun r hr => ?_
  cases r with
  | ok a => exact hf a hr
  | error e => exact trivial

end Relies

/-! ### Runs -/

variable {B : Conduct σ} {I : σ → Prop}

/-- A program that relies on its collaborators runs as it should with collaborators that can be relied
on. What every call does to the state, in the sense of `F`, the run does. -/
theorem Runs.reliant {F : σ → σ → Prop} {p : Program α} {s s' : σ} {xs : List Exchange} {a : α}
    {Q : α → Prop} (h : Runs B p s xs a s') (relies : Relies P R p Q) (start : I s)
    (refl : ∀ s, F s s) (trans : ∀ s₁ s₂ s₃, F s₁ s₂ → F s₂ s₃ → F s₁ s₃)
    (step : ∀ c s a s', P c → I s → B c s a s' → I s' ∧ R ⟨c, a⟩ ∧ F s s') :
    I s' ∧ Q a ∧ F s s' := by
  induction h with
  | done a s => exact ⟨start, relies, refl s⟩
  | call answered _ ih =>
    obtain ⟨inv, right, change⟩ := step _ _ _ _ relies.1 start answered
    obtain ⟨inv', ends, changes⟩ := ih (relies.2 _ right) inv
    exact ⟨inv', ends, trans _ _ _ change changes⟩

/-- What such a program does to the state, seen through a relation that its calls keep, is a run on what
is seen. -/
theorem Runs.reliant_simulate {B' : Conduct τ} {I : τ → σ → Prop} {p : Program α} {s s' : σ} {t : τ}
    {xs : List Exchange} {a : α} {Q : α → Prop} (h : Runs B p s xs a s') (relies : Relies P R p Q)
    (start : I t s)
    (step : ∀ c t s a s', P c → I t s → B c s a s' → ∃ t', B' c t a t' ∧ I t' s' ∧ R ⟨c, a⟩) :
    ∃ t', Runs B' p t xs a t' ∧ I t' s' := by
  induction h generalizing t with
  | done a s => exact ⟨t, .done a t, start⟩
  | call answered _ ih =>
    obtain ⟨t₁, answered', kept, right⟩ := step _ _ _ _ _ relies.1 start answered
    obtain ⟨t', rest, ends⟩ := ih (relies.2 _ right) kept
    exact ⟨t', .call answered' rest, ends⟩

/-- The same of programs side by side, wherever they have come to. -/
theorem InterleavesBy.reliant [DecidableEq ι] {p q : Threads ι α} {s s' : σ}
    {xs : List (ThreadExchange ι)} {B : ι → Conduct σ} {Q : α → Prop} (h : InterleavesBy B p s xs q s')
    (relies : ∀ i, Relies P R (p i) Q) (start : I s)
    (step : ∀ i c s a s', P c → I s → B i c s a s' → I s' ∧ R ⟨c, a⟩) :
    I s' ∧ ∀ i, Relies P R (q i) Q := by
  refine h.invariant (I := fun _ q s => I s ∧ ∀ i, Relies P R (q i) Q) ⟨start, relies⟩ ?_
  intro xs q s₁ s₂ i c next a inv turn answered
  obtain ⟨inv, relies⟩ := inv
  have hi := relies i
  rw [turn] at hi
  obtain ⟨inv', right⟩ := step i c s₁ a s₂ hi.1 inv answered
  refine ⟨inv', fun j => ?_⟩
  by_cases hj : j = i
  · subst hj
    rw [Function.update_self]
    exact hi.2 a right
  · rw [Function.update_of_ne hj]
    exact relies j

/-- A program whose calls change nothing and are answered alike in two states ends alike in both. -/
theorem Relies.run_congr {handle : (c : Call) → σ → c.Answer × σ} {p : Program α} {Q : α → Prop}
    {s s' : σ} (h : Relies P R p Q)
    (same : ∀ c, P c → ∃ a, R ⟨c, a⟩ ∧ handle c s = (a, s) ∧ handle c s' = (a, s')) :
    (p.run handle s').1 = (p.run handle s).1 := by
  induction p with
  | done a => rfl
  | call c next ih =>
    obtain ⟨a, right, first, second⟩ := same c h.1
    rw [run_call first, run_call second]
    exact ih a (h.2 a right)

end DatasetCatalog.Program
