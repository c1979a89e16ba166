import DatasetCatalog.Proofs.Program.Interleaving

/-!
# Following programs through stages

How far a program has come can be said with less than the program: by a stage, with a relation of
moves that says how a call and its answer lead from stage to stage. `Tracks` is the weakest condition
for a program to keep to the moves whatever it is answered, or for as long as it gets the answers that
working collaborators give. It is shown call by call along the program, and afterwards the program
can be forgotten.

`InterleavesBy.track` follows the threads of an interleaving through their stages and keeps, along
the way, whatever every single move keeps. Taken by themselves, the calls of a thread that has
returned are a run of its program (`InterleavesBy.runs_own`).
-/

namespace DatasetCatalog

/-- How a call and its answer lead from one stage to the next. -/
abbrev Moves (Φ : Type) := Φ → (c : Call) → c.Answer → Φ → Prop

namespace Program

variable {α β ι σ Φ : Type}

section

variable {M : Moves Φ} {φ : Φ}

/-- A program keeps to the moves from a stage on, whatever it is answered, and ends with a value and
in a stage as asked. Where collaborators are known not to give every answer, moves are only asked for
those that are `met`. -/
def Tracks (M : Moves Φ) (φ : Φ) (p : Program α) (Q : α → Φ → Prop)
    (met : (c : Call) → c.Answer → Prop := fun _ _ => True) : Prop :=
  match p with
  | .done a => Q a φ
  | .call c next => ∀ a, met c a → ∃ φ', M φ c a φ' ∧ Tracks M φ' (next a) Q met

namespace Tracks

variable {met : (c : Call) → c.Answer → Prop}

theorem mono {p : Program α} {Q R : α → Φ → Prop} (h : Tracks M φ p Q met)
    (hQR : ∀ a φ, Q a φ → R a φ) : Tracks M φ p R met := by
  induction p generalizing φ with
  | done a => exact hQR _ _ h
  | call c next ih =>
    intro a hmet
    obtain ⟨φ', move, hnext⟩ := h a hmet
    exact ⟨φ', move, ih a hnext⟩

theorem bind {p : Program α} {f : α → Program β} {Q : α → Φ → Prop} {R : β → Φ → Prop}
    (h : Tracks M φ p Q met) (hf : ∀ a φ', Q a φ' → Tracks M φ' (f a) R met) :
    Tracks M φ (p >>= f) R met := by
  induction p generalizing φ with
  | done a => exact hf a φ h
  | call c next ih =>
    intro a hmet
    obtain ⟨φ', move, hnext⟩ := h a hmet
    exact ⟨φ', move, ih a hnext⟩

/-- One call. -/
theorem ask {c : Call} {Q : c.Answer → Φ → Prop} (h : ∀ a, met c a → ∃ φ', M φ c a φ' ∧ Q a φ') :
    Tracks M φ (Program.ask c) Q met := h

/-- A program stays in a stage if all calls that it can make do. -/
theorem of_only {P : Call → Prop} {p : Program α} {Q : α → Φ → Prop}
    (stays : ∀ c, P c → ∀ a, M φ c a φ) (h : p.Only P) (hQ : ∀ a, Q a φ) : Tracks M φ p Q met := by
  induction p with
  | done a => exact hQ a
  | call c next ih => exact fun a _ => ⟨φ, stays c h.1 a, ih a (h.2 a)⟩

/-- All programs keep to moves that allow everything. -/
theorem free (p : Program α) : Tracks (fun (_ : Unit) _ _ _ => True) () p fun _ _ => True := by
  induction p with
  | done a => exact trivial
  | call c next ih => exact fun a _ => ⟨(), trivial, ih a⟩

/-- On two states that stay alike as long as a program keeps to its moves it runs alike. -/
theorem run_alike {τ : Type} {handle : (c : Call) → σ → c.Answer × σ}
    {handle' : (c : Call) → τ → c.Answer × τ} {I : Φ → σ → τ → Prop} {p : Program α}
    {Q : α → Φ → Prop} {s : σ} {t : τ} (h : Tracks M φ p Q) (alike : I φ s t)
    (step : ∀ {φ c s t φ'}, I φ s t → M φ c (handle c s).1 φ' →
      (handle' c t).1 = (handle c s).1 ∧ I φ' (handle c s).2 (handle' c t).2) :
    (p.run handle' t).1 = (p.run handle s).1 ∧
      ∃ φ', Q (p.run handle s).1 φ' ∧ I φ' (p.run handle s).2 (p.run handle' t).2 := by
  induction p generalizing φ s t with
  | done a => exact ⟨rfl, φ, h, alike⟩
  | call c next ih =>
    obtain ⟨φ', move, rest⟩ := h (handle c s).1 trivial
    obtain ⟨same, alike'⟩ := step alike move
    have first : (call c next).run handle s =
        (next (handle c s).1).run handle (handle c s).2 := rfl
    have second : (call c next).run handle' t =
        (next (handle c s).1).run handle' (handle' c t).2 := by
      rw [← same]
      rfl
    rw [first, second]
    exact ih _ rest alike'

/-- What every move keeps, a program that keeps to the moves keeps. -/
theorem run_keeps {handle : (c : Call) → σ → c.Answer × σ} {I : Φ → σ → Prop} {p : Program α}
    {Q : α → Φ → Prop} {s : σ} (h : Tracks M φ p Q) (start : I φ s)
    (step : ∀ {φ c s φ'}, I φ s → M φ c (handle c s).1 φ' → I φ' (handle c s).2) :
    ∃ φ', Q (p.run handle s).1 φ' ∧ I φ' (p.run handle s).2 := by
  induction p generalizing φ s with
  | done a => exact ⟨φ, h, start⟩
  | call c next ih =>
    obtain ⟨φ', move, rest⟩ := h (handle c s).1 trivial
    exact ih _ rest (step start move)

open Lifecycle

/-- One step after another. -/
theorem step_bind {x : Step α} {f : α → Step β} {Q : Except CatalogError α → Φ → Prop}
    {R : Except CatalogError β → Φ → Prop} (h : Tracks M φ x.run Q met)
    (hok : ∀ a φ', Q (.ok a) φ' → Tracks M φ' (f a).run R met)
    (herror : ∀ e φ', Q (.error e) φ' → R (.error e) φ') :
    Tracks M φ (x >>= f).run R met := by
  refine bind h fun r φ' hr => ?_
  cases r with
  | ok a => exact hok a φ' hr
  | error e => exact herror e φ' hr

/-- A part that cannot fail, and then a step. -/
theorem always_bind {p : Program α} {f : α → Step β} {Q : α → Φ → Prop}
    {R : Except CatalogError β → Φ → Prop} (h : Tracks M φ p Q met)
    (hf : ∀ a φ', Q a φ' → Tracks M φ' (f a).run R met) : Tracks M φ (always p >>= f).run R met := by
  rw [run_always_bind]
  exact bind h hf

/-- A registry call, and then a step if it does not fail. -/
theorem ofRegistry_bind {p : Program (Except RegistryError α)} {f : α → Step β}
    {Q : Except RegistryError α → Φ → Prop} {R : Except CatalogError β → Φ → Prop}
    (h : Tracks M φ p Q met) (hok : ∀ a φ', Q (.ok a) φ' → Tracks M φ' (f a).run R met)
    (herror : ∀ e φ', Q (.error e) φ' → R (.error (.registry e)) φ') :
    Tracks M φ (ofRegistry p >>= f).run R met := by
  rw [run_ofRegistry_bind]
  refine bind h fun a φ' hQ => ?_
  cases a with
  | ok a => exact hok a φ' hQ
  | error e => exact herror e φ' hQ

end Tracks

end

/-! ### Threads -/

variable [DecidableEq ι] {B : ι → Conduct σ}

namespace InterleavesBy

variable {p q : Threads ι α} {s s' : σ} {xs : List (ThreadExchange ι)}

/-- Threads that keep to moves for the answers that are met are always in some stages. What holds of the
stages, the calls so far and the state at first, and is kept by every move, holds throughout, if
together with what is asked of moves it sees to it that only such answers are given. -/
theorem track_met {M : ι → Moves Φ} {Q : ι → α → Φ → Prop} {φ₀ : ι → Φ}
    {met : (c : Call) → c.Answer → Prop} {I : List (ThreadExchange ι) → (ι → Φ) → σ → Prop}
    (h : InterleavesBy B p s xs q s') (tracks : ∀ i, Tracks (M i) (φ₀ i) (p i) (Q i) met)
    (start : I [] φ₀ s)
    (meets : ∀ {xs stage s₁ s₂} (i : ι) {c : Call} {a : c.Answer}, I xs stage s₁ → B i c s₁ a s₂ →
      (∀ a, met c a → ∃ φ, M i (stage i) c a φ) → met c a)
    (step : ∀ {xs stage s₁ s₂} (i : ι) {c : Call} {a : c.Answer} {φ : Φ},
      I xs stage s₁ → B i c s₁ a s₂ → M i (stage i) c a φ →
        I (xs ++ [(i, ⟨c, a⟩)]) (Function.update stage i φ) s₂) :
    ∃ stage : ι → Φ, (∀ i, Tracks (M i) (stage i) (q i) (Q i) met) ∧ I xs stage s' := by
  induction h with
  | start => exact ⟨φ₀, tracks, start⟩
  | @step xs q s₁ s₂ before i c next a turn answered ih =>
    obtain ⟨stage, tracks, inv⟩ := ih
    have hi := tracks i
    rw [turn] at hi
    have hmet : met c a := meets i inv answered fun a hmet => (hi a hmet).imp fun _ h => h.1
    obtain ⟨φ, move, hnext⟩ := hi a hmet
    refine ⟨Function.update stage i φ, ?_, step i inv answered move⟩
    exact forall_update (R := fun j φ p => Tracks (M j) φ p (Q j) met) tracks hnext

/-- Threads that keep to moves whatever they are answered. -/
theorem track {M : ι → Moves Φ} {Q : ι → α → Φ → Prop} {φ₀ : ι → Φ}
    {I : List (ThreadExchange ι) → (ι → Φ) → σ → Prop} (h : InterleavesBy B p s xs q s')
    (tracks : ∀ i, Tracks (M i) (φ₀ i) (p i) (Q i)) (start : I [] φ₀ s)
    (step : ∀ {xs stage s₁ s₂} (i : ι) {c : Call} {a : c.Answer} {φ : Φ},
      I xs stage s₁ → B i c s₁ a s₂ → M i (stage i) c a φ →
        I (xs ++ [(i, ⟨c, a⟩)]) (Function.update stage i φ) s₂) :
    ∃ stage : ι → Φ, (∀ i, Tracks (M i) (stage i) (q i) (Q i)) ∧ I xs stage s' :=
  h.track_met tracks start (fun _ _ _ _ _ _ => trivial) step

end InterleavesBy

omit [DecidableEq ι] in
/-- Once all threads have returned, each is in a stage that it may end in. -/
theorem Threads.Returned.ends {q : Threads ι α} {M : ι → Moves Φ} {Q : ι → α → Φ → Prop}
    {stage : ι → Φ} (returned : q.Returned) (tracks : ∀ i, Tracks (M i) (stage i) (q i) (Q i))
    (i : ι) : ∃ a, Q i a (stage i) := by
  obtain ⟨a, ha⟩ := returned i
  have hi := tracks i
  rw [ha] at hi
  exact ⟨a, hi⟩

omit [DecidableEq ι] in
/-- Threads that have no next call have returned. -/
theorem Threads.Returned.of_next? {q : Threads ι α} (h : ∀ i, (q i).next?.isNone = true) :
    q.Returned := by
  intro i
  have hi := h i
  cases hq : q i with
  | done a => exact ⟨a, rfl⟩
  | call c next =>
    rw [hq] at hi
    cases hi

/-! ### The calls of one thread -/

/-- The calls that one thread has made, in order. -/
def own (i : ι) (xs : List (ThreadExchange ι)) : List Exchange :=
  xs.filterMap fun x => if x.1 = i then some x.2 else none

@[simp] theorem own_nil (i : ι) : own i ([] : List (ThreadExchange ι)) = [] := rfl

theorem own_snoc_self (i : ι) (xs : List (ThreadExchange ι)) (x : Exchange) :
    own i (xs ++ [(i, x)]) = own i xs ++ [x] := by
  simp [own]

theorem own_snoc_of_ne {i j : ι} (h : i ≠ j) (xs : List (ThreadExchange ι)) (x : Exchange) :
    own j (xs ++ [(i, x)]) = own j xs := by
  simp [own, h]

/-- A thread that has come to its end has run its program from start to end. What it knows of the
answers to its calls is what holds of them in every state that can be met. -/
theorem InterleavesBy.runs_own {p q : Threads ι α} {s s' : σ} {xs : List (ThreadExchange ι)}
    {A : Conduct Unit} {I : σ → Prop} (h : InterleavesBy B p s xs q s') (start : I s)
    (allows : ∀ i c s₁ a s₂, B i c s₁ a s₂ → I s₁ → A c () a () ∧ I s₂) {i : ι} {b : α}
    (returned : q i = .done b) : Runs A (p i) () (own i xs) b () := by
  -- whatever a thread does from here on, it has done its calls so far before that
  have going : I s' ∧ ∀ i ys b, Runs A (q i) () ys b () →
      Runs A (p i) () (own i xs ++ ys) b () := by
    clear returned
    induction h with
    | start => exact ⟨start, fun i ys b rest => rest⟩
    | @step xs q s₁ s₂ before i c next a turn answered ih =>
      obtain ⟨inv, ahead⟩ := ih
      obtain ⟨allowed, inv'⟩ := allows i c s₁ a s₂ answered inv
      refine ⟨inv', fun j ys b rest => ?_⟩
      by_cases hj : i = j
      · subst hj
        rw [Function.update_self] at rest
        have run := ahead i (⟨c, a⟩ :: ys) b (turn ▸ .call allowed rest)
        rwa [own_snoc_self, List.append_assoc]
      · rw [Function.update_of_ne (Ne.symm hj)] at rest
        rw [own_snoc_of_ne hj]
        exact ahead j ys b rest
  have rest := going.2 i [] b (by rw [returned]; exact .done b ())
  rwa [List.append_nil] at rest

end Program

end DatasetCatalog
