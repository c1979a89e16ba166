import DatasetCatalog.Lifecycle.Step

/-!
# Runs of programs

A `Program` is a tree of calls. What the calls do is a matter of the collaborators, and those may
be untrusted, fail, or be shared with others. So it is described by a relation: a `Conduct` says
which answers a call may get in a state and which states it may leave behind.

* `Program.Runs` — a run from start to end, together with the calls it made and their answers;
* `Program.Runs.bind_inv` and its variants for steps — how a run of a sequence splits, which is
  all that is needed to follow a program call by call; and
* `Program.Runs.simulate` — runs seen through a function on states. A statement about runs on a
  small state carries over to every state that the small one is a view of.
-/

namespace DatasetCatalog

/-- What a call may be answered with in a state, and which state it may leave behind. -/
abbrev Conduct (σ : Type) := (c : Call) → σ → c.Answer → σ → Prop

/-- The conduct of a handler: every call has one answer. -/
def Conduct.ofHandler {σ : Type} (handle : (c : Call) → σ → c.Answer × σ) : Conduct σ :=
  fun c s a s' => handle c s = (a, s')

/-- Every call is answered in every state. -/
def Conduct.Total {σ : Type} (B : Conduct σ) : Prop := ∀ c s, ∃ a s', B c s a s'

/-- A call with the answer that it got. -/
structure Exchange where
  call : Call
  answer : call.Answer

/-- A storage operation with its result. -/
structure StorageExchange where
  request : Storage.Request
  result : Storage.Result request

/-- The storage operation of a call, if it was one. -/
def Exchange.storage? : Exchange → Option StorageExchange
  | ⟨.perform request _, result⟩ => some ⟨request, result⟩
  | _ => none

/-- The storage operations among calls, in order. -/
def storageOf (xs : List Exchange) : List StorageExchange := xs.filterMap Exchange.storage?

/-- The storage requests among calls, in order. -/
def performed (xs : List Exchange) : List Storage.Request :=
  (storageOf xs).map StorageExchange.request

@[simp] theorem storageOf_nil : storageOf [] = [] := rfl

theorem storageOf_cons (x : Exchange) (xs : List Exchange) :
    storageOf (x :: xs) = x.storage?.toList ++ storageOf xs := by
  cases h : x.storage? <;> simp [storageOf, h]

@[simp] theorem storageOf_append (xs ys : List Exchange) :
    storageOf (xs ++ ys) = storageOf xs ++ storageOf ys := List.filterMap_append

@[simp] theorem performed_nil : performed [] = [] := rfl

@[simp] theorem performed_append (xs ys : List Exchange) :
    performed (xs ++ ys) = performed xs ++ performed ys := by
  simp [performed]

namespace Program

variable {α β σ τ : Type} {B : Conduct σ}

instance : LawfulMonad Program :=
  LawfulMonad.mk' Program
    (by
      intro α p
      induction p with
      | done a => rfl
      | call c next ih => exact congrArg (call c) (funext ih))
    (by
      intro α β a f
      rfl)
    (by
      intro α β γ p f g
      induction p with
      | done a => rfl
      | call c next ih => exact congrArg (call c) (funext ih))

/-- A run of a program from start to end, with the calls that it makes in order. -/
inductive Runs (B : Conduct σ) : Program α → σ → List Exchange → α → σ → Prop
  | done (a : α) (s : σ) : Runs B (.done a) s [] a s
  | call {c : Call} {next : c.Answer → Program α} {s s₁ s' : σ} {a : c.Answer}
      {xs : List Exchange} {b : α} (answered : B c s a s₁) (rest : Runs B (next a) s₁ xs b s') :
      Runs B (.call c next) s (⟨c, a⟩ :: xs) b s'

/-! ### Taking runs apart -/

theorem Runs.done_inv {a b : α} {s s' : σ} {xs : List Exchange}
    (h : Runs B (.done a) s xs b s') : xs = [] ∧ b = a ∧ s' = s := by
  cases h
  exact ⟨rfl, rfl, rfl⟩

theorem Runs.call_inv {c : Call} {next : c.Answer → Program α} {s s' : σ} {xs : List Exchange}
    {b : α} (h : Runs B (.call c next) s xs b s') :
    ∃ a s₁ rest, B c s a s₁ ∧ Runs B (next a) s₁ rest b s' ∧ xs = ⟨c, a⟩ :: rest := by
  cases h with
  | call answered rest => exact ⟨_, _, _, answered, rest, rfl⟩

theorem Runs.ask_inv {c : Call} {s s' : σ} {xs : List Exchange} {a : c.Answer}
    (h : Runs B (ask c) s xs a s') : xs = [⟨c, a⟩] ∧ B c s a s' := by
  obtain ⟨a₁, s₁, rest, answered, hrest, rfl⟩ := h.call_inv
  obtain ⟨rfl, rfl, rfl⟩ := hrest.done_inv
  exact ⟨rfl, answered⟩

/-- A run of one program after another is a run of the first and then one of the second. -/
theorem Runs.bind_inv {p : Program α} {f : α → Program β} {s s' : σ} {xs : List Exchange} {b : β}
    (h : Runs B (p >>= f) s xs b s') :
    ∃ xs₁ a s₁ xs₂, Runs B p s xs₁ a s₁ ∧ Runs B (f a) s₁ xs₂ b s' ∧ xs = xs₁ ++ xs₂ := by
  induction p generalizing s xs with
  | done a => exact ⟨[], a, s, xs, .done a s, h, rfl⟩
  | call c next ih =>
    obtain ⟨a, s₁, rest, answered, hrest, rfl⟩ := Runs.call_inv h
    obtain ⟨xs₁, a₂, s₂, xs₂, hp, hf, rfl⟩ := ih a hrest
    exact ⟨⟨c, a⟩ :: xs₁, a₂, s₂, xs₂, .call answered hp, hf, rfl⟩

theorem Runs.discard_inv {p : Program α} {s s' : σ} {xs : List Exchange} {u : Unit}
    (h : Runs B (discard p) s xs u s') : ∃ a, Runs B p s xs a s' := by
  obtain ⟨xs₁, a, s₁, xs₂, hp, hdone, rfl⟩ := Runs.bind_inv (p := p) h
  obtain ⟨rfl, -, rfl⟩ := hdone.done_inv
  rw [List.append_nil]
  exact ⟨a, hp⟩

/-! ### Existence and simulation -/

/-- If every call is answered, a program comes to its end. -/
theorem exists_runs (total : B.Total) (p : Program α) (s : σ) :
    ∃ xs a s', Runs B p s xs a s' := by
  induction p generalizing s with
  | done a => exact ⟨[], a, s, .done a s⟩
  | call c next ih =>
    obtain ⟨a, s₁, answered⟩ := total c s
    obtain ⟨xs, b, s', hrest⟩ := ih a s₁
    exact ⟨⟨c, a⟩ :: xs, b, s', .call answered hrest⟩

/-- A run with a handler is a run under its conduct. -/
theorem runs_ofHandler (handle : (c : Call) → σ → c.Answer × σ) (p : Program α) (s : σ) :
    ∃ xs, Runs (.ofHandler handle) p s xs (p.run handle s).1 (p.run handle s).2 := by
  induction p generalizing s with
  | done a => exact ⟨[], .done a s⟩
  | call c next ih =>
    obtain ⟨xs, hrest⟩ := ih (handle c s).1 (handle c s).2
    exact ⟨⟨c, _⟩ :: xs, .call rfl hrest⟩

/-- Seen through `view`, a run is a run of what is seen. -/
theorem Runs.simulate {B' : Conduct τ} {view : σ → τ}
    (sees : ∀ c s a s', B c s a s' → B' c (view s) a (view s')) {p : Program α} {s s' : σ}
    {xs : List Exchange} {a : α} (h : Runs B p s xs a s') :
    Runs B' p (view s) xs a (view s') := by
  induction h with
  | done a s => exact .done a (view s)
  | call answered _ ih => exact .call (sees _ _ _ _ answered) ih

theorem run_call {handle : (c : Call) → σ → c.Answer × σ} {c : Call}
    {next : c.Answer → Program α} {s s₁ : σ} {a : c.Answer} (h : handle c s = (a, s₁)) :
    (call c next).run handle s = (next a).run handle s₁ := by
  rw [run.eq_def]
  dsimp only
  rw [h]

/-! ### Calls that a program can make -/

/-- All calls that a program can make, whatever they are answered, have a property. -/
def Only (P : Call → Prop) : Program α → Prop
  | done _ => True
  | call c next => P c ∧ ∀ a, Only P (next a)

theorem only_ask {P : Call → Prop} {c : Call} (h : P c) : (ask c).Only P := ⟨h, fun _ => trivial⟩

theorem Only.bind {P : Call → Prop} {p : Program α} {f : α → Program β} (hp : p.Only P)
    (hf : ∀ a, (f a).Only P) : (p >>= f).Only P := by
  induction p with
  | done a => exact hf a
  | call c next ih => exact ⟨hp.1, fun a => ih a (hp.2 a)⟩

theorem Only.mono {P R : Call → Prop} {p : Program α} (h : p.Only P) (hPR : ∀ c, P c → R c) :
    p.Only R := by
  induction p with
  | done a => exact trivial
  | call c next ih => exact ⟨hPR c h.1, fun a => ih a (h.2 a)⟩

/-- What every call that a program can make keeps, its runs keep. -/
theorem Runs.invariant {P : Call → Prop} {I : σ → Prop} {p : Program α} {s s' : σ}
    {xs : List Exchange} {a : α} (h : Runs B p s xs a s') (only : p.Only P)
    (keeps : ∀ c s a s', P c → B c s a s' → I s → I s') (hs : I s) : I s' := by
  induction h with
  | done a s => exact hs
  | call answered _ ih => exact ih (only.2 _) (keeps _ _ _ _ only.1 answered hs)

end Program

/-! ### Running steps with a handler -/

namespace Lifecycle

variable {α β σ : Type}

theorem run_always_bind (p : Program α) (f : α → Step β) :
    (always p >>= f).run = p >>= fun a => (f a).run :=
  ExceptT.run_bind_lift p f

theorem run_ofRegistry_bind (p : Program (Except RegistryError α)) (f : α → Step β) :
    (ofRegistry p >>= f).run = p >>= fun
      | .ok a => (f a).run
      | .error e => .done (.error (.registry e)) := by
  refine (bind_assoc p _ _).trans (congrArg (p >>= ·) (funext fun r => ?_))
  cases r <;> rfl

theorem run_ofOwners_bind (p : Program (Except OwnerError α)) (f : α → Step β) :
    (ofOwners p >>= f).run = p >>= fun
      | .ok a => (f a).run
      | .error e => .done (.error (.ownerStore e)) := by
  refine (bind_assoc p _ _).trans (congrArg (p >>= ·) (funext fun r => ?_))
  cases r <;> rfl

theorem run_always {handle : (c : Call) → σ → c.Answer × σ} {p : Program α} {s s₁ : σ} {a : α}
    (h : p.run handle s = (a, s₁)) : (always p).run.run handle s = (.ok a, s₁) := by
  refine (Program.run_bind handle p _ s).trans ?_
  rw [h]
  rfl

/-- A step that ends well hands on its value and its state. -/
theorem run_bind_ok {handle : (c : Call) → σ → c.Answer × σ} {x : Step α} {f : α → Step β}
    {s s₁ : σ} {a : α} (h : x.run.run handle s = (.ok a, s₁)) :
    (x >>= f).run.run handle s = (f a).run.run handle s₁ := by
  refine (Program.run_bind handle x.run _ s).trans ?_
  rw [h]
  rfl

/-- A step that fails is not followed by anything. -/
theorem run_bind_error {handle : (c : Call) → σ → c.Answer × σ} {x : Step α} {f : α → Step β}
    {s s₁ : σ} {e : CatalogError} (h : x.run.run handle s = (.error e, s₁)) :
    (x >>= f).run.run handle s = (.error e, s₁) := by
  refine (Program.run_bind handle x.run _ s).trans ?_
  rw [h]
  rfl

theorem only_bind {P : Call → Prop} {x : Step α} {f : α → Step β} (hx : x.run.Only P)
    (hf : ∀ a, (f a).run.Only P) : (x >>= f).run.Only P := by
  refine Program.Only.bind hx ?_
  intro a
  cases a with
  | ok a => exact hf a
  | error e => exact trivial

theorem only_always {P : Call → Prop} {p : Program α} (hp : p.Only P) : (always p).run.Only P :=
  hp.bind fun _ => trivial

theorem only_ofRegistry {P : Call → Prop} {p : Program (Except RegistryError α)} (hp : p.Only P) :
    (ofRegistry p).run.Only P :=
  hp.bind fun _ => trivial

end Lifecycle

/-! ### Taking runs of steps apart

A step can end with an error, and then what follows it is not run. -/

namespace Lifecycle

open Program

variable {α β σ : Type} {B : Conduct σ} {s s' : σ} {xs : List Exchange}

theorem pure_inv {a : α} {r : Except CatalogError α}
    (h : Runs B (ExceptT.run (pure a : Step α)) s xs r s') :
    xs = [] ∧ r = .ok a ∧ s' = s := Runs.done_inv h

theorem throw_inv {e : CatalogError} {r : Except CatalogError α}
    (h : Runs B (ExceptT.run (throw e : Step α)) s xs r s') :
    xs = [] ∧ r = .error e ∧ s' = s := Runs.done_inv h

/-- A run of one step after another: both, or the first one alone if it fails. -/
theorem bind_inv {x : Step α} {f : α → Step β} {r : Except CatalogError β}
    (h : Runs B (ExceptT.run (x >>= f)) s xs r s') :
    (∃ xs₁ a s₁ xs₂, Runs B x.run s xs₁ (.ok a) s₁ ∧ Runs B (f a).run s₁ xs₂ r s' ∧
      xs = xs₁ ++ xs₂) ∨
    ∃ e, Runs B x.run s xs (.error e) s' ∧ r = .error e := by
  obtain ⟨xs₁, a, s₁, xs₂, hx, hf, rfl⟩ := Runs.bind_inv h
  cases a with
  | ok a => exact .inl ⟨xs₁, a, s₁, xs₂, hx, hf, rfl⟩
  | error e =>
    obtain ⟨rfl, rfl, rfl⟩ := hf.done_inv
    rw [List.append_nil]
    exact .inr ⟨e, hx, rfl⟩

theorem always_inv {p : Program α} {r : Except CatalogError α}
    (h : Runs B (always p).run s xs r s') : ∃ a, r = .ok a ∧ Runs B p s xs a s' := by
  obtain ⟨xs₁, a, s₁, xs₂, hp, hr, rfl⟩ := Runs.bind_inv h
  obtain ⟨rfl, rfl, rfl⟩ := hr.done_inv
  rw [List.append_nil]
  exact ⟨a, rfl, hp⟩

/-- A part that cannot fail and then a step. -/
theorem bind_always_inv {p : Program α} {f : α → Step β} {r : Except CatalogError β}
    (h : Runs B (ExceptT.run (always p >>= f)) s xs r s') :
    ∃ xs₁ a s₁ xs₂, Runs B p s xs₁ a s₁ ∧ Runs B (f a).run s₁ xs₂ r s' ∧ xs = xs₁ ++ xs₂ := by
  obtain ⟨xs₁, a, s₁, xs₂, hp, hf, rfl⟩ | ⟨e, hp, rfl⟩ := bind_inv h
  · obtain ⟨b, hb, hp⟩ := always_inv hp
    cases hb
    exact ⟨xs₁, a, s₁, xs₂, hp, hf, rfl⟩
  · obtain ⟨b, hb, -⟩ := always_inv hp
    cases hb

/-- A call that can fail and then a step: the call fails, or the step goes on with its answer. -/
theorem bind_adapt_inv {ε : Type} {wrap : ε → CatalogError} {p : Program (Except ε α)}
    {f : α → Step β} {r : Except CatalogError β}
    (h : Runs B (ExceptT.run ((ExceptT.adapt wrap p : Step α) >>= f)) s xs r s') :
    (∃ xs₁ a s₁ xs₂, Runs B p s xs₁ (.ok a) s₁ ∧ Runs B (f a).run s₁ xs₂ r s' ∧ xs = xs₁ ++ xs₂) ∨
    ∃ e, Runs B p s xs (.error e) s' ∧ r = .error (wrap e) := by
  obtain ⟨xs₁, a, s₁, xs₂, hp, hf, rfl⟩ := Runs.bind_inv h
  obtain ⟨xs₃, b, s₂, xs₄, hp, hr, rfl⟩ := Runs.bind_inv hp
  obtain ⟨rfl, rfl, rfl⟩ := hr.done_inv
  rw [List.append_nil]
  cases b with
  | ok b => exact .inl ⟨xs₃, b, _, xs₂, hp, hf, rfl⟩
  | error e =>
    obtain ⟨rfl, rfl, rfl⟩ := hf.done_inv
    rw [List.append_nil]
    exact .inr ⟨e, hp, rfl⟩

theorem bind_ofRegistry_inv {p : Program (Except RegistryError α)} {f : α → Step β}
    {r : Except CatalogError β} (h : Runs B (ExceptT.run (ofRegistry p >>= f)) s xs r s') :
    (∃ xs₁ a s₁ xs₂, Runs B p s xs₁ (.ok a) s₁ ∧ Runs B (f a).run s₁ xs₂ r s' ∧ xs = xs₁ ++ xs₂) ∨
    ∃ e, Runs B p s xs (.error e) s' ∧ r = .error (.registry e) := bind_adapt_inv h

theorem bind_ofOwners_inv {p : Program (Except OwnerError α)} {f : α → Step β}
    {r : Except CatalogError β} (h : Runs B (ExceptT.run (ofOwners p >>= f)) s xs r s') :
    (∃ xs₁ a s₁ xs₂, Runs B p s xs₁ (.ok a) s₁ ∧ Runs B (f a).run s₁ xs₂ r s' ∧ xs = xs₁ ++ xs₂) ∨
    ∃ e, Runs B p s xs (.error e) s' ∧ r = .error (.ownerStore e) := bind_adapt_inv h

/-- A step of whose answer only the failure is kept. -/
theorem discard_inv {step : Step α} {r : Except CatalogError Unit}
    (h : Runs B (discard step : Step Unit).run s xs r s') :
    ∃ r', Runs B step.run s xs r' s' ∧ r.isOk = r'.isOk := by
  obtain ⟨_, r', s₁, _, hstep, hdone, rfl⟩ := Runs.bind_inv h
  cases r' <;>
  · obtain ⟨rfl, rfl, rfl⟩ := hdone.done_inv
    rw [List.append_nil]
    exact ⟨_, hstep, rfl⟩

/-- A part that cannot fail and whose answer is not needed, and then a step. -/
theorem bind_discard_always_inv {p : Program α} {f : Unit → Step β} {r : Except CatalogError β}
    (h : Runs B (ExceptT.run ((discard (always p) : Step Unit) >>= f)) s xs r s') :
    ∃ xs₁ a s₁ xs₂, Runs B p s xs₁ a s₁ ∧ Runs B (f ()).run s₁ xs₂ r s' ∧ xs = xs₁ ++ xs₂ := by
  obtain ⟨xs₁, u, s₁, xs₂, hx, hf, rfl⟩ | ⟨e, hx, -⟩ := bind_inv h
  · obtain ⟨_, hx, -⟩ := discard_inv hx
    obtain ⟨a, -, hp⟩ := always_inv hx
    exact ⟨xs₁, a, s₁, xs₂, hp, hf, rfl⟩
  · obtain ⟨_, hx, failed⟩ := discard_inv hx
    obtain ⟨a, rfl, -⟩ := always_inv hx
    cases failed

end Lifecycle

end DatasetCatalog
