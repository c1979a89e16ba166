import Mathlib.Data.Fintype.EquivFin
import DatasetCatalog.Proofs.Program.Runs

/-!
# Programs side by side

Several programs work on one state, call by call and in any order. `InterleavesBy` says where this
can lead: it is the reflexive and transitive closure of one thread making its next call, and it keeps
the calls with the threads that made them, in order. Programs side by side need not reach the state in
the same way: the calls of two coordinators mean the same to the stores that they share, but the right
to a name is each coordinator's own. So each thread has a conduct; `Interleaves` is the case where
all have the same.

* `InterleavesBy.invariant` — what every call keeps is kept throughout;
* `InterleavesBy.simulate` — what is seen of an interleaving through a function on states; and
* `InterleavesBy.exists_completion` — finitely many threads whose calls are all answered can always
  be brought to their ends.
-/

namespace DatasetCatalog.Program

variable {α ι σ τ : Type} [DecidableEq ι] {B : ι → Conduct σ}

/-- What the threads are about to do. -/
abbrev Threads (ι α : Type) := ι → Program α

/-- All threads have come to their ends. -/
def Threads.Returned (p : Threads ι α) : Prop := ∀ i, ∃ a, p i = .done a

/-- A call by a thread. -/
abbrev ThreadExchange (ι : Type) := ι × Exchange

/-- The ways in which threads make calls in turn, from some threads and a state to others. The calls of
each thread have a conduct of their own. -/
inductive InterleavesBy (B : ι → Conduct σ) (p : Threads ι α) (s : σ) :
    List (ThreadExchange ι) → Threads ι α → σ → Prop
  | start : InterleavesBy B p s [] p s
  | step {xs : List (ThreadExchange ι)} {q : Threads ι α} {s₁ s₂ : σ}
      (before : InterleavesBy B p s xs q s₁) (i : ι) {c : Call} {next : c.Answer → Program α}
      {a : c.Answer} (turn : q i = .call c next) (answered : B i c s₁ a s₂) :
      InterleavesBy B p s (xs ++ [(i, ⟨c, a⟩)]) (Function.update q i (next a)) s₂

/-- The ways in which threads of one conduct make calls in turn. -/
abbrev Interleaves (B : Conduct σ) (p : Threads ι α) (s : σ) (xs : List (ThreadExchange ι))
    (q : Threads ι α) (s' : σ) : Prop :=
  InterleavesBy (fun _ => B) p s xs q s'

namespace InterleavesBy

variable {p q : Threads ι α} {s s' : σ} {xs : List (ThreadExchange ι)}

/-- What holds at first and is kept by every call holds throughout. -/
theorem invariant {I : List (ThreadExchange ι) → Threads ι α → σ → Prop}
    (h : InterleavesBy B p s xs q s') (start : I [] p s)
    (step : ∀ {xs q s₁ s₂} (i : ι) {c : Call} {next : c.Answer → Program α} {a : c.Answer},
      I xs q s₁ → q i = .call c next → B i c s₁ a s₂ →
        I (xs ++ [(i, ⟨c, a⟩)]) (Function.update q i (next a)) s₂) : I xs q s' := by
  induction h with
  | start => exact start
  | step _ i turn answered ih => exact step i ih turn answered

/-- Seen through `view`, an interleaving is one of what is seen. -/
theorem simulate {B' : ι → Conduct τ} {view : σ → τ}
    (sees : ∀ i c s a s', B i c s a s' → B' i c (view s) a (view s')) (h : InterleavesBy B p s xs q s') :
    InterleavesBy B' p (view s) xs q (view s') := by
  induction h with
  | start => exact .start
  | step _ i turn answered ih => exact ih.step i turn (sees _ _ _ _ _ answered)

/-- A thread runs to its end while the others wait. -/
theorem run {i : ι} {rest : Program α} {ys : List Exchange} {a : α} {s'' : σ}
    (h : InterleavesBy B p s xs q s') (turn : q i = rest) (runs : Runs (B i) rest s' ys a s'') :
    InterleavesBy B p s (xs ++ ys.map (i, ·)) (Function.update q i (.done a)) s'' := by
  induction runs generalizing xs q with
  | done a s =>
    rw [List.map_nil, List.append_nil, ← turn, Function.update_eq_self]
    exact h
  | call answered _ ih =>
    have next := ih (h.step i turn answered) (Function.update_self _ _ _)
    rw [Function.update_idem, List.append_assoc] at next
    exact next

/-- A thread can be brought to its end while the others wait. -/
theorem exists_return (total : ∀ i, (B i).Total) (i : ι) (h : InterleavesBy B p s xs q s') :
    ∃ ys a s'', InterleavesBy B p s (xs ++ ys) (Function.update q i (.done a)) s'' := by
  obtain ⟨ys, a, s'', runs⟩ := exists_runs (total i) (q i) s'
  exact ⟨_, a, s'', h.run rfl runs⟩

/-- However far finitely many threads have come, they can all be brought to their ends. -/
theorem exists_completion [Finite ι] (total : ∀ i, (B i).Total) (h : InterleavesBy B p s xs q s') :
    ∃ ys q' s'', InterleavesBy B p s (xs ++ ys) q' s'' ∧ q'.Returned := by
  obtain ⟨threads, -, all⟩ := Finite.exists_univ_list ι
  suffices ∃ ys q' s'', InterleavesBy B p s (xs ++ ys) q' s'' ∧ ∀ i ∈ threads, ∃ a, q' i = .done a by
    obtain ⟨ys, q', s'', h', returned⟩ := this
    exact ⟨ys, q', s'', h', fun i => returned i (all i)⟩
  clear all
  induction threads with
  | nil => exact ⟨[], q, s', by rwa [List.append_nil], by simp⟩
  | cons i rest ih =>
    obtain ⟨ys, q₁, s₁, h₁, returned⟩ := ih
    obtain ⟨zs, a, s₂, h₂⟩ := h₁.exists_return total i
    refine ⟨ys ++ zs, _, s₂, by rwa [← List.append_assoc], ?_⟩
    intro j hj
    by_cases heq : j = i
    · subst heq
      exact ⟨a, Function.update_self _ _ _⟩
    · rw [Function.update_of_ne heq]
      exact returned j ((List.mem_cons.1 hj).resolve_left heq)

end InterleavesBy

/-! ### What is said of each thread -/

theorem exists_update {Φ : Type} {stage : ι → Φ} {i : ι} {φ : Φ} {P : Φ → Prop}
    (h : ∃ j, P (stage j)) (hi : P (stage i) → P φ) : ∃ j, P (Function.update stage i φ j) := by
  obtain ⟨j, hj⟩ := h
  by_cases heq : j = i
  · subst heq
    exact ⟨j, by rw [Function.update_self]; exact hi hj⟩
  · exact ⟨j, by rwa [Function.update_of_ne heq]⟩

theorem of_update {Φ : Type} {stage : ι → Φ} {i j : ι} {φ : Φ} {P : Φ → Prop}
    (h : P (Function.update stage i φ j)) : j = i ∧ P φ ∨ j ≠ i ∧ P (stage j) := by
  by_cases heq : j = i
  · subst heq
    rw [Function.update_self] at h
    exact .inl ⟨rfl, h⟩
  · rw [Function.update_of_ne heq] at h
    exact .inr ⟨heq, h⟩

/-- What relates each thread to its stage goes on to do so when one thread and its stage move on. -/
theorem forall_update {Φ Ψ : Type} {R : ι → Φ → Ψ → Prop} {stage : ι → Φ} {q : ι → Ψ} {i : ι}
    {φ : Φ} {ψ : Ψ} (h : ∀ j, R j (stage j) (q j)) (hi : R i φ ψ) (j : ι) :
    R j (Function.update stage i φ j) (Function.update q i ψ j) := by
  by_cases heq : j = i
  · subst heq
    rw [Function.update_self, Function.update_self]
    exact hi
  · rw [Function.update_of_ne heq, Function.update_of_ne heq]
    exact h j

/-! ### The latest call of a kind -/

/-- What `f` says of the latest call that it says anything of. -/
def latest {β : Type} (f : ThreadExchange ι → Option β) (xs : List (ThreadExchange ι)) : Option β :=
  xs.reverse.findSome? f

section

omit [DecidableEq ι]

variable {β : Type} {f : ThreadExchange ι → Option β} {x : ThreadExchange ι} {b : β}

@[simp] theorem latest_nil : latest f ([] : List (ThreadExchange ι)) = none := rfl

theorem latest_snoc_some (h : f x = some b) (xs : List (ThreadExchange ι)) :
    latest f (xs ++ [x]) = some b := by
  rw [latest, List.reverse_append, List.reverse_singleton, List.singleton_append,
    List.findSome?_cons, h]

theorem latest_snoc_none (h : f x = none) (xs : List (ThreadExchange ι)) :
    latest f (xs ++ [x]) = latest f xs := by
  rw [latest, List.reverse_append, List.reverse_singleton, List.singleton_append,
    List.findSome?_cons, h]
  rfl

end

/-- What every call either decides or leaves alone is as the latest call decided it. -/
theorem InterleavesBy.eq_latest {β : Type} {p q : Threads ι α} {s s' : σ}
    {xs : List (ThreadExchange ι)} {P : σ → β} {f : Exchange → Option β}
    (h : InterleavesBy B p s xs q s')
    (decides : ∀ i c s₁ a s₂, B i c s₁ a s₂ → P s₂ = (f ⟨c, a⟩).getD (P s₁)) :
    P s' = (latest (fun x => f x.2) xs).getD (P s) := by
  induction h with
  | start => rfl
  | @step xs q s₁ s₂ before i c next a turn answered ih =>
    rw [decides _ _ _ _ _ answered]
    cases hf : f ⟨c, a⟩ with
    | some b => rw [latest_snoc_some hf, Option.getD_some, Option.getD_some]
    | none => rw [latest_snoc_none hf, Option.getD_none, ih]

/-! ### Playing a schedule -/

/-- Lets threads make their next calls in a given order, where the calls of each thread are answered
in a way of their own. Those that are done are passed over. -/
def playBy (handle : ι → (c : Call) → σ → c.Answer × σ) :
    List ι → Threads ι α → σ → List (ThreadExchange ι) × Threads ι α × σ
  | [], q, s => ([], q, s)
  | i :: order, q, s =>
    match q i with
    | .done _ => playBy handle order q s
    | .call c next =>
      let (a, s₁) := handle i c s
      let (xs, rest) := playBy handle order (Function.update q i (next a)) s₁
      ((i, ⟨c, a⟩) :: xs, rest)

/-- Lets threads of one conduct make their next calls in a given order. -/
abbrev play (handle : (c : Call) → σ → c.Answer × σ) (order : List ι) (q : Threads ι α) (s : σ) :
    List (ThreadExchange ι) × Threads ι α × σ :=
  playBy (fun _ => handle) order q s

theorem InterleavesBy.playBy_append {handle : ι → (c : Call) → σ → c.Answer × σ}
    {p : Threads ι α} {s : σ} (order : List ι) {q : Threads ι α} {s₁ : σ}
    {xs : List (ThreadExchange ι)}
    (h : InterleavesBy (fun i => .ofHandler (handle i)) p s xs q s₁) :
    InterleavesBy (fun i => .ofHandler (handle i)) p s (xs ++ (playBy handle order q s₁).1)
      (playBy handle order q s₁).2.1 (playBy handle order q s₁).2.2 := by
  induction order generalizing q s₁ xs with
  | nil =>
    rw [playBy, List.append_nil]
    exact h
  | cons i order ih =>
    rw [playBy]
    split
    · exact ih h
    · next c next turn =>
      have := ih (h.step i turn rfl)
      rw [List.append_assoc] at this
      exact this

/-- What is played is an interleaving. -/
theorem interleaves_playBy (handle : ι → (c : Call) → σ → c.Answer × σ) (order : List ι)
    (p : Threads ι α) (s : σ) :
    InterleavesBy (fun i => .ofHandler (handle i)) p s (playBy handle order p s).1
      (playBy handle order p s).2.1 (playBy handle order p s).2.2 :=
  InterleavesBy.playBy_append order .start

end DatasetCatalog.Program
