/-!
# Replaying a list of operations

Two stores that are given the same operations are compared by their answers. It is enough to compare
single operations: if related stores answer one operation alike and stay related, they answer every
list of operations alike (`replay_agrees`) and stay related (`replay_refines`).
-/

namespace DatasetCatalog

variable {ο α σ τ : Type} {step : ο → σ → α × σ} {step' : ο → τ → α × τ}

/-- The answers to a list of operations, and the state after them. -/
def replay (step : ο → σ → α × σ) : List ο → σ → List α × σ
  | [], s => ([], s)
  | op :: ops, s =>
    let (answer, s) := step op s
    let (answers, s) := replay step ops s
    (answer :: answers, s)

@[simp] theorem replay_nil (step : ο → σ → α × σ) (s : σ) : replay step [] s = ([], s) := rfl

theorem replay_cons (step : ο → σ → α × σ) (op : ο) (ops : List ο) (s : σ) :
    replay step (op :: ops) s =
      ((step op s).1 :: (replay step ops (step op s).2).1, (replay step ops (step op s).2).2) := rfl

theorem replay_append (step : ο → σ → α × σ) (ops more : List ο) (s : σ) :
    replay step (ops ++ more) s =
      ((replay step ops s).1 ++ (replay step more (replay step ops s).2).1,
        (replay step more (replay step ops s).2).2) := by
  induction ops generalizing s with
  | nil => rfl
  | cons op ops ih => rw [List.cons_append, replay_cons, replay_cons, ih, List.cons_append]

/-- What every operation keeps is kept by a list of them. -/
theorem replay_keeps {P : σ → Prop} {Q : ο → Prop}
    (keeps : ∀ op s, Q op → P s → P (step op s).2) {ops : List ο} (allowed : ∀ op ∈ ops, Q op)
    {s : σ} (h : P s) : P (replay step ops s).2 := by
  induction ops generalizing s with
  | nil => exact h
  | cons op ops ih =>
    have first := keeps op s (allowed op List.mem_cons_self) h
    exact ih (fun o ho => allowed o (List.mem_cons_of_mem _ ho)) first

/-- What every answer satisfies, as long as a property of the state is kept, all answers satisfy. -/
theorem forall_mem_replay {P : σ → Prop} {A : α → Prop} {Q : ο → Prop}
    (each : ∀ op s, Q op → P s → A (step op s).1 ∧ P (step op s).2) {ops : List ο}
    (allowed : ∀ op ∈ ops, Q op) {s : σ} (h : P s) : ∀ a ∈ (replay step ops s).1, A a := by
  induction ops generalizing s with
  | nil => simp
  | cons op ops ih =>
    obtain ⟨first, kept⟩ := each op s (allowed op List.mem_cons_self) h
    have rest := ih (fun o ho => allowed o (List.mem_cons_of_mem _ ho)) kept
    rw [replay_cons]
    exact List.forall_mem_cons.2 ⟨first, rest⟩

/-- Related states that answer every operation alike, and stay related, answer a list of them
alike and stay related. -/
theorem replay_refines {R : σ → τ → Prop} {Q : ο → Prop}
    (agrees : ∀ op s t, Q op → R s t →
      (step op s).1 = (step' op t).1 ∧ R (step op s).2 (step' op t).2)
    {ops : List ο} (allowed : ∀ op ∈ ops, Q op) {s : σ} {t : τ} (h : R s t) :
    (replay step ops s).1 = (replay step' ops t).1 ∧
      R (replay step ops s).2 (replay step' ops t).2 := by
  induction ops generalizing s t with
  | nil => exact ⟨rfl, h⟩
  | cons op ops ih =>
    obtain ⟨same, related⟩ := agrees op s t (allowed op List.mem_cons_self) h
    obtain ⟨rest, stillRelated⟩ := ih (fun o ho => allowed o (List.mem_cons_of_mem _ ho)) related
    rw [replay_cons, replay_cons, same, rest]
    exact ⟨rfl, stillRelated⟩

theorem replay_agrees {R : σ → τ → Prop} {Q : ο → Prop}
    (agrees : ∀ op s t, Q op → R s t →
      (step op s).1 = (step' op t).1 ∧ R (step op s).2 (step' op t).2)
    {ops : List ο} (allowed : ∀ op ∈ ops, Q op) {s : σ} {t : τ} (h : R s t) :
    (replay step ops s).1 = (replay step' ops t).1 :=
  (replay_refines agrees allowed h).1

end DatasetCatalog
