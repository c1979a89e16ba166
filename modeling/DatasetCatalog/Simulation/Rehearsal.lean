import DatasetCatalog.Simulation.Schedule

/-!
# Rehearsals

A rehearsal is a tree: single threads, and groups of rehearsals that run side by side. All threads
of a tree run together in the order in which they stand in it, and the results have its shape.
-/

namespace DatasetCatalog.Simulation

/-- A tree of things. -/
inductive Rehearsal (α : Type)
  | single (a : α)
  | together (parts : List (Rehearsal α))

instance {α : Type} : Inhabited (Rehearsal α) := ⟨.together []⟩

namespace Rehearsal

variable {α β : Type}

mutual

/-- The leaves in order. -/
def leaves : Rehearsal α → List α
  | single a => [a]
  | together parts => leavesOfAll parts

/-- The leaves of several rehearsals in order. -/
def leavesOfAll : List (Rehearsal α) → List α
  | [] => []
  | r :: rest => leaves r ++ leavesOfAll rest

end

mutual

/-- A tree of the same shape with other leaves, and the leaves that are left over. It ends early if
there are not enough of them. -/
def refill : Rehearsal α → List β → Option (Rehearsal β × List β)
  | single _, b :: rest => some (single b, rest)
  | single _, [] => none
  | together parts, bs => (refillAll parts bs).map fun r => (together r.1, r.2)

/-- Fills several trees one after the other. -/
def refillAll : List (Rehearsal α) → List β → Option (List (Rehearsal β) × List β)
  | [], bs => some ([], bs)
  | r :: rest, bs => do
    let (r, bs) ← refill r bs
    let (rest, bs) ← refillAll rest bs
    return (r :: rest, bs)

end

/-- Runs a rehearsal, in at most `fuel` rounds. -/
def run (fuel : Nat) (r : Rehearsal (Thread α)) (w : World) : Option (Rehearsal α × World) := do
  let (answers, w) ← Simulation.run fuel r.leaves w
  let (results, _) ← r.refill answers
  return (results, w)

end Rehearsal

end DatasetCatalog.Simulation
