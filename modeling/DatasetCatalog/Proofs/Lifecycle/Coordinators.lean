import DatasetCatalog.Proofs.Lifecycle.Memory
import DatasetCatalog.Proofs.Program.Tracking

/-!
# Several coordinators

Coordinators that share their stores know nothing of each other: a name that one of them is creating
is free for the others. `Shared` is the state of such a deployment, and `Shared.answer` what a call
means to it, depending on the coordinator that makes it.
-/

namespace DatasetCatalog

/-- Stores that coordinators share, and the names that each of them is creating. -/
structure Shared (κ : Type) where
  reservations : κ → Reservations
  stores : Stores

namespace Shared

variable {κ : Type} [DecidableEq κ]

/-- The answer to a call of one of the coordinators. -/
def answer (k : κ) (c : Call) (s : Shared κ) : c.Answer × Shared κ :=
  let (a, rs, stores) := Stores.answer c (s.reservations k, s.stores)
  (a, ⟨Function.update s.reservations k rs, stores⟩)

/-- Shared stores with the registry of instances and the owner records in memory. -/
abbrev InMemory (κ : Type) := { s : Shared κ // s.stores.InMemory }

/-- The answer of shared stores in memory, which stay there. -/
def InMemory.answer (k : κ) (c : Call) (s : InMemory κ) : c.Answer × InMemory κ :=
  ((Shared.answer k c s.1).1,
    ⟨(Shared.answer k c s.1).2, (Stores.answer_permitted s.2 c (s.1.reservations k)).1⟩)

/-- A new deployment with everything in memory. -/
def InMemory.fresh : InMemory κ := ⟨⟨fun _ => [], {}⟩, ⟨_, rfl⟩, _, rfl⟩

/-- Shared stores that work. -/
abbrev Working (κ : Type) := { s : Shared κ // s.stores.Working }

/-- The answer of shared stores that work, which go on to do so. -/
def Working.answer (k : κ) (c : Call) (s : Working κ) : c.Answer × Working κ :=
  ((Shared.answer k c s.1).1,
    ⟨(Shared.answer k c s.1).2, (Stores.answer_works s.2 c (s.1.reservations k)).1⟩)

/-- A new deployment that works. -/
def Working.fresh : Working κ :=
  ⟨⟨fun _ => [], {}⟩, ⟨⟨⟨_, rfl⟩, _, rfl⟩, ⟨_, rfl, rfl⟩, rfl, rfl, rfl, rfl⟩⟩

end Shared

end DatasetCatalog
