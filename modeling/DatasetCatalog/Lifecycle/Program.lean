import DatasetCatalog.Explore
import DatasetCatalog.Metrics
import DatasetCatalog.Owner.Basic
import DatasetCatalog.Registry.Basic
import DatasetCatalog.Storage.Request

/-!
# Programs over the collaborators

The coordinator keeps four stores in step that share no transaction, and others use the stores at
the same time. What it does is therefore not a function on a state but a sequence of calls: a
`Program` is either done or makes one `Call` and goes on with the answer. What the calls mean is
left open here. A program can be run from start to end on one state (`Program.run`), or go on call by
call, in between the calls of other programs and with whatever failures (`Program.next?`).

A program makes finitely many calls whatever the answers are, because it is an inductive value.
-/

namespace DatasetCatalog

/-- A single call to a collaborator of the coordinator. -/
inductive Call
  /-- Takes the exclusive right to create a name, if nobody has it. -/
  | reserve (name : String)
  /-- Gives the right to create a name back. -/
  | release (name : String)
  | findInstance (name : String)
  | allInstances
  | addInstance (spec : Specification)
  /-- Removes an instance; whether there was one is the answer. -/
  | removeInstance (name : String)
  | findType (name : String)
  | addOwner (entity : EntityId) (principal : Principal)
  | findOwner (entity : EntityId)
  | removeOwner (entity : EntityId)
  /-- Shows an instance to the query engine. -/
  | expose (name : String)
  /-- Takes an instance from the query engine. -/
  | withdraw (name : String)
  | exposedTables
  /-- Runs a storage operation that may take so long. -/
  | perform (request : Storage.Request) (limit : Duration)
  | record (event : Audit.Event)
  | count (reading : Reading)

/-- What a call is answered with. -/
def Call.Answer : Call → Type
  | .reserve _ => Bool
  | .findInstance _ => Except RegistryError (Option Specification)
  | .allInstances => Except RegistryError (List Specification)
  | .addInstance _ => Except RegistryError Unit
  | .removeInstance _ => Except RegistryError Bool
  | .findType _ => Except RegistryError (Option TypeMeta)
  | .addOwner _ _ => Except OwnerError Unit
  | .findOwner _ => Except OwnerError (Option Principal)
  | .removeOwner _ => Except OwnerError Unit
  | .expose _ | .withdraw _ => Except ExploreError Unit
  | .exposedTables => Except ExploreError (List String)
  | .perform request _ => Storage.Result request
  | .release _ | .record _ | .count _ => Unit

/-- A sequence of calls that depends on their answers. -/
inductive Program (α : Type)
  | done (a : α)
  | call (c : Call) (next : c.Answer → Program α)

namespace Program

variable {α β σ : Type}

/-- One program after another. -/
def bind : Program α → (α → Program β) → Program β
  | done a, f => f a
  | call c next, f => call c fun answer => (next answer).bind f

instance : Monad Program where
  pure := done
  bind := bind

@[simp] theorem pure_eq (a : α) : (pure a : Program α) = done a := rfl

@[simp] theorem done_bind (a : α) (f : α → Program β) : done a >>= f = f a := rfl

@[simp] theorem call_bind (c : Call) (next : c.Answer → Program α) (f : α → Program β) :
    call c next >>= f = call c fun answer => next answer >>= f := rfl

/-- The program that makes one call. -/
def ask (c : Call) : Program c.Answer := call c done

/-- The call that a program makes next, if it is not done. -/
def next? : Program α → Option Call
  | done _ => none
  | call c _ => some c

/-- Runs a program from start to end on a state. -/
def run (handle : (c : Call) → σ → c.Answer × σ) : Program α → σ → α × σ
  | done a, s => (a, s)
  | call c next, s =>
    let (answer, s) := handle c s
    (next answer).run handle s

theorem run_bind (handle : (c : Call) → σ → c.Answer × σ) (p : Program α) (f : α → Program β)
    (s : σ) :
    (p >>= f).run handle s = (f (p.run handle s).1).run handle (p.run handle s).2 := by
  induction p generalizing s with
  | done a => rfl
  | call c next ih => exact ih _ _

end Program

end DatasetCatalog
