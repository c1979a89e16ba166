import DatasetCatalog.Lifecycle.Program

/-!
# Planned faults

A rehearsal plans what single calls of the coordinator answer: every collaborator operation has a
queue of faults, and each call takes the first one. A fault that means nothing to its call changes
nothing, and so does the fault `pass`.
-/

namespace DatasetCatalog.Simulation

/-- An operation that faults can be planned for. -/
inductive Target
  | findInstance
  | allInstances
  | addInstance
  | removeInstance
  | findType
  | addOwner
  | findOwner
  | removeOwner
  /-- The storage operation of a name. -/
  | storage (operation : String)
  deriving DecidableEq, Repr

/-- The target that a call belongs to. -/
def Target.ofCall? : Call → Option Target
  | .findInstance _ => some findInstance
  | .allInstances => some allInstances
  | .addInstance _ => some addInstance
  | .removeInstance _ => some removeInstance
  | .findType _ => some findType
  | .addOwner .. => some addOwner
  | .findOwner _ => some findOwner
  | .removeOwner _ => some removeOwner
  | .perform r _ => some (storage r.operation)
  | _ => none

/-- What happens instead of a call, or before it. -/
inductive Fault
  /-- Nothing out of the ordinary. -/
  | pass
  /-- A store fails. -/
  | fail
  /-- A look-up finds nothing. -/
  | absent
  /-- A look-up finds an instance that is not there. -/
  | present
  /-- Somebody else does the same first. -/
  | preempt
  | unsupported
  | malformed
  | alreadyExists
  /-- What is not found has the name of the instance with something after it. -/
  | notFound (ending : String)
  | delay (milliseconds : Nat)
  | panic (reason : String)
  | execution (reason : String)
  | protocol (reason : String)
  | unknownType (typeName : String)
  | system (reason : String)
  /-- A create answers with the specification of another instance. -/
  | misname
  deriving DecidableEq, Repr

namespace Fault

/-- The result of a storage operation with a fault. -/
def result? : Fault → (r : Storage.Request) → Option (Storage.Result r)
  | panic reason, r => some (.error (.panicked r.operation r.target reason))
  | execution reason, r => some (.error (.execution r.operation r.target reason))
  | alreadyExists, r => some (.error (.alreadyExists r.target))
  | notFound ending, r => some (.error (.notFound (r.target ++ ending)))
  | protocol reason, _ => some (.error (.protocol reason))
  | unknownType typeName, _ => some (.error (.unknownType typeName))
  | system reason, _ => some (.error (.system reason))
  | misname, .create c => some (.ok (Specification.ofType (c.name ++ "-other") tableType))
  | _, _ => none

/-- The reason of a planned failure. -/
def injected (operation : String) : String := "injected " ++ operation ++ " failure"

/-- The answer to a call with a fault, if the fault stands for one. -/
def answer? : Fault → (c : Call) → Option c.Answer
  | fail, .findInstance _ => some (.error (.storage (injected "get")))
  | absent, .findInstance _ => some (.ok none)
  | present, .findInstance name => some (.ok (some (Specification.ofType name tableType)))
  | fail, .allInstances => some (.error (.storage (injected "get_all")))
  | fail, .addInstance _ => some (.error (.storage (injected "add")))
  | fail, .removeInstance _ => some (.error (.storage (injected "delete")))
  | fail, .findType _ => some (.error (.storage (injected "type")))
  | absent, .findType _ => some (.ok none)
  | fail, .addOwner _ _ => some (.error (.storage (injected "add")))
  | alreadyExists, .addOwner entity _ => some (.error (.alreadyExists entity))
  | unsupported, .addOwner entity _ => some (.error (.unsupported entity))
  | malformed, .addOwner _ principal =>
    some (.error (.invalidPrincipal (.malformed principal.text)))
  | fail, .findOwner _ => some (.error (.storage (injected "get")))
  | fail, .removeOwner _ => some (.error (.storage (injected "delete")))
  | fault, .perform r _ => fault.result? r
  | _, _ => none

end Fault

/-- The faults that are still to come, by target. -/
abbrev Plans := List (Target × List Fault)

namespace Plans

/-- Adds faults after those that are already planned. -/
def add (target : Target) (faults : List Fault) : Plans → Plans
  | [] => [(target, faults)]
  | (t, fs) :: rest => if t = target then (t, fs ++ faults) :: rest else (t, fs) :: add target faults rest

/-- Takes the next fault of a target. -/
def take (target : Target) : Plans → Fault × Plans
  | [] => (.pass, [])
  | (t, fs) :: rest =>
    if t = target then
      match fs with
      | [] => (.pass, (t, []) :: rest)
      | f :: fs => (f, (t, fs) :: rest)
    else
      let (f, rest) := take target rest
      (f, (t, fs) :: rest)

end Plans

end DatasetCatalog.Simulation
