import DatasetCatalog.Storage.Request

/-!
# Storage in memory that fails on demand

To rehearse failures, storage can be a map from names to specifications, together with a script of
what goes wrong: requests that always fail, and creates that take their time once. Every request is
noted down before anything else happens to it.

A request is carried out in two steps, because a create may have to wait between them: `Scripted.enter`
notes it down and says whether and how long it takes, `Scripted.finish` has the effect.
-/

namespace DatasetCatalog.Storage

/-- An operation on the instance of a name. -/
structure Call where
  operation : String
  target : String
  deriving DecidableEq, Repr

/-- The operation and the instance of a request. -/
def Request.call (r : Request) : Call := ⟨r.operation, r.target⟩

/-- Storage in memory with its script. -/
structure Scripted where
  physical : StringMap Specification := []
  /-- The requests that fail, with the reasons. -/
  failures : List (Call × String) := []
  /-- The next requests to wait, with the time in milliseconds. -/
  delays : List (Call × Nat) := []
  /-- The requests so far, the last one first. -/
  history : List Call := []

namespace Scripted

/-- The first value of a call. -/
def find? {α : Type} (c : Call) (entries : List (Call × α)) : Option α :=
  (entries.find? fun e => e.1 == c).map (·.2)

/-- The entries without those of a call. -/
def without {α : Type} (c : Call) (entries : List (Call × α)) : List (Call × α) :=
  entries.filter fun e => e.1 ≠ c

/-- Lets every request of a kind fail. -/
def fail (s : Scripted) (c : Call) (reason : String) : Scripted :=
  { s with failures := (c, reason) :: without c s.failures }

/-- Lets the next request of a kind wait. -/
def delayOnce (s : Scripted) (c : Call) (milliseconds : Nat) : Scripted :=
  { s with delays := (c, milliseconds) :: without c s.delays }

/-- Adds storage without a create. -/
def insertPhysical (s : Scripted) (spec : Specification) : Scripted :=
  { s with physical := StringMap.insert spec.name spec s.physical }

/-- Whether there is storage of a name. -/
def contains (s : Scripted) (name : String) : Bool := StringMap.contains name s.physical

/-- Notes a request down. It fails if the script says so; otherwise the answer is how long it waits,
if it does. Only creates wait. -/
def enter (s : Scripted) (r : Request) : Except StorageError (Option Nat) × Scripted :=
  let s := { s with history := r.call :: s.history }
  match find? r.call s.failures with
  | some reason => (.error (.execution r.operation r.target reason), s)
  | none =>
    match r with
    | .create _ => (.ok (find? r.call s.delays), { s with delays := without r.call s.delays })
    | _ => (.ok none, s)

/-- Fails unless there is storage of a name. -/
def require (s : Scripted) (name : String) : Except StorageError Unit :=
  if s.contains name then .ok () else .error (.notFound name)

/-- The effect of a request and its result. -/
def finish (s : Scripted) : (r : Request) → Result r × Scripted
  | .create c =>
    if s.contains c.name then (.error (.alreadyExists c.name), s)
    else
      let spec := (Specification.ofType c.name c.typeMeta.name).withProperties c.properties
      (.ok spec, s.insertPhysical spec)
  | .drop r => (.ok (), { s with physical := StringMap.erase r.spec.name s.physical })
  | .truncate name => (s.require name, s)
  | .upgrade name => (s.require name, s)
  | .probe name => (.ok (s.contains name), s)

end Scripted

end DatasetCatalog.Storage
