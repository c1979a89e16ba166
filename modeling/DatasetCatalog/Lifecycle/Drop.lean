import DatasetCatalog.Lifecycle.Step
import DatasetCatalog.Payload

/-!
# Dropping instances

A drop takes the instance from the query engine, then out of the catalog, and only then removes the
owner record and the storage. Whoever removes the entry goes on; of several callers that is exactly
one. If the storage cannot be removed it stays behind without an entry, which the audit trail shows.

The reset drops every instance there is. A failure with one instance does not keep it from the
others. It has to be enabled.
-/

namespace DatasetCatalog.Lifecycle

/-- The type of an instance. An instance outlives the registration of its type; then it has no
modules. -/
def typeOf (spec : Specification) : Step TypeMeta := do
  match ← ofRegistry (findType spec.typeName) with
  | some typeMeta => return typeMeta
  | none => return ⟨spec.typeName, []⟩

/-- Removes the storage of an instance that has left the catalog. -/
def dropStorage (settings : Settings) (spec : Specification) (typeMeta : TypeMeta) :
    Step Unit := do
  match ← always (perform settings (.drop ⟨spec, typeMeta⟩)) with
  | .ok () => always (record (.dropped spec.name spec.typeName))
  | .error e =>
    always (record (.dropFailed spec.name spec.typeName e.message))
    throw (.execution "drop" spec.name e)

/-- Drops an instance that was found in the catalog. -/
def dropFound (settings : Settings) (spec : Specification) : Step Unit := do
  let typeMeta ← typeOf spec
  always (do tolerate spec.name "disable" (← withdraw spec.name))
  -- of several callers the registry tells one that it has removed the entry
  if ← ofRegistry (removeInstance spec.name) then
    always (count (.dropped spec.typeName))
    discard (always (removeOwner (settings.entity spec.name)))
    dropStorage settings spec typeMeta
  else throw (.concurrentlyDropped spec.name)

/-- Drops an instance. -/
def dropInstance (settings : Settings) (name : String) : Step Unit := do
  if InstanceName.isValid name then
    match ← ofRegistry (findInstance name) with
    | some spec => dropFound settings spec
    | none => throw (.instanceNotFound name)
  else throw (.instanceNotFound name)

/-- What became of the instances so far. -/
structure Tally where
  dropped : List String := []
  skipped : List String := []
  failed : List String := []
  deriving DecidableEq, Repr

/-- Notes down what became of one instance. -/
def Tally.add (t : Tally) (name : String) : Except CatalogError Unit → Tally
  | .ok () => { t with dropped := t.dropped ++ [name] }
  | .error (.concurrentlyDropped _) => { t with skipped := t.skipped ++ [name] }
  | .error _ => { t with failed := t.failed ++ [name] }

/-- Drops instances one after the other. -/
def dropEach (settings : Settings) : Tally → List Specification → Program Tally
  | t, [] => return t
  | t, spec :: rest => do
    let result ← (dropFound settings spec).run
    dropEach settings (t.add spec.name result) rest

/-- Drops all instances. -/
def dropAll (settings : Settings) : Step DropReport := do
  if settings.unrecoverableReset then
    let specs ← ofRegistry allInstances
    let t ← always (dropEach settings {} specs)
    always (record (.reset t.dropped.length t.failed.length))
    if t.failed.isEmpty then return ⟨t.dropped, t.skipped⟩
    else throw (.partialFailure t.dropped.length t.failed)
  else
    always (record .resetDenied)
    throw (.forbidden "unrecoverable reset")

end DatasetCatalog.Lifecycle
