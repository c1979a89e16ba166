import DatasetCatalog.Lifecycle.Step
import DatasetCatalog.Payload

/-!
# Asking about instances

Looking an instance up gives its specification, its type and its owner. A listing gives all
instances in the order of their names, or those that the query engine shows, or those that it does
not; only a filter asks the query engine, and then its answer is needed.
-/

namespace DatasetCatalog.Lifecycle

/-- What is known about an instance, if there is one of that name. -/
def get (settings : Settings) (name : String) : Step (Option InstanceMeta) := do
  if InstanceName.isValid name then
    let some spec ← ofRegistry (findInstance name) | return none
    let typeMeta ← ofRegistry (findType spec.typeName)
    let owner ← ofOwners (findOwner (settings.entity name))
    return some ⟨spec, typeMeta, none, owner.map Principal.text⟩
  else return none

/-- What a listing is to show. -/
structure ListOptions where
  /-- Keep the instances that are exposed, or those that are not. -/
  explorable : Option Bool := none
  /-- Show all that is known about an instance. -/
  withMeta : Bool := false
  deriving DecidableEq, Repr

/-- The tables that the query engine shows, in lower case. -/
def exposed : Step (List String) := do
  match ← always exposedTables with
  | .ok names => return names.map Casing.lower
  | .error e =>
    always (count (.exploreFailed "list"))
    throw (.exploreListing e)

/-- Whether an instance is shown as one of some tables. -/
def isExposedIn (tables : List String) (spec : Specification) : Bool :=
  tables.contains (InstanceName.table spec.name)

/-- The instances that pass the filter. -/
def ListOptions.keep (o : ListOptions) (tables : List String) (specs : List Specification) :
    List Specification :=
  match o.explorable with
  | none => specs
  | some wanted => specs.filter fun spec => isExposedIn tables spec == wanted

/-- The entry of an instance. Only a listing of exposed instances names their tables. -/
def ListOptions.entry (o : ListOptions) (spec : Specification) : Step Listing := do
  if o.withMeta then
    let typeMeta ← ofRegistry (findType spec.typeName)
    let table := if o.explorable = some true then some (InstanceName.table spec.name) else none
    return .withMeta ⟨spec, typeMeta, table, none⟩
  else return .bare spec

/-- Lists instances. -/
def list (o : ListOptions) : Step (List Listing) := do
  let specs ← ofRegistry allInstances
  let tables ← if o.explorable.isSome then exposed else pure []
  (o.keep tables specs).mapM o.entry

end DatasetCatalog.Lifecycle
