import DatasetCatalog.Lifecycle.Step
import DatasetCatalog.Payload

/-!
# Creating an instance

A create checks its request, takes the exclusive right to the name, records the owner, creates the
storage and only then adds the instance to the catalog. Nothing is in the catalog without storage,
and an owner record that was written for a create that fails is removed again.

Storage that is found under a name which the catalog does not know is left over from an earlier
failure. It is dropped and the create is tried once more.

* `Lifecycle.createStorage` — the storage, with that second attempt;
* `Lifecycle.commit` — the entry in the catalog and what follows from it; and
* `Lifecycle.create` — the whole, with the right to the name given back at every exit.
-/

namespace DatasetCatalog.Lifecycle

/-- Why a name cannot be used. -/
def nameRule : String :=
  "must start with a letter, digit or '_' and contain only letters, digits, '_', '.' and '-'"

/-- The owner that a request names, if it is one. -/
def requestedOwner (settings : Settings) (name : String) (request : InstanceConfiguration) :
    Except CatalogError (Option Principal) :=
  match request.ownerPrincipal with
  | none => .ok none
  | some text =>
    match Owner.validate (settings.entity name) ⟨text⟩ with
    | .ok () => .ok (some ⟨text⟩)
    | .error e => .error (.invalidOwner name e)

/-- Checks a request before anything is touched. The answer is the owner to record. -/
def checkCreate (settings : Settings) (name : String) (request : InstanceConfiguration) :
    Except CatalogError (Option Principal) :=
  if InstanceName.isValid name then requestedOwner settings name request
  else .error (.invalidName name nameRule)

/-- Drops the storage of a name that the catalog does not know. Whether that was done is the
answer. -/
def reclaimOrphan (settings : Settings) (name : String) (typeMeta : TypeMeta) : Program Bool := do
  match ← findInstance name with
  | .ok none =>
    match ← perform settings (.drop ⟨.ofType name typeMeta.name, typeMeta⟩) with
    | .ok () =>
      record (.orphanReclaimed name typeMeta.name)
      return true
    | .error _ => return false
  -- the storage is that of an instance, or that cannot be ruled out
  | _ => return false

/-- Creates the storage. Storage left over from an earlier failure is dropped first, and if that is
not possible the first failure counts. -/
def createStorage (settings : Settings) (c : Storage.Creation) :
    Program (Except StorageError Specification) := do
  match ← perform settings (.create c) with
  | .error (.alreadyExists name) =>
    if ← reclaimOrphan settings c.name c.typeMeta then perform settings (.create c)
    else return .error (.alreadyExists name)
  | result => return result

/-- Removes the owner record that was written for this create. -/
def rollBackOwner (entity : EntityId) (owner : Option Principal) : Program Unit := do
  if owner.isSome then discard (removeOwner entity)

/-- The error of a create whose storage could not be created. If the name is in the catalog by now,
another coordinator was faster. -/
def failCreate (settings : Settings) (name typeName : String) (owner : Option Principal)
    (source : StorageError) : Program CatalogError := do
  record (.createFailed name typeName source.message)
  rollBackOwner (settings.entity name) owner
  match source with
  | .alreadyExists _ => return .instanceExists name
  | _ =>
    -- the failure may be that of losing against somebody else
    match ← findInstance name with
    | .ok (some _) => return .instanceExists name
    | _ => return .execution "create" name source

/-- Records the owner, if there is one. -/
def claimOwner (settings : Settings) (name : String) : Option Principal → Step Unit
  | none => return ()
  | some principal => do
    match ← always (addOwner (settings.entity name) principal) with
    | .ok () => return ()
    | .error (.alreadyExists _) => throw (.ownerExists name)
    | .error e => throw (if e.isInvalidArgument then .invalidOwner name e else .ownerStore e)

/-- Takes back what was done for an instance that the catalog did not accept. The storage stays if
the name is taken, because it is then that of the other instance. -/
def rollBack (settings : Settings) (spec : Specification) (typeMeta : TypeMeta)
    (owner : Option Principal) (e : RegistryError) : Program CatalogError := do
  rollBackOwner (settings.entity spec.name) owner
  match e with
  | .alreadyExists name => return .instanceExists name
  | e =>
    discard (perform settings (.drop ⟨spec, typeMeta⟩))
    return .registry e

/-- Adds the instance to the catalog and shows it to the query engine, if that can be done. -/
def commit (settings : Settings) (typeName : String) (spec : Specification) (typeMeta : TypeMeta)
    (owner : Option Principal) : Step Specification := do
  match ← always (addInstance spec) with
  | .error e => throw (← always (rollBack settings spec typeMeta owner e))
  | .ok () =>
    -- the instance exists from here on, whatever the query engine says
    always (do tolerate spec.name "enable" (← expose spec.name))
    always (record (.created spec.name typeName owner))
    always (count (.created typeName))
    return spec

/-- Creates an instance whose name nobody else creates meanwhile. -/
def createReserved (settings : Settings) (name : String) (request : InstanceConfiguration)
    (owner : Option Principal) : Step Specification := do
  if (← ofRegistry (findInstance name)).isSome then throw (.instanceExists name)
  let some typeMeta ← ofRegistry (findType request.typeName)
    | throw (.typeNotFound name request.typeName)
  claimOwner settings name owner
  match ← always (createStorage settings ⟨name, typeMeta, request.properties⟩) with
  | .error e => throw (← always (failCreate settings name request.typeName owner e))
  | .ok spec =>
    if spec.name = name then commit settings request.typeName spec typeMeta owner
    else
      let e := .protocol ("create of '" ++ name ++ "' returned a specification for '" ++
        spec.name ++ "'")
      throw (← always (failCreate settings name request.typeName owner e))

/-- Takes the right to create a name for the time of a step. -/
def withReservation {α : Type} (name : String) (step : Step α) : Step α := do
  if ← always (reserve name) then
    -- the result is kept back until the right is given back, be it a failure or not
    let result ← always step.run
    always (release name)
    ExceptT.mk (pure result)
  else throw (.instanceExists name)

/-- Creates an instance. -/
def create (settings : Settings) (name : String) (request : InstanceConfiguration) :
    Step Specification := do
  let owner ← ExceptT.mk (pure (checkCreate settings name request))
  withReservation name (createReserved settings name request owner)

end DatasetCatalog.Lifecycle
