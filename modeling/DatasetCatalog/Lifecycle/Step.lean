import DatasetCatalog.Lifecycle.Error
import DatasetCatalog.Lifecycle.Program
import DatasetCatalog.Lifecycle.Settings

/-!
# Steps of the coordinator

A `Step` is a program that can end with an error of the catalog. The calls are given here as steps
with the error that their failure means for the caller. A storage operation is measured, whatever
comes of it.
-/

namespace DatasetCatalog.Lifecycle

/-- A program that can fail. -/
abbrev Step (α : Type) := ExceptT CatalogError Program α

variable {α : Type}

/-- The answer of a registry; its failure ends the step. -/
def ofRegistry (p : Program (Except RegistryError α)) : Step α := ExceptT.adapt .registry p

/-- The answer of the owner store; its failure ends the step. -/
def ofOwners (p : Program (Except OwnerError α)) : Step α := ExceptT.adapt .ownerStore p

/-- A part of a step that cannot fail. -/
def always (p : Program α) : Step α := ExceptT.lift p

def reserve (name : String) : Program Bool := .ask (.reserve name)

def release (name : String) : Program Unit := .ask (.release name)

def findInstance (name : String) : Program (Except RegistryError (Option Specification)) :=
  .ask (.findInstance name)

def allInstances : Program (Except RegistryError (List Specification)) := .ask .allInstances

def addInstance (spec : Specification) : Program (Except RegistryError Unit) :=
  .ask (.addInstance spec)

def removeInstance (name : String) : Program (Except RegistryError Bool) :=
  .ask (.removeInstance name)

def findType (name : String) : Program (Except RegistryError (Option TypeMeta)) :=
  .ask (.findType name)

def addOwner (entity : EntityId) (principal : Principal) : Program (Except OwnerError Unit) :=
  .ask (.addOwner entity principal)

def findOwner (entity : EntityId) : Program (Except OwnerError (Option Principal)) :=
  .ask (.findOwner entity)

def removeOwner (entity : EntityId) : Program (Except OwnerError Unit) :=
  .ask (.removeOwner entity)

def expose (name : String) : Program (Except ExploreError Unit) := .ask (.expose name)

def withdraw (name : String) : Program (Except ExploreError Unit) := .ask (.withdraw name)

def exposedTables : Program (Except ExploreError (List String)) := .ask .exposedTables

def record (event : Audit.Event) : Program Unit := .ask (.record event)

def count (reading : Reading) : Program Unit := .ask (.count reading)

/-- Runs a storage operation within the limit and counts it. -/
def perform (settings : Settings) (request : Storage.Request) :
    Program (Storage.Result request) := do
  let result ← Program.ask (.perform request settings.operationLimit)
  count (.storageTimed request.operation)
  match result with
  | .ok _ => pure ()
  | .error _ => count (.storageFailed request.operation)
  return result

/-- Records that the query engine could not be told about an instance, if so. -/
def tolerate (name operation : String) : Except ExploreError Unit → Program Unit
  | .ok () => return ()
  | .error e => do
    record (.exploreFailed name operation e.message)
    count (.exploreFailed operation)

end DatasetCatalog.Lifecycle
