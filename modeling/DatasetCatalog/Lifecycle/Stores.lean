import DatasetCatalog.Lifecycle.Program
import DatasetCatalog.Lifecycle.Settings
import DatasetCatalog.Owner.Store
import DatasetCatalog.Registry.Instances
import DatasetCatalog.Storage.Backend

/-!
# The stores behind a coordinator

`Stores` is everything that calls can change: the registries, the owner records, the storage, the
query engine, the disk that some of them use, and what is written down about it all. Coordinators
can share stores; the right to create a name is each coordinator's own, so it is not among them.

`Stores.answer` says what every call means on one state, with storage that answers at once. It is
one handler for programs; others can let calls fail or take their time.
-/

namespace DatasetCatalog

/-- The state that calls work on. -/
structure Stores where
  types : TypeRegistry := .builtin
  instances : InstanceRegistry := .memory []
  owners : OwnerStore := .memory []
  storage : Storage.Backend := .memory {}
  gateway : Gateway := {}
  disk : Disk := ⟨[], []⟩
  /-- The events so far, the last one first. -/
  audit : List Audit.Event := []
  metrics : Metrics := {}

/-- The names that a coordinator is creating. -/
abbrev Reservations := List String

namespace Reservations

/-- Takes a name, if nobody has it. -/
def reserve (rs : Reservations) (name : String) : Bool × Reservations :=
  if rs.contains name then (false, rs) else (true, name :: rs)

/-- Gives a name back. -/
def release (rs : Reservations) (name : String) : Reservations := rs.filter (· ≠ name)

end Reservations

namespace Stores

variable {α : Type}

/-- Runs an operation of the instance registry. -/
def onInstances (a : InstanceRegistry.InstanceAction α) (s : Stores) :
    Except RegistryError α × Stores :=
  let (result, instances, disk) := a.run.run (s.instances, s.disk)
  (result, { s with instances, disk })

/-- Writes events down. -/
def recordAll (es : List Audit.Event) (s : Stores) : Stores := { s with audit := es.reverse ++ s.audit }

/-- Records an owner. -/
def addOwner (entity : EntityId) (principal : Principal) (s : Stores) :
    Except OwnerError Unit × Stores :=
  let (result, events, owners, disk) := OwnerStore.add entity principal (s.owners, s.disk)
  (result, { s with owners, disk }.recordAll events)

/-- The owner of an entity. -/
def findOwner (entity : EntityId) (s : Stores) : Except OwnerError (Option Principal) × Stores :=
  let (result, owners, disk) := OwnerStore.get entity (s.owners, s.disk)
  (result, { s with owners, disk })

/-- Removes the record of an entity. -/
def removeOwner (entity : EntityId) (s : Stores) : Except OwnerError Unit × Stores :=
  let (result, events, owners, disk) := OwnerStore.delete entity (s.owners, s.disk)
  (result, { s with owners, disk }.recordAll events)

/-- Runs an operation of the query engine. -/
def onGateway (f : Gateway → α × Gateway) (s : Stores) : α × Stores :=
  let (a, gateway) := f s.gateway
  (a, { s with gateway })

/-- Carries a storage operation out at once. -/
def perform (r : Storage.Request) (s : Stores) : Storage.Result r × Stores :=
  let (result, storage, disk) := Storage.Backend.perform r (s.storage, s.disk)
  (result, { s with storage, disk })

/-- The answer to a call, for a coordinator that is creating some names. -/
def answer : (c : Call) → Reservations × Stores → c.Answer × Reservations × Stores
  | .reserve name, (rs, s) =>
    let (granted, rs) := rs.reserve name
    (granted, rs, s)
  | .release name, (rs, s) => ((), rs.release name, s)
  | .findInstance name, (rs, s) =>
    let (a, s) := s.onInstances (InstanceRegistry.get name)
    (a, rs, s)
  | .allInstances, (rs, s) =>
    let (a, s) := s.onInstances InstanceRegistry.getAll
    (a, rs, s)
  | .addInstance spec, (rs, s) =>
    let (a, s) := s.onInstances (InstanceRegistry.add spec)
    (a, rs, s)
  | .removeInstance name, (rs, s) =>
    let (a, s) := s.onInstances (InstanceRegistry.delete name)
    (a, rs, s)
  | .findType name, (rs, s) => (.ok (s.types.find? name), rs, s)
  | .addOwner entity principal, (rs, s) =>
    let (a, s) := s.addOwner entity principal
    (a, rs, s)
  | .findOwner entity, (rs, s) =>
    let (a, s) := s.findOwner entity
    (a, rs, s)
  | .removeOwner entity, (rs, s) =>
    let (a, s) := s.removeOwner entity
    (a, rs, s)
  | .expose name, (rs, s) =>
    let (a, s) := s.onGateway (·.expose name)
    (a, rs, s)
  | .withdraw name, (rs, s) =>
    let (a, s) := s.onGateway (·.withdraw name)
    (a, rs, s)
  | .exposedTables, (rs, s) => (s.gateway.tableNames, rs, s)
  | .perform r _, (rs, s) =>
    let (a, s) := s.perform r
    (a, rs, s)
  | .record event, (rs, s) => ((), rs, s.recordAll [event])
  | .count reading, (rs, s) => ((), rs, { s with metrics := s.metrics.count reading })

end Stores

end DatasetCatalog
