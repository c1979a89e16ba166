import DatasetCatalog.Owner.Files
import DatasetCatalog.Owner.Memory

/-!
# The owner store

A deployment keeps its owner records in memory or in a directory. `OwnerStore` is either, with one
operation for both; it works on itself and on the disk. `OwnerStore.add` and `OwnerStore.delete`
also give the events that belong in the audit trail.
-/

namespace DatasetCatalog

/-- Where the owner records are kept. -/
inductive OwnerStore
  | memory (records : Owner.Records)
  | files (root : Disk.Path)

namespace OwnerStore

/-- A store with the disk it may use. -/
abbrev Site := OwnerStore × Disk

/-- Does `inMemory` to records and `onFiles` to a directory. -/
def either {α : Type} (inMemory : Owner.Memory.MemoryAction α)
    (onFiles : Disk.Path → Owner.OwnerAction α) : Site → Except OwnerError α × Site
  | (memory records, disk) =>
    let (result, records) := inMemory.run.run records
    (result, memory records, disk)
  | (files root, disk) =>
    let (result, disk) := (onFiles root).run.run disk
    (result, files root, disk)

/-- Records an owner. -/
def add (entity : EntityId) (principal : Principal) (s : Site) :
    Except OwnerError Unit × List Audit.Event × Site :=
  let (result, s) :=
    either (Owner.Memory.add entity principal) (Owner.Files.add · entity principal) s
  (result, Owner.addEvents entity principal result, s)

/-- The owner of an entity. -/
def get (entity : EntityId) : Site → Except OwnerError (Option Principal) × Site :=
  either (Owner.Memory.get entity) (Owner.Files.get · entity)

/-- Whether an entity has an owner. -/
def isRecorded (entity : EntityId) : Site → Except OwnerError Bool × Site :=
  either (Owner.Memory.isRecorded entity) (Owner.Files.isRecorded · entity)

/-- Removes the record of an entity, if there is one. -/
def delete (entity : EntityId) (s : Site) : Except OwnerError Unit × List Audit.Event × Site :=
  let (result, s) := either (Owner.Memory.delete entity) (Owner.Files.delete · entity) s
  (result.map fun _ => (), Owner.deleteEvents entity result, s)

/-- How many records are kept in memory. -/
def size : OwnerStore → Nat
  | memory records => records.length
  | files _ => 0

end OwnerStore

end DatasetCatalog
