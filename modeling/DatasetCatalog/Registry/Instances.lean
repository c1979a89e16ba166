import DatasetCatalog.Registry.Files
import DatasetCatalog.Registry.Memory

/-!
# The registry of instances

A deployment keeps its instances in memory or in a directory. `InstanceRegistry` is either, with
one operation for both; it works on itself and on the disk.
-/

namespace DatasetCatalog

/-- Where the instances are registered. -/
inductive InstanceRegistry
  | memory (entries : StringMap Specification)
  | files (root : Disk.Path)

namespace InstanceRegistry

/-- An operation on a registry and the disk. -/
abbrev InstanceAction (α : Type) := ExceptT RegistryError (StateM (InstanceRegistry × Disk)) α

/-- The operation that does `inMemory` to a map and `onFiles` to a directory. -/
def either {α : Type} (inMemory : Registry.Memory.MemoryAction α)
    (onFiles : Disk.Path → Registry.RegistryAction α) : InstanceAction α :=
  ExceptT.mk fun (registry, disk) =>
    match registry with
    | memory entries =>
      let (result, entries) := inMemory.run.run entries
      (result, memory entries, disk)
    | files root =>
      let (result, disk) := (onFiles root).run.run disk
      (result, files root, disk)

/-- The instance of a name. -/
def get (name : String) : InstanceAction (Option Specification) :=
  either (Registry.Memory.get name) (Registry.Files.get · name)

/-- All instances in the order of their names. -/
def getAll : InstanceAction (List Specification) :=
  either Registry.Memory.getAll Registry.Files.getAll

/-- Adds an instance. -/
def add (spec : Specification) : InstanceAction Unit :=
  either (Registry.Memory.add spec) (Registry.Files.add · spec)

/-- Removes an instance. Whether there was one is the answer. -/
def delete (name : String) : InstanceAction Bool :=
  either (Registry.Memory.delete name) (Registry.Files.delete · name)

/-- How many instances are kept in memory. -/
def size : InstanceRegistry → Nat
  | memory entries => entries.length
  | files _ => 0

end InstanceRegistry

end DatasetCatalog
