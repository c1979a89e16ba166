import DatasetCatalog.Registry.Basic

/-!
# Instances in memory

The registry of instances as a map. No operation fails, but for an add of a name that is taken.
-/

namespace DatasetCatalog.Registry.Memory

/-- An operation on the map of instances. -/
abbrev MemoryAction (α : Type) := ExceptT RegistryError (StateM (StringMap Specification)) α

/-- The instance of a name. -/
def get (name : String) : MemoryAction (Option Specification) := do
  return StringMap.find? name (← getThe (StringMap Specification))

/-- All instances in the order of their names. -/
def getAll : MemoryAction (List Specification) := do
  return StringMap.values (← getThe (StringMap Specification))

/-- Adds an instance. -/
def add (spec : Specification) : MemoryAction Unit := do
  let m ← getThe (StringMap Specification)
  if StringMap.contains spec.name m then throw (.alreadyExists spec.name)
  set (StringMap.insert spec.name spec m)

/-- Removes an instance. Whether there was one is the answer. -/
def delete (name : String) : MemoryAction Bool := do
  let m ← getThe (StringMap Specification)
  set (StringMap.erase name m)
  return StringMap.contains name m

end DatasetCatalog.Registry.Memory
