import DatasetCatalog.Owner.Basic

/-!
# Owner records in memory

The owner store as a list of records, at most one for an entity.
-/

namespace DatasetCatalog.Owner

/-- Owner records, at most one for an entity. -/
abbrev Records := List (EntityId × Principal)

namespace Memory

/-- An operation on records. -/
abbrev MemoryAction (α : Type) := ExceptT OwnerError (StateM Records) α

/-- The owner of an entity in records. -/
def find? (entity : EntityId) (rs : Records) : Option Principal :=
  (rs.find? fun r => r.1 == entity).map (·.2)

/-- Records an owner. -/
def add (entity : EntityId) (principal : Principal) : MemoryAction Unit := do
  ExceptT.mk (pure (validate entity principal))
  let rs ← getThe Records
  if (find? entity rs).isSome then throw (.alreadyExists entity)
  set ((entity, principal) :: rs)

/-- The owner of an entity. -/
def get (entity : EntityId) : MemoryAction (Option Principal) := do
  return find? entity (← getThe Records)

/-- Whether an entity has an owner. -/
def isRecorded (entity : EntityId) : MemoryAction Bool := do
  return (find? entity (← getThe Records)).isSome

/-- Removes the record of an entity. Whether there was one is the answer. -/
def delete (entity : EntityId) : MemoryAction Bool := do
  let rs ← getThe Records
  set (rs.filter fun r => r.1 ≠ entity)
  return (find? entity rs).isSome

end Memory

end DatasetCatalog.Owner
