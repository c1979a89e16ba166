import DatasetCatalog.Owner.Basic

/-!
# Owner records in a directory

The record of an entity is the file `<root>/<kind>/<namespace>/<name>`, which holds the principal.
A file is published as a whole and never replaces another one.
-/

namespace DatasetCatalog.Owner

/-- An operation on the disk that fails as an owner store. -/
abbrev OwnerAction (α : Type) := ExceptT OwnerError (StateM Disk) α

/-- Runs a file operation on the record of an entity; `what` says what it was to do. -/
def onDisk {α : Type} (what : String) (entity : EntityId) (a : FileAction α) : OwnerAction α :=
  ExceptT.adapt
    (fun e => .storage ("Failed to " ++ what ++ " owner of " ++ entity.text ++ ": " ++ e.message)) a

namespace Files

/-- Makes the directory of a store if it is missing. -/
def openAt (root : Disk.Path) : OwnerAction Unit :=
  ExceptT.adapt
    (fun e => .storage ("Failed to create owner store directory " ++ root.text ++ ": " ++ e.message))
    (Disk.makeDirectories root)

/-- The directory that holds the record of an entity. The file in it has the name of the entity. -/
def directory (root : Disk.Path) (entity : EntityId) : OwnerAction Disk.Path :=
  if Disk.isSafeName entity.namespace && Disk.isSafeName entity.name then
    return (root.join entity.entityType.text).join entity.namespace
  else throw (.storage ("Entity " ++ entity.text ++ " cannot be stored on the filesystem"))

/-- Records an owner. -/
def add (root : Disk.Path) (entity : EntityId) (principal : Principal) : OwnerAction Unit := do
  ExceptT.mk (pure (validate entity principal))
  let dir ← directory root entity
  let bytes := Utf8.encode principal.text
  if ← onDisk "store" entity (Disk.publish dir entity.name bytes) then return ()
  else throw (.alreadyExists entity)

/-- Why a record is no text, in words. -/
def refusalText : Utf8.Refusal → String
  | .invalid length start =>
    "invalid utf-8 sequence of " ++ Decimal.text length ++ " bytes from index " ++
      Decimal.text start
  | .incomplete start => "incomplete utf-8 byte sequence from index " ++ Decimal.text start

/-- The owner of an entity. -/
def get (root : Disk.Path) (entity : EntityId) : OwnerAction (Option Principal) := do
  let dir ← directory root entity
  match ← onDisk "read" entity (Disk.readIfPresent (dir.join entity.name)) with
  | none => return none
  | some bytes =>
    match Utf8.decode bytes with
    | .ok text => return some ⟨text⟩
    | .error e =>
      throw (.storage ("Owner record of " ++ entity.text ++ " is not valid UTF-8: " ++
        refusalText e))

/-- Whether an entity has an owner. -/
def isRecorded (root : Disk.Path) (entity : EntityId) : OwnerAction Bool := do
  let dir ← directory root entity
  onDisk "check" entity (.look (·.pathExists (dir.join entity.name)))

/-- Removes the record of an entity. Whether there was one is the answer. -/
def delete (root : Disk.Path) (entity : EntityId) : OwnerAction Bool := do
  let dir ← directory root entity
  onDisk "delete" entity (Disk.removeFileIfPresent (dir.join entity.name))

end Files

end DatasetCatalog.Owner
