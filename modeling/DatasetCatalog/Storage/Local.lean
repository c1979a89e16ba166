import DatasetCatalog.Disk.Operations
import DatasetCatalog.Storage.Definition
import DatasetCatalog.Storage.Request

/-!
# Storage in a directory

The storage of an instance is a directory of its name under a data directory:

* `<instance>/spec.json` holds the specification, and
* `<instance>/data/<part>/` is a directory for the data of each part of it.

The specification is written last, so storage that a create left unfinished has none. A create
never reuses a directory, whatever is in it; a drop removes the directory whatever is in it.
-/

namespace DatasetCatalog.Storage

/-- An operation on the disk that fails as a storage operation. -/
abbrev StorageAction (α : Type) := ExceptT StorageError (StateM Disk) α

/-- Runs a file operation; its failure is one of the system. -/
def onDisk {α : Type} (a : FileAction α) : StorageAction α := ExceptT.adapt StorageError.ofFile a

/-- A data directory and the code of the types that can be stored in it. -/
structure Local where
  root : Disk.Path
  definitions : StringMap Definition := Definition.builtin

namespace Local

/-- The file that holds the specification. -/
def specFile : String := "spec.json"

/-- The file that a specification is written to before it takes its place. -/
def draftSpecFile : String := ".spec.json.tmp"

/-- The directory that holds the data of the parts. -/
def dataDirectory : String := "data"

/-- The code of a type. -/
def definition (s : Local) (typeName : String) : StorageAction Definition :=
  match StringMap.find? typeName s.definitions with
  | some d => return d
  | none => throw (.unknownType typeName)

/-- The directory of an instance. -/
def directory (s : Local) (operation name : String) : StorageAction Disk.Path :=
  if Disk.isSafeName name then return s.root.join name
  else throw (.execution operation name "name cannot be used as a storage path")

/-- The specification that the code of a type makes of properties. -/
def configure (d : Definition) (operation name : String) (ps : Properties) :
    StorageAction Specification :=
  match d name ps with
  | .ok spec => return spec
  | .error e => throw (.execution operation name e.message)

/-- The directory of a part in the directory of its instance. -/
def partDirectory (dir : Disk.Path) (part : Specification) : Disk.Path :=
  (dir.join dataDirectory).join part.name

/-- Makes the directories of all parts. -/
def makePartDirectories (dir : Disk.Path) (spec : Specification) : StorageAction Unit :=
  spec.parts.forM fun part => onDisk (Disk.makeDirectories (partDirectory dir part))

/-- Writes the specification of an instance. -/
def writeSpecification (dir : Disk.Path) (spec : Specification) : StorageAction Unit := do
  let draft := dir.join draftSpecFile
  onDisk (Disk.writeFile draft (Utf8.encode spec.toJson.indented))
  onDisk (Disk.moveFile draft (dir.join specFile))

/-- Reads the specification of an instance. -/
def readSpecification (s : Local) (operation name : String) : StorageAction Specification := do
  let dir ← s.directory operation name
  match ← onDisk (Disk.readIfPresent (dir.join specFile)) with
  | none => throw (.notFound name)
  | some bytes =>
    match Json.decode Specification.reader bytes with
    | .ok spec => return spec
    | .error e =>
      throw (.execution operation name ("stored specification is unreadable: " ++ e.fault.message))

/-- Makes the directory of a new instance. -/
def claimDirectory (dir : Disk.Path) (name : String) : StorageAction Unit := do
  let d ← getThe Disk
  match (Disk.makeDirectory dir).run d with
  | (.ok (), d) => set d
  | (.error .alreadyExists, _) => throw (.alreadyExists name)
  | (.error e, _) => throw (.ofFile e)

/-- Creates the storage of an instance. -/
def create (s : Local) (c : Creation) : StorageAction Specification := do
  let d ← s.definition c.typeMeta.name
  let dir ← s.directory "create" c.name
  let spec ← configure d "create" c.name c.properties
  -- nothing is touched for a request that is refused
  onDisk (Disk.makeDirectories s.root)
  claimDirectory dir c.name
  makePartDirectories dir spec
  writeSpecification dir spec
  return spec

/-- Removes the storage of an instance, if there is any. -/
def drop (s : Local) (r : Removal) : StorageAction Unit := do
  let dir ← s.directory "drop" r.spec.name
  discard (onDisk (Disk.removeTreeIfPresent dir))

/-- Empties the directory of a part, and makes it if it is missing. -/
def clearPart (dir : Disk.Path) (part : Specification) : StorageAction Unit := do
  let data := partDirectory dir part
  discard (onDisk (Disk.removeTreeIfPresent data))
  onDisk (Disk.makeDirectories data)

/-- Removes the data of an instance. -/
def truncate (s : Local) (name : String) : StorageAction Unit := do
  let spec ← s.readSpecification "truncate" name
  -- the parts are those of the stored specification, whoever wrote it
  let dir ← s.directory "truncate" name
  spec.parts.forM (clearPart dir)

/-- Applies the code of the type to the stored properties again. -/
def upgrade (s : Local) (name : String) : StorageAction Unit := do
  let current ← s.readSpecification "upgrade" name
  let d ← s.definition current.typeName
  let spec ← configure d "upgrade" name current.properties
  let dir ← s.directory "upgrade" name
  makePartDirectories dir spec
  writeSpecification dir spec

/-- Whether an instance has storage. -/
def probe (s : Local) (name : String) : StorageAction Bool := do
  let dir ← s.directory "exists" name
  onDisk (.look fun d => d.pathExists (dir.join specFile))

/-- Carries out a request. -/
def perform (s : Local) : (r : Request) → StorageAction r.Answer
  | .create c => s.create c
  | .drop r => s.drop r
  | .truncate name => s.truncate name
  | .upgrade name => s.upgrade name
  | .probe name => s.probe name

/-- Carries out a request on a disk. -/
def run (s : Local) (r : Request) (d : Disk) : Result r × Disk := (s.perform r).run.run d

end Local

end DatasetCatalog.Storage
