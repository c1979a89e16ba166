import DatasetCatalog.Registry.Basic

/-!
# Instances in a directory

A registry can be kept in a directory, with one file `<name>.json` for each instance. A new file is
published as a whole and never replaces another one, so adding stays exclusive when several
processes share the directory.
-/

namespace DatasetCatalog.Registry

/-- An operation on the disk that fails as a registry. -/
abbrev RegistryAction (α : Type) := ExceptT RegistryError (StateM Disk) α

/-- Runs a file operation; `what` says in words what it was to do. -/
def onDisk {α : Type} (what : String) (a : FileAction α) : RegistryAction α :=
  ExceptT.adapt (fun e => .storage ("Failed to " ++ what ++ ": " ++ e.message)) a

namespace Files

/-- The extension of the files. -/
def fileExtension : String := "json"

/-- Makes the directory of a registry if it is missing. -/
def openAt (root : Disk.Path) : RegistryAction Unit :=
  onDisk ("create registry directory " ++ root.text) (Disk.makeDirectories root)

/-- The name of the file of an instance. -/
def fileName (name : String) : RegistryAction String :=
  if Disk.isSafeName name then return name ++ "." ++ fileExtension
  else throw (.storage ("Instance name '" ++ name ++ "' cannot be stored on the filesystem"))

/-- The specification that the content of a file describes. -/
def read (bytes : List UInt8) : RegistryAction Specification :=
  match Json.decode Specification.reader bytes with
  | .ok spec => return spec
  | .error e => throw (.unreadable e)

/-- The instance of a name. -/
def get (root : Disk.Path) (name : String) : RegistryAction (Option Specification) := do
  let file ← fileName name
  match ← onDisk ("read " ++ name) (Disk.readIfPresent (root.join file)) with
  | some bytes => return some (← read bytes)
  | none => return none

/-- Whether a file holds an instance. Hidden files do not. -/
def isEntry (file : String) : Bool :=
  Disk.extension? file == some fileExtension && file.toList.head? ≠ some '.'

/-- The instance in a file, unless the file has just been removed. -/
def getEntry (root : Disk.Path) (file : String) : RegistryAction (Option Specification) := do
  let path := root.join file
  match ← onDisk ("read " ++ path.text) (Disk.readIfPresent path) with
  | some bytes => return some (← read bytes)
  | none => return none

/-- All instances in the order of their names. -/
def getAll (root : Disk.Path) : RegistryAction (List Specification) := do
  let files ← onDisk ("list registry directory " ++ root.text) (.look (·.entryNames root))
  let specs ← (files.filter isEntry).mapM (getEntry root)
  return (specs.filterMap id).mergeSort fun a b => decide (a.name ≤ b.name)

/-- Adds an instance. -/
def add (root : Disk.Path) (spec : Specification) : RegistryAction Unit := do
  let file ← fileName spec.name
  let bytes := Utf8.encode spec.toJson.indented
  if ← onDisk ("write " ++ spec.name) (Disk.publish root file bytes) then return ()
  else throw (.alreadyExists spec.name)

/-- Removes an instance. Whether there was one is the answer. -/
def delete (root : Disk.Path) (name : String) : RegistryAction Bool := do
  let file ← fileName name
  onDisk ("delete " ++ name) (Disk.removeFileIfPresent (root.join file))

end Files

end DatasetCatalog.Registry
