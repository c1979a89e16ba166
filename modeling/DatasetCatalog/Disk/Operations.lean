import DatasetCatalog.Disk.Basic

/-!
# File operations

Each operation acts on a disk and answers or fails; what it changed before it failed stays changed.
Operations on one place are all-or-nothing. `makeDirectories` makes a whole chain of directories,
from the first missing one down; of a path that ends in `.` the last one must be there.

`publish` is how a store writes a file that must not replace another one: the content goes to a
hidden file beside it first, which is then linked under the final name and removed again. The final
name thus either does not exist or has the whole content, and of several writers exactly one wins.
-/

namespace DatasetCatalog

/-- An action on the disk that can fail. -/
abbrev FileAction (α : Type) := ExceptT FileError (StateM Disk) α

namespace FileAction

/-- Runs an action. -/
def run {α : Type} (a : FileAction α) (d : Disk) : Except FileError α × Disk :=
  (ExceptT.run a).run d

/-- An answer that only looks at the disk. -/
def look {α : Type} (f : Disk → Except FileError α) : FileAction α := do
  let d ← getThe Disk
  match f d with
  | .ok a => return a
  | .error e => throw e

/-- A change of the disk that happens as a whole or not at all. -/
def change (f : Disk → Except FileError Disk) : FileAction Unit := do
  let d ← getThe Disk
  match f d with
  | .ok d => set d
  | .error e => throw e

end FileAction

namespace Disk

/-! ## Single places -/

/-- What stands at a path. -/
def status (d : Disk) (path : Path) : Except FileError Node := do
  let p ← d.locate path
  match d.node? p with
  | some n => .ok n
  | none => .error .notFound

/-- Whether a path leads to a directory. -/
def isDirectory (d : Disk) (path : Path) : Bool :=
  match d.status path with
  | .ok .directory => true
  | _ => false

/-- Whether something stands at a path. It is an error if that cannot be found out. -/
def pathExists (d : Disk) (path : Path) : Except FileError Bool :=
  match d.status path with
  | .ok _ => .ok true
  | .error .notFound => .ok false
  | .error e => .error e

/-- Makes a directory at a place. -/
def directoryAt (d : Disk) (p : Place) : Except FileError Disk :=
  match d.node? p with
  | some _ => .error .alreadyExists
  | none => .ok (d.put p .directory)

/-- Makes a directory. -/
def withDirectory (d : Disk) (path : Path) : Except FileError Disk := do
  let p ← d.locate path
  d.directoryAt p

/-- The content of a file. -/
def content (d : Disk) (path : Path) : Except FileError (List UInt8) := do
  match ← d.status path with
  | .file bytes => .ok bytes
  | .directory => .error .isDirectory

/-- Writes a file, replacing an earlier one. -/
def withFile (d : Disk) (path : Path) (bytes : List UInt8) : Except FileError Disk := do
  let p ← d.locate path
  match d.node? p with
  | some .directory => .error .isDirectory
  | _ => .ok (d.put p (.file bytes))

/-- Gives a file a second name, which must be free. -/
def withLink (d : Disk) (source target : Path) : Except FileError Disk := do
  let bytes ← d.content source
  let p ← d.locate target
  match d.node? p with
  | some _ => .error .alreadyExists
  | none => .ok (d.put p (.file bytes))

/-- Removes a file. -/
def withoutFile (d : Disk) (path : Path) : Except FileError Disk := do
  let p ← d.locate path
  match d.node? p with
  | some (.file _) => .ok (d.prune p)
  | some .directory => .error .isDirectory
  | none => .error .notFound

/-- Moves a file, replacing another file at the target. -/
def withMoved (d : Disk) (source target : Path) : Except FileError Disk := do
  let s ← d.locate source
  let bytes ← d.content source
  let t ← d.locate target
  match d.node? t with
  | some .directory => .error .isDirectory
  | _ => .ok ((d.prune s).put t (.file bytes))

/-- Removes a directory with all it holds. -/
def withoutTree (d : Disk) (path : Path) : Except FileError Disk := do
  let p ← d.locate path
  match d.node? p with
  | some .directory => .ok (d.prune p)
  | some (.file _) => .error .notDirectory
  | none => .error .notFound

/-- The names in a directory, in order. -/
def entryNames (d : Disk) (path : Path) : Except FileError (List String) := do
  match ← d.status path with
  | .file _ => .error .notDirectory
  | .directory =>
    let p ← d.locate path
    let names := d.nodes.filterMap fun e =>
      match e.1.getLast? with
      | some name => if e.1 = p ++ [name] then some name else none
      | none => none
    .ok (names.mergeSort fun a b => decide (a ≤ b))

/-- Everything below a place with its path from there, in the order of the paths. -/
def listing (d : Disk) (under : Place) : List (String × Node) :=
  let below := d.nodes.filterMap fun e =>
    if under.isPrefixOf e.1 && e.1 ≠ under then
      some ("/".intercalate (e.1.drop under.length), e.2)
    else none
  below.mergeSort fun a b => decide (a.1 ≤ b.1)

/-! ## Actions -/

/-- Makes a directory. -/
def makeDirectory (path : Path) : FileAction Unit := .change (·.withDirectory path)

/-- Makes the directory that names lead to from a place. -/
def makeDirectoryFrom (start : Place) (names : List String) : FileAction Unit :=
  .change fun d => do
    let p ← d.walk start names
    d.directoryAt p

/-- Whether names lead to a directory from a place. -/
def isDirectoryFrom (d : Disk) (start : Place) (names : List String) : Bool :=
  match d.walk start names with
  | .ok p => d.node? p == some .directory
  | .error _ => false

/-- Runs an action, and forgives its failure if names lead to a directory anyway. -/
def unlessDirectory (start : Place) (names : List String) (e : FileError) : FileAction Unit := do
  if (← getThe Disk).isDirectoryFrom start names then return () else throw e

/-- Makes a chain of directories, given by its names from the last to the first. A chain that
cannot be made for want of a directory is made after the chain above it. -/
def makeChain (start : Place) : (reversed : List String) → FileAction Unit
  | [] => return ()
  | name :: up => do
    let names := (name :: up).reverse
    -- an attempt that fails changes nothing, so its answer can be looked at beforehand
    let first ← FileAction.look fun d => .ok (makeDirectoryFrom start names |>.run d).1
    match first with
    | .ok () => makeDirectoryFrom start names
    | .error .notFound =>
      makeChain start up
      let second ← FileAction.look fun d => .ok (makeDirectoryFrom start names |>.run d).1
      match second with
      | .ok () => makeDirectoryFrom start names
      | .error e => unlessDirectory start names e
    | .error e => unlessDirectory start names e

/-- Looks for the directory that names lead to from a place. -/
def directoryFrom (d : Disk) (start : Place) (names : List String) : Except FileError Unit := do
  let p ← d.walk start names
  d.requireDirectory p

/-- Makes the directories above the one that names lead to from a place, which is not made itself but
must be there in the end. If it is missing, it can still be one of those above it, because `..` leads
back to them. -/
def makeAbove (start : Place) (names : List String) : FileAction Unit := do
  let d ← getThe Disk
  match d.directoryFrom start names with
  | .error .notFound =>
    makeChain start names.dropLast.reverse
    FileAction.look (·.directoryFrom start names)
  | found => MonadExcept.ofExcept found

/-- Makes the directories on the way to what is in a directory. How the path of the directory ends is
of no importance, because a name comes after it. -/
def makeWay (directory : Path) : FileAction Unit := do
  let d ← getThe Disk
  if directory.text.toList.any (fun c => c.toNat = 0) then throw .interiorNul
  else makeChain (d.origin directory) directory.names.reverse

/-- Makes a directory and all directories above it that are missing. -/
def makeDirectories (path : Path) : FileAction Unit := do
  let d ← getThe Disk
  if path.text.toList.any (fun c => c.toNat = 0) then throw .interiorNul
  else if path.endsHere then makeAbove (d.origin path) path.names
  else makeChain (d.origin path) path.names.reverse

/-- Writes a file, replacing an earlier one. -/
def writeFile (path : Path) (bytes : List UInt8) : FileAction Unit := .change (·.withFile path bytes)

/-- Moves a file, replacing another file at the target. -/
def moveFile (source target : Path) : FileAction Unit := .change (·.withMoved source target)

/-- Removes a directory with all it holds, if there is one. Whether there was one is the answer. -/
def removeTreeIfPresent (path : Path) : FileAction Bool := do
  let d ← getThe Disk
  match d.withoutTree path with
  | .ok d => set d; return true
  | .error .notFound => return false
  | .error e => throw e

/-- Removes a file, if there is one. Whether there was one is the answer. -/
def removeFileIfPresent (path : Path) : FileAction Bool := do
  let d ← getThe Disk
  match d.withoutFile path with
  | .ok d => set d; return true
  | .error .notFound => return false
  | .error e => throw e

/-- The content of a file, if there is one. -/
def readIfPresent (path : Path) : FileAction (Option (List UInt8)) :=
  .look fun d =>
    match d.content path with
    | .ok bytes => .ok (some bytes)
    | .error .notFound => .ok none
    | .error e => .error e

/-- The name of the hidden file that a content is written to before it is published. -/
def draftName : String := ".draft.tmp"

/-- Writes a file only if there is none of its name yet; directories above it are made. Whether it
was written is the answer. -/
def publish (directory : Path) (name : String) (bytes : List UInt8) : FileAction Bool := do
  makeWay directory
  let draft := directory.join draftName
  writeFile draft bytes
  let d ← getThe Disk
  let linked := d.withLink draft (directory.join name)
  match linked with
  | .ok d => set d
  | .error _ => pure ()
  -- the hidden file goes whether it was linked or not
  let _ ← removeFileIfPresent draft
  match linked with
  | .ok _ => return true
  | .error .alreadyExists => return false
  | .error e => throw e

end Disk

end DatasetCatalog
