import DatasetCatalog.Disk.Path
import DatasetCatalog.Text.Decimal
import DatasetCatalog.Text.Utf8

/-!
# A disk as a value

The file-backed stores work on a disk: a finite map from places to directories and files. A place
is the list of names that leads to it from the root, which is always a directory.

A path is resolved by a walk. Every name before the last must lead to a directory, so a walk fails
for the first reason it meets: a missing directory, a file in the way, or a name that is too long.
`Disk.locate` is the walk; the operations on files in `Disk.Operations` all start with it.
-/

namespace DatasetCatalog

/-- Why a file operation fails. -/
inductive FileError
  | notFound
  | alreadyExists
  | notDirectory
  | isDirectory
  | nameTooLong
  | permissionDenied
  /-- A path holds the character that ends paths for the system. -/
  | interiorNul
  deriving DecidableEq, Repr

/-- The error in the system's words. -/
def FileError.message : FileError → String
  | notFound => "No such file or directory (os error 2)"
  | alreadyExists => "File exists (os error 17)"
  | notDirectory => "Not a directory (os error 20)"
  | isDirectory => "Is a directory (os error 21)"
  | permissionDenied => "Permission denied (os error 13)"
  | nameTooLong => "File name too long (os error 36)"
  | interiorNul => "file name contained an unexpected NUL byte"

namespace Disk

/-- A place: the names that lead to it from the root. -/
abbrev Place := List String

/-- What stands at a place. -/
inductive Node
  | directory
  | file (content : List UInt8)
  deriving DecidableEq, Repr

end Disk

open Disk in
/-- The directories and files, apart from the root, and the working directory. -/
structure Disk where
  nodes : List (Place × Node)
  workingDirectory : Place := []
  deriving Repr

namespace Disk

/-- The longest name in bytes. -/
def nameLimit : Nat := 255

/-- What stands at a place. -/
def node? (d : Disk) (p : Place) : Option Node :=
  if p = [] then some .directory else (d.nodes.find? fun e => e.1 == p).map (·.2)

/-- Puts a node at a place, replacing what stood there. -/
def put (d : Disk) (p : Place) (n : Node) : Disk :=
  { d with nodes := (p, n) :: d.nodes.filter fun e => e.1 ≠ p }

/-- Takes away the node at a place and all nodes below it. -/
def prune (d : Disk) (p : Place) : Disk :=
  { d with nodes := d.nodes.filter fun e => !p.isPrefixOf e.1 }

/-- Fails unless a place is a directory. -/
def requireDirectory (d : Disk) (p : Place) : Except FileError Unit :=
  match d.node? p with
  | some .directory => .ok ()
  | some (.file _) => .error .notDirectory
  | none => .error .notFound

/-- The place that names lead to from a place; the last name need not exist. -/
def walk (d : Disk) : Place → List String → Except FileError Place
  | p, [] => .ok p
  | p, name :: rest => do
    d.requireDirectory p
    if name = ".." then walk d p.dropLast rest
    else if nameLimit < Utf8.size name then .error .nameTooLong
    else walk d (p ++ [name]) rest

/-- The place where a walk along the path starts. -/
def origin (d : Disk) (path : Path) : Place := if path.isAbsolute then [] else d.workingDirectory

/-- The place of a path. -/
def locate (d : Disk) (path : Path) : Except FileError Place :=
  if path.text.toList.any (fun c => c.toNat = 0) then .error .interiorNul
  else if path.text.isEmpty then .error .notFound
  else d.walk (d.origin path) path.names

theorem node?_put_self {d : Disk} {p : Place} {n : Node} (h : p ≠ []) :
    (d.put p n).node? p = some n := by
  simp [node?, put, h]

end Disk

end DatasetCatalog
