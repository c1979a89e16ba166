/-!
# Paths

A path is written as names with slashes between them. It starts at the root if the first character
is a slash and at the working directory otherwise. Empty names and `.` mean nothing; `..` is left
to the walk through the directories, because it leads out of whatever was found before it.

The written form is kept: it is what messages show, and joining works on it. A `.` at the end means
something after all where directories are made (`Path.endsHere`).
-/

namespace DatasetCatalog.Disk

/-- The characters between slashes. -/
def splitSlashes : List Char → List (List Char)
  | [] => [[]]
  | c :: cs =>
    if c = '/' then [] :: splitSlashes cs
    else
      match splitSlashes cs with
      | [] => [[c]]
      | s :: rest => (c :: s) :: rest

/-- A path as it is written. -/
structure Path where
  text : String
  deriving DecidableEq, Repr

namespace Path

/-- Whether the path starts at the root. -/
def isAbsolute (p : Path) : Bool := p.text.toList.head? == some '/'

/-- The names of the path. -/
def names (p : Path) : List String :=
  ((splitSlashes p.text.toList).filter fun s => s ≠ [] && s ≠ ['.']).map String.ofList

/-- Whether the last of what stands between the slashes is `.`: the path names a directory from
inside, and no attempt to make one at such a path succeeds. -/
def endsHere (p : Path) : Bool :=
  ((splitSlashes p.text.toList).filter (· ≠ [])).getLast? == some ['.']

/-- The path that `rest` leads to from a directory. A `rest` that starts at the root leads there
from everywhere. -/
def join (p : Path) (rest : String) : Path :=
  if rest.toList.head? = some '/' then ⟨rest⟩
  else if p.text.toList = [] ∨ p.text.toList.getLast? = some '/' then ⟨p.text ++ rest⟩
  else ⟨p.text ++ "/" ++ rest⟩

end Path

/-- Whether a text can be used as a single name that is not hidden. -/
def isSafeName (name : String) : Bool :=
  let cs := name.toList
  !cs.isEmpty && cs.head? ≠ some '.' &&
    cs.all fun c => c ≠ '/' && c ≠ '\\' && c.toNat ≠ 0

/-- The part of a name after its last point, unless the point is its first character. -/
def extension? (name : String) : Option String :=
  let cs := name.toList.reverse
  let ext := cs.takeWhile (· ≠ '.')
  match cs.dropWhile (· ≠ '.') with
  | [] | [_] => none
  | _ :: _ => some (String.ofList ext.reverse)

end DatasetCatalog.Disk
