import DatasetCatalog.Toml.Statement

/-!
# Documents

A document is the table that the statements of a text make together. `Toml.parse?` is the document
of a text; `Toml.run?` is what its statements come to, one after the other.
-/

namespace DatasetCatalog.Toml

/-- A document so far, and the path of the table that is open. -/
structure Draft where
  entries : Entries := []
  current : List String := []

namespace Draft

/-- Opens the table of a path in one of the two ways. -/
def moveTo (d : Draft) (path : List String) (open? : String → Entries → Option Entries) :
    Option Draft :=
  match path.getLast? with
  | some key => (Entries.atPath (open? key) path.dropLast d.entries).map fun entries => ⟨entries, path⟩
  | none => none

/-- What a statement adds to a document. -/
def add (d : Draft) : Statement → Option Draft
  | .assign key v =>
    (Entries.atPath (fun es => assignAll .dotted es [(key, v)]) d.current d.entries).map
      fun entries => { d with entries }
  | .openTable path => d.moveTo path Entries.openTable
  | .openElement path => d.moveTo path Entries.openElement

end Draft

/-- The document that statements make. -/
def run? (ss : List Statement) : Option Entries := (ss.foldlM Draft.add {}).map Draft.entries

/-- Drops the mark that may stand in front of a text to show its encoding. -/
def dropMark : List Char → List Char
  | c :: cs => if c.toNat = 0xFEFF then cs else c :: cs
  | [] => []

/-- The document of a text. -/
def parse? (text : String) : Option Entries :=
  let cs := dropMark text.toList
  (statements (cs.length + 1) cs).bind run?

end DatasetCatalog.Toml
