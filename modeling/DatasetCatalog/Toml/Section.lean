import DatasetCatalog.Toml.Text
import DatasetCatalog.Toml.Value

/-!
# Writing documents

A written document is a sequence of sections, each a header and the settings below it, with an empty
line between two sections. A setting stands on a line of its own; an array with several items takes
a line for each of them. Section names and keys are written without quotes.
-/

namespace DatasetCatalog.Toml

/-- The value of a setting. -/
inductive Setting
  | text (s : String)
  | number (n : Nat)
  | switch (on : Bool)
  | texts (ss : List String)
  deriving DecidableEq, Repr

/-- A header and the settings below it. -/
structure Section where
  name : String
  settings : List (String × Setting)
  deriving DecidableEq, Repr

namespace Setting

/-- The value that a setting stands for. -/
def value : Setting → Value
  | text s => .string s
  | number n => .integer n
  | switch on => .boolean on
  | texts ss => .array (ss.map .string)

/-- A setting as it is written. -/
def write : Setting → List Char
  | text s => writeText s
  | number n => Decimal.digits n
  | switch on => (if on then "true" else "false").toList
  | texts [] => ['[', ']']
  | texts [s] => ['['] ++ writeText s ++ [']']
  | texts ss =>
    ['['] ++ (ss.flatMap fun s => "\n    ".toList ++ writeText s ++ [',']) ++ ['\n', ']']

end Setting

/-- The line of a setting. -/
def writeSetting (s : String × Setting) : List Char :=
  s.1.toList ++ [' ', '=', ' '] ++ s.2.write ++ ['\n']

/-- The lines of a section. -/
def Section.write (s : Section) : List Char :=
  ['['] ++ s.name.toList ++ [']', '\n'] ++ s.settings.flatMap writeSetting

/-- The text of a document. -/
def writeSections : List Section → List Char
  | [] => []
  | [s] => s.write
  | s :: rest => s.write ++ ['\n'] ++ writeSections rest

end DatasetCatalog.Toml
