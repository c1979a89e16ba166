import DatasetCatalog.Text.Casing
import DatasetCatalog.Text.Pattern

/-!
# Names of dataset instances

An instance name starts with an ASCII letter, a digit or an underscore and goes on with these,
points and hyphens. It is therefore always a single path component that is not hidden.

The query engine knows an instance under its table name. Points are not allowed there, and case
does not count.
-/

namespace DatasetCatalog.InstanceName

/-- What a name starts with: `[A-Za-z0-9_]`. -/
def start : CharClass where
  ranges := [('A', 'Z'), ('a', 'z'), ('0', '9'), ('_', '_')]

/-- What it goes on with: `[A-Za-z0-9_.\-]`. -/
def rest : CharClass where
  ranges := start.ranges ++ [('.', '.'), ('-', '-')]

/-- The form of a name: `[A-Za-z0-9_][A-Za-z0-9_.\-]*`. -/
def pattern : Pattern := .seq (.one start) (.many rest)

/-- Whether a text is an instance name. -/
def isValid (name : String) : Bool := pattern.accepts name.toList

/-- The name of the table that shows an instance to the query engine. -/
def table (name : String) : String :=
  Casing.lower (String.ofList (name.toList.map fun c => if c = '.' then '_' else c))

end DatasetCatalog.InstanceName
