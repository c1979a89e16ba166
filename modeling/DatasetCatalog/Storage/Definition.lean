import DatasetCatalog.Specification
import DatasetCatalog.TypeMeta

/-!
# The code of a type

A type turns the properties that are asked for into the specification that the catalog stores, or
refuses them. The two built-in types accept any properties, but a time to live has to be a number
of seconds. A key/value table is made of one table with the same properties.
-/

namespace DatasetCatalog

/-- Why a type refuses properties. -/
inductive PropertyError
  | invalid (property value reason : String)
  deriving DecidableEq, Repr

/-- The refusal in words. -/
def PropertyError.message : PropertyError → String
  | invalid property value reason =>
    "Invalid value '" ++ value ++ "' for property '" ++ property ++ "': " ++ reason

/-- The code of a type: the specification for an instance name and properties. -/
abbrev Definition := String → Properties → Except PropertyError Specification

namespace Definition

/-- The property that holds the time to live of a table in seconds. -/
def ttlProperty : String := "ttl"

/-- Checks the time to live, if there is one. -/
def checkTtl (ps : Properties) : Except PropertyError Unit :=
  match StringMap.find? ttlProperty ps with
  | none => .ok ()
  | some value =>
    match Unsigned.parse value.toList with
    | .ok _ => .ok ()
    | .error e => .error (.invalid ttlProperty value e.message)

/-- A table. -/
def table : Definition := fun name ps => do
  checkTtl ps
  return (Specification.ofType name tableType).withProperties ps

/-- The local name of the table in a key/value table. -/
def embeddedTable : String := "kv"

/-- A key/value table. -/
def keyValueTable : Definition := fun name ps => do
  let part ← table (name ++ "." ++ embeddedTable) ps
  return ((Specification.ofType name keyValueTableType).withProperties ps).withDataset
    embeddedTable part

/-- The built-in types with their code. -/
def builtin : StringMap Definition :=
  StringMap.ofList [(tableType, table), (keyValueTableType, keyValueTable)]

end Definition

end DatasetCatalog
