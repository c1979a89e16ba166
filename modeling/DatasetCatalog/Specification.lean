import DatasetCatalog.Json.Reader
import DatasetCatalog.Json.Render

/-!
# Dataset specifications

A specification is the configured shape of a dataset instance: its name, its type, its properties
and, for a composite type, the specifications of the datasets it is made of, each under a local
name. It is produced once by the code of the type and replaced as a whole afterwards.

`Specification.parts` lists everything a specification describes, itself first; storage is laid out
by this list. `Specification.toJson` and `Specification.reader` are the two directions of the stored
form. Embedded specifications are written only where there are some, and both maps may be missing
on reading.
-/

namespace DatasetCatalog

/-- Instance properties in the order of their names. -/
abbrev Properties := StringMap String

/-- The configured shape of a dataset instance. -/
structure Specification where
  name : String
  typeName : String
  properties : Properties
  /-- The embedded specifications by their local names. -/
  datasets : List (String × Specification)

namespace Specification

/-- A specification without properties and embedded datasets. -/
def ofType (name typeName : String) : Specification := ⟨name, typeName, [], []⟩

instance : Inhabited Specification := ⟨ofType "" ""⟩

/-- Sets one property, replacing an earlier value. -/
def withProperty (s : Specification) (key value : String) : Specification :=
  { s with properties := StringMap.insert key value s.properties }

/-- Sets all the given properties. -/
def withProperties (s : Specification) (ps : Properties) : Specification :=
  { s with properties := StringMap.insertAll ps s.properties }

/-- Embeds a specification, replacing an earlier one of the same local name. -/
def withDataset (s : Specification) (localName : String) (part : Specification) : Specification :=
  { s with datasets := StringMap.insert localName part s.datasets }

/-- The value of a property. -/
def property? (s : Specification) (key : String) : Option String :=
  StringMap.find? key s.properties

/-- The embedded specification of a local name. -/
def embedded? (s : Specification) (localName : String) : Option Specification :=
  StringMap.find? localName s.datasets

mutual

/-- The specification followed by all that it embeds, depth first. -/
def parts : Specification → List Specification
  | ⟨n, t, ps, ds⟩ => ⟨n, t, ps, ds⟩ :: embeddedParts ds

/-- The parts of embedded specifications in turn. -/
def embeddedParts : List (String × Specification) → List Specification
  | [] => []
  | (_, s) :: rest => parts s ++ embeddedParts rest

end

mutual

/-- Both maps are in order, here and in everything embedded. Every specification that is built or
read is. -/
def Ordered : Specification → Prop
  | ⟨_, _, ps, ds⟩ => StringMap.Sorted ps ∧ StringMap.Sorted ds ∧ EmbeddedOrdered ds

/-- `Ordered` for embedded specifications. -/
def EmbeddedOrdered : List (String × Specification) → Prop
  | [] => True
  | (_, s) :: rest => Ordered s ∧ EmbeddedOrdered rest

end

/-! ## The stored form -/

mutual

/-- The specification as JSON. -/
def toJson : Specification → Json.Value
  | ⟨n, t, ps, ds⟩ =>
    .object ([("name", .string n), ("type", .string t), ("properties", .ofStringMap ps)] ++
      if ds.isEmpty then [] else [("datasets", .object (embeddedToJson ds))])

/-- Embedded specifications as members of an object. -/
def embeddedToJson : List (String × Specification) → List (String × Json.Value)
  | [] => []
  | (k, s) :: rest => (k, toJson s) :: embeddedToJson rest

end

/-- The fields of a specification whose embedded specifications are read by `inner`. -/
def record (inner : Json.Reader Specification) : Json.Record Specification where
  name := "struct DatasetSpecification"
  fields := [
    .make "name" .required .string fun v s => { s with name := v },
    .make "type" .required .string fun v s => { s with typeName := v },
    .make "properties" .defaulted (.stringMap .string) fun v s => { s with properties := v },
    .make "datasets" .defaulted (.stringMap inner) fun v s => { s with datasets := v }]
  blank := ofType "" ""

/-- Reads a specification with at most `levels` levels of embedding below it. -/
def readerUpTo : (levels : Nat) → Json.Reader Specification
  | 0 => (record fun _ _ => Json.Reader.fail .tooDeep).reader
  | levels + 1 => (record (readerUpTo levels)).reader

/-- Reads a specification. There are never more levels of embedding than containers may nest. -/
def reader : Json.Reader Specification := fun s d => readerUpTo s.depth s d

/-- The one-line description of a specification in messages, with all its fields. -/
def describeMap (entries : List (String × String)) : String :=
  "\x7b" ++ ", ".intercalate (entries.map fun e => Quoted.quote e.1 ++ ": " ++ e.2) ++ "\x7d"

mutual

/-- The specification in a message about an answer that should not be there. -/
def describe : Specification → String
  | ⟨n, t, ps, ds⟩ =>
    "DatasetSpecification \x7b name: " ++ Quoted.quote n ++ ", type_name: " ++ Quoted.quote t ++
      ", properties: " ++ describeMap (ps.map fun e => (e.1, Quoted.quote e.2)) ++
      ", datasets: " ++ describeMap (describeEmbedded ds) ++ " \x7d"

/-- The descriptions of embedded specifications. -/
def describeEmbedded : List (String × Specification) → List (String × String)
  | [] => []
  | (k, s) :: rest => (k, describe s) :: describeEmbedded rest

end

end Specification

end DatasetCatalog
