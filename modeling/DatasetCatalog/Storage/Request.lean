import DatasetCatalog.Specification
import DatasetCatalog.Storage.Error
import DatasetCatalog.TypeMeta

/-!
# Storage requests

Five operations act on the storage of one instance. A `Request` says which one and on what; its
answer has the type `Request.Answer`, so a create can only be answered with a specification and a
look-up only with a flag.

A request has a JSON form, in which a member `op` names the operation, because the operation may
run in another process. `Request.toJson` and `Request.reader` are the two directions.
-/

namespace DatasetCatalog.Storage

/-- What is to be created: a name, the type and the wanted properties. -/
structure Creation where
  name : String
  typeMeta : TypeMeta
  properties : Properties := []
  deriving DecidableEq, Repr

/-- What is to be removed, with its type as far as that is known. -/
structure Removal where
  spec : Specification
  typeMeta : TypeMeta

/-- A storage operation and what it works on. -/
inductive Request
  | create (c : Creation)
  | drop (r : Removal)
  /-- Removes all data and keeps the instance. -/
  | truncate (name : String)
  /-- Applies the code of the type again to what is stored. -/
  | upgrade (name : String)
  /-- Asks whether there is storage. -/
  | probe (name : String)

namespace Request

/-- What a request is answered with. -/
def Answer : Request → Type
  | create _ => Specification
  | probe _ => Bool
  | _ => Unit

/-- The name of the operation. -/
def operation : Request → String
  | create _ => "create"
  | drop _ => "drop"
  | truncate _ => "truncate"
  | upgrade _ => "upgrade"
  | probe _ => "exists"

/-- The name of the instance. -/
def target : Request → String
  | create c => c.name
  | drop r => r.spec.name
  | truncate name | upgrade name | probe name => name

/-- The members of a request beside the one that names the operation. -/
def members : Request → List (String × Json.Value)
  | create c => [("name", .string c.name), ("typeMeta", c.typeMeta.toJson),
      ("properties", .ofStringMap c.properties)]
  | drop r => [("spec", r.spec.toJson), ("typeMeta", r.typeMeta.toJson)]
  | truncate name | upgrade name | probe name => [("name", .string name)]

/-- The request as JSON. -/
def toJson (r : Request) : Json.Value := .object (("op", .string r.operation) :: r.members)

/-- The fields of a create. -/
def creation : Json.Record Creation where
  name := "struct variant OpRequest::Create"
  fields := [
    .make "name" .required .string fun v c => { c with name := v },
    .make "typeMeta" .required TypeMeta.record.reader fun v c => { c with typeMeta := v },
    .make "properties" .defaulted (.stringMap .string) fun v c => { c with properties := v }]
  blank := ⟨"", ⟨"", []⟩, []⟩

/-- The fields of a drop. -/
def removal : Json.Record Removal where
  name := "struct variant OpRequest::Drop"
  fields := [
    .make "spec" .required Specification.reader fun v r => { r with spec := v },
    .make "typeMeta" .required TypeMeta.record.reader fun v r => { r with typeMeta := v }]
  blank := ⟨default, ⟨"", []⟩⟩

/-- The only field of the other operations. -/
def named (variant : String) : Json.Record String where
  name := "struct variant OpRequest::" ++ variant
  fields := [.make "name" .required .string fun v _ => v]
  blank := ""

/-- Reads a request. -/
def reader : Json.Reader Request :=
  Json.Tagged.reader {
    name := "internally tagged enum OpRequest"
    tag := "op"
    variants := [
      ("create", .map create creation.reader),
      ("drop", .map drop removal.reader),
      ("truncate", .map truncate (named "Truncate").reader),
      ("upgrade", .map upgrade (named "Upgrade").reader),
      ("exists", .map probe (named "Exists").reader)] }

end Request

/-- What came of a request. -/
abbrev Result (r : Request) := Except StorageError r.Answer

end DatasetCatalog.Storage
