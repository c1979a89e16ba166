import DatasetCatalog.Specification
import DatasetCatalog.TypeMeta

/-!
# Requests and answers

The records that clients of the catalog send and receive, each with its JSON form in both
directions: what a create asks for, what is known about an instance, an entry of a listing, the
answer of an admin operation, the report of a reset, and the body of an error.
-/

namespace DatasetCatalog

/-- What a create asks for. -/
structure InstanceConfiguration where
  typeName : String
  properties : Properties := []
  /-- The principal to record as the owner. -/
  ownerPrincipal : Option String := none
  deriving DecidableEq, Repr

namespace InstanceConfiguration

def toJson (c : InstanceConfiguration) : Json.Value :=
  .object ([("typeName", .string c.typeName), ("properties", .ofStringMap c.properties)] ++
    Json.Value.optionalMember "ownerPrincipal" c.ownerPrincipal)

def record : Json.Record InstanceConfiguration where
  name := "struct DatasetInstanceConfiguration"
  fields := [
    .make "typeName" .required .string fun v c => { c with typeName := v },
    .make "properties" .defaulted (.stringMap .string) fun v c => { c with properties := v },
    .make "ownerPrincipal" .defaulted (.optional .string)
      fun v c => { c with ownerPrincipal := v }]
  blank := ⟨"", [], none⟩

end InstanceConfiguration

/-- A specification with what else the catalog knows about the instance. -/
structure InstanceMeta where
  spec : Specification
  /-- There is none if the type is not registered any more. -/
  typeMeta : Option TypeMeta := none
  /-- The table of the query engine, given where the instance is known to be explorable. -/
  exploreTableName : Option String := none
  ownerPrincipal : Option String := none

namespace InstanceMeta

def toJson (m : InstanceMeta) : Json.Value :=
  .object ([("spec", m.spec.toJson), ("type", m.typeMeta.elim .null TypeMeta.toJson)] ++
    Json.Value.optionalMember "exploreTableName" m.exploreTableName ++
    Json.Value.optionalMember "ownerPrincipal" m.ownerPrincipal)

def record : Json.Record InstanceMeta where
  name := "struct DatasetMeta"
  fields := [
    .make "spec" .required Specification.reader fun v m => { m with spec := v },
    .make "type" .nullable (.optional TypeMeta.record.reader) fun v m => { m with typeMeta := v },
    .make "exploreTableName" .defaulted (.optional .string)
      fun v m => { m with exploreTableName := v },
    .make "ownerPrincipal" .defaulted (.optional .string)
      fun v m => { m with ownerPrincipal := v }]
  blank := { spec := default }

end InstanceMeta

/-- An entry of a listing. -/
inductive Listing
  | withMeta (m : InstanceMeta)
  | bare (spec : Specification)

namespace Listing

/-- The specification of the listed instance. -/
def spec : Listing → Specification
  | withMeta m => m.spec
  | bare s => s

/-- The name of the listed instance. -/
def name (l : Listing) : String := l.spec.name

def toJson : Listing → Json.Value
  | withMeta m => m.toJson
  | bare s => s.toJson

/-- Reads an entry; nothing names its shape, so the larger one is tried first. -/
def reader : Json.Reader Listing :=
  .either "DatasetListing" (.map withMeta InstanceMeta.record.reader) (.map bare Specification.reader)

end Listing

/-- The answer of an admin operation. -/
structure AdminResponse where
  result : Json.Value
  message : Option String := none

namespace AdminResponse

/-- The answer of an operation that has nothing to say. -/
def empty : AdminResponse := ⟨.null, none⟩

def toJson (r : AdminResponse) : Json.Value :=
  .object ([("result", r.result)] ++ Json.Value.optionalMember "message" r.message)

def record : Json.Record AdminResponse where
  name := "struct DatasetAdminOpResponse"
  fields := [
    .make "result" .required .value fun v r => { r with result := v },
    .make "message" .defaulted (.optional .string) fun v r => { r with message := v }]
  blank := .empty

end AdminResponse

/-- The report of an unrecoverable reset. -/
structure DropReport where
  /-- The instances that this reset dropped. -/
  dropped : List String
  /-- The instances that another caller dropped meanwhile. -/
  skipped : List String
  deriving DecidableEq, Repr

namespace DropReport

def toJson (r : DropReport) : Json.Value :=
  .object [("dropped", .ofStrings r.dropped), ("skipped", .ofStrings r.skipped)]

def record : Json.Record DropReport where
  name := "struct BulkDropReport"
  fields := [
    .make "dropped" .required (.list .string) fun v r => { r with dropped := v },
    .make "skipped" .required (.list .string) fun v r => { r with skipped := v }]
  blank := ⟨[], []⟩

end DropReport

/-- The body of an error answer: a stable code and the words for people. -/
structure ErrorBody where
  code : String
  message : String
  deriving DecidableEq, Repr

namespace ErrorBody

def toJson (e : ErrorBody) : Json.Value :=
  .object [("error", .object [("error_code", .string e.code), ("message", .string e.message)])]

/-- The fields of the inner object. -/
def detail : Json.Record ErrorBody where
  name := "struct ErrorDetail"
  fields := [
    .make "error_code" .required .string fun v e => { e with code := v },
    .make "message" .required .string fun v e => { e with message := v }]
  blank := ⟨"", ""⟩

def record : Json.Record ErrorBody where
  name := "struct ErrorResponse"
  fields := [.make "error" .required detail.reader fun v _ => v]
  blank := ⟨"", ""⟩

end ErrorBody

end DatasetCatalog
