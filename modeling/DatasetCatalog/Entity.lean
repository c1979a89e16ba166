import DatasetCatalog.Json.Reader
import DatasetCatalog.Json.Render

/-!
# Entities that can have an owner

An entity is named by its kind, its namespace and its own name. Datasets are one of four kinds.
-/

namespace DatasetCatalog

/-- The kind of an entity. -/
inductive EntityType
  | dataset
  | stream
  | topic
  | application
  deriving DecidableEq, Repr

namespace EntityType

/-- The kinds by their names. -/
def named : List (String × EntityType) :=
  [("dataset", .dataset), ("stream", .stream), ("topic", .topic), ("application", .application)]

/-- The name of a kind. -/
def text : EntityType → String
  | dataset => "dataset"
  | stream => "stream"
  | topic => "topic"
  | application => "application"

def toJson (t : EntityType) : Json.Value := .string t.text

def reader : Json.Reader EntityType := .name named

end EntityType

/-- The namespace that entities belong to unless another one is configured. -/
def defaultNamespace : String := "default"

/-- An entity: its kind, its namespace and its name. -/
structure EntityId where
  entityType : EntityType
  «namespace» : String
  name : String
  deriving DecidableEq, Repr

namespace EntityId

/-- The dataset of a name. -/
def dataset (ns name : String) : EntityId := ⟨.dataset, ns, name⟩

/-- The entity in messages and in the audit trail. -/
def text (e : EntityId) : String := e.entityType.text ++ ":" ++ e.namespace ++ "." ++ e.name

def toJson (e : EntityId) : Json.Value :=
  .object [("entity_type", e.entityType.toJson), ("namespace", .string e.namespace),
    ("name", .string e.name)]

/-- The fields of an entity. -/
def record : Json.Record EntityId where
  name := "struct EntityId"
  fields := [
    .make "entity_type" .required EntityType.reader fun v e => { e with entityType := v },
    .make "namespace" .required .string fun v e => { e with «namespace» := v },
    .make "name" .required .string fun v e => { e with name := v }]
  blank := ⟨.dataset, "", ""⟩

end EntityId

end DatasetCatalog
