import DatasetCatalog.Entity
import DatasetCatalog.Principal

/-!
# The audit trail

Changes of owner records, the outcome of every change of the catalog, and failures that leave the
stores out of step are recorded as events. `Event` has one constructor per kind; the name, the
severity, the sentence and the fields of an event follow from it.
-/

namespace DatasetCatalog.Audit

/-- How grave an event is. -/
inductive Severity
  | info
  | warning
  | error
  deriving DecidableEq, Repr

/-- The severity in words. -/
def Severity.text : Severity → String
  | info => "INFO"
  | warning => "WARN"
  | error => "ERROR"

/-- Something that is worth recording. -/
inductive Event
  | ownerAdded (entity : EntityId) (principal : Principal)
  /-- An owner record was not written, for bad input or because there is one. -/
  | ownerRejected (entity : EntityId) (reason : String)
  | ownerDeleted (entity : EntityId)
  /-- An instance was created and is in the catalog. -/
  | created (name typeName : String) (owner : Option Principal)
  /-- The storage of an instance could not be created. -/
  | createFailed (name typeName reason : String)
  /-- An instance left the catalog and its storage was removed. -/
  | dropped (name typeName : String)
  /-- An instance left the catalog and its storage could not be removed. -/
  | dropFailed (name typeName reason : String)
  /-- Storage that no instance in the catalog has was removed before a create. -/
  | orphanReclaimed (name typeName : String)
  | adminFailed (name operation reason : String)
  /-- The query engine could not be told about an instance; the catalog went on without it. -/
  | exploreFailed (name operation reason : String)
  /-- All instances were dropped, or as many as could be. -/
  | reset (done missed : Nat)
  /-- A reset was asked for while it is disabled. -/
  | resetDenied
  deriving DecidableEq, Repr

namespace Event

/-- The name of the kind of event. -/
def kind : Event → String
  | ownerAdded .. => "owner.added"
  | ownerRejected .. => "owner.add_rejected"
  | ownerDeleted _ => "owner.deleted"
  | created .. => "dataset.created"
  | createFailed .. => "dataset.create_failed"
  | dropped .. => "dataset.dropped"
  | dropFailed .. => "dataset.drop_failed"
  | orphanReclaimed .. => "dataset.orphan_reclaimed"
  | adminFailed .. => "dataset.admin_failed"
  | exploreFailed .. => "explore.failure"
  | reset .. => "unrecoverable.reset"
  | resetDenied => "unrecoverable.reset_denied"

/-- How grave an event is. -/
def severity : Event → Severity
  | created .. | dropped .. => .info
  | createFailed .. | dropFailed .. | adminFailed .. | exploreFailed .. => .error
  | _ => .warning

/-- The event in a sentence. -/
def sentence : Event → String
  | ownerAdded .. => "Owner recorded"
  | ownerRejected .. => "Owner record rejected"
  | ownerDeleted _ => "Owner record deleted"
  | created .. => "Dataset instance created"
  | createFailed .. => "Dataset create failed in the op executor"
  | dropped .. => "Dataset instance dropped"
  | dropFailed .. => "Dataset drop failed in the op executor after catalog removal"
  | orphanReclaimed .. => "Dropped storage that had no catalog entry"
  | adminFailed .. => "Dataset admin operation failed in the op executor"
  | exploreFailed .. => "Explore operation failed; continuing without it"
  | reset .. => "Unrecoverable reset of all dataset instances executed"
  | resetDenied => "Unrecoverable reset requested while disabled"

/-- What is shown for an instance without owner. -/
def noOwner : String := "<none>"

/-- The fields that tell events of one kind apart. -/
def fields : Event → List (String × Json.Value)
  | ownerAdded entity principal =>
    [("entity", .string entity.text), ("principal", .string principal.text)]
  | ownerRejected entity reason => [("entity", .string entity.text), ("reason", .string reason)]
  | ownerDeleted entity => [("entity", .string entity.text)]
  | created name typeName owner =>
    [("instance", .string name), ("type_name", .string typeName),
      ("owner", .string (owner.elim noOwner Principal.text))]
  | createFailed name typeName reason =>
    [("instance", .string name), ("type_name", .string typeName), ("error", .string reason)]
  | dropped name typeName => [("instance", .string name), ("type_name", .string typeName)]
  | dropFailed name typeName reason =>
    [("instance", .string name), ("type_name", .string typeName), ("error", .string reason),
      ("orphaned", .bool true)]
  | orphanReclaimed name typeName => [("instance", .string name), ("type_name", .string typeName)]
  | adminFailed name operation reason =>
    [("instance", .string name), ("operation", .string operation), ("error", .string reason)]
  | exploreFailed name operation reason =>
    [("instance", .string name), ("operation", .string operation), ("error", .string reason)]
  | reset done missed =>
    [("dropped", .number (.natural done)), ("failed", .number (.natural missed))]
  | resetDenied => []

/-- The whole record of an event. -/
def toJson (e : Event) : Json.Value :=
  .object ([("level", .string e.severity.text), ("event_type", .string e.kind)] ++ e.fields ++
    [("message", .string e.sentence)])

end Event

end DatasetCatalog.Audit
