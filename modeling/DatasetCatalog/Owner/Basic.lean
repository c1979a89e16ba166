import DatasetCatalog.Audit
import DatasetCatalog.Disk.Operations

/-!
# Owner records

A dataset or stream can have one owner, the principal that its operations run as. A record is
written once: it can be removed, but not replaced. Entries are checked before a store is touched,
the kind of entity first.

Whoever writes or removes a record leaves an event behind. The events follow from what was asked
and what came of it: `addEvents` and `deleteEvents` say which.
-/

namespace DatasetCatalog

inductive OwnerError
  | unsupported (entity : EntityId)
  | invalidPrincipal (e : PrincipalError)
  | alreadyExists (entity : EntityId)
  | storage (reason : String)
  deriving DecidableEq, Repr

namespace OwnerError

/-- The error in words. -/
def message : OwnerError → String
  | unsupported entity =>
    "Owner information is not supported for " ++ entity.entityType.text ++ " entities: " ++
      entity.text
  | invalidPrincipal e => "Invalid owner principal: " ++ e.message
  | alreadyExists entity => "Owner information already exists for " ++ entity.text
  | storage reason => "Owner store error: " ++ reason

/-- Whether the entry was refused before a store was touched. -/
def isInvalidArgument : OwnerError → Bool
  | unsupported _ | invalidPrincipal _ => true
  | _ => false

end OwnerError

namespace Owner

/-- Whether entities of a kind can have an owner. -/
def isSupported : EntityType → Bool
  | .dataset | .stream => true
  | .topic | .application => false

/-- Checks an entry. -/
def validate (entity : EntityId) (principal : Principal) : Except OwnerError Unit :=
  if isSupported entity.entityType then principal.validate.mapError .invalidPrincipal
  else .error (.unsupported entity)

/-- The events of adding a record. -/
def addEvents (entity : EntityId) (principal : Principal) :
    Except OwnerError Unit → List Audit.Event
  | .ok () => [.ownerAdded entity principal]
  | .error (.alreadyExists _) => [.ownerRejected entity "owner already recorded"]
  | .error (.storage _) => []
  | .error e => [.ownerRejected entity e.message]

/-- The events of removing a record, where there may have been one. -/
def deleteEvents (entity : EntityId) : Except OwnerError Bool → List Audit.Event
  | .ok true => [.ownerDeleted entity]
  | _ => []

end Owner

end DatasetCatalog
