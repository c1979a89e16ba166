import DatasetCatalog.Explore
import DatasetCatalog.Owner.Basic
import DatasetCatalog.Registry.Basic
import DatasetCatalog.Storage.Error

/-!
# Errors of the catalog

A `CatalogError` names what went wrong with which instance, type or operation. Clients tell errors
apart by a code that never changes; `CatalogError.kind` puts them into groups.
-/

namespace DatasetCatalog

/-- A group of errors. -/
inductive ErrorKind
  /-- The request makes no sense; nothing was changed. -/
  | validation
  /-- The request clashes with what there is. -/
  | conflict
  /-- What the request names does not exist, or not any more. -/
  | notFound
  /-- The operation is disabled. -/
  | forbidden
  /-- The storage operation failed. -/
  | isolationExecution
  /-- The query engine failed where its answer was needed. -/
  | bestEffort
  /-- Only a part of many was done. -/
  | partialFailure
  /-- A store of the catalog failed. -/
  | internal
  deriving DecidableEq, Repr

inductive CatalogError
  | invalidName (name reason : String)
  | invalidOwner (name : String) (source : OwnerError)
  | instanceExists (name : String)
  | ownerExists (name : String)
  | instanceNotFound (name : String)
  /-- Another caller removed the instance between the look-up and the removal. -/
  | concurrentlyDropped (name : String)
  | typeNotFound (name typeName : String)
  | unknownOperation (name operation : String)
  /-- The operation changes the catalog and has a way of its own. -/
  | disallowedOperation (name operation : String)
  | execution (operation name : String) (source : StorageError)
  | exploreListing (source : ExploreError)
  | forbidden (operation : String)
  | partialFailure (dropped : Nat) (failed : List String)
  | registry (source : RegistryError)
  | ownerStore (source : OwnerError)
  deriving DecidableEq, Repr

namespace CatalogError

/-- The group of an error. -/
def kind : CatalogError → ErrorKind
  | invalidName .. | invalidOwner .. => .validation
  | instanceExists _ | ownerExists _ => .conflict
  | instanceNotFound _ | concurrentlyDropped _ | typeNotFound .. | unknownOperation ..
  | disallowedOperation .. => .notFound
  | forbidden _ => .forbidden
  | execution .. => .isolationExecution
  | exploreListing _ => .bestEffort
  | partialFailure .. => .partialFailure
  | registry _ | ownerStore _ => .internal

/-- The code of an error. -/
def code : CatalogError → String
  | invalidName .. => "INVALID_NAME"
  | invalidOwner .. => "INVALID_OWNER"
  | instanceExists _ => "INSTANCE_EXISTS"
  | ownerExists _ => "OWNER_EXISTS"
  | instanceNotFound _ => "INSTANCE_NOT_FOUND"
  | concurrentlyDropped _ => "CONCURRENTLY_DROPPED"
  | typeNotFound .. => "TYPE_NOT_FOUND"
  | unknownOperation .. => "UNKNOWN_OPERATION"
  | disallowedOperation .. => "OPERATION_NOT_ALLOWED"
  | execution .. => "EXECUTION_FAILED"
  | exploreListing _ => "EXPLORE_UNAVAILABLE"
  | forbidden _ => "FORBIDDEN"
  | partialFailure .. => "PARTIAL_FAILURE"
  | registry _ | ownerStore _ => "INTERNAL"

/-- The error in words. -/
def message : CatalogError → String
  | invalidName name reason =>
    "Invalid dataset instance name '" ++ name ++ "': " ++ reason
  | invalidOwner name source =>
    "Invalid owner for dataset instance '" ++ name ++ "': " ++ source.message
  | instanceExists name => "Dataset instance '" ++ name ++ "' already exists"
  | ownerExists name =>
    "Owner information already exists for dataset instance '" ++ name ++ "'"
  | instanceNotFound name => "Dataset instance '" ++ name ++ "' does not exist"
  | concurrentlyDropped name => "Dataset instance '" ++ name ++ "' was dropped concurrently"
  | typeNotFound name typeName =>
    "Dataset type '" ++ typeName ++ "' of instance '" ++ name ++ "' was not found"
  | unknownOperation name operation =>
    "Unknown admin operation '" ++ operation ++ "' for dataset instance '" ++ name ++ "'"
  | disallowedOperation name operation =>
    "Admin operation '" ++ operation ++ "' is not available for dataset instance '" ++ name ++
      "'; use the dataset " ++ operation ++ " endpoint instead"
  | execution operation name source =>
    "Failed to " ++ operation ++ " dataset instance '" ++ name ++ "': " ++ source.message
  | exploreListing source => source.message
  | forbidden operation => "Operation '" ++ operation ++ "' is disabled"
  | partialFailure dropped failed =>
    "Dropped " ++ Decimal.text dropped ++ " dataset instance(s) but failed to drop " ++
      Decimal.text failed.length ++ ": " ++ ", ".intercalate failed
  | registry source => source.message
  | ownerStore source => source.message

end CatalogError

end DatasetCatalog
