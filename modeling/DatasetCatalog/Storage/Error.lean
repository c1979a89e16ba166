import DatasetCatalog.Duration
import DatasetCatalog.Disk.Basic

/-!
# Failures of storage

A storage operation runs code that the catalog does not trust, possibly in another process and
always under a time limit. `StorageError` names what can come back instead of an answer. Two causes
say something about the instance, `notFound` and `alreadyExists`; they keep their meaning across
every boundary, while all others are failures of the operation itself.
-/

namespace DatasetCatalog

inductive StorageError
  /-- The code of the type reported a failure. -/
  | execution (operation target reason : String)
  /-- The operation did not end within its limit. -/
  | timeout (operation target : String) (limit : Duration)
  /-- The code of the type broke down. -/
  | panicked (operation target reason : String)
  /-- A worker did not answer as it must. -/
  | protocol (reason : String)
  | unknownType (typeName : String)
  | notFound (name : String)
  | alreadyExists (name : String)
  /-- The system refused a file operation or a process. -/
  | system (reason : String)
  deriving DecidableEq, Repr

namespace StorageError

/-- A failed file operation. -/
def ofFile (e : FileError) : StorageError := system e.message

/-- The error in words. -/
def message : StorageError → String
  | execution operation target reason =>
    operation ++ " of dataset '" ++ target ++ "' failed: " ++ reason
  | timeout operation target limit =>
    operation ++ " of dataset '" ++ target ++ "' timed out after " ++ limit.text
  | panicked operation target reason =>
    operation ++ " of dataset '" ++ target ++ "' panicked: " ++ reason
  | protocol reason => "Op worker protocol error: " ++ reason
  | unknownType typeName => "No definition is available for dataset type '" ++ typeName ++ "'"
  | notFound name => "Dataset '" ++ name ++ "' does not exist in storage"
  | alreadyExists name => "Dataset '" ++ name ++ "' already exists in storage"
  | system reason => "Op executor I/O error: " ++ reason

end StorageError

end DatasetCatalog
