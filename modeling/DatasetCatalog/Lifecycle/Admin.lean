import DatasetCatalog.Lifecycle.Step
import DatasetCatalog.Payload

/-!
# Admin operations

Three operations go straight to the storage of an instance; the catalog is not asked. Creates and
drops are not among them, because the catalog has to take part in those.
-/

namespace DatasetCatalog

inductive AdminOperation
  /-- Asks whether there is storage. -/
  | probe
  | truncate
  | upgrade
  deriving DecidableEq, Repr

namespace AdminOperation

/-- The name of an operation. -/
def text : AdminOperation → String
  | probe => "exists"
  | truncate => "truncate"
  | upgrade => "upgrade"

/-- The operation of a name. -/
def ofName? : String → Option AdminOperation
  | "exists" => some probe
  | "truncate" => some truncate
  | "upgrade" => some upgrade
  | _ => none

end AdminOperation

namespace Lifecycle

/-- The operation that a client asks for, if it can be had. -/
def adminOperation (name method : String) : Except CatalogError AdminOperation :=
  match AdminOperation.ofName? method with
  | some operation => .ok operation
  | none =>
    if method = "create" ∨ method = "drop" then .error (.disallowedOperation name method)
    else .error (.unknownOperation name method)

/-- Carries an operation out. The answer is what the client gets to see. -/
def performAdmin (settings : Settings) (name : String) :
    AdminOperation → Program (Except StorageError Json.Value)
  | .probe => do return (← perform settings (.probe name)).map .bool
  | .truncate => do return (← perform settings (.truncate name)).map fun _ => .null
  | .upgrade => do return (← perform settings (.upgrade name)).map fun _ => .null

/-- Runs an admin operation on an instance. -/
def admin (settings : Settings) (name method : String) : Step AdminResponse := do
  let operation ← ExceptT.mk (pure (adminOperation name method))
  if InstanceName.isValid name then
    match ← always (performAdmin settings name operation) with
    | .ok value => return ⟨value, none⟩
    | .error (.notFound missing) => throw (.instanceNotFound missing)
    | .error e =>
      always (record (.adminFailed name operation.text e.message))
      throw (.execution operation.text name e)
  else throw (.invalidName name "not a dataset instance name")

end Lifecycle

end DatasetCatalog
