import DatasetCatalog.Disk.Operations
import DatasetCatalog.Specification
import DatasetCatalog.TypeMeta

/-!
# Registries

The registry of instances maps names to specifications. Adding is exclusive: of several adds of one
name the first wins, which is what decides between coordinators that share a registry. The registry
of types maps the names of types to their modules; instances are not checked against it.

This module has the errors of both, and the registry of types.
-/

namespace DatasetCatalog

inductive RegistryError
  | alreadyExists (name : String)
  | storage (reason : String)
  /-- An entry is no specification. -/
  | unreadable (e : Json.Error)
  deriving DecidableEq, Repr

/-- The error in words. -/
def RegistryError.message : RegistryError → String
  | alreadyExists name => "Dataset instance '" ++ name ++ "' already exists"
  | storage reason => "Registry storage error: " ++ reason
  | unreadable e => "Failed to (de)serialize registry entry: " ++ e.fault.message

/-- The registered types by their names. -/
abbrev TypeRegistry := StringMap TypeMeta

namespace TypeRegistry

/-- Registers a type, replacing an earlier one of its name. -/
def register (ts : TypeRegistry) (t : TypeMeta) : TypeRegistry := StringMap.insert t.name t ts

/-- Takes a type out. Instances of it stay as they are. -/
def unregister (ts : TypeRegistry) (name : String) : TypeRegistry := StringMap.erase name ts

/-- The type of a name. -/
def find? (ts : TypeRegistry) (name : String) : Option TypeMeta := StringMap.find? name ts

/-- The registry of the built-in types. -/
def builtin : TypeRegistry := builtinTypes.foldl register StringMap.empty

end TypeRegistry

end DatasetCatalog
