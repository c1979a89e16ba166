import DatasetCatalog.Json.Reader
import DatasetCatalog.Json.Render

/-!
# Dataset types

What the catalog knows about a dataset type is the list of modules that provide it, in loading
order: a module comes after every module it uses, so the last one is the type's own. Two types come
with every deployment; `builtinTypes` describes them.
-/

namespace DatasetCatalog

/-- A module that contributes to a dataset type. -/
structure ModuleMeta where
  name : String
  /-- The implementing class or symbol. -/
  className : String
  /-- Where the code of the module lies, if it is not built in. -/
  artifactLocation : Option String := none
  /-- The modules that have to be loaded before. -/
  usesModules : List String := []
  deriving DecidableEq, Repr

/-- A dataset type: its name and its modules in loading order. -/
structure TypeMeta where
  name : String
  modules : List ModuleMeta
  deriving DecidableEq, Repr

namespace ModuleMeta

/-- The module as JSON. -/
def toJson (m : ModuleMeta) : Json.Value :=
  .object ([("name", .string m.name), ("className", .string m.className)] ++
    Json.Value.optionalMember "artifactLocation" m.artifactLocation ++
    [("usesModules", .ofStrings m.usesModules)])

/-- The fields of a module. -/
def record : Json.Record ModuleMeta where
  name := "struct DatasetModuleMeta"
  fields := [
    .make "name" .required .string fun v m => { m with name := v },
    .make "className" .required .string fun v m => { m with className := v },
    .make "artifactLocation" .defaulted (.optional .string)
      fun v m => { m with artifactLocation := v },
    .make "usesModules" .defaulted (.list .string) fun v m => { m with usesModules := v }]
  blank := ⟨"", "", none, []⟩

end ModuleMeta

namespace TypeMeta

/-- The module that provides the type itself. -/
def implementingModule? (t : TypeMeta) : Option ModuleMeta := t.modules.getLast?

/-- The type as JSON. -/
def toJson (t : TypeMeta) : Json.Value :=
  .object [("name", .string t.name), ("modules", .array (t.modules.map ModuleMeta.toJson))]

/-- The fields of a type. -/
def record : Json.Record TypeMeta where
  name := "struct DatasetTypeMeta"
  fields := [
    .make "name" .required .string fun v t => { t with name := v },
    .make "modules" .required (.list ModuleMeta.record.reader) fun v t => { t with modules := v }]
  blank := ⟨"", []⟩

end TypeMeta

/-- The name of the built-in table type. -/
def tableType : String := "table"

/-- The name of the built-in key/value table type. -/
def keyValueTableType : String := "keyValueTable"

/-- The module of the built-in table type. -/
def tableModule : ModuleMeta := ⟨"core.table", "datafabric::executor::TableDefinition", none, []⟩

/-- The module of the built-in key/value table type. -/
def keyValueTableModule : ModuleMeta :=
  ⟨"core.keyValueTable", "datafabric::executor::KeyValueTableDefinition", none, ["core.table"]⟩

/-- The types that every deployment has. -/
def builtinTypes : List TypeMeta :=
  [⟨tableType, [tableModule]⟩, ⟨keyValueTableType, [tableModule, keyValueTableModule]⟩]

end DatasetCatalog
