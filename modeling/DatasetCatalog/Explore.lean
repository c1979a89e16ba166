import DatasetCatalog.InstanceName
import DatasetCatalog.StringMap

/-!
# The query engine

Instances are exposed to a query engine as tables. A `Gateway` is the set of exposed tables,
together with switches that let its operations fail, for rehearsals. A deployment without a query
engine has a disabled gateway: exposing does nothing, and there are no tables.
-/

namespace DatasetCatalog

inductive ExploreError
  | refused (operation target reason : String)
  | listing (reason : String)
  deriving DecidableEq, Repr

/-- The error in words. -/
def ExploreError.message : ExploreError → String
  | refused operation target reason =>
    "Failed to " ++ operation ++ " exploration of dataset '" ++ target ++ "': " ++ reason
  | listing reason => "Failed to list explorable tables: " ++ reason

/-- The exposed tables, in order. -/
structure Gateway where
  tables : StringMap Unit := []
  enabled : Bool := true
  failExpose : Bool := false
  failWithdraw : Bool := false
  failListing : Bool := false
  deriving DecidableEq, Repr

namespace Gateway

/-- The gateway of a deployment without a query engine. -/
def disabled : Gateway := { enabled := false }

/-- The reason of a failure that a switch causes. -/
def injected : String := "injected failure"

/-- Exposes an instance. -/
def expose (g : Gateway) (name : String) : Except ExploreError Unit × Gateway :=
  if g.failExpose then (.error (.refused "enable" name injected), g)
  else if g.enabled then
    (.ok (), { g with tables := StringMap.insert (InstanceName.table name) () g.tables })
  else (.ok (), g)

/-- Takes an instance from the query engine. -/
def withdraw (g : Gateway) (name : String) : Except ExploreError Unit × Gateway :=
  if g.failWithdraw then (.error (.refused "disable" name injected), g)
  else (.ok (), { g with tables := StringMap.erase (InstanceName.table name) g.tables })

/-- The names of all tables. -/
def tableNames (g : Gateway) : Except ExploreError (List String) :=
  if g.failListing then .error (.listing injected) else .ok (StringMap.keys g.tables)

/-- Adds a table, as another system could. -/
def insertTable (g : Gateway) (table : String) : Gateway :=
  { g with tables := StringMap.insert table () g.tables }

/-- Whether an instance is exposed. -/
def isExposed (g : Gateway) (name : String) : Bool :=
  StringMap.contains (InstanceName.table name) g.tables

end Gateway

end DatasetCatalog
