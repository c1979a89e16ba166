import DatasetCatalog.Text.Decimal
import DatasetCatalog.StringMap

/-!
# Metrics

What the catalog does is counted: instances created and dropped by their type, storage operations
and their failures by the operation, and failures of the query engine. A `Reading` is one thing to
be counted; the sum of the readings of one series is its value.
-/

namespace DatasetCatalog

/-- One thing to be counted. -/
inductive Reading
  | created (typeName : String)
  | dropped (typeName : String)
  | storageFailed (operation : String)
  /-- A storage operation took some time, which is recorded whatever came of it. -/
  | storageTimed (operation : String)
  | exploreFailed (operation : String)
  deriving DecidableEq, Repr

namespace Reading

/-- The name of the metric. -/
def metric : Reading → String
  | created _ => "datafabric_datasets_created_total"
  | dropped _ => "datafabric_datasets_dropped_total"
  | storageFailed _ => "datafabric_op_executor_failures_total"
  | storageTimed _ => "datafabric_op_executor_duration_seconds"
  | exploreFailed _ => "datafabric_explore_failures_total"

/-- The label that tells the series of one metric apart. -/
def label : Reading → String × String
  | created typeName | dropped typeName => ("type", typeName)
  | storageFailed operation | storageTimed operation | exploreFailed operation =>
    ("operation", operation)

/-- The name of the series. -/
def series (r : Reading) : String :=
  r.metric ++ "\x7b" ++ r.label.1 ++ "=" ++ r.label.2 ++ "\x7d"

end Reading

/-- The readings so far, the last one first, and whether the metrics have descriptions. -/
structure Metrics where
  readings : List Reading := []
  described : Bool := false
  deriving DecidableEq, Repr

namespace Metrics

/-- Counts one thing more. -/
def count (m : Metrics) (r : Reading) : Metrics := { m with readings := r :: m.readings }

/-- Gives the metrics their descriptions. -/
def describe (m : Metrics) : Metrics := { m with described := true }

/-- The value of a series. -/
def valueOf (m : Metrics) (series : String) : Nat :=
  (m.readings.filter fun r => r.series == series).length

/-- The value of every series that was counted, in the order of their names. -/
def values (m : Metrics) : StringMap Nat :=
  StringMap.ofList (m.readings.map fun r => (r.series, m.valueOf r.series))

/-- What the metrics mean. -/
def descriptions (m : Metrics) : List (String × String) :=
  if m.described then
    [((Reading.created "").metric, "counter: Total dataset instances created"),
      ((Reading.dropped "").metric, "counter: Total dataset instances dropped"),
      ((Reading.storageFailed "").metric, "counter: Total failed op executor calls"),
      ((Reading.storageTimed "").metric, "histogram: Duration of op executor calls in seconds"),
      ((Reading.exploreFailed "").metric, "counter: Total explore gateway failures")]
  else []

end Metrics

end DatasetCatalog
