import DatasetCatalog.Duration
import DatasetCatalog.Entity

/-!
# Settings of the catalog service

What an operator decides about the catalog service itself: the namespace that owner records are
filed under, whether all instances may be dropped at once, and how long a storage operation may
take.
-/

namespace DatasetCatalog

structure Settings where
  «namespace» : String := defaultNamespace
  unrecoverableReset : Bool := false
  operationLimit : Duration := .ofSeconds 300
  deriving DecidableEq, Repr

/-- The entity that stands for an instance in the owner store. -/
def Settings.entity (s : Settings) (name : String) : EntityId := .dataset s.namespace name

end DatasetCatalog
