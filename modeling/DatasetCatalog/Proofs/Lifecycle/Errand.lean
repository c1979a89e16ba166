import DatasetCatalog.Lifecycle.Admin
import DatasetCatalog.Lifecycle.Drop
import DatasetCatalog.Lifecycle.Inquiry
import DatasetCatalog.Proofs.Lifecycle.Reserved

/-!
# Operations of the coordinator

An `Errand` is what a client can ask the coordinator for. All errands run as programs of one type, so
that statements can speak of any number of them, one after the other or side by side.
-/

namespace DatasetCatalog.Lifecycle

/-- What a client asks the coordinator for. -/
inductive Errand
  | create (name : String) (request : InstanceConfiguration)
  | drop (name : String)
  | dropAll
  | admin (name method : String)
  | get (name : String)
  | list (options : ListOptions)

namespace Errand

/-- The operation that serves an errand. Of its answer only the failure is kept. -/
def step (settings : Settings) : Errand → Step Unit
  | create name request => discard (Lifecycle.create settings name request)
  | drop name => dropInstance settings name
  | dropAll => discard (Lifecycle.dropAll settings)
  | admin name method => discard (Lifecycle.admin settings name method)
  | get name => discard (Lifecycle.get settings name)
  | list options => discard (Lifecycle.list options)

/-- The calls of an errand. -/
def program (settings : Settings) (errand : Errand) : Program (Except CatalogError Unit) :=
  (errand.step settings).run

/-- The owner that an errand records for the instance that it creates, if it does. -/
def owner : Errand → Option Principal
  | create _ request => ownerOf request
  | _ => none

end Errand

end DatasetCatalog.Lifecycle
