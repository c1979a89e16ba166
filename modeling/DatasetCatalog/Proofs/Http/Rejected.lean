import DatasetCatalog.Http.Service
import DatasetCatalog.Proofs.Lifecycle.Memory
import DatasetCatalog.Proofs.Lifecycle.Refusals
import DatasetCatalog.Proofs.Lifecycle.Removals

/-!
# Rejected requests

A status between 400 and 499 tells a client that its request was at fault, and the client may ignore
it and go on. That is safe: a request that is rejected has changed neither catalog nor owner records,
shown tables or the storage of an instance.

Most requests are rejected before they get to the catalog, by their path, their method, their names or
their body. The others get the status of the error that the catalog answers, and of such errors
`Realm` says what they leave behind.
-/

namespace DatasetCatalog.Http

open Lifecycle Program

variable {T S α σ : Type} {x : Realm T S}

/-- A response that blames the request. -/
def Response.Rejects (r : Response) : Prop := 400 ≤ r.status ∧ r.status < 500

/-- If the response of the program is a rejection, then nothing has changed. -/
def Harmless (p : Program Response) (x : Realm T S) : Prop :=
  ∀ xs r x', Runs Realm.Permits p x xs r x' → r.Rejects → x.Untouched x'

theorem harmless_of_looks {p : Program Response} (looks : Looks p) : Harmless p x := by
  intro xs r x' h _
  rw [Realm.looks_inv looks h]
  exact .refl x

theorem harmless_done (r : Response) : Harmless (.done r) x := harmless_of_looks trivial

/-- The response to an error has the status of the error. -/
theorem respond_harmless {step : Step α} {ok : α → Response}
    (untouched : Realm.RefusesUntouched step x) (serves : ∀ a, (ok a).status = 200) :
    Harmless (Service.respond step ok) x := by
  intro xs r x' h rejected
  obtain ⟨_, a, x₁, _, hstep, hdone, rfl⟩ := h.bind_inv
  cases a with
  | ok a =>
    obtain ⟨-, rfl, -⟩ := hdone.done_inv
    have := serves a ▸ rejected.1
    omega
  | error e =>
    obtain ⟨-, rfl, rfl⟩ := hdone.done_inv
    exact untouched _ e _ hstep rejected.2

theorem looks_respond {step : Step α} {ok : α → Response} (looks : Looks step.run) :
    Looks (Service.respond step ok) := by
  refine looks.bind fun a => ?_
  cases a <;> exact trivial

theorem harmless_withName {name : List Char} {next : String → Program Response}
    (harmless : ∀ name, Harmless (next name) x) : Harmless (Service.withName name next) x := by
  unfold Service.withName
  split
  · exact harmless _
  · exact harmless_done _

theorem harmless_withNameAndMethod {name method : List Char}
    {next : String → String → Program Response}
    (harmless : ∀ name method, Harmless (next name method) x) :
    Harmless (Service.withNameAndMethod name method next) x := by
  refine harmless_withName fun name => ?_
  split
  · exact harmless _ _
  · exact harmless_done _

variable {service : Service} {request : Request}

theorem harmless_createDataset (name : String) :
    Harmless (service.createDataset name request) x := by
  unfold Service.createDataset
  split
  · exact respond_harmless Realm.create_untouched fun _ => rfl
  · exact harmless_done _

theorem harmless_serve (named : ∀ {name spec}, x.ledger.find? name = some spec → spec.name = name)
    (query : List Char) (route : Route) : Harmless (service.serve request query route) x := by
  cases route with
  | datasets => exact harmless_of_looks (looks_respond (looks_list _))
  | dataset name =>
    refine harmless_withName fun name => ?_
    split
    · exact harmless_createDataset name
    · split
      · exact respond_harmless (Realm.dropInstance_untouched named) fun _ => rfl
      · exact harmless_of_looks (looks_respond looks_get)
  | admin name method =>
    exact harmless_withNameAndMethod fun _ _ =>
      respond_harmless Realm.admin_untouched fun _ => rfl
  | data name method => exact harmless_withNameAndMethod fun _ _ => harmless_done _
  | reset => exact respond_harmless Realm.dropAll_untouched fun _ => rfl
  | health => exact harmless_done _
  | metrics => exact harmless_done _

theorem harmless_handle
    (named : ∀ {name spec}, x.ledger.find? name = some spec → spec.name = name) :
    Harmless (service.handle request) x := by
  unfold Service.handle
  dsimp only
  split
  · exact harmless_done _
  · split
    · intro xs r x' h rejected
      obtain ⟨_, response, x₁, _, hserve, hdone, rfl⟩ := h.bind_inv
      obtain ⟨-, rfl, rfl⟩ := hdone.done_inv
      refine harmless_serve named _ _ _ response _ hserve ?_
      split at rejected
      · exact rejected
      · exact rejected
    · exact harmless_done _

/-- Entries stay under the names of their instances. -/
theorem proper_of_permits {c : Call} {x' : Realm T S} {a : c.Answer}
    (permitted : Realm.Permits c x a x') (proper : Entries.Proper x.ledger.catalog) :
    Entries.Proper x'.ledger.catalog := by
  cases c with
  | findInstance | allInstances | findOwner =>
    obtain ⟨-, rfl⟩ := permitted
    exact proper
  | addInstance spec =>
    obtain ⟨-, rfl⟩ := permitted
    unfold Ledger.addInstance
    split
    · exact proper
    · exact proper.insert spec
  | removeInstance name =>
    obtain ⟨-, rfl⟩ := permitted
    exact proper.erase name
  | addOwner entity principal =>
    obtain ⟨-, rfl⟩ := permitted
    rcases hadded : x.ledger.addOwner entity principal with ⟨e | u, l⟩
    · rw [Ledger.addOwner_eq_error hadded]
      exact proper
    · rw [(Ledger.addOwner_eq_ok hadded).2]
      exact proper
  | removeOwner =>
    obtain ⟨-, rfl⟩ := permitted
    exact proper
  | expose | withdraw =>
    obtain ⟨tables, rfl⟩ := permitted
    exact proper
  | perform =>
    obtain ⟨⟨stored, rfl⟩, -⟩ := permitted
    exact proper
  | _ =>
    obtain rfl := permitted
    exact proper

/-- **A rejected request changes nothing.** The catalog was empty at first, and any number of operations
have been carried out since, one after the other or side by side. Now a request is handled alone. If
its response has a status between 400 and 499, then catalog, owner records, shown tables and the storage
of every instance in the catalog are what they were before. -/
theorem rejected_request_changes_nothing {ι : Type} [DecidableEq ι] {B : Conduct σ}
    {view : σ → Realm T S}
    (permits : ∀ c s a s', B c s a s' → Realm.Permits c (view s) a (view s'))
    {settings : ι → Settings} {errands : ι → Errand} {start s s' : σ}
    (empty : (view start).ledger.catalog = []) {ys : List (ThreadExchange ι)}
    {q : Threads ι (Except CatalogError Unit)}
    (reached : Interleaves B (fun i => (errands i).program (settings i)) start ys q s)
    {xs : List Exchange} {response : Response}
    (run : Runs B (service.handle request) s xs response s')
    (rejected : 400 ≤ response.status ∧ response.status < 500) :
    (view s').ledger = (view s).ledger ∧ (view s').tables = (view s).tables ∧
      ∀ name, ((view s).ledger.find? name).isSome →
        (view s').stored name = (view s).stored name := by
  have proper : Entries.Proper (view s).ledger.catalog := by
    refine reached.invariant (I := fun _ _ s => Entries.Proper (view s).ledger.catalog) ?_ ?_
    · rw [empty]
      exact ⟨.nil, nofun⟩
    · intro _ _ _ _ i c next a before turn answered
      exact proper_of_permits (permits _ _ _ _ answered) before
  have untouched := harmless_handle proper.named _ _ _ (run.simulate permits) rejected
  exact ⟨untouched.ledger, untouched.tables, untouched.stored⟩

/-- The tables that are shown and the storage of the names, where all is at work. -/
def realmOf (s : Inventory) : Realm (StringMap Unit) (Option Specification) :=
  ⟨s.ledger, s.tables, s.stored⟩

theorem permits_of_works {maker : Maker} {c : Call} {s s' : Inventory} {a : c.Answer}
    (works : Inventory.Works maker c s a s') : Realm.Permits c (realmOf s) a (realmOf s') := by
  obtain ⟨rfl, rfl⟩ := Prod.mk.inj (works : Inventory.answer maker c s = (a, s'))
  cases c with
  | perform r limit =>
    cases r with
    | create c =>
      simp only [Inventory.perform]
      split
      · exact ⟨⟨_, rfl⟩, fun _ => rfl, nofun⟩
      · split
        · exact ⟨⟨_, rfl⟩, nofun, nofun⟩
        · exact ⟨⟨_, rfl⟩, fun _ => rfl, nofun⟩
    | drop removal =>
      refine ⟨⟨_, rfl⟩, nofun, ?_⟩
      rintro r ⟨⟩ name hne
      exact Function.update_of_ne hne _ _
    | _ => exact ⟨⟨_, rfl⟩, fun _ => rfl, nofun⟩
  | expose | withdraw => exact ⟨_, rfl⟩
  | findInstance | allInstances | findOwner | addInstance | removeInstance | addOwner
  | removeOwner => exact ⟨rfl, rfl⟩
  | _ => exact rfl

/-- What the answers of stores that work come to. -/
theorem workingAnswer_permits (c : Call) (s : WorkingStores) (a : c.Answer) (s' : WorkingStores)
    (answered : Conduct.ofHandler workingAnswer c s a s') :
    Realm.Permits c (realmOf (Stores.inventory s.1)) a (realmOf (Stores.inventory s'.1)) := by
  cases answered
  exact permits_of_works (workingConduct_works c s _ _ rfl)

/-- A request to drop an instance. -/
def deleteInvoices : Request := { method := "DELETE", target := "/data/datasets/invoices" }

/-- A new deployment after a create. -/
def withOrders : List (ThreadExchange Unit) × Threads Unit (Except CatalogError Unit) ×
    WorkingStores :=
  play workingAnswer (List.replicate 20 ())
    (fun _ => (Errand.create "orders" ⟨"table", [], none⟩).program {}) .fresh

theorem drop_of_unknown_changes_nothing :
    (∀ c s a s', Conduct.ofHandler workingAnswer c s a s' →
        Realm.Permits c (realmOf (Stores.inventory s.1)) a (realmOf (Stores.inventory s'.1))) ∧
      (realmOf (Stores.inventory WorkingStores.fresh.1)).ledger.catalog = [] ∧
      Interleaves (.ofHandler workingAnswer)
        (fun _ => (Errand.create "orders" ⟨"table", [], none⟩).program {}) .fresh withOrders.1
        withOrders.2.1 withOrders.2.2 ∧
      (withOrders.2.2.1.2.ledger.find? "orders").isSome ∧
      ∃ xs response s', Runs (.ofHandler workingAnswer) (Service.handle ⟨{}, none⟩ deleteInvoices)
          withOrders.2.2 xs response s' ∧ response.status = 404 ∧
        s'.1.2.ledger = withOrders.2.2.1.2.ledger := by
  have operations : Interleaves (.ofHandler workingAnswer)
      (fun _ => (Errand.create "orders" ⟨"table", [], none⟩).program {}) .fresh withOrders.1
      withOrders.2.1 withOrders.2.2 :=
    interleaves_playBy (fun _ => workingAnswer) (List.replicate 20 ()) _ _
  obtain ⟨xs, run⟩ := runs_ofHandler workingAnswer (Service.handle ⟨{}, none⟩ deleteInvoices)
    withOrders.2.2
  have status : ((Service.handle ⟨{}, none⟩ deleteInvoices).run workingAnswer
      withOrders.2.2).1.status = 404 := by decide +kernel
  have same := rejected_request_changes_nothing workingAnswer_permits rfl operations run
    (by rw [status]; decide)
  exact ⟨workingAnswer_permits, rfl, operations, rfl, xs, _, _, run, status, same.1⟩

end DatasetCatalog.Http
