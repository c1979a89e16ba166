import DatasetCatalog.Lifecycle.Admin
import DatasetCatalog.Lifecycle.Drop
import DatasetCatalog.Lifecycle.Inquiry
import DatasetCatalog.Proofs.Lifecycle.Reserved

/-!
# What operations do on the side

Most of the calls of an operation change none of the things that its guarantees are about: they look
something up, tell the query engine, measure, or record that something went wrong. These are the
calls that are made `aside`. Parts of operations that only make such calls are listed here once, so
that whoever follows an operation can step over them. Some of them only look and write down a failure
(`isLook`), which nobody has to follow at all, most of them without a look at an owner record
(`isGlance`). Whoever follows something else than the storage can step over the work on it as well
(`isStorageWork`), and whoever does not follow the owner records either, over all that a create
prepares and takes back (`isPreparation`).
-/

namespace DatasetCatalog.Lifecycle

open Program

/-- Events that account for a change: of an owner record, or of the catalog. -/
def isAccount : Audit.Event → Bool
  | .ownerAdded .. | .ownerDeleted _ | .created .. | .dropped .. | .dropFailed .. => true
  | _ => false

/-- Readings that account for a change of the catalog. -/
def isTotal : Reading → Bool
  | .created _ | .dropped _ => true
  | _ => false

/-- Calls that leave catalog, owner records, storage and the rights to names as they are, and account
for no change of them. -/
def isAside : Call → Bool
  | .findInstance _ | .allInstances | .findType _ | .findOwner _ | .expose _ | .withdraw _
  | .exposedTables => true
  | .perform (.truncate _) _ | .perform (.upgrade _) _ | .perform (.probe _) _ => true
  | .record event => !isAccount event
  | .count reading => !isTotal reading
  | _ => false

variable {α : Type} {settings : Settings} {name : String}

/-- The program makes calls on the side only. -/
abbrev Aside (p : Program α) : Prop := p.Only (isAside · = true)

theorem aside_ask {c : Call} (h : isAside c = true) : Aside (ask c) := only_ask h

/-! ### Looking -/

/-- Calls that look something up, or write down something that accounts for no change. -/
def isLook : Call → Bool
  | .findInstance _ | .allInstances | .findType _ | .findOwner _ | .exposedTables => true
  | .record event => !isAccount event
  | .count reading => !isTotal reading
  | _ => false

/-- The program only looks. -/
abbrev Looks (p : Program α) : Prop := p.Only (isLook · = true)

theorem looks_ask {c : Call} (h : isLook c = true) : Looks (ask c) := only_ask h

theorem aside_of_looks {p : Program α} (h : Looks p) : Aside p := by
  refine h.mono fun c look => ?_
  cases c with
  | findInstance | allInstances | findType | findOwner | exposedTables => rfl
  | record | count => exact look
  | _ => cases look

/-- The same calls but for those that look an owner up. -/
def isGlance : Call → Bool
  | .findInstance _ | .allInstances | .findType _ | .exposedTables => true
  | .record event => !isAccount event
  | .count reading => !isTotal reading
  | _ => false

/-- The program only looks, and at no owner record. -/
abbrev Glances (p : Program α) : Prop := p.Only (isGlance · = true)

theorem glances_ask {c : Call} (h : isGlance c = true) : Glances (ask c) := only_ask h

theorem looks_of_glances {p : Program α} (h : Glances p) : Looks p := by
  refine h.mono fun c glance => ?_
  cases c with
  | findInstance | allInstances | findType | exposedTables => rfl
  | record | count => exact glance
  | _ => cases glance

theorem glances_tolerate {operation : String} (r : Except ExploreError Unit) :
    Glances (tolerate name operation r) := by
  cases r with
  | ok u => exact trivial
  | error e => exact (glances_ask (by rfl)).bind fun _ => glances_ask (by rfl)

theorem looks_tolerate {operation : String} (r : Except ExploreError Unit) :
    Looks (tolerate name operation r) := looks_of_glances (glances_tolerate r)

theorem glances_typeOf (spec : Specification) : Glances (typeOf spec).run := by
  refine only_bind (only_ofRegistry (glances_ask (by rfl))) fun found => ?_
  cases found <;> exact trivial

theorem looks_typeOf (spec : Specification) : Looks (typeOf spec).run :=
  looks_of_glances (glances_typeOf spec)

theorem aside_typeOf (spec : Specification) : Aside (typeOf spec).run :=
  aside_of_looks (looks_typeOf spec)

theorem looks_get : Looks (get settings name).run := by
  unfold get
  split
  · refine only_bind (only_ofRegistry (looks_ask (by rfl))) fun found => ?_
    cases found with
    | none => exact trivial
    | some spec =>
      refine only_bind (only_ofRegistry (looks_ask (by rfl))) fun typed => ?_
      refine only_bind ?_ fun owner => trivial
      exact (looks_ask (by rfl)).bind fun _ => trivial
  · exact trivial

theorem glances_exposed : Glances exposed.run := by
  refine only_bind (only_always (glances_ask (by rfl))) fun names => ?_
  cases names with
  | ok names => exact trivial
  | error e => exact only_bind (only_always (glances_ask (by rfl))) fun _ => trivial

theorem glances_entry (options : ListOptions) (spec : Specification) :
    Glances (options.entry spec).run := by
  unfold ListOptions.entry
  split
  · exact only_bind (only_ofRegistry (glances_ask (by rfl))) fun _ => trivial
  · exact trivial

theorem glances_list (options : ListOptions) : Glances (list options).run := by
  refine only_bind (only_ofRegistry (glances_ask (by rfl))) fun specs => ?_
  have entries : ∀ tables, Glances ((options.keep tables specs).mapM options.entry).run := by
    intro tables
    induction options.keep tables specs with
    | nil => exact trivial
    | cons spec rest ih =>
      rw [List.mapM_cons]
      exact only_bind (glances_entry options spec) fun _ => only_bind ih fun _ => trivial
  split
  · exact only_bind glances_exposed entries
  · exact entries []

theorem looks_list (options : ListOptions) : Looks (list options).run :=
  looks_of_glances (glances_list options)

/-! ### On the side -/

theorem aside_tolerate {operation : String} (r : Except ExploreError Unit) :
    Aside (tolerate name operation r) := aside_of_looks (looks_tolerate r)

/-- A storage operation is one call. Once it is over it is only measured. -/
theorem perform_measured (settings : Settings) (r : Storage.Request) :
    ∃ measured, perform settings r = ask (.perform r settings.operationLimit) >>= measured ∧
      ∀ result, Looks (measured result) := by
  refine ⟨_, rfl, fun result => (looks_ask (by rfl)).bind fun _ => ?_⟩
  cases result with
  | ok a => exact trivial
  | error e => exact (looks_ask (by rfl)).bind fun _ => trivial

/-- The result of a storage operation is what its call was answered. -/
theorem perform_answered {σ : Type} {B : Conduct σ} {r : Storage.Request} {s s' : σ}
    {xs : List Exchange} {a : Storage.Result r} (h : Runs B (perform settings r) s xs a s') :
    ∃ s₁ ys, B (.perform r settings.operationLimit) s a s₁ ∧
      (∃ p : Program (Storage.Result r), Looks p ∧ Runs B p s₁ ys a s') ∧
      xs = ⟨.perform r settings.operationLimit, a⟩ :: ys := by
  obtain ⟨_, result, s₁, ys, hask, hrest, rfl⟩ := h.bind_inv
  obtain ⟨rfl, answered⟩ := hask.ask_inv
  have same : a = result := by
    obtain ⟨_, _, _, _, -, hnoted, -⟩ := hrest.bind_inv
    cases result with
    | ok answer => exact hnoted.done_inv.2.1
    | error e =>
      obtain ⟨_, _, _, _, -, hdone, -⟩ := hnoted.bind_inv
      exact hdone.done_inv.2.1
  subst same
  refine ⟨s₁, ys, answered, ⟨_, ?_, hrest⟩, rfl⟩
  refine (looks_ask (by rfl)).bind fun _ => ?_
  cases a with
  | ok answer => exact trivial
  | error e => exact (looks_ask (by rfl)).bind fun _ => trivial

/-! ### Away from the storage -/

/-- Whether a call is a storage operation. -/
def isStorage : Call → Bool
  | .perform .. => true
  | _ => false

/-- The program makes no storage operation. -/
abbrev Storageless (p : Program α) : Prop := p.Only (isStorage · = false)

theorem storageless_ask {c : Call} (h : isStorage c = false) : Storageless (ask c) := only_ask h

theorem storageless_of_looks {p : Program α} (h : Looks p) : Storageless p := by
  refine h.mono fun c look => ?_
  cases c with
  | perform => cases look
  | _ => rfl

theorem storageOf_of_storageless {σ : Type} {B : Conduct σ} {p : Program α} {s s' : σ}
    {xs : List Exchange} {a : α} (storageless : Storageless p) (h : Runs B p s xs a s') :
    storageOf xs = [] := by
  induction h with
  | done a s => rfl
  | @call c next s s₁ s' a xs b answered rest ih =>
    have first : Exchange.storage? ⟨c, a⟩ = none := by
      have only := storageless.1
      cases c with
      | perform => cases only
      | _ => rfl
    rw [storageOf_cons, first, ih (storageless.2 a)]
    rfl

/-- A storage operation is the only one in its run. -/
theorem storageOf_perform {σ : Type} {B : Conduct σ} {r : Storage.Request} {s s' : σ}
    {xs : List Exchange} {a : Storage.Result r} (h : Runs B (perform settings r) s xs a s') :
    storageOf xs = [⟨r, a⟩] := by
  obtain ⟨s₁, ys, -, ⟨p, looks, rest⟩, rfl⟩ := perform_answered h
  rw [storageOf_cons, storageOf_of_storageless (storageless_of_looks looks) rest]
  rfl

theorem aside_perform {r : Storage.Request} (h : ∀ limit, isAside (.perform r limit) = true) :
    Aside (perform settings r) := by
  obtain ⟨measured, heq, looks⟩ := perform_measured settings r
  rw [heq]
  exact (aside_ask (h _)).bind fun result => aside_of_looks (looks result)

theorem aside_show (name : String) : Aside (do tolerate name "enable" (← expose name)) :=
  (aside_ask (by rfl)).bind aside_tolerate

theorem aside_hide (name : String) : Aside (do tolerate name "disable" (← withdraw name)) :=
  (aside_ask (by rfl)).bind aside_tolerate

theorem aside_performAdmin (operation : AdminOperation) :
    Aside (performAdmin settings name operation) := by
  cases operation <;> exact (aside_perform fun _ => rfl).bind fun _ => trivial

theorem aside_admin (method : String) : Aside (admin settings name method).run := by
  unfold admin
  cases adminOperation name method with
  | error e => exact trivial
  | ok operation =>
    refine only_bind (x := ExceptT.mk (pure (.ok operation))) trivial fun operation => ?_
    split
    · refine only_bind (only_always (aside_performAdmin operation)) fun result => ?_
      rcases result with e | value
      · cases e with
        | notFound missing => exact trivial
        | _ => exact only_bind (only_always (aside_ask (by rfl))) fun _ => trivial
      · exact trivial
    · exact trivial

theorem aside_get : Aside (get settings name).run := aside_of_looks looks_get

theorem aside_list (options : ListOptions) : Aside (list options).run :=
  aside_of_looks (looks_list options)

/-! ### Work on the storage -/

/-- Calls that work on the storage: its operations, the look into the catalog before leftovers are
dropped, and what is written down about it all. -/
def isStorageWork : Call → Bool
  | .findInstance _ | .perform .. | .record _ | .count _ => true
  | _ => false

/-- The program works on the storage only. -/
abbrev StorageWork (p : Program α) : Prop := p.Only (isStorageWork · = true)

theorem storageWork_ask {c : Call} (h : isStorageWork c = true) : StorageWork (ask c) := only_ask h

theorem storageWork_perform (r : Storage.Request) : StorageWork (perform settings r) := by
  refine (storageWork_ask (by rfl)).bind fun result => (storageWork_ask (by rfl)).bind fun _ => ?_
  cases result with
  | ok a => exact trivial
  | error e => exact (storageWork_ask (by rfl)).bind fun _ => trivial

theorem storageWork_reclaimOrphan (typeMeta : TypeMeta) :
    StorageWork (reclaimOrphan settings name typeMeta) := by
  refine (storageWork_ask (by rfl)).bind fun found => ?_
  rcases found with e | _ | spec
  case ok.none =>
    refine (storageWork_perform _).bind fun dropped => ?_
    cases dropped with
    | ok u => exact (storageWork_ask (by rfl)).bind fun _ => trivial
    | error e => exact trivial
  all_goals exact trivial

theorem storageWork_createStorage (c : Storage.Creation) :
    StorageWork (createStorage settings c) := by
  refine (storageWork_perform _).bind fun first => ?_
  cases first with
  | ok spec => exact trivial
  | error e =>
    cases e with
    | alreadyExists found =>
      refine (storageWork_reclaimOrphan _).bind fun reclaimed => ?_
      cases reclaimed with
      | true => exact storageWork_perform _
      | false => exact trivial
    | _ => exact trivial

/-! ### Preparing an instance -/

/-- Calls that prepare an instance or take back what was prepared: work on the storage and on the owner
record. -/
def isPreparation : Call → Bool
  | .addOwner .. | .removeOwner _ => true
  | c => isStorageWork c

/-- The program prepares an instance or takes back what was prepared. -/
abbrev Prepares (p : Program α) : Prop := p.Only (isPreparation · = true)

theorem prepares_ask {c : Call} (h : isPreparation c = true) : Prepares (ask c) := only_ask h

theorem prepares_of_storageWork {p : Program α} (h : StorageWork p) : Prepares p := by
  refine h.mono fun c work => ?_
  cases c with
  | addOwner | removeOwner => rfl
  | _ => exact work

theorem prepares_claimOwner (owner : Option Principal) :
    Prepares (claimOwner settings name owner).run := by
  cases owner with
  | none => exact trivial
  | some principal =>
    refine only_bind (only_always (prepares_ask (by rfl))) fun result => ?_
    split <;> exact trivial

theorem prepares_rollBackOwner (entity : EntityId) (owner : Option Principal) :
    Prepares (rollBackOwner entity owner) := by
  cases owner with
  | none => exact trivial
  | some principal => exact prepares_ask rfl

theorem prepares_failCreate (typeName : String) (owner : Option Principal) (e : StorageError) :
    Prepares (failCreate settings name typeName owner e) := by
  refine (prepares_ask (by rfl)).bind fun _ => (prepares_rollBackOwner _ owner).bind fun _ => ?_
  split
  · exact trivial
  · refine (prepares_ask (by rfl)).bind fun found => ?_
    rcases found with e | _ | spec <;> exact trivial

theorem prepares_rollBack (spec : Specification) (typeMeta : TypeMeta) (owner : Option Principal)
    (e : RegistryError) : Prepares (rollBack settings spec typeMeta owner e) := by
  refine (prepares_rollBackOwner _ owner).bind fun _ => ?_
  split
  · exact trivial
  · refine Only.bind ?_ fun _ => trivial
    exact (prepares_of_storageWork (storageWork_perform _)).bind fun _ => trivial

end DatasetCatalog.Lifecycle
