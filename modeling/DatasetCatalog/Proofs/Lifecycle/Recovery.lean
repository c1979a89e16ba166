import DatasetCatalog.Proofs.InstanceName
import DatasetCatalog.Proofs.Lifecycle.Agreement
import DatasetCatalog.Proofs.Lifecycle.Estate

/-!
# No name is lost, and nothing is inherited

However operations failed before, a name that is not in the catalog can be created once the
collaborators work, and what is made of it is what is asked for and nothing else
(`create_starts_afresh`).

Two things could keep a name from being created again. An owner record that stayed would, but by
`Follow.consistent` there is none without a catalog entry. A data directory that can no longer be
made would, but a request acts in the place of its own instance only, so the data directory stays as
usable as it was (`Follow.prepared`). What is left in the place of the instance itself does not
matter.

The second argument needs that the path of the data directory does not lead through a directory
inside it. Along a path that does, every create makes that directory before it claims it
(`way_through_takes_the_name`).
-/

namespace DatasetCatalog

open Disk

/-! ### The data directory -/

namespace Storage.Backend

/-- Storage in a data directory that is there or can be made, and can be worked with. -/
def Prepared (l : Local) (w : Place) (s : Site) : Prop :=
  ∃ d, s = (directory l, d) ∧ d.workingDirectory = w ∧ l.Clean w d ∧ l.Provided d

variable {l : Local} {w : Place} {s s' : Site}

theorem Prepared.acts {r : Request} {a : Result r} (h : Prepared l w s)
    (builtin : l.definitions = Definition.builtin) (direct : l.Direct w)
    (acts : Acts Local.SafeParts r s a s') : Prepared l w s' := by
  obtain ⟨d, rfl, rfl, clean, provided⟩ := h
  obtain ⟨d', rfl, effect⟩ := acts.local_effect ⟨builtin, clean⟩
  exact ⟨d', rfl, effect.changes.workingDirectory, effect.clean clean,
    provided.of_changes direct rfl effect.changes⟩

theorem Prepared.series {ops : List StorageExchange} (h : Prepared l w s)
    (builtin : l.definitions = Definition.builtin) (direct : l.Direct w)
    (series : Series Local.SafeParts s ops s') : Prepared l w s' := by
  induction series with
  | nil s => exact h
  | cons first rest ih => exact ih (h.acts builtin direct first)

end Storage.Backend

/-! ### Stores in memory -/

namespace Stores

/-- What a coordinator works on that has its stores in memory; the storage can be anywhere. -/
def estate (s : Reservations × Stores) : Estate :=
  ⟨s.2.types, s.1, s.2.ledger, s.2.storage, s.2.disk⟩

/-- Stores in memory answer as collaborators that work. -/
theorem answer_estate {s : Stores} (h : s.InMemory) (c : Call) (rs : Reservations) :
    Estate.Works c (estate (rs, s)) (answer c (rs, s)).1 (estate (answer c (rs, s)).2) := by
  have added spec := addInstance_ledger h spec rs
  have owned entity principal := addOwner_ledger h.owners entity principal rs
  obtain ⟨types, entries, records, storage, gateway, disk, audit, metrics, rfl⟩ := h.exists_eq
  let reading (l : Ledger) : Estate := ⟨types, rs, l, storage, disk⟩
  cases c with
  | addInstance spec =>
    exact ⟨congrArg Prod.fst (added spec), congrArg reading (congrArg Prod.snd (added spec))⟩
  | addOwner entity principal =>
    exact ⟨congrArg Prod.fst (owned entity principal),
      congrArg reading (congrArg Prod.snd (owned entity principal))⟩
  | removeOwner entity =>
    refine ⟨rfl, congrArg reading ?_⟩
    exact Ledger.ext rfl (Owner.Memory.find?_filter_ne records entity)
  | release name | expose name | withdraw name | exposedTables | record event | count reading => rfl
  | _ => exact ⟨rfl, rfl⟩

end Stores

theorem memoryConduct_estate (c : Call) (s : MemoryStores) (a : c.Answer) (s' : MemoryStores)
    (answered : memoryConduct c s a s') :
    Estate.Works c (Stores.estate s.1) a (Stores.estate s'.1) := by
  obtain ⟨⟨rs, s⟩, h⟩ := s
  have works := Stores.answer_estate h c rs
  rw [show Stores.answer c (rs, s) = (a, s'.1) from answered] at works
  exact works

namespace Lifecycle

open Program Storage.Backend

variable {σ : Type} {B : Conduct σ} {view : σ → Estate} {settings : Settings} {l : Storage.Local}
  {w : Place} {d₀ : Disk} {h : History} {x : Holdings} {s : σ} {name : String}
  {request : InstanceConfiguration} {typeMeta : TypeMeta} {spec : Specification}

/-- The data directory can be worked with after every operation. -/
theorem Follow.prepared {start : Holdings}
    (follow : Follow Storage.Local.SafeParts settings start h x)
    (builtin : l.definitions = Definition.builtin) (direct : l.Direct w)
    (prepared : Prepared l w start.2) : Prepared l w x.2 := by
  induction follow with
  | nothing => exact prepared
  | operation _ run ih => exact ih.series builtin direct (runs_series run)

/-- What a coordinator works on after a history: the ledger and the storage are as the history has
left them, except that anything may have been left in the place of one instance, which nobody is
creating. -/
structure Resumed (l : Storage.Local) (w : Place) (name : String) (x : Holdings) (s : Estate) :
    Prop where
  ledger : s.ledger = x.1
  site : ∃ d, s.site = (x.2.1, d) ∧ Changes (below (l.home w name)) x.2.2 d ∧ l.Leftover w d name
  idle : name ∉ s.reserved

/-- After every history a name that is not in the catalog is open. -/
theorem Follow.isOpen {e : Estate} (empty : Empty (.directory l, d₀)) (provided : l.Provided d₀)
    (direct : l.Direct d₀.workingDirectory)
    (follow : Follow Storage.Local.SafeParts settings (⟨[], fun _ => none⟩, .directory l, d₀) h x)
    (missing : x.1.find? name = none) (resumed : Resumed l d₀.workingDirectory name x e) :
    ∃ d, e.Open settings name l d₀.workingDirectory d := by
  have ready : Ready (.directory l, d₀) := empty.ready
  have consistent := follow.consistent ⟨ready, nofun, nofun, fun _ _ => rfl⟩
  obtain ⟨d₁, site₁, hw₁, -, provided₁⟩ :=
    follow.prepared ready.1 direct ⟨d₀, rfl, rfl, ready.2, provided⟩
  obtain ⟨d, site, changes, left⟩ := resumed.site
  rw [site₁] at site changes
  refine ⟨d, site, ?_, ?_, ready.1, provided₁.of_changes direct hw₁ changes, direct,
    changes.workingDirectory.trans hw₁, left⟩
  · rw [resumed.ledger]
    exact missing
  · rw [resumed.ledger]
    exact consistent.unowned name missing

/-- Whatever operations came before and however they failed, a name that is not in the catalog is
created where the collaborators work. Then whoever asks for the instance is told what was requested,
and its storage is as it is laid out afresh. -/
theorem create_starts_afresh (total : B.Total)
    (works : ∀ c s a s', B c s a s' → Estate.Works c (view s) a (view s'))
    (empty : Empty (.directory l, d₀)) (provided : l.Provided d₀)
    (direct : l.Direct d₀.workingDirectory)
    (follow : Follow Storage.Local.SafeParts settings (⟨[], fun _ => none⟩, .directory l, d₀) h x)
    (valid : InstanceName.isValid name = true) (short : Utf8.size name ≤ 250)
    (missing : x.1.find? name = none)
    (resumed : Resumed l d₀.workingDirectory name x (view s))
    (meets : Estate.Meets settings name (view s).types request typeMeta spec) :
    (∃ xs r s', Runs B (create settings name request).run s xs r s') ∧
      ∀ xs r s', Runs B (create settings name request).run s xs r s' →
        r = .ok spec ∧ spec.name = name ∧ spec.typeName = request.typeName ∧
        spec.properties = request.properties ∧
        (∃ d, (view s').site = (.directory l, d) ∧ l.Fresh d₀.workingDirectory d name spec) ∧
        (∃ ys g s'', Runs B (get settings name).run s' ys g s'') ∧
        ∀ ys g s'', Runs B (get settings name).run s' ys g s'' →
          g = .ok (some ⟨spec, some typeMeta, none, request.ownerPrincipal⟩) := by
  obtain ⟨d, free⟩ := follow.isOpen empty provided direct missing resumed
  refine ⟨exists_runs total _ s, fun xs r s' run => ?_⟩
  obtain ⟨named, typed, properties⟩ := meets.requested
  obtain ⟨d', rfl, fresh, after⟩ := Estate.create_inv free resumed.idle valid
    (InstanceName.isSafeName_of_isValid valid) short meets (run.simulate works)
  refine ⟨rfl, named, typed, properties, ⟨d', by rw [after], fresh⟩, exists_runs total _ s', ?_⟩
  intro ys g s'' asked
  have there : (view s').ledger.find? name = some spec := by
    rw [after]
    exact (Ledger.find?_enter _ _ _).trans (if_pos named)
  have types : (view s').types.find? spec.typeName = some typeMeta := by
    rw [after, typed]
    exact meets.registered
  have owner : (view s').ledger.owners (settings.entity name) = ownerOf request := by
    rw [after]
    exact (congrFun (owners_claim free.unowned _) _).trans (Function.update_self _ _ _)
  have told := Estate.get_inv valid there (asked.simulate works)
  rw [types, owner, ownerOf, Option.map_map] at told
  rw [told]
  cases request.ownerPrincipal <;> rfl

/-! ### An abandoned name -/

namespace Abandoned

/-- A data directory. -/
def dataDirectory : Storage.Local := ⟨⟨"data"⟩, Definition.builtin⟩

/-- The disk after a create of `orders` that failed when it had claimed the directory. -/
def claimed : Disk :=
  (Disk.put ⟨[], []⟩ ["data"] .directory).put ["data", "orders"] .directory

/-- The same with a file in that directory that is nobody's. -/
def leftover : Disk := claimed.put ["data", "orders", "part-0"] (.file [1, 2, 3])

/-- Stores in memory, with that disk. -/
def stores : MemoryStores :=
  ⟨([], { storage := .directory dataDirectory, disk := leftover }), ⟨_, rfl⟩, ⟨_, rfl⟩⟩

/-- A ledger with nothing in it. -/
def blank : Ledger := ⟨[], fun _ => none⟩

theorem home_orders : dataDirectory.home [] "orders" = ["data", "orders"] := by decide

theorem claimed_damage : Damage Storage.Local.SafeParts (.create ⟨"orders", ⟨"table", []⟩, []⟩)
    (.directory dataDirectory, ⟨[], []⟩) (.directory dataDirectory, claimed) := by
  refine ⟨rfl, ?_, Storage.Local.admits_of_missing (by decide)⟩
  change Changes (below (dataDirectory.home [] "orders")) ⟨[], []⟩ claimed
  rw [home_orders]
  have made : Changes (below ["data", "orders"]) ⟨[], []⟩
      (Disk.put ⟨[], []⟩ ["data"] .directory) := .directoryAt (p := ["data"]) rfl
  exact made.trans (.put (by decide))

/-- A create of `orders` for Alice fails halfway, and takes her owner record back. -/
theorem create_fails : ∃ xs,
    Runs (Faulty Storage.Local.SafeParts)
      ((Errand.create "orders" ⟨"table", [], some "alice"⟩).program {})
      (blank, .directory dataDirectory, ⟨[], []⟩) xs
      (.error (.execution "create" "orders" (.system "")))
      (blank, .directory dataDirectory, claimed) := by
  let entity : EntityId := ({} : Settings).entity "orders"
  let owned : Ledger := blank.own entity ⟨"alice"⟩
  have recorded : Faulty Storage.Local.SafeParts (.addOwner entity ⟨"alice"⟩)
      (blank, .directory dataDirectory, ⟨[], []⟩) (.ok ())
      (owned, .directory dataDirectory, ⟨[], []⟩) :=
    ⟨(Ledger.addOwner_of_valid rfl rfl).symm, rfl⟩
  have failed : Faulty Storage.Local.SafeParts
      (.perform (.create ⟨"orders", ⟨"table", []⟩, []⟩) ({} : Settings).operationLimit)
      (owned, .directory dataDirectory, ⟨[], []⟩) (.error (.system ""))
      (owned, .directory dataDirectory, claimed) := ⟨rfl, .failed _ claimed_damage⟩
  have rolledBack : Faulty Storage.Local.SafeParts (.removeOwner entity)
      (owned, .directory dataDirectory, claimed) (.ok ())
      (blank, .directory dataDirectory, claimed) :=
    ⟨⟨rfl, (Ledger.disown_own rfl _).symm⟩, rfl⟩
  exact ⟨_,
    .call (c := .reserve "orders") (a := true) ⟨rfl, rfl⟩ <|
    .call (c := .findInstance "orders") (a := .ok none) ⟨⟨.inl rfl, rfl⟩, rfl⟩ <|
    .call (c := .findType "table") (a := .ok (some ⟨"table", []⟩)) ⟨rfl, rfl⟩ <|
    .call recorded <|
    .call failed <|
    .call (c := .count _) (a := ()) ⟨rfl, rfl⟩ <|
    .call (c := .count _) (a := ()) ⟨rfl, rfl⟩ <|
    .call (c := .record _) (a := ()) ⟨rfl, rfl⟩ <|
    .call rolledBack <|
    .call (c := .findInstance "orders") (a := .ok none) ⟨⟨.inl rfl, rfl⟩, rfl⟩ <|
    .call (c := .release "orders") (a := ()) ⟨rfl, rfl⟩ <|
    .done _ _⟩

theorem provided : dataDirectory.Provided ⟨[], []⟩ := ⟨by decide, by decide⟩

theorem resumed : Resumed dataDirectory [] "orders" (blank, .directory dataDirectory, claimed)
    (Stores.estate stores.1) := by
  refine ⟨rfl, ⟨leftover, rfl, .put ?_, .inr ?_⟩, nofun⟩
  · rw [home_orders]
    decide
  · rw [home_orders]
    decide

end Abandoned

/-- After a create for Alice that failed halfway, and with a file of nobody's in the directory, a
create for Bob gives him an instance with nothing in it but its fresh layout. -/
theorem abandoned_name_starts_afresh :
    Abandoned.leftover.node? ["data", "orders", "part-0"] = some (.file [1, 2, 3]) ∧
      (∃ xs r s', Runs memoryConduct (create {} "orders" ⟨"table", [], some "bob"⟩).run
        Abandoned.stores xs r s') ∧
      ∀ xs r s', Runs memoryConduct (create {} "orders" ⟨"table", [], some "bob"⟩).run
          Abandoned.stores xs r s' →
        r = .ok (.ofType "orders" "table") ∧
        (∃ d, (Stores.estate s'.1).site = (.directory Abandoned.dataDirectory, d) ∧
          Abandoned.dataDirectory.Fresh [] d "orders" (.ofType "orders" "table")) ∧
        ∀ ys g s'', Runs memoryConduct (get {} "orders").run s' ys g s'' →
          g = .ok (some ⟨.ofType "orders" "table", some ⟨"table", [tableModule]⟩, none,
            some "bob"⟩) := by
  obtain ⟨xs, failed⟩ := Abandoned.create_fails
  have meets : Estate.Meets {} "orders" TypeRegistry.builtin ⟨"table", [], some "bob"⟩
      ⟨"table", [tableModule]⟩ (.ofType "orders" "table") := by
    refine ⟨rfl, rfl, ⟨Definition.table, rfl, rfl⟩, .nil, ?_⟩
    rintro principal ⟨⟩
    rfl
  obtain ⟨run, all⟩ := create_starts_afresh memoryConduct_total memoryConduct_estate
    (empty_of_blank rfl []) Abandoned.provided (Storage.Local.direct_of_no_up (by decide))
    (Follow.nothing.operation failed) (by decide) (by decide) rfl Abandoned.resumed meets
  refine ⟨by decide, run, fun xs r s' done => ?_⟩
  obtain ⟨made, -, -, -, fresh, -, told⟩ := all xs r s' done
  exact ⟨made, fresh, told⟩

/-! ### A path that leads through an instance -/

namespace WayThrough

/-- A data directory whose path leads through the place of `orders`. -/
def dataDirectory : Storage.Local := ⟨⟨"data/orders/.."⟩, Definition.builtin⟩

/-- Stores in memory on an empty disk. -/
def stores : MemoryStores :=
  ⟨([], { storage := .directory dataDirectory }), ⟨_, rfl⟩, ⟨_, rfl⟩⟩

end WayThrough

/-- Where the path of the data directory leads through the place of an instance, that instance
cannot be created, although nothing has been done yet and the collaborators work. -/
theorem way_through_takes_the_name :
    Empty (.directory WayThrough.dataDirectory, ⟨[], []⟩) ∧
      WayThrough.dataDirectory.Provided ⟨[], []⟩ ∧
      InstanceName.isValid "orders" = true ∧ Utf8.size "orders" ≤ 250 ∧
      Resumed WayThrough.dataDirectory [] "orders"
        (⟨[], fun _ => none⟩, .directory WayThrough.dataDirectory, ⟨[], []⟩)
        (Stores.estate WayThrough.stores.1) ∧
      Estate.Meets {} "orders" TypeRegistry.builtin ⟨"table", [], none⟩
        ⟨"table", [tableModule]⟩ (.ofType "orders" "table") ∧
      ∃ xs r s', Runs memoryConduct (create {} "orders" ⟨"table", [], none⟩).run
        WayThrough.stores xs r s' ∧ r.isOk = false := by
  obtain ⟨xs, run⟩ := runs_ofHandler memoryAnswer
    (create {} "orders" ⟨"table", [], none⟩).run WayThrough.stores
  have answered : ∀ c (s : MemoryStores) a s', Conduct.ofHandler memoryAnswer c s a s' →
      memoryConduct c s a s' := by
    rintro c s a s' ⟨⟩
    rfl
  have empty : Empty (.directory WayThrough.dataDirectory, ⟨[], []⟩) := empty_of_blank rfl []
  refine ⟨empty, ⟨by decide, by decide⟩, by decide, by decide, ?_, ?_, xs, _, _,
    run.simulate answered, by decide +kernel⟩
  · exact ⟨rfl, ⟨⟨[], []⟩, rfl, .refl _ _, .inl (empty.2 "orders")⟩, nofun⟩
  · exact ⟨rfl, rfl, ⟨Definition.table, rfl, rfl⟩, .nil, nofun⟩

end Lifecycle

end DatasetCatalog
