import DatasetCatalog.Proofs.Lifecycle.Ledger

/-!
# The inventory: all stores of a coordinator at work

An `Inventory` is what a coordinator and its collaborators know of the instances: the ledger, the
storage, the tables that the query engine shows, the registered types and the names that are being
created. `Inventory.answer` is what every call means where all collaborators work. A storage
operation can still be refused by the code of a type; that code is the parameter `Maker`.
-/

namespace DatasetCatalog

/-- What the code of the types makes of a creation: the specification that is then stored, or a
refusal. -/
structure Maker where
  make : Storage.Creation → Except StorageError Specification
  named : ∀ {c spec}, make c = .ok spec → spec.name = c.name

/-- Everything that the calls of a coordinator can read or change. -/
structure Inventory where
  types : TypeRegistry
  ledger : Ledger
  /-- The stored specifications by the names of their instances. -/
  stored : String → Option Specification
  /-- The tables that the query engine shows. -/
  tables : StringMap Unit
  reserved : Reservations

namespace Inventory

/-- Carries out a storage operation. -/
def perform (maker : Maker) (s : Inventory) : (r : Storage.Request) → Storage.Result r × Inventory
  | .create c =>
    if (s.stored c.name).isSome then (.error (.alreadyExists c.name), s)
    else
      match maker.make c with
      | .ok spec => (.ok spec, { s with stored := Function.update s.stored c.name (some spec) })
      | .error e => (.error e, s)
  | .drop r => (.ok (), { s with stored := Function.update s.stored r.spec.name none })
  | .truncate name | .upgrade name =>
    (if (s.stored name).isSome then .ok () else .error (.notFound name), s)
  | .probe name => (.ok (s.stored name).isSome, s)

/-- What every call means where the collaborators work. -/
def answer (maker : Maker) : (c : Call) → Inventory → c.Answer × Inventory
  | .reserve name, s =>
    ((s.reserved.reserve name).1, { s with reserved := (s.reserved.reserve name).2 })
  | .release name, s => ((), { s with reserved := s.reserved.release name })
  | .findInstance name, s => (.ok (s.ledger.find? name), s)
  | .allInstances, s => (.ok (StringMap.values s.ledger.catalog), s)
  | .addInstance spec, s =>
    ((s.ledger.addInstance spec).1, { s with ledger := (s.ledger.addInstance spec).2 })
  | .removeInstance name, s =>
    ((s.ledger.removeInstance name).1, { s with ledger := (s.ledger.removeInstance name).2 })
  | .findType name, s => (.ok (s.types.find? name), s)
  | .addOwner entity principal, s =>
    ((s.ledger.addOwner entity principal).1,
      { s with ledger := (s.ledger.addOwner entity principal).2 })
  | .findOwner entity, s => (.ok (s.ledger.owners entity), s)
  | .removeOwner entity, s => (.ok (), { s with ledger := s.ledger.disown entity })
  | .expose name, s =>
    (.ok (), { s with tables := StringMap.insert (InstanceName.table name) () s.tables })
  | .withdraw name, s =>
    (.ok (), { s with tables := StringMap.erase (InstanceName.table name) s.tables })
  | .exposedTables, s => (.ok (StringMap.keys s.tables), s)
  | .perform request _, s => s.perform maker request
  | .record _, s => ((), s)
  | .count _, s => ((), s)

/-- The conduct of collaborators that work. -/
abbrev Works (maker : Maker) : Conduct Inventory := .ofHandler (answer maker)

/-- The conduct of collaborators that work, where types can come and go at any time. -/
def Serves (maker : Maker) : Conduct Inventory
  | .findType _, s, a, s' => (∃ found, a = .ok found) ∧ s' = s
  | c, s, a, s' => Works maker c s a s'

theorem Serves.of_works {maker : Maker} {c : Call} {s s' : Inventory} {a : c.Answer}
    (h : Works maker c s a s') : Serves maker c s a s' := by
  cases c with
  | findType name =>
    cases h
    exact ⟨⟨_, rfl⟩, rfl⟩
  | _ => exact h

/-- The inventory of a deployment in which nothing has been done yet. -/
def empty (types : TypeRegistry) : Inventory :=
  ⟨types, ⟨[], fun _ => none⟩, fun _ => none, [], []⟩

/-- Whether the table of an instance is shown. -/
def IsExposed (s : Inventory) (name : String) : Prop :=
  StringMap.contains (InstanceName.table name) s.tables = true

/-- Nothing is known of a name, and nobody is creating it. -/
structure Absent (s : Inventory) (settings : Settings) (name : String) : Prop where
  catalogued : s.ledger.find? name = none
  owned : s.ledger.owners (settings.entity name) = none
  stored : s.stored name = none
  reserved : name ∉ s.reserved

end Inventory

end DatasetCatalog
