import DatasetCatalog.Proofs.Lifecycle.Inventory
import DatasetCatalog.Proofs.Owner.Memory
import DatasetCatalog.Proofs.Registry.Memory

/-!
# Stores in memory

The abstract collaborators of the guarantees are met by a deployment that keeps its registry of
instances and its owner records in memory: `Stores.answer` then answers as a ledger permits,
whatever the storage is (`Stores.answer_permitted`). If its storage is in memory as well and nothing
is scripted to fail, it answers as an inventory does (`Stores.answer_works`).
-/

namespace DatasetCatalog

namespace Stores

/-- The registry of instances and the owner records are in memory; the storage can be anywhere. -/
structure InMemory (s : Stores) : Prop where
  instances : ∃ entries, s.instances = .memory entries
  owners : ∃ records, s.owners = .memory records

/-- The ledger of stores in memory. -/
def ledger (s : Stores) : Ledger where
  catalog :=
    match s.instances with
    | .memory entries => entries
    | .files _ => []
  owners entity :=
    match s.owners with
    | .memory records => Owner.Memory.find? entity records
    | .files _ => none

/-- All there is to stores in memory: only the registry of instances and the owner records are
fixed. -/
theorem InMemory.exists_eq {s : Stores} (h : s.InMemory) :
    ∃ types entries records storage gateway disk audit metrics,
      s = ⟨types, .memory entries, .memory records, storage, gateway, disk, audit, metrics⟩ := by
  obtain ⟨⟨entries, hentries⟩, ⟨records, hrecords⟩⟩ := h
  obtain ⟨types, instances, owners, storage, gateway, disk, audit, metrics⟩ := s
  dsimp only at hentries hrecords
  subst hentries hrecords
  exact ⟨types, entries, records, storage, gateway, disk, audit, metrics, rfl⟩

theorem InMemory.findInstance {s : Stores} (h : s.InMemory) (name : String) (rs : Reservations) :
    answer (.findInstance name) (rs, s) = (.ok (s.ledger.find? name), rs, s) := by
  obtain ⟨types, entries, records, storage, gateway, disk, audit, metrics, rfl⟩ := h.exists_eq
  rfl

theorem InMemory.allInstances {s : Stores} (h : s.InMemory) (rs : Reservations) :
    answer .allInstances (rs, s) = (.ok (StringMap.values s.ledger.catalog), rs, s) := by
  obtain ⟨types, entries, records, storage, gateway, disk, audit, metrics, rfl⟩ := h.exists_eq
  rfl

theorem InMemory.removeInstance {s : Stores} (h : s.InMemory) (name : String)
    (rs : Reservations) :
    (answer (.removeInstance name) (rs, s)).1 = .ok (s.ledger.find? name).isSome := by
  obtain ⟨types, entries, records, storage, gateway, disk, audit, metrics, rfl⟩ := h.exists_eq
  rfl

theorem InMemory.findOwner {s : Stores} (h : s.InMemory) (entity : EntityId) (rs : Reservations) :
    answer (.findOwner entity) (rs, s) = (.ok (s.ledger.owners entity), rs, s) := by
  obtain ⟨types, entries, records, storage, gateway, disk, audit, metrics, rfl⟩ := h.exists_eq
  rfl

theorem addInstance_ledger {s : Stores} (h : s.InMemory) (spec : Specification)
    (rs : Reservations) :
    ((answer (.addInstance spec) (rs, s)).1, (answer (.addInstance spec) (rs, s)).2.2.ledger) =
      s.ledger.addInstance spec := by
  obtain ⟨types, entries, records, storage, gateway, disk, audit, metrics, rfl⟩ := h.exists_eq
  let made := (Registry.Memory.add spec).run.run entries
  let stores (entries) : Stores :=
    ⟨types, .memory entries, .memory records, storage, gateway, disk, audit, metrics⟩
  change (made.1, (stores made.2).ledger) = (stores entries).ledger.addInstance spec
  have hmade : made = _ := Registry.Memory.add_run spec entries
  rw [hmade]
  split
  · next taken => exact (if_pos taken).symm
  · next free => exact (if_neg free).symm

theorem addOwner_ledger {s : Stores} (h : ∃ records, s.owners = .memory records)
    (entity : EntityId) (principal : Principal) (rs : Reservations) :
    ((answer (.addOwner entity principal) (rs, s)).1,
        (answer (.addOwner entity principal) (rs, s)).2.2.ledger) =
      s.ledger.addOwner entity principal := by
  obtain ⟨records, h⟩ := h
  obtain ⟨types, instances, owners, storage, gateway, disk, audit, metrics⟩ := s
  subst h
  let made := (Owner.Memory.add entity principal).run.run records
  let stores (records audit) : Stores :=
    ⟨types, instances, .memory records, storage, gateway, disk, audit, metrics⟩
  change (made.1, (stores made.2 _).ledger) = (stores records audit).ledger.addOwner entity principal
  have hmade : made = _ := Owner.Memory.add_run entity principal records
  rw [hmade, Ledger.addOwner]
  cases Owner.validate entity principal with
  | error e => rfl
  | ok u =>
    dsimp only
    split
    · next taken => exact (if_pos taken).symm
    · next free =>
      refine .trans ?_ (if_neg free).symm
      exact congrArg _ (Ledger.ext rfl (Owner.Memory.find?_cons entity principal records))

/-- Stores in memory stay there, and their answers are those that a ledger permits. -/
theorem answer_permitted {s : Stores} (h : s.InMemory) (c : Call) (rs : Reservations) :
    (answer c (rs, s)).2.2.InMemory ∧
      Ledger.Permits c s.ledger (answer c (rs, s)).1 (answer c (rs, s)).2.2.ledger := by
  have added spec := addInstance_ledger h spec rs
  have owned entity principal := addOwner_ledger h.owners entity principal rs
  obtain ⟨types, entries, records, storage, gateway, disk, audit, metrics, rfl⟩ := h.exists_eq
  cases c with
  | addInstance spec => exact ⟨⟨⟨_, rfl⟩, _, rfl⟩, .inl (added spec)⟩
  | addOwner entity principal => exact ⟨⟨⟨_, rfl⟩, _, rfl⟩, owned entity principal⟩
  | removeInstance name => exact ⟨⟨⟨_, rfl⟩, _, rfl⟩, .inl rfl⟩
  | findOwner entity => exact ⟨⟨⟨_, rfl⟩, _, rfl⟩, rfl, rfl⟩
  | removeOwner entity =>
    refine ⟨⟨⟨_, rfl⟩, _, rfl⟩, rfl, ?_⟩
    exact Ledger.ext rfl (Owner.Memory.find?_filter_ne records entity)
  | findInstance name => exact ⟨⟨⟨_, rfl⟩, _, rfl⟩, .inl rfl, rfl⟩
  | allInstances => exact ⟨⟨⟨_, rfl⟩, _, rfl⟩, .inl rfl, rfl⟩
  | _ => exact ⟨⟨⟨_, rfl⟩, _, rfl⟩, rfl⟩

/-! ### Storage in memory as well -/

/-- Everything is in memory, and nothing is scripted or switched to fail. -/
structure Working (s : Stores) : Prop extends s.InMemory where
  storage : ∃ m, s.storage = .memory m ∧ m.failures = []
  enabled : s.gateway.enabled = true
  exposes : s.gateway.failExpose = false
  withdraws : s.gateway.failWithdraw = false
  lists : s.gateway.failListing = false

/-- The inventory of stores in memory, for a coordinator that is creating some names. -/
def inventory (s : Reservations × Stores) : Inventory where
  types := s.2.types
  ledger := s.2.ledger
  stored name :=
    match s.2.storage with
    | .memory m => StringMap.find? name m.physical
    | _ => none
  tables := s.2.gateway.tables
  reserved := s.1

/-- Storage in memory accepts all properties, whatever the type. -/
def scriptedMaker : Maker where
  make c := .ok ((Specification.ofType c.name c.typeMeta.name).withProperties c.properties)
  named := by
    intro c spec h
    cases h
    rfl

theorem stored_insert (name : String) (spec : Specification) (m : StringMap Specification) :
    (fun n => StringMap.find? n (StringMap.insert name spec m)) =
      Function.update (fun n => StringMap.find? n m) name (some spec) := by
  funext n
  rw [StringMap.find?_insert, Function.update_apply]
  simp only [eq_comm]

theorem stored_erase (name : String) (m : StringMap Specification) :
    (fun n => StringMap.find? n (StringMap.erase name m)) =
      Function.update (fun n => StringMap.find? n m) name none := by
  funext n
  rw [StringMap.find?_erase, Function.update_apply]
  simp only [eq_comm]

/-- Stores that work go on to do so, and answer as an inventory does. -/
theorem answer_works {s : Stores} (h : s.Working) (c : Call) (rs : Reservations) :
    (answer c (rs, s)).2.2.Working ∧
      Inventory.Works scriptedMaker c (inventory (rs, s)) (answer c (rs, s)).1
        (inventory (answer c (rs, s)).2) := by
  obtain ⟨inMemory, ⟨m, hm, hfail⟩, enabled, exposes, withdraws, lists⟩ := h
  -- both lemmas are about any stores in memory, so they are taken before these are taken apart
  have added spec := addInstance_ledger inMemory spec rs
  have owned entity principal := addOwner_ledger inMemory.owners entity principal rs
  obtain ⟨types, entries, records, storage, gateway, disk, audit, metrics, rfl⟩ :=
    inMemory.exists_eq
  dsimp only at hm
  subst hm
  obtain ⟨tables, enabled', failExpose, failWithdraw, failListing⟩ := gateway
  dsimp only at enabled exposes withdraws lists
  subst enabled exposes withdraws lists
  obtain ⟨physical, failures, delays, history⟩ := m
  dsimp only at hfail
  subst hfail
  have working {types entries records physical tables disk audit metrics delays history} :
      Working ⟨types, .memory entries, .memory records,
        .memory ⟨physical, [], delays, history⟩, ⟨tables, true, false, false, false⟩, disk, audit,
        metrics⟩ :=
    ⟨⟨⟨_, rfl⟩, _, rfl⟩, ⟨_, rfl, rfl⟩, rfl, rfl, rfl, rfl⟩
  cases c with
  | addInstance spec =>
    refine ⟨working, ?_⟩
    refine (congrArg (fun r => (r.1, { inventory (rs, _) with ledger := r.2 })) (added spec)).symm
  | addOwner entity principal =>
    refine ⟨working, ?_⟩
    refine (congrArg (fun r => (r.1, { inventory (rs, _) with ledger := r.2 }))
      (owned entity principal)).symm
  | removeOwner entity =>
    refine ⟨working, ?_⟩
    exact congrArg (fun owners => ((.ok () : Except OwnerError Unit),
      { inventory (rs, _) with ledger := ⟨entries, owners⟩ })) (Owner.Memory.find?_filter_ne records entity).symm
  | perform r limit =>
    cases r with
    | create c =>
      let m : Storage.Scripted :=
        ⟨physical, [], Storage.Scripted.without ⟨"create", c.name⟩ delays,
          ⟨"create", c.name⟩ :: history⟩
      let stores (m : Storage.Scripted) : Stores :=
        ⟨types, .memory entries, .memory records, .memory m, ⟨tables, true, false, false, false⟩,
          disk, audit, metrics⟩
      change (stores (m.finish (.create c)).2).Working ∧
        (inventory (rs, stores m)).perform scriptedMaker (.create c) =
          ((m.finish (.create c)).1, inventory (rs, stores (m.finish (.create c)).2))
      by_cases taken : m.contains c.name = true
      · have hfinish : m.finish (.create c) = (.error (.alreadyExists c.name), m) := if_pos taken
        rw [hfinish]
        exact ⟨working, if_pos taken⟩
      · let spec := (Specification.ofType c.name c.typeMeta.name).withProperties c.properties
        have hfinish : m.finish (.create c) = (.ok spec, m.insertPhysical spec) := if_neg taken
        rw [hfinish]
        refine ⟨working, (if_neg taken).trans ?_⟩
        exact congrArg (fun stored => ((.ok spec : Except StorageError Specification),
          { inventory (rs, stores m) with stored := stored }))
          (stored_insert c.name spec physical).symm
    | drop r =>
      refine ⟨working, ?_⟩
      exact congrArg (fun stored => ((.ok () : Except StorageError Unit),
        { inventory (rs, _) with stored := stored })) (stored_erase r.spec.name physical).symm
    | truncate name => exact ⟨working, rfl⟩
    | upgrade name => exact ⟨working, rfl⟩
    | probe name => exact ⟨working, rfl⟩
  | expose name => exact ⟨working, rfl⟩
  | withdraw name => exact ⟨working, rfl⟩
  | exposedTables => exact ⟨working, rfl⟩
  | _ => exact ⟨working, rfl⟩

end Stores

/-! ### Conducts of stores in memory -/

/-- Stores with the registry of instances and the owner records in memory, beside the names that a
coordinator is creating. -/
abbrev MemoryStores := { s : Reservations × Stores // s.2.InMemory }

/-- The answers of stores in memory, which stay there. -/
def memoryAnswer (c : Call) (s : MemoryStores) : c.Answer × MemoryStores :=
  ((Stores.answer c s.1).1, ⟨(Stores.answer c s.1).2, (Stores.answer_permitted s.2 c s.1.1).1⟩)

/-- The conduct of stores in memory. -/
def memoryConduct : Conduct MemoryStores := fun c s a s' => Stores.answer c s.1 = (a, s'.1)

theorem memoryConduct_total : memoryConduct.Total := by
  rintro c ⟨⟨rs, s⟩, h⟩
  exact ⟨_, ⟨(Stores.answer c (rs, s)).2, (Stores.answer_permitted h c rs).1⟩, rfl⟩

theorem memoryConduct_permitted (c : Call) (s : MemoryStores) (a : c.Answer) (s' : MemoryStores)
    (answered : memoryConduct c s a s') : Ledger.Permits c s.1.2.ledger a s'.1.2.ledger := by
  obtain ⟨⟨rs, s⟩, h⟩ := s
  have permitted := (Stores.answer_permitted h c rs).2
  rw [show Stores.answer c (rs, s) = (a, s'.1) from answered] at permitted
  exact permitted

/-- Stores that work, beside the names that a coordinator is creating. -/
abbrev WorkingStores := { s : Reservations × Stores // s.2.Working }

/-- The answers of stores that work, which go on to do so. -/
def workingAnswer (c : Call) (s : WorkingStores) : c.Answer × WorkingStores :=
  ((Stores.answer c s.1).1, ⟨(Stores.answer c s.1).2, (Stores.answer_works s.2 c s.1.1).1⟩)

/-- The conduct of stores that work. -/
def workingConduct : Conduct WorkingStores := fun c s a s' => Stores.answer c s.1 = (a, s'.1)

theorem workingConduct_total : workingConduct.Total := by
  rintro c ⟨⟨rs, s⟩, h⟩
  exact ⟨_, ⟨(Stores.answer c (rs, s)).2, (Stores.answer_works h c rs).1⟩, rfl⟩

theorem workingConduct_works (c : Call) (s : WorkingStores) (a : c.Answer) (s' : WorkingStores)
    (answered : workingConduct c s a s') :
    Inventory.Works Stores.scriptedMaker c (Stores.inventory s.1) a (Stores.inventory s'.1) := by
  obtain ⟨⟨rs, s⟩, h⟩ := s
  have works := (Stores.answer_works h c rs).2
  rw [show Stores.answer c (rs, s) = (a, s'.1) from answered] at works
  exact works

/-- The stores of a new deployment. -/
def WorkingStores.fresh : WorkingStores :=
  ⟨([], {}), ⟨⟨⟨_, rfl⟩, _, rfl⟩, ⟨_, rfl, rfl⟩, rfl, rfl, rfl, rfl⟩⟩

end DatasetCatalog
