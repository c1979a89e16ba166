import DatasetCatalog.Proofs.Lifecycle.Grounds
import DatasetCatalog.Proofs.Lifecycle.Unvouched

/-!
# Ledgers in files

A deployment can keep its registry of instances in files, and its owner records there as well or in
memory. `Filed` says which ledger these stores stand for. As long as the directories are apart, nothing
that storage does in its own one comes in between, and every call is answered as the ledger says
(`Filed.serves`).

`Keeping` is this or a ledger in memory. A run on such stores is a run on the ledger (`Keeping.runs`),
some ledger is kept in every state that operations lead to (`Keeping.interleaves`), and what is looked
up is what the ledger has (`Keeping.get_eq`). From here on the disk is out of the picture.
-/

namespace DatasetCatalog

open Disk Program

namespace Ledger

variable {l : Ledger}

/-! ### Recording owners -/

theorem catalog_addOwner (l : Ledger) (entity : EntityId) (principal : Principal) :
    (l.addOwner entity principal).2.catalog = l.catalog := by
  unfold addOwner
  split
  · rfl
  · split <;> rfl

/-- Whether an owner is recorded depends on the records alone. -/
theorem addOwner_congr {k : Ledger} (same : l.owners = k.owners) (entity : EntityId)
    (principal : Principal) :
    (l.addOwner entity principal).1 = (k.addOwner entity principal).1 ∧
      (l.addOwner entity principal).2.owners = (k.addOwner entity principal).2.owners := by
  unfold addOwner
  cases Owner.validate entity principal with
  | error e => exact ⟨rfl, same⟩
  | ok u =>
    dsimp only
    rw [same]
    split
    · exact ⟨rfl, same⟩
    · refine ⟨rfl, ?_⟩
      rw [own, own, same]

/-- Recording an owner in a write-once map. -/
theorem addOwner_register {m : Owner.Register} (same : l.owners = fun entity => m.lookup entity)
    (entity : EntityId) (principal : Principal) :
    l.addOwner entity principal =
      (match m.refusal? entity principal with
        | some e => .error e
        | none => .ok (),
        ⟨l.catalog, (if m.refusal? entity principal = none then m.insert entity principal
          else m).lookup⟩) := by
  rw [addOwner, Owner.Register.refusal?_eq]
  cases Owner.validate entity principal with
  | error e => exact Prod.ext rfl (Ledger.ext rfl same)
  | ok u =>
    have known : l.owners entity = m.lookup entity := congrFun same entity
    dsimp only
    rw [known]
    by_cases taken : (m.lookup entity).isSome
    · simp only [if_pos taken]
      exact Prod.ext rfl (Ledger.ext rfl same)
    · simp only [if_neg taken, if_pos]
      refine Prod.ext rfl (Ledger.ext rfl ?_)
      funext other
      change Function.update l.owners entity (some principal) other =
        (m.insert entity principal).lookup other
      rw [Function.update_apply, same, Owner.Register.lookup_insert]

/-- Forgetting an owner in such a map. -/
theorem disown_register {m : Owner.Register} (same : l.owners = fun entity => m.lookup entity)
    (entity : EntityId) :
    (l.disown entity).owners = fun other => (m.erase entity).lookup other := by
  funext other
  change Function.update l.owners entity none other = _
  rw [Function.update_apply, same, Owner.Register.lookup_erase]

end Ledger

namespace Stores

variable {s : Stores}

/-! ### Stores in files -/

/-- Whether an instance is catalogued: its entry is in memory, or the file of its entry is there. -/
def catalogues (s : Stores) (name : String) : Bool :=
  match s.instances with
  | .memory entries => StringMap.contains name entries
  | .files root =>
    (s.disk.node? (Registry.Files.entryPlace (placeFrom s.disk.workingDirectory root) name)).isSome

theorem onInstances_files {α : Type} {root : Path} {inMemory : Registry.Memory.MemoryAction α}
    {onFiles : Path → Registry.RegistryAction α} {r : Except RegistryError α} {d' : Disk}
    (kept : s.instances = .files root) (run : (onFiles root).run.run s.disk = (r, d')) :
    s.onInstances (InstanceRegistry.either inMemory onFiles) = (r, { s with disk := d' }) := by
  obtain ⟨types, instances, owners, storage, gateway, disk, audit, metrics⟩ := s
  subst kept
  have unfolded : onInstances (InstanceRegistry.either inMemory onFiles)
      ⟨types, .files root, owners, storage, gateway, disk, audit, metrics⟩ =
        (((onFiles root).run.run disk).1, ⟨types, .files root, owners, storage, gateway,
          ((onFiles root).run.run disk).2, audit, metrics⟩) := rfl
  rw [unfolded, run]

theorem addOwner_files {root : Path} {entity : EntityId} {principal : Principal}
    {r : Except OwnerError Unit} {d' : Disk} (kept : s.owners = .files root)
    (run : (Owner.Files.add root entity principal).run.run s.disk = (r, d')) :
    s.addOwner entity principal =
      (r, { s with disk := d' }.recordAll (Owner.addEvents entity principal r)) := by
  obtain ⟨types, instances, owners, storage, gateway, disk, audit, metrics⟩ := s
  subst kept
  have unfolded : addOwner entity principal
      ⟨types, instances, .files root, storage, gateway, disk, audit, metrics⟩ =
        (((Owner.Files.add root entity principal).run.run disk).1,
          Stores.recordAll (Owner.addEvents entity principal
            ((Owner.Files.add root entity principal).run.run disk).1)
          ⟨types, instances, .files root, storage, gateway,
            ((Owner.Files.add root entity principal).run.run disk).2, audit, metrics⟩) := rfl
  rw [unfolded, run]

theorem findOwner_files {root : Path} {entity : EntityId} {r : Except OwnerError (Option Principal)}
    {d' : Disk} (kept : s.owners = .files root)
    (run : (Owner.Files.get root entity).run.run s.disk = (r, d')) :
    s.findOwner entity = (r, { s with disk := d' }) := by
  obtain ⟨types, instances, owners, storage, gateway, disk, audit, metrics⟩ := s
  subst kept
  have unfolded : findOwner entity
      ⟨types, instances, .files root, storage, gateway, disk, audit, metrics⟩ =
        (((Owner.Files.get root entity).run.run disk).1, ⟨types, instances, .files root, storage,
          gateway, ((Owner.Files.get root entity).run.run disk).2, audit, metrics⟩) := rfl
  rw [unfolded, run]

theorem removeOwner_files {root : Path} {entity : EntityId} {r : Except OwnerError Bool}
    {d' : Disk} (kept : s.owners = .files root)
    (run : (Owner.Files.delete root entity).run.run s.disk = (r, d')) :
    s.removeOwner entity = (r.map fun _ => (),
      { s with disk := d' }.recordAll (Owner.deleteEvents entity r)) := by
  obtain ⟨types, instances, owners, storage, gateway, disk, audit, metrics⟩ := s
  subst kept
  have unfolded : removeOwner entity
      ⟨types, instances, .files root, storage, gateway, disk, audit, metrics⟩ =
        (((Owner.Files.delete root entity).run.run disk).1.map fun _ => (),
          Stores.recordAll (Owner.deleteEvents entity
            ((Owner.Files.delete root entity).run.run disk).1)
          ⟨types, instances, .files root, storage, gateway,
            ((Owner.Files.delete root entity).run.run disk).2, audit, metrics⟩) := rfl
  rw [unfolded, run]

end Stores

/-- Owners can be recorded in files: the namespace can be the name of a directory. -/
structure Settings.Recordable (settings : Settings) : Prop where
  safe : isSafeName settings.namespace = true
  short : Utf8.size settings.namespace ≤ nameLimit

namespace Lifecycle

variable {g : Grounds} {settings : Settings} {name : String} {ok : Specification → Prop}
  {l l' : Ledger} {owners : EntityId → Option Principal} {s s' : Stores} {area : Place → Prop}

theorem storable_entity (recordable : settings.Recordable) (nameable : Nameable name) :
    Owner.Storable (settings.entity name) :=
  ⟨recordable.safe, recordable.short, nameable.safe, Nat.le_trans nameable.short (by decide)⟩

/-- The owner records are those of a ledger, in memory or in files. -/
inductive OwnersKept (g : Grounds) (settings : Settings) (owners : EntityId → Option Principal)
    (s : Stores) : Prop
  | memory (records : Owner.Records) (kept : s.owners = .memory records)
      (same : owners = fun entity => Owner.Memory.find? entity records)
  | files (kept : s.owners = .files g.owners) (recordable : settings.Recordable)
      (m : Owner.Register) (keeps : Owner.Files.Keeps g.owners g.ownersPlace m s.disk)
      (same : owners = fun entity => m.lookup entity)

/-- The instances and the owner records are those of a ledger, the instances in files. -/
structure Filed (g : Grounds) (settings : Settings) (ok : Specification → Prop) (l : Ledger)
    (s : Stores) : Prop where
  workingDirectory : s.disk.workingDirectory = g.workingDirectory
  named : g.registry.text.isEmpty = false
  instances : s.instances = .files g.registry
  catalog : Registry.Files.Holds g.registry g.registryPlace l.catalog s.disk
  fits : ∀ e ∈ l.catalog, ok e.2
  owners : OwnersKept g settings l.owners s

/-- What happens out of the way of the owner store leaves the records as they are. -/
theorem OwnersKept.of_aloof (h : OwnersKept g settings owners s) (kept : s'.owners = s.owners)
    (hw : s.disk.workingDirectory = g.workingDirectory) (touches : Touches area s.disk s'.disk)
    (aloof : Aloof g.workingDirectory g.owners area) : OwnersKept g settings owners s' := by
  cases h with
  | memory records inMemory same => exact .memory records (kept.trans inMemory) same
  | files inFiles recordable m keeps same =>
    exact .files (kept.trans inFiles) recordable m (keeps.of_aloof hw touches.toSpares aloof) same

/-- What happens out of the way of the registry and the owner store leaves the ledger as it is. -/
theorem Filed.of_aloof (h : Filed g settings ok l s) (instances : s'.instances = s.instances)
    (owners : s'.owners = s.owners) (touches : Touches area s.disk s'.disk)
    (registry : Aloof g.workingDirectory g.registry area)
    (records : Aloof g.workingDirectory g.owners area) : Filed g settings ok l s' :=
  ⟨touches.workingDirectory.trans h.workingDirectory, h.named, instances.trans h.instances,
    h.catalog.of_aloof h.workingDirectory touches registry, h.fits,
    h.owners.of_aloof owners h.workingDirectory touches records⟩

/-! ### Owner records -/

/-- An owner is recorded as the ledger says, and nothing but records is touched. -/
theorem OwnersKept.addOwner (h : OwnersKept g settings l.owners s) (nameable : Nameable name)
    (principal : Principal) :
    ∃ s', s.addOwner (settings.entity name) principal =
        ((l.addOwner (settings.entity name) principal).1, s') ∧
      OwnersKept g settings (l.addOwner (settings.entity name) principal).2.owners s' ∧
      s'.instances = s.instances ∧ s'.types = s.types ∧
      Touches (inside g.ownersPlace) s.disk s'.disk := by
  cases h with
  | memory records kept same =>
    have asLedger := Stores.addOwner_ledger ⟨records, kept⟩ (settings.entity name) principal []
    have records' : s.ledger.owners = l.owners := by
      rw [same]
      funext entity
      rw [Stores.ledger, kept]
    obtain ⟨answered, recorded⟩ := Ledger.addOwner_congr records' (settings.entity name) principal
    obtain ⟨types, instances, owners, storage, gateway, disk, audit, metrics⟩ := s
    obtain rfl : owners = .memory records := kept
    have result := congrArg Prod.fst asLedger
    have after := congrArg (fun r => r.2.owners) asLedger
    refine ⟨_, Prod.ext (result.trans answered) rfl, ?_, rfl, rfl, .refl _ _⟩
    exact .memory _ rfl (recorded.symm.trans after.symm)
  | files kept recordable m keeps same =>
    have storable := storable_entity recordable nameable
    obtain ⟨d', run, keeps'⟩ := Owner.Files.add_run keeps storable principal
    have touches := (Owner.Files.add_stays keeps storable.shortName run).2
    rw [Ledger.addOwner_register same]
    exact ⟨_, Stores.addOwner_files kept run, .files kept recordable _ keeps' rfl, rfl, rfl,
      touches.mono fun _ => Owner.Files.inside_of_recordArea⟩

/-- An owner is looked up as the ledger says. -/
theorem OwnersKept.findOwner (h : OwnersKept g settings owners s) (nameable : Nameable name) :
    s.findOwner (settings.entity name) = (.ok (owners (settings.entity name)), s) := by
  cases h with
  | memory records kept same =>
    obtain ⟨types, instances, owners, storage, gateway, disk, audit, metrics⟩ := s
    subst kept
    rw [same]
    rfl
  | files kept recordable m keeps same =>
    rw [Stores.findOwner_files kept (Owner.Files.get_run keeps (storable_entity recordable nameable)),
      same]

/-- An owner is forgotten as the ledger says, and nothing but records is touched. -/
theorem OwnersKept.removeOwner (h : OwnersKept g settings l.owners s) (nameable : Nameable name) :
    ∃ s', s.removeOwner (settings.entity name) = (.ok (), s') ∧
      OwnersKept g settings (l.disown (settings.entity name)).owners s' ∧
      s'.instances = s.instances ∧ s'.types = s.types ∧
      Touches (inside g.ownersPlace) s.disk s'.disk := by
  cases h with
  | memory records kept same =>
    obtain ⟨types, instances, owners, storage, gateway, disk, audit, metrics⟩ := s
    subst kept
    refine ⟨_, rfl, .memory _ rfl ?_, rfl, rfl, .refl _ _⟩
    rw [Ledger.disown, same]
    exact (Owner.Memory.find?_filter_ne records _).symm
  | files kept recordable m keeps same =>
    have storable := storable_entity recordable nameable
    obtain ⟨d', run, keeps'⟩ := Owner.Files.delete_run keeps storable
    have touches := (Owner.Files.delete_stays keeps storable.shortName run).2
    exact ⟨_, Stores.removeOwner_files kept run,
      .files kept recordable _ keeps' (Ledger.disown_register same _), rfl, rfl,
      touches.mono fun _ => Owner.Files.inside_of_recordArea⟩

theorem Filed.of_drifts (h : Filed g settings ok l s) (apart : g.Apart)
    (drifts : s.Drifts (inside g.dataPlace) s') : Filed g settings ok l s' :=
  h.of_aloof drifts.instances drifts.owners drifts.touches apart.registry.2 apart.owners.2

/-! ### Calls -/

/-- The files of the registry have changed, and the owner records are elsewhere. -/
theorem Filed.of_registry (h : Filed g settings ok l s) (apart : g.Apart) {d' : Disk}
    (touches : Touches (inside g.registryPlace) s.disk d')
    (catalog : Registry.Files.Holds g.registry g.registryPlace l'.catalog d')
    (fits : ∀ e ∈ l'.catalog, ok e.2) (same : l'.owners = l.owners) :
    Filed g settings ok l' { s with disk := d' } := by
  have owners : OwnersKept g settings l.owners { s with disk := d' } :=
    h.owners.of_aloof rfl h.workingDirectory touches apart.owners.1
  exact ⟨touches.workingDirectory.trans h.workingDirectory, h.named, h.instances, catalog, fits,
    same ▸ owners⟩

/-- Owner records have changed, and the files of the registry are elsewhere. -/
theorem Filed.of_owners (h : Filed g settings ok l s) (apart : g.Apart)
    (instances : s'.instances = s.instances) (touches : Touches (inside g.ownersPlace) s.disk s'.disk)
    (owners : OwnersKept g settings l'.owners s') (same : l'.catalog = l.catalog) :
    Filed g settings ok l' s' :=
  ⟨touches.workingDirectory.trans h.workingDirectory, h.named, instances.trans h.instances,
    same ▸ h.catalog.of_aloof h.workingDirectory touches apart.registry.1, same ▸ h.fits, owners⟩

theorem inside_of_entry {q : Place} (h : q = g.entryPlace name) : inside g.registryPlace q := by
  subst h
  exact ⟨_, List.prefix_refl _⟩

theorem Filed.add (h : Filed g settings ok l s) (apart : g.Apart)
    (ordered : ∀ spec, ok spec → spec.Ordered) {spec : Specification} (nameable : Nameable spec.name)
    (fits : ok spec) :
    ∃ s', s.onInstances (InstanceRegistry.add spec) = ((l.addInstance spec).1, s') ∧
      Filed g settings ok (l.addInstance spec).2 s' ∧ s'.types = s.types := by
  have writable : Registry.Writable spec := ⟨nameable.safe, nameable.short, ordered spec fits⟩
  rcases run : (Registry.Files.add g.registry spec).run.run s.disk with ⟨r, d'⟩
  obtain ⟨rfl, holds, touches⟩ := h.catalog.add_exact writable run
  refine ⟨{ s with disk := d' }, ?_, ?_, rfl⟩
  · rw [InstanceRegistry.add, Stores.onInstances_files h.instances run, Ledger.addInstance,
      Ledger.find?]
    cases StringMap.find? spec.name l.catalog <;> rfl
  · have within := touches.mono fun _ => inside_of_entry
    rw [Ledger.addInstance, Ledger.find?]
    cases found : StringMap.find? spec.name l.catalog with
    | some taken =>
      rw [found] at holds
      exact h.of_registry apart within holds h.fits rfl
    | none =>
      rw [found] at holds
      refine h.of_registry apart within holds (fun e he => ?_) rfl
      rcases (StringMap.mem_insert_of_free found).1 he with rfl | he
      · exact fits
      · exact h.fits e he

theorem Filed.remove (h : Filed g settings ok l s) (apart : g.Apart) (nameable : Nameable name) :
    ∃ s', s.onInstances (InstanceRegistry.delete name) = ((l.removeInstance name).1, s') ∧
      Filed g settings ok (l.removeInstance name).2 s' ∧ s'.types = s.types := by
  rcases run : (Registry.Files.delete g.registry name).run.run s.disk with ⟨r, d'⟩
  obtain ⟨rfl, holds, touches⟩ := h.catalog.delete_exact nameable.safe nameable.short run
  refine ⟨_, Stores.onInstances_files h.instances run, ?_, rfl⟩
  exact h.of_registry apart (touches.mono fun _ => inside_of_entry) holds
    (fun e he => h.fits e ((StringMap.erase_sublist name l.catalog).subset he)) rfl

theorem Filed.find (h : Filed g settings ok l s) (name : String) :
    s.onInstances (InstanceRegistry.get name) = (l.reads true name, s) :=
  Stores.onInstances_files h.instances (h.catalog.get_eq name)

theorem Filed.all (h : Filed g settings ok l s) :
    ∃ r, s.onInstances InstanceRegistry.getAll = (r, s) ∧
      (l.Legible true → r = .ok (StringMap.values l.catalog)) ∧
      (¬ l.Legible true → ∃ fault, r = .error (.unreadable fault)) := by
  obtain ⟨r, run, listed, failed⟩ := h.catalog.getAll_eq h.named
  refine ⟨r, Stores.onInstances_files h.instances run, fun legible => listed (legible rfl),
    fun illegible => failed ?_⟩
  simpa [Ledger.Legible] using illegible

/-- Where the registry is in files all calls are answered as the ledger says, and as expected. -/
theorem Filed.serves (h : Filed g settings ok l s) (apart : g.Apart)
    (ordered : ∀ spec, ok spec → spec.Ordered) {c : Call} {a : c.Answer}
    (concerns : ConcernsUnder ok settings name c)
    (answered : Stores.Unvouched (inside g.dataPlace) ok c s a s') :
    ∃ l', Ledger.Serves true s.types c l a l' ∧ Filed g settings ok l' s' ∧ SoundUnder ok ⟨c, a⟩ ∧
      s'.types = s.types := by
  obtain ⟨s₁, drifts, does⟩ := answered
  replace h := h.of_drifts apart drifts
  rw [← drifts.types]
  -- calls that do not reach the ledger leave its stores as they are
  have aside (instances : s'.instances = s₁.instances) (owners : s'.owners = s₁.owners)
      (disk : s'.disk = s₁.disk) : Filed g settings ok l s' :=
    h.of_aloof instances owners (disk ▸ Touches.refl (fun _ => False) _) (fun _ _ => id)
      fun _ _ => id
  cases c with
  | reserve n =>
    obtain rfl : s' = s₁ := does
    exact ⟨l, rfl, h, trivial, rfl⟩
  | perform r limit =>
    obtain ⟨gives, rfl⟩ := does
    refine ⟨l, rfl, h, ?_, rfl⟩
    cases r with
    | create c =>
      cases a with
      | ok spec => exact fun _ _ => gives
      | error e => exact trivial
    | _ => exact trivial
  | findInstance n =>
    have run : s₁.onInstances (InstanceRegistry.get n) = (a, s') := congrArg (·.map id Prod.snd) does
    cases (h.find n).symm.trans run
    refine ⟨l, ⟨rfl, rfl⟩, h, ?_, rfl⟩
    cases read : l.reads true n with
    | error e => exact trivial
    | ok found =>
      obtain ⟨safe, short, there⟩ := Registry.Files.lookup_eq_ok.1 (Registry.Files.reads_eq_ok read)
      exact ⟨⟨safe, short⟩, fun spec heq => (h.catalog.writable_of_find? (there.trans heq)).1⟩
  | allInstances =>
    have run : s₁.onInstances InstanceRegistry.getAll = (a, s') := congrArg (·.map id Prod.snd) does
    obtain ⟨r, listed, legible, illegible⟩ := h.all
    cases listed.symm.trans run
    refine ⟨l, ⟨legible, illegible, rfl⟩, h, ?_, rfl⟩
    cases a with
    | error e => exact trivial
    | ok specs =>
      intro spec hspec
      have all : specs = StringMap.values l.catalog := by
        by_cases readable : l.Legible true
        · exact Except.ok.inj (legible readable)
        · obtain ⟨fault, failed⟩ := illegible readable
          cases failed
      subst all
      obtain ⟨e, he, rfl⟩ := List.mem_map.1 hspec
      have writable := (h.catalog.entry e he).2
      exact ⟨writable.safe, writable.short⟩
  | addInstance spec =>
    obtain ⟨rfl, nameable, fits⟩ := concerns
    have run : s₁.onInstances (InstanceRegistry.add spec) = (a, s') :=
      congrArg (·.map id Prod.snd) does
    obtain ⟨s₂, added, h', types⟩ := h.add apart ordered nameable fits
    cases added.symm.trans run
    exact ⟨_, rfl, h', trivial, types⟩
  | removeInstance n =>
    obtain ⟨rfl, nameable⟩ := concerns
    have run : s₁.onInstances (InstanceRegistry.delete n) = (a, s') :=
      congrArg (·.map id Prod.snd) does
    obtain ⟨s₂, removed, h', types⟩ := h.remove apart nameable
    cases removed.symm.trans run
    exact ⟨_, rfl, h', trivial, types⟩
  | addOwner entity principal =>
    obtain ⟨rfl, nameable⟩ := concerns
    have run : s₁.addOwner (settings.entity name) principal = (a, s') :=
      congrArg (·.map id Prod.snd) does
    obtain ⟨s₂, added, owners, instances, types, touches⟩ := h.owners.addOwner nameable principal
    cases added.symm.trans run
    exact ⟨_, rfl, h.of_owners apart instances touches owners (Ledger.catalog_addOwner _ _ _),
      trivial, types⟩
  | findOwner entity =>
    obtain ⟨rfl, nameable⟩ := concerns
    have run : s₁.findOwner (settings.entity name) = (a, s') := congrArg (·.map id Prod.snd) does
    cases (h.owners.findOwner nameable).symm.trans run
    exact ⟨l, ⟨rfl, rfl⟩, h, trivial, rfl⟩
  | removeOwner entity =>
    obtain ⟨rfl, nameable⟩ := concerns
    have run : s₁.removeOwner (settings.entity name) = (a, s') := congrArg (·.map id Prod.snd) does
    obtain ⟨s₂, removed, owners, instances, types, touches⟩ := h.owners.removeOwner nameable
    cases removed.symm.trans run
    exact ⟨l.disown _, ⟨rfl, rfl⟩, h.of_owners apart instances touches owners rfl, trivial, types⟩
  | findType n =>
    obtain rfl : a = .ok (s₁.types.find? n) := congrArg Prod.fst does.symm
    obtain rfl : s' = s₁ := congrArg (·.2.2) does.symm
    exact ⟨l, ⟨rfl, rfl⟩, h, trivial, rfl⟩
  | exposedTables =>
    obtain rfl : s' = s₁ := congrArg (·.2.2) does.symm
    exact ⟨l, rfl, h, trivial, rfl⟩
  | _ =>
    have same := aside (congrArg (·.2.2.instances) does.symm) (congrArg (·.2.2.owners) does.symm)
      (congrArg (·.2.2.disk) does.symm)
    exact ⟨l, rfl, same, trivial, congrArg (·.2.2.types) does.symm⟩

/-! ### Runs -/

/-- The instances and the owner records are those of a ledger, in files or both in memory. -/
inductive Keeping (g : Grounds) (settings : Settings) (ok : Specification → Prop) :
    Bool → Ledger → Stores → Prop
  | memory {s : Stores} (h : s.InMemory) : Keeping g settings ok false s.ledger s
  | files {l : Ledger} {s : Stores} (h : Filed g settings ok l s) : Keeping g settings ok true l s

/-- The directories are apart, and there is nothing in those of the catalog but what a catalog has left
there. -/
structure Grounds.Tidy (g : Grounds) (ok : Specification → Prop) (d : Disk) : Prop where
  apart : g.Apart
  workingDirectory : d.workingDirectory = g.workingDirectory
  instances : ∃ m, Registry.Files.Holds g.registry g.registryPlace m d ∧ ∀ e ∈ m, ok e.2
  owners : ∃ m, Owner.Files.Keeps g.owners g.ownersPlace m d

theorem Grounds.Fresh.tidy {d : Disk} (h : g.Fresh d) : g.Tidy ok d where
  apart := h.isApart
  workingDirectory := h.workingDirectory
  instances := ⟨[], (Registry.Files.keeps_of_vacant h.registry).toHolds, nofun⟩
  owners := ⟨∅, Owner.Files.keeps_of_vacant h.owners⟩

/-- Storage is confined to its directory, if there are others. -/
structure Contained (g : Grounds) (inFiles : Bool) (area : Place → Prop) : Prop where
  apart : inFiles = true → g.Apart
  within : inFiles = true → ∀ q, area q → inside g.dataPlace q

variable {inFiles : Bool}

theorem Contained.unvouched (h : Contained g true area) {c : Call} {a : c.Answer}
    (answered : Stores.Unvouched area ok c s a s') :
    Stores.Unvouched (inside g.dataPlace) ok c s a s' := by
  obtain ⟨s₁, drifts, does⟩ := answered
  exact ⟨s₁, drifts.mono (h.within rfl), does⟩

/-- What a program does to the stores, whatever storage does meanwhile, is a run on the ledger. -/
theorem Keeping.runs {α : Type} {p : Program α} {Q : α → Prop} {xs : List Exchange} {a : α}
    (h : Keeping g settings ok inFiles l s) (contained : Contained g inFiles area)
    (ordered : ∀ spec, ok spec → spec.Ordered)
    (relies : Relies (fun c => ∃ name, ConcernsUnder ok settings name c) (SoundUnder ok) p Q)
    (run : Runs (Stores.Unvouched area ok) p s xs a s') :
    ∃ l', Runs (Ledger.Serves inFiles s.types) p l xs a l' ∧ Keeping g settings ok inFiles l' s' ∧
      s'.types = s.types := by
  cases h with
  | memory inMemory =>
    obtain ⟨l', runs, rfl, inMemory', types⟩ := run.reliant_simulate
      (I := fun l s₁ => s₁.ledger = l ∧ s₁.InMemory ∧ s₁.types = s.types) (R := fun _ => True)
      (Relies.nothing p) ⟨rfl, inMemory, rfl⟩ (by
        rintro c _ s₁ a s₂ - ⟨rfl, inMemory, types⟩ answered
        obtain ⟨serves, inMemory', types'⟩ := inMemory.serves answered
        exact ⟨_, types ▸ serves, ⟨rfl, inMemory', types'.trans types⟩, trivial⟩)
    exact ⟨_, runs, .memory inMemory', types⟩
  | files filed =>
    obtain ⟨l', runs, filed', types⟩ := run.reliant_simulate
      (I := fun l s₁ => Filed g settings ok l s₁ ∧ s₁.types = s.types) relies ⟨filed, rfl⟩ (by
        rintro c l₁ s₁ a s₂ ⟨name, concerns⟩ ⟨filed, types⟩ answered
        obtain ⟨l₂, serves, filed', sound, types'⟩ := filed.serves (contained.apart rfl) ordered
          concerns (contained.unvouched answered)
        exact ⟨l₂, types ▸ serves, ⟨filed', types'.trans types⟩, sound⟩)
    exact ⟨l', runs, .files filed', types⟩

/-- In every state that operations lead to, one after the other or side by side, a ledger is kept. -/
theorem Keeping.interleaves {ι : Type} [DecidableEq ι] {calls : ι → Errand}
    {q : Threads ι (Except CatalogError Unit)} {ys : List (ThreadExchange ι)}
    (h : Keeping g settings ok inFiles l s) (contained : Contained g inFiles area)
    (ordered : ∀ spec, ok spec → spec.Ordered)
    (reached : Interleaves (Stores.Unvouched area ok) (fun i => (calls i).program settings) s ys q
      s') : ∃ l', Keeping g settings ok inFiles l' s' ∧ s'.types = s.types := by
  cases h with
  | memory inMemory =>
    obtain ⟨inMemory', types⟩ := (reached.reliant (P := fun _ => True) (R := fun _ => True)
      (Q := fun _ => True) (I := fun s₁ => s₁.InMemory ∧ s₁.types = s.types)
      (fun i => Relies.nothing _) ⟨inMemory, rfl⟩ (by
        rintro _ c s₁ a s₂ - ⟨inMemory, types⟩ answered
        obtain ⟨-, inMemory', types'⟩ := inMemory.serves answered
        exact ⟨⟨inMemory', types'.trans types⟩, trivial⟩)).1
    exact ⟨_, .memory inMemory', types⟩
  | files filed =>
    obtain ⟨⟨l', filed'⟩, types⟩ := (reached.reliant
      (I := fun s₁ => (∃ l₁, Filed g settings ok l₁ s₁) ∧ s₁.types = s.types)
      (fun i => heeds_each settings (calls i)) ⟨⟨l, filed⟩, rfl⟩ (by
        rintro _ c s₁ a s₂ ⟨name, concerns⟩ ⟨⟨l₁, filed⟩, types⟩ answered
        obtain ⟨l₂, -, filed', sound, types'⟩ := filed.serves (contained.apart rfl) ordered concerns
          (contained.unvouched answered)
        exact ⟨⟨⟨l₂, filed'⟩, types'.trans types⟩, sound⟩)).1
    exact ⟨l', .files filed', types⟩

/-! ### Looking up -/

variable {rs : Reservations}

theorem Keeping.find (h : Keeping g settings ok inFiles l s) (name : String) :
    (findInstance name).run Stores.answer (rs, s) = (l.reads inFiles name, rs, s) := by
  cases h with
  | memory inMemory => exact inMemory.findInstance name rs
  | files filed =>
    have unfolded : (findInstance name).run Stores.answer (rs, s) =
        ((s.onInstances (InstanceRegistry.get name)).1, rs,
          (s.onInstances (InstanceRegistry.get name)).2) := rfl
    rw [unfolded, filed.find name]

theorem Keeping.all (h : Keeping g settings ok inFiles l s) :
    ∃ r, allInstances.run Stores.answer (rs, s) = (r, rs, s) ∧
      (l.Legible inFiles → r = .ok (StringMap.values l.catalog)) ∧
      (¬ l.Legible inFiles → ∃ fault, r = .error (.unreadable fault)) := by
  cases h with
  | memory inMemory =>
    exact ⟨_, inMemory.allInstances rs, fun _ => rfl, fun illegible => absurd nofun illegible⟩
  | files filed =>
    obtain ⟨r, listed, answers⟩ := filed.all
    have unfolded : allInstances.run Stores.answer (rs, s) =
        ((s.onInstances InstanceRegistry.getAll).1, rs,
          (s.onInstances InstanceRegistry.getAll).2) := rfl
    rw [listed] at unfolded
    exact ⟨r, unfolded, answers⟩

theorem Keeping.owner (h : Keeping g settings ok inFiles l s)
    (nameable : inFiles = true → Nameable name) :
    (findOwner (settings.entity name)).run Stores.answer (rs, s) =
      (.ok (l.owners (settings.entity name)), rs, s) := by
  cases h with
  | memory inMemory => exact inMemory.findOwner (settings.entity name) rs
  | files filed =>
    have unfolded : (findOwner (settings.entity name)).run Stores.answer (rs, s) =
        ((s.findOwner (settings.entity name)).1, rs, (s.findOwner (settings.entity name)).2) := rfl
    rw [unfolded, filed.owners.findOwner (nameable rfl)]

/-- What is catalogued is what the ledger has. -/
theorem Keeping.catalogues_eq (h : Keeping g settings ok inFiles l s)
    (safe : isSafeName name = true) : s.catalogues name = (l.find? name).isSome := by
  cases h with
  | memory inMemory =>
    obtain ⟨⟨entries, hentries⟩, -⟩ := inMemory
    rw [Stores.catalogues, hentries, Ledger.find?, Stores.ledger, hentries]
    rfl
  | files filed =>
    have there := filed.catalog.file name safe
    rw [Stores.catalogues, filed.instances, filed.workingDirectory]
    change (s.disk.node? (g.registryPlace ++ [Registry.Files.entryOf name])).isSome = _
    rw [there, Option.isSome_map]
    rfl

/-- What the ledger has can be read, unless it nests too deep for a reader of files. -/
theorem Keeping.reads_of_found (h : Keeping g settings ok inFiles l s) {spec : Specification}
    (found : l.find? name = some spec)
    (shallow : inFiles = true → spec.toJson.depth ≤ Json.depthLimit) :
    l.reads inFiles name = .ok (some spec) := by
  cases h with
  | memory inMemory => exact congrArg Except.ok found
  | files filed =>
    obtain ⟨rfl, writable⟩ := filed.catalog.writable_of_find? found
    have looked := Registry.Files.lookup_eq_ok.2 ⟨writable.safe, writable.short, found⟩
    change Registry.Files.reads l.catalog spec.name = _
    rw [Registry.Files.reads_of_some looked, Registry.Files.reading_of_shallow (shallow rfl)]
    rfl

theorem nameable_of_reads {found : Option Specification} (h : l.reads true name = .ok found) :
    Nameable name := by
  obtain ⟨safe, short, -⟩ := Registry.Files.lookup_eq_ok.1 (Registry.Files.reads_eq_ok h)
  exact ⟨safe, short⟩

/-- A coordinator who is asked about a name answers what the ledger has. -/
theorem Keeping.get_eq (h : Keeping g settings ok inFiles l s) (name : String) :
    (get settings name).run.run Stores.answer (rs, s) =
      (l.describes inFiles s.types settings name, rs, s) := by
  unfold get Ledger.describes
  by_cases valid : InstanceName.isValid name = true
  · rw [if_pos valid, if_pos valid, run_ofRegistry_bind, Program.run_bind, h.find name]
    cases read : l.reads inFiles name with
    | error e => rfl
    | ok found =>
      cases found with
      | none => rfl
      | some spec =>
        have typed : (ofRegistry (findType spec.typeName)).run.run Stores.answer (rs, s) =
            (.ok (s.types.find? spec.typeName), rs, s) := rfl
        have nameable (files : inFiles = true) : Nameable name := nameable_of_reads (files ▸ read)
        dsimp only
        rw [run_bind_ok typed, run_ofOwners_bind, Program.run_bind, h.owner nameable]
        rfl
  · rw [if_neg valid, if_neg valid]
    rfl

end Lifecycle

end DatasetCatalog
