import DatasetCatalog.Proofs.Owner.Files

/-!
# Both owner stores are one map

A store in memory and a store in a directory answer every sequence of operations as the write-once
map does, with the same events in the audit trail. Each store is compared with the map, one
operation at a time; that they agree with each other follows.

The store in a directory begins in an empty directory that nothing else works in, and may be opened
again between any two operations. The entities can be of every kind; their namespaces and names have
to be safe names that fit into a directory. Nothing is asked of the principals.
-/

namespace DatasetCatalog.Owner

open Disk

variable {d : Disk} {root : Path} {p : Place} {m : Register} {records : Records}
  {entity : EntityId} {principal : Principal}

/-- The events of an entry that is refused before a store is touched, or by the record that is
there. -/
theorem addEvents_of_refusal {e : OwnerError} (h : m.refusal? entity principal = some e) :
    addEvents entity principal (.error e) = [.ownerRejected entity (Register.reason e)] := by
  rw [Register.refusal?] at h
  by_cases unsupported : isSupported entity.entityType = false
  · rw [if_pos unsupported] at h
    cases h
    rfl
  rw [if_neg unsupported] at h
  cases valid : principal.validate with
  | error x =>
    rw [valid] at h
    cases h
    rfl
  | ok u =>
    rw [valid] at h
    by_cases taken : (m.lookup entity).isSome = true
    · rw [if_pos taken] at h
      cases h
      rfl
    · rw [if_neg taken] at h
      cases h

/-! ### In a directory -/

/-- A store in a directory holds the records of a map. -/
def HoldsIn (root : Path) (p : Place) (s : OwnerStore.Site) (m : Register) : Prop :=
  ∃ d, s = (.files root, d) ∧ Files.Keeps root p m d

/-- One operation on a store in a directory is the operation on the map. -/
theorem perform_files (op : Operation) (s : OwnerStore.Site) (m : Register) (storable : op.Storable)
    (h : HoldsIn root p s m) :
    (perform op s).1 = (m.perform op).1 ∧ HoldsIn root p (perform op s).2 (m.perform op).2 := by
  obtain ⟨d, rfl, keeps⟩ := h
  cases op with
  | add entity principal =>
    obtain ⟨d', run, keeps'⟩ := Files.add_run keeps storable principal
    have performed : perform (.add entity principal) (.files root, d) =
        let result := (Files.add root entity principal).run.run d
        ((.added result.1, addEvents entity principal result.1), (.files root, result.2)) := rfl
    rw [performed, run]
    cases refusal : m.refusal? entity principal with
    | some e =>
      rw [refusal] at keeps'
      simp only [Register.perform, refusal, addEvents_of_refusal refusal]
      exact ⟨trivial, d', rfl, keeps'⟩
    | none =>
      rw [refusal, if_pos rfl] at keeps'
      simp only [Register.perform, refusal]
      exact ⟨rfl, d', rfl, keeps'⟩
  | get entity =>
    have performed : perform (.get entity) (.files root, d) =
        let result := (Files.get root entity).run.run d
        ((.found result.1, []), (.files root, result.2)) := rfl
    rw [performed, Files.get_run keeps storable]
    exact ⟨rfl, d, rfl, keeps⟩
  | isRecorded entity =>
    have performed : perform (.isRecorded entity) (.files root, d) =
        let result := (Files.isRecorded root entity).run.run d
        ((.recorded result.1, []), (.files root, result.2)) := rfl
    rw [performed, Files.isRecorded_run keeps storable]
    exact ⟨rfl, d, rfl, keeps⟩
  | delete entity =>
    obtain ⟨d', run, keeps'⟩ := Files.delete_run keeps storable
    have performed : perform (.delete entity) (.files root, d) =
        let result := (Files.delete root entity).run.run d
        ((.deleted (result.1.map fun _ => ()), deleteEvents entity result.1),
          (.files root, result.2)) := rfl
    rw [performed, run]
    refine ⟨?_, d', rfl, keeps'⟩
    simp only [Register.perform]
    cases m.lookup entity <;> rfl
  | reopen =>
    have run : (Files.openAt root).run.run d = (.ok (), d) :=
      DiskAction.adapt_run keeps.opens.makeDirectories_self _
    have performed : perform .reopen (.files root, d) =
        let result := (Files.openAt root).run.run d
        ((.reopened result.1, []), (.files root, result.2)) := rfl
    rw [performed, run]
    exact ⟨rfl, d, rfl, keeps⟩

/-! ### In memory -/

/-- A store in memory holds the records of a map. -/
def HoldsInMemory (s : OwnerStore.Site) (m : Register) : Prop :=
  ∃ records d, s = (.memory records, d) ∧ ∀ entity, Memory.find? entity records = m.lookup entity

/-- What a map refuses, the store in memory that holds its records refuses. -/
theorem Memory.add_run_of_lookup {records : Records} {m : Register}
    (same : ∀ entity, Memory.find? entity records = m.lookup entity) (entity : EntityId)
    (principal : Principal) :
    (Memory.add entity principal).run.run records =
      match m.refusal? entity principal with
      | some e => (.error e, records)
      | none => (.ok (), (entity, principal) :: records) := by
  rw [Memory.add_run, Register.refusal?_eq, same]
  cases validate entity principal with
  | error e => rfl
  | ok u =>
    dsimp only
    split <;> rfl

/-- One operation on a store in memory is the operation on the map. -/
theorem perform_memory (op : Operation) (s : OwnerStore.Site) (m : Register)
    (h : HoldsInMemory s m) :
    (perform op s).1 = (m.perform op).1 ∧ HoldsInMemory (perform op s).2 (m.perform op).2 := by
  obtain ⟨records, d, rfl, same⟩ := h
  cases op with
  | add entity principal =>
    have performed : perform (.add entity principal) (.memory records, d) =
        let result := (Memory.add entity principal).run.run records
        ((.added result.1, addEvents entity principal result.1), (.memory result.2, d)) := rfl
    rw [performed, Memory.add_run_of_lookup same]
    cases refusal : m.refusal? entity principal with
    | some e =>
      simp only [Register.perform, refusal, addEvents_of_refusal refusal]
      exact ⟨trivial, records, d, rfl, same⟩
    | none =>
      simp only [Register.perform, refusal]
      refine ⟨rfl, _, d, rfl, fun other => ?_⟩
      have found := congrFun (Memory.find?_cons entity principal records) other
      rw [found, Function.update_apply, same, Register.lookup_insert]
  | get entity =>
    have performed : perform (.get entity) (.memory records, d) =
        ((.found (.ok (Memory.find? entity records)), []), (.memory records, d)) := rfl
    rw [performed, same]
    exact ⟨rfl, records, d, rfl, same⟩
  | isRecorded entity =>
    have performed : perform (.isRecorded entity) (.memory records, d) =
        ((.recorded (.ok (Memory.find? entity records).isSome), []), (.memory records, d)) := rfl
    rw [performed, same]
    exact ⟨rfl, records, d, rfl, same⟩
  | delete entity =>
    have performed : perform (.delete entity) (.memory records, d) =
        ((.deleted (.ok ()), deleteEvents entity (.ok (Memory.find? entity records).isSome)),
          (.memory (records.filter fun r => r.1 ≠ entity), d)) := rfl
    rw [performed, same]
    refine ⟨?_, _, d, rfl, fun other => ?_⟩
    · simp only [Register.perform]
      cases m.lookup entity <;> rfl
    · have found := congrFun (Memory.find?_filter_ne records entity) other
      rw [found, Function.update_apply, same]
      exact (Register.lookup_erase m entity other).symm
  | reopen => exact ⟨rfl, records, d, rfl, same⟩

/-! ### Sequences of operations -/

/-- Whatever is asked of them, a store that begins in an empty directory, with any number of
reopenings, and a store in memory give the answers of the write-once map, and leave the same events.
In this map an entry is refused for its kind of entity, then for its principal, then for the record
that is there, each time without a change (`Register.refusal?`); a record is found as it was written
for as long as its entity is not deleted; and to delete a record that is not there does nothing. -/
theorem stores_are_one_write_once_map (vacant : d.Vacant root p) (ops : List Operation)
    (storable : ∀ op ∈ ops, op.Storable) :
    (replay perform ops (.files root, d)).1 = (replay Register.perform ops ∅).1 ∧
      (∀ d', (replay perform ops (.memory [], d')).1 = (replay Register.perform ops ∅).1) ∧
      ∀ earlier later, ops = earlier ++ later →
        let m := (replay Register.perform earlier ∅).2
        (∀ entity principal, m.lookup entity = some principal → .delete entity ∉ later →
          (replay Register.perform ops ∅).2.lookup entity = some principal) ∧
        (∀ entity principal e, m.refusal? entity principal = some e →
          m.perform (.add entity principal) =
            ((.added (.error e), [.ownerRejected entity (Register.reason e)]), m)) ∧
        ∀ entity, m.lookup entity = none →
          m.perform (.delete entity) = ((.deleted (.ok ()), []), m) := by
  refine ⟨?_, fun d' => ?_, ?_⟩
  · exact replay_agrees (R := HoldsIn root p) perform_files storable
      ⟨d, rfl, Files.keeps_of_vacant vacant⟩
  · have empty : HoldsInMemory (.memory [], d') ∅ := ⟨[], d', rfl, fun _ => rfl⟩
    exact replay_agrees (R := HoldsInMemory) (Q := fun _ => True)
      (fun op s m _ h => perform_memory op s m h) (fun _ _ => trivial) empty
  · rintro earlier later rfl
    refine ⟨fun entity principal there hlater => ?_, fun entity principal e refused => ?_,
      fun entity absent => Register.perform_delete_absent absent⟩
    · rw [replay_append]
      exact Register.lookup_replay hlater there
    · simp only [Register.perform, refused]

/-- A second owner is refused, after the store has been opened again as well, and the first one is
found. -/
theorem first_owner_is_kept :
    let orders := EntityId.dataset "default" "orders"
    let ops : List Operation :=
      [.add orders ⟨"alice"⟩, .reopen, .add orders ⟨"bob"⟩, .get orders]
    let d : Disk := ⟨[(["owners"], .directory)], []⟩
    d.Vacant ⟨"owners"⟩ ["owners"] ∧ (∀ op ∈ ops, op.Storable) ∧
      (replay perform ops (.files ⟨"owners"⟩, d)).1 =
        [(.added (.ok ()), [.ownerAdded orders ⟨"alice"⟩]), (.reopened (.ok ()), []),
          (.added (.error (.alreadyExists orders)), [.ownerRejected orders "owner already recorded"]),
          (.found (.ok (some ⟨"alice"⟩)), [])] := by
  intro orders ops d
  have vacant : d.Vacant ⟨"owners"⟩ ["owners"] := vacant_alone (by decide)
  have storable : ∀ op ∈ ops, op.Storable := by decide
  exact ⟨vacant, storable, (stores_are_one_write_once_map vacant ops storable).1⟩

end DatasetCatalog.Owner
