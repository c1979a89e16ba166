import Mathlib.Data.Finmap
import DatasetCatalog.Owner.Store
import DatasetCatalog.Proofs.Program.Replay

/-!
# Owner records as a write-once map

What an owner store does is described by a finite map from entities to principals. An entry is
checked in three steps, and the first refusal counts: the kind of the entity, the form of the
principal, and whether there is a record already (`Register.refusal?`). A refusal changes nothing. A
record stays as it was written until it is removed, by a `delete` of its own entity
(`Register.lookup_replay`).

`Operation` is everything that can be asked of a store, which includes closing and opening it again.
-/

namespace DatasetCatalog.Owner

/-- What is asked of an owner store. -/
inductive Operation
  | add (entity : EntityId) (principal : Principal)
  | get (entity : EntityId)
  | isRecorded (entity : EntityId)
  | delete (entity : EntityId)
  /-- A store that is kept in a directory is closed and opened again. -/
  | reopen
  deriving DecidableEq

/-- What comes of an operation. -/
inductive Outcome
  | added (result : Except OwnerError Unit)
  | found (result : Except OwnerError (Option Principal))
  | recorded (result : Except OwnerError Bool)
  | deleted (result : Except OwnerError Unit)
  | reopened (result : Except OwnerError Unit)

/-- The answer to an operation, with the events that it leaves in the audit trail. -/
abbrev Answer := Outcome × List Audit.Event

/-- Carries out an operation on a store. -/
def perform : Operation → OwnerStore.Site → Answer × OwnerStore.Site
  | .add entity principal, s =>
    let (result, events, s) := OwnerStore.add entity principal s
    ((.added result, events), s)
  | .get entity, s =>
    let (result, s) := OwnerStore.get entity s
    ((.found result, []), s)
  | .isRecorded entity, s =>
    let (result, s) := OwnerStore.isRecorded entity s
    ((.recorded result, []), s)
  | .delete entity, s =>
    let (result, events, s) := OwnerStore.delete entity s
    ((.deleted result, events), s)
  | .reopen, (.memory records, d) => ((.reopened (.ok ()), []), (.memory records, d))
  | .reopen, (.files root, d) =>
    let (result, d) := (Files.openAt root).run.run d
    ((.reopened result, []), (.files root, d))

/-- Owner records as a finite map. -/
abbrev Register := Finmap fun _ : EntityId => Principal

namespace Register

/-- Why an entry is refused, if it is. -/
def refusal? (m : Register) (entity : EntityId) (principal : Principal) : Option OwnerError :=
  if isSupported entity.entityType = false then some (.unsupported entity)
  else
    match principal.validate with
    | .error e => some (.invalidPrincipal e)
    | .ok () => if (m.lookup entity).isSome then some (.alreadyExists entity) else none

/-- The reason that is recorded for a refusal. -/
def reason : OwnerError → String
  | .alreadyExists _ => "owner already recorded"
  | e => e.message

/-- Carries out an operation on the map. -/
def perform : Operation → Register → Answer × Register
  | .add entity principal, m =>
    match m.refusal? entity principal with
    | some e => ((.added (.error e), [.ownerRejected entity (reason e)]), m)
    | none => ((.added (.ok ()), [.ownerAdded entity principal]), m.insert entity principal)
  | .get entity, m => ((.found (.ok (m.lookup entity)), []), m)
  | .isRecorded entity, m => ((.recorded (.ok (m.lookup entity).isSome), []), m)
  | .delete entity, m =>
    ((.deleted (.ok ()), if (m.lookup entity).isSome then [.ownerDeleted entity] else []),
      m.erase entity)
  | .reopen, m => ((.reopened (.ok ()), []), m)

variable {m : Register} {entity other : EntityId} {principal given : Principal}

theorem lookup_insert (m : Register) (entity : EntityId) (principal : Principal)
    (other : EntityId) : (m.insert entity principal).lookup other =
      if other = entity then some principal else m.lookup other := by
  by_cases h : other = entity
  · subst h
    rw [if_pos rfl, Finmap.lookup_insert]
  · rw [if_neg h, Finmap.lookup_insert_of_ne _ h]

theorem lookup_erase (m : Register) (entity other : EntityId) :
    (m.erase entity).lookup other = if other = entity then none else m.lookup other := by
  by_cases h : other = entity
  · subst h
    rw [if_pos rfl, Finmap.lookup_erase]
  · rw [if_neg h, Finmap.lookup_erase_ne h]

/-- The first two checks are those that every store makes of an entry. -/
theorem refusal?_eq (m : Register) (entity : EntityId) (principal : Principal) :
    m.refusal? entity principal =
      match validate entity principal with
      | .error e => some e
      | .ok () => if (m.lookup entity).isSome then some (.alreadyExists entity) else none := by
  rw [refusal?, validate]
  by_cases unsupported : isSupported entity.entityType = false
  · simp [unsupported]
  · have supported : isSupported entity.entityType = true := by simpa using unsupported
    rw [if_pos supported, if_neg unsupported]
    cases principal.validate <;> rfl

/-- There is no record where an entry is accepted. -/
theorem lookup_of_accepted (h : m.refusal? entity principal = none) : m.lookup entity = none := by
  rw [refusal?] at h
  by_cases unsupported : isSupported entity.entityType = false
  · rw [if_pos unsupported] at h
    cases h
  · rw [if_neg unsupported] at h
    cases hvalid : principal.validate with
    | error e =>
      rw [hvalid] at h
      cases h
    | ok u =>
      rw [hvalid] at h
      by_contra taken
      rw [← ne_eq, ← Option.isSome_iff_ne_none] at taken
      rw [if_pos taken] at h
      cases h

/-- Nothing but a `delete` of its entity changes a record. -/
theorem lookup_perform {op : Operation} (h : op ≠ .delete entity)
    (there : m.lookup entity = some principal) :
    (m.perform op).2.lookup entity = some principal := by
  cases op with
  | add added given =>
    simp only [perform]
    cases hrefusal : m.refusal? added given with
    | some e => exact there
    | none =>
      have free := lookup_of_accepted hrefusal
      have apart : entity ≠ added := by
        rintro rfl
        rw [there] at free
        cases free
      simp only [lookup_insert, if_neg apart, there]
  | get _ => exact there
  | isRecorded _ => exact there
  | delete deleted =>
    have apart : entity ≠ deleted := by
      rintro rfl
      exact h rfl
    simp only [perform, lookup_erase, if_neg apart, there]
  | reopen => exact there

/-- A record stays as it was written until its entity is deleted. -/
theorem lookup_replay {ops : List Operation} (h : .delete entity ∉ ops)
    (there : m.lookup entity = some principal) :
    (replay perform ops m).2.lookup entity = some principal := by
  have allowed : ∀ op ∈ ops, op ≠ .delete entity := by
    rintro _ hop rfl
    exact h hop
  exact replay_keeps (P := fun m : Register => m.lookup entity = some principal)
    (Q := fun op => op ≠ .delete entity) (fun _ _ hop there => lookup_perform hop there) allowed
    there

/-- To delete a record that is not there changes nothing, and leaves no event. -/
theorem perform_delete_absent (h : m.lookup entity = none) :
    m.perform (.delete entity) = ((.deleted (.ok ()), []), m) := by
  have same : m.erase entity = m := by
    refine Finmap.ext_lookup fun other => ?_
    rw [lookup_erase]
    by_cases here : other = entity
    · rw [if_pos here, here, h]
    · rw [if_neg here]
  simp only [perform, h, same]
  rfl

end Register

end DatasetCatalog.Owner
