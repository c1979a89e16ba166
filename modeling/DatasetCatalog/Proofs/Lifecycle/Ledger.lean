import Mathlib.Logic.Function.Basic
import DatasetCatalog.Lifecycle.Stores
import DatasetCatalog.Proofs.Program.Runs

/-!
# The ledger: what the catalog itself keeps

Of the stores behind a coordinator two belong to the catalog: the registry of instances and the
owner records. A `Ledger` is those two and nothing else, so a statement that a ledger is unchanged
is a statement that a client can see no trace in either.

`Ledger.Permits` says how far the collaborators are trusted. The registry of instances may fail,
but a call that fails has no effect; the owner store works; storage, the query engine and the
registry of types answer as they like. Calls to the latter cannot touch the ledger. That is all
that the guarantees about creates and drops need to know.
-/

namespace DatasetCatalog

/-- The catalog entries and the owner records. -/
@[ext] structure Ledger where
  catalog : StringMap Specification
  owners : EntityId → Option Principal

namespace Ledger

/-- The catalog entry of a name. -/
def find? (l : Ledger) (name : String) : Option Specification := StringMap.find? name l.catalog

/-- The ledger without the owner record of an entity. -/
def disown (l : Ledger) (entity : EntityId) : Ledger :=
  { l with owners := Function.update l.owners entity none }

/-- The ledger with an owner recorded for an entity. -/
def own (l : Ledger) (entity : EntityId) (principal : Principal) : Ledger :=
  { l with owners := Function.update l.owners entity (some principal) }

/-- The ledger with the record of an owner, if one is named. -/
def claim (l : Ledger) (entity : EntityId) : Option Principal → Ledger
  | none => l
  | some principal => l.own entity principal

/-- The ledger without the record of an owner, if one was named. -/
def unclaim (l : Ledger) (entity : EntityId) : Option Principal → Ledger
  | none => l
  | some _ => l.disown entity

/-- The ledger with an instance, in place of an earlier one of its name. -/
def enter (l : Ledger) (spec : Specification) : Ledger :=
  { l with catalog := StringMap.insert spec.name spec l.catalog }

/-- The ledger without the instance of a name. -/
def strike (l : Ledger) (name : String) : Ledger :=
  { l with catalog := StringMap.erase name l.catalog }

/-- Adds an instance, exclusively. -/
def addInstance (l : Ledger) (spec : Specification) : Except RegistryError Unit × Ledger :=
  if (l.find? spec.name).isSome then (.error (.alreadyExists spec.name), l)
  else (.ok (), l.enter spec)

/-- Removes an instance. Whether there was one is the answer. -/
def removeInstance (l : Ledger) (name : String) : Except RegistryError Bool × Ledger :=
  (.ok (l.find? name).isSome, l.strike name)

/-- Records an owner, exclusively. -/
def addOwner (l : Ledger) (entity : EntityId) (principal : Principal) :
    Except OwnerError Unit × Ledger :=
  match Owner.validate entity principal with
  | .error e => (.error e, l)
  | .ok () =>
    if (l.owners entity).isSome then (.error (.alreadyExists entity), l)
    else (.ok (), l.own entity principal)

/-- The answers that a call may get where only the owner store is trusted to work, and where a
registry call that fails has no effect. -/
def Permits : Conduct Ledger
  | .findInstance name, l, a, l' => (a = .ok (l.find? name) ∨ ∃ e, a = .error e) ∧ l' = l
  | .allInstances, l, a, l' => (a = .ok (StringMap.values l.catalog) ∨ ∃ e, a = .error e) ∧ l' = l
  | .addInstance spec, l, a, l' => (a, l') = l.addInstance spec ∨ ∃ e, a = .error e ∧ l' = l
  | .removeInstance name, l, a, l' => (a, l') = l.removeInstance name ∨ ∃ e, a = .error e ∧ l' = l
  | .addOwner entity principal, l, a, l' => (a, l') = l.addOwner entity principal
  | .findOwner entity, l, a, l' => a = .ok (l.owners entity) ∧ l' = l
  | .removeOwner entity, l, a, l' => a = .ok () ∧ l' = l.disown entity
  | _, l, _, l' => l' = l

/-! ### Reading the ledger -/

@[simp] theorem find?_disown (l : Ledger) (entity : EntityId) (name : String) :
    (l.disown entity).find? name = l.find? name := rfl

@[simp] theorem find?_own (l : Ledger) (entity : EntityId) (principal : Principal) (name : String) :
    (l.own entity principal).find? name = l.find? name := rfl

@[simp] theorem owners_enter (l : Ledger) (spec : Specification) :
    (l.enter spec).owners = l.owners := rfl

@[simp] theorem owners_strike (l : Ledger) (name : String) : (l.strike name).owners = l.owners := rfl

theorem find?_enter (l : Ledger) (spec : Specification) (name : String) :
    (l.enter spec).find? name = if spec.name = name then some spec else l.find? name :=
  StringMap.find?_insert _ _ _ _

theorem find?_strike (l : Ledger) (name other : String) :
    (l.strike name).find? other = if name = other then none else l.find? other :=
  StringMap.find?_erase _ _ _

/-- A record that was not there before can be taken back. -/
theorem disown_own {l : Ledger} {entity : EntityId} (h : l.owners entity = none)
    (principal : Principal) : (l.own entity principal).disown entity = l := by
  rw [disown, own, Function.update_idem, ← h, Function.update_eq_self]

@[simp] theorem find?_claim (l : Ledger) (entity : EntityId) (owner : Option Principal)
    (name : String) : (l.claim entity owner).find? name = l.find? name := by
  cases owner <;> rfl

theorem unclaim_claim {l : Ledger} {entity : EntityId} {owner : Option Principal}
    (free : owner.isSome → l.owners entity = none) :
    (l.claim entity owner).unclaim entity owner = l := by
  cases owner with
  | none => rfl
  | some principal => exact disown_own (free rfl) principal

/-! ### What the calls that write come to -/

theorem addInstance_eq_ok {l l' : Ledger} {spec : Specification} {u : Unit}
    (h : l.addInstance spec = (.ok u, l')) : l.find? spec.name = none ∧ l' = l.enter spec := by
  unfold addInstance at h
  split at h
  · cases h
  · next hfree =>
    cases h
    exact ⟨Option.not_isSome_iff_eq_none.1 hfree, rfl⟩

theorem addInstance_eq_error {l l' : Ledger} {spec : Specification} {e : RegistryError}
    (h : l.addInstance spec = (.error e, l')) : l' = l := by
  unfold addInstance at h
  split at h <;> cases h
  rfl

theorem addOwner_eq_ok {l l' : Ledger} {entity : EntityId} {principal : Principal} {u : Unit}
    (h : l.addOwner entity principal = (.ok u, l')) :
    l.owners entity = none ∧ l' = l.own entity principal := by
  unfold addOwner at h
  split at h
  · cases h
  · split at h
    · cases h
    · next hfree =>
      cases h
      exact ⟨Option.not_isSome_iff_eq_none.1 hfree, rfl⟩

theorem addOwner_eq_error {l l' : Ledger} {entity : EntityId} {principal : Principal}
    {e : OwnerError} (h : l.addOwner entity principal = (.error e, l')) : l' = l := by
  unfold addOwner at h
  split at h
  · cases h
    rfl
  · split at h <;> cases h
    rfl

/-- An entry that can be recorded where none is, is recorded. -/
theorem addOwner_of_valid {l : Ledger} {entity : EntityId} {principal : Principal}
    (valid : Owner.validate entity principal = .ok ()) (free : l.owners entity = none) :
    l.addOwner entity principal = (.ok (), l.own entity principal) := by
  rw [addOwner, valid]
  simp [free]

/-- Every call can be answered. -/
theorem permits_total : Conduct.Total Permits := by
  intro c l
  cases c with
  | findInstance name => exact ⟨_, l, .inl rfl, rfl⟩
  | allInstances => exact ⟨_, l, .inl rfl, rfl⟩
  | addInstance spec => exact ⟨_, _, .inl rfl⟩
  | removeInstance name => exact ⟨_, _, .inl rfl⟩
  | addOwner entity principal => exact ⟨_, _, rfl⟩
  | findOwner entity => exact ⟨_, l, rfl, rfl⟩
  | removeOwner entity => exact ⟨_, _, rfl, rfl⟩
  | reserve name => exact ⟨true, l, rfl⟩
  | release name => exact ⟨(), l, rfl⟩
  | findType name => exact ⟨.ok none, l, rfl⟩
  | expose name => exact ⟨.ok (), l, rfl⟩
  | withdraw name => exact ⟨.ok (), l, rfl⟩
  | exposedTables => exact ⟨.ok [], l, rfl⟩
  | perform request limit => exact ⟨.error (.protocol ""), l, rfl⟩
  | record event => exact ⟨(), l, rfl⟩
  | count reading => exact ⟨(), l, rfl⟩

end Ledger

end DatasetCatalog
