import DatasetCatalog.Payload
import DatasetCatalog.Proofs.Disk.Confine
import DatasetCatalog.Proofs.Lifecycle.Memory
import DatasetCatalog.Proofs.Registry.Frame

/-!
# Storage that nobody vouches for

The code of the types is not that of the catalog. It may answer what it likes, and at any time it may
do what it likes with the directory that it works in. Here is what the catalog can count on all the
same, that is the registry of instances and the owner store.

`Stores.Unvouched` says what calls come to then, and `Ledger.Serves` what a ledger answers where the
registries and the owner store work. If both are kept in memory nothing can come in between, and every
call is answered as the ledger says (`Stores.InMemory.serves`).

A ledger in files differs from one in memory in two ways. A name can be too long for the name of a file.
And a specification that nests too many containers is added like any other, but it cannot be read again,
and then nothing can be listed.
-/

namespace DatasetCatalog

open Disk Program

/-! ### What a ledger answers -/

namespace Ledger

/-- What is read under a name, from memory or from files. -/
def reads (inFiles : Bool) (l : Ledger) (name : String) :
    Except RegistryError (Option Specification) :=
  if inFiles then Registry.Files.reads l.catalog name else .ok (l.find? name)

/-- All entries can be read. -/
def Legible (inFiles : Bool) (l : Ledger) : Prop :=
  inFiles = true → ∀ e ∈ l.catalog, e.2.toJson.depth ≤ Json.depthLimit

/-- What is answered about a name. -/
def describes (inFiles : Bool) (types : TypeRegistry) (settings : Settings) (l : Ledger)
    (name : String) : Except CatalogError (Option InstanceMeta) :=
  if InstanceName.isValid name then
    match l.reads inFiles name with
    | .error e => .error (.registry e)
    | .ok none => .ok none
    | .ok (some spec) => .ok (some ⟨spec, types.find? spec.typeName, none,
        (l.owners (settings.entity name)).map Principal.text⟩)
  else .ok none

/-- The answers that a call gets where the registry of instances, the one of types and the owner store
work. -/
def Serves (inFiles : Bool) (types : TypeRegistry) : Conduct Ledger
  | .findInstance name, l, a, l' => a = l.reads inFiles name ∧ l' = l
  | .allInstances, l, a, l' =>
    (l.Legible inFiles → a = .ok (StringMap.values l.catalog)) ∧
      (¬ l.Legible inFiles → ∃ fault, a = .error (.unreadable fault)) ∧ l' = l
  | .addInstance spec, l, a, l' => (a, l') = l.addInstance spec
  | .removeInstance name, l, a, l' => (a, l') = l.removeInstance name
  | .findType name, l, a, l' => a = .ok (types.find? name) ∧ l' = l
  | .addOwner entity principal, l, a, l' => (a, l') = l.addOwner entity principal
  | .findOwner entity, l, a, l' => a = .ok (l.owners entity) ∧ l' = l
  | .removeOwner entity, l, a, l' => a = .ok () ∧ l' = l.disown entity
  | _, l, _, l' => l' = l

variable {inFiles : Bool} {types : TypeRegistry} {l l' : Ledger} {name : String}

theorem reads_eq_ok {found : Option Specification} (h : l.reads inFiles name = .ok found) :
    l.find? name = found := by
  cases inFiles with
  | false => exact Except.ok.inj h
  | true => exact (Registry.Files.lookup_eq_ok.1 (Registry.Files.reads_eq_ok h)).2.2

/-- Such collaborators can be trusted as far as creates and drops have to. -/
theorem Serves.permits {c : Call} {a : c.Answer} (h : Serves inFiles types c l a l') :
    Permits c l a l' := by
  cases c with
  | findInstance name =>
    obtain ⟨rfl, rfl⟩ := h
    refine ⟨?_, rfl⟩
    cases read : l'.reads inFiles name with
    | error e => exact .inr ⟨e, rfl⟩
    | ok found => exact .inl (congrArg Except.ok (reads_eq_ok read).symm)
  | allInstances =>
    obtain ⟨listed, failed, rfl⟩ := h
    refine ⟨?_, rfl⟩
    by_cases legible : l'.Legible inFiles
    · exact .inl (listed legible)
    · obtain ⟨fault, failed⟩ := failed legible
      exact .inr ⟨_, failed⟩
  | addInstance spec => exact .inl h
  | removeInstance name => exact .inl h
  | findType name => exact h.2
  | _ => exact h

end Ledger

/-! ### What calls come to -/

namespace Stores

/-- What storage, and whatever it runs, may have done meanwhile: anything in an area of the disk. -/
structure Drifts (area : Place → Prop) (s s' : Stores) : Prop where
  touches : Touches area s.disk s'.disk
  rest : s' = { s with storage := s'.storage, disk := s'.disk }

/-- The specification that a request is answered with, if it is, is as `ok` says. -/
def Gives (ok : Specification → Prop) : (r : Storage.Request) → Storage.Result r → Prop
  | .create _, .ok spec => ok spec
  | _, _ => True

/-- What a call does where nobody vouches for the storage. Requests to it are answered in any way, but for
the specifications that `ok` allows; whatever else is asked for is carried out. Rights to names are a
matter of the coordinator. -/
def Does (ok : Specification → Prop) : Conduct Stores
  | .reserve _, s, _, s' => s' = s
  | .perform r _, s, a, s' => Gives ok r a ∧ s' = s
  | c, s, a, s' => answer c ([], s) = (a, [], s')

/-- What calls come to then. Before each of them storage may have done something in its area. -/
def Unvouched (area : Place → Prop) (ok : Specification → Prop) : Conduct Stores :=
  fun c s a s' => ∃ s₁, s.Drifts area s₁ ∧ Does ok c s₁ a s'

variable {area area' : Place → Prop} {ok ok' : Specification → Prop} {s s₁ s' : Stores}

theorem Drifts.refl (area : Place → Prop) (s : Stores) : s.Drifts area s := ⟨.refl _ _, rfl⟩

theorem Drifts.mono (h : s.Drifts area s') (larger : ∀ p, area p → area' p) : s.Drifts area' s' :=
  ⟨h.touches.mono larger, h.rest⟩

namespace Drifts

variable (h : s.Drifts area s')

include h

theorem types : s'.types = s.types := by rw [h.rest]

theorem instances : s'.instances = s.instances := by rw [h.rest]

theorem owners : s'.owners = s.owners := by rw [h.rest]

theorem ledger : s'.ledger = s.ledger := by rw [h.rest]; rfl

end Drifts

/-! ### In memory -/

theorem answer_serves (h : s.InMemory) (c : Call) (rs : Reservations) :
    Ledger.Serves false s.types c s.ledger (answer c (rs, s)).1 (answer c (rs, s)).2.2.ledger ∧
      (answer c (rs, s)).2.2.types = s.types := by
  have permitted := (answer_permitted h c rs).2
  have added spec := addInstance_ledger h spec rs
  obtain ⟨types, entries, records, storage, gateway, disk, audit, metrics, rfl⟩ := h.exists_eq
  cases c with
  | addInstance spec => exact ⟨added spec, rfl⟩
  | findInstance name => exact ⟨⟨rfl, rfl⟩, rfl⟩
  | allInstances => exact ⟨⟨fun _ => rfl, fun illegible => absurd nofun illegible, rfl⟩, rfl⟩
  | removeInstance name => exact ⟨rfl, rfl⟩
  | findType name => exact ⟨⟨rfl, permitted⟩, rfl⟩
  | _ => exact ⟨permitted, rfl⟩

/-- In memory all calls are answered as the ledger says. -/
theorem InMemory.serves (h : s.InMemory) {c : Call} {a : c.Answer}
    (answered : Unvouched area ok c s a s') :
    Ledger.Serves false s.types c s.ledger a s'.ledger ∧ s'.InMemory ∧ s'.types = s.types := by
  obtain ⟨s₁, drifts, does⟩ := answered
  have inMemory : s₁.InMemory := ⟨drifts.instances ▸ h.instances, drifts.owners ▸ h.owners⟩
  have carried {c : Call} {a : c.Answer} (run : answer c ([], s₁) = (a, [], s')) :
      Ledger.Serves false s₁.types c s₁.ledger a s'.ledger ∧ s'.InMemory ∧ s'.types = s₁.types := by
    have serves := answer_serves inMemory c []
    have stays := (answer_permitted inMemory c []).1
    rw [run] at serves stays
    exact ⟨serves.1, stays, serves.2⟩
  rw [← drifts.ledger, ← drifts.types]
  cases c with
  | reserve name =>
    obtain rfl : s' = s₁ := does
    exact ⟨rfl, inMemory, rfl⟩
  | perform r limit =>
    obtain ⟨-, rfl⟩ := does
    exact ⟨rfl, inMemory, rfl⟩
  | _ => exact carried does

end Stores

end DatasetCatalog
