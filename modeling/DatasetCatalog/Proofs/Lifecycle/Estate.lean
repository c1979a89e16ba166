import DatasetCatalog.Proofs.Lifecycle.Reserved
import DatasetCatalog.Proofs.Lifecycle.Ledger
import DatasetCatalog.Proofs.Storage.Fresh
import DatasetCatalog.Proofs.Storage.Site
import DatasetCatalog.Lifecycle.Inquiry

/-!
# A create on storage in a directory

An `Estate` is what a coordinator works on, with the storage as it is on the disk. `Estate.Works` is
the conduct of collaborators that work; only the query engine may answer as it likes, because a
create does not depend on it.

The create is followed call by call. It succeeds whatever was left over in the place of the
instance, and leaves the storage in its fresh layout (`Estate.create_inv`). Asked for an instance,
the coordinator reports what the stores then have (`Estate.get_inv`).
-/

namespace DatasetCatalog

open Storage Lifecycle Program

/-- What a coordinator works on. -/
structure Estate where
  types : TypeRegistry
  /-- The names that are being created. -/
  reserved : Reservations
  ledger : Ledger
  site : Backend.Site

namespace Estate

/-- What a call comes to where the collaborators work. The answers of the query engine are open. -/
def Works : Conduct Estate
  | .reserve name, s, a, s' =>
    a = (s.reserved.reserve name).1 ∧ s' = { s with reserved := (s.reserved.reserve name).2 }
  | .release name, s, _, s' => s' = { s with reserved := s.reserved.release name }
  | .findInstance name, s, a, s' => a = .ok (s.ledger.find? name) ∧ s' = s
  | .allInstances, s, a, s' => a = .ok (StringMap.values s.ledger.catalog) ∧ s' = s
  | .addInstance spec, s, a, s' =>
    a = (s.ledger.addInstance spec).1 ∧ s' = { s with ledger := (s.ledger.addInstance spec).2 }
  | .removeInstance name, s, a, s' =>
    a = (s.ledger.removeInstance name).1 ∧
      s' = { s with ledger := (s.ledger.removeInstance name).2 }
  | .findType name, s, a, s' => a = .ok (s.types.find? name) ∧ s' = s
  | .addOwner entity principal, s, a, s' =>
    a = (s.ledger.addOwner entity principal).1 ∧
      s' = { s with ledger := (s.ledger.addOwner entity principal).2 }
  | .findOwner entity, s, a, s' => a = .ok (s.ledger.owners entity) ∧ s' = s
  | .removeOwner entity, s, a, s' => a = .ok () ∧ s' = { s with ledger := s.ledger.disown entity }
  | .perform r _, s, a, s' =>
    a = (Backend.perform r s.site).1 ∧ s' = { s with site := (Backend.perform r s.site).2 }
  | _, s, _, s' => s' = s

variable {settings : Settings} {name : String} {request : InstanceConfiguration} {s s' : Estate}
  {xs : List Exchange} {l : Local} {d d' : Disk} {w : Disk.Place} {spec : Specification}

/-! ### The storage -/

theorem perform_inv {r : Request} {a b : Result r} (storage : s.site = (.directory l, d))
    (served : l.run r d = (a, d')) (h : Runs Works (perform settings r) s xs b s') :
    b = a ∧ s' = { s with site := (.directory l, d') } := by
  obtain ⟨_, result, s₁, _, hask, hrest, rfl⟩ := h.bind_inv
  obtain ⟨rfl, rfl, rfl⟩ := hask.ask_inv
  rw [storage, Backend.perform_directory served] at hrest
  obtain ⟨_, _, s₂, _, htimed, hnoted, rfl⟩ := hrest.bind_inv
  obtain ⟨rfl, rfl⟩ := htimed.ask_inv
  cases a with
  | ok answer =>
    obtain ⟨rfl, rfl, rfl⟩ := hnoted.done_inv
    exact ⟨rfl, rfl⟩
  | error e =>
    obtain ⟨_, _, s₃, _, hfailed, hdone, rfl⟩ := hnoted.bind_inv
    obtain ⟨rfl, rfl⟩ := hfailed.ask_inv
    obtain ⟨rfl, rfl, rfl⟩ := hdone.done_inv
    exact ⟨rfl, rfl⟩

/-- Leftovers of a name that is not in the catalog are dropped. -/
theorem reclaimOrphan_inv {typeMeta : TypeMeta} {done : Bool} (storage : s.site = (.directory l, d))
    (missing : s.ledger.find? name = none)
    (dropped : l.run (.drop ⟨.ofType name typeMeta.name, typeMeta⟩) d = (.ok (), d'))
    (h : Runs Works (reclaimOrphan settings name typeMeta) s xs done s') :
    done = true ∧ s' = { s with site := (.directory l, d') } := by
  obtain ⟨_, found, s₁, _, hfind, hrest, rfl⟩ := h.bind_inv
  obtain ⟨rfl, rfl, rfl⟩ := hfind.ask_inv
  rw [missing] at hrest
  obtain ⟨_, result, s₂, _, hdrop, hdropped, rfl⟩ := hrest.bind_inv
  obtain ⟨rfl, rfl⟩ := perform_inv storage dropped hdrop
  obtain ⟨_, _, s₃, _, hrecord, hdone, rfl⟩ := hdropped.bind_inv
  obtain ⟨rfl, rfl⟩ := hrecord.ask_inv
  obtain ⟨rfl, rfl, rfl⟩ := hdone.done_inv
  exact ⟨rfl, rfl⟩

/-- The storage of a name that is not in the catalog is created, whatever was left over. -/
theorem createStorage_inv {c : Creation} {a : Except StorageError Specification}
    (storage : s.site = (.directory l, d)) (missing : s.ledger.find? c.name = none)
    (accepts : l.Accepts c spec) (provided : l.Provided d) (direct : l.Direct w)
    (hw : d.workingDirectory = w) (left : l.Leftover w d c.name)
    (h : Runs Works (createStorage settings c) s xs a s') :
    ∃ d', a = .ok spec ∧ s' = { s with site := (.directory l, d') } ∧ l.Fresh w d' c.name spec := by
  obtain ⟨_, first, s₁, _, hcreate, hrest, rfl⟩ := h.bind_inv
  rcases left with free | there
  · obtain ⟨d', created, fresh⟩ := accepts.create_run provided direct hw free
    obtain ⟨rfl, rfl⟩ := perform_inv storage created hcreate
    obtain ⟨rfl, rfl, rfl⟩ := hrest.done_inv
    exact ⟨d', rfl, rfl, fresh⟩
  · let removal : Removal := ⟨.ofType c.name c.typeMeta.name, c.typeMeta⟩
    have own : removal.spec.name = c.name := rfl
    obtain ⟨d₁, d₂, d₃, refused, dropped, created, fresh⟩ :=
      accepts.recreate_run provided direct hw there own
    obtain ⟨rfl, rfl⟩ := perform_inv storage refused hcreate
    obtain ⟨_, done, s₂, _, hreclaim, hagain, rfl⟩ := hrest.bind_inv
    have still : ({ s with site := (.directory l, d₁) } : Estate).ledger.find? c.name = none := missing
    obtain ⟨rfl, rfl⟩ := reclaimOrphan_inv rfl still dropped hreclaim
    obtain ⟨rfl, rfl⟩ := perform_inv rfl created hagain
    exact ⟨d₃, rfl, rfl, fresh⟩

/-! ### The create -/

/-- A request that can be met, with the specification that comes of it: its type is registered and
accepts the properties, which are in order as those of every request are, and if an owner is named
it is one that can be recorded. -/
structure Meets (settings : Settings) (name : String) (types : TypeRegistry)
    (request : InstanceConfiguration) (typeMeta : TypeMeta) (spec : Specification) : Prop where
  registered : types.find? request.typeName = some typeMeta
  typeNamed : typeMeta.name = request.typeName
  made : ∃ code, StringMap.find? request.typeName Definition.builtin = some code ∧
    code name request.properties = .ok spec
  ordered : StringMap.Sorted request.properties
  owner : ∀ principal, ownerOf request = some principal →
    Owner.validate (settings.entity name) principal = .ok ()

/-- What is made of a request is what was requested. -/
theorem Meets.requested {types : TypeRegistry} {typeMeta : TypeMeta}
    (meets : Meets settings name types request typeMeta spec) :
    spec.name = name ∧ spec.typeName = request.typeName ∧ spec.properties = request.properties := by
  have makes := Definition.makes_iff.1 meets.made
  refine ⟨makes.named.1, makes.named.2, ?_⟩
  rw [makes.properties]
  exact StringMap.insertAll_self meets.ordered

theorem claimOwner_inv {owner : Option Principal} {r : Except CatalogError Unit}
    (recordable : ∀ principal, owner = some principal →
      Owner.validate (settings.entity name) principal = .ok ())
    (free : s.ledger.owners (settings.entity name) = none)
    (h : Runs Works (claimOwner settings name owner).run s xs r s') :
    r = .ok () ∧ s' = { s with ledger := s.ledger.claim (settings.entity name) owner } := by
  cases owner with
  | none =>
    obtain ⟨rfl, rfl, rfl⟩ := h.done_inv
    exact ⟨rfl, rfl⟩
  | some principal =>
    obtain ⟨result, s₁, _, ⟨rfl, rfl⟩, hrest, rfl⟩ := Runs.call_inv h
    rw [Ledger.addOwner_of_valid (recordable principal rfl) free] at hrest
    obtain ⟨rfl, rfl, rfl⟩ := hrest.done_inv
    exact ⟨rfl, rfl⟩

/-- An instance is added where none was, and then only shown and written down. -/
theorem commit_inv {typeName : String} {typeMeta : TypeMeta} {owner : Option Principal}
    {r : Except CatalogError Specification} (free : s.ledger.find? spec.name = none)
    (h : Runs Works (commit settings typeName spec typeMeta owner).run s xs r s') :
    r = .ok spec ∧ s' = { s with ledger := s.ledger.enter spec } := by
  have added : s.ledger.addInstance spec = (.ok (), s.ledger.enter spec) := by
    simp [Ledger.addInstance, free]
  obtain ⟨result, s₁, _, ⟨rfl, rfl⟩, hrest, rfl⟩ := Runs.call_inv h
  rw [added] at hrest
  obtain ⟨_, _, s₂, _, hexpose, hrest, rfl⟩ := bind_always_inv hrest
  obtain ⟨_, shown, s₃, _, hask, htolerate, rfl⟩ := hexpose.bind_inv
  obtain ⟨rfl, rfl⟩ := hask.ask_inv
  have tolerated : s₂ = { s with ledger := s.ledger.enter spec } := by
    cases shown with
    | ok u =>
      obtain ⟨-, -, rfl⟩ := htolerate.done_inv
      rfl
    | error e =>
      obtain ⟨_, _, s₄, _, hrecord, hcount, rfl⟩ := htolerate.bind_inv
      obtain ⟨-, rfl⟩ := hrecord.ask_inv
      obtain ⟨-, rfl⟩ := hcount.ask_inv
      rfl
  subst tolerated
  obtain ⟨_, _, s₅, _, hrecord, hrest, rfl⟩ := bind_always_inv hrest
  obtain ⟨-, rfl⟩ := hrecord.ask_inv
  obtain ⟨_, _, s₆, _, hcount, hdone, rfl⟩ := bind_always_inv hrest
  obtain ⟨-, rfl⟩ := hcount.ask_inv
  obtain ⟨-, rfl, rfl⟩ := Lifecycle.pure_inv hdone
  exact ⟨rfl, rfl⟩

/-- What is to be known of an estate for a create to succeed on it: nothing of the name but what may
be left in its place, and the data directory is there or can be made. -/
structure Open (settings : Settings) (name : String) (l : Local) (w : Disk.Place) (d : Disk)
    (s : Estate) : Prop where
  site : s.site = (.directory l, d)
  uncatalogued : s.ledger.find? name = none
  unowned : s.ledger.owners (settings.entity name) = none
  builtin : l.definitions = Definition.builtin
  provided : l.Provided d
  direct : l.Direct w
  workingDirectory : d.workingDirectory = w
  left : l.Leftover w d name

theorem createReserved_inv {typeMeta : TypeMeta} {r : Except CatalogError Specification}
    (free : s.Open settings name l w d) (safe : Disk.isSafeName name = true)
    (short : Utf8.size name ≤ 250) (meets : Meets settings name s.types request typeMeta spec)
    (h : Runs Works (createReserved settings name request (ownerOf request)).run s xs r s') :
    ∃ d', r = .ok spec ∧ l.Fresh w d' name spec ∧
      s' = { s with
        ledger := (s.ledger.claim (settings.entity name) (ownerOf request)).enter spec
        site := (.directory l, d') } := by
  obtain ⟨code, found, made⟩ := meets.made
  have accepts : l.Accepts ⟨name, typeMeta, request.properties⟩ spec :=
    Local.accepts_of_builtin free.builtin (meets.typeNamed ▸ found) made
      ⟨safe, Nat.le_trans short (by decide)⟩
  obtain ⟨_, there, s₁, _, hfind, hfound, rfl⟩ | ⟨e, hfind, rfl⟩ := bind_ofRegistry_inv h
  case inr => cases hfind.ask_inv.2.1
  obtain ⟨rfl, hok, rfl⟩ := hfind.ask_inv
  obtain rfl : there = none := (Except.ok.inj hok).trans free.uncatalogued
  obtain ⟨_, typed, s₂, _, htype, htyped, rfl⟩ | ⟨e, htype, rfl⟩ := bind_ofRegistry_inv hfound
  case inr => cases htype.ask_inv.2.1
  obtain ⟨rfl, hok, rfl⟩ := htype.ask_inv
  obtain rfl : typed = some typeMeta := (Except.ok.inj hok).trans meets.registered
  obtain ⟨_, u, s₃, _, hclaim, hclaimed, rfl⟩ | ⟨e, hclaim, rfl⟩ := bind_inv htyped
  case inr => cases (claimOwner_inv meets.owner free.unowned hclaim).1
  obtain ⟨-, rfl⟩ := claimOwner_inv meets.owner free.unowned hclaim
  obtain ⟨_, result, s₄, _, hmake, hmade, rfl⟩ := bind_always_inv hclaimed
  let claimed : Estate :=
    { s₂ with ledger := s₂.ledger.claim (settings.entity name) (ownerOf request) }
  have still : claimed.ledger.find? name = none :=
    (Ledger.find?_claim _ _ _ _).trans free.uncatalogued
  obtain ⟨d', rfl, rfl, fresh⟩ := createStorage_inv (s := claimed) free.site still accepts
    free.provided free.direct free.workingDirectory free.left hmake
  have named := meets.requested.1
  dsimp only at hmade
  rw [if_pos named] at hmade
  obtain ⟨rfl, rfl⟩ := commit_inv (named ▸ still) hmade
  exact ⟨d', rfl, fresh, rfl⟩

theorem Open.reserving (free : s.Open settings name l w d) (rs : Reservations) :
    Open settings name l w d { s with reserved := rs } :=
  ⟨free.site, free.uncatalogued, free.unowned, free.builtin, free.provided, free.direct,
    free.workingDirectory, free.left⟩

theorem create_inv {typeMeta : TypeMeta} {r : Except CatalogError Specification}
    (free : s.Open settings name l w d) (unreserved : name ∉ s.reserved)
    (valid : InstanceName.isValid name = true) (safe : Disk.isSafeName name = true)
    (short : Utf8.size name ≤ 250) (meets : Meets settings name s.types request typeMeta spec)
    (h : Runs Works (create settings name request).run s xs r s') :
    ∃ d', r = .ok spec ∧ l.Fresh w d' name spec ∧
      s' = { s with
        reserved := s'.reserved
        ledger := (s.ledger.claim (settings.entity name) (ownerOf request)).enter spec
        site := (.directory l, d') } := by
  rw [create_run (checkCreate_of_recordable valid meets.owner)] at h
  obtain ⟨granted, s₁, _, ⟨rfl, rfl⟩, hrest, rfl⟩ := h.call_inv
  have reserve : s.reserved.reserve name = (true, name :: s.reserved) :=
    if_neg (by simpa using unreserved)
  rw [reserve] at hrest
  obtain ⟨_, result, s₂, _, hbody, hrelease, rfl⟩ := Runs.bind_inv hrest
  obtain ⟨d', rfl, fresh, rfl⟩ :=
    createReserved_inv (free.reserving (name :: s.reserved)) safe short meets hbody
  obtain ⟨_, s₃, _, rfl, hdone, rfl⟩ := Runs.call_inv hrelease
  obtain ⟨rfl, rfl, rfl⟩ := hdone.done_inv
  exact ⟨d', rfl, fresh, rfl⟩

/-- Asked for an instance, the coordinator reports what the catalog, the registry of types and the
owner records have. -/
theorem get_inv {g : Except CatalogError (Option InstanceMeta)}
    (valid : InstanceName.isValid name = true) (there : s.ledger.find? name = some spec)
    (h : Runs Works (Lifecycle.get settings name).run s xs g s') :
    g = .ok (some ⟨spec, s.types.find? spec.typeName, none,
      (s.ledger.owners (settings.entity name)).map Principal.text⟩) := by
  rw [Lifecycle.get, if_pos valid] at h
  obtain ⟨_, found, s₁, _, hfind, hfound, rfl⟩ | ⟨e, hfind, rfl⟩ := bind_ofRegistry_inv h
  case inr => cases hfind.ask_inv.2.1
  obtain ⟨rfl, hok, rfl⟩ := hfind.ask_inv
  obtain rfl : found = some spec := (Except.ok.inj hok).trans there
  obtain ⟨_, typed, s₂, _, htype, htyped, rfl⟩ | ⟨e, htype, rfl⟩ := bind_ofRegistry_inv hfound
  case inr => cases htype.ask_inv.2.1
  obtain ⟨rfl, hok, rfl⟩ := htype.ask_inv
  obtain rfl := Except.ok.inj hok
  obtain ⟨_, owner, s₃, _, howner, howned, rfl⟩ | ⟨e, howner, rfl⟩ := bind_ofOwners_inv htyped
  case inr => cases howner.ask_inv.2.1
  obtain ⟨rfl, hok, rfl⟩ := howner.ask_inv
  obtain rfl := Except.ok.inj hok
  exact (pure_inv howned).2.1

end Estate

end DatasetCatalog
