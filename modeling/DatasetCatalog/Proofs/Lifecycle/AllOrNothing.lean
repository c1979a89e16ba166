import DatasetCatalog.Proofs.Lifecycle.Aside
import DatasetCatalog.Proofs.Lifecycle.Memory

/-!
# A create leaves all or nothing

Whatever the storage and the query engine answer, a create either adds its instance and its owner
record to the ledger, or leaves the ledger as it was. It makes at most two attempts at the storage.

The functions of `Lifecycle.Create` are followed one by one, from the inside out. For each there is
one lemma that says of all its runs what became of the ledger and which storage operations were
made. What carries the argument is that the owner record of a create is added where none was
(`claimOwner_inv`), so that taking it back gives the ledger from before (`Ledger.unclaim_claim`).
-/

namespace DatasetCatalog

namespace Storage

/-- The removal of what is left over where something is to be created. -/
def Creation.leftover (c : Creation) : Removal := ⟨.ofType c.name c.typeMeta.name, c.typeMeta⟩

/-- The storage operations of the attempts at a creation, and what they come to: one attempt, one
that finds leftovers which cannot be removed, or one that does and another one after it. -/
inductive Attempts (c : Creation) : List StorageExchange → Result (.create c) → Prop
  | once (a : Result (.create c)) : Attempts c [⟨.create c, a⟩] a
  | blocked (found : String) (result : List StorageExchange)
      (drops : result = [] ∨ ∃ e, result = [⟨.drop c.leftover, .error e⟩]) :
      Attempts c (⟨.create c, .error (.alreadyExists found)⟩ :: result)
        (.error (.alreadyExists found))
  | twice (found : String) (a : Result (.create c)) :
      Attempts c [⟨.create c, .error (.alreadyExists found)⟩, ⟨.drop c.leftover, .ok ()⟩,
        ⟨.create c, a⟩] a

/-- Whether a request creates storage. -/
def Request.isCreate : Request → Bool
  | .create _ => true
  | _ => false

/-- Whether a request removes storage. -/
def Request.isDrop : Request → Bool
  | .drop _ => true
  | _ => false

/-- Requests that a create may make for a name: at most two creates and at most two drops. -/
structure Bounded (name : String) (rs : List Request) : Prop where
  creates : rs.countP Request.isCreate ≤ 2
  drops : rs.countP Request.isDrop ≤ 2
  kinds : ∀ r ∈ rs, (r.isCreate || r.isDrop) = true ∧ r.target = name

theorem Bounded.nil (name : String) : Bounded name [] :=
  ⟨Nat.zero_le _, Nat.zero_le _, by simp⟩

/-- After the attempts there is room for one more removal. -/
theorem Attempts.bounded {c : Creation} {ops : List StorageExchange} {a : Result (.create c)}
    (h : Attempts c ops a) {rest : List Request}
    (hrest : rest = [] ∨ ∃ r : Removal, r.spec.name = c.name ∧ rest = [.drop r]) :
    Bounded c.name (ops.map StorageExchange.request ++ rest) := by
  rcases hrest with rfl | ⟨r, target, rfl⟩ <;>
  rcases h with _ | ⟨_, _, rfl | ⟨e, rfl⟩⟩ | _ <;>
  constructor <;>
  simp_all [List.countP_cons, Request.isCreate, Request.isDrop, Request.target, Creation.leftover,
    Specification.ofType]

end Storage

namespace Lifecycle

open Program Ledger Storage

variable {settings : Settings} {name : String} {l l' : Ledger} {xs : List Exchange}

/-! ### Parts that leave the ledger alone -/

theorem count_inv {reading : Reading} {u : Unit}
    (h : Runs Permits (count reading) l xs u l') : storageOf xs = [] ∧ l' = l := by
  obtain ⟨rfl, answered⟩ := h.ask_inv
  exact ⟨rfl, answered⟩

theorem record_inv {event : Audit.Event} {u : Unit}
    (h : Runs Permits (record event) l xs u l') : storageOf xs = [] ∧ l' = l := by
  obtain ⟨rfl, answered⟩ := h.ask_inv
  exact ⟨rfl, answered⟩

/-- Work on the storage leaves the ledger alone. -/
theorem storageWork_inv {α : Type} {p : Program α} {a : α} (work : StorageWork p)
    (h : Runs Permits p l xs a l') : l' = l := by
  refine h.invariant (I := (· = l)) work (fun c l₁ a l₂ work permitted same => ?_) rfl
  cases c with
  | findInstance => exact permitted.2.trans same
  | perform | record | count => exact Eq.trans permitted same
  | _ => cases work

theorem perform_inv {r : Request} {a : Storage.Result r}
    (h : Runs Permits (perform settings r) l xs a l') : storageOf xs = [⟨r, a⟩] ∧ l' = l :=
  ⟨storageOf_perform h, storageWork_inv (storageWork_perform r) h⟩

theorem tolerate_inv {operation : String} {r : Except ExploreError Unit} {u : Unit}
    (h : Runs Permits (tolerate name operation r) l xs u l') : storageOf xs = [] ∧ l' = l := by
  cases r with
  | ok _ =>
    obtain ⟨rfl, -, rfl⟩ := h.done_inv
    exact ⟨rfl, rfl⟩
  | error e =>
    obtain ⟨_, _, _, _, hrecord, hcount, rfl⟩ := h.bind_inv
    obtain ⟨quiet₁, rfl⟩ := record_inv hrecord
    obtain ⟨quiet₂, rfl⟩ := count_inv hcount
    exact ⟨by simp [quiet₁, quiet₂], rfl⟩

theorem findInstance_inv {a : Except RegistryError (Option Specification)}
    (h : Runs Permits (findInstance name) l xs a l') :
    storageOf xs = [] ∧ (∀ found, a = .ok found → l.find? name = found) ∧ l' = l := by
  obtain ⟨rfl, honest, rfl⟩ := h.ask_inv
  refine ⟨rfl, ?_, rfl⟩
  rintro found rfl
  obtain heq | ⟨e, heq⟩ := honest <;> cases heq
  rfl

theorem findType_inv {typeName : String} {a : Except RegistryError (Option TypeMeta)}
    (h : Runs Permits (findType typeName) l xs a l') : storageOf xs = [] ∧ l' = l := by
  obtain ⟨rfl, rfl⟩ := h.ask_inv
  exact ⟨rfl, rfl⟩

/-! ### The storage -/

section

variable {σ : Type} {B : Conduct σ} {s s' : σ} {c : Creation}

theorem reclaimOrphan_storage {done : Bool}
    (h : Runs B (reclaimOrphan settings c.name c.typeMeta) s xs done s') :
    done = true ∧ storageOf xs = [⟨.drop c.leftover, .ok ()⟩] ∨
      done = false ∧ (storageOf xs = [] ∨ ∃ e, storageOf xs = [⟨.drop c.leftover, .error e⟩]) := by
  obtain ⟨_, found, _, _, hfind, hrest, rfl⟩ := h.bind_inv
  obtain ⟨rfl, -⟩ := hfind.ask_inv
  -- storage is only dropped if the catalog was read and has no entry
  rcases found with e | ⟨_ | spec⟩
  · obtain ⟨rfl, rfl, -⟩ := hrest.done_inv
    exact .inr ⟨rfl, .inl rfl⟩
  · obtain ⟨_, result, _, _, hdrop, hrest, rfl⟩ := hrest.bind_inv
    have dropped := storageOf_perform (r := .drop c.leftover) hdrop
    rw [storageOf_append, storageOf_append, dropped]
    cases result with
    | ok u =>
      obtain ⟨_, _, _, _, hrecord, hdone, rfl⟩ := hrest.bind_inv
      obtain ⟨rfl, -⟩ := hrecord.ask_inv
      obtain ⟨rfl, rfl, -⟩ := hdone.done_inv
      exact .inl ⟨rfl, rfl⟩
    | error e =>
      obtain ⟨rfl, rfl, -⟩ := hrest.done_inv
      exact .inr ⟨rfl, .inr ⟨e, rfl⟩⟩
  · obtain ⟨rfl, rfl, -⟩ := hrest.done_inv
    exact .inr ⟨rfl, .inl rfl⟩

/-- Whatever calls are answered, storage is created in one of the ways that there are. -/
theorem createStorage_attempts {a : Except StorageError Specification}
    (h : Runs B (createStorage settings c) s xs a s') : Attempts c (storageOf xs) a := by
  obtain ⟨_, first, _, _, hcreate, hrest, rfl⟩ := h.bind_inv
  have created := storageOf_perform hcreate
  rw [storageOf_append, created]
  cases first with
  | ok spec =>
    obtain ⟨rfl, rfl, -⟩ := hrest.done_inv
    exact .once _
  | error e =>
    cases e with
    | alreadyExists found =>
      obtain ⟨_, done, _, _, hreclaim, hrest, rfl⟩ := hrest.bind_inv
      -- there is a second attempt only if what was in the way could be dropped
      obtain ⟨rfl, dropped⟩ | ⟨rfl, dropped⟩ := reclaimOrphan_storage hreclaim
      · rw [storageOf_append, dropped, storageOf_perform hrest]
        exact .twice found a
      · obtain ⟨rfl, rfl, -⟩ := hrest.done_inv
        rw [List.append_nil]
        exact .blocked found _ dropped
    | _ =>
      obtain ⟨rfl, rfl, -⟩ := hrest.done_inv
      exact .once _

end

theorem createStorage_inv {c : Creation} {a : Except StorageError Specification}
    (h : Runs Permits (createStorage settings c) l xs a l') :
    Attempts c (storageOf xs) a ∧ l' = l :=
  ⟨createStorage_attempts h, storageWork_inv (storageWork_createStorage c) h⟩

/-! ### The owner record -/

theorem rollBackOwner_inv {entity : EntityId} {owner : Option Principal} {u : Unit}
    (h : Runs Permits (rollBackOwner entity owner) l xs u l') :
    storageOf xs = [] ∧ l' = l.unclaim entity owner := by
  cases owner with
  | none =>
    obtain ⟨rfl, -, rfl⟩ := h.done_inv
    exact ⟨rfl, rfl⟩
  | some principal =>
    obtain ⟨_, _, _, ⟨-, rfl⟩, hdone, rfl⟩ := Runs.call_inv h
    obtain ⟨rfl, -, rfl⟩ := hdone.done_inv
    exact ⟨rfl, rfl⟩

/-- An owner is recorded only where none was. -/
theorem claimOwner_inv {owner : Option Principal} {r : Except CatalogError Unit}
    (h : Runs Permits (claimOwner settings name owner).run l xs r l') :
    storageOf xs = [] ∧
      (r = .ok () ∧ l' = l.claim (settings.entity name) owner ∧
          (owner.isSome → l.owners (settings.entity name) = none) ∨
        (∃ e, r = .error e) ∧ l' = l) := by
  cases owner with
  | none =>
    obtain ⟨rfl, rfl, rfl⟩ := h.done_inv
    exact ⟨rfl, .inl ⟨rfl, rfl, by simp⟩⟩
  | some principal =>
    obtain ⟨result, _, _, answered, hrest, rfl⟩ := Runs.call_inv h
    cases result with
    | ok u =>
      obtain ⟨rfl, rfl, rfl⟩ := hrest.done_inv
      obtain ⟨free, rfl⟩ := addOwner_eq_ok (Eq.symm answered)
      exact ⟨rfl, .inl ⟨rfl, rfl, fun _ => free⟩⟩
    | error e =>
      obtain rfl := addOwner_eq_error (Eq.symm answered)
      cases e <;>
      · obtain ⟨rfl, rfl, rfl⟩ := hrest.done_inv
        exact ⟨rfl, .inr ⟨⟨_, rfl⟩, rfl⟩⟩

/-! ### The exits -/

theorem failCreate_inv {typeName : String} {owner : Option Principal} {source : StorageError}
    {e : CatalogError} (h : Runs Permits (failCreate settings name typeName owner source) l xs e l') :
    storageOf xs = [] ∧ l' = l.unclaim (settings.entity name) owner := by
  obtain ⟨_, _, _, _, hrecord, hrest, rfl⟩ := h.bind_inv
  obtain ⟨quiet, rfl⟩ := record_inv hrecord
  obtain ⟨_, _, _, _, hback, hrest, rfl⟩ := hrest.bind_inv
  obtain ⟨quiet', rfl⟩ := rollBackOwner_inv hback
  rw [storageOf_append, storageOf_append, quiet, quiet']
  split at hrest
  · obtain ⟨rfl, -, rfl⟩ := hrest.done_inv
    exact ⟨rfl, rfl⟩
  · obtain ⟨_, found, _, _, hfind, hrest, rfl⟩ := hrest.bind_inv
    obtain ⟨quiet'', -, rfl⟩ := findInstance_inv hfind
    rw [storageOf_append, quiet'']
    split at hrest <;>
    · obtain ⟨rfl, -, rfl⟩ := hrest.done_inv
      exact ⟨rfl, rfl⟩

theorem rollBack_inv {spec : Specification} {typeMeta : TypeMeta} {owner : Option Principal}
    {source : RegistryError} {e : CatalogError}
    (h : Runs Permits (rollBack settings spec typeMeta owner source) l xs e l') :
    l' = l.unclaim (settings.entity spec.name) owner ∧
      (performed xs = [] ∨ performed xs = [.drop ⟨spec, typeMeta⟩]) := by
  obtain ⟨_, _, _, _, hback, hrest, rfl⟩ := h.bind_inv
  obtain ⟨quiet, rfl⟩ := rollBackOwner_inv hback
  rw [performed_append, performed, quiet]
  split at hrest
  · obtain ⟨rfl, -, rfl⟩ := hrest.done_inv
    exact ⟨rfl, .inl rfl⟩
  · obtain ⟨_, _, _, _, hdrop, hrest, rfl⟩ := hrest.bind_inv
    obtain ⟨_, hdrop⟩ := hdrop.discard_inv
    obtain ⟨dropped, rfl⟩ := perform_inv hdrop
    obtain ⟨rfl, -, rfl⟩ := hrest.done_inv
    exact ⟨rfl, .inr (by simp [performed, dropped])⟩

/-- An instance is added where none was, or the owner record goes again. -/
theorem commit_inv {typeName : String} {spec : Specification} {typeMeta : TypeMeta}
    {owner : Option Principal} {r : Except CatalogError Specification}
    (h : Runs Permits (commit settings typeName spec typeMeta owner).run l xs r l') :
    (r = .ok spec ∧ l.find? spec.name = none ∧ l' = l.enter spec ∧ storageOf xs = []) ∨
      (∃ e, r = .error e) ∧ l' = l.unclaim (settings.entity spec.name) owner ∧
        (performed xs = [] ∨ performed xs = [.drop ⟨spec, typeMeta⟩]) := by
  obtain ⟨result, l₁, rest, answered, hrest, rfl⟩ := Runs.call_inv h
  cases result with
  | error e =>
    -- refused or failed, the call has left the ledger as it was
    have unchanged : l₁ = l := by
      rcases answered with answered | ⟨_, -, rfl⟩
      · exact addInstance_eq_error answered.symm
      · rfl
    subst unchanged
    obtain ⟨_, _, _, _, hback, hthrow, rfl⟩ := bind_always_inv hrest
    obtain ⟨rfl, dropped⟩ := rollBack_inv hback
    obtain ⟨rfl, rfl, rfl⟩ := throw_inv hthrow
    rw [List.append_nil]
    exact .inr ⟨⟨_, rfl⟩, rfl, dropped⟩
  | ok u =>
    have ⟨free, entered⟩ : l.find? spec.name = none ∧ l₁ = l.enter spec := by
      rcases answered with answered | ⟨_, herr, -⟩
      · exact addInstance_eq_ok answered.symm
      · cases herr
    subst entered
    -- the rest of the way touches neither the ledger nor the storage, and cannot fail
    obtain ⟨_, _, _, _, hexpose, hrest, rfl⟩ := bind_always_inv hrest
    obtain ⟨_, shown, _, _, hask, htolerate, rfl⟩ := hexpose.bind_inv
    obtain ⟨rfl, rfl⟩ := hask.ask_inv
    obtain ⟨quiet₁, rfl⟩ := tolerate_inv htolerate
    obtain ⟨_, _, _, _, hrecord, hrest, rfl⟩ := bind_always_inv hrest
    obtain ⟨quiet₂, rfl⟩ := record_inv hrecord
    obtain ⟨_, _, _, _, hcount, hdone, rfl⟩ := bind_always_inv hrest
    obtain ⟨quiet₃, rfl⟩ := count_inv hcount
    obtain ⟨rfl, rfl, rfl⟩ := pure_inv hdone
    refine .inl ⟨rfl, free, rfl, ?_⟩
    simp [storageOf_cons, Exchange.storage?, quiet₁, quiet₂, quiet₃]

/-! ### The whole -/

/-- What a create comes to on a ledger, with the storage operations it makes. -/
inductive Outcome (settings : Settings) (name : String) (owner : Option Principal) (l : Ledger) :
    List StorageExchange → Except CatalogError Specification → Ledger → Prop
  /-- The storage was created, and the instance and its owner are recorded. -/
  | created {ops : List StorageExchange} {c : Creation} {spec : Specification}
      (attempts : Attempts c ops (.ok spec)) (target : c.name = name) (named : spec.name = name)
      (free : l.find? name = none)
      (unowned : owner.isSome → l.owners (settings.entity name) = none) :
      Outcome settings name owner l ops (.ok spec) ((l.claim (settings.entity name) owner).enter spec)
  /-- Nothing is recorded, and storage was only touched if the name was free. -/
  | failed {ops : List StorageExchange} {e : CatalogError}
      (bounded : Bounded name (ops.map StorageExchange.request))
      (free : ops ≠ [] → l.find? name = none) : Outcome settings name owner l ops (.error e) l

theorem Outcome.untouched {owner : Option Principal} {e : CatalogError} :
    Outcome settings name owner l [] (.error e) l :=
  .failed (.nil name) (fun h => absurd rfl h)

/-- A create that claimed its owner record and then fails has taken it back. -/
theorem Outcome.takenBack {owner : Option Principal} {e : CatalogError}
    {ops : List StorageExchange} (bounded : Bounded name (ops.map StorageExchange.request))
    (free : l.find? name = none)
    (unowned : owner.isSome → l.owners (settings.entity name) = none) :
    Outcome settings name owner l ops (.error e)
      ((l.claim (settings.entity name) owner).unclaim (settings.entity name) owner) := by
  rw [unclaim_claim unowned]
  exact .failed bounded (fun _ => free)

theorem createReserved_inv {request : InstanceConfiguration} {owner : Option Principal}
    {r : Except CatalogError Specification}
    (h : Runs Permits (createReserved settings name request owner).run l xs r l') :
    Outcome settings name owner l (storageOf xs) r l' := by
  obtain ⟨_, found, l₁, _, hfind, hfound, rfl⟩ | ⟨e, hfind, rfl⟩ := bind_ofRegistry_inv h
  case inr =>
    obtain ⟨quiet, -, rfl⟩ := findInstance_inv hfind
    rw [quiet]
    exact .untouched
  obtain ⟨quiet₁, honest, rfl⟩ := findInstance_inv hfind
  rw [storageOf_append, quiet₁, List.nil_append]
  rcases found with _ | spec
  case some =>
    obtain ⟨rfl, rfl, rfl⟩ := throw_inv hfound
    exact .untouched
  obtain ⟨_, typed, l₂, _, htype, htyped, rfl⟩ | ⟨e, htype, rfl⟩ := bind_ofRegistry_inv hfound
  case inr =>
    obtain ⟨quiet, rfl⟩ := findType_inv htype
    rw [quiet]
    exact .untouched
  obtain ⟨quiet₂, rfl⟩ := findType_inv htype
  rw [storageOf_append, quiet₂, List.nil_append]
  rcases typed with _ | typeMeta
  case none =>
    obtain ⟨rfl, rfl, rfl⟩ := throw_inv htyped
    exact .untouched
  obtain ⟨_, u, l₃, _, hclaim, hclaimed, rfl⟩ | ⟨e, hclaim, rfl⟩ := bind_inv htyped
  case inr =>
    obtain ⟨quiet, ⟨hr, -⟩ | ⟨-, rfl⟩⟩ := claimOwner_inv hclaim
    · cases hr
    · rw [quiet]
      exact .untouched
  obtain ⟨quiet₃, ⟨-, rfl, unowned⟩ | ⟨⟨e, he⟩, -⟩⟩ := claimOwner_inv hclaim
  case inr => cases he
  rw [storageOf_append, quiet₃, List.nil_append]
  -- From here on the owner is recorded; what is left is to commit or to take that back.
  have free : l₂.find? name = none := honest none rfl
  obtain ⟨_, made, _, _, hmake, hmade, rfl⟩ := bind_always_inv hclaimed
  obtain ⟨attempts, rfl⟩ := createStorage_inv hmake
  rw [storageOf_append]
  -- every exit but the last of `commit` goes through `unclaim`
  rcases made with e | spec
  case error =>
    obtain ⟨_, _, _, _, hfail, hthrow, rfl⟩ := bind_always_inv hmade
    obtain ⟨quiet, rfl⟩ := failCreate_inv hfail
    obtain ⟨rfl, rfl, rfl⟩ := throw_inv hthrow
    rw [List.append_nil, quiet]
    exact .takenBack (by simpa using attempts.bounded (.inl rfl)) free unowned
  dsimp only at hmade
  split at hmade
  case isTrue named =>
    obtain ⟨rfl, -, rfl, quiet⟩ | ⟨⟨e, rfl⟩, rfl, dropped⟩ := commit_inv hmade
    · rw [quiet, List.append_nil]
      exact .created attempts rfl named free unowned
    · rw [named]
      refine .takenBack ?_ free unowned
      rw [List.map_append]
      refine attempts.bounded (dropped.imp_right fun hdrop => ⟨_, named, hdrop⟩)
  case isFalse =>
    obtain ⟨_, _, _, _, hfail, hthrow, rfl⟩ := bind_always_inv hmade
    obtain ⟨quiet, rfl⟩ := failCreate_inv hfail
    obtain ⟨rfl, rfl, rfl⟩ := throw_inv hthrow
    rw [List.append_nil, quiet]
    exact .takenBack (by simpa using attempts.bounded (.inl rfl)) free unowned

theorem withReservation_inv {α : Type} {step : Step α} {r : Except CatalogError α}
    (h : Runs Permits (withReservation name step).run l xs r l') :
    (∃ ys, Runs Permits step.run l ys r l' ∧ storageOf xs = storageOf ys) ∨
      r = .error (.instanceExists name) ∧ l' = l ∧ storageOf xs = [] := by
  obtain ⟨_, granted, l₁, _, hask, hrest, rfl⟩ := bind_always_inv h
  obtain ⟨rfl, rfl⟩ := hask.ask_inv
  cases granted with
  | false =>
    obtain ⟨rfl, rfl, rfl⟩ := throw_inv hrest
    exact .inr ⟨rfl, rfl, rfl⟩
  | true =>
    obtain ⟨ys, result, l₂, _, hstep, hended, rfl⟩ := bind_always_inv hrest
    obtain ⟨_, _, l₃, _, hrelease, hdone, rfl⟩ := bind_always_inv hended
    obtain ⟨rfl, rfl⟩ := hrelease.ask_inv
    obtain ⟨rfl, rfl, rfl⟩ := Runs.done_inv hdone
    exact .inl ⟨ys, hstep, by simp [storageOf_cons, Exchange.storage?]⟩

/-- A create that is refused before anything is touched, or one that is not. -/
theorem create_inv {request : InstanceConfiguration} {r : Except CatalogError Specification}
    (h : Runs Permits (create settings name request).run l xs r l') :
    ∃ owner, Outcome settings name owner l (storageOf xs) r l' ∧
      ∀ spec, r = .ok spec → checkCreate settings name request = .ok owner := by
  obtain ⟨_, checked, l₁, _, hcheck, hrest, rfl⟩ := Runs.bind_inv h
  obtain ⟨rfl, rfl, rfl⟩ := Runs.done_inv hcheck
  rw [List.nil_append]
  cases hchecked : checkCreate settings name request with
  | error e =>
    rw [hchecked] at hrest
    obtain ⟨rfl, rfl, rfl⟩ := Runs.done_inv hrest
    exact ⟨none, .untouched, fun spec h => by cases h⟩
  | ok owner =>
    rw [hchecked] at hrest
    refine ⟨owner, ?_, fun _ _ => rfl⟩
    obtain ⟨ys, hstep, hops⟩ | ⟨rfl, rfl, quiet⟩ := withReservation_inv hrest
    · rw [hops]
      exact createReserved_inv hstep
    · rw [quiet]
      exact .untouched

/-- The two ends of a create on a ledger: the instance and the owner that was asked for are
recorded, where neither was before, or nothing has changed. Either way at most two creates and two
drops of storage were made, all of this name. -/
def AllOrNothing (settings : Settings) (name : String) (request : InstanceConfiguration)
    (l : Ledger) (xs : List Exchange) (r : Except CatalogError Specification) (l' : Ledger) :
    Prop :=
  Bounded name (performed xs) ∧
    match r with
    | .ok spec =>
      InstanceName.isValid name = true ∧ spec.name = name ∧ l.find? name = none ∧
        (request.ownerPrincipal.isSome → l.owners (settings.entity name) = none) ∧
        l' = (l.claim (settings.entity name) (ownerOf request)).enter spec
    | .error _ => l' = l

theorem allOrNothing {request : InstanceConfiguration} {r : Except CatalogError Specification}
    (h : Runs Permits (create settings name request).run l xs r l') :
    AllOrNothing settings name request l xs r l' := by
  obtain ⟨owner, hr, checked⟩ := create_inv h
  generalize hops : storageOf xs = ops at hr
  unfold AllOrNothing performed
  rw [hops]
  cases hr with
  | created attempts target named free unowned =>
    obtain ⟨valid, howner⟩ := checkCreate_eq_ok (checked _ rfl)
    have bounded : Bounded name (ops.map StorageExchange.request ++ []) :=
      target ▸ attempts.bounded (.inl rfl)
    rw [List.append_nil] at bounded
    subst howner
    exact ⟨bounded, valid, named, free, by simpa using unowned, rfl⟩
  | failed bounded _ => exact ⟨bounded, rfl⟩

/-- **A create is all or nothing**, whatever the storage, the query engine and the registry of types
answer and whichever calls of the registry of instances fail without effect: it comes to an end,
and at its end the ledger has gained what was asked for or is what it was. -/
theorem create_all_or_nothing {σ : Type} {B : Conduct σ} {ledger : σ → Ledger} (total : B.Total)
    (trusted : ∀ c s a s', B c s a s' → Permits c (ledger s) a (ledger s')) (settings : Settings)
    (name : String) (request : InstanceConfiguration) (s : σ) :
    (∃ xs r s', Runs B (create settings name request).run s xs r s') ∧
      ∀ xs r s', Runs B (create settings name request).run s xs r s' →
        AllOrNothing settings name request (ledger s) xs r (ledger s') := by
  refine ⟨exists_runs total _ s, ?_⟩
  intro xs r s' h
  exact allOrNothing (h.simulate trusted)

theorem create_all_or_nothing_in_memory :
    let orders : Specification := .ofType "orders" "table"
    let fresh : MemoryStores := ⟨([], {}), ⟨_, rfl⟩, ⟨_, rfl⟩⟩
    (Conduct.ofHandler memoryAnswer).Total ∧
      (∀ c s a s', Conduct.ofHandler memoryAnswer c s a s' →
        Permits c s.1.2.ledger a s'.1.2.ledger) ∧
      ∃ xs s', Runs (.ofHandler memoryAnswer) (create {} "orders" ⟨"table", [], some "alice"⟩).run
          fresh xs (.ok orders) s' ∧
        AllOrNothing {} "orders" ⟨"table", [], some "alice"⟩ fresh.1.2.ledger xs (.ok orders)
          s'.1.2.ledger ∧
        s'.1.2.ledger.find? "orders" = some orders := by
  intro orders fresh
  have total : (Conduct.ofHandler memoryAnswer).Total := fun _ _ => ⟨_, _, rfl⟩
  have trusted : ∀ c s a s', Conduct.ofHandler memoryAnswer c s a s' →
      Permits c s.1.2.ledger a s'.1.2.ledger := by
    rintro c s _ _ ⟨⟩
    exact memoryConduct_permitted c s _ _ rfl
  obtain ⟨xs, h⟩ := runs_ofHandler memoryAnswer
    (create {} "orders" ⟨"table", [], some "alice"⟩).run fresh
  have created : ((create {} "orders" ⟨"table", [], some "alice"⟩).run.run memoryAnswer fresh).1 =
      .ok orders := rfl
  rw [created] at h
  have all := (create_all_or_nothing total trusted {} "orders" ⟨"table", [], some "alice"⟩ fresh).2
    xs _ _ h
  exact ⟨total, trusted, xs, _, h, all, rfl⟩

end Lifecycle

end DatasetCatalog
