import DatasetCatalog.Http.Message
import DatasetCatalog.Proofs.Lifecycle.Aside
import DatasetCatalog.Proofs.Lifecycle.Errand
import DatasetCatalog.Proofs.Lifecycle.Ledger
import DatasetCatalog.Proofs.Lifecycle.Reserved

/-!
# What a refusal leaves behind

An error says whose fault it is: a refusal is the client's (`Refuses`), because its request makes no
sense, clashes with what there is or names what there is not; all other errors are the service's. The
client may take a refusal to mean that nothing was done.

An operation can refuse late, when it has recorded an owner or dropped storage that was left over. So
for each one every way to its end is followed, in a state that has the ledger, the tables that the query
engine shows and the storage of every name (`Realm`). Refusals leave all of it as it was, but for storage
that no entry of the catalog stands for (`Untouched`).
-/

namespace DatasetCatalog

/-- What the operations of a coordinator can change: the ledger, the tables that the query engine shows
and what is stored for each name. What tables and storage look like is left open. -/
structure Realm (T S : Type) where
  ledger : Ledger
  tables : T
  stored : String → S

namespace Realm

variable {T S : Type} {x x' : Realm T S}

/-- Whether a storage operation has found that there is no storage, or that there already is some. -/
def Declines {α : Type} : Except StorageError α → Prop
  | .error (.notFound _) | .error (.alreadyExists _) => True
  | _ => False

/-- The answers that a call may get where the catalog and the owner store work. The query engine may
show any tables once it is told of one. A storage operation that declines has changed nothing, and a
drop changes no other storage than that of its instance; apart from that, storage operations may fail
and do what they like with storage. -/
def Permits : Conduct (Realm T S)
  | .findInstance name, x, a, x' => a = .ok (x.ledger.find? name) ∧ x' = x
  | .allInstances, x, a, x' => a = .ok (StringMap.values x.ledger.catalog) ∧ x' = x
  | .addInstance spec, x, a, x' =>
    a = (x.ledger.addInstance spec).1 ∧ x' = { x with ledger := (x.ledger.addInstance spec).2 }
  | .removeInstance name, x, a, x' =>
    a = (x.ledger.removeInstance name).1 ∧ x' = { x with ledger := (x.ledger.removeInstance name).2 }
  | .addOwner entity principal, x, a, x' =>
    a = (x.ledger.addOwner entity principal).1 ∧
      x' = { x with ledger := (x.ledger.addOwner entity principal).2 }
  | .findOwner entity, x, a, x' => a = .ok (x.ledger.owners entity) ∧ x' = x
  | .removeOwner entity, x, a, x' => a = .ok () ∧ x' = { x with ledger := x.ledger.disown entity }
  | .expose _, x, _, x' | .withdraw _, x, _, x' => ∃ tables, x' = { x with tables }
  | .perform request _, x, a, x' =>
    (∃ stored, x' = { x with stored }) ∧ (Declines a → x' = x) ∧
      ∀ r, request = .drop r → ∀ name, name ≠ r.spec.name → x'.stored name = x.stored name
  | _, x, _, x' => x' = x

/-- Nothing has changed, but for storage that no entry of the catalog stands for. -/
structure Untouched (x x' : Realm T S) : Prop where
  ledger : x'.ledger = x.ledger
  tables : x'.tables = x.tables
  stored : ∀ name, (x.ledger.find? name).isSome → x'.stored name = x.stored name

theorem Untouched.refl (x : Realm T S) : Untouched x x := ⟨rfl, rfl, fun _ _ => rfl⟩

/-- At most the storage of one name has changed. -/
structure Beside (name : String) (x x' : Realm T S) : Prop where
  ledger : x'.ledger = x.ledger
  tables : x'.tables = x.tables
  stored : ∀ other, other ≠ name → x'.stored other = x.stored other

theorem Beside.refl (name : String) (x : Realm T S) : Beside name x x := ⟨rfl, rfl, fun _ _ => rfl⟩

/-- Storage of a name that the catalog does not know is nobody's. -/
theorem Beside.untouched {name : String} (h : Beside name x x')
    (missing : x.ledger.find? name = none) : Untouched x x' := by
  refine ⟨h.ledger, h.tables, fun other there => h.stored other ?_⟩
  rintro rfl
  rw [missing] at there
  cases there

end Realm

/-- An error that blames the request. -/
def CatalogError.Refuses (e : CatalogError) : Prop := Http.ApiError.statusOf e.kind < 500

namespace Realm

open Lifecycle Program

variable {T S α : Type} {settings : Settings} {name : String} {x x' : Realm T S}
  {xs : List Exchange}

/-- An operation that refuses has touched nothing. -/
def RefusesUntouched (step : Step α) (x : Realm T S) : Prop :=
  ∀ xs e x', Runs Permits step.run x xs (.error e) x' → e.Refuses → Untouched x x'

/-! ### Parts of operations -/

theorem looks_inv {p : Program α} {a : α} (looks : Looks p) (h : Runs Permits p x xs a x') :
    x' = x := by
  refine h.invariant (I := fun y => y = x) looks (fun c y a y' look answered same => ?_) rfl
  cases c with
  | findInstance | allInstances | findOwner => exact answered.2.trans same
  | findType | exposedTables | record | count => exact Eq.trans answered same
  | _ => cases look

/-- A storage operation does what its call does. -/
theorem perform_permitted {r : Storage.Request} {a : Storage.Result r}
    (h : Runs Permits (perform settings r) x xs a x') :
    Permits (.perform r settings.operationLimit) x a x' := by
  obtain ⟨x₁, ys, answered, ⟨p, looks, rest⟩, -⟩ := perform_answered h
  obtain rfl := looks_inv looks rest
  exact answered

theorem drop_beside {r : Storage.Removal} {a : Except StorageError Unit}
    (h : Runs Permits (perform settings (.drop r)) x xs a x') : Beside r.spec.name x x' := by
  obtain ⟨⟨stored, rfl⟩, -, others⟩ := perform_permitted h
  exact ⟨rfl, rfl, others r rfl⟩

/-- Storage that is left over is dropped, and nothing else is. -/
theorem reclaimOrphan_beside {typeMeta : TypeMeta} {reclaimed : Bool}
    (h : Runs Permits (reclaimOrphan settings name typeMeta) x xs reclaimed x') :
    Beside name x x' := by
  obtain ⟨_, found, x₁, _, hfind, h₁, rfl⟩ := h.bind_inv
  obtain ⟨rfl, -, rfl⟩ := hfind.ask_inv
  rcases found with e | _ | spec
  case ok.none =>
    obtain ⟨_, dropped, x₂, _, hdrop, h₂, rfl⟩ := h₁.bind_inv
    have beside : Beside name x₁ x₂ := drop_beside hdrop
    cases dropped with
    | ok u =>
      obtain ⟨_, v, x₃, _, hrecord, hdone, rfl⟩ := h₂.bind_inv
      obtain ⟨rfl, rfl⟩ := hrecord.ask_inv
      obtain ⟨-, -, rfl⟩ := hdone.done_inv
      exact beside
    | error e =>
      obtain ⟨-, -, rfl⟩ := h₂.done_inv
      exact beside
  all_goals
    obtain ⟨-, -, rfl⟩ := h₁.done_inv
    exact .refl _ _

/-- Making storage leaves ledger and tables. If there was storage already, no other storage has changed
than what was left over. -/
theorem createStorage_inv {c : Storage.Creation} {a : Except StorageError Specification}
    (h : Runs Permits (createStorage settings c) x xs a x') :
    (∃ stored, x' = { x with stored }) ∧
      ((∃ found, a = .error (.alreadyExists found)) → Beside c.name x x') := by
  obtain ⟨_, first, x₁, _, hcreate, h₁, rfl⟩ := h.bind_inv
  obtain ⟨⟨stored, rfl⟩, declined, -⟩ := perform_permitted hcreate
  rcases first with e | spec
  · cases e with
    | alreadyExists found =>
      have same := declined trivial
      rw [same] at h₁
      obtain ⟨_, reclaimed, x₂, _, hreclaim, h₂, rfl⟩ := h₁.bind_inv
      have beside := reclaimOrphan_beside hreclaim
      cases reclaimed with
      | true =>
        obtain ⟨⟨stored₂, rfl⟩, declined₂, -⟩ := perform_permitted h₂
        refine ⟨⟨stored₂, ?_⟩, ?_⟩
        · rw [beside.ledger, beside.tables]
        · rintro ⟨found₂, rfl⟩
          have same₂ := declined₂ trivial
          rw [same₂]
          exact beside
      | false =>
        obtain ⟨-, -, rfl⟩ := h₂.done_inv
        refine ⟨⟨x'.stored, ?_⟩, fun _ => beside⟩
        rw [← beside.ledger, ← beside.tables]
    | _ =>
      obtain ⟨-, rfl, rfl⟩ := h₁.done_inv
      exact ⟨⟨stored, rfl⟩, nofun⟩
  · obtain ⟨-, rfl, rfl⟩ := h₁.done_inv
    exact ⟨⟨stored, rfl⟩, nofun⟩

/-! ### Creates -/

theorem rollBackOwner_inv {entity : EntityId} {owner : Option Principal} {u : Unit}
    (h : Runs Permits (rollBackOwner entity owner) x xs u x') :
    x' = { x with ledger := x.ledger.unclaim entity owner } := by
  cases owner with
  | none => exact h.done_inv.2.2
  | some principal =>
    obtain ⟨a, removed⟩ := h.discard_inv
    exact removed.ask_inv.2.2

/-- The owner is recorded where there was none, or nothing has happened. -/
theorem claimOwner_inv {owner : Option Principal} {r : Except CatalogError Unit}
    (h : Runs Permits (claimOwner settings name owner).run x xs r x') :
    (∃ e, r = .error e) ∧ x' = x ∨
      r = .ok () ∧ x' = { x with ledger := x.ledger.claim (settings.entity name) owner } ∧
        (owner.isSome → x.ledger.owners (settings.entity name) = none) := by
  cases owner with
  | none =>
    obtain ⟨-, rfl, rfl⟩ := pure_inv h
    exact .inr ⟨rfl, rfl, nofun⟩
  | some principal =>
    obtain ⟨_, a, x₁, _, hadd, hrest, rfl⟩ := bind_always_inv h
    obtain ⟨rfl, answered, changed⟩ := hadd.ask_inv
    rcases hadded : x.ledger.addOwner (settings.entity name) principal with ⟨result, l⟩
    rw [hadded] at answered changed
    subst answered changed
    cases a with
    | ok u =>
      obtain ⟨free, rfl⟩ := Ledger.addOwner_eq_ok hadded
      obtain ⟨-, rfl, rfl⟩ := pure_inv hrest
      exact .inr ⟨rfl, rfl, fun _ => free⟩
    | error e =>
      obtain rfl := Ledger.addOwner_eq_error hadded
      have failed : (∃ e, r = .error e) ∧ x' = x := by
        dsimp only at hrest
        split at hrest
        · next ok => cases ok
        · obtain ⟨-, rfl, rfl⟩ := throw_inv hrest
          exact ⟨⟨_, rfl⟩, rfl⟩
        · obtain ⟨-, rfl, rfl⟩ := throw_inv hrest
          exact ⟨⟨_, rfl⟩, rfl⟩
      exact .inl failed

/-- A create without storage takes the owner record back. It refuses only if there was storage. -/
theorem failCreate_inv {typeName : String} {owner : Option Principal} {source : StorageError}
    {e : CatalogError} (missing : x.ledger.find? name = none)
    (h : Runs Permits (failCreate settings name typeName owner source) x xs e x') :
    x' = { x with ledger := x.ledger.unclaim (settings.entity name) owner } ∧
      (e.Refuses → ∃ found, source = .alreadyExists found) := by
  obtain ⟨_, _, x₁, _, hrecord, h₁, rfl⟩ := h.bind_inv
  obtain ⟨rfl, rfl⟩ := hrecord.ask_inv
  obtain ⟨_, _, x₂, _, hback, h₂, rfl⟩ := h₁.bind_inv
  obtain rfl := rollBackOwner_inv hback
  split at h₂
  · obtain ⟨-, -, rfl⟩ := h₂.done_inv
    exact ⟨rfl, fun _ => ⟨_, rfl⟩⟩
  · obtain ⟨_, found, x₃, _, hfind, h₃, rfl⟩ := h₂.bind_inv
    obtain ⟨rfl, answered, rfl⟩ := hfind.ask_inv
    have nobody : found = .ok none := by
      rw [answered, ← missing]
      cases owner <;> rfl
    subst nobody
    obtain ⟨-, rfl, rfl⟩ := h₃.done_inv
    refine ⟨rfl, fun refuses => ?_⟩
    exact absurd refuses (Nat.lt_irrefl 500)

/-- An instance whose name is free is added. -/
theorem commit_ok {typeName : String} {spec : Specification} {typeMeta : TypeMeta}
    {owner : Option Principal} {r : Except CatalogError Specification}
    (missing : x.ledger.find? spec.name = none)
    (h : Runs Permits (commit settings typeName spec typeMeta owner).run x xs r x') :
    r = .ok spec := by
  obtain ⟨_, a, x₁, _, hadd, h₁, rfl⟩ := bind_always_inv h
  obtain ⟨rfl, answered, -⟩ := hadd.ask_inv
  have added : a = .ok () := by
    rw [answered, Ledger.addInstance, missing]
    rfl
  subst added
  obtain ⟨_, _, x₂, _, -, h₂, rfl⟩ := bind_always_inv h₁
  obtain ⟨_, _, x₃, _, -, h₃, rfl⟩ := bind_always_inv h₂
  obtain ⟨_, _, x₄, _, -, h₄, rfl⟩ := bind_always_inv h₃
  exact (pure_inv h₄).2.1

/-- A create that has the right to its name refuses before it has done anything, or after it has taken
back what it has done. -/
theorem createReserved_untouched {request : InstanceConfiguration} {owner : Option Principal} :
    RefusesUntouched (createReserved settings name request owner) x := by
  intro xs e x' h refuses
  rcases bind_ofRegistry_inv h with ⟨_, found, x₁, _, hfind, h₁, rfl⟩ | ⟨e₁, hfind, -⟩
  case inr =>
    obtain ⟨answered, -⟩ := hfind.ask_inv.2
    cases answered
  obtain ⟨rfl, answered, rfl⟩ := hfind.ask_inv
  cases answered
  cases missing : x₁.ledger.find? name with
  | some spec =>
    rw [missing] at h₁
    obtain ⟨-, -, rfl⟩ := throw_inv h₁
    exact .refl _
  | none =>
    rw [missing] at h₁
    rcases bind_ofRegistry_inv h₁ with ⟨_, typed, x₂, _, htype, h₂, rfl⟩ | ⟨e₂, htype, -⟩
    case inr =>
      obtain ⟨-, rfl⟩ := htype.ask_inv
      exact .refl _
    obtain ⟨rfl, rfl⟩ := htype.ask_inv
    cases typed with
    | none =>
      obtain ⟨-, -, rfl⟩ := throw_inv h₂
      exact .refl _
    | some typeMeta =>
      rcases bind_inv h₂ with ⟨_, u, x₃, _, hclaim, h₃, rfl⟩ | ⟨e₃, hclaim, -⟩
      case inr =>
        rcases claimOwner_inv hclaim with ⟨-, rfl⟩ | ⟨claimed, -⟩
        · exact .refl _
        · cases claimed
      rcases claimOwner_inv hclaim with ⟨⟨e₃, failed⟩, -⟩ | ⟨-, rfl, free⟩
      · cases failed
      obtain ⟨_, made, x₄, _, hmake, h₄, rfl⟩ := bind_always_inv h₃
      obtain ⟨⟨stored, rfl⟩, beside⟩ := createStorage_inv hmake
      have missing₄ : (x₂.ledger.claim (settings.entity name) owner).find? name = none := by
        rw [Ledger.find?_claim, missing]
      -- once the record is taken back, only storage of the name can have changed
      have fails {typeName : String} {source : StorageError}
          (hmade : ∀ found, source = .alreadyExists found → made = .error (.alreadyExists found))
          {ys : List Exchange}
          (hfail : Runs Permits (failCreate settings name typeName owner source)
            ⟨x₂.ledger.claim (settings.entity name) owner, x₂.tables, stored⟩ ys e x') :
          Untouched x₂ x' := by
        obtain ⟨rfl, late⟩ := failCreate_inv missing₄ hfail
        obtain ⟨found, hfound⟩ := late refuses
        have others := (beside ⟨found, hmade found hfound⟩).stored
        have back : Beside name x₂ ⟨(x₂.ledger.claim (settings.entity name) owner).unclaim
            (settings.entity name) owner, x₂.tables, stored⟩ :=
          ⟨Ledger.unclaim_claim free, rfl, others⟩
        exact back.untouched missing
      cases made with
      | error source =>
        obtain ⟨_, e₅, x₅, _, hfail, h₅, rfl⟩ := bind_always_inv h₄
        obtain ⟨-, same, rfl⟩ := throw_inv h₅
        cases same
        exact fails (fun found hfound => hfound ▸ rfl) hfail
      | ok spec =>
        dsimp only at h₄
        split at h₄
        · next named =>
          have committed := commit_ok (by rw [named]; exact missing₄) h₄
          cases committed
        · obtain ⟨_, e₅, x₅, _, hfail, h₅, rfl⟩ := bind_always_inv h₄
          obtain ⟨-, same, rfl⟩ := throw_inv h₅
          cases same
          exact fails (fun found same => by cases same) hfail

theorem create_untouched {request : InstanceConfiguration} :
    RefusesUntouched (create settings name request) x := by
  intro xs e x' h refuses
  cases hchecked : checkCreate settings name request with
  | error e₁ =>
    rw [create_run_refused hchecked] at h
    obtain ⟨-, -, rfl⟩ := h.done_inv
    exact .refl _
  | ok owner =>
    rw [create_run hchecked] at h
    obtain ⟨granted, x₁, _, answered, h₁, rfl⟩ := h.call_inv
    obtain rfl : x₁ = x := answered
    cases granted with
    | false =>
      obtain ⟨-, -, rfl⟩ := h₁.done_inv
      exact .refl _
    | true =>
      obtain ⟨_, r, x₂, _, hbody, h₂, rfl⟩ := h₁.bind_inv
      obtain ⟨_, x₃, _, released, h₃, rfl⟩ := h₂.call_inv
      obtain rfl : x₃ = x₂ := released
      obtain ⟨-, rfl, rfl⟩ := h₃.done_inv
      exact createReserved_untouched _ _ _ hbody refuses

/-! ### Drops -/

/-- The drop of an instance that is in the catalog is not refused. -/
theorem dropFound_serves {spec : Specification} {e : CatalogError}
    (there : (x.ledger.find? spec.name).isSome)
    (h : Runs Permits (dropFound settings spec).run x xs (.error e) x') : ¬ e.Refuses := by
  rcases bind_inv h with ⟨_, typeMeta, x₁, _, htype, h₁, rfl⟩ | ⟨e₁, htype, same⟩
  case inr =>
    cases same
    rcases bind_ofRegistry_inv htype with ⟨_, found, _, _, -, hrest, rfl⟩ | ⟨e₂, -, same⟩
    · cases found <;> cases (pure_inv hrest).2.1
    · cases same
      exact Nat.lt_irrefl 500
  obtain rfl := looks_inv (looks_typeOf spec) htype
  obtain ⟨_, _, x₂, _, hhide, h₂, rfl⟩ := bind_always_inv h₁
  have ledger : x₂.ledger = x₁.ledger := by
    obtain ⟨_, hidden, x₃, _, hwithdraw, hnote, rfl⟩ := hhide.bind_inv
    obtain ⟨rfl, tables, rfl⟩ := hwithdraw.ask_inv
    rw [looks_inv (looks_tolerate hidden) hnote]
  rcases bind_ofRegistry_inv h₂ with ⟨_, removed, x₃, _, hremove, h₃, rfl⟩ | ⟨e₂, hremove, -⟩
  case inr =>
    obtain ⟨answered, -⟩ := hremove.ask_inv.2
    cases answered
  obtain ⟨rfl, answered, -⟩ := hremove.ask_inv
  have taken : removed = true := by
    have := Except.ok.inj answered
    rw [this, ledger, there]
  subst taken
  obtain ⟨_, _, x₄, _, -, h₄, rfl⟩ := bind_always_inv h₃
  obtain ⟨_, _, x₅, _, -, h₅, rfl⟩ := bind_discard_always_inv h₄
  obtain ⟨_, result, x₆, _, -, h₆, rfl⟩ := bind_always_inv h₅
  cases result with
  | ok u =>
    obtain ⟨v, same, -⟩ := always_inv h₆
    cases same
  | error source =>
    obtain ⟨_, _, x₇, _, -, h₇, rfl⟩ := bind_always_inv h₆
    cases (throw_inv h₇).2.1
    exact Nat.lt_irrefl 500

theorem dropInstance_untouched
    (named : ∀ {name spec}, x.ledger.find? name = some spec → spec.name = name) :
    RefusesUntouched (dropInstance settings name) x := by
  intro xs e x' h refuses
  unfold dropInstance at h
  split at h
  · rcases bind_ofRegistry_inv h with ⟨_, found, x₁, _, hfind, h₁, rfl⟩ | ⟨e₁, hfind, -⟩
    case inr =>
      obtain ⟨answered, -⟩ := hfind.ask_inv.2
      cases answered
    obtain ⟨rfl, answered, rfl⟩ := hfind.ask_inv
    cases answered
    cases hfound : x₁.ledger.find? name with
    | none =>
      rw [hfound] at h₁
      obtain ⟨-, -, rfl⟩ := throw_inv h₁
      exact .refl _
    | some spec =>
      rw [hfound] at h₁
      have there : (x₁.ledger.find? spec.name).isSome := by
        rw [named hfound, hfound]
        rfl
      exact absurd refuses (dropFound_serves there h₁)
  · obtain ⟨-, -, rfl⟩ := throw_inv h
    exact .refl _

/-- The reset refuses only if it is disabled. -/
theorem dropAll_untouched : RefusesUntouched (dropAll settings) x := by
  intro xs e x' h refuses
  unfold dropAll at h
  split at h
  · rcases bind_ofRegistry_inv h with ⟨_, specs, x₁, _, -, h₁, rfl⟩ | ⟨e₁, hall, -⟩
    case inr =>
      obtain ⟨answered, -⟩ := hall.ask_inv.2
      cases answered
    obtain ⟨_, t, x₂, _, -, h₂, rfl⟩ := bind_always_inv h₁
    obtain ⟨_, _, x₃, _, -, h₃, rfl⟩ := bind_always_inv h₂
    split at h₃
    · cases (pure_inv h₃).2.1
    · cases (throw_inv h₃).2.1
      exact absurd refuses (Nat.lt_irrefl 500)
  · obtain ⟨_, _, x₁, _, hrecord, h₁, rfl⟩ := bind_always_inv h
    obtain ⟨-, rfl⟩ := hrecord.ask_inv
    obtain ⟨-, -, rfl⟩ := throw_inv h₁
    exact .refl _

/-! ### Admin operations -/

/-- An operation on storage that is missing changes nothing. -/
theorem performAdmin_inv {operation : AdminOperation} {missing : String}
    (h : Runs Permits (performAdmin settings name operation) x xs (.error (.notFound missing)) x') :
    x' = x := by
  have unchanged {r : Storage.Request} {f : r.Answer → Json.Value}
      (h : Runs Permits (perform settings r >>= fun a => .done (a.map f)) x xs
        (.error (.notFound missing)) x') : x' = x := by
    obtain ⟨_, a, x₁, _, hperform, hdone, rfl⟩ := h.bind_inv
    obtain ⟨-, same, rfl⟩ := hdone.done_inv
    obtain ⟨-, declined, -⟩ := perform_permitted hperform
    cases a with
    | ok answer => cases same
    | error e =>
      cases same
      exact declined trivial
  cases operation with
  | probe => exact unchanged h
  | truncate => exact unchanged h
  | upgrade => exact unchanged h

theorem admin_untouched {method : String} : RefusesUntouched (admin settings name method) x := by
  intro xs e x' h refuses
  unfold admin at h
  cases hoperation : adminOperation name method with
  | error e₁ =>
    rw [hoperation] at h
    obtain ⟨-, -, rfl⟩ := h.done_inv
    exact .refl _
  | ok operation =>
    rw [hoperation] at h
    rcases bind_inv h with ⟨_, operation', x₁, _, hpure, h₁, rfl⟩ | ⟨e₁, hpure, -⟩
    case inr => cases hpure.done_inv.2.1
    obtain ⟨rfl, -, rfl⟩ := hpure.done_inv
    split at h₁
    · obtain ⟨_, a, x₂, _, hperform, h₂, rfl⟩ := bind_always_inv h₁
      rcases a with source | value
      · cases source with
        | notFound missing =>
          obtain ⟨-, -, rfl⟩ := throw_inv h₂
          obtain rfl := performAdmin_inv hperform
          exact .refl _
        | _ =>
          obtain ⟨_, _, x₃, _, -, h₃, rfl⟩ := bind_always_inv h₂
          cases (throw_inv h₃).2.1
          exact absurd refuses (Nat.lt_irrefl 500)
      · cases (pure_inv h₂).2.1
    · obtain ⟨-, -, rfl⟩ := throw_inv h₁
      exact .refl _

end Realm

end DatasetCatalog
