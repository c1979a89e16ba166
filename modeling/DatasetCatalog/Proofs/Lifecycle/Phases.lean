import DatasetCatalog.Proofs.Lifecycle.Aside
import DatasetCatalog.Proofs.Lifecycle.Errand
import DatasetCatalog.Proofs.Program.Tracking

/-!
# What the coordinator has at stake

While an operation of the coordinator runs, the stores are out of step, and the operation answers for
it: a create may have written an owner record and made storage that the catalog does not know yet,
and a drop owes the removal of both after it has taken the entry out. A `Phase` says which of this
an operation has at stake, and forgets everything else about how far it has come.

`Phase.Move` lists how a call and its answer change the phase, and a program `Follows` these moves if it
tracks them; `follows_program` shows that every operation does, and that it has nothing at stake at
its end, as it had nothing at its start. What the moves mean for the stores is
shown in one place then, one move at a time, for all operations and all interleavings.

The collaborators are taken to work here, so moves are only asked for answers that are `Possible`.
-/

namespace DatasetCatalog.Lifecycle

open Program

/-- What an operation has at stake. -/
inductive Phase
  /-- Nothing. -/
  | idle
  /-- It has the right to a name and does not know yet whether there is an instance. -/
  | looking (name : String)
  /-- It has the right to a name that is not in the catalog, and may have recorded an owner and made
  storage for it. -/
  | making (name : String) (claimed : Option Principal) (made : Option Specification)
  /-- It has the right to a name, and all that it did for it is in the catalog. -/
  | holding (name : String)
  /-- It has taken a name out of the catalog and still has to remove the storage, and before that
  the owner record, if it has not done so. -/
  | owing (name : String) (owner : Bool)

/-- Whether an operation in this phase has the right to a name. -/
def Phase.Holds : Phase → String → Prop
  | looking n, name | making n _ _, name | holding n, name => n = name
  | _, _ => False

/-- Whether an operation in this phase has a name at stake. -/
def Phase.Concerns : Phase → String → Prop
  | idle, _ => False
  | looking n, name | making n _ _, name | holding n, name | owing n _, name => n = name

/-- Whether an operation in this phase has seen that a name is not in the catalog, and keeps others
from adding it. -/
def Phase.Vacates : Phase → String → Prop
  | making n _ _, name => n = name
  | _, _ => False

/-- Whether the owner record of a name can be there because of an operation in this phase. -/
def Phase.OwesOwner : Phase → String → Principal → Prop
  | making n (some p) _, name, principal => n = name ∧ p = principal
  | owing n true, name, _ => n = name
  | _, _, _ => False

/-- Whether storage of a name can be there because of an operation in this phase. -/
def Phase.OwesStorage : Phase → String → Specification → Prop
  | making n _ (some t), name, spec => n = name ∧ t = spec
  | owing n _, name, _ => n = name
  | _, _, _ => False

/-- Calls that leave catalog, owner records and storage as they are. -/
def isQuiet : Call → Bool
  | .findInstance _ | .allInstances | .findType _ | .findOwner _ | .expose _ | .withdraw _
  | .exposedTables | .record _ | .count _ => true
  | .perform (.truncate _) _ | .perform (.upgrade _) _ | .perform (.probe _) _ => true
  | _ => false

/-- Answers that a call can get where collaborators work. A storage operation can be refused by the
code of a type, but what it makes has the name that was asked for; and an instance is only added
where there is none. -/
def Possible : (c : Call) → c.Answer → Prop
  | .findInstance _, a => ∃ found, a = .ok found
  | .addInstance _, a => a = .ok ()
  | .removeInstance _, a => ∃ there, a = .ok there
  | .removeOwner _, a => a = .ok ()
  | .perform (.create c) _, a => ∀ spec, a = .ok spec → spec.name = c.name
  | .perform (.drop _) _, a => a = .ok ()
  | _, _ => True

/-- How calls move an operation from phase to phase. The operation records `owner`, if it does. -/
inductive Phase.Move (settings : Settings) (owner : Option Principal) :
    Phase → (c : Call) → c.Answer → Phase → Prop
  | quiet (φ : Phase) {c : Call} (a : c.Answer) (h : isQuiet c = true) : Move settings owner φ c a φ
  | granted (name : String) : Move settings owner idle (.reserve name) true (looking name)
  | refused (name : String) : Move settings owner idle (.reserve name) false idle
  | found (name : String) (spec : Specification) :
      Move settings owner (looking name) (.findInstance name) (.ok (some spec)) (holding name)
  | missing (name : String) :
      Move settings owner (looking name) (.findInstance name) (.ok none) (making name none none)
  | claimed (name : String) (principal : Principal) :
      Move settings owner (making name none none) (.addOwner (settings.entity name) principal)
        (.ok ()) (making name (some principal) none)
  | denied (name : String) (principal : Principal) (e : OwnerError) :
      Move settings owner (making name none none) (.addOwner (settings.entity name) principal)
        (.error e) (making name none none)
  | disclaimed (name : String) (claim : Option Principal) :
      Move settings owner (making name claim none) (.removeOwner (settings.entity name)) (.ok ())
        (making name none none)
  | made (c : Storage.Creation) (limit : Duration) (claim : Option Principal)
      (spec : Specification) (named : spec.name = c.name) :
      Move settings owner (making c.name claim none) (.perform (.create c) limit) (.ok spec)
        (making c.name claim (some spec))
  | unmade (c : Storage.Creation) (limit : Duration) (claim : Option Principal)
      (e : StorageError) :
      Move settings owner (making c.name claim none) (.perform (.create c) limit) (.error e)
        (making c.name claim none)
  | cleared (r : Storage.Removal) (limit : Duration) (claim : Option Principal) :
      Move settings owner (making r.spec.name claim none) (.perform (.drop r) limit) (.ok ())
        (making r.spec.name claim none)
  | committed (spec : Specification) :
      Move settings owner (making spec.name owner (some spec)) (.addInstance spec) (.ok ())
        (holding spec.name)
  | released (name : String) : Move settings owner (holding name) (.release name) () idle
  | abandoned (name : String) :
      Move settings owner (making name none none) (.release name) () idle
  | struck (name : String) :
      Move settings owner idle (.removeInstance name) (.ok true) (owing name true)
  | gone (name : String) : Move settings owner idle (.removeInstance name) (.ok false) idle
  | disowned (name : String) :
      Move settings owner (owing name true) (.removeOwner (settings.entity name)) (.ok ())
        (owing name false)
  | emptied (r : Storage.Removal) (limit : Duration) :
      Move settings owner (owing r.spec.name false) (.perform (.drop r) limit) (.ok ()) idle

section

variable {α β : Type} {settings : Settings} {owner : Option Principal} {name : String} {φ : Phase}

/-- A program keeps to the moves from a phase on, as long as it gets possible answers. -/
abbrev Follows (settings : Settings) (owner : Option Principal) (φ : Phase) (p : Program α)
    (Q : α → Phase → Prop) : Prop :=
  Tracks (Phase.Move settings owner) φ p Q Possible

/-! ### Quiet programs -/

/-- The program makes quiet calls only. -/
abbrev Quiet (p : Program α) : Prop := p.Only (isQuiet · = true)

theorem quiet_ask {c : Call} (h : isQuiet c = true) : Quiet (ask c) := only_ask h

theorem isQuiet_of_isAside {c : Call} (h : isAside c = true) : isQuiet c = true := by
  cases c with
  | perform r limit => cases r <;> exact h
  | record event => rfl
  | count reading => rfl
  | _ => exact h

/-- A program that makes quiet calls only stays in its phase. -/
theorem follows_quiet {p : Program α} {Q : α → Phase → Prop} (h : Quiet p) (hQ : ∀ a, Q a φ) :
    Follows settings owner φ p Q :=
  Tracks.of_only (fun _ quiet a => .quiet φ a quiet) h hQ

/-- What is made aside is quiet. -/
theorem quiet_of_aside {p : Program α} (h : Aside p) : Quiet p :=
  h.mono fun _ => isQuiet_of_isAside

/-- A storage operation is one call. Once it is over it is only measured. -/
theorem perform_eq (settings : Settings) (r : Storage.Request) :
    ∃ measured, perform settings r = ask (.perform r settings.operationLimit) >>= measured ∧
      ∀ result, Quiet (measured result) := by
  obtain ⟨measured, heq, looks⟩ := perform_measured settings r
  exact ⟨measured, heq, fun result => quiet_of_aside (aside_of_looks (looks result))⟩

/-! ### Creates -/

/-- A storage operation moves as its call does. -/
theorem follows_perform {r : Storage.Request} {Q : Storage.Result r → Phase → Prop}
    (h : ∀ a, Possible (.perform r settings.operationLimit) a →
      ∃ φ', φ.Move settings owner (.perform r settings.operationLimit) a φ' ∧ Q a φ') :
    Follows settings owner φ (perform settings r) Q := by
  refine Tracks.bind (Tracks.ask h) fun result φ' hQ => ?_
  refine Tracks.bind (follows_quiet (quiet_ask (by rfl)) fun _ => hQ) fun _ φ' hQ => ?_
  cases result with
  | ok a => exact hQ
  | error e =>
    exact Tracks.bind (follows_quiet (quiet_ask (by rfl)) fun _ => hQ) fun _ _ hQ => hQ

/-- Storage was made under a name, or none was. -/
def MadeOrNot (name : String) (claim : Option Principal) :
    Except StorageError Specification → Phase → Prop
  | .ok spec, φ => spec.name = name ∧ φ = .making name claim (some spec)
  | .error _, φ => φ = .making name claim none

theorem follows_attempt (c : Storage.Creation) (claim : Option Principal) :
    Follows settings owner (.making c.name claim none) (perform settings (.create c))
      (MadeOrNot c.name claim) := by
  refine follows_perform fun a possible => ?_
  cases a with
  | ok spec => exact ⟨_, .made c _ claim spec (possible spec rfl), possible spec rfl, rfl⟩
  | error e => exact ⟨_, .unmade c _ claim e, rfl⟩

theorem follows_reclaimOrphan (c : Storage.Creation) (claim : Option Principal) :
    Follows settings owner (.making c.name claim none) (reclaimOrphan settings c.name c.typeMeta)
      fun _ φ => φ = .making c.name claim none := by
  refine Tracks.bind (follows_quiet (quiet_ask (by rfl)) fun _ => rfl) ?_
  rintro found φ rfl
  rcases found with e | _ | spec
  case ok.none =>
    refine Tracks.bind (Q := fun _ φ => φ = .making c.name claim none)
      (follows_perform fun a possible => ?_) ?_
    · obtain rfl := possible
      exact ⟨_, .cleared ⟨.ofType c.name c.typeMeta.name, c.typeMeta⟩ _ claim, rfl⟩
    · rintro dropped φ rfl
      cases dropped with
      | ok u =>
        exact Tracks.bind (follows_quiet (quiet_ask (by rfl)) fun _ => rfl) fun _ _ h => h.symm
      | error e => exact rfl
  all_goals exact rfl

theorem follows_createStorage (c : Storage.Creation) (claim : Option Principal) :
    Follows settings owner (.making c.name claim none) (createStorage settings c)
      (MadeOrNot c.name claim) := by
  refine Tracks.bind (follows_attempt c claim) fun first φ hfirst => ?_
  cases first with
  | ok spec => exact hfirst
  | error e =>
    obtain rfl : φ = .making c.name claim none := hfirst
    cases e with
    | alreadyExists found =>
      refine Tracks.bind (follows_reclaimOrphan c claim) ?_
      rintro reclaimed φ rfl
      cases reclaimed with
      | true => exact follows_attempt c claim
      | false => exact rfl
    | _ => exact rfl

theorem follows_rollBackOwner (claim : Option Principal) :
    Follows settings owner (.making name claim none) (rollBackOwner (settings.entity name) claim)
      fun _ φ => φ = .making name none none := by
  cases claim with
  | none => exact rfl
  | some principal =>
    intro a possible
    obtain rfl := possible
    exact ⟨_, .disclaimed name _, rfl⟩

theorem follows_failCreate (typeName : String) (claim : Option Principal) (source : StorageError) :
    Follows settings owner (.making name claim none)
      (failCreate settings name typeName claim source) fun _ φ => φ = .making name none none := by
  refine Tracks.bind (follows_quiet (quiet_ask (by rfl)) fun _ => rfl) ?_
  rintro _ φ rfl
  refine Tracks.bind (follows_rollBackOwner claim) ?_
  rintro _ φ rfl
  split
  · exact rfl
  · refine Tracks.bind (follows_quiet (quiet_ask (by rfl)) fun _ => rfl) ?_
    rintro found φ rfl
    rcases found with e | _ | spec <;> exact rfl

/-- The owner is recorded, or no owner record was written. -/
def ClaimedOrNot (name : String) (owner : Option Principal) :
    Except CatalogError Unit → Phase → Prop
  | .ok _, φ => φ = .making name owner none
  | .error _, φ => φ = .making name none none

theorem follows_claimOwner :
    Follows settings owner (.making name none none) (claimOwner settings name owner).run
      (ClaimedOrNot name owner) := by
  cases owner with
  | none => exact rfl
  | some principal =>
    refine Tracks.always_bind (Q := fun a φ => match a with
      | .ok _ => φ = .making name (some principal) none
      | .error _ => φ = .making name none none) (Tracks.ask fun a _ => ?_) fun a φ hφ => ?_
    · cases a with
      | ok u => exact ⟨_, .claimed name principal, rfl⟩
      | error e => exact ⟨_, .denied name principal e, rfl⟩
    · cases a with
      | ok u => exact hφ
      | error e => cases e <;> exact hφ

theorem follows_commit (typeName : String) (spec : Specification) (typeMeta : TypeMeta) :
    Follows settings owner (.making spec.name owner (some spec))
      (commit settings typeName spec typeMeta owner).run fun _ φ => φ = .holding spec.name := by
  refine Tracks.always_bind (Q := fun a φ => a = .ok () ∧ φ = .holding spec.name)
    (Tracks.ask fun a possible => ?_) ?_
  · obtain rfl := possible
    exact ⟨_, .committed spec, rfl, rfl⟩
  · rintro _ _ ⟨rfl, rfl⟩
    refine Tracks.always_bind
      (follows_quiet (quiet_of_aside (aside_show spec.name)) fun _ => rfl) ?_
    · rintro _ φ rfl
      refine Tracks.always_bind (follows_quiet (quiet_ask (by rfl)) fun _ => rfl) ?_
      rintro _ φ rfl
      refine Tracks.always_bind (follows_quiet (quiet_ask (by rfl)) fun _ => rfl) ?_
      exact fun _ _ h => h.symm

/-- A create that has the right to its name can give it back in the phases it ends in. -/
theorem follows_createReserved (request : InstanceConfiguration) :
    Follows settings owner (.looking name) (createReserved settings name request owner).run
      fun _ φ => φ = .holding name ∨ φ = .making name none none := by
  refine Tracks.ofRegistry_bind (Q := fun a φ => match a with
    | .ok (some _) => φ = .holding name
    | .ok none => φ = .making name none none
    | .error _ => False) (Tracks.ask fun a possible => ?_) ?_ (fun _ _ h => h.elim)
  · obtain ⟨_ | spec, rfl⟩ := possible
    · exact ⟨_, .missing name, rfl⟩
    · exact ⟨_, .found name spec, rfl⟩
  · intro found φ hfound
    cases found with
    | some spec => exact .inl hfound
    | none =>
      obtain rfl : φ = .making name none none := hfound
      refine Tracks.ofRegistry_bind (follows_quiet (quiet_ask (by rfl)) fun _ => rfl) ?_
        fun _ _ h => .inr h.symm
      rintro typed φ rfl
      cases typed with
      | none => exact .inr rfl
      | some typeMeta =>
        refine Tracks.step_bind follows_claimOwner ?_ fun _ _ h => .inr h
        rintro _ φ rfl
        refine Tracks.always_bind
          (follows_createStorage ⟨name, typeMeta, request.properties⟩ owner) fun made φ hmade => ?_
        cases made with
        | error e =>
          obtain rfl : φ = .making name owner none := hmade
          refine Tracks.always_bind (follows_failCreate _ owner e) ?_
          exact fun _ _ h => .inr h
        | ok spec =>
          obtain ⟨named, rfl⟩ : spec.name = name ∧ φ = .making name owner (some spec) := hmade
          subst named
          dsimp only
          rw [if_pos rfl]
          exact (follows_commit _ spec typeMeta).mono fun _ _ h => .inl h

theorem follows_create (request : InstanceConfiguration) :
    Follows settings (ownerOf request) .idle (create settings name request).run
      fun _ φ => φ = .idle := by
  cases hchecked : checkCreate settings name request with
  | error e =>
    rw [create_run_refused hchecked]
    exact rfl
  | ok checked =>
    obtain ⟨-, rfl⟩ := checkCreate_eq_ok hchecked
    rw [create_run hchecked]
    rintro (_ | _) -
    · exact ⟨_, .refused name, rfl⟩
    · refine ⟨_, .granted name, Tracks.bind (follows_createReserved request) ?_⟩
      rintro r φ (rfl | rfl) u -
      · exact ⟨_, .released name, rfl⟩
      · exact ⟨_, .abandoned name, rfl⟩

/-! ### Drops -/

theorem quiet_typeOf (spec : Specification) : Quiet (typeOf spec).run :=
  quiet_of_aside (aside_typeOf spec)

theorem quiet_hide (name : String) : Quiet (do tolerate name "disable" (← withdraw name)) :=
  quiet_of_aside (aside_hide name)

theorem follows_typeOf (spec : Specification) :
    Follows settings owner φ (typeOf spec).run fun _ φ' => φ' = φ :=
  follows_quiet (quiet_typeOf spec) fun _ => rfl

theorem follows_dropStorage (spec : Specification) (typeMeta : TypeMeta) :
    Follows settings owner (.owing spec.name false) (dropStorage settings spec typeMeta).run
      fun _ φ => φ = .idle := by
  refine Tracks.always_bind (Q := fun a φ => a = .ok () ∧ φ = .idle)
    (follows_perform fun a possible => ?_) ?_
  · obtain rfl := possible
    exact ⟨_, .emptied ⟨spec, typeMeta⟩ _, rfl, rfl⟩
  · rintro _ φ ⟨rfl, rfl⟩
    exact follows_quiet (only_always (quiet_ask (by rfl))) fun _ => rfl

theorem follows_dropFound (spec : Specification) :
    Follows settings owner .idle (dropFound settings spec).run fun _ φ => φ = .idle := by
  refine Tracks.step_bind (follows_typeOf spec) ?_ fun _ _ h => h
  rintro typeMeta φ rfl
  refine Tracks.always_bind (follows_quiet (quiet_hide spec.name) fun _ => rfl) ?_
  rintro _ φ rfl
  refine Tracks.ofRegistry_bind (Q := fun a φ => match a with
    | .ok true => φ = .owing spec.name true
    | .ok false => φ = .idle
    | .error _ => False) (Tracks.ask fun a possible => ?_) ?_ (fun _ _ h => h.elim)
  · obtain ⟨_ | _, rfl⟩ := possible
    · exact ⟨_, .gone spec.name, rfl⟩
    · exact ⟨_, .struck spec.name, rfl⟩
  · intro there φ hthere
    cases there with
    | false => exact hthere
    | true =>
      obtain rfl : φ = .owing spec.name true := hthere
      refine Tracks.always_bind (follows_quiet (quiet_ask (by rfl)) fun _ => rfl) ?_
      rintro _ φ rfl
      refine Tracks.step_bind (Q := fun r φ => r = .ok () ∧ φ = .owing spec.name false) ?_ ?_ ?_
      · intro a possible
        obtain rfl := possible
        exact ⟨_, .disowned spec.name, rfl, rfl⟩
      · rintro _ φ ⟨-, rfl⟩
        exact follows_dropStorage spec typeMeta
      · rintro e φ ⟨h, -⟩
        cases h

theorem follows_dropInstance :
    Follows settings owner .idle (dropInstance settings name).run fun _ φ => φ = .idle := by
  unfold dropInstance
  split
  · refine Tracks.ofRegistry_bind (follows_quiet (quiet_ask (by rfl)) fun _ => rfl) ?_
      fun _ _ h => h.symm
    rintro found φ rfl
    cases found with
    | none => exact rfl
    | some spec => exact follows_dropFound spec
  · exact rfl

theorem follows_dropEach (specs : List Specification) (t : Tally) :
    Follows settings owner .idle (dropEach settings t specs) fun _ φ => φ = .idle := by
  induction specs generalizing t with
  | nil => exact rfl
  | cons spec rest ih =>
    refine Tracks.bind (follows_dropFound spec) ?_
    rintro result φ rfl
    exact ih _

theorem follows_dropAll :
    Follows settings owner .idle (dropAll settings).run fun _ φ => φ = .idle := by
  unfold dropAll
  split
  · refine Tracks.ofRegistry_bind (follows_quiet (quiet_ask (by rfl)) fun _ => rfl) ?_
      fun _ _ h => h.symm
    rintro specs φ rfl
    refine Tracks.always_bind (follows_dropEach specs {}) ?_
    rintro t φ rfl
    refine Tracks.always_bind (follows_quiet (quiet_ask (by rfl)) fun _ => rfl) ?_
    rintro _ φ rfl
    split <;> exact rfl
  · refine Tracks.always_bind (follows_quiet (quiet_ask (by rfl)) fun _ => rfl) ?_
    rintro _ φ rfl
    exact rfl

/-! ### Operations that have nothing at stake -/

theorem quiet_admin (method : String) : Quiet (admin settings name method).run :=
  quiet_of_aside (aside_admin method)

theorem quiet_get : Quiet (get settings name).run := quiet_of_aside aside_get

theorem quiet_list (options : ListOptions) : Quiet (list options).run :=
  quiet_of_aside (aside_list options)

/-! ### All operations -/

theorem follows_discard {x : Step α} (h : Follows settings owner φ x.run fun _ φ' => φ' = .idle) :
    Follows settings owner φ (discard x : Step Unit).run fun _ φ' => φ' = .idle := by
  refine Tracks.bind h fun r φ' hφ => ?_
  cases r <;> exact hφ

/-- Every operation keeps to the moves, and has nothing at stake at its end. -/
theorem follows_program (errand : Errand) :
    Follows settings errand.owner .idle (errand.program settings) fun _ φ => φ = .idle := by
  cases errand with
  | create name request => exact follows_discard (follows_create request)
  | drop name => exact follows_dropInstance
  | dropAll => exact follows_discard follows_dropAll
  | admin name method => exact follows_discard (follows_quiet (quiet_admin method) fun _ => rfl)
  | get name => exact follows_discard (follows_quiet quiet_get fun _ => rfl)
  | list options => exact follows_discard (follows_quiet (quiet_list options) fun _ => rfl)

end

end DatasetCatalog.Lifecycle
