import DatasetCatalog.Proofs.Lifecycle.Aside
import DatasetCatalog.Proofs.Lifecycle.Errand
import DatasetCatalog.Proofs.Program.Tracking

/-!
# The stages of an operation

A create looks its name up once it has the right to it, makes storage, adds the instance, writes down
that it did and gives the right back. A drop removes the entry, counts that, removes what belonged to
the instance and writes down what came of it. A `Stage` says how far an operation has come on this
way, and `Stage.Move` which call leads where, with every answer that the call can get.

`proceeds_program` shows that every operation keeps to these moves, even if its collaborators fail or
make things up. What an operation does and does not do in any case can be read off the moves from then
on: for example, a create makes and drops storage only at stages in which it has the right to its name.
-/

namespace DatasetCatalog.Lifecycle

open Program

/-- Whether an errand is to create an instance of a name. -/
def Errand.Creates : Errand → String → Prop
  | create n _, name => n = name
  | _, _ => False

/-- Whether an errand is to drop instances. -/
def Errand.Drops : Errand → Prop
  | drop _ | dropAll => True
  | _ => False

/-- What a create has done about the storage of its name, the way it sees it. -/
inductive Effort
  /-- Nothing that lasted. -/
  | none
  /-- It has dropped what it found, and goes on to make its own. -/
  | cleared
  /-- It has made storage for a specification. -/
  | made (spec : Specification)
  /-- It has made storage, and the instance was not added. -/
  | refused (e : RegistryError)

/-- How far an operation has come. -/
inductive Stage
  /-- It has no right to a name, and owes nothing. -/
  | outside
  /-- It has the right to a name. -/
  | looking (name : String)
  /-- It has the right to a name that was not in the catalog. What it is going to make is known once it
  has looked its type up. -/
  | making (name : String) (plan : Option Storage.Creation) (effort : Effort)
  /-- It has added the instance and goes on to record that. -/
  | added (name : String)
  /-- It has recorded that and goes on to count it. -/
  | recorded (name : String)
  /-- All that it still has is the right to the name. -/
  | leaving (name : String)
  /-- It has removed an entry and goes on to count that. -/
  | removed (name : String)
  /-- It has counted that and goes on to remove the storage and to record what came of it. -/
  | clearing (name : String)

namespace Stage

/-- Whether an operation at this stage has the right to a name. -/
def Holds : Stage → String → Prop
  | looking n, name | making n _ _, name | added n, name | recorded n, name | leaving n, name =>
    n = name
  | _, _ => False

/-- Whether an operation at this stage can give the right to a name back. -/
def CanLeave : Stage → String → Prop
  | making n _ effort, name => n = name ∧ effort ≠ .cleared
  | leaving n, name => n = name
  | _, _ => False

end Stage

/-- Calls to the owner store that change a record. -/
def isClaim : Call → Bool
  | .addOwner .. | .removeOwner _ => true
  | _ => false

/-- Calls at which an operation stays where it is. -/
def isBeside (c : Call) : Bool := isAside c || isClaim c

/-- How calls move an operation from stage to stage. -/
inductive Stage.Move (errand : Errand) : Moves Stage
  | beside (φ : Stage) {c : Call} (a : c.Answer) (h : isBeside c = true) : Move errand φ c a φ
  | granted {name : String} (h : errand.Creates name) :
      Move errand outside (.reserve name) true (looking name)
  | denied {name : String} (h : errand.Creates name) :
      Move errand outside (.reserve name) false outside
  | absent (name : String) :
      Move errand (looking name) (.findInstance name) (.ok none) (making name none .none)
  | present (name : String) (a : Except RegistryError (Option Specification)) :
      Move errand (looking name) (.findInstance name) a (leaving name)
  | planned {name : String} {request : InstanceConfiguration} (h : errand = .create name request)
      (typeMeta : TypeMeta) :
      Move errand (making name none .none) (.findType request.typeName) (.ok (some typeMeta))
        (making name (some ⟨name, typeMeta, request.properties⟩) .none)
  | made (c : Storage.Creation) (limit : Duration) (effort : Effort) (spec : Specification) :
      Move errand (making c.name (some c) effort) (.perform (.create c) limit) (.ok spec)
        (making c.name (some c) (.made spec))
  | unmade (c : Storage.Creation) (limit : Duration) (effort : Effort) (e : StorageError) :
      Move errand (making c.name (some c) effort) (.perform (.create c) limit) (.error e)
        (making c.name (some c) .none)
  | cleared (r : Storage.Removal) (limit : Duration) (plan : Option Storage.Creation) :
      Move errand (making r.spec.name plan .none) (.perform (.drop r) limit) (.ok ())
        (making r.spec.name plan .cleared)
  | uncleared (r : Storage.Removal) (limit : Duration) (plan : Option Storage.Creation)
      (e : StorageError) :
      Move errand (making r.spec.name plan .none) (.perform (.drop r) limit) (.error e)
        (making r.spec.name plan .none)
  | added (spec : Specification) (plan : Option Storage.Creation) :
      Move errand (making spec.name plan (.made spec)) (.addInstance spec) (.ok ())
        (added spec.name)
  | refused (spec : Specification) (plan : Option Storage.Creation) (e : RegistryError) :
      Move errand (making spec.name plan (.made spec)) (.addInstance spec) (.error e)
        (making spec.name plan (.refused e))
  | takenBack (r : Storage.Removal) (limit : Duration) (plan : Option Storage.Creation)
      {e : RegistryError} (h : ∀ name, e ≠ .alreadyExists name) (a : Except StorageError Unit) :
      Move errand (making r.spec.name plan (.refused e)) (.perform (.drop r) limit) a
        (leaving r.spec.name)
  | recorded (name typeName : String) (owner : Option Principal) :
      Move errand (added name) (.record (.created name typeName owner)) () (recorded name)
  | counted (name typeName : String) :
      Move errand (recorded name) (.count (.created typeName)) () (leaving name)
  | released {φ : Stage} {name : String} (h : φ.CanLeave name) :
      Move errand φ (.release name) () outside
  | removed (h : errand.Drops) (name : String) :
      Move errand outside (.removeInstance name) (.ok true) (removed name)
  | missed (h : errand.Drops) (name : String) {a : Except RegistryError Bool} (ha : a ≠ .ok true) :
      Move errand outside (.removeInstance name) a outside
  | uncounted (name typeName : String) :
      Move errand (removed name) (.count (.dropped typeName)) () (clearing name)
  | emptied (r : Storage.Removal) (limit : Duration) (a : Except StorageError Unit) :
      Move errand (clearing r.spec.name) (.perform (.drop r) limit) a (clearing r.spec.name)
  | dropped (name typeName : String) :
      Move errand (clearing name) (.record (.dropped name typeName)) () outside
  | dropFailed (name typeName reason : String) :
      Move errand (clearing name) (.record (.dropFailed name typeName reason)) () outside

namespace Stage

/-- Whether an operation at this stage is on the way of its errand. -/
def Suits (errand : Errand) : Stage → Prop
  | outside => True
  | looking n | making n _ _ | added n | recorded n | leaving n => errand.Creates n
  | removed _ | clearing _ => errand.Drops

variable {errand : Errand} {φ φ' : Stage} {c : Call} {a : c.Answer} {name : String}

theorem Suits.creates (h : φ.Suits errand) (holds : φ.Holds name) : errand.Creates name := by
  cases φ <;> first | exact holds.elim | (obtain rfl := holds; exact h)

theorem Move.suits (move : Move errand φ c a φ') (h : φ.Suits errand) : φ'.Suits errand := by
  cases move with
  | granted creates => exact creates
  | removed drops => exact drops
  | released | denied | missed | dropped | dropFailed => exact trivial
  | _ => exact h

end Stage

section

variable {α β : Type} {errand : Errand} {settings : Settings} {name : String} {φ : Stage}

/-- A program that keeps to the moves of an errand. -/
abbrev Proceeds (errand : Errand) (φ : Stage) (p : Program α) (Q : α → Stage → Prop) : Prop :=
  Tracks (Stage.Move errand) φ p Q

theorem proceeds_aside {p : Program α} {Q : α → Stage → Prop} (h : Aside p) (hQ : ∀ a, Q a φ) :
    Proceeds errand φ p Q :=
  Tracks.of_only (fun _ aside a => .beside φ a (by rw [isBeside, aside]; rfl)) h hQ

/-- A call to the owner store. -/
theorem proceeds_claim {c : Call} {Q : c.Answer → Stage → Prop} (h : isClaim c = true)
    (hQ : ∀ a, Q a φ) : Proceeds errand φ (ask c) Q :=
  Tracks.ask fun a _ => ⟨φ, .beside φ a (by rw [isBeside, h, Bool.or_true]), hQ a⟩

/-- A storage operation moves as its call does. -/
theorem proceeds_perform {r : Storage.Request} {Q : Storage.Result r → Stage → Prop}
    (h : ∀ a, ∃ φ', Stage.Move errand φ (.perform r settings.operationLimit) a φ' ∧ Q a φ') :
    Proceeds errand φ (perform settings r) Q := by
  refine Tracks.bind (Tracks.ask fun a _ => h a) fun result φ' hQ => ?_
  refine Tracks.bind (proceeds_aside (aside_ask (by rfl)) fun _ => hQ) fun _ φ' hQ => ?_
  cases result with
  | ok a => exact hQ
  | error e => exact Tracks.bind (proceeds_aside (aside_ask (by rfl)) fun _ => hQ) fun _ _ hQ => hQ

/-! ### Creates -/

/-- What an attempt to make storage ends in. -/
def Attempted (c : Storage.Creation) : Except StorageError Specification → Stage → Prop
  | .ok spec, φ => φ = .making c.name (some c) (.made spec)
  | .error _, φ => φ = .making c.name (some c) .none

theorem proceeds_attempt (c : Storage.Creation) (effort : Effort) :
    Proceeds errand (.making c.name (some c) effort) (perform settings (.create c))
      (Attempted c) := by
  refine proceeds_perform fun a => ?_
  cases a with
  | ok spec => exact ⟨_, .made c _ effort spec, rfl⟩
  | error e => exact ⟨_, .unmade c _ effort e, rfl⟩

/-- What an attempt to drop leftover storage ends in. -/
def Reclaimed (c : Storage.Creation) : Except StorageError Unit → Stage → Prop
  | .ok _, φ => φ = .making c.name (some c) .cleared
  | .error _, φ => φ = .making c.name (some c) .none

/-- Leftover storage is dropped, or everything stays as it was. -/
theorem proceeds_reclaimOrphan (c : Storage.Creation) :
    Proceeds errand (.making c.name (some c) .none) (reclaimOrphan settings c.name c.typeMeta)
      fun reclaimed φ =>
        φ = .making c.name (some c) (if reclaimed then .cleared else .none) := by
  refine Tracks.bind (proceeds_aside (aside_ask (by rfl)) fun _ => rfl) ?_
  rintro found φ rfl
  rcases found with e | _ | spec
  case ok.none =>
    let r : Storage.Removal := ⟨.ofType c.name c.typeMeta.name, c.typeMeta⟩
    refine Tracks.bind (Q := Reclaimed c) (proceeds_perform fun a => ?_) fun dropped φ h => ?_
    · cases a with
      | ok u => exact ⟨_, .cleared r _ _, rfl⟩
      | error e => exact ⟨_, .uncleared r _ _ e, rfl⟩
    · cases dropped with
      | ok u =>
        exact Tracks.bind (proceeds_aside (aside_ask (by rfl)) fun _ => h) fun _ _ h => h
      | error e => exact h
  all_goals exact rfl

theorem proceeds_createStorage (c : Storage.Creation) :
    Proceeds errand (.making c.name (some c) .none) (createStorage settings c) (Attempted c) := by
  refine Tracks.bind (proceeds_attempt c .none) fun first φ hfirst => ?_
  cases first with
  | ok spec => exact hfirst
  | error e =>
    obtain rfl : φ = .making c.name (some c) .none := hfirst
    cases e with
    | alreadyExists found =>
      refine Tracks.bind (proceeds_reclaimOrphan c) ?_
      rintro reclaimed φ rfl
      cases reclaimed with
      | true => exact proceeds_attempt c .cleared
      | false => exact rfl
    | _ => exact rfl

theorem proceeds_rollBackOwner (entity : EntityId) (owner : Option Principal) :
    Proceeds errand φ (rollBackOwner entity owner) fun _ φ' => φ' = φ := by
  cases owner with
  | none => exact rfl
  | some principal => exact proceeds_claim (by rfl) fun _ => rfl

theorem proceeds_claimOwner (owner : Option Principal) :
    Proceeds errand φ (claimOwner settings name owner).run fun _ φ' => φ' = φ := by
  cases owner with
  | none => exact rfl
  | some principal =>
    refine Tracks.always_bind (proceeds_claim (by rfl) fun _ => rfl) ?_
    rintro a φ rfl
    split <;> exact rfl

theorem proceeds_failCreate (typeName : String) (owner : Option Principal) (e : StorageError) :
    Proceeds errand φ (failCreate settings name typeName owner e) fun _ φ' => φ' = φ := by
  refine Tracks.bind (proceeds_aside (aside_ask (by rfl)) fun _ => rfl) ?_
  rintro _ φ rfl
  refine Tracks.bind (proceeds_rollBackOwner _ owner) ?_
  rintro _ φ rfl
  split
  · exact rfl
  · refine Tracks.bind (proceeds_aside (aside_ask (by rfl)) fun _ => rfl) ?_
    rintro found φ rfl
    rcases found with e | _ | spec <;> exact rfl

/-- Storage is only dropped if the name was not taken. -/
theorem proceeds_rollBack (spec : Specification) (typeMeta : TypeMeta) (owner : Option Principal)
    (plan : Option Storage.Creation) (e : RegistryError) :
    Proceeds errand (.making spec.name plan (.refused e)) (rollBack settings spec typeMeta owner e)
      fun _ φ => φ.CanLeave spec.name := by
  refine Tracks.bind (proceeds_rollBackOwner _ owner) ?_
  rintro _ φ rfl
  split
  · exact ⟨rfl, nofun⟩
  · next e free =>
    refine Tracks.bind (Q := fun _ φ => φ.CanLeave spec.name) ?_ fun _ φ h => h
    refine Tracks.bind (proceeds_perform fun a => ?_) fun _ φ h => h
    exact ⟨_, .takenBack ⟨spec, typeMeta⟩ _ plan (fun n h => free n h) a, rfl⟩

/-- What the entry of made storage in the catalog ends in. -/
def Entered (spec : Specification) (plan : Option Storage.Creation) :
    Except RegistryError Unit → Stage → Prop
  | .ok _, φ => φ = .added spec.name
  | .error e, φ => φ = .making spec.name plan (.refused e)

theorem proceeds_commit (typeName : String) (spec : Specification) (typeMeta : TypeMeta)
    (owner : Option Principal) (plan : Option Storage.Creation) :
    Proceeds errand (.making spec.name plan (.made spec))
      (commit settings typeName spec typeMeta owner).run fun _ φ => φ.CanLeave spec.name := by
  refine Tracks.always_bind (Q := Entered spec plan) (Tracks.ask fun a _ => ?_) fun a φ h => ?_
  · cases a with
    | ok u => exact ⟨_, .added spec plan, rfl⟩
    | error e => exact ⟨_, .refused spec plan e, rfl⟩
  cases a with
  | error e =>
    obtain rfl : φ = .making spec.name plan (.refused e) := h
    exact Tracks.always_bind (proceeds_rollBack spec typeMeta owner plan e) fun _ _ h => h
  | ok u =>
    obtain rfl : φ = .added spec.name := h
    refine Tracks.always_bind (proceeds_aside (aside_show spec.name) fun _ => rfl) ?_
    rintro _ φ rfl
    refine Tracks.always_bind (Q := fun _ φ => φ = .recorded spec.name)
      (Tracks.ask fun _ _ => ⟨_, .recorded spec.name typeName owner, rfl⟩) ?_
    rintro _ φ rfl
    refine Tracks.always_bind (Q := fun _ φ => φ = .leaving spec.name)
      (Tracks.ask fun _ _ => ⟨_, .counted spec.name typeName, rfl⟩) ?_
    rintro _ φ rfl
    exact rfl

/-- What the search for a name in the catalog ends in. -/
def LookedUp (name : String) : Except RegistryError (Option Specification) → Stage → Prop
  | .ok none, φ => φ = .making name none .none
  | _, φ => φ = .leaving name

/-- What the search for the type of a request ends in. -/
def Planned (name : String) (request : InstanceConfiguration) :
    Except RegistryError (Option TypeMeta) → Stage → Prop
  | .ok (some typeMeta), φ => φ = .making name (some ⟨name, typeMeta, request.properties⟩) .none
  | _, φ => φ = .making name none .none

/-- A create that has the right to its name ends where it can give it back. -/
theorem proceeds_createReserved {request : InstanceConfiguration}
    (h : errand = .create name request) (owner : Option Principal) :
    Proceeds errand (.looking name) (createReserved settings name request owner).run
      fun _ φ => φ.CanLeave name := by
  refine Tracks.ofRegistry_bind (Q := LookedUp name) (Tracks.ask fun a _ => ?_) ?_ ?_
  · rcases a with e | _ | spec
    case ok.none => exact ⟨_, .absent name, rfl⟩
    all_goals exact ⟨_, .present name _, rfl⟩
  case refine_3 =>
    rintro e φ rfl
    exact rfl
  intro found φ hfound
  cases found with
  | some spec =>
    obtain rfl : φ = .leaving name := hfound
    exact rfl
  | none =>
    obtain rfl : φ = .making name none .none := hfound
    refine Tracks.ofRegistry_bind (Q := Planned name request) (Tracks.ask fun a _ => ?_) ?_ ?_
    · rcases a with e | _ | typeMeta
      case ok.some => exact ⟨_, .planned h typeMeta, rfl⟩
      all_goals exact ⟨_, .beside _ _ (by rfl), rfl⟩
    case refine_3 =>
      rintro e φ rfl
      exact ⟨rfl, nofun⟩
    intro typed φ htyped
    cases typed with
    | none =>
      obtain rfl : φ = .making name none .none := htyped
      exact ⟨rfl, nofun⟩
    | some typeMeta =>
      let c : Storage.Creation := ⟨name, typeMeta, request.properties⟩
      obtain rfl : φ = .making name (some c) .none := htyped
      refine Tracks.step_bind (proceeds_claimOwner owner) ?_ ?_
      case refine_2 =>
        rintro e φ rfl
        exact ⟨rfl, nofun⟩
      rintro _ φ rfl
      refine Tracks.always_bind (proceeds_createStorage c) fun made φ hmade => ?_
      cases made with
      | error e =>
        obtain rfl : φ = .making name (some c) .none := hmade
        refine Tracks.always_bind (proceeds_failCreate _ owner e) ?_
        rintro _ φ rfl
        exact ⟨rfl, nofun⟩
      | ok spec =>
        obtain rfl : φ = .making name (some c) (.made spec) := hmade
        dsimp only
        split
        · next named =>
          rw [← named]
          exact proceeds_commit _ spec typeMeta owner _
        · refine Tracks.always_bind (proceeds_failCreate _ owner _) ?_
          rintro _ φ rfl
          exact ⟨rfl, nofun⟩

theorem proceeds_create {request : InstanceConfiguration} (h : errand = .create name request) :
    Proceeds errand .outside (create settings name request).run fun _ φ => φ = .outside := by
  have creates : errand.Creates name := by
    rw [h]
    exact rfl
  cases hchecked : checkCreate settings name request with
  | error e =>
    rw [create_run_refused hchecked]
    exact rfl
  | ok owner =>
    rw [create_run hchecked]
    rintro (_ | _) -
    · exact ⟨_, .denied creates, rfl⟩
    · refine ⟨_, .granted creates, Tracks.bind (proceeds_createReserved h owner) ?_⟩
      exact fun _ φ canLeave _ _ => ⟨_, .released canLeave, rfl⟩

/-! ### Drops -/

theorem proceeds_dropStorage (spec : Specification) (typeMeta : TypeMeta) :
    Proceeds errand (.clearing spec.name) (dropStorage settings spec typeMeta).run
      fun _ φ => φ = .outside := by
  refine Tracks.always_bind (Q := fun _ φ => φ = .clearing spec.name)
    (proceeds_perform fun a => ⟨_, .emptied ⟨spec, typeMeta⟩ _ a, rfl⟩) ?_
  rintro a φ rfl
  cases a with
  | ok u => exact fun _ _ => ⟨_, .dropped spec.name spec.typeName, rfl⟩
  | error e =>
    refine Tracks.always_bind (Q := fun _ φ => φ = .outside)
      (Tracks.ask fun _ _ => ⟨_, .dropFailed spec.name spec.typeName e.message, rfl⟩) ?_
    rintro _ φ rfl
    exact rfl

/-- What the removal of a name from the catalog ends in. -/
def Struck (name : String) : Except RegistryError Bool → Stage → Prop
  | .ok true, φ => φ = .removed name
  | _, φ => φ = .outside

theorem proceeds_dropFound (h : errand.Drops) (spec : Specification) :
    Proceeds errand .outside (dropFound settings spec).run fun _ φ => φ = .outside := by
  refine Tracks.step_bind (proceeds_aside (aside_typeOf spec) fun _ => rfl) ?_ fun _ _ h => h.symm
  rintro typeMeta φ rfl
  refine Tracks.always_bind (proceeds_aside (aside_hide spec.name) fun _ => rfl) ?_
  rintro _ φ rfl
  refine Tracks.ofRegistry_bind (Q := Struck spec.name) (Tracks.ask fun a _ => ?_) ?_ fun _ _ h => h
  · rcases a with e | _ | _
    case ok.true => exact ⟨_, .removed h spec.name, rfl⟩
    all_goals exact ⟨_, .missed h spec.name nofun, rfl⟩
  intro there φ hthere
  cases there with
  | false => exact hthere
  | true =>
    obtain rfl : φ = .removed spec.name := hthere
    refine Tracks.always_bind (Q := fun _ φ => φ = .clearing spec.name)
      (Tracks.ask fun _ _ => ⟨_, .uncounted spec.name spec.typeName, rfl⟩) ?_
    rintro _ φ rfl
    refine Tracks.step_bind (x := discard (always (removeOwner (settings.entity spec.name))))
      (Q := fun r φ => r = .ok () ∧ φ = .clearing spec.name) ?_ ?_ ?_
    · exact fun a _ => ⟨_, .beside _ a (by rfl), rfl, rfl⟩
    · rintro _ φ ⟨-, rfl⟩
      exact proceeds_dropStorage spec typeMeta
    · rintro e φ ⟨h, -⟩
      cases h

theorem proceeds_dropInstance (h : errand.Drops) :
    Proceeds errand .outside (dropInstance settings name).run fun _ φ => φ = .outside := by
  unfold dropInstance
  split
  · refine Tracks.ofRegistry_bind (proceeds_aside (aside_ask (by rfl)) fun _ => rfl) ?_
      fun _ _ h => h.symm
    rintro found φ rfl
    cases found with
    | none => exact rfl
    | some spec => exact proceeds_dropFound h spec
  · exact rfl

theorem proceeds_dropEach (h : errand.Drops) (specs : List Specification) (t : Tally) :
    Proceeds errand .outside (dropEach settings t specs) fun _ φ => φ = .outside := by
  induction specs generalizing t with
  | nil => exact rfl
  | cons spec rest ih =>
    refine Tracks.bind (proceeds_dropFound h spec) ?_
    rintro result φ rfl
    exact ih _

theorem proceeds_dropAll (h : errand.Drops) :
    Proceeds errand .outside (dropAll settings).run fun _ φ => φ = .outside := by
  unfold dropAll
  split
  · refine Tracks.ofRegistry_bind (proceeds_aside (aside_ask (by rfl)) fun _ => rfl) ?_
      fun _ _ h => h.symm
    rintro specs φ rfl
    refine Tracks.always_bind (proceeds_dropEach h specs {}) ?_
    rintro t φ rfl
    refine Tracks.always_bind (proceeds_aside (aside_ask (by rfl)) fun _ => rfl) ?_
    rintro _ φ rfl
    split <;> exact rfl
  · refine Tracks.always_bind (proceeds_aside (aside_ask (by rfl)) fun _ => rfl) ?_
    rintro _ φ rfl
    exact rfl

/-! ### All operations -/

theorem proceeds_discard {x : Step α} (h : Proceeds errand φ x.run fun _ φ' => φ' = .outside) :
    Proceeds errand φ (discard x : Step Unit).run fun _ φ' => φ' = .outside := by
  refine Tracks.bind h fun r φ' hφ => ?_
  cases r <;> exact hφ

/-- Every operation keeps to the moves, whatever it is answered, and owes nothing at its end. -/
theorem proceeds_program (settings : Settings) (errand : Errand) :
    Proceeds errand .outside (errand.program settings) fun _ φ => φ = .outside := by
  cases errand with
  | create name request => exact proceeds_discard (proceeds_create rfl)
  | drop name => exact proceeds_dropInstance trivial
  | dropAll => exact proceeds_discard (proceeds_dropAll trivial)
  | admin name method => exact proceeds_discard (proceeds_aside (aside_admin method) fun _ => rfl)
  | get name => exact proceeds_discard (proceeds_aside aside_get fun _ => rfl)
  | list options => exact proceeds_discard (proceeds_aside (aside_list options) fun _ => rfl)

end

end DatasetCatalog.Lifecycle
