import DatasetCatalog.Proofs.Lifecycle.Aside
import DatasetCatalog.Proofs.Lifecycle.Errand
import DatasetCatalog.Proofs.Lifecycle.Recovery
import DatasetCatalog.Proofs.Program.Reliance
import DatasetCatalog.Proofs.Registry.Files

/-!
# Calls that concern one name

An operation on a name only makes calls that concern this name: it adds and removes no other entry,
record or storage (`heeds_program`). Two times this hangs on an answer. A drop goes on with the
specification that it has found, and a create adds the one that its storage gave it; `SoundUnder` says
what is expected of them, where the specifications that storage gives are as a property `ok` says.

With storage that knows the built-in types (`Sound`), what a create adds can be stored, whatever is
asked of it (`minds_program`): the types decide what its specification holds, and a name that is too
long has been refused when it was looked up.

An operation whose name is none makes no call at all (`program_of_invalid`).
-/

namespace DatasetCatalog.Lifecycle

open Program

/-- A name that the registry can look up. -/
structure Nameable (name : String) : Prop where
  safe : Disk.isSafeName name = true
  short : Utf8.size name ≤ 250

/-- What a call changes, if it changes anything of an instance, is of one name, and what it adds to the
catalog is as `ok` says. Owners are looked up of this name only. -/
def ConcernsUnder (ok : Specification → Prop) (settings : Settings) (name : String) : Call → Prop
  | .addInstance spec => spec.name = name ∧ Nameable name ∧ ok spec
  | .removeInstance n => n = name ∧ Nameable name
  | .addOwner entity _ | .findOwner entity | .removeOwner entity =>
    entity = settings.entity name ∧ Nameable name
  | .perform r _ => r.target = name
  | _ => True

/-- What a call changes, if it changes anything of an instance, is of one name, and what it adds can be
stored. -/
def Concerns (settings : Settings) (name : String) : Call → Prop
  | .addInstance spec => spec.name = name ∧ Registry.Storable spec
  | .removeInstance n => n = name ∧ Nameable name
  | .addOwner entity _ | .removeOwner entity => entity = settings.entity name ∧ Nameable name
  | .perform r _ => r.target = name
  | _ => True

/-- Of what may change an instance, only requests to its storage. -/
def ConcernsStorage (name : String) : Call → Prop
  | .addInstance _ | .removeInstance _ | .addOwner .. | .removeOwner _ => False
  | .perform r _ => r.target = name
  | _ => True

/-- Answers of a registry that finds what was added, under names that it can look up, and of storage
that gives specifications as `ok` says, where they can be named. -/
def SoundUnder (ok : Specification → Prop) : Exchange → Prop
  | ⟨.findInstance name, .ok found⟩ => Nameable name ∧ ∀ spec, found = some spec → spec.name = name
  | ⟨.allInstances, .ok specs⟩ => ∀ spec ∈ specs, Nameable spec.name
  | ⟨.perform (.create c) _, .ok spec⟩ => Nameable c.name → spec.name = c.name → ok spec
  | _ => True

/-- Answers of a registry that finds what was added, under names that it can look up, and of storage
that knows the built-in types. -/
def Sound : Exchange → Prop
  | ⟨.findInstance name, .ok found⟩ =>
    Nameable name ∧ ∀ spec, found = some spec → spec.name = name ∧ Registry.Storable spec
  | ⟨.allInstances, .ok specs⟩ => ∀ spec ∈ specs, Registry.Storable spec
  | ⟨.perform (.create c) _, .ok spec⟩ => ∃ ps, Definition.Makes c.typeMeta.name c.name ps spec
  | _ => True

/-- If collaborators answer as expected, a program only makes calls that concern one name. -/
abbrev Heeds {α : Type} (ok : Specification → Prop) (settings : Settings) (name : String)
    (p : Program α) : Prop :=
  Relies (ConcernsUnder ok settings name) (SoundUnder ok) p fun _ => True

/-- The same of collaborators that know the built-in types. -/
abbrev Minds {α : Type} (settings : Settings) (name : String) (p : Program α) : Prop :=
  Relies (Concerns settings name) Sound p fun _ => True

variable {α : Type} {settings : Settings} {name : String} {spec : Specification}
  {ok : Specification → Prop}

theorem nameable_of_storable (h : Registry.Storable spec) : Nameable spec.name := ⟨h.safe, h.short⟩

/-- What the built-in types make under such a name can be stored. -/
theorem storable_of_makes {typeName : String} {ps : Properties} (h : Nameable name)
    (made : Definition.Makes typeName name ps spec) : Registry.Storable spec := by
  obtain ⟨rfl, -⟩ := made.named
  exact ⟨⟨h.safe, h.short, made.ordered⟩, made.depth⟩

theorem concerns_of_storable {c : Call} (h : ConcernsUnder Registry.Storable settings name c) :
    Concerns settings name c := by
  cases c with
  | addInstance spec => exact ⟨h.1, h.2.2⟩
  | findOwner entity => exact trivial
  | _ => exact h

theorem soundUnder_of_sound {x : Exchange} (h : Sound x) : SoundUnder Registry.Storable x := by
  obtain ⟨c, a⟩ := x
  cases c with
  | findInstance n =>
    cases a with
    | error e => exact trivial
    | ok found => exact ⟨h.1, fun spec there => (h.2 spec there).1⟩
  | allInstances =>
    cases a with
    | error e => exact trivial
    | ok specs => exact fun spec there => nameable_of_storable (h spec there)
  | perform r limit =>
    cases r with
    | create c =>
      cases a with
      | error e => exact trivial
      | ok spec =>
        intro nameable _
        obtain ⟨ps, made⟩ := h
        exact storable_of_makes nameable made
    | _ => exact trivial
  | _ => exact trivial

theorem concerns_of_glance {c : Call} (h : isGlance c = true) : ConcernsUnder ok settings name c := by
  cases c <;> first | exact trivial | cases h

theorem heeds_of_glances {p : Program α} (h : Glances p) : Heeds ok settings name p :=
  .of_only (h.mono fun _ => concerns_of_glance)

theorem heeds_ask {c : Call} (h : ConcernsUnder ok settings name c) :
    Heeds ok settings name (ask c) :=
  (Relies.ask h).mono (fun _ hc => hc) fun _ _ => trivial

/-! ### Storage -/

theorem relies_perform {P : Call → Prop} {R : Exchange → Prop} {r : Storage.Request}
    (h : P (.perform r settings.operationLimit)) (count : ∀ reading, P (.count reading)) :
    Relies P R (perform settings r) fun a => R ⟨.perform r settings.operationLimit, a⟩ := by
  refine .bind (.ask h) fun a ha => .bind (.ask (count _)) fun _ _ => ?_
  cases a with
  | ok answer => exact ha
  | error e => exact .bind (.ask (count _)) fun _ _ => ha

theorem heeds_perform {r : Storage.Request} (h : r.target = name) :
    Relies (ConcernsUnder ok settings name) (SoundUnder ok) (perform settings r) fun a =>
      SoundUnder ok ⟨.perform r settings.operationLimit, a⟩ :=
  relies_perform h fun _ => trivial

/-- What storage was made for. -/
def MadeFor (ok : Specification → Prop) (name : String) (a : Except StorageError Specification) :
    Prop :=
  ∀ spec, a = .ok spec → Nameable name → spec.name = name → ok spec

theorem heeds_attempt (c : Storage.Creation) :
    Relies (ConcernsUnder ok settings c.name) (SoundUnder ok) (perform settings (.create c))
      (MadeFor ok c.name) := by
  refine (heeds_perform rfl).mono (fun _ hc => hc) fun a made spec ha => ?_
  subst ha
  exact made

theorem heeds_reclaimOrphan (typeMeta : TypeMeta) :
    Heeds ok settings name (reclaimOrphan settings name typeMeta) := by
  refine .bind (.ask trivial) fun found _ => ?_
  rcases found with e | _ | spec
  case ok.none =>
    refine .bind (heeds_perform rfl) fun dropped _ => ?_
    cases dropped with
    | ok u => exact .bind (.ask trivial) fun _ _ => trivial
    | error e => exact trivial
  all_goals exact trivial

theorem heeds_createStorage (c : Storage.Creation) :
    Relies (ConcernsUnder ok settings c.name) (SoundUnder ok) (createStorage settings c)
      (MadeFor ok c.name) := by
  refine .bind (heeds_attempt c) fun first hfirst => ?_
  cases first with
  | ok spec => exact hfirst
  | error e =>
    cases e with
    | alreadyExists found =>
      refine .bind (heeds_reclaimOrphan c.typeMeta) fun reclaimed _ => ?_
      cases reclaimed with
      | true => exact heeds_attempt c
      | false => exact nofun
    | _ => exact nofun

/-! ### Creates -/

theorem heeds_rollBackOwner (h : Nameable name) (owner : Option Principal) :
    Heeds ok settings name (rollBackOwner (settings.entity name) owner) := by
  cases owner with
  | none => exact trivial
  | some principal => exact .discard (heeds_ask ⟨rfl, h⟩)

theorem heeds_claimOwner (h : Nameable name) (owner : Option Principal) :
    Heeds ok settings name (claimOwner settings name owner).run := by
  cases owner with
  | none => exact trivial
  | some principal =>
    refine .always_bind (heeds_ask ⟨rfl, h⟩) fun result _ => ?_
    split <;> exact trivial

theorem heeds_failCreate (h : Nameable name) (typeName : String) (owner : Option Principal)
    (e : StorageError) : Heeds ok settings name (failCreate settings name typeName owner e) := by
  refine .bind (heeds_ask trivial) fun _ _ => .bind (heeds_rollBackOwner h owner) fun _ _ => ?_
  split
  · exact trivial
  · refine .bind (heeds_ask trivial) fun found _ => ?_
    rcases found with e | _ | spec <;> exact trivial

theorem heeds_rollBack (h : Nameable spec.name) (typeMeta : TypeMeta) (owner : Option Principal)
    (e : RegistryError) : Heeds ok settings spec.name (rollBack settings spec typeMeta owner e) := by
  refine .bind (heeds_rollBackOwner h owner) fun _ _ => ?_
  split
  · exact trivial
  · exact .bind (.discard (heeds_perform rfl)) fun _ _ => trivial

theorem heeds_commit (nameable : Nameable spec.name) (fits : ok spec) (typeName : String) (typeMeta : TypeMeta)
    (owner : Option Principal) :
    Heeds ok settings spec.name (commit settings typeName spec typeMeta owner).run := by
  refine .always_bind (heeds_ask ⟨rfl, nameable, fits⟩) fun added _ => ?_
  cases added with
  | error e =>
    exact .always_bind (heeds_rollBack nameable typeMeta owner e) fun _ _ => trivial
  | ok u =>
    refine .always_bind (.bind (heeds_ask trivial) fun _ _ => heeds_of_glances (glances_tolerate _))
      fun _ _ => ?_
    exact .always_bind (heeds_ask trivial) fun _ _ => .always_bind (heeds_ask trivial) fun _ _ =>
      trivial

theorem heeds_createReserved (request : InstanceConfiguration) (owner : Option Principal) :
    Heeds ok settings name (createReserved settings name request owner).run := by
  have fails (h : Nameable name) (e : StorageError) :
      Heeds ok settings name (ExceptT.run (always (failCreate settings name request.typeName owner e) >>=
        throw : Step Specification)) :=
    .always_bind (heeds_failCreate h request.typeName owner e) fun _ _ => trivial
  refine .ofRegistry_bind (.ask trivial) fun found sound => ?_
  obtain ⟨nameable, -⟩ := sound
  cases found with
  | some spec => exact trivial
  | none =>
    refine .ofRegistry_bind (heeds_ask trivial) fun typed _ => ?_
    cases typed with
    | none => exact trivial
    | some typeMeta =>
      refine .step_bind (heeds_claimOwner nameable owner) fun _ => ?_
      refine .always_bind (heeds_createStorage ⟨name, typeMeta, request.properties⟩)
        fun result made => ?_
      cases result with
      | error e => exact fails nameable e
      | ok spec =>
        dsimp only
        split
        · next own =>
          subst own
          exact heeds_commit nameable (made spec rfl nameable rfl) _ typeMeta owner
        · exact fails nameable _

theorem heeds_create (request : InstanceConfiguration) :
    Heeds ok settings name (create settings name request).run := by
  cases checked : checkCreate settings name request with
  | error e =>
    rw [create_run_refused checked]
    exact trivial
  | ok owner =>
    rw [create_run checked]
    refine ⟨trivial, fun granted _ => ?_⟩
    cases granted with
    | false => exact trivial
    | true =>
      exact .bind (heeds_createReserved request owner) fun _ _ => ⟨trivial, fun _ _ => trivial⟩

/-! ### Drops -/

theorem heeds_dropStorage (typeMeta : TypeMeta) :
    Heeds ok settings spec.name (dropStorage settings spec typeMeta).run := by
  refine .always_bind (heeds_perform rfl) fun dropped _ => ?_
  cases dropped with
  | ok u => exact heeds_ask trivial
  | error e => exact .always_bind (heeds_ask trivial) fun _ _ => trivial

theorem heeds_dropFound (nameable : Nameable spec.name) :
    Heeds ok settings spec.name (dropFound settings spec).run := by
  refine .step_bind (heeds_of_glances (glances_typeOf spec)) fun typeMeta => ?_
  refine .always_bind (.bind (heeds_ask trivial) fun _ _ => heeds_of_glances (glances_tolerate _))
    fun _ _ => ?_
  refine .ofRegistry_bind (heeds_ask ⟨rfl, nameable⟩) fun removed _ => ?_
  cases removed with
  | false => exact trivial
  | true =>
    refine .always_bind (heeds_ask trivial) fun _ _ => ?_
    have owner : Heeds ok settings spec.name
        (always (removeOwner (settings.entity spec.name))).run :=
      .bind (heeds_ask ⟨rfl, nameable⟩) fun _ _ => trivial
    exact .step_bind (.step_discard owner) fun _ => heeds_dropStorage typeMeta

theorem heeds_dropInstance : Heeds ok settings name (dropInstance settings name).run := by
  unfold dropInstance
  split
  · refine .ofRegistry_bind (.ask trivial) fun found sound => ?_
    cases found with
    | none => exact trivial
    | some spec =>
      obtain rfl := sound.2 spec rfl
      exact heeds_dropFound sound.1
  · exact trivial

/-! ### Admin operations -/

theorem relies_admin {P : Call → Prop} {R : Exchange → Prop} (method : String)
    (request : ∀ r : Storage.Request, r.target = name → P (.perform r settings.operationLimit))
    (event : ∀ e, P (.record e)) (count : ∀ reading, P (.count reading)) :
    Relies P R (admin settings name method).run fun _ => True := by
  unfold admin
  cases adminOperation name method with
  | error e => exact trivial
  | ok operation =>
    refine .step_bind (x := ExceptT.mk (pure (.ok operation))) trivial fun operation => ?_
    split
    · have performed : Relies P R (performAdmin settings name operation) fun _ => True := by
        cases operation <;>
          exact .bind (relies_perform (request _ rfl) count) fun _ _ => trivial
      refine .always_bind performed fun result _ => ?_
      rcases result with e | value
      · cases e with
        | notFound missing => exact trivial
        | _ => exact .always_bind (.ask (event _)) fun _ _ => trivial
      · exact trivial
    · exact trivial

theorem storageOnly_admin (method : String) :
    Relies (ConcernsStorage name) Sound (admin settings name method).run fun _ => True :=
  relies_admin method (fun _ target => target) (fun _ => trivial) fun _ => trivial

theorem heeds_admin (method : String) : Heeds ok settings name (admin settings name method).run :=
  relies_admin method (fun _ target => target) (fun _ => trivial) fun _ => trivial

theorem concerns_of_concernsStorage {c : Call} (h : ConcernsStorage name c) :
    Concerns settings name c := by
  cases c <;> first | exact h | exact trivial | exact h.elim

/-! ### Looking an instance up -/

theorem heeds_get : Heeds ok settings name (get settings name).run := by
  unfold get
  split
  · refine .ofRegistry_bind (.ask trivial) fun found sound => ?_
    cases found with
    | none => exact trivial
    | some spec =>
      refine .ofRegistry_bind (heeds_ask trivial) fun typed _ => ?_
      exact .step_bind (.bind (heeds_ask ⟨rfl, sound.1⟩) fun _ _ => trivial) fun owner => trivial
  · exact trivial

/-! ### Whole operations -/

namespace Errand

/-- The name that an errand is on, if it is to change something of one instance. -/
def On (name : String) : Errand → Prop
  | create n _ | drop n | admin n _ => n = name
  | _ => False

/-- Whether an errand is an admin operation. -/
def IsAdmin : Errand → Prop
  | admin .. => True
  | _ => False

end Errand

/-- An operation on a name only makes calls that concern this name. -/
theorem heeds_program (settings : Settings) {errand : Errand} (on : errand.On name) :
    Heeds ok settings name (errand.program settings) := by
  cases errand with
  | create n request =>
    obtain rfl : n = name := on
    exact .step_discard (heeds_create request)
  | drop n =>
    obtain rfl : n = name := on
    exact heeds_dropInstance
  | admin n method =>
    obtain rfl : n = name := on
    exact .step_discard (heeds_admin method)
  | _ => exact on.elim

theorem minds_program (settings : Settings) {errand : Errand} (on : errand.On name) :
    Minds settings name (errand.program settings) :=
  ((heeds_program settings on).strengthen fun _ => soundUnder_of_sound).mono
    (fun _ => concerns_of_storable) fun _ _ => trivial

/-- An admin operation changes nothing but storage. -/
theorem storageOnly_program {errand : Errand} (on : errand.On name) (isAdmin : errand.IsAdmin) :
    Relies (ConcernsStorage name) Sound (errand.program settings) fun _ => True := by
  cases errand with
  | admin n method =>
    obtain rfl : n = name := on
    exact .step_discard (storageOnly_admin method)
  | _ => exact isAdmin.elim

/-- An operation on something that is no name is over at once. -/
theorem program_of_invalid (settings : Settings) {errand : Errand} (on : errand.On name)
    (invalid : InstanceName.isValid name = false) :
    ∃ r, errand.program settings = .done r := by
  have notValid : ¬ InstanceName.isValid name = true := by simp [invalid]
  cases errand with
  | create n request =>
    obtain rfl : n = name := on
    have refused : checkCreate settings n request = .error (.invalidName n nameRule) :=
      if_neg notValid
    refine ⟨.error (.invalidName n nameRule), ?_⟩
    rw [Errand.program, Errand.step, Lifecycle.create, refused]
    rfl
  | drop n =>
    obtain rfl : n = name := on
    refine ⟨.error (.instanceNotFound n), ?_⟩
    rw [Errand.program, Errand.step, dropInstance, if_neg notValid]
    rfl
  | admin n method =>
    obtain rfl : n = name := on
    cases asked : adminOperation n method with
    | error e =>
      refine ⟨.error e, ?_⟩
      rw [Errand.program, Errand.step, Lifecycle.admin, asked]
      rfl
    | ok operation =>
      refine ⟨.error (.invalidName n "not a dataset instance name"), ?_⟩
      rw [Errand.program, Errand.step, Lifecycle.admin, asked]
      simp only [invalid, Bool.false_eq_true, if_false]
      rfl
  | _ => exact on.elim

theorem heeds_dropEach {tally : Tally} {specs : List Specification}
    (nameable : ∀ spec ∈ specs, Nameable spec.name) :
    Relies (fun c => ∃ name, ConcernsUnder ok settings name c) (SoundUnder ok)
      (dropEach settings tally specs) fun _ => True := by
  induction specs generalizing tally with
  | nil => exact trivial
  | cons spec rest ih =>
    refine .bind ((heeds_dropFound (nameable spec List.mem_cons_self)).mono
      (fun c hc => ⟨_, hc⟩) fun _ _ => trivial) fun _ _ => ?_
    exact ih fun s hs => nameable s (List.mem_cons_of_mem _ hs)

theorem heeds_dropAll :
    Relies (fun c => ∃ name, ConcernsUnder ok settings name c) (SoundUnder ok)
      (dropAll settings).run fun _ => True := by
  unfold dropAll
  split
  · refine .ofRegistry_bind (.ask ⟨"", trivial⟩) fun specs nameable => ?_
    refine .always_bind (heeds_dropEach nameable) fun t _ => ?_
    refine .always_bind (.ask ⟨"", trivial⟩) fun _ _ => ?_
    split <;> exact trivial
  · exact .always_bind (.ask ⟨"", trivial⟩) fun _ _ => trivial

/-- Calls that all concern one name each concern some name. -/
theorem heeds_some {p : Program α} (h : Heeds ok settings name p) :
    Relies (fun c => ∃ name, ConcernsUnder ok settings name c) (SoundUnder ok) p fun _ => True :=
  h.mono (fun _ concerns => ⟨name, concerns⟩) fun _ _ => trivial

/-- Every operation makes calls only each of which concerns one name. -/
theorem heeds_each (settings : Settings) (errand : Errand) :
    Relies (fun c => ∃ name, ConcernsUnder ok settings name c) (SoundUnder ok)
      (errand.program settings) fun _ => True := by
  cases errand with
  | create n request => exact heeds_some (heeds_program settings (rfl : (Errand.create n request).On n))
  | drop n => exact heeds_some (heeds_program settings (rfl : (Errand.drop n).On n))
  | admin n method => exact heeds_some (heeds_program settings (rfl : (Errand.admin n method).On n))
  | get n => exact .step_discard (heeds_some heeds_get)
  | list options =>
    have glances : Heeds ok settings "" (list options).run :=
      heeds_of_glances (glances_list options)
    exact .step_discard (heeds_some glances)
  | dropAll => exact .step_discard heeds_dropAll

/-- What is so under any storage that gives what can be stored is so under the built-in types. -/
theorem relies_of_storable {p : Program α} {Q : α → Prop}
    (h : Relies (fun c => ∃ name, ConcernsUnder Registry.Storable settings name c)
      (SoundUnder Registry.Storable) p Q) :
    Relies (fun c => ∃ name, Concerns settings name c) Sound p Q :=
  (h.strengthen fun _ => soundUnder_of_sound).mono
    (fun _ ⟨name, hc⟩ => ⟨name, concerns_of_storable hc⟩) fun _ => id

theorem relies_program (settings : Settings) (errand : Errand) :
    Relies (fun c => ∃ name, Concerns settings name c) Sound (errand.program settings)
      fun _ => True := relies_of_storable (heeds_each settings errand)

end DatasetCatalog.Lifecycle
