import DatasetCatalog.Proofs.Lifecycle.AllOrNothing
import DatasetCatalog.Proofs.Lifecycle.Filed
import DatasetCatalog.Proofs.Lifecycle.Phases

/-!
# Operations on a ledger that is served

Where the registries and the owner store work, every call is answered as `Ledger.Serves` says, and an
operation comes to something definite on the ledger whatever storage does. Here it is read off, for
drops and for creates.

Operations that come one after the other are a `Sequel`. They leave no owner record without an instance
(`Sequel.unowned`), for a create takes its record back if it fails, and a drop removes the record with the
entry. So nobody else's record is ever in the way of a create, and no create whose owner can be recorded
is refused on its account (`createReserved_accepted`).
-/

namespace DatasetCatalog.Lifecycle

open Program Ledger

variable {α : Type} {inFiles : Bool} {types : TypeRegistry} {settings : Settings} {name : String}
  {l l' : Ledger} {xs : List Exchange}

theorem runs_permits {p : Program α} {a : α} (run : Runs (Serves inFiles types) p l xs a l') :
    Runs Permits p l xs a l' := by
  have sees (c : Call) (l : Ledger) (a : c.Answer) (l' : Ledger)
      (served : Serves inFiles types c l a l') : Permits c (id l) a (id l') := served.permits
  exact run.simulate sees

/-! ### Quiet calls -/

theorem served_quiet {c : Call} {a : c.Answer} (quiet : isQuiet c = true)
    (answered : Serves inFiles types c l a l') : l' = l := by
  cases c with
  | findInstance name => exact answered.2
  | allInstances => exact answered.2.2
  | findType name => exact answered.2
  | findOwner entity => exact answered.2
  | perform r limit => exact answered
  | expose name | withdraw name | exposedTables | record event | count reading => exact answered
  | _ => cases quiet

/-- A program that makes quiet calls only leaves the ledger as it is. -/
theorem runs_quiet {p : Program α} {a : α} (run : Runs (Serves inFiles types) p l xs a l')
    (quiet : Quiet p) : l' = l :=
  run.invariant (I := (· = l)) quiet
    (fun _ _ _ _ quiet answered same => (served_quiet quiet answered).trans same) rfl

theorem runs_perform {r : Storage.Request} {a : Storage.Result r}
    (run : Runs (Serves inFiles types) (perform settings r) l xs a l') : l' = l :=
  (perform_inv (runs_permits run)).2

/-! ### Drops -/

/-- The ledger after a drop. -/
def drops (settings : Settings) (l : Ledger) (name : String) : Ledger :=
  (l.strike name).disown (settings.entity name)

theorem strike_of_missing (missing : l.find? name = none) : l.strike name = l :=
  Ledger.ext (StringMap.erase_of_free missing) rfl

theorem typeOf_serves {spec : Specification} {r : Except CatalogError TypeMeta}
    (run : Runs (Serves inFiles types) (typeOf spec).run l xs r l') : ∃ typeMeta, r = .ok typeMeta := by
  obtain ⟨_, found, l₁, _, -, hfound, rfl⟩ | ⟨e, hask, -⟩ := bind_ofRegistry_inv run
  · cases found with
    | none => exact ⟨_, (pure_inv hfound).2.1⟩
    | some typeMeta => exact ⟨_, (pure_inv hfound).2.1⟩
  · cases hask.ask_inv.2.1

/-- An instance that is dropped leaves the ledger with its owner record. -/
theorem dropFound_serves {spec : Specification} {r : Except CatalogError Unit}
    (run : Runs (Serves inFiles types) (dropFound settings spec).run l xs r l') :
    (l.find? spec.name).isSome = true ∧ l' = drops settings l spec.name ∨
      l.find? spec.name = none ∧ l' = l := by
  obtain ⟨_, typeMeta, l₁, _, htype, htyped, rfl⟩ | ⟨e, htype, -⟩ := bind_inv run
  case inr =>
    obtain ⟨_, failed⟩ := typeOf_serves htype
    cases failed
  obtain rfl := runs_quiet htype (quiet_typeOf spec)
  obtain ⟨_, _, l₂, _, hhide, hidden, rfl⟩ := bind_always_inv htyped
  obtain rfl := runs_quiet hhide (quiet_hide spec.name)
  obtain ⟨_, there, l₃, _, hremove, hremoved, rfl⟩ | ⟨e, hremove, -⟩ := bind_ofRegistry_inv hidden
  case inr => cases congrArg Prod.fst hremove.ask_inv.2
  obtain ⟨hthere, rfl⟩ := Prod.mk.inj hremove.ask_inv.2
  obtain rfl : there = (l₂.find? spec.name).isSome := Except.ok.inj hthere
  cases found : l₂.find? spec.name with
  | none =>
    simp only [found] at hremoved
    obtain ⟨rfl, rfl, rfl⟩ := throw_inv hremoved
    exact .inr ⟨rfl, strike_of_missing found⟩
  | some entry =>
    simp only [found] at hremoved
    obtain ⟨_, _, l₄, _, hcount, hcounted, rfl⟩ := bind_always_inv hremoved
    obtain rfl : l₄ = l₂.strike spec.name := hcount.ask_inv.2
    obtain ⟨_, _, l₅, _, hdisown, hdisowned, rfl⟩ := bind_discard_always_inv hcounted
    obtain ⟨-, rfl⟩ := hdisown.ask_inv.2
    obtain ⟨_, result, l₆, _, hdrop, hrest, rfl⟩ := bind_always_inv hdisowned
    obtain rfl := runs_perform hdrop
    refine .inl ⟨rfl, runs_quiet hrest ?_⟩
    cases result with
    | ok u => exact only_always (quiet_ask (by rfl))
    | error e => exact only_bind (only_always (quiet_ask (by rfl))) fun _ => trivial

theorem find?_drops (settings : Settings) (l : Ledger) (name other : String) :
    (drops settings l name).find? other = if name = other then none else l.find? other := by
  rw [drops, find?_disown, find?_strike]

/-- Of some instances that are dropped one after the other no entry is left. -/
theorem dropEach_serves (specs : List Specification) {t t' : Tally} {other : String}
    (run : Runs (Serves inFiles types) (dropEach settings t specs) l xs t' l')
    (listed : (∃ spec ∈ specs, spec.name = other) ∨ l.find? other = none) :
    l'.find? other = none := by
  induction specs generalizing t l xs with
  | nil =>
    obtain ⟨-, -, rfl⟩ := run.done_inv
    exact listed.resolve_left nofun
  | cons spec rest ih =>
    obtain ⟨_, result, l₁, _, hdrop, hrest, rfl⟩ := run.bind_inv
    refine ih hrest ?_
    have gone : (∃ later ∈ rest, later.name = other) ∨ spec.name = other ∨ l.find? other = none := by
      simpa [or_assoc, or_comm, or_left_comm] using listed
    refine gone.imp_right fun gone => ?_
    obtain ⟨-, rfl⟩ | ⟨missing, rfl⟩ := dropFound_serves hdrop
    · rw [find?_drops]
      split
      · rfl
      · next hne => exact gone.resolve_left hne
    · exact gone.elim (fun same => same ▸ missing) id

/-- A drop looks its name up, and drops the instance that it finds. -/
theorem dropInstance_serves {r : Except CatalogError Unit}
    (run : Runs (Serves inFiles types) (dropInstance settings name).run l xs r l') :
    match if InstanceName.isValid name then l.reads inFiles name else .ok none with
    | .error fault => r = .error (.registry fault) ∧ l' = l
    | .ok none => r = .error (.instanceNotFound name) ∧ l' = l
    | .ok (some spec) => ∃ ys, Runs (Serves inFiles types) (dropFound settings spec).run l ys r l' := by
  unfold dropInstance at run
  split at run
  · next valid =>
    rw [if_pos valid]
    obtain ⟨_, found, l₁, _, hfind, hfound, rfl⟩ | ⟨e, hfind, rfl⟩ := bind_ofRegistry_inv run
    case inr =>
      obtain ⟨read, rfl⟩ := hfind.ask_inv.2
      rw [← read]
      exact ⟨rfl, rfl⟩
    obtain ⟨read, rfl⟩ := hfind.ask_inv.2
    rw [← read]
    cases found with
    | none => exact (throw_inv hfound).2
    | some spec => exact ⟨_, hfound⟩
  · next invalid =>
    rw [if_neg invalid]
    exact (throw_inv run).2

/-- Whether an operation failed because the registry did. -/
def lostRegistry : Except CatalogError α → Bool
  | .error (.registry _) => true
  | _ => false

/-- A reset lists the instances and drops one after the other. If it is enabled it is the listing that the
registry can fail it with. -/
theorem dropAll_serves {r : Except CatalogError DropReport}
    (run : Runs (Serves inFiles types) (dropAll settings).run l xs r l') :
    l' = l ∧ (settings.unrecoverableReset = true → lostRegistry r = true ∧ ¬ l.Legible inFiles) ∨
      ∃ ys t, Runs (Serves inFiles types) (dropEach settings {} (StringMap.values l.catalog)) l ys t l' ∧
        lostRegistry r = false ∧ l.Legible inFiles := by
  unfold dropAll at run
  split at run
  · obtain ⟨_, specs, l₁, _, hall, hlisted, rfl⟩ | ⟨e, hall, rfl⟩ := bind_ofRegistry_inv run
    case inr =>
      obtain ⟨listed, -, rfl⟩ := hall.ask_inv.2
      exact .inl ⟨rfl, fun _ => ⟨rfl, fun legible => nomatch listed legible⟩⟩
    obtain ⟨listed, failed, rfl⟩ := hall.ask_inv.2
    have legible : l₁.Legible inFiles := by
      by_contra illegible
      obtain ⟨fault, failed⟩ := failed illegible
      cases failed
    obtain rfl : specs = StringMap.values l₁.catalog := Except.ok.inj (listed legible)
    obtain ⟨_, t, l₂, _, hdrops, hdropped, rfl⟩ := bind_always_inv hlisted
    obtain ⟨_, _, l₃, _, hrecord, hreported, rfl⟩ := bind_always_inv hdropped
    obtain rfl := runs_quiet hrecord (quiet_ask (by rfl))
    split at hreported
    · obtain ⟨-, rfl, rfl⟩ := pure_inv hreported
      exact .inr ⟨_, t, hdrops, rfl, legible⟩
    · obtain ⟨-, rfl, rfl⟩ := throw_inv hreported
      exact .inr ⟨_, t, hdrops, rfl, legible⟩
  · next disabled =>
    obtain rfl := runs_quiet run (only_bind (only_always (quiet_ask (by rfl))) fun _ => trivial)
    exact .inl ⟨rfl, fun enabled => absurd enabled disabled⟩

/-! ### Owner records without an instance -/

/-- There is no owner record without an instance. -/
def Unowned (settings : Settings) (l : Ledger) : Prop :=
  ∀ name, l.find? name = none → l.owners (settings.entity name) = none

theorem Unowned.drops (h : Unowned settings l) (name : String) :
    Unowned settings (drops settings l name) := by
  intro other missing
  by_cases same : other = name
  · subst same
    exact Function.update_self _ _ _
  · rw [find?_drops, if_neg (Ne.symm same)] at missing
    exact (Function.update_of_ne (entity_ne same) _ _).trans (h other missing)

theorem Unowned.dropFound {spec : Specification} {r : Except CatalogError Unit}
    (h : Unowned settings l)
    (run : Runs (Serves inFiles types) (dropFound settings spec).run l xs r l') :
    Unowned settings l' := by
  obtain ⟨-, rfl⟩ | ⟨-, rfl⟩ := dropFound_serves run
  · exact h.drops spec.name
  · exact h

theorem Unowned.dropInstance {r : Except CatalogError Unit} (h : Unowned settings l)
    (run : Runs (Serves inFiles types) (dropInstance settings name).run l xs r l') :
    Unowned settings l' := by
  have served := dropInstance_serves run
  split at served
  · exact served.2 ▸ h
  · exact served.2 ▸ h
  · obtain ⟨_, run⟩ := served
    exact h.dropFound run

theorem Unowned.dropEach (specs : List Specification) {t t' : Tally} (h : Unowned settings l)
    (run : Runs (Serves inFiles types) (dropEach settings t specs) l xs t' l') :
    Unowned settings l' := by
  induction specs generalizing t l xs with
  | nil =>
    obtain ⟨-, -, rfl⟩ := run.done_inv
    exact h
  | cons spec rest ih =>
    obtain ⟨_, result, l₁, _, hdrop, hrest, rfl⟩ := run.bind_inv
    exact ih (h.dropFound hdrop) hrest

theorem Unowned.dropAll {r : Except CatalogError DropReport} (h : Unowned settings l)
    (run : Runs (Serves inFiles types) (dropAll settings).run l xs r l') : Unowned settings l' := by
  obtain ⟨rfl, -⟩ | ⟨_, t, run, -⟩ := dropAll_serves run
  · exact h
  · exact h.dropEach _ run

theorem Unowned.enter {spec : Specification} {owner : Option Principal} (h : Unowned settings l)
    (named : spec.name = name) :
    Unowned settings ((l.claim (settings.entity name) owner).enter spec) := by
  intro other missing
  rw [find?_enter, find?_claim, named] at missing
  split at missing
  · cases missing
  · next hne =>
    rw [owners_enter]
    have free := h other missing
    cases owner with
    | none => exact free
    | some principal => exact (Function.update_of_ne (entity_ne (Ne.symm hne)) _ _).trans free

/-! ### Creates -/

/-- A create adds its instance with the owner that the request names, or leaves the ledger as it was. -/
theorem create_serves {request : InstanceConfiguration} {r : Except CatalogError Specification}
    (run : Runs (Serves inFiles types) (create settings name request).run l xs r l') :
    (∃ spec, r = .ok spec ∧ spec.name = name ∧ InstanceName.isValid name = true ∧
      l.find? name = none ∧ l' = (l.claim (settings.entity name) (ownerOf request)).enter spec) ∨
    (∃ e, r = .error e) ∧ l' = l := by
  obtain ⟨owner, outcome, checked⟩ := create_inv (runs_permits run)
  cases outcome with
  | created attempts target named free unowned =>
    obtain ⟨valid, rfl⟩ := checkCreate_eq_ok (checked _ rfl)
    exact .inl ⟨_, rfl, named, valid, free, rfl⟩
  | failed bounded free => exact .inr ⟨⟨_, rfl⟩, rfl⟩

theorem Unowned.create {request : InstanceConfiguration} {r : Except CatalogError Specification}
    (h : Unowned settings l)
    (run : Runs (Serves inFiles types) (create settings name request).run l xs r l') :
    Unowned settings l' := by
  obtain ⟨spec, -, named, -, -, rfl⟩ | ⟨-, rfl⟩ := create_serves run
  · exact h.enter named
  · exact h

theorem Unowned.errand {errand : Errand} {a : Except CatalogError Unit} (h : Unowned settings l)
    (run : Runs (Serves inFiles types) (errand.program settings) l xs a l') :
    Unowned settings l' := by
  cases errand with
  | create name request =>
    obtain ⟨r, run, -⟩ := discard_inv run
    exact h.create run
  | drop name => exact h.dropInstance run
  | dropAll =>
    obtain ⟨r, run, -⟩ := discard_inv run
    exact h.dropAll run
  | admin name method =>
    obtain ⟨r, run, -⟩ := discard_inv run
    exact runs_quiet run (quiet_admin method) ▸ h
  | get name =>
    obtain ⟨r, run, -⟩ := discard_inv run
    exact runs_quiet run quiet_get ▸ h
  | list options =>
    obtain ⟨r, run, -⟩ := discard_inv run
    exact runs_quiet run (quiet_list options) ▸ h

/-! ### One after the other -/

/-- Operations that come one after the other. -/
inductive Sequel {σ : Type} (B : Conduct σ) (settings : Settings) (s : σ) : List Errand → σ → Prop
  | start : Sequel B settings s [] s
  | next {errands : List Errand} {s₁ s' : σ} {errand : Errand} {xs : List Exchange}
      {a : Except CatalogError Unit} (earlier : Sequel B settings s errands s₁)
      (run : Runs B (errand.program settings) s₁ xs a s') :
      Sequel B settings s (errands ++ [errand]) s'

/-- Operations leave no owner record without an instance. -/
theorem Sequel.unowned {errands : List Errand}
    (h : Sequel (Serves inFiles types) settings l errands l') (start : Unowned settings l) :
    Unowned settings l' := by
  induction h with
  | start => exact start
  | next earlier run ih => exact ih.errand run

/-- What operations do to the stores, whatever storage does meanwhile, they do to the ledger. -/
theorem Keeping.sequel {g : Grounds} {ok : Specification → Prop} {s s' : Stores}
    {area : Disk.Place → Prop} {errands : List Errand} (h : Keeping g settings ok inFiles l s)
    (contained : Contained g inFiles area) (ordered : ∀ spec, ok spec → spec.Ordered)
    (sequel : Sequel (Stores.Unvouched area ok) settings s errands s') :
    ∃ l', Sequel (Serves inFiles s.types) settings l errands l' ∧
      Keeping g settings ok inFiles l' s' ∧ s'.types = s.types := by
  induction sequel with
  | start => exact ⟨l, .start, h, rfl⟩
  | next earlier run ih =>
    obtain ⟨l₁, sequel, keeping, types⟩ := ih
    obtain ⟨l', served, keeping', types'⟩ := keeping.runs contained ordered (heeds_each settings _) run
    exact ⟨l', .next sequel (types ▸ served), keeping', types'.trans types⟩

/-! ### Refusals on account of the owner -/

/-- Whether an operation was refused on account of an owner. -/
def refusesOwner : CatalogError → Bool
  | .invalidOwner .. | .ownerExists _ | .ownerStore _ => true
  | _ => false

/-- The end of an operation that was not refused on account of an owner. -/
def Accepted (r : Except CatalogError α) : Prop := ∀ e, r = .error e → refusesOwner e = false

theorem accepted_error {e : CatalogError} (h : refusesOwner e = false) :
    Accepted (.error e : Except CatalogError α) := by
  rintro _ ⟨⟩
  exact h

/-- A program that ends in some way, whatever it is answered. -/
abbrev Ends (p : Program α) (Q : α → Prop) : Prop := Relies (fun _ => True) (fun _ => True) p Q

theorem Ends.of_run {σ : Type} {B : Conduct σ} {p : Program α} {Q : α → Prop} {s s' : σ} {a : α}
    (h : Ends p Q) (run : Runs B p s xs a s') : Q a :=
  (run.reliant (I := fun _ => True) (F := fun _ _ => True) h trivial (fun _ => trivial)
    (fun _ _ _ _ _ => trivial) fun _ _ _ _ _ _ _ => ⟨trivial, trivial, trivial⟩).2.1

/-- Whatever a program does first, what follows decides how it ends. -/
theorem Ends.after {β : Type} (p : Program α) {f : α → Program β} {Q : β → Prop}
    (h : ∀ a, Ends (f a) Q) : Ends (p >>= f) Q := Relies.bind (Relies.nothing p) fun a _ => h a

theorem Ends.after_always {β : Type} (p : Program α) {f : α → Step β}
    {Q : Except CatalogError β → Prop} (h : ∀ a, Ends (f a).run Q) :
    Ends (always p >>= f).run Q := by
  rw [run_always_bind]
  exact Ends.after p h

/-- A part that finds out how an operation fails, and then the failure. -/
theorem accepted_throw {p : Program CatalogError} (h : Ends p fun e => refusesOwner e = false) :
    Ends (always p >>= fun e => (throw e : Step α)).run Accepted := by
  rw [run_always_bind]
  exact Relies.bind h fun e accepted => accepted_error accepted

theorem failCreate_accepted (typeName : String) (owner : Option Principal) (source : StorageError) :
    Ends (failCreate settings name typeName owner source) fun e => refusesOwner e = false := by
  refine Ends.after _ fun _ => Ends.after _ fun _ => ?_
  split
  · exact rfl
  · refine Ends.after _ fun found => ?_
    split <;> exact rfl

theorem rollBack_accepted (spec : Specification) (typeMeta : TypeMeta) (owner : Option Principal)
    (e : RegistryError) :
    Ends (rollBack settings spec typeMeta owner e) fun e => refusesOwner e = false := by
  refine Ends.after _ fun _ => ?_
  split
  · exact rfl
  · exact Ends.after _ fun _ => rfl

theorem commit_accepted (typeName : String) (spec : Specification) (typeMeta : TypeMeta)
    (owner : Option Principal) :
    Ends (commit settings typeName spec typeMeta owner).run Accepted := by
  refine Ends.after_always _ fun added => ?_
  cases added with
  | error e => exact accepted_throw (rollBack_accepted spec typeMeta owner e)
  | ok u =>
    exact Ends.after_always _ fun _ => Ends.after_always _ fun _ => Ends.after_always _ fun _ => nofun

/-- Instances can have owners, so an entry is refused for its principal only. -/
theorem validate_entity {principal : Principal} (wellFormed : principal.validate = .ok ()) :
    Owner.validate (settings.entity name) principal = .ok () := by
  have kind : Owner.isSupported (settings.entity name).entityType = true := rfl
  rw [Owner.validate, if_pos kind, wellFormed]
  rfl

/-- An owner that can be recorded is recorded, where there is none. -/
theorem claimOwner_accepted {owner : Option Principal} {r : Except CatalogError Unit}
    (run : Runs (Serves inFiles types) (claimOwner settings name owner).run l xs r l')
    (free : l.owners (settings.entity name) = none)
    (wellFormed : ∀ principal, owner = some principal → principal.validate = .ok ()) :
    r = .ok () := by
  cases owner with
  | none => exact (pure_inv run).2.1
  | some principal =>
    have valid : Owner.validate (settings.entity name) principal = .ok () :=
      validate_entity (wellFormed principal rfl)
    obtain ⟨result, l₁, rest, answered, hrest, rfl⟩ := Runs.call_inv run
    obtain ⟨rfl, -⟩ := Prod.mk.inj (answered.trans (addOwner_of_valid valid free))
    exact (pure_inv hrest).2.1

theorem createReserved_accepted {request : InstanceConfiguration} {owner : Option Principal}
    {r : Except CatalogError Specification} (unowned : Unowned settings l)
    (wellFormed : ∀ principal, owner = some principal → principal.validate = .ok ())
    (run : Runs (Serves inFiles types) (createReserved settings name request owner).run l xs r l') :
    Accepted r := by
  obtain ⟨_, found, l₁, _, hfind, hfound, rfl⟩ | ⟨e, -, rfl⟩ := bind_ofRegistry_inv run
  case inr => exact accepted_error rfl
  obtain ⟨read, rfl⟩ := hfind.ask_inv.2
  rcases found with _ | spec
  case some =>
    obtain ⟨-, rfl, -⟩ := throw_inv hfound
    exact accepted_error rfl
  have free := unowned name (reads_eq_ok read.symm)
  obtain ⟨_, typed, l₂, _, htype, htyped, rfl⟩ | ⟨e, -, rfl⟩ := bind_ofRegistry_inv hfound
  case inr => exact accepted_error rfl
  obtain ⟨-, rfl⟩ := htype.ask_inv.2
  rcases typed with _ | typeMeta
  case none =>
    obtain ⟨-, rfl, -⟩ := throw_inv htyped
    exact accepted_error rfl
  obtain ⟨_, u, l₃, _, -, hclaimed, rfl⟩ | ⟨e, hclaim, -⟩ := bind_inv htyped
  case inr => cases claimOwner_accepted hclaim free wellFormed
  -- the owner is recorded, and from here on nothing is about it
  refine Ends.of_run (Ends.after_always _ fun made => ?_) hclaimed
  cases made with
  | error e => exact accepted_throw (failCreate_accepted _ _ e)
  | ok spec =>
    dsimp only
    split
    · exact commit_accepted _ _ _ _
    · exact accepted_throw (failCreate_accepted _ _ _)

/-- No create is refused on account of a well-formed owner. -/
theorem create_accepted {request : InstanceConfiguration} {r : Except CatalogError Specification}
    (unowned : Unowned settings l)
    (wellFormed : ∀ principal, ownerOf request = some principal → principal.validate = .ok ())
    (run : Runs (Serves inFiles types) (create settings name request).run l xs r l') :
    Accepted r := by
  by_cases valid : InstanceName.isValid name = true
  · have checked : checkCreate settings name request = .ok (ownerOf request) :=
      checkCreate_of_recordable valid fun principal howner =>
        validate_entity (wellFormed principal howner)
    rw [create_run checked] at run
    obtain ⟨granted, l₁, _, answered, hrest, rfl⟩ := run.call_inv
    obtain rfl : l₁ = l := answered
    cases granted with
    | false =>
      obtain ⟨-, rfl, -⟩ := hrest.done_inv
      exact accepted_error rfl
    | true =>
      obtain ⟨_, result, l₂, _, hbody, hreleased, rfl⟩ := Runs.bind_inv hrest
      obtain ⟨_, _, _, -, hdone, rfl⟩ := hreleased.call_inv
      obtain ⟨-, rfl, -⟩ := hdone.done_inv
      exact createReserved_accepted unowned wellFormed hbody
  · have refused : checkCreate settings name request = .error (.invalidName name nameRule) :=
      if_neg valid
    rw [create_run_refused refused] at run
    obtain ⟨-, rfl, -⟩ := run.done_inv
    exact accepted_error rfl

end DatasetCatalog.Lifecycle
