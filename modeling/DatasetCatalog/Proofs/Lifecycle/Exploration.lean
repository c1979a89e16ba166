import DatasetCatalog.Proofs.InstanceName
import DatasetCatalog.Proofs.Lifecycle.Agreement
import DatasetCatalog.Proofs.Lifecycle.Stakes
import DatasetCatalog.Proofs.StringMap

/-!
# Which instances are explorable

The query engine shows an instance under its table name. Points are not allowed in table names and
case does not count, so different instances can have one and the same table: `a.b` and `a_b` do, and
so do `Orders` and `orders`. A create shows the table of its instance and a drop hides it, no matter
whom else it shows.

`explorable_follows_tables` says what a listing of the explorable instances gives after any creates,
drops and resets, one after the other: the instances in the catalog whose table was shown rather than
hidden by the latest operation on that table. As long as no two names share a table these are all
instances; `drop_hides_another` is a case where they are not.

Only the catalog and the tables matter here, so the state is reduced to them (`Showcase`).
-/

namespace DatasetCatalog

/-- The catalog entries, and the tables that the query engine shows. -/
@[ext] structure Showcase where
  catalog : StringMap Specification
  tables : StringMap Unit

namespace Showcase

/-- An instance enters the catalog, and its table is shown. -/
def add (s : Showcase) (spec : Specification) : Showcase where
  catalog := StringMap.insert spec.name spec s.catalog
  tables := StringMap.insert (InstanceName.table spec.name) () s.tables

/-- An instance leaves the catalog, and its table is hidden. -/
def remove (s : Showcase) (name : String) : Showcase where
  catalog := StringMap.erase name s.catalog
  tables := StringMap.erase (InstanceName.table name) s.tables

/-- Instances leave the catalog, and their tables are hidden. -/
def removeAll (s : Showcase) (specs : List Specification) : Showcase :=
  specs.foldl (fun s spec => s.remove spec.name) s

/-- The answers that a call may get where catalog, types and query engine work and storage is dropped
when it is asked to be. An instance may still be refused, and so may everything that a create does
before it adds one. -/
def Permits : Conduct Showcase
  | .findInstance name, s, a, s' => a = .ok (StringMap.find? name s.catalog) ∧ s' = s
  | .allInstances, s, a, s' => a = .ok (StringMap.values s.catalog) ∧ s' = s
  | .addInstance spec, s, a, s' =>
    a = .ok () ∧ s' = { s with catalog := StringMap.insert spec.name spec s.catalog } ∨
      (∃ e, a = .error e) ∧ s' = s
  | .removeInstance name, s, a, s' =>
    a = .ok (StringMap.find? name s.catalog).isSome ∧
      s' = { s with catalog := StringMap.erase name s.catalog }
  | .findType _, s, a, s' => (∃ found, a = .ok found) ∧ s' = s
  | .expose name, s, a, s' =>
    a = .ok () ∧ s' = { s with tables := StringMap.insert (InstanceName.table name) () s.tables }
  | .withdraw name, s, a, s' =>
    a = .ok () ∧ s' = { s with tables := StringMap.erase (InstanceName.table name) s.tables }
  | .exposedTables, s, a, s' => a = .ok (StringMap.keys s.tables) ∧ s' = s
  | .perform (.drop _) _, s, a, s' => a = .ok () ∧ s' = s
  | _, s, _, s' => s' = s

end Showcase

namespace Lifecycle

open Program Showcase

/-! ### What operations do to the tables -/

/-- What an operation has done to a table, if anything: shown or hidden it. Names can share a table. -/
def tableChange (table : String) : Errand × Except CatalogError Unit → Option Bool
  | (.create name _, .ok _) => if InstanceName.table name = table then some true else none
  | (.drop name, .ok _) => if InstanceName.table name = table then some false else none
  | (.dropAll, .ok _) => some false
  | _ => none

/-- Whether the latest operation on a table has shown it. -/
def History.shows (h : History) (table : String) : Bool :=
  (h.findSome? (tableChange table)).getD false

/-- The name that an operation is about, if it creates or drops one. -/
def Errand.subject? : Errand → Option String
  | create name _ | drop name => some name
  | _ => none

/-- No two names that operations were about share a table. -/
def History.Distinct (h : History) : Prop :=
  ∀ x ∈ h, ∀ y ∈ h, ∀ m n, x.1.subject? = some m → y.1.subject? = some n →
    InstanceName.table m = InstanceName.table n → m = n

/-- Operations that can change the catalog. -/
def Errand.Changes : Errand → Prop
  | create .. | drop _ | dropAll => True
  | _ => False

/-- Creates, drops and resets, each of which comes to its end before the next one starts. -/
inductive Succession {σ : Type} (B : Conduct σ) (settings : Settings) (start : σ) :
    History → σ → Prop
  | nothing : Succession B settings start [] start
  | operation {h : History} {s s' : σ} {errand : Errand} {xs : List Exchange}
      {a : Except CatalogError Unit} (earlier : Succession B settings start h s)
      (changes : errand.Changes) (run : Runs B (errand.program settings) s xs a s') :
      Succession B settings start ((errand, a) :: h) s'

section

variable {α : Type} {settings : Settings} {name : String} {request : InstanceConfiguration}
  {s s' : Showcase} {xs : List Exchange}

/-! ### One operation -/

/-- The calls that leave catalog and tables as they are. -/
def isStill : Call → Bool
  | .addInstance _ | .removeInstance _ | .expose _ | .withdraw _ => false
  | _ => true

theorem permits_still {c : Call} {a : c.Answer} (still : isStill c = true)
    (permitted : Permits c s a s') : s' = s := by
  cases c with
  | addInstance | removeInstance | expose | withdraw => cases still
  | findInstance | allInstances | findType | exposedTables => exact permitted.2
  | perform r limit =>
    cases r with
    | drop r => exact permitted.2
    | _ => exact permitted
  | _ => exact permitted

/-- A program that makes still calls only changes nothing. -/
theorem still_inv {p : Program α} {a : α} (still : p.Only (isStill · = true))
    (h : Runs Permits p s xs a s') : s' = s := by
  refine h.invariant (I := (· = s)) still (fun c s₁ a s₂ still permitted same => ?_) rfl
  rw [permits_still still permitted, same]

theorem still_ask {c : Call} (h : isStill c = true) : (ask c).Only (isStill · = true) := only_ask h

theorem still_tolerate {operation : String} (a : Except ExploreError Unit) :
    (tolerate name operation a).Only (isStill · = true) := by
  cases a with
  | ok u => exact trivial
  | error e => exact (still_ask rfl).bind fun _ => still_ask rfl

/-- To prepare an instance, and to take back what was prepared, changes nothing either. -/
theorem prepared_inv {p : Program α} {a : α} (prepares : Prepares p)
    (h : Runs Permits p s xs a s') : s' = s := by
  refine still_inv (prepares.mono fun c prepares => ?_) h
  cases c with
  | addInstance | removeInstance | expose | withdraw => cases prepares
  | _ => rfl

/-- What a create that ends like this has done to catalog and tables. -/
inductive CreateShows (name : String) (s : Showcase) :
    Except CatalogError Specification → Showcase → Prop
  | added {spec : Specification} (named : spec.name = name) :
      CreateShows name s (.ok spec) (s.add spec)
  | refused (e : CatalogError) : CreateShows name s (.error e) s

theorem shown_commit {spec : Specification} {typeMeta : TypeMeta} {typeName : String}
    {owner : Option Principal} {r : Except CatalogError Specification}
    (h : Runs Permits (commit settings typeName spec typeMeta owner).run s xs r s') :
    CreateShows spec.name s r s' := by
  obtain ⟨_, a, s₁, _, hadd, hrest, rfl⟩ := bind_always_inv h
  obtain ⟨rfl, permitted⟩ := hadd.ask_inv
  obtain ⟨rfl, rfl⟩ | ⟨⟨e, rfl⟩, rfl⟩ := permitted
  · obtain ⟨_, _, s₂, _, hshow, hrest, rfl⟩ := bind_always_inv hrest
    obtain ⟨_, a, s₃, _, hexpose, htolerate, rfl⟩ := hshow.bind_inv
    obtain ⟨rfl, -, rfl⟩ := hexpose.ask_inv
    obtain rfl := still_inv (still_tolerate a) htolerate
    -- the rest is written down and changes nothing
    obtain ⟨_, _, s₄, _, hrecord, hrest, rfl⟩ := bind_always_inv hrest
    obtain rfl := still_inv (still_ask rfl) hrecord
    obtain ⟨_, _, s₅, _, hcount, hdone, rfl⟩ := bind_always_inv hrest
    obtain rfl := still_inv (still_ask rfl) hcount
    obtain ⟨-, rfl, rfl⟩ := pure_inv hdone
    exact .added rfl
  · obtain ⟨_, e', s₂, _, hback, hthrow, rfl⟩ := bind_always_inv hrest
    obtain rfl := prepared_inv (prepares_rollBack _ _ _ _) hback
    obtain ⟨-, rfl, rfl⟩ := throw_inv hthrow
    exact .refused e'

theorem shown_failCreate {typeName : String} {owner : Option Principal} {e : StorageError}
    {r : Except CatalogError Specification}
    (h : Runs Permits (ExceptT.run (always (failCreate settings name typeName owner e) >>=
      (throw : CatalogError → Step Specification))) s xs r s') : CreateShows name s r s' := by
  obtain ⟨_, e', s₁, _, hfail, hthrow, rfl⟩ := bind_always_inv h
  obtain rfl := prepared_inv (prepares_failCreate _ _ _) hfail
  obtain ⟨-, rfl, rfl⟩ := throw_inv hthrow
  exact .refused e'

theorem shown_createReserved {owner : Option Principal} {r : Except CatalogError Specification}
    (h : Runs Permits (createReserved settings name request owner).run s xs r s') :
    CreateShows name s r s' := by
  obtain ⟨_, found, s₁, _, hfind, hfound, rfl⟩ | ⟨e, hfind, rfl⟩ := bind_ofRegistry_inv h
  case inr =>
    obtain rfl := still_inv (still_ask rfl) hfind
    exact .refused _
  obtain rfl := still_inv (still_ask rfl) hfind
  cases found with
  | some spec =>
    obtain ⟨-, rfl, rfl⟩ := throw_inv hfound
    exact .refused _
  | none =>
    obtain ⟨_, typed, s₂, _, htype, htyped, rfl⟩ | ⟨e, htype, rfl⟩ := bind_ofRegistry_inv hfound
    case inr =>
      obtain rfl := still_inv (still_ask rfl) htype
      exact .refused _
    obtain rfl := still_inv (still_ask rfl) htype
    cases typed with
    | none =>
      obtain ⟨-, rfl, rfl⟩ := throw_inv htyped
      exact .refused _
    | some typeMeta =>
      obtain ⟨_, _, s₃, _, hclaim, hclaimed, rfl⟩ | ⟨e, hclaim, rfl⟩ := bind_inv htyped
      case inr =>
        obtain rfl := prepared_inv (prepares_claimOwner _) hclaim
        exact .refused _
      obtain rfl := prepared_inv (prepares_claimOwner _) hclaim
      obtain ⟨_, made, s₄, _, hmake, hmade, rfl⟩ := bind_always_inv hclaimed
      obtain rfl := prepared_inv (prepares_of_storageWork (storageWork_createStorage _)) hmake
      cases made with
      | error e => exact shown_failCreate hmade
      | ok spec =>
        dsimp only at hmade
        split at hmade
        · next named =>
          subst named
          exact shown_commit hmade
        · exact shown_failCreate hmade

/-- A create adds its instance and shows its table, or changes nothing. -/
theorem shown_create {r : Except CatalogError Specification}
    (h : Runs Permits (create settings name request).run s xs r s') :
    CreateShows name s r s' ∧ (r.isOk = true → InstanceName.isValid name = true) := by
  cases checked : checkCreate settings name request with
  | error e =>
    rw [create_run_refused checked] at h
    obtain ⟨-, rfl, rfl⟩ := h.done_inv
    exact ⟨.refused e, nofun⟩
  | ok owner =>
    obtain ⟨valid, -⟩ := checkCreate_eq_ok checked
    refine ⟨?_, fun _ => valid⟩
    rw [create_run checked] at h
    obtain ⟨granted, s₁, _, reserved, h, -⟩ := h.call_inv
    obtain rfl : s₁ = s := reserved
    cases granted with
    | false =>
      obtain ⟨-, rfl, rfl⟩ := h.done_inv
      exact .refused _
    | true =>
      obtain ⟨_, r', s₂, _, hbody, hrelease, -⟩ := h.bind_inv
      obtain ⟨_, s₃, _, released, hdone, -⟩ := hrelease.call_inv
      obtain rfl : s₃ = s₂ := released
      obtain ⟨-, rfl, rfl⟩ := hdone.done_inv
      exact shown_createReserved hbody

theorem typeOf_answers {spec : Specification} {r : Except CatalogError TypeMeta}
    (h : Runs Permits (typeOf spec).run s xs r s') : (∃ typeMeta, r = .ok typeMeta) ∧ s' = s := by
  obtain ⟨_, found, s₁, _, hfind, hdone, rfl⟩ | ⟨e, hfind, rfl⟩ := bind_ofRegistry_inv h
  case inr =>
    obtain ⟨-, ⟨found, he⟩, -⟩ := hfind.ask_inv
    cases he
  obtain ⟨-, -, rfl⟩ := hfind.ask_inv
  cases found with
  | some typeMeta =>
    obtain ⟨-, rfl, rfl⟩ := pure_inv hdone
    exact ⟨⟨typeMeta, rfl⟩, rfl⟩
  | none =>
    obtain ⟨-, rfl, rfl⟩ := pure_inv hdone
    exact ⟨⟨_, rfl⟩, rfl⟩

/-- A storage operation changes neither the catalog nor the tables, and a drop of storage succeeds. -/
theorem perform_drop_succeeds {r : Storage.Removal} {a : Except StorageError Unit}
    (h : Runs Permits (perform settings (.drop r)) s xs a s') : a = .ok () ∧ s' = s := by
  refine ⟨?_, prepared_inv (prepares_of_storageWork (storageWork_perform _)) h⟩
  obtain ⟨_, result, s₁, _, hask, hmeasure, rfl⟩ := h.bind_inv
  obtain ⟨-, rfl, -⟩ := hask.ask_inv
  obtain ⟨_, _, s₂, _, -, hdone, rfl⟩ := hmeasure.bind_inv
  exact hdone.done_inv.2.1

theorem dropStorage_succeeds {spec : Specification} {typeMeta : TypeMeta}
    {r : Except CatalogError Unit}
    (h : Runs Permits (dropStorage settings spec typeMeta).run s xs r s') : r = .ok () ∧ s' = s := by
  obtain ⟨_, dropped, s₁, _, hdrop, hrest, rfl⟩ := bind_always_inv h
  obtain ⟨rfl, rfl⟩ := perform_drop_succeeds hdrop
  obtain ⟨_, rfl, hrecord⟩ := always_inv hrest
  obtain rfl := still_inv (still_ask rfl) hrecord
  exact ⟨rfl, rfl⟩

/-- Whether there still is an instance or not, a drop of one that was found takes its entry and hides
its table. -/
theorem dropFound_removes {spec : Specification} {r : Except CatalogError Unit}
    (h : Runs Permits (dropFound settings spec).run s xs r s') :
    (r = .ok () ∨ r = .error (.concurrentlyDropped spec.name) ∧
      StringMap.find? spec.name s.catalog = none) ∧ s' = s.remove spec.name := by
  obtain ⟨_, typeMeta, s₁, _, htype, htyped, rfl⟩ | ⟨e, htype, rfl⟩ := bind_inv h
  case inr =>
    obtain ⟨⟨typeMeta, he⟩, -⟩ := typeOf_answers htype
    cases he
  obtain ⟨-, rfl⟩ := typeOf_answers htype
  obtain ⟨_, _, s₂, _, hhide, hhidden, rfl⟩ := bind_always_inv htyped
  obtain ⟨_, a, s₃, _, hwithdraw, htolerate, rfl⟩ := hhide.bind_inv
  obtain ⟨-, -, rfl⟩ := hwithdraw.ask_inv
  obtain rfl := still_inv (still_tolerate a) htolerate
  obtain ⟨_, there, s₄, _, hremove, hremoved, rfl⟩ | ⟨e, hremove, rfl⟩ :=
    bind_ofRegistry_inv hhidden
  case inr =>
    obtain ⟨-, he, -⟩ := hremove.ask_inv
    cases he
  obtain ⟨-, hthere, rfl⟩ := hremove.ask_inv
  obtain rfl := Except.ok.inj hthere
  cases found : StringMap.find? spec.name s₁.catalog with
  | none =>
    simp only [found] at hremoved
    obtain ⟨-, rfl, rfl⟩ := throw_inv hremoved
    exact ⟨.inr ⟨rfl, rfl⟩, rfl⟩
  | some entry =>
    simp only [found] at hremoved
    obtain ⟨_, _, s₅, _, hcount, hcounted, rfl⟩ := bind_always_inv hremoved
    obtain rfl := still_inv (still_ask rfl) hcount
    obtain ⟨_, _, s₆, _, hdisown, hdisowned, rfl⟩ := bind_discard_always_inv hcounted
    obtain rfl := still_inv (still_ask rfl) hdisown
    obtain ⟨rfl, rfl⟩ := dropStorage_succeeds hdisowned
    exact ⟨.inl rfl, rfl⟩

/-- A drop takes the entry of the instance and hides its table, or changes nothing. -/
theorem dropInstance_removes {r : Except CatalogError Unit}
    (named : ∀ spec, StringMap.find? name s.catalog = some spec → spec.name = name)
    (h : Runs Permits (dropInstance settings name).run s xs r s') :
    r = .ok () ∧ s' = s.remove name ∨ (∃ e, r = .error e) ∧ s' = s := by
  unfold dropInstance at h
  split at h
  case isFalse =>
    obtain ⟨-, rfl, rfl⟩ := throw_inv h
    exact .inr ⟨⟨_, rfl⟩, rfl⟩
  obtain ⟨_, found, s₁, _, hfind, hfound, rfl⟩ | ⟨e, hfind, rfl⟩ := bind_ofRegistry_inv h
  case inr =>
    obtain ⟨-, he, -⟩ := hfind.ask_inv
    cases he
  obtain ⟨-, answer, rfl⟩ := hfind.ask_inv
  obtain rfl := Except.ok.inj answer
  cases there : StringMap.find? name s₁.catalog with
  | none =>
    simp only [there] at hfound
    obtain ⟨-, rfl, rfl⟩ := throw_inv hfound
    exact .inr ⟨⟨_, rfl⟩, rfl⟩
  | some spec =>
    simp only [there] at hfound
    obtain rfl := named spec there
    obtain ⟨rfl | ⟨-, missing⟩, rfl⟩ := dropFound_removes hfound
    · exact .inl ⟨rfl, rfl⟩
    · cases missing.symm.trans there

theorem dropEach_removes (specs : List Specification) {t t' : Tally}
    (h : Runs Permits (dropEach settings t specs) s xs t' s') :
    t'.failed = t.failed ∧ s' = s.removeAll specs := by
  induction specs generalizing t s xs with
  | nil =>
    obtain ⟨-, rfl, rfl⟩ := h.done_inv
    exact ⟨rfl, rfl⟩
  | cons spec rest ih =>
    obtain ⟨_, result, s₁, _, hdrop, hrest, rfl⟩ := h.bind_inv
    obtain ⟨outcome, rfl⟩ := dropFound_removes hdrop
    obtain ⟨failed, rfl⟩ := ih hrest
    refine ⟨failed.trans ?_, rfl⟩
    obtain rfl | ⟨rfl, -⟩ := outcome <;> rfl

/-- A reset takes all instances, or changes nothing because it is not allowed. -/
theorem dropAll_removes {r : Except CatalogError DropReport}
    (h : Runs Permits (dropAll settings).run s xs r s') :
    (∃ report, r = .ok report) ∧ s' = s.removeAll (StringMap.values s.catalog) ∨
      (∃ e, r = .error e) ∧ s' = s := by
  unfold dropAll at h
  split at h
  · obtain ⟨_, specs, s₁, _, hall, hlisted, rfl⟩ | ⟨e, hall, rfl⟩ := bind_ofRegistry_inv h
    case inr =>
      obtain ⟨-, he, -⟩ := hall.ask_inv
      cases he
    obtain ⟨-, answer, rfl⟩ := hall.ask_inv
    obtain rfl := Except.ok.inj answer
    obtain ⟨_, t, s₂, _, hdrops, hdropped, rfl⟩ := bind_always_inv hlisted
    obtain ⟨failed, rfl⟩ := dropEach_removes _ hdrops
    obtain ⟨_, _, s₃, _, hrecord, hdone, rfl⟩ := bind_always_inv hdropped
    obtain rfl := still_inv (still_ask rfl) hrecord
    have none : t.failed.isEmpty = true := by rw [failed]; rfl
    rw [if_pos none] at hdone
    obtain ⟨-, rfl, rfl⟩ := pure_inv hdone
    exact .inl ⟨⟨_, rfl⟩, rfl⟩
  · obtain ⟨_, _, s₁, _, hrecord, hthrow, rfl⟩ := bind_always_inv h
    obtain rfl := still_inv (still_ask rfl) hrecord
    obtain ⟨-, rfl, rfl⟩ := throw_inv hthrow
    exact .inr ⟨⟨_, rfl⟩, rfl⟩

/-! ### The listing -/

/-- An instance is asked about nothing that could fail. -/
theorem entry_answers {options : ListOptions} {spec : Specification}
    {r : Except CatalogError Listing} (h : Runs Permits (options.entry spec).run s xs r s') :
    (∃ l, r = .ok l ∧ l.spec = spec) ∧ s' = s := by
  unfold ListOptions.entry at h
  split at h
  · obtain ⟨_, typed, s₁, _, htype, hdone, rfl⟩ | ⟨e, htype, rfl⟩ := bind_ofRegistry_inv h
    case inr =>
      obtain ⟨-, ⟨found, he⟩, -⟩ := htype.ask_inv
      cases he
    obtain ⟨-, -, rfl⟩ := htype.ask_inv
    obtain ⟨-, rfl, rfl⟩ := pure_inv hdone
    exact ⟨⟨_, rfl, rfl⟩, rfl⟩
  · obtain ⟨-, rfl, rfl⟩ := pure_inv h
    exact ⟨⟨_, rfl, rfl⟩, rfl⟩

theorem entries_answer {options : ListOptions} (specs : List Specification)
    {r : Except CatalogError (List Listing)}
    (h : Runs Permits (specs.mapM options.entry).run s xs r s') :
    ∃ ls, r = .ok ls ∧ ls.map Listing.spec = specs := by
  induction specs generalizing s s' xs r with
  | nil =>
    obtain ⟨-, rfl, rfl⟩ := pure_inv h
    exact ⟨[], rfl, rfl⟩
  | cons spec rest ih =>
    rw [List.mapM_cons] at h
    obtain ⟨_, l, s₁, _, hentry, hrest, rfl⟩ | ⟨e, hentry, rfl⟩ := bind_inv h
    case inr =>
      obtain ⟨⟨l, he, -⟩, -⟩ := entry_answers hentry
      cases he
    obtain ⟨⟨_, hl, about⟩, rfl⟩ := entry_answers hentry
    cases hl
    obtain ⟨_, ls, s₂, _, hentries, hdone, rfl⟩ | ⟨e, hentries, rfl⟩ := bind_inv hrest
    case inr =>
      obtain ⟨ls, he, -⟩ := ih hentries
      cases he
    obtain ⟨_, hls, abouts⟩ := ih hentries
    cases hls
    obtain ⟨-, rfl, rfl⟩ := pure_inv hdone
    exact ⟨_, rfl, by rw [List.map_cons, about, abouts]⟩

theorem exposed_answers {r : Except CatalogError (List String)}
    (h : Runs Permits exposed.run s xs r s') :
    r = .ok ((StringMap.keys s.tables).map Casing.lower) ∧ s' = s := by
  obtain ⟨_, names, s₁, _, hask, hdone, rfl⟩ := bind_always_inv h
  obtain ⟨-, rfl, rfl⟩ := hask.ask_inv
  obtain ⟨-, rfl, rfl⟩ := pure_inv hdone
  exact ⟨rfl, rfl⟩

/-- The listing of the explorable instances gives those in the catalog whose table is shown. -/
theorem list_answers {options : ListOptions} (explorable : options.explorable = some true)
    (low : ∀ table, StringMap.contains table s.tables = true → Casing.lower table = table)
    {r : Except CatalogError (List Listing)} (h : Runs Permits (list options).run s xs r s') :
    ∃ ls, r = .ok ls ∧ ls.map Listing.spec = (StringMap.values s.catalog).filter
      fun spec => StringMap.contains (InstanceName.table spec.name) s.tables := by
  have same : (StringMap.keys s.tables).map Casing.lower = StringMap.keys s.tables := by
    refine (List.map_congr_left fun table there => ?_).trans (List.map_id _)
    exact low table (StringMap.contains_iff_mem_keys.2 there)
  obtain ⟨_, specs, s₁, _, hall, hlisted, rfl⟩ | ⟨e, hall, rfl⟩ := bind_ofRegistry_inv h
  case inr =>
    obtain ⟨-, he, -⟩ := hall.ask_inv
    cases he
  obtain ⟨-, answer, rfl⟩ := hall.ask_inv
  obtain rfl := Except.ok.inj answer
  rw [explorable] at hlisted
  obtain ⟨_, tables, s₂, _, hexposed, hentries, rfl⟩ | ⟨e, hexposed, rfl⟩ := bind_inv hlisted
  case inr =>
    obtain ⟨he, -⟩ := exposed_answers hexposed
    cases he
  obtain ⟨answer, -⟩ := exposed_answers hexposed
  obtain rfl := Except.ok.inj answer
  obtain ⟨ls, rfl, about⟩ := entries_answer _ hentries
  refine ⟨ls, rfl, about.trans ?_⟩
  rw [ListOptions.keep, explorable, same]
  refine List.filter_congr fun spec _ => ?_
  rw [Bool.eq_iff_iff, StringMap.contains_iff_mem_keys]
  simp [isExposedIn]

/-! ### All operations -/

theorem contains_add (s : Showcase) (spec : Specification) (table : String) :
    StringMap.contains table (s.add spec).tables =
      (if InstanceName.table spec.name = table then true else StringMap.contains table s.tables) := by
  rw [StringMap.contains, add, StringMap.find?_insert]
  split <;> rfl

theorem contains_remove (s : Showcase) (name table : String) :
    StringMap.contains table (s.remove name).tables =
      (if InstanceName.table name = table then false else StringMap.contains table s.tables) := by
  rw [StringMap.contains, remove, StringMap.find?_erase]
  split <;> rfl

theorem find?_add (s : Showcase) (spec : Specification) (n : String) :
    StringMap.find? n (s.add spec).catalog =
      if spec.name = n then some spec else StringMap.find? n s.catalog :=
  StringMap.find?_insert _ _ _ _

theorem find?_remove (s : Showcase) (name n : String) :
    StringMap.find? n (s.remove name).catalog =
      if name = n then none else StringMap.find? n s.catalog :=
  StringMap.find?_erase _ _ _

/-- What is left was there before, and is not about an instance that was removed. -/
theorem found_removeAll {specs : List Specification} {n : String} {entry : Specification}
    (h : StringMap.find? n (s.removeAll specs).catalog = some entry) :
    StringMap.find? n s.catalog = some entry ∧ ∀ spec ∈ specs, spec.name ≠ n := by
  induction specs generalizing s with
  | nil => exact ⟨h, by simp⟩
  | cons spec rest ih =>
    obtain ⟨there, others⟩ := ih h
    rw [find?_remove, Option.ite_none_left_eq_some] at there
    refine ⟨there.2, fun other hother => ?_⟩
    obtain rfl | hother := List.mem_cons.1 hother
    · exact there.1
    · exact others other hother

theorem sorted_removeAll (specs : List Specification) (sorted : StringMap.Sorted s.catalog) :
    StringMap.Sorted (s.removeAll specs).catalog := by
  induction specs generalizing s with
  | nil => exact sorted
  | cons spec rest ih => exact ih (sorted.erase spec.name)

theorem contains_removeAll {specs : List Specification} {table : String}
    (h : StringMap.contains table (s.removeAll specs).tables = true) :
    StringMap.contains table s.tables = true ∧
      ∀ spec ∈ specs, InstanceName.table spec.name ≠ table := by
  induction specs generalizing s with
  | nil => exact ⟨h, by simp⟩
  | cons spec rest ih =>
    obtain ⟨there, others⟩ := ih h
    rw [contains_remove] at there
    split at there
    · cases there
    · next different =>
      refine ⟨there, fun other hother => ?_⟩
      obtain rfl | hother := List.mem_cons.1 hother
      · exact different
      · exact others other hother

theorem shows_cons (x : Errand × Except CatalogError Unit) (h : History) (table : String) :
    History.shows (x :: h) table = (tableChange table x).getD (h.shows table) := by
  rw [History.shows, List.findSome?_cons]
  cases tableChange table x <;> rfl

theorem History.Distinct.tail {x : Errand × Except CatalogError Unit} {h : History}
    (distinct : History.Distinct (x :: h)) : h.Distinct := by
  intro y hy z hz
  exact distinct y (List.mem_cons_of_mem _ hy) z (List.mem_cons_of_mem _ hz)

/-- What holds of catalog and tables after a history of operations. -/
structure Kept (h : History) (s : Showcase) : Prop where
  sorted : StringMap.Sorted s.catalog
  named : ∀ n spec, StringMap.find? n s.catalog = some spec →
    spec.name = n ∧ InstanceName.isValid n = true ∧ ∃ x ∈ h, x.1.subject? = some n
  shown : ∀ table, StringMap.contains table s.tables = h.shows table
  /-- A table that is shown is that of an instance in the catalog. -/
  owned : ∀ table, StringMap.contains table s.tables = true →
    ∃ n spec, StringMap.find? n s.catalog = some spec ∧ InstanceName.table n = table
  /-- Where no two names share a table, all tables are shown. -/
  complete : h.Distinct → ∀ n spec, StringMap.find? n s.catalog = some spec →
    StringMap.contains (InstanceName.table n) s.tables = true

theorem Kept.start : Kept [] ⟨[], []⟩ where
  sorted := List.Pairwise.nil
  named _ _ found := nomatch found
  shown _ := rfl
  owned _ shown := nomatch shown
  complete _ _ _ found := nomatch found

variable {h : History}

/-- The history goes on, and an instance is still one that it was about. -/
theorem Kept.named_cons {n : String} {spec : Specification} (kept : Kept h s)
    (found : StringMap.find? n s.catalog = some spec) (x : Errand × Except CatalogError Unit) :
    spec.name = n ∧ InstanceName.isValid n = true ∧ ∃ y ∈ x :: h, y.1.subject? = some n := by
  obtain ⟨named, valid, y, hy, about⟩ := kept.named n spec found
  exact ⟨named, valid, y, List.mem_cons_of_mem _ hy, about⟩

/-- An operation that changes nothing. -/
theorem Kept.unchanged {x : Errand × Except CatalogError Unit} (kept : Kept h s)
    (nothing : ∀ table, tableChange table x = none) : Kept (x :: h) s where
  sorted := kept.sorted
  named n spec found := kept.named_cons found x
  shown table := by
    rw [kept.shown, shows_cons, nothing]
    rfl
  owned := kept.owned
  complete distinct := kept.complete distinct.tail

/-- An instance enters the catalog. -/
theorem Kept.add {spec : Specification} (kept : Kept h s) (request : InstanceConfiguration)
    (valid : InstanceName.isValid spec.name = true) :
    Kept ((.create spec.name request, .ok ()) :: h) (s.add spec) where
  sorted := kept.sorted.insert _ _
  named n entry found := by
    rw [find?_add] at found
    split at found
    · next same =>
      cases found
      exact ⟨same, same ▸ valid, _, List.mem_cons_self, congrArg some same⟩
    · exact kept.named_cons found _
  shown table := by
    rw [contains_add, shows_cons, tableChange, kept.shown]
    split <;> rfl
  owned table shown := by
    rw [contains_add] at shown
    split at shown
    · next own => exact ⟨spec.name, spec, by rw [find?_add, if_pos rfl], own⟩
    · next other =>
      obtain ⟨n, entry, found, own⟩ := kept.owned table shown
      refine ⟨n, entry, ?_, own⟩
      rw [find?_add, if_neg, found]
      intro same
      exact other (same ▸ own)
  complete distinct n entry found := by
    rw [contains_add]
    split
    · rfl
    · next other =>
      rw [find?_add] at found
      split at found
      · next same => exact absurd (congrArg InstanceName.table same) other
      · exact kept.complete distinct.tail n entry found

/-- An instance leaves the catalog. -/
theorem Kept.remove (kept : Kept h s) (name : String) :
    Kept ((.drop name, .ok ()) :: h) (s.remove name) where
  sorted := kept.sorted.erase _
  named n entry found := by
    rw [find?_remove, Option.ite_none_left_eq_some] at found
    exact kept.named_cons found.2 _
  shown table := by
    rw [contains_remove, shows_cons, tableChange, kept.shown]
    split <;> rfl
  owned table shown := by
    rw [contains_remove] at shown
    split at shown
    · cases shown
    · next other =>
      obtain ⟨n, entry, found, own⟩ := kept.owned table shown
      refine ⟨n, entry, ?_, own⟩
      rw [find?_remove, if_neg, found]
      intro same
      exact other (same ▸ own)
  complete distinct n entry found := by
    rw [find?_remove, Option.ite_none_left_eq_some] at found
    obtain ⟨different, found⟩ := found
    -- another instance is left, and by assumption it has another table
    obtain ⟨-, -, x, hx, about⟩ := kept.named n entry found
    have other : InstanceName.table name ≠ InstanceName.table n := fun same =>
      different (distinct _ List.mem_cons_self x (List.mem_cons_of_mem _ hx) name n rfl about same)
    rw [contains_remove, if_neg other]
    exact kept.complete distinct.tail n entry found

/-- All instances leave the catalog, and no table is left, because every one is that of an instance. -/
theorem Kept.removeAll (kept : Kept h s) :
    Kept ((.dropAll, .ok ()) :: h) (s.removeAll (StringMap.values s.catalog)) := by
  have listed : ∀ n spec, StringMap.find? n s.catalog = some spec →
      spec ∈ StringMap.values s.catalog ∧ spec.name = n := fun n spec found =>
    ⟨List.mem_map_of_mem (f := Prod.snd) (StringMap.mem_of_find? found), (kept.named n spec found).1⟩
  have nobody : ∀ n spec,
      StringMap.find? n (s.removeAll (StringMap.values s.catalog)).catalog ≠ some spec := by
    intro n spec found
    obtain ⟨there, others⟩ := found_removeAll found
    obtain ⟨mem, named⟩ := listed n spec there
    exact others spec mem named
  have nothing : ∀ table, StringMap.contains table
      (s.removeAll (StringMap.values s.catalog)).tables = false := by
    intro table
    rw [Bool.eq_false_iff]
    intro shown
    obtain ⟨there, others⟩ := contains_removeAll shown
    obtain ⟨n, spec, found, own⟩ := kept.owned table there
    obtain ⟨mem, named⟩ := listed n spec found
    exact others spec mem (named ▸ own)
  refine ⟨sorted_removeAll _ kept.sorted, fun n spec found => absurd found (nobody n spec),
    fun table => ?_, fun table shown => ?_, fun _ n spec found => absurd found (nobody n spec)⟩
  · rw [nothing, shows_cons]
    rfl
  · rw [nothing] at shown
    cases shown

/-- Every operation keeps catalog and tables in line with the history. -/
theorem Kept.operation {errand : Errand} {a : Except CatalogError Unit} (kept : Kept h s)
    (changes : errand.Changes) (run : Runs Permits (errand.program settings) s xs a s') :
    Kept ((errand, a) :: h) s' := by
  cases errand with
  | create name request =>
    obtain ⟨r, hcreate, same⟩ := discard_inv run
    obtain ⟨shown, valid⟩ := shown_create hcreate
    cases shown with
    | added named =>
      subst named
      cases a with
      | ok u => exact kept.add request (valid rfl)
      | error e => cases same
    | refused e =>
      cases a with
      | ok u => cases same
      | error e => exact kept.unchanged fun _ => rfl
  | drop name =>
    obtain ⟨rfl, rfl⟩ | ⟨⟨e, rfl⟩, rfl⟩ :=
      dropInstance_removes (fun spec found => (kept.named name spec found).1) run
    · exact kept.remove name
    · exact kept.unchanged fun _ => rfl
  | dropAll =>
    obtain ⟨r, hdrop, same⟩ := discard_inv run
    obtain ⟨⟨report, rfl⟩, rfl⟩ | ⟨⟨e, rfl⟩, rfl⟩ := dropAll_removes hdrop
    · cases a with
      | ok u => exact kept.removeAll
      | error e => cases same
    · cases a with
      | ok u => cases same
      | error e => exact kept.unchanged fun _ => rfl
  | admin | get | list => exact changes.elim

theorem Kept.low (kept : Kept h s) {table : String}
    (shown : StringMap.contains table s.tables = true) : Casing.lower table = table := by
  obtain ⟨n, spec, found, rfl⟩ := kept.owned table shown
  exact InstanceName.lower_table (kept.named n spec found).2.1

end

section

variable {σ : Type} {B : Conduct σ} {view : σ → Showcase} {settings : Settings} {start s s' : σ}
  {h : History}

/-- Catalog and tables are in line with the history after any operations. -/
theorem Succession.kept (permitted : ∀ c s a s', B c s a s' → Permits c (view s) a (view s'))
    (empty : view start = ⟨[], []⟩) (operations : Succession B settings start h s) :
    Kept h (view s) := by
  induction operations with
  | nothing =>
    rw [empty]
    exact .start
  | operation earlier changes run ih => exact ih.operation changes (run.simulate permitted)

/-- **A listing of the explorable instances follows their tables.** After any creates, drops and resets
one after the other, it gives the instances in the catalog whose table was shown, and not hidden, by
the latest operation on that table. If no two of the names that were created or dropped share a table,
these are all instances in the catalog. -/
theorem explorable_follows_tables
    (permitted : ∀ c s a s', B c s a s' → Permits c (view s) a (view s'))
    (empty : view start = ⟨[], []⟩) (operations : Succession B settings start h s)
    {options : ListOptions} (explorable : options.explorable = some true) {xs : List Exchange}
    {r : Except CatalogError (List Listing)} (listing : Runs B (list options).run s xs r s') :
    ∃ ls, r = .ok ls ∧
      ls.map Listing.spec = (StringMap.values (view s).catalog).filter
        (fun spec => h.shows (InstanceName.table spec.name)) ∧
      (h.Distinct → ls.map Listing.spec = StringMap.values (view s).catalog) := by
  have kept := operations.kept permitted empty
  obtain ⟨ls, rfl, about⟩ := list_answers explorable (fun _ => kept.low) (listing.simulate permitted)
  refine ⟨ls, rfl, about.trans ?_, fun distinct => about.trans ?_⟩
  · exact List.filter_congr fun spec _ => kept.shown _
  · rw [List.filter_eq_self]
    intro spec mem
    obtain ⟨⟨n, _⟩, there, rfl⟩ := List.mem_map.1 mem
    have found := StringMap.find?_of_mem kept.sorted there
    rw [(kept.named n _ found).1]
    exact kept.complete distinct n _ found

end

end Lifecycle

/-! ### Names that share a table -/

/-- The catalog and the tables of an inventory. -/
def Inventory.showcase (s : Inventory) : Showcase := ⟨s.ledger.catalog, s.tables⟩

/-- Where all collaborators work, catalog and tables are as they should be. -/
theorem Inventory.Serves.showcase {maker : Maker} {c : Call} {s s' : Inventory} {a : c.Answer}
    (answered : Serves maker c s a s') : Showcase.Permits c s.showcase a s'.showcase := by
  cases c with
  | addInstance spec =>
    obtain ⟨rfl, rfl⟩ | ⟨failed, rfl⟩ := Lifecycle.serves_addInstance answered
    · exact .inl ⟨rfl, rfl⟩
    · exact .inr ⟨failed, rfl⟩
  | addOwner entity principal =>
    obtain ⟨-, rfl⟩ | ⟨-, rfl⟩ := Lifecycle.serves_addOwner answered <;> rfl
  | findType name =>
    obtain ⟨found, rfl⟩ := answered
    exact ⟨found, rfl⟩
  | perform r limit =>
    cases r with
    | create c => obtain ⟨-, -, -, rfl⟩ | ⟨-, rfl⟩ := Lifecycle.serves_create answered <;> rfl
    | drop r =>
      cases answered
      exact ⟨rfl, rfl⟩
    | _ =>
      cases answered
      rfl
  | findInstance | allInstances | removeInstance | expose | withdraw | exposedTables =>
    cases answered
    exact ⟨rfl, rfl⟩
  | _ =>
    cases answered
    rfl

namespace Lifecycle

open Program

/-- The catalog and the tables of stores that work. -/
def showcase (s : WorkingStores) : Showcase := (Stores.inventory s.1).showcase

theorem workingAnswer_shows (c : Call) (s : WorkingStores) (a : c.Answer) (s' : WorkingStores)
    (answered : Conduct.ofHandler workingAnswer c s a s') :
    Showcase.Permits c (showcase s) a (showcase s') := by
  cases answered
  exact Inventory.Serves.showcase (.of_works (workingConduct_works c s _ _ rfl))

/-- Carries operations out on stores that work, where the last one comes first in the list. -/
def carryOut (settings : Settings) : List Errand → WorkingStores → History × WorkingStores
  | [], s => ([], s)
  | errand :: earlier, s =>
    let (h, s₁) := carryOut settings earlier s
    let (a, s₂) := (errand.program settings).run workingAnswer s₁
    ((errand, a) :: h, s₂)

theorem carryOut_succession (settings : Settings) {errands : List Errand}
    (changes : ∀ errand ∈ errands, errand.Changes) (s : WorkingStores) :
    Succession (.ofHandler workingAnswer) settings s (carryOut settings errands s).1
      (carryOut settings errands s).2 := by
  induction errands with
  | nil => exact .nothing
  | cons errand earlier ih =>
    obtain ⟨xs, run⟩ := runs_ofHandler workingAnswer (errand.program settings)
      (carryOut settings earlier s).2
    exact .operation (ih fun e he => changes e (List.mem_cons_of_mem _ he))
      (changes errand List.mem_cons_self) run

/-- Two of the names share a table, and one of these two is dropped in the end. -/
def overlapping : List Errand :=
  [.drop "a_b", .create "orders" ⟨"table", [], none⟩, .create "a_b" ⟨"table", [], none⟩,
    .create "a.b" ⟨"table", [], none⟩]

theorem overlapping_changes : ∀ errand ∈ overlapping, errand.Changes := by
  simp [overlapping, Errand.Changes]

theorem explorable_in_memory :
    (∀ c s a s', Conduct.ofHandler workingAnswer c s a s' →
        Showcase.Permits c (showcase s) a (showcase s')) ∧
      showcase .fresh = ⟨[], []⟩ ∧
      Succession (.ofHandler workingAnswer) {} .fresh (carryOut {} overlapping .fresh).1
        (carryOut {} overlapping .fresh).2 ∧
      ∃ xs ls s', Runs (.ofHandler workingAnswer) (list { explorable := some true }).run
          (carryOut {} overlapping .fresh).2 xs (.ok ls) s' ∧
        ls.map Listing.spec = [.ofType "orders" "table"] := by
  have operations := carryOut_succession {} overlapping_changes .fresh
  obtain ⟨xs, listing⟩ := runs_ofHandler workingAnswer (list { explorable := some true }).run
    (carryOut {} overlapping .fresh).2
  obtain ⟨ls, answer, about, -⟩ :=
    explorable_follows_tables workingAnswer_shows rfl operations rfl listing
  rw [answer] at listing
  exact ⟨workingAnswer_shows, rfl, operations, xs, ls, _, listing, about.trans rfl⟩

/-- **A drop can hide another instance.** Nothing fails, and all names are valid. `a.b` and `a_b` have
the same table, so that with the drop of `a_b` the instance `a.b`, which stays in the catalog, is not
explorable any more. -/
theorem drop_hides_another :
    (InstanceName.isValid "a.b" && InstanceName.isValid "a_b" &&
        InstanceName.isValid "orders") = true ∧
      Succession (.ofHandler workingAnswer) {} .fresh (carryOut {} overlapping .fresh).1
        (carryOut {} overlapping .fresh).2 ∧
      (∀ x ∈ (carryOut {} overlapping .fresh).1, x.2 = .ok ()) ∧
      StringMap.values (showcase (carryOut {} overlapping .fresh).2).catalog =
        [.ofType "a.b" "table", .ofType "orders" "table"] ∧
      ((list { explorable := some true }).run.run workingAnswer
        (carryOut {} overlapping .fresh).2).1 = .ok [.bare (.ofType "orders" "table")] := by
  refine ⟨by decide +kernel, carryOut_succession {} overlapping_changes .fresh, ?_, rfl, rfl⟩
  have results : (carryOut {} overlapping .fresh).1.map Prod.snd =
      [.ok (), .ok (), .ok (), .ok ()] := rfl
  intro x hx
  have result := List.mem_map_of_mem (f := Prod.snd) hx
  rw [results] at result
  simpa using result

end Lifecycle

end DatasetCatalog
