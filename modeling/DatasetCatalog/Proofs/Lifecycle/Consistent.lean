import DatasetCatalog.Proofs.Lifecycle.AllOrNothing
import DatasetCatalog.Proofs.Lifecycle.Phases
import DatasetCatalog.Proofs.Storage.Site

/-!
# Operations keep catalog, owner records and storage consistent

Whichever collaborators fail on the way, an operation that is alone leaves the stores consistent if it
finds them so: every instance in the catalog has its storage, and the owner records are those that
the creates of these instances named.

In the middle of an operation that need not be so, which is why it is shown for whole operations.
Those that make quiet calls only keep it call by call (`quiet_consistent`). For creates it is read off
their `Outcome`. A drop breaks it for one name from the moment that the entry is gone until the owner
record is, and `Consistent.strike` takes both steps at once.
-/

namespace DatasetCatalog

open Storage

namespace Storage.Backend

/-- What calls may come to, as far as storage is concerned. -/
def Permits (ok : Specification → Prop) : Conduct Site
  | .perform r _, s, a, s' => Acts ok r s a s'
  | _, s, _, s' => s' = s

/-- What a series of requests may come to. -/
inductive Series (ok : Specification → Prop) : Site → List StorageExchange → Site → Prop
  | nil (s : Site) : Series ok s [] s
  | cons {r : Request} {s s₁ s' : Site} {a : Result r} {ops : List StorageExchange}
      (first : Acts ok r s a s₁) (rest : Series ok s₁ ops s') : Series ok s (⟨r, a⟩ :: ops) s'

variable {s s' : Site}

/-- Requests for some instances leave the storage of the others. -/
theorem Series.effect {ops : List StorageExchange} (h : Series Local.SafeParts s ops s')
    (ready : Ready s) : Ready s' ∧ ∀ name spec, (∀ op ∈ ops, op.request.target ≠ name) →
      Settled s name spec → Settled s' name spec := by
  induction h with
  | nil s => exact ⟨ready, fun _ _ _ settled => settled⟩
  | cons first rest ih =>
    have effect := first.effect ready
    obtain ⟨ready', kept⟩ := ih effect.ready
    refine ⟨ready', fun name spec others settled => ?_⟩
    refine kept name spec (fun op hop => others op (List.mem_cons_of_mem _ hop)) ?_
    exact effect.keeps name spec (fun own => absurd own.symm (others _ List.mem_cons_self)) settled

/-- Attempts that succeed have stored what they answer. -/
theorem Series.created {c : Creation} {spec : Specification} {ops : List StorageExchange}
    (h : Series Local.SafeParts s ops s') (attempts : Attempts c ops (.ok spec)) (ready : Ready s) :
    Settled s' c.name spec := by
  cases attempts with
  | once =>
    cases h with
    | cons first rest =>
      cases rest
      exact first.created ready
  | twice =>
    cases h with
    | cons first rest =>
      cases rest with
      | cons second rest =>
        cases rest with
        | cons third rest =>
          cases rest
          exact third.created (second.effect (first.effect ready).ready).ready

end Storage.Backend

namespace Lifecycle

open Program Ledger Storage.Backend

/-- The ledger and the storage. -/
abbrev Holdings := Ledger × Site

/-- What calls may come to where the owner store works and every other collaborator may fail. A
failure of the registry has no effect, and one of the storage only that on its own instance. Which
types there are is open at every call, as types come and go. -/
def Faulty (ok : Specification → Prop) : Conduct Holdings :=
  fun c x a x' => Ledger.Permits c x.1 a x'.1 ∧ Backend.Permits ok c x.2 a x'.2

variable {α : Type} {settings : Settings} {name : String} {ok : Specification → Prop}
  {x x' : Holdings} {xs : List Exchange} {origin : String → Option InstanceConfiguration}

/-- Some answer is always to be expected. -/
theorem faulty_total : (Faulty ok).Total := by
  intro c x
  obtain ⟨a, l', permitted⟩ := permits_total c x.1
  cases c with
  | perform r limit =>
    cases hrun : Backend.perform r x.2 with
    | mk answer s' => exact ⟨answer, (x.1, s'), rfl, .served hrun⟩
  | _ => exact ⟨a, (l', x.2), permitted, rfl⟩

theorem runs_ledger {p : Program α} {a : α} (h : Runs (Faulty ok) p x xs a x') :
    Runs Ledger.Permits p x.1 xs a x'.1 := h.simulate fun _ _ _ _ answered => answered.1

theorem runs_series {p : Program α} {a : α} (h : Runs (Faulty ok) p x xs a x') :
    Series ok x.2 (storageOf xs) x'.2 := by
  induction h with
  | done a x => exact .nil x.2
  | @call c next x x₁ x' a xs b answered _ ih =>
    rw [storageOf_cons]
    have permitted := answered.2
    cases c with
    | perform r limit => exact .cons permitted ih
    | _ =>
      rw [show x₁.2 = x.2 from permitted] at ih
      exact ih

/-! ### The invariant -/

/-- Catalog, owner records and storage agree, where `origin` is the request that made an instance. -/
structure Consistent (settings : Settings) (origin : String → Option InstanceConfiguration)
    (x : Holdings) : Prop where
  ready : Ready x.2
  stored : ∀ name spec, x.1.find? name = some spec → spec.name = name ∧ Settled x.2 name spec
  owned : ∀ name spec, x.1.find? name = some spec → ∃ request, origin name = some request ∧
    x.1.owners (settings.entity name) = ownerOf request
  unowned : ∀ name, x.1.find? name = none → x.1.owners (settings.entity name) = none

/-- A request keeps the storage, unless it makes or removes that of an instance in the catalog. -/
theorem Consistent.acts {l : Ledger} {s s' : Site} {r : Storage.Request} {a : Storage.Result r}
    (h : Consistent settings origin (l, s)) (acts : Acts Storage.Local.SafeParts r s a s')
    (spared : r.remakes = true → l.find? r.target = none) :
    Consistent settings origin (l, s') := by
  have effect := acts.effect h.ready
  refine ⟨effect.ready, fun name spec there => ?_, h.owned, h.unowned⟩
  obtain ⟨named, settled⟩ := h.stored name spec there
  refine ⟨named, effect.keeps name spec (fun own => ?_) settled⟩
  by_contra remakes
  have missing := spared (by simpa using remakes)
  rw [← own, there] at missing
  cases missing

/-- An instance that leaves the catalog together with its owner record leaves the others as they
are. -/
theorem Consistent.strike {l : Ledger} {s : Site} (h : Consistent settings origin (l, s))
    (name : String) :
    Consistent settings origin ((l.strike name).disown (settings.entity name), s) := by
  have remains : ∀ {other spec}, ((l.strike name).disown (settings.entity name)).find? other =
      some spec → name ≠ other ∧ l.find? other = some spec := by
    intro other spec there
    rw [find?_disown, find?_strike] at there
    split at there
    · cases there
    · next hne => exact ⟨hne, there⟩
  refine ⟨h.ready, fun other spec there => ?_, fun other spec there => ?_, fun other missing => ?_⟩
  · exact h.stored other spec (remains there).2
  · obtain ⟨hne, there⟩ := remains there
    obtain ⟨request, made, owner⟩ := h.owned other spec there
    refine ⟨request, made, ?_⟩
    rw [← owner]
    exact Function.update_of_ne (entity_ne hne.symm) _ _
  · by_cases heq : other = name
    · subst heq
      exact Function.update_self _ _ _
    · rw [find?_disown, find?_strike, if_neg (Ne.symm heq)] at missing
      have unowned := h.unowned other missing
      exact (Function.update_of_ne (entity_ne heq) _ _).trans unowned

/-- A name that is not in the catalog can be taken out again. -/
theorem Consistent.strike_missing {l : Ledger} {s : Site} (h : Consistent settings origin (l, s))
    (missing : l.find? name = none) : Consistent settings origin (l.strike name, s) := by
  have same : ∀ other, (l.strike name).find? other = l.find? other := by
    intro other
    rw [find?_strike]
    split
    · next heq => rw [← heq, missing]
    · rfl
  refine ⟨h.ready, fun other spec there => ?_, fun other spec there => ?_, fun other gone => ?_⟩
  · rw [same] at there
    exact h.stored other spec there
  · rw [same] at there
    exact h.owned other spec there
  · rw [same] at gone
    exact h.unowned other gone

/-! ### Operations that make quiet calls -/

theorem Consistent.quiet {c : Call} {a : c.Answer} (h : Consistent settings origin x)
    (answered : Faulty Storage.Local.SafeParts c x a x') (quiet : isQuiet c = true) :
    Consistent settings origin x' := by
  obtain ⟨l, s⟩ := x
  obtain ⟨l', s'⟩ := x'
  obtain ⟨ledger, site⟩ := answered
  cases c with
  | perform r limit =>
    obtain rfl : l' = l := ledger
    refine h.acts site fun remakes => ?_
    cases r with
    | create c => cases quiet
    | drop removal => cases quiet
    | _ => cases remakes
  | findInstance name =>
    cases ledger.2
    cases site
    exact h
  | allInstances =>
    cases ledger.2
    cases site
    exact h
  | findOwner entity =>
    cases ledger.2
    cases site
    exact h
  | findType name | expose name | withdraw name | exposedTables | record event | count reading =>
    cases ledger
    cases site
    exact h
  | _ => cases quiet

theorem quiet_consistent {p : Program α} {a : α} (h : Consistent settings origin x)
    (run : Runs (Faulty Storage.Local.SafeParts) p x xs a x') (quiet : Quiet p) :
    Consistent settings origin x' :=
  run.invariant quiet (fun _ _ _ _ hquiet answered h => h.quiet answered hquiet) h

/-! ### Drops -/

/-- A storage operation, with all that is written down about it. -/
theorem perform_consistent {r : Storage.Request} {a : Storage.Result r}
    (h : Consistent settings origin x)
    (run : Runs (Faulty Storage.Local.SafeParts) (perform settings r) x xs a x')
    (spared : r.remakes = true → x.1.find? r.target = none) : Consistent settings origin x' := by
  obtain ⟨measured, heq, quiet⟩ := perform_eq settings r
  rw [heq] at run
  obtain ⟨_, result, ⟨l₁, s₁⟩, _, hask, hrest, rfl⟩ := run.bind_inv
  obtain ⟨rfl, ledger, site⟩ := hask.ask_inv
  obtain rfl : l₁ = x.1 := ledger
  exact quiet_consistent (h.acts site spared) hrest (quiet result)

theorem dropStorage_consistent {spec : Specification} {typeMeta : TypeMeta}
    {a : Except CatalogError Unit} (h : Consistent settings origin x)
    (run : Runs (Faulty Storage.Local.SafeParts) (dropStorage settings spec typeMeta).run x xs a x')
    (missing : x.1.find? spec.name = none) : Consistent settings origin x' := by
  obtain ⟨_, result, x₁, _, hdrop, hrest, rfl⟩ := bind_always_inv run
  have h₁ := perform_consistent h hdrop fun _ => missing
  refine quiet_consistent h₁ hrest ?_
  cases result with
  | ok u => exact only_always (quiet_ask (by rfl))
  | error e => exact only_bind (only_always (quiet_ask (by rfl))) fun _ => trivial

/-- An entry is removed, or the registry fails. -/
theorem removeInstance_inv {l : Ledger} {s : Site} {a : Except RegistryError Bool}
    (run : Runs (Faulty ok) (removeInstance name) (l, s) xs a x') :
    a = .ok (l.find? name).isSome ∧ x' = (l.strike name, s) ∨
      (∃ e, a = .error e) ∧ x' = (l, s) := by
  obtain ⟨l', s'⟩ := x'
  obtain ⟨rfl, ledger, site⟩ := run.ask_inv
  obtain rfl : s' = s := site
  rcases ledger with answered | ⟨e, rfl, unchanged⟩
  · cases answered
    exact .inl ⟨rfl, rfl⟩
  · obtain rfl : l' = l := unchanged
    exact .inr ⟨⟨e, rfl⟩, rfl⟩

/-- A drop of an instance that was found in the catalog, whether it still is there or not. -/
theorem dropFound_consistent {spec : Specification} {a : Except CatalogError Unit}
    (h : Consistent settings origin x)
    (run : Runs (Faulty Storage.Local.SafeParts) (dropFound settings spec).run x xs a x') :
    Consistent settings origin x' := by
  obtain ⟨_, typeMeta, x₁, _, htype, htyped, rfl⟩ | ⟨e, htype, rfl⟩ := bind_inv run
  case inr => exact quiet_consistent h htype (quiet_typeOf spec)
  have h₁ := quiet_consistent h htype (quiet_typeOf spec)
  obtain ⟨_, _, ⟨l₂, s₂⟩, _, hhide, hidden, rfl⟩ := bind_always_inv htyped
  have h₂ := quiet_consistent h₁ hhide (quiet_hide spec.name)
  obtain ⟨_, there, x₃, _, hremove, hremoved, rfl⟩ | ⟨e, hremove, rfl⟩ :=
    bind_ofRegistry_inv hidden
  case inr =>
    obtain ⟨hok, -⟩ | ⟨-, rfl⟩ := removeInstance_inv hremove
    · cases hok
    · exact h₂
  obtain ⟨hok, rfl⟩ | ⟨⟨e, herror⟩, -⟩ := removeInstance_inv hremove
  case inr => cases herror
  obtain rfl : there = (l₂.find? spec.name).isSome := Except.ok.inj hok
  cases hfound : l₂.find? spec.name with
  | none =>
    simp only [hfound] at hremoved
    obtain ⟨rfl, rfl, rfl⟩ := throw_inv hremoved
    exact h₂.strike_missing hfound
  | some entry =>
    simp only [hfound] at hremoved
    obtain ⟨_, _, ⟨l₄, s₄⟩, _, hcount, hcounted, rfl⟩ := bind_always_inv hremoved
    obtain ⟨rfl, ledger, site⟩ := hcount.ask_inv
    obtain rfl : l₄ = l₂.strike spec.name := ledger
    obtain rfl : s₄ = s₂ := site
    obtain ⟨_, _, ⟨l₅, s₅⟩, _, hdisown, hdisowned, rfl⟩ := bind_discard_always_inv hcounted
    obtain ⟨-, ⟨-, ledger⟩, site⟩ := hdisown.ask_inv
    obtain rfl : l₅ = (l₂.strike spec.name).disown (settings.entity spec.name) := ledger
    obtain rfl : s₅ = s₄ := site
    -- only with the owner record gone as well are the stores consistent again
    refine dropStorage_consistent (h₂.strike spec.name) hdisowned ?_
    rw [find?_disown, find?_strike, if_pos rfl]

theorem dropInstance_consistent {a : Except CatalogError Unit} (h : Consistent settings origin x)
    (run : Runs (Faulty Storage.Local.SafeParts) (dropInstance settings name).run x xs a x') :
    Consistent settings origin x' := by
  unfold dropInstance at run
  split at run
  · obtain ⟨_, found, x₁, _, hfind, hfound, rfl⟩ | ⟨e, hfind, rfl⟩ := bind_ofRegistry_inv run
    case inr => exact quiet_consistent h hfind (quiet_ask (by rfl))
    have h₁ := quiet_consistent h hfind (quiet_ask (by rfl))
    cases found with
    | none =>
      obtain ⟨rfl, rfl, rfl⟩ := throw_inv hfound
      exact h₁
    | some spec => exact dropFound_consistent h₁ hfound
  · obtain ⟨rfl, rfl, rfl⟩ := throw_inv run
    exact h

theorem dropEach_consistent (specs : List Specification) {t t' : Tally}
    (h : Consistent settings origin x)
    (run : Runs (Faulty Storage.Local.SafeParts) (dropEach settings t specs) x xs t' x') :
    Consistent settings origin x' := by
  induction specs generalizing t x xs with
  | nil =>
    obtain ⟨rfl, rfl, rfl⟩ := run.done_inv
    exact h
  | cons spec rest ih =>
    obtain ⟨_, result, x₁, _, hdrop, hrest, rfl⟩ := run.bind_inv
    exact ih (dropFound_consistent h hdrop) hrest

theorem dropAll_consistent {a : Except CatalogError DropReport} (h : Consistent settings origin x)
    (run : Runs (Faulty Storage.Local.SafeParts) (dropAll settings).run x xs a x') :
    Consistent settings origin x' := by
  unfold dropAll at run
  split at run
  · obtain ⟨_, specs, x₁, _, hall, hlisted, rfl⟩ | ⟨e, hall, rfl⟩ := bind_ofRegistry_inv run
    case inr => exact quiet_consistent h hall (quiet_ask (by rfl))
    have h₁ := quiet_consistent h hall (quiet_ask (by rfl))
    obtain ⟨_, t, x₂, _, hdrops, hdropped, rfl⟩ := bind_always_inv hlisted
    have h₂ := dropEach_consistent specs h₁ hdrops
    refine quiet_consistent h₂ hdropped (only_bind (only_always (quiet_ask (by rfl))) fun _ => ?_)
    split <;> exact trivial
  · exact quiet_consistent h run (only_bind (only_always (quiet_ask (by rfl))) fun _ => trivial)

/-! ### Creates -/

/-- Who owns what after an owner was recorded for an entity that had none. -/
theorem owners_claim {l : Ledger} {entity : EntityId} (free : l.owners entity = none)
    (owner : Option Principal) :
    (l.claim entity owner).owners = Function.update l.owners entity owner := by
  cases owner with
  | none => rw [claim, ← free, Function.update_eq_self]
  | some principal => rfl

/-- An instance that enters the catalog with its storage and its owner. -/
theorem Consistent.enter {l : Ledger} {s s' : Site} {spec : Specification}
    (h : Consistent settings origin (l, s)) (request : InstanceConfiguration)
    (free : l.find? name = none) (named : spec.name = name) (ready : Ready s')
    (settled : Settled s' name spec)
    (kept : ∀ other entry, name ≠ other → Settled s other entry → Settled s' other entry) :
    Consistent settings (Function.update origin name (some request))
      ((l.claim (settings.entity name) (ownerOf request)).enter spec, s') := by
  have owners := owners_claim (h.unowned name free) (ownerOf request)
  have found : ∀ other, ((l.claim (settings.entity name) (ownerOf request)).enter spec).find? other =
      if name = other then some spec else l.find? other := by
    intro other
    rw [find?_enter, find?_claim, named]
  refine ⟨ready, fun other entry there => ?_, fun other entry there => ?_, fun other missing => ?_⟩
  · rw [found] at there
    split at there
    · next heq =>
      cases there
      exact heq ▸ ⟨named, settled⟩
    · next hne =>
      obtain ⟨named', settled'⟩ := h.stored other entry there
      exact ⟨named', kept other entry hne settled'⟩
  · rw [found] at there
    rw [owners_enter, owners]
    split at there
    · next heq =>
      subst heq
      exact ⟨request, Function.update_self _ _ _, Function.update_self _ _ _⟩
    · next hne =>
      obtain ⟨request', made, owner'⟩ := h.owned other entry there
      refine ⟨request', ?_, ?_⟩
      · rw [← made]
        exact Function.update_of_ne (Ne.symm hne) _ _
      · rw [← owner']
        exact Function.update_of_ne (entity_ne (Ne.symm hne)) _ _
  · rw [found] at missing
    rw [owners_enter, owners]
    split at missing
    · cases missing
    · next hne =>
      rw [← h.unowned other missing]
      exact Function.update_of_ne (entity_ne (Ne.symm hne)) _ _

/-- A create adds an instance with its storage and its owner, or leaves all instances as they are. -/
theorem create_consistent {request : InstanceConfiguration} {a : Except CatalogError Specification}
    (h : Consistent settings origin x)
    (run : Runs (Faulty Storage.Local.SafeParts) (create settings name request).run x xs a x') :
    Consistent settings
      (if a.isOk then Function.update origin name (some request) else origin) x' := by
  obtain ⟨l, s⟩ := x
  obtain ⟨l', s'⟩ := x'
  -- the outcome speaks of the ledger, the series of what became of the storage on the way
  have series : Series Storage.Local.SafeParts s (storageOf xs) s' := runs_series run
  obtain ⟨owner, outcome, checked⟩ := create_inv (runs_ledger run)
  generalize storageOf xs = ops at series outcome
  obtain ⟨ready, kept⟩ := series.effect h.ready
  cases outcome with
  | failed bounded free =>
    refine ⟨ready, fun other spec there => ?_, h.owned, h.unowned⟩
    obtain ⟨named, settled⟩ := h.stored other spec there
    refine ⟨named, kept other spec (fun op hop heq => ?_) settled⟩
    -- storage was only touched if the name was free, so it is not that of an instance
    have missing := free (List.ne_nil_of_mem hop)
    rw [← (bounded.kinds _ (List.mem_map_of_mem hop)).2, heq, there] at missing
    cases missing
  | created attempts target named free unowned =>
    obtain ⟨-, rfl⟩ := checkCreate_eq_ok (checked _ rfl)
    have bounded := attempts.bounded (.inl rfl)
    have settled := series.created attempts h.ready
    rw [target] at settled
    refine h.enter request free named ready settled fun other entry hne => ?_
    refine kept other entry fun op hop heq => hne ?_
    have own := (bounded.kinds _ (List.mem_append_left _ (List.mem_map_of_mem hop))).2
    rw [← heq, own, target]

/-! ### All operations -/

/-- The requests that made the instances, after one more operation. -/
def Errand.update (origin : String → Option InstanceConfiguration) :
    Errand → Except CatalogError Unit → String → Option InstanceConfiguration
  | create name request, .ok _ => Function.update origin name (some request)
  | _, _ => origin

/-- Every operation keeps the stores consistent. -/
theorem errand_consistent {errand : Errand} {a : Except CatalogError Unit}
    (h : Consistent settings origin x)
    (run : Runs (Faulty Storage.Local.SafeParts) (errand.program settings) x xs a x') :
    Consistent settings (errand.update origin a) x' := by
  cases errand with
  | create name request =>
    obtain ⟨r, hcreate, same⟩ := discard_inv run
    have created := create_consistent h hcreate
    rw [← same] at created
    cases a <;> exact created
  | drop name => exact dropInstance_consistent h run
  | dropAll =>
    obtain ⟨r, hdrop, -⟩ := discard_inv run
    exact dropAll_consistent h hdrop
  | admin name method =>
    obtain ⟨r, hadmin, -⟩ := discard_inv run
    exact quiet_consistent h hadmin (quiet_admin method)
  | get name =>
    obtain ⟨r, hget, -⟩ := discard_inv run
    exact quiet_consistent h hget quiet_get
  | list options =>
    obtain ⟨r, hlist, -⟩ := discard_inv run
    exact quiet_consistent h hlist (quiet_list options)

end Lifecycle

end DatasetCatalog
