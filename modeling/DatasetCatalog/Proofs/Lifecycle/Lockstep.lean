import DatasetCatalog.Lifecycle.Stores
import DatasetCatalog.Proofs.Lifecycle.Stages
import DatasetCatalog.Proofs.StringMap

/-!
# Coordinators in lockstep

Two coordinators with the same files can differ in what is kept in memory: the tables that the query
engine shows, and what is written down. They answer a program alike that does not look at the tables
(`Lockstep.answer_aloof`), and where they show the same tables they answer every program alike
(`Lockstep.run`).

Here one of them shows some of the tables of the other one, namely those of the instances that both have
created together (`Gateway.only`). A create shows the table of its instance if it succeeds, and no
other program shows one (`shows_create`), so it stays like this.
-/

namespace DatasetCatalog

namespace StringMap

variable {α : Type} {m : StringMap α} {p p' : String → Bool}

theorem find?_filter (key : String) :
    find? key (m.filter fun e => p e.1) = if p key then find? key m else none := by
  induction m with
  | nil => simp [find?]
  | cons e m ih =>
    obtain ⟨k, v⟩ := e
    by_cases same : k = key
    · subst same
      cases passes : p k <;> simp [find?, passes, ih]
    · cases passes : p k <;> simp [find?, passes, ih, same]

theorem Sorted.filter (h : Sorted m) (p : String → Bool) : Sorted (m.filter fun e => p e.1) :=
  List.Pairwise.filter _ h

theorem filter_insert {key : String} (value : α) (sorted : Sorted m)
    (widened : ∀ k, p' k = (p k || decide (key = k))) :
    (insert key value m).filter (fun e => p' e.1) = insert key value (m.filter fun e => p e.1) := by
  refine eq_of_find? ((sorted.insert key value).filter p') ((sorted.filter p).insert key value) ?_
  intro k
  rw [find?_filter, find?_insert, find?_insert, find?_filter, widened]
  by_cases same : key = k <;> simp [same]

theorem filter_erase (key : String) :
    (erase key m).filter (fun e => p e.1) = erase key (m.filter fun e => p e.1) := by
  rw [erase_eq_filter, erase_eq_filter, List.filter_comm]

end StringMap

/-! ### Tables of some instances -/

namespace Gateway

variable {g : Gateway} {name : String} {names : List String}

/-- The query engine works, and its tables are in order. -/
structure Works (g : Gateway) : Prop where
  enabled : g.enabled = true
  exposes : g.failExpose = false
  withdraws : g.failWithdraw = false
  lists : g.failListing = false
  sorted : StringMap.Sorted g.tables

/-- The query engine with the tables of some instances only. -/
def only (names : List String) (g : Gateway) : Gateway :=
  { g with tables := g.tables.filter fun e => (names.map InstanceName.table).contains e.1 }

theorem only_nil (works : g.Works) : g.only [] = {} := by
  obtain ⟨tables, enabled, failExpose, failWithdraw, failListing⟩ := g
  obtain ⟨rfl, rfl, rfl, rfl, -⟩ := works
  simp [only]

theorem Works.expose (h : g.Works) (name : String) : (g.expose name).2.Works := by
  rw [Gateway.expose, if_neg (by simp [h.exposes]), if_pos h.enabled]
  exact ⟨h.enabled, h.exposes, h.withdraws, h.lists, h.sorted.insert _ _⟩

theorem Works.withdraw (h : g.Works) (name : String) : (g.withdraw name).2.Works := by
  rw [Gateway.withdraw, if_neg (by simp [h.withdraws])]
  exact ⟨h.enabled, h.exposes, h.withdraws, h.lists, h.sorted.erase _⟩

theorem only_expose (works : g.Works) :
    (g.only names).expose name =
      ((g.expose name).1, (g.expose name).2.only (names ++ [name])) := by
  have refused : ¬ g.failExpose = true := by simp [works.exposes]
  have widened (k : String) : ((names ++ [name]).map InstanceName.table).contains k =
      ((names.map InstanceName.table).contains k || decide (InstanceName.table name = k)) := by
    rw [List.map_append, List.contains_append]
    simp [eq_comm]
  have tables := StringMap.filter_insert () works.sorted widened
  rw [Gateway.expose, Gateway.expose, only, if_neg refused, if_neg refused, if_pos works.enabled,
    if_pos works.enabled, ← tables]
  rfl

theorem only_withdraw (works : g.Works) :
    (g.only names).withdraw name = ((g.withdraw name).1, (g.withdraw name).2.only names) := by
  have refused : ¬ g.failWithdraw = true := by simp [works.withdraws]
  have tables := StringMap.filter_erase (m := g.tables) (InstanceName.table name)
    (p := (names.map InstanceName.table).contains)
  rw [Gateway.withdraw, Gateway.withdraw, only, if_neg refused, if_neg refused, ← tables]
  rfl

end Gateway

/-! ### Calls -/

namespace Lifecycle

open Program

/-- Calls that have nothing to do with the query engine. -/
def isAloof : Call → Bool
  | .expose _ | .withdraw _ | .exposedTables => false
  | _ => true

/-- Coordinators that differ in what is written down, and in the tables as `view` says. -/
def Lockstep (view : Gateway → Gateway) (x y : Reservations × Stores) : Prop :=
  ∃ audit metrics, y = (x.1, { x.2 with gateway := view x.2.gateway, audit, metrics })

namespace Lockstep

variable {view view' : Gateway → Gateway} {x y z : Reservations × Stores} {c : Call}

theorem refl (x : Reservations × Stores) : Lockstep id x x := ⟨_, _, rfl⟩

theorem symm (h : Lockstep id x y) : Lockstep id y x := by
  obtain ⟨audit, metrics, rfl⟩ := h
  exact ⟨_, _, rfl⟩

theorem trans (h : Lockstep view x y) (h' : Lockstep view' y z) :
    Lockstep (fun g => view' (view g)) x z := by
  obtain ⟨_, _, rfl⟩ := h
  obtain ⟨audit, metrics, rfl⟩ := h'
  exact ⟨audit, metrics, rfl⟩

theorem gateway (h : Lockstep view x y) : y.2.gateway = view x.2.gateway := by
  obtain ⟨audit, metrics, rfl⟩ := h
  rfl

/-- They are in lockstep as well if the first one has the tables of the other one. -/
theorem viewed (h : Lockstep view x y) :
    Lockstep id (x.1, { x.2 with gateway := view x.2.gateway }) y := h

/-- The calls that have nothing to do with the query engine are answered alike. -/
theorem answer_aloof (h : Lockstep view x y) (aloof : isAloof c = true) :
    (Stores.answer c y).1 = (Stores.answer c x).1 ∧
      Lockstep view (Stores.answer c x).2 (Stores.answer c y).2 ∧
      (Stores.answer c x).2.2.gateway = x.2.gateway := by
  obtain ⟨rs, types, instances, owners, storage, gateway, disk, audit, metrics⟩ := x
  obtain ⟨audit', metrics', rfl⟩ := h
  cases c with
  | expose name | withdraw name | exposedTables => cases aloof
  | _ => exact ⟨rfl, ⟨_, _, rfl⟩, rfl⟩

/-- If the tables are the same, then all calls are. -/
theorem answer (h : Lockstep id x y) (c : Call) :
    (Stores.answer c y).1 = (Stores.answer c x).1 ∧
      Lockstep id (Stores.answer c x).2 (Stores.answer c y).2 := by
  obtain ⟨rs, types, instances, owners, storage, gateway, disk, audit, metrics⟩ := x
  obtain ⟨audit', metrics', rfl⟩ := h
  cases c <;> exact ⟨rfl, _, _, rfl⟩

variable {names : List String}

theorem answer_expose (h : Lockstep (Gateway.only names) x y) (works : x.2.gateway.Works)
    (name : String) :
    (Stores.answer (.expose name) y).1 = (Stores.answer (.expose name) x).1 ∧
      Lockstep (Gateway.only (names ++ [name])) (Stores.answer (.expose name) x).2
        (Stores.answer (.expose name) y).2 ∧
      (Stores.answer (.expose name) x).2.2.gateway = (x.2.gateway.expose name).2 := by
  obtain ⟨rs, s⟩ := x
  obtain ⟨audit, metrics, rfl⟩ := h
  have shown (s : Stores) : Stores.answer (.expose name) (rs, s) =
      ((s.gateway.expose name).1, rs, { s with gateway := (s.gateway.expose name).2 }) := rfl
  rw [shown, shown, Gateway.only_expose works]
  exact ⟨rfl, ⟨_, _, rfl⟩, rfl⟩

theorem answer_withdraw (h : Lockstep (Gateway.only names) x y) (works : x.2.gateway.Works)
    (name : String) :
    (Stores.answer (.withdraw name) y).1 = (Stores.answer (.withdraw name) x).1 ∧
      Lockstep (Gateway.only names) (Stores.answer (.withdraw name) x).2
        (Stores.answer (.withdraw name) y).2 ∧
      (Stores.answer (.withdraw name) x).2.2.gateway = (x.2.gateway.withdraw name).2 := by
  obtain ⟨rs, s⟩ := x
  obtain ⟨audit, metrics, rfl⟩ := h
  have hidden (s : Stores) : Stores.answer (.withdraw name) (rs, s) =
      ((s.gateway.withdraw name).1, rs, { s with gateway := (s.gateway.withdraw name).2 }) := rfl
  rw [hidden, hidden, Gateway.only_withdraw works]
  exact ⟨rfl, ⟨_, _, rfl⟩, rfl⟩

end Lockstep

/-! ### Programs that do not look at the tables -/

variable {α : Type} {settings : Settings} {name : String}

/-- Calls that neither show a table nor ask for the tables. -/
def isBlind : Call → Bool
  | .expose _ | .exposedTables => false
  | _ => true

/-- The program neither shows a table nor asks for the tables. -/
abbrev Blind (p : Program α) : Prop := p.Only (isBlind · = true)

theorem blind_ask {c : Call} (h : isBlind c = true) : Blind (ask c) := only_ask h

theorem blind_of_prepares {p : Program α} (h : Prepares p) : Blind p := by
  refine h.mono fun c prepares => ?_
  cases c with
  | expose | exposedTables => cases prepares
  | _ => rfl

theorem blind_of_storageWork {p : Program α} (h : StorageWork p) : Blind p :=
  blind_of_prepares (prepares_of_storageWork h)

theorem blind_tolerate {operation : String} (r : Except ExploreError Unit) :
    Blind (tolerate name operation r) := by
  cases r with
  | ok u => exact trivial
  | error e => exact (blind_ask rfl).bind fun _ => blind_ask rfl

theorem blind_typeOf (spec : Specification) : Blind (typeOf spec).run := by
  refine only_bind (only_ofRegistry (blind_ask rfl)) fun found => ?_
  cases found <;> exact trivial

theorem blind_dropStorage (spec : Specification) (typeMeta : TypeMeta) :
    Blind (dropStorage settings spec typeMeta).run := by
  refine only_bind (only_always (blind_of_storageWork (storageWork_perform _))) fun dropped => ?_
  cases dropped with
  | ok u => exact only_always (blind_ask rfl)
  | error e => exact only_bind (only_always (blind_ask rfl)) fun _ => trivial

theorem blind_dropFound (spec : Specification) : Blind (dropFound settings spec).run := by
  refine only_bind (blind_typeOf spec) fun typeMeta => ?_
  refine only_bind (only_always ((blind_ask rfl).bind fun _ => blind_tolerate _)) fun _ => ?_
  refine only_bind (only_ofRegistry (blind_ask rfl)) fun there => ?_
  cases there with
  | false => exact trivial
  | true =>
    refine only_bind (only_always (blind_ask rfl)) fun _ => ?_
    exact only_bind (x := discard (always (removeOwner (settings.entity spec.name))))
      ⟨rfl, fun _ => trivial⟩ fun _ => blind_dropStorage _ _

theorem blind_dropInstance : Blind (dropInstance settings name).run := by
  unfold dropInstance
  split
  · refine only_bind (only_ofRegistry (blind_ask rfl)) fun found => ?_
    cases found with
    | none => exact trivial
    | some spec => exact blind_dropFound spec
  · exact trivial

theorem blind_dropEach (specs : List Specification) (t : Tally) :
    Blind (dropEach settings t specs) := by
  induction specs generalizing t with
  | nil => exact trivial
  | cons spec rest ih => exact (blind_dropFound spec).bind fun _ => ih _

theorem blind_dropAll : Blind (dropAll settings).run := by
  unfold dropAll
  split
  · refine only_bind (only_ofRegistry (blind_ask rfl)) fun specs => ?_
    refine only_bind (only_always (blind_dropEach specs {})) fun t => ?_
    refine only_bind (only_always (blind_ask rfl)) fun _ => ?_
    split <;> exact trivial
  · exact only_bind (only_always (blind_ask rfl)) fun _ => trivial

theorem storageWork_performAdmin (operation : AdminOperation) :
    StorageWork (performAdmin settings name operation) := by
  cases operation <;> exact (storageWork_perform _).bind fun _ => trivial

theorem blind_admin (method : String) : Blind (admin settings name method).run := by
  unfold admin
  cases adminOperation name method with
  | error e => exact trivial
  | ok operation =>
    refine only_bind (x := ExceptT.mk (pure (.ok operation))) trivial fun operation => ?_
    split
    · refine only_bind (only_always (blind_of_storageWork (storageWork_performAdmin operation)))
        fun result => ?_
      rcases result with e | value
      · cases e with
        | notFound missing => exact trivial
        | _ => exact only_bind (only_always (blind_ask rfl)) fun _ => trivial
      · exact trivial
    · exact trivial

theorem blind_get : Blind (get settings name).run := by
  unfold get
  split
  · refine only_bind (only_ofRegistry (blind_ask rfl)) fun found => ?_
    cases found with
    | none => exact trivial
    | some spec =>
      refine only_bind (only_ofRegistry (blind_ask rfl)) fun typed => ?_
      refine only_bind ?_ fun owner => trivial
      exact (blind_ask rfl).bind fun _ => trivial
  · exact trivial

/-- The entries of a listing need nothing but types. -/
theorem only_entries {P : Call → Prop} (types : ∀ typeName, P (.findType typeName))
    (options : ListOptions) (specs : List Specification) :
    (specs.mapM options.entry).run.Only P := by
  induction specs with
  | nil => exact trivial
  | cons spec rest ih =>
    rw [List.mapM_cons]
    refine only_bind ?_ fun _ => only_bind ih fun _ => trivial
    unfold ListOptions.entry
    split
    · exact only_bind (only_ofRegistry (only_ask (types _))) fun _ => trivial
    · exact trivial

/-- A listing of all instances does not ask for the tables. -/
theorem blind_list {options : ListOptions} (unfiltered : options.explorable = none) :
    Blind (list options).run := by
  refine only_bind (only_ofRegistry (blind_ask rfl)) fun specs => ?_
  rw [unfiltered]
  exact only_entries (fun _ => rfl) options _

/-! ### Creates -/

/-- The tables that a program shows, by the names of their instances. -/
inductive Shows : Moves (List String)
  | blind (names : List String) {c : Call} (a : c.Answer) (h : isBlind c = true) :
      Shows names c a names
  | shown (names : List String) (name : String) (a : Except ExploreError Unit) :
      Shows names (.expose name) a (names ++ [name])

variable {names : List String}

theorem shows_blind {p : Program α} (h : Blind p) {Q : α → List String → Prop}
    (hQ : ∀ a, Q a names) : Tracks Shows names p Q :=
  Tracks.of_only (fun _ blind a => .blind names a blind) h hQ

/-- What a create that ends like this has shown. -/
def shownBy : Except CatalogError Specification → List String
  | .ok spec => [spec.name]
  | .error _ => []

/-- A create that ends like this has shown the table of its instance, if it has made one. -/
abbrev ShowsOwn (names : List String) (x : Step Specification) : Prop :=
  Tracks Shows names x.run fun r names' => names' = names ++ shownBy r

theorem shows_refusal (e : CatalogError) : ShowsOwn names (throw e) :=
  (List.append_nil names).symm

theorem shows_failure {p : Program CatalogError} (h : Blind p) :
    ShowsOwn names (always p >>= fun e => throw e) := by
  refine Tracks.always_bind (shows_blind h fun _ => rfl) ?_
  rintro e _ rfl
  exact shows_refusal e

theorem shows_commit (typeName : String) (spec : Specification) (typeMeta : TypeMeta)
    (owner : Option Principal) : ShowsOwn names (commit settings typeName spec typeMeta owner) := by
  refine Tracks.always_bind (shows_blind (blind_ask rfl) fun _ => rfl) ?_
  rintro added _ rfl
  cases added with
  | error e => exact shows_failure (blind_of_prepares (prepares_rollBack _ _ _ _))
  | ok u =>
    refine Tracks.always_bind (Q := fun _ names' => names' = names ++ [spec.name])
      (Tracks.bind (Tracks.ask fun a _ => ⟨_, .shown names spec.name a, rfl⟩) ?_) ?_
    · rintro a _ rfl
      exact shows_blind (blind_tolerate a) fun _ => rfl
    -- the rest is written down and shows nothing
    rintro _ _ rfl
    refine Tracks.always_bind (shows_blind (blind_ask rfl) fun _ => rfl) ?_
    rintro _ _ rfl
    refine Tracks.always_bind (shows_blind (blind_ask rfl) fun _ => rfl) ?_
    rintro _ _ rfl
    exact rfl

theorem shows_createReserved (request : InstanceConfiguration) (owner : Option Principal) :
    ShowsOwn names (createReserved settings name request owner) := by
  have fails (e : StorageError) :
      ShowsOwn names (always (failCreate settings name request.typeName owner e) >>= fun e => throw e) :=
    shows_failure (blind_of_prepares (prepares_failCreate _ _ e))
  refine Tracks.ofRegistry_bind (shows_blind (blind_ask rfl) fun _ => rfl) ?_ ?_
  case refine_2 =>
    rintro e _ rfl
    exact shows_refusal _
  rintro found _ rfl
  cases found with
  | some spec => exact shows_refusal _
  | none =>
    refine Tracks.ofRegistry_bind (shows_blind (blind_ask rfl) fun _ => rfl) ?_ ?_
    case refine_2 =>
      rintro e _ rfl
      exact shows_refusal _
    rintro typed _ rfl
    cases typed with
    | none => exact shows_refusal _
    | some typeMeta =>
      refine Tracks.step_bind (shows_blind (blind_of_prepares (prepares_claimOwner owner))
        fun _ => rfl) ?_ ?_
      case refine_2 =>
        rintro e _ rfl
        exact shows_refusal e
      rintro _ _ rfl
      refine Tracks.always_bind (shows_blind (blind_of_storageWork (storageWork_createStorage _))
        fun _ => rfl) ?_
      rintro made _ rfl
      cases made with
      | error e => exact fails e
      | ok spec =>
        dsimp only
        split
        · exact shows_commit _ _ _ _
        · exact fails _

/-- A create shows the table of its instance if it succeeds, and else nothing. -/
theorem shows_create (request : InstanceConfiguration) :
    ShowsOwn names (create settings name request) := by
  cases checked : checkCreate settings name request with
  | error e =>
    rw [ShowsOwn, create_run_refused checked]
    exact shows_refusal e
  | ok owner =>
    rw [ShowsOwn, create_run checked]
    intro granted _
    refine ⟨names, .blind names granted rfl, ?_⟩
    cases granted with
    | false => exact shows_refusal _
    | true =>
      refine Tracks.bind (shows_createReserved request owner) ?_
      rintro r _ rfl
      exact fun a _ => ⟨_, .blind _ a rfl, rfl⟩

/-! ### Runs -/

/-- A program that does not look at the tables runs alike for two coordinators of whom one shows some of
the tables that the other one shows, and those of which both have shown the instance meanwhile. -/
theorem Lockstep.run_shows {p : Program α} {Q : α → List String → Prop}
    {x y : Reservations × Stores} (h : Lockstep (Gateway.only names) x y)
    (works : x.2.gateway.Works) (shows : Tracks Shows names p Q) :
    (p.run Stores.answer y).1 = (p.run Stores.answer x).1 ∧
      ∃ names', Q (p.run Stores.answer x).1 names' ∧
        Lockstep (Gateway.only names') (p.run Stores.answer x).2 (p.run Stores.answer y).2 ∧
        (p.run Stores.answer x).2.2.gateway.Works := by
  refine shows.run_alike (I := fun names x y =>
    Lockstep (Gateway.only names) x y ∧ x.2.gateway.Works) ⟨h, works⟩ ?_
  rintro names c x y names' ⟨h, works⟩ move
  cases move with
  | shown _ name a =>
    obtain ⟨same, lockstep, shown⟩ := h.answer_expose works name
    exact ⟨same, lockstep, shown ▸ works.expose name⟩
  | blind _ a blind =>
    by_cases aloof : isAloof c = true
    · obtain ⟨same, lockstep, kept⟩ := h.answer_aloof aloof
      exact ⟨same, lockstep, kept ▸ works⟩
    · cases c with
      | expose | exposedTables => cases blind
      | withdraw name =>
        obtain ⟨same, lockstep, hidden⟩ := h.answer_withdraw works name
        exact ⟨same, lockstep, hidden ▸ works.withdraw name⟩
      | _ => exact absurd rfl aloof

/-- Coordinators who show the same tables answer every program alike. -/
theorem Lockstep.run {x y : Reservations × Stores} (h : Lockstep id x y) (p : Program α) :
    (p.run Stores.answer y).1 = (p.run Stores.answer x).1 :=
  ((Tracks.free p).run_alike (I := fun _ x y => Lockstep id x y) h
    fun lockstep _ => lockstep.answer _).1

/-! ### Listings -/

/-- Calls that leave everything as it is but for what is written down. -/
def isPeek : Call → Bool
  | .findType _ | .exposedTables | .record _ | .count _ => true
  | _ => false

/-- The program leaves everything as it is but for what is written down. -/
abbrev Peeks (p : Program α) : Prop := p.Only (isPeek · = true)

theorem run_peeks {p : Program α} (h : Peeks p) (x : Reservations × Stores) :
    Lockstep id x (p.run Stores.answer x).2 := by
  induction p generalizing x with
  | done a => exact .refl x
  | call c next ih =>
    have first : Lockstep id x (Stores.answer c x).2 := by
      cases c with
      | findType | exposedTables | record | count => exact ⟨_, _, rfl⟩
      | _ => cases h.1
    exact first.trans (ih _ (h.2 _) _)

theorem peeks_exposed : Peeks exposed.run := by
  refine only_bind (only_always (only_ask rfl)) fun names => ?_
  cases names with
  | ok names => exact trivial
  | error e => exact only_bind (only_always (only_ask rfl)) fun _ => trivial

/-- A listing has no consequences, whatever it is told about the tables. -/
theorem Lockstep.after_list {view : Gateway → Gateway} {x y : Reservations × Stores}
    (h : Lockstep view x y) (options : ListOptions) :
    Lockstep view ((list options).run.run Stores.answer x).2
      ((list options).run.run Stores.answer y).2 ∧
      ((list options).run.run Stores.answer x).2.2.gateway = x.2.gateway := by
  have listed (x : Reservations × Stores) : Lockstep id (Stores.answer .allInstances x).2
      ((list options).run.run Stores.answer x).2 := by
    rcases answered : Stores.answer .allInstances x with ⟨r, x₁⟩
    have asked : allInstances.run Stores.answer x = (r, x₁) := by
      rw [← answered]
      rfl
    rw [list, run_ofRegistry_bind, Program.run_bind, asked]
    cases r with
    | ok specs =>
      -- once the instances are known a listing only peeks
      have entries (tables : List String) : Peeks ((options.keep tables specs).mapM options.entry).run :=
        only_entries (P := (isPeek · = true)) (fun _ => rfl) options _
      refine run_peeks ?_ x₁
      dsimp only
      split
      · exact only_bind peeks_exposed entries
      · exact entries []
    | error e => exact .refl x₁
  obtain ⟨-, asked, kept⟩ := h.answer_aloof (c := .allInstances) rfl
  exact ⟨(listed x).symm.trans (asked.trans (listed y)), (listed x).gateway.trans kept⟩

end Lifecycle

end DatasetCatalog
