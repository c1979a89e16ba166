import DatasetCatalog.Proofs.Lifecycle.Aside
import DatasetCatalog.Proofs.Lifecycle.Memory
import DatasetCatalog.Proofs.Program.Interleaving

/-!
# Concurrent creates of one name have one winner

Any number of creates of one name run side by side on one coordinator, on collaborators that work.
Whoever takes the right to the name first creates the instance, and everybody else is told that it
exists, without having touched storage, owner records or the query engine.

The proof follows the holder of that right. Until somebody has it nothing has happened; while the
winner has it, its calls are those of a create that runs alone (`Contest.running`), because the
others are denied; and once the winner has given it back, the others can still take it in turn, but
find the instance in the catalog (`Contest.settled`).
-/

namespace DatasetCatalog

namespace Lifecycle

open Program Inventory

variable {α ι : Type} {maker : Maker} {settings : Settings} {name : String}
  {request : InstanceConfiguration} {s : Inventory}

/-! ### A create on its own -/

/-- A request that can be met: its type is registered and accepts the properties, and an owner can
be recorded if one is named. -/
structure Acceptable (maker : Maker) (settings : Settings) (name : String) (s : Inventory)
    (request : InstanceConfiguration) : Prop where
  accepted : ∃ typeMeta spec, s.types.find? request.typeName = some typeMeta ∧
    maker.make ⟨name, typeMeta, request.properties⟩ = .ok spec
  owner : ∀ principal, ownerOf request = some principal →
    Owner.validate (settings.entity name) principal = .ok ()

/-- The inventory after an instance was created in it. -/
def created (settings : Settings) (spec : Specification) (owner : Option Principal)
    (s : Inventory) : Inventory :=
  { s with
    ledger := (s.ledger.claim (settings.entity spec.name) owner).enter spec
    stored := Function.update s.stored spec.name (some spec)
    tables := StringMap.insert (InstanceName.table spec.name) () s.tables }

theorem checkCreate_of_acceptable (valid : InstanceName.isValid name = true)
    (h : Acceptable maker settings name s request) :
    checkCreate settings name request = .ok (ownerOf request) :=
  checkCreate_of_recordable valid h.owner

theorem run_perform (r : Storage.Request) :
    (perform settings r).run (answer maker) s = s.perform maker r := by
  have asked : (Program.ask (.perform r settings.operationLimit)).run (answer maker) s =
      s.perform maker r := rfl
  rw [perform, Program.run_bind, asked]
  rcases s.perform maker r with ⟨_ | _, s₁⟩ <;> rfl

theorem run_createStorage (settings : Settings) {c : Storage.Creation} {spec : Specification}
    (stored : s.stored c.name = none) (made : maker.make c = .ok spec) :
    (createStorage settings c).run (answer maker) s =
      (.ok spec, { s with stored := Function.update s.stored c.name (some spec) }) := by
  have performed : s.perform maker (.create c) =
      (.ok spec, { s with stored := Function.update s.stored c.name (some spec) }) := by
    simp [Inventory.perform, stored, made]
  rw [createStorage, Program.run_bind, run_perform, performed]
  rfl

theorem run_commit {typeName : String} {spec : Specification} {typeMeta : TypeMeta}
    {owner : Option Principal} (catalogued : s.ledger.find? spec.name = none) :
    (commit settings typeName spec typeMeta owner).run.run (answer maker) s =
      (.ok spec, { s with
        ledger := s.ledger.enter spec
        tables := StringMap.insert (InstanceName.table spec.name) () s.tables }) := by
  have added : s.ledger.addInstance spec = (.ok (), s.ledger.enter spec) := by
    simp [Ledger.addInstance, catalogued]
  have asked : (always (addInstance spec)).run.run (answer maker) s =
      (.ok (s.ledger.addInstance spec).1, { s with ledger := (s.ledger.addInstance spec).2 }) := rfl
  rw [commit, run_bind_ok asked, added]
  rfl

theorem run_claimOwner (h : Acceptable maker settings name s request)
    (free : s.ledger.owners (settings.entity name) = none) :
    (claimOwner settings name (ownerOf request)).run.run (answer maker) s =
      (.ok (), { s with ledger := s.ledger.claim (settings.entity name) (ownerOf request) }) := by
  cases howner : ownerOf request with
  | none => rfl
  | some principal =>
    have recorded := Ledger.addOwner_of_valid (h.owner principal howner) free
    have : (always (addOwner (settings.entity name) principal)).run.run (answer maker) s =
        (.ok (s.ledger.addOwner (settings.entity name) principal).1,
          { s with ledger := (s.ledger.addOwner (settings.entity name) principal).2 }) := rfl
    rw [claimOwner, run_bind_ok this, recorded]
    rfl

theorem run_createReserved (h : Acceptable maker settings name s request)
    (catalogued : s.ledger.find? name = none)
    (owned : s.ledger.owners (settings.entity name) = none) (stored : s.stored name = none) :
    ∃ spec, spec.name = name ∧
      (createReserved settings name request (ownerOf request)).run.run (answer maker) s =
        (.ok spec, created settings spec (ownerOf request) s) := by
  obtain ⟨typeMeta, spec, typed, made⟩ := h.accepted
  have named : spec.name = name := maker.named made
  refine ⟨spec, named, ?_⟩
  have found : (ofRegistry (findInstance name)).run.run (answer maker) s = (.ok none, s) := by
    rw [← catalogued]
    rfl
  have htyped : (ofRegistry (findType request.typeName)).run.run (answer maker) s =
      (.ok (some typeMeta), s) := by
    rw [← typed]
    rfl
  rw [createReserved, run_bind_ok found]
  dsimp only [Option.isSome]
  rw [if_neg Bool.false_ne_true, run_bind_ok htyped]
  dsimp only
  rw [run_bind_ok (run_claimOwner h owned)]
  have hmade := run_createStorage settings (c := ⟨name, typeMeta, request.properties⟩)
    (s := { s with ledger := s.ledger.claim (settings.entity name) (ownerOf request) }) stored made
  rw [run_bind_ok (run_always hmade)]
  dsimp only
  rw [if_pos named, run_commit (by rw [named, Ledger.find?_claim, catalogued]), created, named]

/-- A create that runs alone, with the right to its name, creates the instance. -/
theorem run_holding {spec : Specification} {body : Program (Except CatalogError Specification)}
    {s' : Inventory} (h : body.run (answer maker) s = (.ok spec, s')) :
    (holding name body).run (answer maker) s =
      (.ok spec, { s' with reserved := s'.reserved.release name }) := by
  rw [holding, Program.run_bind, h]
  rfl

/-! ### The right to a name is kept -/

/-- Calls that take or give back the right to a name. -/
def isReservation : Call → Bool
  | .reserve _ | .release _ => true
  | _ => false

/-- The calls that leave all rights to names as they are. -/
def Keeps (c : Call) : Prop := isReservation c = false

theorem keeps_ask {c : Call} (h : Keeps c) : (ask c).Only Keeps := only_ask h

theorem keeps_of_aside {p : Program α} (h : Aside p) : p.Only Keeps := by
  refine h.mono fun c aside => ?_
  cases c with
  | reserve | release => cases aside
  | _ => rfl

theorem keeps_of_prepares {p : Program α} (h : Prepares p) : p.Only Keeps := by
  refine h.mono fun c prepares => ?_
  cases c with
  | reserve | release => cases prepares
  | _ => rfl

theorem commit_keeps (typeName : String) (spec : Specification) (typeMeta : TypeMeta)
    (owner : Option Principal) :
    (commit settings typeName spec typeMeta owner).run.Only Keeps := by
  refine only_bind (only_always (keeps_ask (by rfl))) fun result => ?_
  cases result with
  | error e =>
    have back : (rollBack settings spec typeMeta owner e).Only Keeps :=
      keeps_of_prepares (prepares_rollBack spec typeMeta owner e)
    exact only_bind (only_always back) fun _ => trivial
  | ok u =>
    refine only_bind (only_always (keeps_of_aside (aside_show spec.name))) fun _ => ?_
    refine only_bind (only_always (keeps_ask (by rfl))) fun _ => ?_
    exact only_bind (only_always (keeps_ask (by rfl))) fun _ => trivial

theorem createReserved_keeps (owner : Option Principal) :
    (createReserved settings name request owner).run.Only Keeps := by
  have fails : ∀ typeName e, (always (failCreate settings name typeName owner e)).run.Only Keeps :=
    fun typeName e => only_always (keeps_of_prepares (prepares_failCreate typeName owner e))
  refine only_bind (only_ofRegistry (keeps_ask (by rfl))) fun found => ?_
  cases found with
  | some spec => exact trivial
  | none =>
    refine only_bind (only_ofRegistry (keeps_ask (by rfl))) fun typed => ?_
    cases typed with
    | none => exact trivial
    | some typeMeta =>
      refine only_bind (keeps_of_prepares (prepares_claimOwner owner)) fun _ => ?_
      have makes : (createStorage settings ⟨name, typeMeta, request.properties⟩).Only Keeps :=
        keeps_of_prepares (prepares_of_storageWork (storageWork_createStorage _))
      refine only_bind (only_always makes) fun made => ?_
      cases made with
      | error e => exact only_bind (fails _ _) fun _ => trivial
      | ok spec =>
        dsimp only
        split
        · exact commit_keeps _ _ _ _
        · exact only_bind (fails _ _) fun _ => trivial

/-! ### The others -/

/-- Calls to the storage, the owner store and the query engine. -/
def isOutward : Call → Bool
  | .perform .. | .addOwner .. | .findOwner _ | .removeOwner _ | .expose _ | .withdraw _
  | .exposedTables => true
  | _ => false

/-- What a create of a name that somebody else creates first can be about to do, and whether it
holds the right to the name meanwhile. -/
inductive Loser (settings : Settings) (name : String) (request : InstanceConfiguration) :
    Bool → Program (Except CatalogError Specification) → Prop
  | waiting : Loser settings name request false (create settings name request).run
  | denied : Loser settings name request false (.done (.error (.instanceExists name)))
  | looking : Loser settings name request true
      (holding name (createReserved settings name request (ownerOf request)).run)
  | leaving : Loser settings name request true
      (holding name (.done (.error (.instanceExists name))))

theorem Loser.of_done {b : Bool} {r : Except CatalogError Specification}
    (checked : checkCreate settings name request = .ok (ownerOf request))
    (h : Loser settings name request b (.done r)) :
    b = false ∧ r = .error (.instanceExists name) := by
  generalize hp : Program.done r = p at h
  cases h with
  | waiting =>
    rw [create_run checked] at hp
    cases hp
  | denied =>
    cases hp
    exact ⟨rfl, rfl⟩
  | looking => exact absurd hp.symm (holding_ne_done _ _)
  | leaving => exact absurd hp.symm (holding_ne_done _ _)

/-- The next call of somebody who waits is refused while somebody else has the right to the name,
and otherwise gives it to the one who calls. -/
theorem Loser.step_outside {c : Call} {next : c.Answer → Program (Except CatalogError Specification)}
    {a : c.Answer} {s' : Inventory}
    (checked : checkCreate settings name request = .ok (ownerOf request))
    (h : Loser settings name request false (.call c next))
    (answered : Works maker c s a s') :
    isOutward c = false ∧
      (s.reserved.contains name = true ∧ s' = s ∧ Loser settings name request false (next a) ∨
        s.reserved.contains name = false ∧ s' = { s with reserved := name :: s.reserved } ∧
          next a = holding name (createReserved settings name request (ownerOf request)).run) := by
  generalize hp : Program.call c next = p at h
  cases h with
  | denied => cases hp
  | waiting =>
    rw [create_run checked] at hp
    cases hp
    cases answered
    refine ⟨rfl, ?_⟩
    unfold Reservations.reserve
    by_cases taken : s.reserved.contains name = true
    · rw [if_pos taken]
      exact .inl ⟨taken, rfl, .denied⟩
    · rw [if_neg taken]
      exact .inr ⟨by simpa using taken, rfl, rfl⟩

/-- Somebody who gets the right to the name after the winner finds the instance in the catalog, and
gives the right back. -/
theorem Loser.step_inside {c : Call} {next : c.Answer → Program (Except CatalogError Specification)}
    {a : c.Answer} {s' : Inventory} {spec : Specification}
    (found : s.ledger.find? name = some spec)
    (h : Loser settings name request true (.call c next))
    (answered : Works maker c s a s') :
    isOutward c = false ∧
      (s' = s ∧ Loser settings name request true (next a) ∨
        s' = { s with reserved := s.reserved.release name } ∧
          Loser settings name request false (next a)) := by
  generalize hp : Program.call c next = p at h
  cases h with
  | looking =>
    have hcall : Program.call c next = .call (.findInstance name) _ := hp
    cases hcall
    cases answered
    refine ⟨rfl, .inl ⟨rfl, ?_⟩⟩
    rw [found]
    exact .leaving
  | leaving =>
    cases hp
    cases answered
    exact ⟨rfl, .inr ⟨rfl, .denied⟩⟩

/-! ### The contest -/

/-- The inventory in which somebody has the right to a name. -/
def withHolder (name : String) (s : Inventory) : Inventory :=
  { s with reserved := name :: s.reserved }

/-- Giving a right back that was free before. -/
theorem release_withHolder (h : name ∉ s.reserved) :
    { withHolder name s with reserved := (withHolder name s).reserved.release name } = s := by
  have others : s.reserved.filter (· ≠ name) = s.reserved := by
    rw [List.filter_eq_self]
    intro other hmem
    have : other ≠ name := fun heq => h (heq ▸ hmem)
    simpa using this
  have : (withHolder name s).reserved.release name = s.reserved := by
    rw [Reservations.release, withHolder, List.filter_cons_of_neg (by simp), others]
  rw [this]
  rfl

/-- A create that runs alone creates its instance. -/
theorem run_create (valid : InstanceName.isValid name = true)
    (h : Acceptable maker settings name s request) (absent : s.Absent settings name) :
    ∃ spec, spec.name = name ∧
      (createReserved settings name request (ownerOf request)).run.run (answer maker)
          (withHolder name s) =
        (.ok spec, withHolder name (created settings spec (ownerOf request) s)) ∧
      (create settings name request).run.run (answer maker) s =
        (.ok spec, created settings spec (ownerOf request) s) := by
  have accepted : Acceptable maker settings name (withHolder name s) request :=
    ⟨h.accepted, h.owner⟩
  obtain ⟨spec, named, hrun⟩ :=
    run_createReserved accepted absent.catalogued absent.owned absent.stored
  refine ⟨spec, named, hrun, ?_⟩
  have granted : answer maker (.reserve name) s = (true, withHolder name s) := by
    have free : s.reserved.reserve name = (true, name :: s.reserved) :=
      if_neg (by simpa using absent.reserved)
    rw [answer, free]
    rfl
  rw [create_run (checkCreate_of_acceptable valid h)]
  refine (run_call granted).trans ((run_holding hrun).trans ?_)
  exact congrArg _ (release_withHolder (s := created settings spec (ownerOf request) s)
    absent.reserved)

section

variable [DecidableEq ι] {requests : ι → InstanceConfiguration} {s₀ : Inventory}
  {xs : List (ThreadExchange ι)} {q : Threads ι (Except CatalogError Specification)}

/-- The others have made no calls to the outside. -/
def Apart (w : ι) (xs : List (ThreadExchange ι)) : Prop :=
  ∀ x ∈ xs, x.1 ≠ w → isOutward x.2.call = false

/-- What creates of one name have come to, from an inventory that knows nothing of it. -/
inductive Contest (maker : Maker) (settings : Settings) (name : String)
    (requests : ι → InstanceConfiguration) (s₀ : Inventory) : List (ThreadExchange ι) →
    Threads ι (Except CatalogError Specification) → Inventory → Prop
  | opening : Contest maker settings name requests s₀ []
      (fun i => (create settings name (requests i)).run) s₀
  /-- The winner is at work, and what is ahead of it is what would be if it ran alone. -/
  | running (w : ι) {xs q s spec} {body : Program (Except CatalogError Specification)}
      (winner : q w = holding name body) (keeps : body.Only Keeps)
      (ahead : body.run (answer maker) s =
        (.ok spec, withHolder name (created settings spec (ownerOf (requests w)) s₀)))
      (alone : (create settings name (requests w)).run.run (answer maker) s₀ =
        (.ok spec, created settings spec (ownerOf (requests w)) s₀))
      (named : spec.name = name) (reserved : s.reserved.contains name = true)
      (losers : ∀ i, i ≠ w → Loser settings name (requests i) false (q i)) (apart : Apart w xs) :
      Contest maker settings name requests s₀ xs q s
  /-- The winner is done. Somebody else may have the right to the name for a while. -/
  | settled (w : ι) (holder : Option ι) {xs q s spec} (other : holder ≠ some w)
      (winner : q w = .done (.ok spec))
      (alone : (create settings name (requests w)).run.run (answer maker) s₀ =
        (.ok spec, created settings spec (ownerOf (requests w)) s₀))
      (named : spec.name = name)
      (state : s = if holder.isSome
        then withHolder name (created settings spec (ownerOf (requests w)) s₀)
        else created settings spec (ownerOf (requests w)) s₀)
      (losers : ∀ i, i ≠ w → Loser settings name (requests i) (holder = some i) (q i))
      (apart : Apart w xs) : Contest maker settings name requests s₀ xs q s

omit [DecidableEq ι] in
theorem Apart.snoc {w : ι} (h : Apart w xs) {x : ThreadExchange ι}
    (hx : x.1 ≠ w → isOutward x.2.call = false) : Apart w (xs ++ [x]) := by
  intro y hy hne
  rcases List.mem_append.1 hy with hy | hy
  · exact h y hy hne
  · obtain rfl := List.mem_singleton.1 hy
    exact hx hne

/-- A thread that is not the caller stays where it is. -/
theorem losers_update {w i : ι} {b : ι → Bool} {p : Program (Except CatalogError Specification)}
    (losers : ∀ j, j ≠ w → j ≠ i → Loser settings name (requests j) (b j) (q j))
    (caller : Loser settings name (requests i) (b i) p) :
    ∀ j, j ≠ w → Loser settings name (requests j) (b j) (Function.update q i p j) := by
  intro j hj
  by_cases heq : j = i
  · subst heq
    rw [Function.update_self]
    exact caller
  · rw [Function.update_of_ne heq]
    exact losers j hj heq

theorem Keeps.reserved {c : Call} (h : Keeps c) {a : c.Answer} {s' : Inventory}
    (answered : Works maker c s a s') : s'.reserved = s.reserved := by
  cases c with
  | reserve name => cases h
  | release name => cases h
  | perform r limit =>
    cases r with
    | create c =>
      have := congrArg (fun r => Inventory.reserved r.2) answered
      refine this.symm.trans ?_
      simp only [answer, Inventory.perform]
      split
      · rfl
      · split <;> rfl
    | _ =>
      cases answered
      rfl
  | _ =>
    cases answered
    rfl

section Steps

variable {s₁ s₂ : Inventory} {i : ι} {c : Call}
  {next : c.Answer → Program (Except CatalogError Specification)} {a : c.Answer}

/-- The first call takes the right to the name, and its thread is the winner. -/
theorem Contest.step_opening (valid : InstanceName.isValid name = true)
    (acceptable : Acceptable maker settings name s₀ (requests i))
    (absent : s₀.Absent settings name)
    (turn : (create settings name (requests i)).run = .call c next)
    (answered : Works maker c s₀ a s₂) :
    Contest maker settings name requests s₀ [(i, ⟨c, a⟩)]
      (Function.update (fun j => (create settings name (requests j)).run) i (next a)) s₂ := by
  have checked := checkCreate_of_acceptable valid acceptable
  have loser : Loser settings name (requests i) false (.call c next) := turn ▸ .waiting
  obtain ⟨-, ⟨taken, -⟩ | ⟨-, rfl, hnext⟩⟩ := loser.step_outside checked answered
  · exact absurd (by simpa using taken) absent.reserved
  · obtain ⟨spec, named, ahead, alone⟩ := run_create valid acceptable absent
    have winner : Function.update (fun j => (create settings name (requests j)).run) i (next a) i =
        holding name (createReserved settings name (requests i) (ownerOf (requests i))).run := by
      rw [Function.update_self, hnext]
    refine .running i winner (createReserved_keeps _) ahead alone named (by simp) ?_ ?_
    · intro j hj
      rw [Function.update_of_ne hj]
      exact .waiting
    · intro x hx hne
      rw [List.mem_singleton.1 hx] at hne
      exact absurd rfl hne

/-- The winner goes on as if it were alone, and everybody else is refused. -/
theorem Contest.step_running {w : ι} {spec : Specification}
    {body : Program (Except CatalogError Specification)}
    (checked : ∀ j, checkCreate settings name (requests j) = .ok (ownerOf (requests j)))
    (absent : s₀.Absent settings name) (winner : q w = holding name body)
    (keeps : body.Only Keeps)
    (ahead : body.run (answer maker) s₁ =
      (.ok spec, withHolder name (created settings spec (ownerOf (requests w)) s₀)))
    (alone : (create settings name (requests w)).run.run (answer maker) s₀ =
      (.ok spec, created settings spec (ownerOf (requests w)) s₀))
    (named : spec.name = name) (reserved : s₁.reserved.contains name = true)
    (losers : ∀ i, i ≠ w → Loser settings name (requests i) false (q i)) (apart : Apart w xs)
    (turn : q i = .call c next) (answered : Works maker c s₁ a s₂) :
    Contest maker settings name requests s₀ (xs ++ [(i, ⟨c, a⟩)])
      (Function.update q i (next a)) s₂ := by
  by_cases hi : i = w
  · subst hi
    have stay : ∀ {b : ι → Bool}, (∀ j, j ≠ i → b j = false) → ∀ j, j ≠ i →
        Loser settings name (requests j) (b j) (Function.update q i (next a) j) := by
      intro b hb j hj
      rw [Function.update_of_ne hj, hb j hj]
      exact losers j hj
    have apart' : Apart i (xs ++ [(i, ⟨c, a⟩)]) := apart.snoc fun hne => absurd rfl hne
    rw [winner] at turn
    cases body with
    | done r =>
      -- all that is ahead of the winner is to give the right back
      cases turn
      cases ahead
      cases answered
      refine .settled i none (by simp) (Function.update_self _ _ _) alone named ?_ (stay (by simp))
        apart'
      exact release_withHolder (s := created settings spec (ownerOf (requests i)) s₀)
        absent.reserved
    | call c next =>
      cases turn
      have hahead : (next a).run (answer maker) s₂ = _ := (run_call answered).symm.trans ahead
      exact .running i (Function.update_self _ _ _) (keeps.2 a) hahead alone named
        (by rwa [keeps.1.reserved answered]) (stay (by simp)) apart'
  · -- somebody else asks for the right, and the winner still has it
    have loser : Loser settings name (requests i) false (.call c next) := turn ▸ losers i hi
    obtain ⟨inward, ⟨-, rfl, hnext⟩ | ⟨free, -⟩⟩ := loser.step_outside (checked i) answered
    · refine .running w ?_ keeps ahead alone named reserved ?_ (apart.snoc fun _ => inward)
      · rw [Function.update_of_ne (Ne.symm hi), winner]
      · exact losers_update (b := fun _ => false) (fun j hj _ => losers j hj) hnext
    · rw [free] at reserved
      cases reserved

/-- Once the winner is done, others get the right to the name in turn and give it back. -/
theorem Contest.step_settled {w : ι} {holder : Option ι} {spec : Specification}
    (checked : ∀ j, checkCreate settings name (requests j) = .ok (ownerOf (requests j)))
    (absent : s₀.Absent settings name) (other : holder ≠ some w) (winner : q w = .done (.ok spec))
    (alone : (create settings name (requests w)).run.run (answer maker) s₀ =
      (.ok spec, created settings spec (ownerOf (requests w)) s₀))
    (named : spec.name = name)
    (state : s₁ = if holder.isSome
      then withHolder name (created settings spec (ownerOf (requests w)) s₀)
      else created settings spec (ownerOf (requests w)) s₀)
    (losers : ∀ i, i ≠ w → Loser settings name (requests i) (holder = some i) (q i))
    (apart : Apart w xs) (turn : q i = .call c next) (answered : Works maker c s₁ a s₂) :
    Contest maker settings name requests s₀ (xs ++ [(i, ⟨c, a⟩)])
      (Function.update q i (next a)) s₂ := by
  have hi : i ≠ w := by
    rintro rfl
    rw [winner] at turn
    cases turn
  have winner' : Function.update q i (next a) w = .done (.ok spec) := by
    rw [Function.update_of_ne (Ne.symm hi), winner]
  have loser := losers i hi
  rw [turn] at loser
  by_cases inside : holder = some i
  · -- the one who has the right finds the instance, or gives the right back
    subst inside
    have found : s₁.ledger.find? name = some spec := by
      rw [state, ← named]
      exact (Ledger.find?_enter _ _ _).trans (if_pos rfl)
    rw [decide_eq_true rfl] at loser
    obtain ⟨inward, ⟨rfl, hnext⟩ | ⟨rfl, hnext⟩⟩ := loser.step_inside found answered
    · refine .settled w (some i) other winner' alone named state ?_ (apart.snoc fun _ => inward)
      exact losers_update (fun j hj _ => losers j hj) (by simpa using hnext)
    · refine .settled w none (by simp) winner' alone named ?_ ?_ (apart.snoc fun _ => inward)
      · rw [state]
        exact release_withHolder (s := created settings spec (ownerOf (requests w)) s₀)
          absent.reserved
      · refine losers_update (fun j hj hne => ?_) (by simpa using hnext)
        simpa [Ne.symm hne] using losers j hj
  · -- anyone else is refused, or gets the right if nobody has it
    rw [decide_eq_false inside] at loser
    obtain ⟨inward, ⟨taken, rfl, hnext⟩ | ⟨free, rfl, hnext⟩⟩ :=
      loser.step_outside (checked i) answered
    · refine .settled w holder other winner' alone named state ?_ (apart.snoc fun _ => inward)
      exact losers_update (fun j hj _ => losers j hj) (by simpa [inside] using hnext)
    · have nobody : holder = none := by
        cases holder with
        | none => rfl
        | some j =>
          rw [state] at free
          simp [withHolder] at free
      subst nobody
      refine .settled w (some i) (by simpa using hi) winner' alone named ?_ ?_
        (apart.snoc fun _ => inward)
      · rw [state]
        rfl
      · refine losers_update (fun j hj hne => ?_) ?_
        · simpa [Ne.symm hne] using losers j hj
        · rw [hnext, decide_eq_true rfl]
          exact .looking

end Steps

/-- Wherever creates of one name have come to, they are in the contest. -/
theorem contest_of_interleaves (valid : InstanceName.isValid name = true)
    (acceptable : ∀ i, Acceptable maker settings name s₀ (requests i))
    (absent : s₀.Absent settings name) {s' : Inventory}
    (h : Interleaves (Works maker) (fun i => (create settings name (requests i)).run) s₀ xs q s') :
    Contest maker settings name requests s₀ xs q s' := by
  have checked j := checkCreate_of_acceptable valid (acceptable j)
  refine h.invariant .opening ?_
  intro xs q s₁ s₂ i c next a contest turn answered
  cases contest with
  | opening => exact Contest.step_opening valid (acceptable i) absent turn answered
  | running w winner keeps ahead alone named reserved losers apart =>
    exact Contest.step_running checked absent winner keeps ahead alone named reserved losers apart
      turn answered
  | settled w holder other winner alone named state losers apart =>
    exact Contest.step_settled checked absent other winner alone named state losers apart turn
      answered

/-- Concurrent creates of a name that nothing is known of, all of which could succeed alone, come to
their ends however their calls are interleaved. Exactly one succeeds, and leaves everything as if it
had run alone; the others are told that the instance exists, and have made no call to the storage,
the owner store or the query engine. -/
theorem concurrent_creates_have_one_winner {σ : Type} {B : Conduct σ} {view : σ → Inventory}
    [Finite ι] [Nonempty ι] (total : B.Total)
    (works : ∀ c s a s', B c s a s' → Works maker c (view s) a (view s'))
    (valid : InstanceName.isValid name = true) {s : σ}
    (acceptable : ∀ i, Acceptable maker settings name (view s) (requests i))
    (absent : (view s).Absent settings name) {q : Threads ι (Except CatalogError Specification)}
    {s' : σ}
    (h : Interleaves B (fun i => (create settings name (requests i)).run) s xs q s') :
    (∃ ys q' s'', Interleaves B (fun i => (create settings name (requests i)).run) s (xs ++ ys) q' s'' ∧
      q'.Returned) ∧
    (q.Returned → ∃ w spec, q w = .done (.ok spec) ∧
      (create settings name (requests w)).run.run (answer maker) (view s) = (.ok spec, view s') ∧
      (∀ i, i ≠ w → q i = .done (.error (.instanceExists name)) ∧
        ∀ x, (i, x) ∈ xs → isOutward x.call = false) ∧
      (view s').reserved = (view s).reserved) := by
  refine ⟨h.exists_completion fun _ => total, fun returned => ?_⟩
  have checked j := checkCreate_of_acceptable valid (acceptable j)
  have contest := contest_of_interleaves valid acceptable absent (h.simulate fun _ => works)
  generalize hfinal : view s' = final at contest
  -- once all have returned, the contest is settled
  cases contest with
  | opening =>
    obtain ⟨r, hr⟩ := returned (Classical.arbitrary ι)
    exact absurd ((create_run (checked _)).symm.trans hr) (by simp)
  | running w winner =>
    obtain ⟨r, hr⟩ := returned w
    exact absurd (winner.symm.trans hr) (holding_ne_done _ _)
  | @settled w holder _ _ _ spec other winner alone named state losers apart =>
    have outside : ∀ i, i ≠ w → holder ≠ some i ∧ q i = .done (.error (.instanceExists name)) := by
      intro i hi
      obtain ⟨r, hr⟩ := returned i
      have loser := losers i hi
      rw [hr] at loser
      obtain ⟨hfalse, rfl⟩ := loser.of_done (checked i)
      exact ⟨of_decide_eq_false hfalse, hr⟩
    have nobody : holder = none := by
      cases holder with
      | none => rfl
      | some j => exact absurd rfl (outside j (by simpa using other)).1
    subst nobody
    refine ⟨w, spec, winner, state ▸ alone, fun i hi => ⟨(outside i hi).2, ?_⟩, state ▸ rfl⟩
    exact fun x hx => apart _ hx hi

/-- Two requests that differ in their owners. -/
def rivalRequests (i : Bool) : InstanceConfiguration :=
  ⟨"table", [], if i then some "alice" else none⟩

theorem concurrent_creates_in_memory :
    workingConduct.Total ∧ InstanceName.isValid "orders" = true ∧
      (∀ i, Acceptable Stores.scriptedMaker {} "orders" (Stores.inventory ([], {}))
        (rivalRequests i)) ∧
      (Stores.inventory ([], {})).Absent {} "orders" ∧
      ∃ xs q s', Interleaves workingConduct
          (fun i => (create {} "orders" (rivalRequests i)).run) .fresh xs q s' ∧ q.Returned ∧
        ∃ w spec, q w = .done (.ok spec) ∧ ∀ i, i ≠ w → q i = .done (.error (.instanceExists "orders")) := by
  have valid : InstanceName.isValid "orders" = true := by decide
  have acceptable : ∀ i, Acceptable Stores.scriptedMaker {} "orders" (Stores.inventory ([], {}))
      (rivalRequests i) := by
    intro i
    refine ⟨⟨_, _, rfl, rfl⟩, ?_⟩
    cases i with
    | false => simp [rivalRequests]
    | true =>
      rintro principal ⟨⟩
      rfl
  have absent : (Stores.inventory ([], {})).Absent {} "orders" :=
    ⟨rfl, rfl, rfl, by simp [Stores.inventory]⟩
  refine ⟨workingConduct_total, valid, acceptable, absent, ?_⟩
  obtain ⟨⟨ys, q, s', h, returned⟩, -⟩ := concurrent_creates_have_one_winner workingConduct_total
    workingConduct_works valid acceptable absent (s := .fresh) .start
  obtain ⟨-, outcome⟩ := concurrent_creates_have_one_winner workingConduct_total
    workingConduct_works valid acceptable absent h
  obtain ⟨w, spec, won, -, others, -⟩ := outcome returned
  exact ⟨_, q, s', h, returned, w, spec, won, fun i hi => (others i hi).1⟩

end

end Lifecycle

end DatasetCatalog
