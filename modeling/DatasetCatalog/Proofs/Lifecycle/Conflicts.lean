import DatasetCatalog.Proofs.Lifecycle.AllOrNothing
import DatasetCatalog.Proofs.Lifecycle.Protection

/-!
# What a conflict tells

A create answers that the instance exists for more than one reason. While nobody else is at work, only
two of them are left: the catalog has the name, or the storage says so. The second one is no conflict
with an instance. It is the end of a create that finds storage which the catalog does not know and
cannot get it out of the way, and there the failure of the storage goes unreported
(`stuck_storage_is_told_as_a_conflict`). All other failures of the storage are passed on
(`conflicts_tell_of_the_name`).

Which of the ends a create comes to can be told by the answer to its last attempt at the storage
(`lastCreate`). All that is trusted is the catalog and the rights to names. That nobody else has a right
to the name follows from all other operations having come to their ends (`reserved_of_returned`).
-/

namespace DatasetCatalog

namespace Storage

/-- What the storage answered when it was last asked to create something. -/
def lastCreate (ops : List StorageExchange) : Option (Except StorageError Specification) :=
  ops.reverse.findSome? fun
    | ⟨.create _, a⟩ => some a
    | _ => none

/-- Attempts come to what the last of them was answered. -/
theorem Attempts.lastCreate {c : Creation} {ops : List StorageExchange} {a : Result (.create c)}
    (h : Attempts c ops a) : lastCreate ops = some a := by
  cases h with
  | once => rfl
  | blocked found result drops => obtain rfl | ⟨e, rfl⟩ := drops <;> rfl
  | twice => rfl

end Storage

namespace Lifecycle

open Program Storage

/-! ### Nobody else is at work -/

/-- Once all operations have come to their ends, nobody has the right to a name. -/
theorem reserved_of_returned {ι σ : Type} [DecidableEq ι] {B : Conduct σ} {roster : σ → Roster}
    (permitted : ∀ c s a s', B c s a s' → Roster.Permits c (roster s) a (roster s'))
    {settings : Settings} {errands : ι → Errand} {s s' : σ} (free : (roster s).reserved = [])
    {xs : List (ThreadExchange ι)} {q : Threads ι (Except CatalogError Unit)}
    (h : Interleaves B (fun i => (errands i).program settings) s xs q s') (returned : q.Returned) :
    (roster s').reserved = [] := by
  obtain ⟨stage, proceeds, held⟩ : ∃ stage : ι → Stage,
      (∀ i, Proceeds (errands i) (stage i) (q i) fun _ φ => φ = .outside) ∧
      ∀ name ∈ (roster s').reserved, ∃ i, (stage i).Holds name := by
    refine h.track
      (I := fun _ stage s => ∀ name ∈ (roster s).reserved, ∃ i, (stage i).Holds name)
      (fun i => proceeds_program settings (errands i)) (by simp [free]) ?_
    intro xs stage s₁ s₂ i c a φ held answered move name hname
    obtain granted | ⟨unchanged, before⟩ :=
      (Roster.mem_reserved_iff (permitted _ _ _ _ answered)).1 hname
    · exact ⟨i, by rw [Function.update_self]; exact move.holds_iff.2 (.inl granted)⟩
    · exact exists_update (P := (Stage.Holds · name)) (held name before)
        fun holds => move.holds_iff.2 (.inr ⟨unchanged, holds⟩)
  refine List.eq_nil_iff_forall_not_mem.2 fun name hname => ?_
  obtain ⟨i, holds⟩ := held name hname
  obtain ⟨a, outside⟩ := returned.ends proceeds i
  rw [outside] at holds
  exact holds

/-! ### Parts of a create -/

variable {settings : Settings} {name : String} {x x' : Roster} {xs : List Exchange}

/-- To prepare an instance, and to take back what was prepared, leaves the roster. -/
theorem prepares_roster {α : Type} {p : Program α} {a : α} (prepares : Prepares p)
    (h : Runs Roster.Works p x xs a x') : x' = x := by
  refine h.invariant (I := (· = x)) prepares (fun c x₁ a x₂ prepares works same => ?_) rfl
  cases c with
  | findInstance => exact works.2.trans same
  | perform | record | count | addOwner | removeOwner => exact Eq.trans works same
  | _ => cases prepares

theorem storageless_rollBackOwner (entity : EntityId) (owner : Option Principal) :
    Storageless (rollBackOwner entity owner) := by
  cases owner with
  | none => exact trivial
  | some principal => exact storageless_ask rfl

theorem storageless_failCreate (typeName : String) (owner : Option Principal) (e : StorageError) :
    Storageless (failCreate settings name typeName owner e) := by
  refine (storageless_ask (by rfl)).bind fun _ => (storageless_rollBackOwner _ owner).bind fun _ => ?_
  split
  · exact trivial
  · refine (storageless_ask (by rfl)).bind fun found => ?_
    rcases found with e | _ | spec <;> exact trivial

theorem storageless_show : Storageless (do tolerate name "enable" (← expose name)) :=
  (storageless_ask (by rfl)).bind fun shown => storageless_of_looks (looks_tolerate shown)

/-- A failure to record the owner is no conflict about the instance. -/
theorem claimOwner_tells {owner : Option Principal} {r : Except CatalogError Unit}
    (h : Runs Roster.Works (claimOwner settings name owner).run x xs r x') :
    storageOf xs = [] ∧ ∀ n, r ≠ .error (.instanceExists n) := by
  cases owner with
  | none =>
    obtain ⟨rfl, rfl, -⟩ := h.done_inv
    exact ⟨rfl, nofun⟩
  | some principal =>
    obtain ⟨_, added, _, _, hadd, hrest, rfl⟩ := bind_always_inv h
    obtain ⟨rfl, -⟩ := hadd.ask_inv
    rcases added with e | u
    · cases e with
      | alreadyExists => obtain ⟨rfl, rfl, -⟩ := throw_inv hrest; exact ⟨rfl, nofun⟩
      | _ =>
        obtain ⟨rfl, rfl, -⟩ := throw_inv hrest
        exact ⟨rfl, nofun⟩
    · obtain ⟨rfl, rfl, -⟩ := pure_inv hrest
      exact ⟨rfl, nofun⟩

/-- What a create of a name reports of a failure of the storage, while the catalog does not have the
name. -/
def failure (name : String) : StorageError → CatalogError
  | .alreadyExists _ => .instanceExists name
  | e => .execution "create" name e

/-- What is wrong with an answer about another instance. -/
def stray (name : String) (spec : Specification) : StorageError :=
  .protocol ("create of '" ++ name ++ "' returned a specification for '" ++ spec.name ++ "'")

/-- What a create makes of the answer to its last attempt at the storage, while the catalog does not have
the name. -/
def reply (name : String) : Except StorageError Specification → Except CatalogError Specification
  | .error e => .error (failure name e)
  | .ok spec => if spec.name = name then .ok spec else .error (failure name (stray name spec))

theorem failCreate_tells {typeName : String} {owner : Option Principal} {source : StorageError}
    {e : CatalogError} (free : StringMap.find? name x.catalog = none)
    (h : Runs Roster.Works (failCreate settings name typeName owner source) x xs e x') :
    e = failure name source := by
  obtain ⟨_, _, x₁, _, hrecord, h₁, -⟩ := h.bind_inv
  obtain ⟨-, rfl⟩ := hrecord.ask_inv
  obtain ⟨_, _, x₂, _, hback, h₂, -⟩ := h₁.bind_inv
  obtain rfl := prepares_roster (prepares_rollBackOwner _ owner) hback
  split at h₂
  · exact h₂.done_inv.2.1
  · next other =>
    obtain ⟨_, found, x₃, _, hfind, h₃, -⟩ := h₂.bind_inv
    obtain ⟨-, told, -⟩ := hfind.ask_inv
    rw [free] at told
    subst told
    refine h₃.done_inv.2.1.trans ?_
    cases source with
    | alreadyExists found => exact absurd rfl (other found)
    | _ => rfl

/-- An instance whose name is free is added. -/
theorem commit_tells {typeName : String} {spec : Specification} {typeMeta : TypeMeta}
    {owner : Option Principal} {r : Except CatalogError Specification}
    (free : StringMap.find? spec.name x.catalog = none)
    (h : Runs Roster.Works (commit settings typeName spec typeMeta owner).run x xs r x') :
    storageOf xs = [] ∧ r = .ok spec := by
  obtain ⟨_, added, x₁, _, hadd, h₁, rfl⟩ := bind_always_inv h
  obtain ⟨rfl, works⟩ := hadd.ask_inv
  have accepted : added = .ok () := by
    simp only [Roster.Works, free, Option.isSome_none, Bool.false_eq_true, if_false] at works
    exact works.1
  subst accepted
  obtain ⟨_, _, x₂, _, hshow, h₂, rfl⟩ := bind_always_inv h₁
  have quiet := storageOf_of_storageless storageless_show hshow
  obtain ⟨_, _, x₃, _, hrecord, h₃, rfl⟩ := bind_always_inv h₂
  obtain ⟨rfl, -⟩ := hrecord.ask_inv
  obtain ⟨_, _, x₄, _, hcount, h₄, rfl⟩ := bind_always_inv h₃
  obtain ⟨rfl, -⟩ := hcount.ask_inv
  obtain ⟨rfl, rfl, -⟩ := pure_inv h₄
  refine ⟨?_, rfl⟩
  rw [storageOf_append, storageOf_append, quiet]
  rfl

/-! ### The whole -/

/-- What a create tells that runs alone, where `passes` says whether its request passes the check,
`taken` whether the catalog has the name, and `ops` are its operations on the storage. -/
structure Tells (name : String) (passes taken : Bool) (ops : List StorageExchange)
    (r : Except CatalogError Specification) : Prop where
  /-- A conflict is told if and only if the catalog has the name, or the last attempt at the storage has
  found some there. -/
  conflict : ∀ n, r = .error (.instanceExists n) ↔ n = name ∧ passes = true ∧
    (taken = true ∨ ∃ found, lastCreate ops = some (.error (.alreadyExists found)))
  /-- The storage is left alone if the catalog has the name. -/
  spared : taken = true → ops = []
  /-- All other failures of the last attempt are passed on. -/
  failed : ∀ e, lastCreate ops = some (.error e) → (∀ found, e ≠ .alreadyExists found) →
    r = .error (.execution "create" name e)
  /-- An answer about another instance is a failure as well. -/
  misnamed : ∀ spec, lastCreate ops = some (.ok spec) → spec.name ≠ name →
    r = .error (.execution "create" name (stray name spec))
  made : ∀ spec, lastCreate ops = some (.ok spec) → spec.name = name → r = .ok spec

/-- A create that ends before it makes storage. -/
theorem Tells.early {passes taken : Bool} {r : Except CatalogError Specification}
    (h : ∀ n, r ≠ .error (.instanceExists n)) (free : passes = true → taken = false) :
    Tells name passes taken [] r where
  conflict n := by
    refine ⟨fun same => absurd same (h n), ?_⟩
    rintro ⟨-, passed, held | ⟨found, last⟩⟩
    · rw [free passed] at held
      cases held
    · cases last
  spared _ := rfl
  failed := nofun
  misnamed := nofun
  made := nofun

theorem Tells.taken : Tells name true true [] (.error (.instanceExists name)) where
  conflict n := ⟨fun same => by cases same; exact ⟨rfl, rfl, .inl rfl⟩, fun ⟨same, _⟩ => by rw [same]⟩
  spared _ := rfl
  failed := nofun
  misnamed := nofun
  made := nofun

/-- A create that attempts to make storage. -/
theorem Tells.attempted {ops : List StorageExchange} {a : Except StorageError Specification}
    (last : lastCreate ops = some a) : Tells name true false ops (reply name a) := by
  have same {b : Except StorageError Specification} (h : lastCreate ops = some b) : b = a :=
    Option.some.inj (h.symm.trans last)
  constructor
  case conflict =>
    intro n
    rw [last]
    rcases a with e | spec
    · cases e <;> simp [reply, failure, eq_comm]
    · rw [reply]
      split <;> simp [failure, stray]
  case spared => nofun
  case failed =>
    intro e he other
    obtain rfl := same he
    cases e with
    | alreadyExists found => exact absurd rfl (other found)
    | _ => rfl
  case misnamed =>
    intro spec hspec other
    obtain rfl := same hspec
    exact if_neg other
  case made =>
    intro spec hspec named
    obtain rfl := same hspec
    exact if_pos named

/-- The attempt at the storage, and what is made of it. -/
theorem made_tells {c : Creation} {typeName : String} {typeMeta : TypeMeta} {owner : Option Principal}
    {r : Except CatalogError Specification} (free : StringMap.find? c.name x.catalog = none)
    (h : Runs Roster.Works (ExceptT.run (do
      match ← always (createStorage settings c) with
      | .error e => throw (← always (failCreate settings c.name typeName owner e))
      | .ok spec =>
        if spec.name = c.name then commit settings typeName spec typeMeta owner
        else throw (← always (failCreate settings c.name typeName owner (stray c.name spec))) :
      Step Specification)) x xs r x') :
    Tells c.name true false (storageOf xs) r := by
  obtain ⟨ys, a, x₁, zs, hmake, h₁, rfl⟩ := bind_always_inv h
  have last := (createStorage_attempts hmake).lastCreate
  obtain rfl := prepares_roster (prepares_of_storageWork (storageWork_createStorage c)) hmake
  -- what follows leaves the storage alone
  suffices quiet : storageOf zs = [] ∧ r = reply c.name a by
    obtain ⟨quiet, rfl⟩ := quiet
    rw [storageOf_append, quiet, List.append_nil]
    exact .attempted last
  have fails {e : StorageError} {zs : List Exchange} {r : Except CatalogError Specification}
      (h : Runs Roster.Works (ExceptT.run (always (failCreate settings c.name typeName owner e) >>=
        (throw : CatalogError → Step Specification))) x₁ zs r x') :
      storageOf zs = [] ∧ r = .error (failure c.name e) := by
    obtain ⟨_, e', x₂, _, hfail, h₂, rfl⟩ := bind_always_inv h
    obtain ⟨rfl, rfl, -⟩ := throw_inv h₂
    rw [List.append_nil, failCreate_tells free hfail]
    exact ⟨storageOf_of_storageless (storageless_failCreate _ _ _) hfail, rfl⟩
  rcases a with e | spec
  · exact fails h₁
  · dsimp only at h₁
    split at h₁
    · next named =>
      rw [reply, if_pos named]
      exact commit_tells (by rw [named, free]) h₁
    · next other =>
      rw [reply, if_neg other]
      exact fails h₁

theorem createReserved_tells {request : InstanceConfiguration} {owner : Option Principal}
    {r : Except CatalogError Specification}
    (h : Runs Roster.Works (createReserved settings name request owner).run x xs r x') :
    Tells name true (StringMap.find? name x.catalog).isSome (storageOf xs) r := by
  obtain ⟨_, found, x₁, _, hfind, h₁, rfl⟩ | ⟨e, hfind, -⟩ := bind_ofRegistry_inv h
  case inr =>
    obtain ⟨-, told, -⟩ := hfind.ask_inv
    cases told
  obtain ⟨rfl, told, same⟩ := hfind.ask_inv
  obtain rfl := same.symm
  obtain rfl := Except.ok.inj told
  cases free : StringMap.find? name x.catalog with
  | some spec =>
    rw [free] at h₁
    obtain ⟨rfl, rfl, -⟩ := throw_inv h₁
    exact .taken
  | none =>
    rw [free] at h₁
    obtain ⟨_, typed, x₂, _, htype, h₂, rfl⟩ | ⟨e, htype, rfl⟩ := bind_ofRegistry_inv h₁
    case inr =>
      obtain ⟨rfl, -⟩ := htype.ask_inv
      exact .early nofun fun _ => rfl
    obtain ⟨rfl, same⟩ := htype.ask_inv
    obtain rfl : x₂ = x := same
    rcases typed with _ | typeMeta
    case none =>
      obtain ⟨rfl, rfl, -⟩ := throw_inv h₂
      exact .early nofun fun _ => rfl
    obtain ⟨ys, u, x₃, _, hclaim, h₃, rfl⟩ | ⟨e, hclaim, rfl⟩ := bind_inv h₂
    case inr =>
      obtain ⟨quiet, other⟩ := claimOwner_tells hclaim
      rw [storageOf_append, storageOf_append, quiet]
      refine .early (fun n same => other n ?_) fun _ => rfl
      cases same
      rfl
    rw [storageOf_append, storageOf_append, storageOf_append, (claimOwner_tells hclaim).1]
    obtain rfl := prepares_roster (prepares_claimOwner owner) hclaim
    exact made_tells (c := ⟨name, typeMeta, request.properties⟩) free h₃

/-- A request that does not pass the check is no conflict. -/
theorem checkCreate_tells {request : InstanceConfiguration} {e : CatalogError}
    (refused : checkCreate settings name request = .error e) (n : String) : e ≠ .instanceExists n := by
  rintro rfl
  unfold checkCreate requestedOwner at refused
  split at refused
  · split at refused
    · cases refused
    · split at refused <;> cases refused
  · cases refused

/-- What a create tells if nobody else has the right to its name. -/
theorem create_tells {request : InstanceConfiguration} {r : Except CatalogError Specification}
    (idle : name ∉ x.reserved)
    (h : Runs Roster.Works (create settings name request).run x xs r x') :
    Tells name (checkCreate settings name request).isOk (StringMap.find? name x.catalog).isSome
      (storageOf xs) r := by
  cases checked : checkCreate settings name request with
  | error e =>
    rw [create_run_refused checked] at h
    obtain ⟨rfl, rfl, -⟩ := h.done_inv
    refine .early (fun n same => checkCreate_tells checked n ?_) nofun
    cases same
    rfl
  | ok owner =>
    rw [create_run checked] at h
    obtain ⟨granted, x₁, ys, works, h₁, rfl⟩ := h.call_inv
    obtain ⟨told, rfl⟩ := works
    have free : granted = true := by
      rw [told, Reservations.reserve, if_neg (by simpa using idle)]
    subst free
    obtain ⟨zs, r', x₂, _, hbody, hrelease, rfl⟩ := h₁.bind_inv
    obtain ⟨_, x₃, _, -, hdone, rfl⟩ := hrelease.call_inv
    obtain ⟨rfl, rfl, -⟩ := hdone.done_inv
    rw [storageOf_cons, storageOf_append, storageOf_cons]
    change Tells name true _ ([] ++ (storageOf zs ++ ([] ++ []))) r
    rw [List.nil_append, List.append_nil, List.append_nil]
    have told := createReserved_tells hbody
    exact told

/-- **A conflict tells of the name or of its storage.** One coordinator works on a catalog that works;
owner store, storage, query engine and type registry answer as they like. Once all operations that came
before have ended, a create comes to an end, and it is told that the instance exists if and only if its
request passes the check and the catalog has the name, or the storage finds some there when it is last
asked to create it. It is told of every other failure of the storage as it is. -/
theorem conflicts_tell_of_the_name {ι σ : Type} [DecidableEq ι] {B : Conduct σ} {roster : σ → Roster}
    (works : ∀ c s a s', B c s a s' → Roster.Works c (roster s) a (roster s')) (total : B.Total)
    {settings : Settings} {errands : ι → Errand} {s₀ s : σ} (free : (roster s₀).reserved = [])
    {history : List (ThreadExchange ι)} {q : Threads ι (Except CatalogError Unit)}
    (before : Interleaves B (fun i => (errands i).program settings) s₀ history q s)
    (returned : q.Returned) (name : String) (request : InstanceConfiguration) :
    (∃ xs r s', Runs B (create settings name request).run s xs r s') ∧
      ∀ xs r s', Runs B (create settings name request).run s xs r s' →
        Tells name (checkCreate settings name request).isOk
          (StringMap.find? name (roster s).catalog).isSome (storageOf xs) r := by
  refine ⟨exists_runs total _ s, fun xs r s' run => ?_⟩
  have idle : (roster s).reserved = [] :=
    reserved_of_returned (fun c s a s' h => (works c s a s' h).permits) free before returned
  exact create_tells (by simp [idle]) (run.simulate works)

end Lifecycle

/-! ### Storage in the way -/

/-- Storage that has something of the name `orders` which the catalog does not know, and a script of
what goes wrong. -/
def MemoryStores.littered (failures : List (Storage.Call × String)) : MemoryStores :=
  ⟨([], { storage := .memory { physical := [("orders", .ofType "orders" "table")], failures } }),
    ⟨_, rfl⟩, _, rfl⟩

namespace Lifecycle

open Program

/-- Before the create that counts, another instance is created and one is looked for. -/
def calmBefore : Bool → Errand
  | false => .create "sales" ⟨"table", [], none⟩
  | true => .get "orders"

/-- A create that fails in the storage is told so, also where it would have found leftovers. -/
theorem broken_storage_is_told :
    let failing := MemoryStores.littered [(⟨"create", "orders"⟩, "broken")]
    let calm := play memoryAnswer (List.replicate 20 false ++ List.replicate 20 true)
      (fun i => (calmBefore i).program {}) failing
    let created := (create {} "orders" ⟨"table", [], none⟩).run.run memoryAnswer calm.2.2
    (∀ c s a s', Conduct.ofHandler memoryAnswer c s a s' → Roster.Works c s.roster a s'.roster) ∧
      (Conduct.ofHandler memoryAnswer).Total ∧ failing.roster.reserved = [] ∧
      Interleaves (.ofHandler memoryAnswer) (fun i => (calmBefore i).program {}) failing calm.1
        calm.2.1 calm.2.2 ∧
      calm.2.1.Returned ∧
      created.1 = .error (.execution "create" "orders" (.execution "create" "orders" "broken")) ∧
      ∃ xs, Runs (.ofHandler memoryAnswer) (create {} "orders" ⟨"table", [], none⟩).run calm.2.2 xs
          created.1 created.2 ∧
        Tells "orders" true false (storageOf xs) created.1 := by
  intro failing calm created
  have run := interleaves_playBy (fun _ => memoryAnswer)
    (List.replicate 20 false ++ List.replicate 20 true) (fun i => (calmBefore i).program {}) failing
  have total : (Conduct.ofHandler memoryAnswer).Total := fun c s => ⟨_, _, rfl⟩
  have returned : calm.2.1.Returned := .of_next? (by decide +kernel)
  obtain ⟨-, tells⟩ := conflicts_tell_of_the_name memoryAnswer_works total rfl run returned "orders"
    ⟨"table", [], none⟩
  obtain ⟨xs, ran⟩ := runs_ofHandler memoryAnswer (create {} "orders" ⟨"table", [], none⟩).run
    calm.2.2
  have failed : created.1 =
      .error (.execution "create" "orders" (.execution "create" "orders" "broken")) := by
    have named : created.1.map (·.name) =
        .error (.execution "create" "orders" (.execution "create" "orders" "broken")) := by
      decide +kernel
    cases h : created.1 with
    | ok spec =>
      rw [h] at named
      cases named
    | error e =>
      rw [h] at named
      cases named
      rfl
  exact ⟨memoryAnswer_works, total, rfl, run, returned, failed, xs, ran, tells xs _ _ ran⟩

/-- **Stuck storage is told as a conflict.** The catalog is empty, and there is storage of `orders` that
an earlier create has left behind and that cannot be dropped. The create is told that the instance
exists, though the catalog does not have it, and that the drop of the leftovers has failed is told
nobody. -/
theorem stuck_storage_is_told_as_a_conflict :
    let stuck := MemoryStores.littered [(⟨"drop", "orders"⟩, "stuck")]
    let created := (create {} "orders" ⟨"table", [], none⟩).run.run memoryAnswer stuck
    stuck.roster = ⟨[], []⟩ ∧ stuck.1.2.owners = .memory [] ∧
      created.1 = .error (.instanceExists "orders") ∧ created.2.roster = ⟨[], []⟩ := by
  exact ⟨rfl, rfl, rfl, rfl⟩

end Lifecycle

end DatasetCatalog
