import Mathlib.Tactic.FinCases
import DatasetCatalog.Proofs.Lifecycle.Memory
import DatasetCatalog.Proofs.Lifecycle.Stakes

/-!
# When the stores end up in step

After any number of operations side by side, on collaborators that work, a name should have storage,
its owner record and its table exactly if it is in the catalog. This is not so for every order of the
calls. A drop takes the entry out of the catalog first and removes the owner record and the storage
later, and it does not take the right to the name, so a create of the same name can come in between;
what it made is then removed under it. In the same way a create can show a table after the drop that
should have hidden it. `drop_outlasts_create` is such an order.

`in_step_iff_in_order` says for which orders the stores are in step: those in which the latest call
on the storage, on the owner record and on the table of the name fit the latest call on its entry.
Whatever the order is, nothing foreign is left behind: storage and owner records that are there
belong to the entry.
-/

namespace DatasetCatalog.Lifecycle

open Program

/-! ### What calls write -/

/-- Whether a call adds the catalog entry of a name or removes it, if it does either. -/
def entryWrite (name : String) : Exchange → Option Bool
  | ⟨.addInstance spec, .ok _⟩ => if spec.name = name then some true else none
  | ⟨.removeInstance n, _⟩ => if n = name then some false else none
  | _ => none

/-- Whether a call writes the owner record of an entity or removes it, if it does either. -/
def ownerWrite (entity : EntityId) : Exchange → Option Bool
  | ⟨.addOwner e _, .ok _⟩ => if e = entity then some true else none
  | ⟨.removeOwner e, _⟩ => if e = entity then some false else none
  | _ => none

/-- Whether a call makes storage of a name or removes it, if it does either. -/
def storageWrite (name : String) : Exchange → Option Bool
  | ⟨.perform (.create c) _, .ok _⟩ => if c.name = name then some true else none
  | ⟨.perform (.drop r) _, _⟩ => if r.spec.name = name then some false else none
  | _ => none

/-- Whether a call shows the table of a name or hides it, if it does either. Names can share a
table. -/
def tableWrite (name : String) : Exchange → Option Bool
  | ⟨.expose n, _⟩ => if InstanceName.table n = InstanceName.table name then some true else none
  | ⟨.withdraw n, _⟩ => if InstanceName.table n = InstanceName.table name then some false else none
  | _ => none

section

variable {maker : Maker} {c : Call} {s s' : Inventory} {a : c.Answer}

/-- What is there after a call: where it writes, what it has written, and elsewhere what was there. -/
structure Written (x : Exchange) (s s' : Inventory) (name : String) (entity : EntityId) : Prop where
  entry : (s'.ledger.find? name).isSome =
    (entryWrite name x).getD (s.ledger.find? name).isSome
  owner : (s'.ledger.owners entity).isSome =
    (ownerWrite entity x).getD (s.ledger.owners entity).isSome
  storage : (s'.stored name).isSome = (storageWrite name x).getD (s.stored name).isSome
  table : StringMap.contains (InstanceName.table name) s'.tables =
    (tableWrite name x).getD (StringMap.contains (InstanceName.table name) s.tables)

/-- Whether there is something at a place, after something was put to a place or taken from it. -/
theorem isSome_update {α β : Type} [DecidableEq α] (f : α → Option β) (a b : α) (v : Option β) :
    (Function.update f a v b).isSome =
      (if a = b then some v.isSome else none).getD (f b).isSome := by
  by_cases h : a = b
  · rw [if_pos h, h, Function.update_self]
    rfl
  · rw [if_neg h, Function.update_of_ne (Ne.symm h)]
    rfl

/-- Every call writes what `entryWrite` and its companions say, and nothing else. -/
theorem serves_written (answered : Inventory.Serves maker c s a s') (name : String)
    (entity : EntityId) : Written ⟨c, a⟩ s s' name entity := by
  cases c with
  | addInstance spec =>
    obtain ⟨rfl, rfl⟩ | ⟨⟨e, rfl⟩, rfl⟩ := serves_addInstance answered
    · refine ⟨?_, rfl, rfl, rfl⟩
      change _ = (if spec.name = name then some true else none).getD _
      rw [Ledger.find?_enter]
      split <;> rfl
    · exact ⟨rfl, rfl, rfl, rfl⟩
  | removeInstance n =>
    cases answered
    refine ⟨?_, rfl, rfl, rfl⟩
    change ((s.ledger.strike n).find? name).isSome =
      (if n = name then some false else none).getD _
    rw [Ledger.find?_strike]
    split <;> rfl
  | addOwner e principal =>
    obtain ⟨rfl, rfl⟩ | ⟨⟨_, rfl⟩, rfl⟩ := serves_addOwner answered
    · exact ⟨rfl, isSome_update s.ledger.owners e entity (some principal), rfl, rfl⟩
    · exact ⟨rfl, rfl, rfl, rfl⟩
  | removeOwner e =>
    cases answered
    exact ⟨rfl, isSome_update s.ledger.owners e entity none, rfl, rfl⟩
  | perform r limit =>
    cases r with
    | create c =>
      obtain ⟨spec, rfl, -, rfl⟩ | ⟨⟨e, rfl⟩, rfl⟩ := serves_create answered
      · exact ⟨rfl, rfl, isSome_update s.stored c.name name (some spec), rfl⟩
      · exact ⟨rfl, rfl, rfl, rfl⟩
    | drop r =>
      cases answered
      exact ⟨rfl, rfl, isSome_update s.stored r.spec.name name none, rfl⟩
    | _ =>
      cases answered
      exact ⟨rfl, rfl, rfl, rfl⟩
  | expose n =>
    cases answered
    refine ⟨rfl, rfl, rfl, ?_⟩
    change StringMap.contains _ (StringMap.insert (InstanceName.table n) () s.tables) =
      (if InstanceName.table n = InstanceName.table name then some true else none).getD _
    rw [StringMap.contains, StringMap.find?_insert]
    split <;> rfl
  | withdraw n =>
    cases answered
    refine ⟨rfl, rfl, rfl, ?_⟩
    change StringMap.contains _ (StringMap.erase (InstanceName.table n) s.tables) =
      (if InstanceName.table n = InstanceName.table name then some false else none).getD _
    rw [StringMap.contains, StringMap.find?_erase]
    split <;> rfl
  | findType n =>
    obtain ⟨-, rfl⟩ := answered
    exact ⟨rfl, rfl, rfl, rfl⟩
  | _ =>
    cases answered
    exact ⟨rfl, rfl, rfl, rfl⟩

end

/-! ### Being in step -/

section

variable {ι : Type}

/-- Whether what calls write is there after them, if it was not there at first. -/
def stands (f : Exchange → Option Bool) (xs : List (ThreadExchange ι)) : Bool :=
  (latest (fun x => f x.2) xs).getD false

/-- The owner that the operation recorded that added the latest entry of a name. -/
def committedOwner (errand : ι → Errand) (name : String) (xs : List (ThreadExchange ι)) :
    Option Principal :=
  (committer name xs).bind fun i => (errand i).owner

/-- Storage, owner record and table of a name fit the catalog. -/
def InStep (settings : Settings) (errand : ι → Errand) (xs : List (ThreadExchange ι))
    (s : Inventory) (name : String) : Prop :=
  match s.ledger.find? name with
  | some spec =>
    s.stored name = some spec ∧
      s.ledger.owners (settings.entity name) = committedOwner errand name xs ∧ s.IsExposed name
  | none =>
    s.stored name = none ∧ s.ledger.owners (settings.entity name) = none ∧ ¬ s.IsExposed name

/-- The latest calls on the storage, the owner record and the table of a name fit the latest call on
its entry. -/
structure InOrder (settings : Settings) (errand : ι → Errand) (xs : List (ThreadExchange ι))
    (name : String) : Prop where
  storage : stands (storageWrite name) xs = stands (entryWrite name) xs
  owner : stands (ownerWrite (settings.entity name)) xs =
    (stands (entryWrite name) xs && (committedOwner errand name xs).isSome)
  table : stands (tableWrite name) xs = stands (entryWrite name) xs

/-- Storage and owner record of a name belong to its entry. -/
structure NothingForeign (settings : Settings) (errand : ι → Errand)
    (xs : List (ThreadExchange ι)) (s : Inventory) (name : String) : Prop where
  storage : ∀ spec, s.stored name = some spec → s.ledger.find? name = some spec
  owner : ∀ principal, s.ledger.owners (settings.entity name) = some principal →
    (s.ledger.find? name).isSome ∧ committedOwner errand name xs = some principal

end

section

variable {ι : Type} [DecidableEq ι] {maker : Maker} {settings : Settings} {errand : ι → Errand}
  {types : TypeRegistry} {xs : List (ThreadExchange ι)}
  {q : Threads ι (Except CatalogError Unit)} {s : Inventory}

/-- Once all operations have returned, nothing is at stake any more. -/
theorem nothingForeign_of_returned
    (h : Interleaves (Inventory.Serves maker) (fun i => (errand i).program settings)
      (.empty types) xs q s) (returned : q.Returned) (name : String) :
    NothingForeign settings errand xs s name := by
  obtain ⟨phases, follows, stakes⟩ := stakes_of_interleaves h
  have idle : ∀ i, phases i = .idle := by
    intro i
    obtain ⟨r, hr⟩ := returned i
    have hi := follows i
    rw [hr] at hi
    exact hi
  constructor
  · intro spec hspec
    obtain there | ⟨i, owes⟩ := (stakes name).stored spec hspec
    · exact there
    · rw [idle i] at owes
      exact owes.elim
  · intro principal hprincipal
    obtain there | ⟨i, owes⟩ := (stakes name).owned principal hprincipal
    · exact there
    · rw [idle i] at owes
      exact owes.elim

omit [DecidableEq ι] in
/-- Where nothing foreign is left, being in step is a matter of what is there. -/
theorem NothingForeign.inStep_iff {name : String} (h : NothingForeign settings errand xs s name) :
    InStep settings errand xs s name ↔
      (s.stored name).isSome = (s.ledger.find? name).isSome ∧
      (s.ledger.owners (settings.entity name)).isSome =
        ((s.ledger.find? name).isSome && (committedOwner errand name xs).isSome) ∧
      StringMap.contains (InstanceName.table name) s.tables = (s.ledger.find? name).isSome := by
  obtain ⟨storage, owner⟩ := h
  unfold InStep Inventory.IsExposed
  cases hfind : s.ledger.find? name with
  | none => simp
  | some spec =>
    -- what is there can only be the storage and the owner of this entry
    have stored : s.stored name = some spec ↔ (s.stored name).isSome = true := by
      cases hstored : s.stored name with
      | none => simp
      | some t =>
        rw [hfind] at storage
        simp [Option.some.inj (storage t hstored)]
    have owned : s.ledger.owners (settings.entity name) = committedOwner errand name xs ↔
        (s.ledger.owners (settings.entity name)).isSome =
          (committedOwner errand name xs).isSome := by
      cases howner : s.ledger.owners (settings.entity name) with
      | none => cases committedOwner errand name xs <;> simp
      | some p => simp [(owner p howner).2]
    simp [stored, owned]

/-- Any number of operations run side by side on collaborators that work, starting from nothing. Once
all have returned, the stores are in step for a name exactly if the calls were in order for it.
Whatever their order was, what is left of storage and owner records belongs to the entry.
Operations that completed before others began are threads like the others. -/
theorem in_step_iff_in_order {σ : Type} {B : Conduct σ} {view : σ → Inventory}
    (serves : ∀ c s a s', B c s a s' → Inventory.Serves maker c (view s) a (view s')) {s s' : σ}
    (new : view s = .empty types)
    (h : Interleaves B (fun i => (errand i).program settings) s xs q s') (returned : q.Returned)
    (name : String) :
    (InStep settings errand xs (view s') name ↔ InOrder settings errand xs name) ∧
      NothingForeign settings errand xs (view s') name := by
  have seen := h.simulate fun _ => serves
  rw [new] at seen
  have foreign := nothingForeign_of_returned seen returned name
  refine ⟨foreign.inStep_iff.trans ?_, foreign⟩
  -- each kind of write is as its latest call left it
  have written {c s a s'} (answered : Inventory.Serves maker c s a s') :=
    serves_written answered name (settings.entity name)
  have entry : ((view s').ledger.find? name).isSome = stands (entryWrite name) xs :=
    seen.eq_latest (P := fun s => (s.ledger.find? name).isSome) fun _ _ _ _ _ answered =>
      (written answered).entry
  have owner : ((view s').ledger.owners (settings.entity name)).isSome =
      stands (ownerWrite (settings.entity name)) xs :=
    seen.eq_latest (P := fun s => (s.ledger.owners (settings.entity name)).isSome)
      fun _ _ _ _ _ answered => (written answered).owner
  have storage : ((view s').stored name).isSome = stands (storageWrite name) xs :=
    seen.eq_latest (P := fun s => (s.stored name).isSome) fun _ _ _ _ _ answered =>
      (written answered).storage
  have table : StringMap.contains (InstanceName.table name) (view s').tables =
      stands (tableWrite name) xs :=
    seen.eq_latest (P := fun s => StringMap.contains (InstanceName.table name) s.tables)
      fun _ _ _ _ _ answered => (written answered).table
  rw [entry, owner, storage, table]
  constructor
  · rintro ⟨hstorage, howner, htable⟩
    exact ⟨hstorage, howner, htable⟩
  · rintro ⟨hstorage, howner, htable⟩
    exact ⟨hstorage, howner, htable⟩

end

/-- Two creates and a drop of one name. -/
def outlasting : Fin 3 → Errand
  | 0 | 2 => .create "orders" ⟨"table", [], some "alice"⟩
  | 1 => .drop "orders"

theorem in_step_iff_in_order_in_memory :
    (∀ c s a s', workingConduct c s a s' → Inventory.Serves Stores.scriptedMaker c
        (Stores.inventory s.1) a (Stores.inventory s'.1)) ∧
      Stores.inventory WorkingStores.fresh.1 = .empty ({} : Stores).types ∧
      ∃ xs q s, Interleaves workingConduct (fun i => (outlasting i).program {}) .fresh xs q s ∧
        q.Returned ∧ (InStep {} outlasting xs (Stores.inventory s.1) "orders" ↔
          InOrder {} outlasting xs "orders") := by
  have serves : ∀ c s a s', workingConduct c s a s' → Inventory.Serves Stores.scriptedMaker c
      (Stores.inventory s.1) a (Stores.inventory s'.1) :=
    fun c s a s' answered => .of_works (workingConduct_works c s a s' answered)
  have new : Stores.inventory WorkingStores.fresh.1 = .empty ({} : Stores).types := rfl
  obtain ⟨xs, q, s, h, returned⟩ := InterleavesBy.exists_completion (fun _ => workingConduct_total)
    (.start (p := fun i => (outlasting i).program {}) (s := .fresh))
  refine ⟨serves, new, xs, q, s, h, returned, ?_⟩
  exact (in_step_iff_in_order serves new h returned "orders").1

/-- A drop that has taken out the entry lets a create run to its end, and then removes the storage
that is now the created instance's. -/
theorem drop_outlasts_create :
    ∃ xs q s, Interleaves (Inventory.Works Stores.scriptedMaker)
        (fun i => (outlasting i).program {}) (.empty ({} : Stores).types) xs q s ∧ q.Returned ∧
      s.ledger.find? "orders" = some (.ofType "orders" "table") ∧ s.stored "orders" = none ∧
      ¬ InStep {} outlasting xs s "orders" := by
  -- the first create runs to its end, the drop until the entry is gone, the second create to its end
  let schedule : List (Fin 3) := List.replicate 20 0 ++ List.replicate 6 1 ++
    List.replicate 20 2 ++ List.replicate 20 1
  let final := play (Inventory.answer Stores.scriptedMaker) schedule
    (fun i => (outlasting i).program {}) (.empty ({} : Stores).types)
  have returned : final.2.1.Returned := by
    intro i
    fin_cases i
    · exact ⟨.ok (), rfl⟩
    · exact ⟨.ok (), rfl⟩
    · exact ⟨.ok (), rfl⟩
  have entered : final.2.2.ledger.find? "orders" = some (.ofType "orders" "table") := rfl
  have emptied : final.2.2.stored "orders" = none := rfl
  refine ⟨_, _, _, interleaves_playBy _ schedule _ _, returned, entered, emptied, ?_⟩
  intro inStep
  unfold InStep at inStep
  rw [show Ledger.find? _ _ = _ from entered] at inStep
  cases emptied.symm.trans inStep.1

end DatasetCatalog.Lifecycle
