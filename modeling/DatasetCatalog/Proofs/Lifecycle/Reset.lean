import DatasetCatalog.Proofs.Lifecycle.Removals

/-!
# The reset is exact

Where nobody else works on the catalog, the reset finds every entry of its snapshot still there when
its turn comes. So nothing can be lost to somebody else: of each instance the entry goes and the
storage is asked to go, once and in the order of the names, and the answer to that alone decides how
the instance is counted (`dropEach_clears`). What becomes of one instance has no influence on the
next one.

The entries of the catalog are all that has to be followed. They are proper in whatever state
operations have left them (`InterleavesBy.proper`), and then the first entry of the snapshot is the
first of the catalog, which is what the induction is on.
-/

namespace DatasetCatalog

namespace StringMap

variable {α : Type}

/-- To remove the first key of a map in order is to remove the first entry. -/
theorem erase_first {key : String} {value : α} {m : StringMap α}
    (sorted : Sorted ((key, value) :: m)) : erase key ((key, value) :: m) = m := by
  obtain ⟨greater, -⟩ := List.pairwise_cons.1 sorted
  have others : ∀ e ∈ m, e.1 ≠ key := by
    rintro e he rfl
    exact String.lt_irrefl _ (greater e he)
  rw [erase, if_pos rfl, erase_eq_filter, List.filter_eq_self]
  exact fun e he => decide_eq_true (others e he)

end StringMap

namespace Entries

variable {m : Entries} {name : String} {spec : Specification}

theorem Proper.nil : Proper [] := ⟨.nil, nofun⟩

/-- The first entry of proper entries stands under the name of its instance. -/
theorem Proper.first (proper : Proper ((name, spec) :: m)) : spec.name = name :=
  proper.named (StringMap.find?_of_mem proper.sorted List.mem_cons_self)

theorem Proper.rest (proper : Proper ((name, spec) :: m)) : m.Proper := by
  have rest := proper.erase name
  rwa [StringMap.erase_first proper.sorted] at rest

end Entries

namespace Lifecycle

open Program

/-! ### One instance -/

/-- The removal of storage that was asked for, and what it was answered. -/
structure Teardown where
  removal : Storage.Removal
  result : Except StorageError Unit

namespace Teardown

/-- The instance whose storage it was. -/
def name (t : Teardown) : String := t.removal.spec.name

/-- The operation that was carried out. -/
def exchange (t : Teardown) : StorageExchange := ⟨.drop t.removal, t.result⟩

/-- Whether the storage stays. -/
def failed (t : Teardown) : Bool := !t.result.isOk

end Teardown

variable {settings : Settings} {m m' : Entries} {xs : List Exchange}

section

variable {α : Type} {p : Program α} {a : α} {spec : Specification}

/-- To look changes no entry. -/
theorem looks_works (looks : Looks p) (h : Runs Entries.Works p m xs a m') : m' = m := by
  refine h.invariant (I := (· = m)) looks (fun c m₁ a m₂ look answered same => ?_) rfl
  cases c with
  | findInstance | allInstances | findType => exact answered.2.trans same
  | findOwner | exposedTables | record | count => exact Eq.trans answered same
  | _ => cases look

/-- The removal of storage is one operation and changes no entry. -/
theorem perform_drop_works {r : Storage.Removal} {result : Except StorageError Unit}
    (h : Runs Entries.Works (perform settings (.drop r)) m xs result m') :
    storageOf xs = [⟨.drop r, result⟩] ∧ m' = m := by
  refine ⟨storageOf_perform h, ?_⟩
  obtain ⟨m₁, ys, rfl, ⟨p, looks, rest⟩, -⟩ := perform_answered h
  exact looks_works looks rest

theorem typeOf_works {r : Except CatalogError TypeMeta}
    (h : Runs Entries.Works (typeOf spec).run m xs r m') : ∃ typeMeta, r = .ok typeMeta := by
  rcases bind_ofRegistry_inv h with ⟨_, found, _, _, hfind, hrest, rfl⟩ | ⟨e, hfind, -⟩
  · cases found with
    | none => exact ⟨_, (pure_inv hrest).2.1⟩
    | some typeMeta => exact ⟨_, (pure_inv hrest).2.1⟩
  · obtain ⟨⟨found, told⟩, -⟩ := hfind.ask_inv.2
    cases told

theorem dropStorage_works {typeMeta : TypeMeta} {r : Except CatalogError Unit}
    (h : Runs Entries.Works (dropStorage settings spec typeMeta).run m xs r m') :
    ∃ result, storageOf xs = [⟨.drop ⟨spec, typeMeta⟩, result⟩] ∧
      r = (Fate.taken result).verdict spec.name ∧ m' = m := by
  obtain ⟨_, result, _, _, hdrop, hrest, rfl⟩ := bind_always_inv h
  obtain ⟨dropped, rfl⟩ := perform_drop_works hdrop
  refine ⟨result, ?_⟩
  rw [storageOf_append, dropped]
  cases result with
  | ok u =>
    obtain ⟨v, rfl, hrecord⟩ := always_inv hrest
    obtain ⟨rfl, rfl⟩ := hrecord.ask_inv
    exact ⟨rfl, rfl, rfl⟩
  | error e =>
    obtain ⟨_, v, _, _, hrecord, hthrow, rfl⟩ := bind_always_inv hrest
    obtain ⟨rfl, rfl⟩ := hrecord.ask_inv
    obtain ⟨rfl, rfl, rfl⟩ := throw_inv hthrow
    exact ⟨rfl, rfl, rfl⟩

/-- An instance whose entry is still there loses it, and then its storage is asked to go. Only the
answer to that is reported. -/
theorem dropFound_works {r : Except CatalogError Unit}
    (h : Runs Entries.Works (dropFound settings spec).run m xs r m')
    (there : (StringMap.find? spec.name m).isSome) :
    ∃ t : Teardown, t.removal.spec = spec ∧ storageOf xs = [t.exchange] ∧
      r = (Fate.taken t.result).verdict spec.name ∧ m' = StringMap.erase spec.name m := by
  rcases bind_inv h with ⟨ys₁, typeMeta, _, _, htype, h₁, rfl⟩ | ⟨e, htype, -⟩
  case inr =>
    obtain ⟨typeMeta, told⟩ := typeOf_works htype
    cases told
  have quiet₁ := storageOf_of_storageless (storageless_of_looks (looks_typeOf spec)) htype
  obtain rfl := looks_works (looks_typeOf spec) htype
  obtain ⟨_, _, _, _, hhide, h₂, rfl⟩ := bind_always_inv h₁
  obtain ⟨_, hidden, _, _, hwithdraw, htolerate, rfl⟩ := hhide.bind_inv
  obtain ⟨rfl, rfl⟩ := hwithdraw.ask_inv
  have quiet₂ :=
    storageOf_of_storageless (storageless_of_looks (looks_tolerate hidden)) htolerate
  obtain rfl := looks_works (looks_tolerate hidden) htolerate
  rcases bind_ofRegistry_inv h₂ with ⟨_, removed, _, _, hremove, h₃, rfl⟩ | ⟨e, hremove, -⟩
  case inr =>
    obtain ⟨told, -⟩ := hremove.ask_inv.2
    cases told
  obtain ⟨rfl, told, rfl⟩ := hremove.ask_inv
  obtain rfl := Except.ok.inj told
  rw [there] at h₃
  obtain ⟨_, _, _, _, hcount, h₄, rfl⟩ := bind_always_inv h₃
  obtain ⟨rfl, rfl⟩ := hcount.ask_inv
  obtain ⟨_, _, _, _, hdisown, h₅, rfl⟩ := bind_discard_always_inv h₄
  obtain ⟨rfl, rfl⟩ := hdisown.ask_inv
  obtain ⟨result, dropped, rfl, rfl⟩ := dropStorage_works h₅
  refine ⟨⟨⟨spec, typeMeta⟩, result⟩, rfl, ?_, rfl, rfl⟩
  simp only [storageOf_append, quiet₁, quiet₂, dropped]
  rfl

end

/-! ### All instances -/

namespace Teardown

variable {t : Teardown} {ts : List Teardown}

/-- The names whose storage is gone. -/
def successes (ts : List Teardown) : List String := (ts.filter fun t => !t.failed).map name

/-- The names whose storage stays. -/
def failures (ts : List Teardown) : List String := (ts.filter failed).map name

/-- What the reset says of removals. -/
def report (ts : List Teardown) : Except CatalogError DropReport :=
  if failures ts = [] then .ok ⟨ts.map name, []⟩
  else .error (.partialFailure (successes ts).length (failures ts))

/-- Where no removal has failed all have succeeded. -/
theorem successes_eq (h : failures ts = []) : successes ts = ts.map name := by
  have none_ : ts.filter failed = [] := List.map_eq_nil_iff.1 h
  rw [successes, List.filter_eq_self.2]
  intro t ht
  simpa using List.filter_eq_nil_iff.1 none_ t ht

/-- What is noted down of one more removal. -/
theorem tally_add (tally : Tally) (t : Teardown) :
    tally.add t.name ((Fate.taken t.result).verdict t.name) =
      ⟨tally.dropped ++ successes [t], tally.skipped, tally.failed ++ failures [t]⟩ := by
  obtain ⟨removal, e | u⟩ := t <;>
    simp [Fate.verdict, Tally.add, successes, failures, failed, Except.isOk, Except.toBool]

theorem successes_cons (t : Teardown) (ts : List Teardown) :
    successes (t :: ts) = successes [t] ++ successes ts := by
  rw [successes, successes, successes, ← List.map_append, ← List.filter_append, List.singleton_append]

theorem failures_cons (t : Teardown) (ts : List Teardown) :
    failures (t :: ts) = failures [t] ++ failures ts := by
  rw [failures, failures, failures, ← List.map_append, ← List.filter_append, List.singleton_append]

end Teardown

/-- Where nobody else works on the catalog, the loop of the reset takes entry after entry, and the
storage of each is asked to go once. -/
theorem dropEach_clears {tally tally' : Tally} (proper : m.Proper)
    (h : Runs Entries.Works (dropEach settings tally (StringMap.values m)) m xs tally' m') :
    ∃ ts : List Teardown, ts.map (·.removal.spec) = StringMap.values m ∧
      storageOf xs = ts.map Teardown.exchange ∧
      tally' = ⟨tally.dropped ++ Teardown.successes ts, tally.skipped,
        tally.failed ++ Teardown.failures ts⟩ ∧ m' = [] := by
  induction m generalizing tally xs with
  | nil =>
    obtain ⟨rfl, rfl, rfl⟩ := h.done_inv
    exact ⟨[], rfl, rfl, by simp [Teardown.successes, Teardown.failures], rfl⟩
  | cons e rest ih =>
    obtain ⟨name, spec⟩ := e
    obtain rfl := proper.first
    obtain ⟨ys, r, m₁, zs, hdrop, hrest, rfl⟩ := h.bind_inv
    have there : (StringMap.find? spec.name ((spec.name, spec) :: rest)).isSome := by
      simp [StringMap.find?]
    obtain ⟨t, rfl, dropped, rfl, rfl⟩ := dropFound_works hdrop there
    rw [StringMap.erase_first proper.sorted] at hrest
    rw [show t.removal.spec.name = t.name from rfl, Teardown.tally_add] at hrest
    obtain ⟨ts, specs, others, rfl, rfl⟩ := ih proper.rest hrest
    refine ⟨t :: ts, congrArg (t.removal.spec :: ·) specs, ?_, ?_, rfl⟩
    · rw [storageOf_append, dropped, others]
      rfl
    · rw [Teardown.successes_cons t ts, Teardown.failures_cons t ts, List.append_assoc, List.append_assoc]

/-- What the reset comes to where nobody else works on the catalog. If it is disabled, all it does is
to write that down. If it is enabled, no entry stays, the storage of each instance is asked to go
once, in the order of the entries, and a name counts as failed if and only if its storage stays. -/
def Clears (settings : Settings) (m : Entries) (xs : List Exchange)
    (r : Except CatalogError DropReport) (m' : Entries) : Prop :=
  if settings.unrecoverableReset then
    m' = [] ∧ ∃ ts : List Teardown, ts.map (·.removal.spec) = StringMap.values m ∧
      ts.map Teardown.name = StringMap.keys m ∧ storageOf xs = ts.map Teardown.exchange ∧
      r = Teardown.report ts
  else m' = m ∧ xs = [⟨.record .resetDenied, ()⟩] ∧ r = .error (.forbidden "unrecoverable reset")

theorem dropAll_clears {r : Except CatalogError DropReport} (proper : m.Proper)
    (h : Runs Entries.Works (dropAll settings).run m xs r m') : Clears settings m xs r m' := by
  rw [Clears]
  unfold dropAll at h
  split at h
  · next enabled =>
    rw [if_pos enabled]
    rcases bind_ofRegistry_inv h with ⟨_, specs, _, _, hall, h₁, rfl⟩ | ⟨e, hall, -⟩
    case inr =>
      obtain ⟨told, -⟩ := hall.ask_inv.2
      cases told
    obtain ⟨rfl, told, same⟩ := hall.ask_inv
    obtain rfl := same.symm
    obtain rfl := Except.ok.inj told
    obtain ⟨ys, tally, _, _, heach, h₂, rfl⟩ := bind_always_inv h₁
    obtain ⟨ts, specs, dropped, rfl, rfl⟩ := dropEach_clears proper heach
    obtain ⟨_, u, _, _, hrecord, h₃, rfl⟩ := bind_always_inv h₂
    obtain ⟨rfl, rfl⟩ := hrecord.ask_inv
    have names : ts.map Teardown.name = StringMap.keys m := by
      rw [← proper.map_name, ← specs, List.map_map]
      rfl
    simp only [List.nil_append, List.isEmpty_iff] at h₃
    by_cases none_ : Teardown.failures ts = []
    · rw [if_pos none_] at h₃
      obtain ⟨rfl, rfl, rfl⟩ := pure_inv h₃
      refine ⟨rfl, ts, specs, names, ?_, ?_⟩
      · rw [storageOf_append, storageOf_append, dropped]
        exact List.append_nil _
      · rw [Teardown.report, if_pos none_, Teardown.successes_eq none_]
    · rw [if_neg none_] at h₃
      obtain ⟨rfl, rfl, rfl⟩ := throw_inv h₃
      refine ⟨rfl, ts, specs, names, ?_, ?_⟩
      · rw [storageOf_append, storageOf_append, dropped]
        exact List.append_nil _
      · rw [Teardown.report, if_neg none_]
  · next disabled =>
    rw [if_neg disabled]
    obtain ⟨_, _, _, _, hrecord, hthrow, rfl⟩ := bind_always_inv h
    obtain ⟨rfl, rfl⟩ := hrecord.ask_inv
    obtain ⟨rfl, rfl, rfl⟩ := throw_inv hthrow
    exact ⟨rfl, rfl, rfl⟩

/-! ### After any calls -/

/-- Entries stay proper, whatever is called. -/
theorem InterleavesBy.proper {ι σ α : Type} [DecidableEq ι] {B : ι → Conduct σ} {entries : σ → Entries}
    {p q : Threads ι α} {s s' : σ} {xs : List (ThreadExchange ι)}
    (h : InterleavesBy B p s xs q s')
    (works : ∀ i c s a s', B i c s a s' → Entries.Works c (entries s) a (entries s'))
    (proper : (entries s).Proper) : (entries s').Proper := by
  induction h with
  | start => exact proper
  | step _ i _ answered ih => exact ((works _ _ _ _ _ answered).tells ih).2

/-- **The reset is exact.** Coordinators share a catalog that works and whose types are looked up
without failure; the storage, the query engine and the owner store answer as they like. Whatever
operations came before, a reset that runs while nobody else works comes to an end. If it is disabled,
it is forbidden and its one call writes that down. If it is enabled, the catalog is empty afterwards,
and for each name that was there, in increasing order, the storage was asked to go exactly once. It
reports all of them as dropped if all of that succeeded, and otherwise the names for which it failed, in
that order, with the number of the others. -/
theorem reset_is_exact {ι σ : Type} [DecidableEq ι] {B : ι → Conduct σ} {entries : σ → Entries}
    (works : ∀ i c s a s', B i c s a s' → Entries.Works c (entries s) a (entries s'))
    {settings : ι → Settings} {errands : ι → Errand} {s₀ s : σ} (proper : (entries s₀).Proper)
    {history : List (ThreadExchange ι)} {q : Threads ι (Except CatalogError Unit)}
    (before : InterleavesBy B (fun i => (errands i).program (settings i)) s₀ history q s)
    (i : ι) (total : (B i).Total) (reset : Settings) :
    (StringMap.keys (entries s)).Pairwise (· < ·) ∧
      (∃ xs r s', Runs (B i) (dropAll reset).run s xs r s') ∧
      ∀ xs r s', Runs (B i) (dropAll reset).run s xs r s' →
        Clears reset (entries s) xs r (entries s') := by
  have found : (entries s).Proper := InterleavesBy.proper before works proper
  refine ⟨List.pairwise_map.2 found.sorted, exists_runs total _ s, fun xs r s' run => ?_⟩
  exact dropAll_clears found (run.simulate (works i))

/-- Before the reset two instances are created. -/
def resetBefore : Bool → Errand
  | false => .create "sales" ⟨"table", [], none⟩
  | true => .create "orders" ⟨"table", [], some "alice"⟩

/-- Stores with an instance of a type that is not registered any more, whose query engine withdraws
nothing, and whose storage cannot remove `orders`. -/
def stubborn : Shared.InMemory Unit :=
  ⟨⟨fun _ => [], {
      instances := .memory [("ancient", .ofType "ancient" "gone")]
      storage := .memory { failures := [(⟨"drop", "orders"⟩, "stuck")] }
      gateway := { failWithdraw := true } }⟩, ⟨_, rfl⟩, _, rfl⟩

/-- The storage of `orders` stays, and that keeps neither its entry nor `sales` from going. -/
theorem stubborn_storage_is_reported :
    let created := playBy (fun _ : Bool => Shared.InMemory.answer ())
      (List.replicate 10 false ++ List.replicate 10 true)
      (fun i => (resetBefore i).program {}) stubborn
    let reset := (dropAll { unrecoverableReset := true }).run.run (Shared.InMemory.answer ())
      created.2.2
    (∀ (_ : Bool) c s a s', Conduct.ofHandler (Shared.InMemory.answer ()) c s a s' →
        Entries.Works c s.entries a s'.entries) ∧
      stubborn.entries.Proper ∧
      InterleavesBy (fun _ => .ofHandler (Shared.InMemory.answer ()))
        (fun i => (resetBefore i).program {}) stubborn created.1 created.2.1 created.2.2 ∧
      (Conduct.ofHandler (Shared.InMemory.answer ())).Total ∧
      StringMap.keys created.2.2.entries = ["ancient", "orders", "sales"] ∧
      reset.1 = .error (.partialFailure 2 ["orders"]) ∧
      ∃ xs, Clears { unrecoverableReset := true } created.2.2.entries xs reset.1 reset.2.entries := by
  intro created reset
  have works (_ : Bool) := Shared.InMemory.answer_entries ()
  have proper : stubborn.entries.Proper := Entries.Proper.nil.insert (.ofType "ancient" "gone")
  have run : InterleavesBy (fun _ : Bool => .ofHandler (Shared.InMemory.answer ()))
      (fun i => (resetBefore i).program {}) stubborn created.1 created.2.1 created.2.2 :=
    interleaves_playBy _ _ _ _
  have total : (Conduct.ofHandler (Shared.InMemory.answer ())).Total := fun c s => ⟨_, _, rfl⟩
  obtain ⟨-, -, clears⟩ := reset_is_exact works proper run true total { unrecoverableReset := true }
  obtain ⟨xs, ran⟩ := runs_ofHandler (Shared.InMemory.answer ())
    (dropAll { unrecoverableReset := true }).run created.2.2
  refine ⟨works, proper, run, total, ?_, ?_, xs, clears xs _ _ ran⟩
  · decide +kernel
  · decide +kernel

end Lifecycle

end DatasetCatalog
