import Mathlib.Algebra.BigOperators.Group.Finset.Piecewise
import Mathlib.Tactic.Abel
import DatasetCatalog.Proofs.Lifecycle.Coordinators
import DatasetCatalog.Proofs.Lifecycle.Stages
import DatasetCatalog.Proofs.StringMap

/-!
# The audit trail and the counters account for the state

What is in the catalog and in the owner store can be told from what was written down about it: each
instance was recorded once more as created than as dropped, each owner record once more as added than
as deleted, and the counters differ by the number of instances.

An `Account` is one of these equations. Between a change and its record they are off, and the stage of
the operation says by how much (`Stage.owes`). A call shifts an account by its `debt`, and it does so
on both sides: `Books.shift` is about the stores, `Stage.Move.shift` about the operation. So for
every interleaving of operations of any coordinators an account is off by what the operations owe
(`off_by_debts`), and operations that have returned owe nothing.
-/

namespace DatasetCatalog

/-- The catalog and the owner records, and what was written down: the events, the last one first, and
the readings. -/
@[ext] structure Books where
  ledger : Ledger
  audit : List Audit.Event
  readings : List Reading

namespace Books

/-- The books of a new deployment. -/
def empty : Books := ⟨⟨[], fun _ => none⟩, [], []⟩

/-- Writes events down. -/
def recordAll (b : Books) (es : List Audit.Event) : Books :=
  { b with audit := es.reverse ++ b.audit }

/-- The answers that a call may get where writes that fail have no effect. All else is not trusted.
The owner store records its own changes; the others are recorded by who makes them. -/
def Permits : Conduct Books
  | .addInstance spec, b, a, b' =>
    (∃ l, b.ledger.addInstance spec = (a, l) ∧ b' = { b with ledger := l }) ∨
      (∃ e, a = .error e) ∧ b' = b
  | .removeInstance name, b, a, b' =>
    (∃ l, b.ledger.removeInstance name = (a, l) ∧ b' = { b with ledger := l }) ∨
      (∃ e, a = .error e) ∧ b' = b
  | .addOwner entity principal, b, a, b' =>
    (∃ l, b.ledger.addOwner entity principal = (a, l) ∧
      b' = { b with ledger := l }.recordAll (Owner.addEvents entity principal a)) ∨
      (∃ e, a = .error e) ∧ b' = b.recordAll (Owner.addEvents entity principal a)
  | .removeOwner entity, b, a, b' =>
    a = .ok () ∧ b' = { b with ledger := b.ledger.disown entity }.recordAll
      (Owner.deleteEvents entity (.ok (b.ledger.owners entity).isSome)) ∨
      (∃ e, a = .error e) ∧ b' = b
  | .record event, b, _, b' => b' = b.recordAll [event]
  | .count reading, b, _, b' => b' = { b with readings := reading :: b.readings }
  | _, b, _, b' => b' = b

end Books

/-- Something that the books should say the same of on both sides. -/
inductive Account
  /-- The instance of a name. -/
  | entry (name : String)
  /-- The owner record of an entity. -/
  | owner (entity : EntityId)
  /-- The number of instances. -/
  | total

namespace Account

/-- What an event adds to an account. -/
def posted : Account → Audit.Event → ℤ
  | entry name, .created n _ _ => if n = name then 1 else 0
  | entry name, .dropped n _ => if n = name then -1 else 0
  | entry name, .dropFailed n _ _ => if n = name then -1 else 0
  | owner entity, .ownerAdded e _ => if e = entity then 1 else 0
  | owner entity, .ownerDeleted e => if e = entity then -1 else 0
  | _, _ => 0

/-- What a reading adds to an account. -/
def read : Account → Reading → ℤ
  | total, .created _ => 1
  | total, .dropped _ => -1
  | _, _ => 0

/-- What a call that adds an instance, or removes one, adds to an account. -/
def changed : Account → String → ℤ
  | entry name, n => if n = name then 1 else 0
  | owner _, _ => 0
  | total, _ => 1

/-- By how much a call shifts what there is against what was written down. -/
def debt (account : Account) : Exchange → ℤ
  | ⟨.addInstance spec, .ok _⟩ => account.changed spec.name
  | ⟨.removeInstance name, .ok true⟩ => -account.changed name
  | ⟨.record event, _⟩ => -account.posted event
  | ⟨.count reading, _⟩ => -account.read reading
  | _ => 0

end Account

namespace Books

variable {b b' : Books} {account : Account}

/-- What was written down on an account. -/
def written (b : Books) (account : Account) : ℤ :=
  (b.audit.map account.posted).sum + (b.readings.map account.read).sum

/-- What there is on an account. -/
def held (b : Books) : Account → ℤ
  | .entry name => (b.ledger.find? name).isSome.toNat
  | .owner entity => (b.ledger.owners entity).isSome.toNat
  | .total => b.ledger.catalog.length

/-- By how much an account is off. -/
def off (b : Books) (account : Account) : ℤ := b.held account - b.written account

/-! ### What calls do to the books -/

theorem written_recordAll (b : Books) (es : List Audit.Event) :
    (b.recordAll es).written account = b.written account + (es.map account.posted).sum := by
  simp only [written, recordAll, List.map_append, List.map_reverse, List.sum_append,
    List.sum_reverse]
  abel

theorem off_recordAll (b : Books) (es : List Audit.Event) :
    (b.recordAll es).off account = b.off account - (es.map account.posted).sum := by
  have : (b.recordAll es).held account = b.held account := by cases account <;> rfl
  rw [off, off, this, written_recordAll]
  abel

theorem written_ledger (b : Books) (l : Ledger) :
    ({ b with ledger := l } : Books).written account = b.written account := rfl

theorem held_enter {spec : Specification} (free : b.ledger.find? spec.name = none) :
    ({ b with ledger := b.ledger.enter spec } : Books).held account =
      b.held account + account.changed spec.name := by
  cases account with
  | entry name =>
    simp only [held, Ledger.find?_enter, Account.changed]
    by_cases h : spec.name = name
    · simp [← h, free]
    · simp [h]
  | owner entity => simp [held, Account.changed]
  | total =>
    have longer : (b.ledger.enter spec).catalog.length = b.ledger.catalog.length + 1 :=
      StringMap.length_insert_of_free free spec
    simp [held, Account.changed, longer]

theorem held_strike {name : String} (sorted : StringMap.Sorted b.ledger.catalog) :
    ({ b with ledger := b.ledger.strike name } : Books).held account =
      b.held account - if (b.ledger.find? name).isSome then account.changed name else 0 := by
  cases hfind : b.ledger.find? name with
  | none =>
    have same : b.ledger.strike name = b.ledger :=
      Ledger.ext (StringMap.erase_of_free hfind) rfl
    simp [same]
  | some spec =>
    cases account with
    | entry n =>
      simp only [held, Ledger.find?_strike, Account.changed]
      by_cases h : name = n
      · simp [← h, hfind]
      · simp [h]
    | owner entity => simp [held, Account.changed]
    | total =>
      have shorter : (b.ledger.strike name).catalog.length + 1 = b.ledger.catalog.length :=
        StringMap.length_erase_of_found sorted hfind
      simp only [held, Account.changed, ← shorter]
      simp

/-- Owner records and the events about them change together. -/
theorem off_own {entity : EntityId} {principal : Principal}
    (free : b.ledger.owners entity = none) :
    ({ b with ledger := b.ledger.own entity principal }.recordAll
      (Owner.addEvents entity principal (.ok ()))).off account = b.off account := by
  rw [off_recordAll]
  cases account with
  | owner e =>
    by_cases h : entity = e
    · subst h
      simp [off, held, written, Owner.addEvents, Account.posted, Ledger.own, free]
    · simp [off, held, written, Owner.addEvents, Account.posted, Ledger.own, h,
        Function.update_of_ne (Ne.symm h)]
  | _ => simp [off, held, written, Owner.addEvents, Account.posted, Ledger.own, Ledger.find?]

theorem off_disown {entity : EntityId} :
    ({ b with ledger := b.ledger.disown entity }.recordAll
      (Owner.deleteEvents entity (.ok (b.ledger.owners entity).isSome))).off account =
        b.off account := by
  rw [off_recordAll]
  cases hfind : b.ledger.owners entity with
  | none =>
    have same : b.ledger.disown entity = b.ledger :=
      Ledger.ext rfl (by rw [Ledger.disown, ← hfind, Function.update_eq_self])
    simp [same, Owner.deleteEvents]
  | some principal =>
    cases account with
    | owner e =>
      by_cases h : entity = e
      · subst h
        simp [off, held, written, Owner.deleteEvents, Account.posted, Ledger.disown, hfind]
        abel
      · simp [off, held, written, Owner.deleteEvents, Account.posted, Ledger.disown, h,
          Function.update_of_ne (Ne.symm h)]
    | _ => simp [off, held, written, Owner.deleteEvents, Account.posted, Ledger.disown, Ledger.find?]

/-- Events of an owner record that was not written are not on any account. -/
theorem posted_addEvents_error (entity : EntityId) (principal : Principal) (e : OwnerError) :
    ((Owner.addEvents entity principal (.error e)).map account.posted).sum = 0 := by
  cases e <;> cases account <;> simp [Owner.addEvents, Account.posted]

theorem sorted_of_permitted {c : Call} {a : c.Answer} (sorted : StringMap.Sorted b.ledger.catalog)
    (permitted : Permits c b a b') : StringMap.Sorted b'.ledger.catalog := by
  cases c with
  | addInstance spec =>
    obtain ⟨l, hadd, rfl⟩ | ⟨-, rfl⟩ := permitted
    · cases a with
      | ok u =>
        obtain ⟨-, rfl⟩ := Ledger.addInstance_eq_ok hadd
        exact sorted.insert _ _
      | error e =>
        obtain rfl := Ledger.addInstance_eq_error hadd
        exact sorted
    · exact sorted
  | removeInstance name =>
    obtain ⟨l, hremove, rfl⟩ | ⟨-, rfl⟩ := permitted
    · cases hremove
      exact sorted.erase _
    · exact sorted
  | addOwner entity principal =>
    obtain ⟨l, hadd, rfl⟩ | ⟨-, rfl⟩ := permitted
    · cases a with
      | ok u =>
        obtain ⟨-, rfl⟩ := Ledger.addOwner_eq_ok hadd
        exact sorted
      | error e =>
        obtain rfl := Ledger.addOwner_eq_error hadd
        exact sorted
    · exact sorted
  | removeOwner entity => obtain ⟨-, rfl⟩ | ⟨-, rfl⟩ := permitted <;> exact sorted
  | _ =>
    obtain rfl := permitted
    exact sorted

/-- A call shifts an account by its debt. -/
theorem shift {c : Call} {a : c.Answer} (sorted : StringMap.Sorted b.ledger.catalog)
    (permitted : Permits c b a b') : b'.off account = b.off account + account.debt ⟨c, a⟩ := by
  cases c with
  | addInstance spec =>
    cases a with
    | ok u =>
      obtain ⟨l, hadd, rfl⟩ | ⟨⟨e, he⟩, -⟩ := permitted
      · obtain ⟨free, rfl⟩ := Ledger.addInstance_eq_ok hadd
        rw [off, off, held_enter free, written_ledger, Account.debt]
        abel
      · cases he
    | error e =>
      have unchanged : b' = b := by
        obtain ⟨l, hadd, rfl⟩ | ⟨-, rfl⟩ := permitted
        · rw [Ledger.addInstance_eq_error hadd]
        · rfl
      rw [unchanged]
      exact (add_zero _).symm
  | removeInstance name =>
    obtain ⟨l, hremove, rfl⟩ | ⟨⟨e, rfl⟩, rfl⟩ := permitted
    · obtain ⟨rfl, rfl⟩ := Prod.mk.inj hremove
      rw [off, off, written_ledger]
      rw [show _ = _ from held_strike sorted]
      cases (b.ledger.find? name).isSome with
      | true => simp [Account.debt]; abel
      | false => simp [Account.debt]
    · exact (add_zero _).symm
  | addOwner entity principal =>
    refine .trans ?_ (add_zero _).symm
    obtain ⟨l, hadd, rfl⟩ | ⟨⟨e, rfl⟩, rfl⟩ := permitted
    · rcases a with e | u
      · rw [Ledger.addOwner_eq_error hadd, off_recordAll, posted_addEvents_error, sub_zero]
      · obtain ⟨free, rfl⟩ := Ledger.addOwner_eq_ok hadd
        exact off_own free
    · rw [off_recordAll, posted_addEvents_error, sub_zero]
  | removeOwner entity =>
    refine .trans ?_ (add_zero _).symm
    obtain ⟨-, rfl⟩ | ⟨-, rfl⟩ := permitted
    · exact off_disown
    · rfl
  | record event =>
    obtain rfl := permitted
    rw [off_recordAll, Account.debt]
    simp
    abel
  | count reading =>
    obtain rfl := permitted
    simp only [off, written, Account.debt, List.map_cons, List.sum_cons]
    cases account <;> simp only [held] <;> abel
  | _ =>
    obtain rfl := permitted
    exact (add_zero _).symm

end Books

/-! ### What operations owe -/

namespace Lifecycle

open Program

/-- By how much an account is off because of an operation at this stage. -/
def Stage.owes (account : Account) : Stage → ℤ
  | added n => account.changed n
  | recorded _ => match account with
    | .total => 1
    | _ => 0
  | removed n => -account.changed n
  | clearing n => match account with
    | .entry name => -(if n = name then 1 else 0)
    | _ => 0
  | _ => 0

theorem debt_of_beside {c : Call} {a : c.Answer} {account : Account} (h : isBeside c = true) :
    account.debt ⟨c, a⟩ = 0 := by
  cases c with
  | addInstance spec | removeInstance name => cases h
  | record event =>
    cases event <;> first | (cases h; done) | (cases account <;> rfl)
  | count reading =>
    cases reading <;> first | (cases h; done) | (cases account <;> rfl)
  | _ => rfl

/-- A call shifts what an operation owes by its debt. -/
theorem Stage.Move.shift {errand : Errand} {φ φ' : Stage} {c : Call} {a : c.Answer}
    {account : Account} (move : Stage.Move errand φ c a φ') :
    φ'.owes account = φ.owes account + account.debt ⟨c, a⟩ := by
  cases move with
  | beside _ _ h => rw [debt_of_beside h, add_zero]
  | recorded n typeName owner =>
    cases account <;> simp [Stage.owes, Account.debt, Account.changed, Account.posted]
  | counted n typeName =>
    cases account <;> simp [Stage.owes, Account.debt, Account.read]
  | uncounted n typeName =>
    cases account <;> simp [Stage.owes, Account.debt, Account.changed, Account.read]
  | dropped | dropFailed =>
    cases account with
    | entry name =>
      simp only [Stage.owes, Account.debt, Account.posted]
      split <;> rfl
    | _ => rfl
  | added spec plan => simp [Stage.owes, Account.debt]
  | removed _ n => simp [Stage.owes, Account.debt]
  | @missed _ n a notRemoved =>
    have nothing : account.debt ⟨.removeInstance n, a⟩ = 0 := by
      rcases a with e | _ | _
      case ok.true => exact absurd rfl notRemoved
      all_goals cases account <;> rfl
    rw [nothing, add_zero]
  | released canLeave =>
    cases φ <;> first | (cases canLeave; done) | simp [Stage.owes, Account.debt]
  | _ => simp [Stage.owes, Account.debt]

variable {ι : Type} [DecidableEq ι]

/-- A sum over threads when one of them moves. -/
theorem sum_move {Φ : Type} (f : Φ → ℤ) (stage : ι → Φ) {i : ι} {threads : Finset ι}
    (h : i ∈ threads) (φ : Φ) :
    ∑ j ∈ threads, f (Function.update stage i φ j) =
      ∑ j ∈ threads, f (stage j) + (f φ - f (stage i)) := by
  have moved : ∀ j, f (Function.update stage i φ j) = Function.update (f ∘ stage) i (f φ) j :=
    fun j => congrFun (Function.comp_update f stage i φ) j
  simp only [moved]
  rw [Finset.sum_update_of_mem h, Finset.sdiff_singleton_eq_erase,
    ← Finset.add_sum_erase threads (fun j => f (stage j)) h]
  simp only [Function.comp_apply]
  abel

/-- The operations that have done something, and by how much each account is off because of them. -/
structure OffByDebts (stage : ι → Stage) (b : Books) : Prop where
  sorted : StringMap.Sorted b.ledger.catalog
  off : ∃ threads : Finset ι, (∀ i ∉ threads, stage i = .outside) ∧
    ∀ account, b.off account = ∑ i ∈ threads, (stage i).owes account

theorem OffByDebts.move {stage : ι → Stage} {b b' : Books} {errand : Errand} {i : ι} {c : Call}
    {a : c.Answer} {φ : Stage} (h : OffByDebts stage b) (permitted : Books.Permits c b a b')
    (move : Stage.Move errand (stage i) c a φ) : OffByDebts (Function.update stage i φ) b' := by
  obtain ⟨sorted, threads, others, off⟩ := h
  refine ⟨Books.sorted_of_permitted sorted permitted, insert i threads, ?_, ?_⟩
  · intro j hj
    obtain ⟨hne, hnot⟩ := not_or.1 (Finset.mem_insert.not.1 hj)
    rw [Function.update_of_ne hne]
    exact others j hnot
  · intro account
    -- a thread that has done nothing yet owes nothing
    have widened : ∑ j ∈ insert i threads, (stage j).owes account =
        ∑ j ∈ threads, (stage j).owes account := by
      refine Finset.sum_insert_of_eq_zero_if_notMem fun hnot => ?_
      rw [others i hnot]
      rfl
    rw [Books.shift sorted permitted, off, sum_move (Stage.owes account) stage
      (Finset.mem_insert_self i threads), widened, move.shift]
    abel

end Lifecycle

/-! ### Reading the books -/

namespace Audit.Event

/-- An instance of the name was created. -/
def isCreated (name : String) : Event → Bool
  | created n _ _ => n = name
  | _ => false

/-- An instance of the name was dropped. -/
def isDropped (name : String) : Event → Bool
  | dropped n _ => n = name
  | _ => false

/-- An instance of the name was dropped, but for its storage. -/
def isDropFailed (name : String) : Event → Bool
  | dropFailed n _ _ => n = name
  | _ => false

/-- An owner of the entity was recorded. -/
def isOwnerAdded (entity : EntityId) : Event → Bool
  | ownerAdded e _ => e = entity
  | _ => false

/-- The owner record of the entity was removed. -/
def isOwnerDeleted (entity : EntityId) : Event → Bool
  | ownerDeleted e => e = entity
  | _ => false

end Audit.Event

namespace Books

open Audit

variable {b : Books}

/-- The total of a counter, over all its series. -/
def counter (b : Books) (metric : String) : ℕ := b.readings.countP (·.metric == metric)

/-- What was written down accounts for what there is. -/
structure Balanced (b : Books) : Prop where
  entry : ∀ name, (b.audit.countP (Event.isCreated name) : ℤ) -
    b.audit.countP (Event.isDropped name) - b.audit.countP (Event.isDropFailed name) =
      if (b.ledger.find? name).isSome then 1 else 0
  owner : ∀ entity, (b.audit.countP (Event.isOwnerAdded entity) : ℤ) -
    b.audit.countP (Event.isOwnerDeleted entity) =
      if (b.ledger.owners entity).isSome then 1 else 0
  total : (b.counter (Reading.created "").metric : ℤ) - b.counter (Reading.dropped "").metric =
    b.ledger.catalog.length

theorem posted_entry (name : String) (es : List Event) :
    (es.map (Account.entry name).posted).sum = (es.countP (Event.isCreated name) : ℤ) -
      es.countP (Event.isDropped name) - es.countP (Event.isDropFailed name) := by
  induction es with
  | nil => rfl
  | cons e rest ih =>
    rw [List.map_cons, List.sum_cons, ih]
    simp only [List.countP_cons]
    cases e with
    | created n | dropped n | dropFailed n =>
      by_cases h : n = name <;>
        simp [Account.posted, Event.isCreated, Event.isDropped, Event.isDropFailed, h]
      abel
    | _ => simp [Account.posted, Event.isCreated, Event.isDropped, Event.isDropFailed]

theorem posted_owner (entity : EntityId) (es : List Event) :
    (es.map (Account.owner entity).posted).sum = (es.countP (Event.isOwnerAdded entity) : ℤ) -
      es.countP (Event.isOwnerDeleted entity) := by
  induction es with
  | nil => rfl
  | cons e rest ih =>
    rw [List.map_cons, List.sum_cons, ih]
    simp only [List.countP_cons]
    cases e with
    | ownerAdded e | ownerDeleted e =>
      by_cases h : e = entity <;>
        simp [Account.posted, Event.isOwnerAdded, Event.isOwnerDeleted, h]
      abel
    | _ => simp [Account.posted, Event.isOwnerAdded, Event.isOwnerDeleted]

theorem read_total (rs : List Reading) :
    (rs.map Account.total.read).sum =
      (rs.countP (·.metric == (Reading.created "").metric) : ℤ) -
        rs.countP (·.metric == (Reading.dropped "").metric) := by
  induction rs with
  | nil => rfl
  | cons r rest ih =>
    rw [List.map_cons, List.sum_cons, ih]
    simp only [List.countP_cons]
    cases r <;> simp [Account.read, Reading.metric] <;> abel

/-- Books are balanced if no account is off. -/
theorem balanced_of_off (h : ∀ account, b.off account = 0) : b.Balanced := by
  have unread : ∀ account : Account, account ≠ .total → (b.readings.map account.read).sum = 0 := by
    intro account other
    have nothing : account.read = fun _ => 0 := by
      funext r
      cases account with
      | total => exact absurd rfl other
      | _ => cases r <;> rfl
    simp [nothing]
  have unposted : (b.audit.map Account.total.posted).sum = 0 := by
    have nothing : Account.total.posted = fun _ => 0 := by
      funext e
      cases e <;> rfl
    simp [nothing]
  have even : ∀ account, b.held account = b.written account := fun account => sub_eq_zero.1 (h account)
  constructor
  · intro name
    have same := even (.entry name)
    rw [written, unread (.entry name) nofun, add_zero, posted_entry] at same
    rw [← same]
    cases hfind : b.ledger.find? name <;> simp [held, hfind]
  · intro entity
    have same := even (.owner entity)
    rw [written, unread (.owner entity) nofun, add_zero, posted_owner] at same
    rw [← same]
    cases hfind : b.ledger.owners entity <;> simp [held, hfind]
  · have same := even .total
    rw [written, unposted, zero_add, read_total] at same
    exact same.symm

end Books

namespace Lifecycle

open Program

variable {ι : Type} [DecidableEq ι]

/-- In every interleaving of operations, the accounts are off by what the operations owe. -/
theorem off_by_debts {σ : Type} {B : ι → Conduct σ} {books : σ → Books}
    (permitted : ∀ i c s a s', B i c s a s' → Books.Permits c (books s) a (books s'))
    {settings : ι → Settings} {errands : ι → Errand} {s s' : σ} (new : books s = .empty)
    {xs : List (ThreadExchange ι)} {q : Threads ι (Except CatalogError Unit)}
    (h : InterleavesBy B (fun i => (errands i).program (settings i)) s xs q s') :
    ∃ stage : ι → Stage, (∀ i, Proceeds (errands i) (stage i) (q i) fun _ φ => φ = .outside) ∧
      OffByDebts stage (books s') := by
  refine h.track (I := fun _ stage s => OffByDebts stage (books s))
    (fun i => proceeds_program (settings i) (errands i)) ?_ ?_
  · rw [new]
    refine ⟨List.Pairwise.nil, ∅, fun _ _ => rfl, fun account => ?_⟩
    cases account <;> rfl
  · intro xs stage s₁ s₂ i c a φ off answered move
    exact off.move (permitted _ _ _ _ _ answered) move

/-- **The audit trail and the counters account for the state.** Operations of any number of
coordinators run side by side on stores that start empty, and whatever they call may fail, as long as
writes of the catalog and of the owner records that fail have no effect. When all have returned, an
instance was recorded once more as created than as dropped if it is in the catalog and just as often
if not; owner records likewise; and the counters of instances created and dropped differ by the number
of instances. -/
theorem books_balance {σ : Type} {B : ι → Conduct σ} {books : σ → Books}
    (permitted : ∀ i c s a s', B i c s a s' → Books.Permits c (books s) a (books s'))
    {settings : ι → Settings} {errands : ι → Errand} {s s' : σ} (new : books s = .empty)
    {xs : List (ThreadExchange ι)} {q : Threads ι (Except CatalogError Unit)}
    (h : InterleavesBy B (fun i => (errands i).program (settings i)) s xs q s')
    (returned : q.Returned) : (books s').Balanced := by
  obtain ⟨stage, proceeds, -, threads, -, off⟩ := off_by_debts permitted new h
  refine Books.balanced_of_off fun account => ?_
  rw [off account]
  refine Finset.sum_eq_zero fun i _ => ?_
  obtain ⟨-, ended⟩ := returned.ends proceeds i
  rw [ended]
  rfl

end Lifecycle

/-! ### Stores in memory -/

/-- The books of stores. -/
def Stores.books (s : Stores) : Books := ⟨s.ledger, s.audit, s.metrics.readings⟩

theorem Stores.answer_books {s : Stores} (h : s.InMemory) (c : Call) (rs : Reservations) :
    Books.Permits c s.books (answer c (rs, s)).1 (answer c (rs, s)).2.2.books := by
  have added spec := addInstance_ledger h spec rs
  have owned entity principal := addOwner_ledger h.owners entity principal rs
  obtain ⟨types, entries, records, storage, gateway, disk, audit, metrics, rfl⟩ := h.exists_eq
  cases c with
  | addInstance spec => exact .inl ⟨_, (added spec).symm, rfl⟩
  | removeInstance name => exact .inl ⟨_, rfl, rfl⟩
  | addOwner entity principal => exact .inl ⟨_, (owned entity principal).symm, rfl⟩
  | removeOwner entity =>
    refine .inl ⟨rfl, Books.ext ?_ rfl rfl⟩
    exact Ledger.ext rfl (Owner.Memory.find?_filter_ne records entity)
  | _ => exact rfl

/-- The books of stores that coordinators share. -/
def Shared.InMemory.books {κ : Type} (s : Shared.InMemory κ) : Books := s.1.stores.books

theorem Shared.InMemory.answer_books {κ : Type} [DecidableEq κ] (k : κ) (c : Call)
    (s : Shared.InMemory κ) (a : c.Answer) (s' : Shared.InMemory κ)
    (answered : Conduct.ofHandler (answer k) c s a s') : Books.Permits c s.books a s'.books := by
  cases answered
  exact Stores.answer_books s.2 c (s.1.reservations k)

namespace Lifecycle

open Program

/-- Two creates of one name, a drop of it and a reset. -/
def bustling : Fin 4 → Errand
  | 0 => .create "orders" ⟨"table", [], some "alice"⟩
  | 1 => .create "orders" ⟨"keyValueTable", [], none⟩
  | 2 => .drop "orders"
  | 3 => .dropAll

/-- The coordinator that carries an operation out. -/
def deskOf : Fin 4 → Fin 2
  | 0 | 3 => 0
  | 1 | 2 => 1

/-- What the operations come to on a new deployment, if the two creates first look around, the first
one then goes on to its end, and all others follow. -/
def bustled : List (ThreadExchange (Fin 4)) × Threads (Fin 4) (Except CatalogError Unit) ×
    Shared.InMemory (Fin 2) :=
  playBy (fun i => Shared.InMemory.answer (deskOf i))
    (List.replicate 4 0 ++ List.replicate 4 1 ++ List.replicate 20 0 ++ List.replicate 2 3 ++
      List.replicate 20 2 ++ List.replicate 20 1 ++ List.replicate 20 3)
    (fun i => (bustling i).program { unrecoverableReset := true }) .fresh

theorem books_balance_in_memory :
    (∀ i c s a s', Conduct.ofHandler (Shared.InMemory.answer (deskOf i)) c s a s' →
        Books.Permits c s.books a s'.books) ∧
      (.fresh : Shared.InMemory (Fin 2)).books = .empty ∧
      InterleavesBy (fun i => .ofHandler (Shared.InMemory.answer (deskOf i)))
        (fun i => (bustling i).program { unrecoverableReset := true }) .fresh bustled.1 bustled.2.1
        bustled.2.2 ∧
      bustled.2.1.Returned ∧ bustled.2.2.books.Balanced := by
  have permitted i := Shared.InMemory.answer_books (deskOf i)
  have h : InterleavesBy (fun i => .ofHandler (Shared.InMemory.answer (deskOf i)))
      (fun i => (bustling i).program { unrecoverableReset := true }) .fresh bustled.1 bustled.2.1
      bustled.2.2 := interleaves_playBy _ _ _ _
  have returned : bustled.2.1.Returned := .of_next? (by decide +kernel)
  exact ⟨permitted, rfl, h, returned, books_balance permitted rfl h returned⟩

end Lifecycle

end DatasetCatalog
