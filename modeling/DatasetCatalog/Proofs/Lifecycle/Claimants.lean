import DatasetCatalog.Proofs.Lifecycle.Aside
import DatasetCatalog.Proofs.Lifecycle.Coordinators

/-!
# Coordinators agree on the owner

Any number of creates of one name run side by side through coordinators that share the stores. A
create records its owner long before it adds the instance, and takes the record back if it fails
meanwhile. It says whose entity the record is to be removed for, and not whose record it is, so it is
not plain that it never removes that of somebody else.

What a create has written into the ledger and not taken back is its `Share`. A place in the ledger
that is only written while it is empty always shows the share of the one create that wrote it
(`Shown`), and so a create that takes its own share back takes nobody else's. The entry of the name
and the owner record of each namespace are such places, and `Agreed` says so of all of them at once.
-/

namespace DatasetCatalog

namespace Lifecycle

open Program Ledger

/-! ### A place with one writer -/

section

variable {ι Φ β : Type} {cell : Option β} {share : ι → Φ} {read : ι → Φ → Option β}

/-- A place shows what one party has written to it and not taken back. It is empty if nobody has. -/
structure Shown (cell : Option β) (read : ι → Φ → Option β) (share : ι → Φ) : Prop where
  mine : ∀ i b, read i (share i) = some b → cell = some b
  whose : ∀ b, cell = some b → ∃ i, read i (share i) = some b
  alone : ∀ i j b c, read i (share i) = some b → read j (share j) = some c → i = j

theorem Shown.start (nobody : ∀ i, read i (share i) = none) : Shown none read share where
  mine i _ h := nomatch (nobody i).symm.trans h
  whose _ h := nomatch h
  alone i _ _ _ h := nomatch (nobody i).symm.trans h

variable [DecidableEq ι] {i : ι} {φ : Φ}

/-- Somebody's share of the place stays what it is. -/
theorem Shown.keep (h : Shown cell read share) (same : read i φ = read i (share i)) :
    Shown cell read (Function.update share i φ) := by
  have unchanged : ∀ j, read j (Function.update share i φ j) = read j (share j) := by
    intro j
    by_cases hj : j = i
    · subst hj
      rw [Function.update_self, same]
    · rw [Function.update_of_ne hj]
  constructor
  case mine => simpa only [unchanged] using h.mine
  case whose => simpa only [unchanged] using h.whose
  case alone => simpa only [unchanged] using h.alone

/-- Somebody writes to an empty place. -/
theorem Shown.write {b : β} (h : Shown none read share) (written : read i φ = some b) :
    Shown (some b) read (Function.update share i φ) := by
  have here : ∀ j c, read j (Function.update share i φ j) = some c → j = i ∧ c = b := by
    intro j c hj
    by_cases heq : j = i
    · subst heq
      rw [Function.update_self, written] at hj
      exact ⟨rfl, (Option.some.inj hj).symm⟩
    · rw [Function.update_of_ne heq] at hj
      cases h.mine j c hj
  constructor
  case mine => exact fun j c hj => congrArg some (here j c hj).2.symm
  case whose =>
    intro c hc
    cases hc
    exact ⟨i, by rw [Function.update_self, written]⟩
  case alone => exact fun j k c d hj hk => (here j c hj).1.trans (here k d hk).1.symm

/-- Somebody takes back what they have written. -/
theorem Shown.takeBack {b : β} (h : Shown cell read share) (was : read i (share i) = some b)
    (gone : read i φ = none) : Shown none read (Function.update share i φ) := by
  refine .start fun j => ?_
  by_cases hj : j = i
  · subst hj
    rw [Function.update_self, gone]
  · rw [Function.update_of_ne hj, Option.eq_none_iff_forall_ne_some]
    exact fun c hc => hj (h.alone j i c b hc was)

end

/-! ### What a create writes -/

/-- What a create has written into the ledger and not taken back. -/
@[ext] structure Share where
  record : Option Principal
  entry : Option Specification

/-- The calls that write the ledger. -/
def isWrite : Call → Bool
  | .addInstance _ | .removeInstance _ | .addOwner .. | .removeOwner _ => true
  | _ => false

/-- How the calls of a create change its share. -/
inductive Share.Move (name : String) (entity : EntityId) : Moves Share
  | beside (φ : Share) {c : Call} (a : c.Answer) (h : isWrite c = false) :
      Move name entity φ c a φ
  | recorded (principal : Principal) :
      Move name entity ⟨none, none⟩ (.addOwner entity principal) (.ok ()) ⟨some principal, none⟩
  | denied (principal : Principal) (e : OwnerError) :
      Move name entity ⟨none, none⟩ (.addOwner entity principal) (.error e) ⟨none, none⟩
  | disowned (principal : Principal) (a : Except OwnerError Unit) :
      Move name entity ⟨some principal, none⟩ (.removeOwner entity) a ⟨none, none⟩
  | entered (record : Option Principal) {spec : Specification} (named : spec.name = name) :
      Move name entity ⟨record, none⟩ (.addInstance spec) (.ok ()) ⟨record, some spec⟩
  | refused (record : Option Principal) (spec : Specification) (e : RegistryError) :
      Move name entity ⟨record, none⟩ (.addInstance spec) (.error e) ⟨record, none⟩

/-- The share that a create which names an owner ends with: all or nothing. -/
def Share.Final (owner : Option Principal) : Except CatalogError Specification → Share → Prop
  | .ok spec, φ => φ = ⟨owner, some spec⟩
  | .error _, φ => φ = ⟨none, none⟩

namespace Share.Final

variable {owner : Option Principal} {r : Except CatalogError Specification} {φ : Share}

theorem entry_iff (h : Share.Final owner r φ) {spec : Specification} :
    φ.entry = some spec ↔ r = .ok spec := by
  cases r with
  | ok made =>
    obtain rfl : φ = ⟨owner, some made⟩ := h
    simp
  | error e =>
    obtain rfl : φ = ⟨none, none⟩ := h
    simp

theorem record_iff (h : Share.Final owner r φ) {p : Principal} :
    φ.record = some p ↔ ∃ spec, r = .ok spec ∧ owner = some p := by
  cases r with
  | ok made =>
    obtain rfl : φ = ⟨owner, some made⟩ := h
    simp
  | error e =>
    obtain rfl : φ = ⟨none, none⟩ := h
    simp

end Share.Final

section

variable {α : Type} {settings : Settings} {name : String} {entity : EntityId} {φ : Share}
  {request : InstanceConfiguration}

/-- The program makes no call that writes the ledger. -/
abbrev Reads (p : Program α) : Prop := p.Only (isWrite · = false)

/-- A program whose calls change its share as those of a create do. -/
abbrev Claims (name : String) (entity : EntityId) (φ : Share) (p : Program α)
    (Q : α → Share → Prop) : Prop := Tracks (Share.Move name entity) φ p Q

theorem isWrite_of_aside {c : Call} (h : isAside c = true) : isWrite c = false := by
  cases c with
  | addInstance | removeInstance | addOwner | removeOwner => cases h
  | _ => rfl

theorem reads_ask {c : Call} (h : isWrite c = false) : Reads (ask c) := only_ask h

theorem reads_aside {p : Program α} (h : Aside p) : Reads p := h.mono fun _ => isWrite_of_aside

theorem isWrite_of_storageWork {c : Call} (h : isStorageWork c = true) : isWrite c = false := by
  cases c with
  | addInstance | removeInstance | addOwner | removeOwner => cases h
  | _ => rfl

theorem reads_storageWork {p : Program α} (h : StorageWork p) : Reads p :=
  h.mono fun _ => isWrite_of_storageWork

theorem claims_reads {p : Program α} {Q : α → Share → Prop} (h : Reads p) (hQ : ∀ a, Q a φ) :
    Claims name entity φ p Q :=
  Tracks.of_only (fun _ reads a => .beside φ a reads) h hQ

/-- The owner record of a create is gone once it was taken back. -/
theorem claims_rollBackOwner (owner : Option Principal) :
    Claims name entity ⟨owner, none⟩ (rollBackOwner entity owner) fun _ φ => φ = ⟨none, none⟩ := by
  cases owner with
  | none => exact rfl
  | some principal => exact fun a _ => ⟨_, .disowned principal a, rfl⟩

/-- What the record of an owner ends in. -/
def Recorded (owner : Option Principal) : Except CatalogError Unit → Share → Prop
  | .ok _, φ => φ = ⟨owner, none⟩
  | .error _, φ => φ = ⟨none, none⟩

theorem claims_claimOwner (owner : Option Principal) :
    Claims name (settings.entity name) ⟨none, none⟩ (claimOwner settings name owner).run
      (Recorded owner) := by
  cases owner with
  | none => exact rfl
  | some principal =>
    refine Tracks.always_bind (Q := fun a φ => Recorded (some principal) (a.mapError .ownerStore) φ)
      (Tracks.ask fun a _ => ?_) fun a φ h => ?_
    · cases a with
      | ok u => exact ⟨_, .recorded principal, rfl⟩
      | error e => exact ⟨_, .denied principal e, rfl⟩
    · rcases a with e | u
      · cases e <;> exact h
      · exact h

theorem claims_failCreate (typeName : String) (owner : Option Principal) (e : StorageError) :
    Claims name (settings.entity name) ⟨owner, none⟩ (failCreate settings name typeName owner e)
      fun _ φ => φ = ⟨none, none⟩ := by
  refine Tracks.bind (claims_reads (reads_ask (by rfl)) fun _ => rfl) fun _ φ h => ?_
  subst h
  refine Tracks.bind (claims_rollBackOwner owner) fun _ φ h => ?_
  subst h
  split
  · exact rfl
  · refine Tracks.bind (claims_reads (reads_ask (by rfl)) fun _ => rfl) fun found φ h => ?_
    subst h
    rcases found with e | _ | spec <;> exact rfl

theorem claims_rollBack {spec : Specification} (named : spec.name = name) (typeMeta : TypeMeta)
    (owner : Option Principal) (e : RegistryError) :
    Claims name (settings.entity name) ⟨owner, none⟩ (rollBack settings spec typeMeta owner e)
      fun _ φ => φ = ⟨none, none⟩ := by
  subst named
  refine Tracks.bind (claims_rollBackOwner owner) fun _ φ h => ?_
  subst h
  split
  · exact rfl
  · have dropped : Reads (discard (perform settings (.drop ⟨spec, typeMeta⟩)) : Program Unit) :=
      (reads_storageWork (storageWork_perform _)).bind fun _ => trivial
    exact Tracks.bind (claims_reads dropped fun _ => rfl) fun _ φ h => h.symm

/-- What the entry of an instance ends in. -/
def Listed (owner : Option Principal) (spec : Specification) :
    Except RegistryError Unit → Share → Prop
  | .ok _, φ => φ = ⟨owner, some spec⟩
  | .error _, φ => φ = ⟨owner, none⟩

theorem claims_commit {spec : Specification} (named : spec.name = name) (typeName : String)
    (typeMeta : TypeMeta) (owner : Option Principal) :
    Claims name (settings.entity name) ⟨owner, none⟩
      (commit settings typeName spec typeMeta owner).run (Share.Final owner) := by
  refine Tracks.always_bind (Q := Listed owner spec) (Tracks.ask fun a _ => ?_) fun a φ h => ?_
  · cases a with
    | ok u => exact ⟨_, .entered owner named, rfl⟩
    | error e => exact ⟨_, .refused owner spec e, rfl⟩
  cases a with
  | error e =>
    obtain rfl : φ = ⟨owner, none⟩ := h
    exact Tracks.always_bind (claims_rollBack named typeMeta owner e) fun _ _ h => h
  | ok u =>
    -- the share is complete, and what follows tells others of it
    obtain rfl : φ = ⟨owner, some spec⟩ := h
    refine Tracks.mono (Q := fun r φ => r = .ok spec ∧ φ = ⟨owner, some spec⟩) ?_ ?_
    · refine Tracks.always_bind (claims_reads (reads_aside (aside_show _)) fun _ => rfl) ?_
      intro _ φ h
      subst h
      exact fun _ _ => ⟨_, .beside _ _ rfl, fun _ _ => ⟨_, .beside _ _ rfl, rfl, rfl⟩⟩
    · intro r φ h
      obtain ⟨rfl, rfl⟩ := h
      exact rfl

theorem claims_createReserved (owner : Option Principal) :
    Claims name (settings.entity name) ⟨none, none⟩
      (createReserved settings name request owner).run (Share.Final owner) := by
  refine Tracks.ofRegistry_bind (claims_reads (reads_ask (by rfl)) fun _ => rfl) ?_
    fun _ φ h => h.symm
  intro found φ h
  subst h
  cases found with
  | some spec => exact rfl
  | none =>
    refine Tracks.ofRegistry_bind (claims_reads (reads_ask (by rfl)) fun _ => rfl) ?_
      fun _ φ h => h.symm
    intro typed φ h
    subst h
    cases typed with
    | none => exact rfl
    | some typeMeta =>
      refine Tracks.step_bind (claims_claimOwner owner) ?_ fun _ _ h => h
      intro _ φ h
      obtain rfl : φ = ⟨owner, none⟩ := h
      refine Tracks.always_bind
        (claims_reads (reads_storageWork (storageWork_createStorage _)) fun _ => rfl) ?_
      intro made φ h
      subst h
      cases made with
      | error e => exact Tracks.always_bind (claims_failCreate _ owner e) fun _ _ h => h
      | ok spec =>
        dsimp only
        split
        · next named => exact claims_commit named _ typeMeta owner
        · exact Tracks.always_bind (claims_failCreate _ owner _) fun _ _ h => h

/-- Whatever it is answered, a create that names an owner ends with all that it wrote, or without any
of it. -/
theorem claims_create (settings : Settings) (name : String) (request : InstanceConfiguration) :
    Claims name (settings.entity name) ⟨none, none⟩ (create settings name request).run
      (Share.Final (ownerOf request)) := by
  cases checked : checkCreate settings name request with
  | error e =>
    rw [create_run_refused checked]
    exact rfl
  | ok owner =>
    obtain ⟨-, rfl⟩ := checkCreate_eq_ok checked
    rw [create_run checked]
    intro granted _
    refine ⟨_, .beside _ _ rfl, ?_⟩
    cases granted with
    | false => exact rfl
    | true =>
      refine Tracks.bind (claims_createReserved (ownerOf request)) fun r φ h => ?_
      exact fun _ _ => ⟨φ, .beside φ _ rfl, h⟩

end

/-! ### What the shares come to -/

theorem permits_of_reads {c : Call} {a : c.Answer} {l l' : Ledger} (h : isWrite c = false)
    (permitted : Permits c l a l') : l' = l := by
  cases c with
  | addInstance | removeInstance | addOwner | removeOwner => cases h
  | findInstance | allInstances | findOwner => exact permitted.2
  | _ => exact permitted

section

variable {ι : Type} {name : String} {entity : ι → EntityId} {share : ι → Share} {l l' : Ledger}

/-- The part of a share that an entity shows, where each create works for an entity of its own. -/
def recordFor (entity : ι → EntityId) (e : EntityId) (i : ι) (φ : Share) : Option Principal :=
  if entity i = e then φ.record else none

/-- The entry of a name and the owner records for it show what the creates of the name have written. -/
structure Agreed (name : String) (entity : ι → EntityId) (share : ι → Share) (l : Ledger) : Prop where
  entry : Shown (l.find? name) (fun _ => Share.entry) share
  record : ∀ k, Shown (l.owners (entity k)) (recordFor entity (entity k)) share

theorem Agreed.start (absent : l.find? name = none) (free : ∀ i, l.owners (entity i) = none) :
    Agreed name entity (fun _ => ⟨none, none⟩) l where
  entry := by
    rw [absent]
    exact .start fun _ => rfl
  record k := by
    rw [free k]
    exact .start fun i => ite_self none

variable {i : ι} {φ : Share}

theorem recordFor_own : recordFor entity (entity i) i φ = φ.record := if_pos rfl

theorem recordFor_other {e : EntityId} (h : entity i ≠ e) : recordFor entity e i φ = none := if_neg h

section

variable {owners : ι → Option Principal} {r : ι → Except CatalogError Specification}

/-- Once all creates have ended, the name is in the catalog if one of them has entered it. -/
theorem Agreed.find?_iff (h : Agreed name entity share l)
    (ended : ∀ i, Share.Final (owners i) (r i) (share i)) {spec : Specification} :
    l.find? name = some spec ↔ ∃ i, r i = .ok spec := by
  constructor
  · intro there
    obtain ⟨i, hi⟩ := h.entry.whose spec there
    exact ⟨i, (ended i).entry_iff.1 hi⟩
  · rintro ⟨i, hi⟩
    exact h.entry.mine i spec ((ended i).entry_iff.2 hi)

/-- Once all creates have ended, an entity has the owner that was named by one that succeeded for it. -/
theorem Agreed.owners_iff (h : Agreed name entity share l)
    (ended : ∀ i, Share.Final (owners i) (r i) (share i)) {k : ι} {p : Principal} :
    l.owners (entity k) = some p ↔
      ∃ i spec, r i = .ok spec ∧ entity i = entity k ∧ owners i = some p := by
  constructor
  · intro recorded
    obtain ⟨i, hi⟩ := (h.record k).whose p recorded
    obtain ⟨same, record⟩ := Option.ite_none_right_eq_some.1 hi
    obtain ⟨spec, hspec, named⟩ := (ended i).record_iff.1 record
    exact ⟨i, spec, hspec, same, named⟩
  · rintro ⟨i, spec, hspec, same, named⟩
    refine (h.record k).mine i p ((if_pos same).trans ?_)
    exact (ended i).record_iff.2 ⟨spec, hspec, named⟩

end

variable [DecidableEq ι]

/-- The ledger and the shares change in the record of one entity only. -/
theorem Agreed.keep_records (h : Agreed name entity share l) {p : Option Principal}
    (entry : φ.entry = (share i).entry) (here : Shown p (recordFor entity (entity i))
      (Function.update share i φ)) :
    Agreed name entity (Function.update share i φ)
      { l with owners := Function.update l.owners (entity i) p } where
  entry := h.entry.keep entry
  record k := by
    by_cases same : entity k = entity i
    · dsimp only
      rw [same, Function.update_self]
      exact here
    · dsimp only
      rw [Function.update_of_ne same]
      refine (h.record k).keep ?_
      rw [recordFor_other (Ne.symm same), recordFor_other (Ne.symm same)]

/-- What one create does keeps the ledger in line with all shares. -/
theorem Agreed.move {c : Call} {a : c.Answer} (h : Agreed name entity share l)
    (permitted : Permits c l a l') (move : Share.Move name (entity i) (share i) c a φ) :
    Agreed name entity (Function.update share i φ) l' := by
  generalize before : share i = φ₀ at move
  cases move with
  | beside _ a reads =>
    obtain rfl := permits_of_reads reads permitted
    rw [← before, Function.update_eq_self]
    exact h
  | recorded principal =>
    obtain ⟨free, rfl⟩ := addOwner_eq_ok (Eq.symm permitted)
    refine h.keep_records (by rw [before]) ?_
    have empty := h.record i
    rw [free] at empty
    exact empty.write recordFor_own
  | denied principal e =>
    obtain rfl := addOwner_eq_error (Eq.symm permitted)
    rw [← before, Function.update_eq_self]
    exact h
  | disowned principal a =>
    obtain ⟨-, rfl⟩ := permitted
    refine h.keep_records (by rw [before]) ?_
    exact (h.record i).takeBack (by rw [recordFor_own, before]) recordFor_own
  | @entered record spec named =>
    obtain added | ⟨e, he, -⟩ := permitted
    case inr => cases he
    obtain ⟨free, rfl⟩ := addInstance_eq_ok (Eq.symm added)
    constructor
    · rw [find?_enter, if_pos named]
      have empty := h.entry
      rw [← named, free] at empty
      exact empty.write rfl
    · intro k
      refine (h.record k).keep ?_
      simp [recordFor, before]
  | refused record spec e =>
    obtain rfl : l' = l := by
      obtain added | ⟨e, -, same⟩ := permitted
      · exact addInstance_eq_error (Eq.symm added)
      · exact same
    rw [← before, Function.update_eq_self]
    exact h

end

/-! ### All interleavings -/

/-- **Coordinators agree on the owner.** Any number of creates of one name run side by side through any
number of coordinators. The owner store works, the catalog may fail without effect, and all other
collaborators answer as they like. At any time at most one of the creates has succeeded. When all have
returned, the name is in the catalog exactly if one has; its instance is the one that this create
returned, and the owner record is the owner that it named, with no other record for the name. If none
has succeeded, there is no owner record. -/
theorem creates_agree_on_owner {ι σ : Type} [DecidableEq ι] {B : ι → Conduct σ} {ledger : σ → Ledger}
    (permitted : ∀ i c s a s', B i c s a s' → Permits c (ledger s) a (ledger s'))
    {settings : ι → Settings} {name : String} {requests : ι → InstanceConfiguration} {s s' : σ}
    (absent : (ledger s).find? name = none)
    (free : ∀ i, (ledger s).owners ((settings i).entity name) = none)
    {xs : List (ThreadExchange ι)} {q : Threads ι (Except CatalogError Specification)}
    (h : InterleavesBy B (fun i => (create (settings i) name (requests i)).run) s xs q s') :
    (∀ i j spec spec', q i = .done (.ok spec) → q j = .done (.ok spec') → i = j) ∧
      (q.Returned →
        (((ledger s').find? name).isSome ↔ ∃ i spec, q i = .done (.ok spec)) ∧
        (∀ i spec, q i = .done (.ok spec) → (ledger s').find? name = some spec ∧
          (ledger s').owners ((settings i).entity name) = ownerOf (requests i) ∧
          ∀ j, (settings j).entity name ≠ (settings i).entity name →
            (ledger s').owners ((settings j).entity name) = none) ∧
        ((∀ i, ∃ e, q i = .done (.error e)) →
          ∀ i, (ledger s').owners ((settings i).entity name) = none)) := by
  obtain ⟨share, claims, agreed⟩ : ∃ share : ι → Share,
      (∀ i, Claims name ((settings i).entity name) (share i) (q i)
        (Share.Final (ownerOf (requests i)))) ∧
      Agreed name (fun i => (settings i).entity name) share (ledger s') := by
    refine h.track
      (I := fun _ share s => Agreed name (fun i => (settings i).entity name) share (ledger s))
      (fun i => claims_create (settings i) name (requests i)) (.start absent free) ?_
    intro xs share s₁ s₂ i c a φ agreed answered move
    exact agreed.move (permitted _ _ _ _ _ answered) move
  have final : ∀ i r, q i = .done r → Share.Final (ownerOf (requests i)) r (share i) := by
    intro i r hi
    have tracked := claims i
    rw [hi] at tracked
    exact tracked
  have one : ∀ i j spec spec', q i = .done (.ok spec) → q j = .done (.ok spec') → i = j :=
    fun i j spec spec' hi hj => agreed.entry.alone i j spec spec'
      ((final i _ hi).entry_iff.2 rfl) ((final j _ hj).entry_iff.2 rfl)
  refine ⟨one, fun returned => ?_⟩
  choose r hr using returned
  have ended : ∀ i, Share.Final (ownerOf (requests i)) (r i) (share i) := fun i => final i _ (hr i)
  simp only [hr, Program.done.injEq] at one ⊢
  refine ⟨?_, fun i spec hi => ⟨(agreed.find?_iff ended).2 ⟨i, hi⟩, ?_, fun j other => ?_⟩,
    fun lost k => ?_⟩
  · rw [Option.isSome_iff_exists, exists_comm]
    exact exists_congr fun spec => agreed.find?_iff ended
  · ext p
    rw [agreed.owners_iff ended]
    constructor
    · rintro ⟨j, spec', hj, -, named⟩
      rwa [one i j spec spec' hi hj]
    · exact fun named => ⟨i, spec, hi, rfl, named⟩
  · rw [Option.eq_none_iff_forall_ne_some]
    intro p hp
    obtain ⟨k, spec', hk, same, -⟩ := (agreed.owners_iff ended).1 hp
    rw [one i k spec spec' hi hk] at other
    exact other same.symm
  · rw [Option.eq_none_iff_forall_ne_some]
    intro p hp
    obtain ⟨i, spec, hi, -⟩ := (agreed.owners_iff ended).1 hp
    obtain ⟨e, he⟩ := lost i
    cases hi.symm.trans he

end Lifecycle

/-- The ledger of stores that coordinators share. -/
def Shared.InMemory.ledger {κ : Type} (s : Shared.InMemory κ) : Ledger := s.1.stores.ledger

theorem Shared.InMemory.answer_permits {κ : Type} [DecidableEq κ] (k : κ) (c : Call)
    (s : Shared.InMemory κ) (a : c.Answer) (s' : Shared.InMemory κ)
    (answered : Conduct.ofHandler (answer k) c s a s') : Ledger.Permits c s.ledger a s'.ledger := by
  cases answered
  exact (Stores.answer_permitted s.2 c (s.1.reservations k)).2

namespace Lifecycle

open Program

/-- Two creates that name an owner, and one that names nobody. -/
def claimants : Fin 3 → InstanceConfiguration
  | 0 => ⟨"table", [], some "alice"⟩
  | 1 => ⟨"table", [], some "bob"⟩
  | 2 => ⟨"keyValueTable", [], none⟩

/-- Of two coordinators, the one of each create. -/
def doorOf : Fin 3 → Bool
  | 0 => false
  | 1 | 2 => true

/-- What the creates come to on a new deployment, if the first one records its owner and makes storage,
the second one fails on that record, the third one reclaims the storage and commits, and the first one
follows. -/
def claimed : List (ThreadExchange (Fin 3)) ×
    Threads (Fin 3) (Except CatalogError Specification) × Shared.InMemory Bool :=
  playBy (fun i => Shared.InMemory.answer (doorOf i))
    (List.replicate 6 0 ++ List.replicate 5 1 ++ List.replicate 20 2 ++ List.replicate 10 0)
    (fun i => (create {} "orders" (claimants i)).run) .fresh

theorem creates_agree_in_memory :
    (∀ i c s a s', Conduct.ofHandler (Shared.InMemory.answer (doorOf i)) c s a s' →
        Ledger.Permits c s.ledger a s'.ledger) ∧
      InterleavesBy (fun i => .ofHandler (Shared.InMemory.answer (doorOf i)))
        (fun i => (create {} "orders" (claimants i)).run) .fresh claimed.1 claimed.2.1 claimed.2.2 ∧
      claimed.2.1.Returned ∧
      -- meanwhile the first create has recorded alice, and the second one has met that record
      (0, ⟨.addOwner (.dataset "default" "orders") ⟨"alice"⟩, .ok ()⟩) ∈ claimed.1 ∧
      claimed.2.1 1 = .done (.error (.ownerExists "orders")) ∧
      claimed.2.1 2 = .done (.ok (.ofType "orders" "keyValueTable")) ∧
      claimed.2.2.ledger.find? "orders" = some (.ofType "orders" "keyValueTable") ∧
      claimed.2.2.ledger.owners (.dataset "default" "orders") = none := by
  have permitted i := Shared.InMemory.answer_permits (doorOf i)
  have run : InterleavesBy (fun i => .ofHandler (Shared.InMemory.answer (doorOf i)))
      (fun i => (create {} "orders" (claimants i)).run) .fresh claimed.1 claimed.2.1 claimed.2.2 :=
    interleaves_playBy _ _ _ _
  have returned : claimed.2.1.Returned := .of_next? (by decide +kernel)
  have won : claimed.2.1 2 = .done (.ok (.ofType "orders" "keyValueTable")) := rfl
  obtain ⟨-, ended⟩ := creates_agree_on_owner permitted rfl (fun _ => rfl) run
  obtain ⟨entry, owner, -⟩ := (ended returned).2.1 2 _ won
  exact ⟨permitted, run, returned, List.mem_of_getElem? (i := 3) rfl, rfl, won, entry, owner⟩

end Lifecycle

end DatasetCatalog
