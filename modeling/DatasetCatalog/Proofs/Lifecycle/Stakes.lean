import DatasetCatalog.Proofs.Lifecycle.Inventory
import DatasetCatalog.Proofs.Lifecycle.Phases
import DatasetCatalog.Proofs.Program.Interleaving

/-!
# Whatever is out of step is at stake somewhere

Operations run side by side on collaborators that work. At every moment an owner record or storage
that does not belong to an entry of the catalog belongs to an operation that has it at stake: a
create that has made it, or a drop that is going to remove it. `Stakes` is this invariant;
`Stakes.move` shows, move by move, that it is kept, and `stakes_of_interleaves` that it holds
throughout. What is left when all operations have returned is read off it.
-/

namespace DatasetCatalog.Lifecycle

open Program

variable {ι : Type} {maker : Maker} {settings : Settings} {name : String}

/-- The name that a call has added to the catalog. -/
def addition? : Exchange → Option String
  | ⟨.addInstance spec, .ok _⟩ => some spec.name
  | _ => none

/-- The operation that has added the latest entry of a name. -/
def committer (name : String) : List (ThreadExchange ι) → Option ι :=
  latest fun x => if addition? x.2 = some name then some x.1 else none

theorem committer_snoc_of_ne {xs : List (ThreadExchange ι)} {x : ThreadExchange ι}
    (h : addition? x.2 ≠ some name) : committer name (xs ++ [x]) = committer name xs :=
  latest_snoc_none (if_neg h) xs

theorem committer_snoc_self {xs : List (ThreadExchange ι)} {i : ι} {spec : Specification}
    {u : Unit} : committer spec.name (xs ++ [(i, ⟨.addInstance spec, .ok u⟩)]) = some i :=
  latest_snoc_some (if_pos rfl) xs

/-- What is true of a name at every moment, in the stores and in the phases of the operations. The
operation `i` records `owner i`, if it does. -/
structure StakesAt (settings : Settings) (owner : ι → Option Principal) (phases : ι → Phase)
    (xs : List (ThreadExchange ι)) (s : Inventory) (name : String) : Prop where
  named : ∀ spec, s.ledger.find? name = some spec → spec.name = name
  reserved : ∀ i, (phases i).Holds name → name ∈ s.reserved
  exclusive : ∀ i j, (phases i).Holds name → (phases j).Holds name → i = j
  vacant : ∀ i, (phases i).Vacates name → s.ledger.find? name = none
  owned : ∀ principal, s.ledger.owners (settings.entity name) = some principal →
    (s.ledger.find? name).isSome ∧ (committer name xs).bind owner = some principal ∨
    ∃ i, (phases i).OwesOwner name principal
  stored : ∀ spec, s.stored name = some spec →
    s.ledger.find? name = some spec ∨ ∃ i, (phases i).OwesStorage name spec

/-- What is true at every moment. -/
abbrev Stakes (settings : Settings) (owner : ι → Option Principal) (phases : ι → Phase)
    (xs : List (ThreadExchange ι)) (s : Inventory) : Prop :=
  ∀ name, StakesAt settings owner phases xs s name

theorem Stakes.start (owner : ι → Option Principal) (types : TypeRegistry) :
    Stakes settings owner (fun _ => .idle) [] (.empty types) := fun name =>
  { named := fun _ h => by cases h
    reserved := fun _ h => h.elim
    exclusive := fun _ _ h => h.elim
    vacant := fun _ h => h.elim
    owned := fun _ h => by cases h
    stored := fun _ h => by cases h }

namespace Phase

variable {φ : Phase}

theorem Vacates.holds (h : φ.Vacates name) : φ.Holds name := by
  cases φ <;> first | exact h | exact h.elim

theorem Holds.concerns (h : φ.Holds name) : φ.Concerns name := by
  cases φ <;> first | exact h | exact h.elim

theorem OwesOwner.concerns {principal : Principal} (h : φ.OwesOwner name principal) :
    φ.Concerns name := by
  cases φ with
  | making n claim made =>
    cases claim with
    | none => exact h.elim
    | some p => exact h.1
  | owing n due =>
    cases due with
    | false => exact h.elim
    | true => exact h
  | _ => exact h.elim

theorem OwesStorage.concerns {spec : Specification} (h : φ.OwesStorage name spec) :
    φ.Concerns name := by
  cases φ with
  | making n claim made =>
    cases made with
    | none => exact h.elim
    | some t => exact h.1
  | owing n due => exact h
  | _ => exact h.elim

end Phase

variable [DecidableEq ι] {owner : ι → Option Principal} {phases : ι → Phase} {φ : Phase} {i : ι}
  {xs : List (ThreadExchange ι)} {x : ThreadExchange ι} {s s' : Inventory}

/-- A move that adds nothing to the stores at a name, and gives up only what is then gone from them
or was not at stake, keeps what is true of the name. -/
theorem StakesAt.keep {φ₀ : Phase} (h : StakesAt settings owner phases xs s name)
    (hi : phases i = φ₀) (hx : addition? x.2 ≠ some name)
    (catalog : s'.ledger.find? name = s.ledger.find? name)
    (owners : ∀ principal, s'.ledger.owners (settings.entity name) = some principal →
      s.ledger.owners (settings.entity name) = some principal ∧
        (φ₀.OwesOwner name principal → φ.OwesOwner name principal))
    (storage : ∀ spec, s'.stored name = some spec →
      s.stored name = some spec ∧ (φ₀.OwesStorage name spec → φ.OwesStorage name spec))
    (holds : φ.Holds name → φ₀.Holds name)
    (vacates : φ.Vacates name → s.ledger.find? name = none)
    (reserved : name ∈ s.reserved → name ∈ s'.reserved ∨ φ₀.Holds name ∧ ¬ φ.Holds name) :
    StakesAt settings owner (Function.update phases i φ) (xs ++ [x]) s' name := by
  subst hi
  have holder : ∀ j, (Function.update phases i φ j).Holds name → (phases j).Holds name := by
    intro j hj
    obtain ⟨rfl, hφ⟩ | ⟨-, hj⟩ := of_update (P := (Phase.Holds · name)) hj
    · exact holds hφ
    · exact hj
  refine ⟨?_, ?_, ?_, ?_, ?_, ?_⟩
  · rw [catalog]
    exact h.named
  · -- a right that was given back was the only one
    intro j hj
    obtain hin | ⟨hi, hφ⟩ := reserved (h.reserved j (holder j hj))
    · exact hin
    · obtain rfl := h.exclusive _ _ hi (holder j hj)
      rw [Function.update_self] at hj
      exact absurd hj hφ
  · exact fun j k hj hk => h.exclusive j k (holder j hj) (holder k hk)
  · intro j hj
    rw [catalog]
    obtain ⟨rfl, hφ⟩ | ⟨-, hj⟩ := of_update (P := (Phase.Vacates · name)) hj
    · exact vacates hφ
    · exact h.vacant j hj
  · intro principal howner
    obtain ⟨howner, keep⟩ := owners principal howner
    rw [catalog, committer_snoc_of_ne hx]
    exact (h.owned principal howner).imp_right fun howes =>
      exists_update (P := (Phase.OwesOwner · name principal)) howes keep
  · intro spec hspec
    obtain ⟨hspec, keep⟩ := storage spec hspec
    rw [catalog]
    exact (h.stored spec hspec).imp_right fun howes =>
      exists_update (P := (Phase.OwesStorage · name spec)) howes keep

/-- A move that leaves stores and phase as they are. -/
theorem StakesAt.stay (h : StakesAt settings owner phases xs s name) (hi : phases i = φ)
    (hx : addition? x.2 ≠ some name) (ledger : s'.ledger = s.ledger) (stored : s'.stored = s.stored)
    (reserved : s'.reserved = s.reserved) :
    StakesAt settings owner (Function.update phases i φ) (xs ++ [x]) s' name := by
  refine h.keep hi hx (by rw [ledger]) ?_ ?_ id ?_ ?_
  · exact fun p hp => ⟨ledger ▸ hp, id⟩
  · exact fun t ht => ⟨stored ▸ ht, id⟩
  · exact fun vacates => h.vacant i (hi ▸ vacates)
  · exact fun hmem => .inl (reserved ▸ hmem)

/-- What an operation does under one name leaves what is true of the others, so that the invariant is
to be shown for the one name only. -/
theorem Stakes.under {φ₀ : Phase} {n : String} (stakes : Stakes settings owner phases xs s)
    (hi : phases i = φ₀) (before : ∀ m, φ₀.Concerns m → m = n) (after : ∀ m, φ.Concerns m → m = n)
    (own : StakesAt settings owner (Function.update phases i φ) (xs ++ [x]) s' n)
    (others : ∀ m, m ≠ n → addition? x.2 ≠ some m ∧ s'.ledger.find? m = s.ledger.find? m ∧
      s'.ledger.owners (settings.entity m) = s.ledger.owners (settings.entity m) ∧
      s'.stored m = s.stored m ∧ (m ∈ s.reserved → m ∈ s'.reserved)) :
    Stakes settings owner (Function.update phases i φ) (xs ++ [x]) s' := by
  intro m
  by_cases hm : m = n
  · subst hm
    exact own
  obtain ⟨hx, catalog, owners, storage, reserved⟩ := others m hm
  refine (stakes m).keep hi hx catalog ?_ ?_ ?_ ?_ fun hmem => .inl (reserved hmem)
  · exact fun p hp => ⟨owners ▸ hp, fun howes => absurd (before _ howes.concerns) hm⟩
  · exact fun t ht => ⟨storage ▸ ht, fun howes => absurd (before _ howes.concerns) hm⟩
  · exact fun holds => absurd (after _ holds.concerns) hm
  · exact fun vacates => absurd (after _ vacates.holds.concerns) hm

/-! ### Moves that add to the stores or take from the catalog -/

theorem StakesAt.grant {n : String} (h : StakesAt settings owner phases xs s n)
    (hx : addition? x.2 ≠ some n) (idle : phases i = .idle) (free : n ∉ s.reserved) :
    StakesAt settings owner (Function.update phases i (.looking n)) (xs ++ [x])
      { s with reserved := n :: s.reserved } n := by
  have nobody : ∀ j, ¬ (phases j).Holds n := fun j hj => free (h.reserved j hj)
  have holder : ∀ j, (Function.update phases i (.looking n) j).Holds n → j = i := by
    intro j hj
    obtain ⟨rfl, -⟩ | ⟨-, hj⟩ := of_update (P := (Phase.Holds · n)) hj
    · rfl
    · exact absurd hj (nobody j)
  refine ⟨h.named, fun _ _ => List.mem_cons_self, ?_, ?_, ?_, ?_⟩
  · exact fun j k hj hk => (holder j hj).trans (holder k hk).symm
  · intro j hj
    obtain ⟨rfl, hφ⟩ | ⟨-, hj⟩ := of_update (P := (Phase.Vacates · n)) hj
    · exact hφ.elim
    · exact h.vacant j hj
  · intro principal howner
    rw [committer_snoc_of_ne hx]
    refine (h.owned principal howner).imp_right fun howes =>
      exists_update (P := (Phase.OwesOwner · n principal)) howes ?_
    rw [idle]
    exact fun hφ => hφ.elim
  · intro spec hspec
    refine (h.stored spec hspec).imp_right fun howes =>
      exists_update (P := (Phase.OwesStorage · n spec)) howes ?_
    rw [idle]
    exact fun hφ => hφ.elim

/-- A phase of the same holder, with more at stake. -/
theorem StakesAt.advance {n : String} {claim claim' : Option Principal}
    {made made' : Option Specification} (h : StakesAt settings owner phases xs s n)
    (hx : addition? x.2 ≠ some n) (hi : phases i = .making n claim made)
    (catalog : s'.ledger.find? n = s.ledger.find? n) (reserved : s'.reserved = s.reserved)
    (owned : ∀ principal, s'.ledger.owners (settings.entity n) = some principal →
      claim' = some principal ∨ claim' = claim ∧
        s.ledger.owners (settings.entity n) = some principal)
    (stored : ∀ spec, s'.stored n = some spec →
      made' = some spec ∨ made' = made ∧ s.stored n = some spec) :
    StakesAt settings owner (Function.update phases i (.making n claim' made')) (xs ++ [x]) s' n := by
  have holds : (phases i).Holds n := by
    rw [hi]
    exact rfl
  have vacant : s.ledger.find? n = none := h.vacant i (by rw [hi]; exact rfl)
  have holder : ∀ j, (Function.update phases i (.making n claim' made') j).Holds n →
      (phases j).Holds n := by
    intro j hj
    obtain ⟨rfl, -⟩ | ⟨-, hj⟩ := of_update (P := (Phase.Holds · n)) hj
    · exact holds
    · exact hj
  refine ⟨?_, ?_, ?_, ?_, ?_, ?_⟩
  · rw [catalog]
    exact h.named
  · intro j hj
    rw [reserved]
    exact h.reserved j (holder j hj)
  · exact fun j k hj hk => h.exclusive j k (holder j hj) (holder k hk)
  · intro j _
    rw [catalog, vacant]
  · intro principal howner
    rw [catalog, committer_snoc_of_ne hx]
    obtain rfl | ⟨rfl, hbefore⟩ := owned principal howner
    · exact .inr ⟨i, by rw [Function.update_self]; exact ⟨rfl, rfl⟩⟩
    · refine (h.owned principal hbefore).imp_right fun howes =>
        exists_update (P := (Phase.OwesOwner · n principal)) howes ?_
      rw [hi]
      cases claim' <;> exact id
  · intro spec hspec
    rw [catalog]
    obtain rfl | ⟨rfl, hbefore⟩ := stored spec hspec
    · exact .inr ⟨i, by rw [Function.update_self]; exact ⟨rfl, rfl⟩⟩
    · refine (h.stored spec hbefore).imp_right fun howes =>
        exists_update (P := (Phase.OwesStorage · n spec)) howes ?_
      rw [hi]
      cases made' <;> exact id

/-- The entry is that of the holder, so what it had at stake is now in the catalog. -/
theorem StakesAt.commit {spec : Specification} {u : Unit}
    (h : StakesAt settings owner phases xs s spec.name)
    (hi : phases i = .making spec.name (owner i) (some spec)) :
    StakesAt settings owner (Function.update phases i (.holding spec.name))
      (xs ++ [(i, ⟨.addInstance spec, .ok u⟩)]) { s with ledger := s.ledger.enter spec }
      spec.name := by
  have holds : (phases i).Holds spec.name := by
    rw [hi]
    exact rfl
  have vacant : s.ledger.find? spec.name = none := h.vacant i (by rw [hi]; exact rfl)
  have entered : (s.ledger.enter spec).find? spec.name = some spec :=
    (Ledger.find?_enter _ _ _).trans (if_pos rfl)
  have holder : ∀ j, (Function.update phases i (.holding spec.name) j).Holds spec.name → j = i := by
    intro j hj
    obtain ⟨rfl, -⟩ | ⟨-, hj⟩ := of_update (P := (Phase.Holds · spec.name)) hj
    · rfl
    · exact h.exclusive j i hj holds
  refine ⟨?_, ?_, ?_, ?_, ?_, ?_⟩
  · intro t ht
    rw [show Ledger.find? _ _ = _ from entered] at ht
    cases ht
    rfl
  · intro j hj
    rw [holder j hj] at hj
    exact h.reserved i holds
  · exact fun j k hj hk => (holder j hj).trans (holder k hk).symm
  · intro j hj
    obtain rfl := holder j hj.holds
    rw [Function.update_self] at hj
    exact hj.elim
  · intro principal howner
    rw [show Ledger.find? _ _ = _ from entered, committer_snoc_self]
    -- there was no entry, so the record is at stake, and now it is that of the entry
    obtain ⟨there, -⟩ | ⟨j, hj⟩ := h.owned principal howner
    · rw [vacant] at there
      cases there
    · by_cases heq : j = i
      · rw [heq, hi] at hj
        cases howner : owner i with
        | none =>
          rw [howner] at hj
          exact hj.elim
        | some p =>
          rw [howner] at hj
          exact .inl ⟨rfl, by rw [Option.bind_some, howner, hj.2]⟩
      · exact .inr ⟨j, by rwa [Function.update_of_ne heq]⟩
  · intro t ht
    rw [show Ledger.find? _ _ = _ from entered]
    obtain there | ⟨j, hj⟩ := h.stored t ht
    · rw [vacant] at there
      cases there
    · by_cases heq : j = i
      · rw [heq, hi] at hj
        exact .inl (congrArg some hj.2)
      · exact .inr ⟨j, by rwa [Function.update_of_ne heq]⟩

/-- The entry is gone, so its owner record and its storage are now owed by the drop. -/
theorem StakesAt.strike {n : String} (h : StakesAt settings owner phases xs s n) :
    StakesAt settings owner (Function.update phases i (.owing n true)) (xs ++ [x])
      { s with ledger := s.ledger.strike n } n := by
  have struck : (s.ledger.strike n).find? n = none :=
    (Ledger.find?_strike _ _ _).trans (if_pos rfl)
  have holder : ∀ j, (Function.update phases i (.owing n true) j).Holds n → (phases j).Holds n := by
    intro j hj
    obtain ⟨rfl, hφ⟩ | ⟨-, hj⟩ := of_update (P := (Phase.Holds · n)) hj
    · exact hφ.elim
    · exact hj
  refine ⟨?_, ?_, ?_, ?_, ?_, ?_⟩
  · intro t ht
    rw [show Ledger.find? _ _ = _ from struck] at ht
    cases ht
  · exact fun j hj => h.reserved j (holder j hj)
  · exact fun j k hj hk => h.exclusive j k (holder j hj) (holder k hk)
  · exact fun _ _ => struck
  · exact fun _ _ => .inr ⟨i, by rw [Function.update_self]; exact rfl⟩
  · exact fun _ _ => .inr ⟨i, by rw [Function.update_self]; exact rfl⟩

/-! ### All moves -/

/-- Quiet calls leave all but the tables as they are. -/
theorem serves_quiet {c : Call} {a : c.Answer} (quiet : isQuiet c = true)
    (answered : Inventory.Serves maker c s a s') :
    s'.ledger = s.ledger ∧ s'.stored = s.stored ∧ s'.reserved = s.reserved := by
  cases c with
  | findType n =>
    obtain ⟨-, rfl⟩ := answered
    exact ⟨rfl, rfl, rfl⟩
  | perform r limit =>
    cases r with
    | create c => cases quiet
    | drop r => cases quiet
    | _ =>
      cases answered
      exact ⟨rfl, rfl, rfl⟩
  | reserve n | release n | addInstance spec | removeInstance n | addOwner e p | removeOwner e =>
    cases quiet
  | _ =>
    cases answered
    exact ⟨rfl, rfl, rfl⟩

theorem serves_reserve {n : String} {granted : Bool}
    (answered : Inventory.Serves maker (.reserve n) s granted s') :
    granted = true ∧ n ∉ s.reserved ∧ s' = { s with reserved := n :: s.reserved } ∨
      granted = false ∧ s' = s := by
  cases answered
  unfold Reservations.reserve
  by_cases taken : s.reserved.contains n = true
  · rw [if_pos taken]
    exact .inr ⟨rfl, rfl⟩
  · rw [if_neg taken]
    exact .inl ⟨rfl, by simpa using taken, rfl⟩

theorem serves_findInstance {n : String} {found : Option Specification}
    (answered : Inventory.Serves maker (.findInstance n) s (.ok found) s') :
    s.ledger.find? n = found ∧ s' = s := by
  obtain ⟨hfound, rfl⟩ := Prod.mk.inj answered
  exact ⟨Except.ok.inj hfound, rfl⟩

theorem serves_addOwner {entity : EntityId} {principal : Principal} {a : Except OwnerError Unit}
    (answered : Inventory.Serves maker (.addOwner entity principal) s a s') :
    a = .ok () ∧ s' = { s with ledger := s.ledger.own entity principal } ∨
      (∃ e, a = .error e) ∧ s' = s := by
  obtain ⟨rfl, rfl⟩ := Prod.mk.inj answered
  cases hadd : s.ledger.addOwner entity principal with
  | mk result l =>
    cases result with
    | ok u =>
      obtain ⟨-, rfl⟩ := Ledger.addOwner_eq_ok hadd
      exact .inl ⟨rfl, rfl⟩
    | error e =>
      obtain rfl := Ledger.addOwner_eq_error hadd
      exact .inr ⟨⟨e, rfl⟩, rfl⟩

theorem serves_create {c : Storage.Creation} {limit : Duration} {a : Storage.Result (.create c)}
    (answered : Inventory.Serves maker (.perform (.create c) limit) s a s') :
    (∃ spec, a = .ok spec ∧ spec.name = c.name ∧
        s' = { s with stored := Function.update s.stored c.name (some spec) }) ∨
      (∃ e, a = .error e) ∧ s' = s := by
  have hperform : s.perform maker (.create c) = (a, s') := answered
  rw [Inventory.perform] at hperform
  split at hperform
  · cases hperform
    exact .inr ⟨⟨_, rfl⟩, rfl⟩
  · split at hperform
    · next spec made =>
      cases hperform
      exact .inl ⟨spec, rfl, maker.named made, rfl⟩
    · cases hperform
      exact .inr ⟨⟨_, rfl⟩, rfl⟩

theorem serves_addInstance {spec : Specification} {a : Except RegistryError Unit}
    (answered : Inventory.Serves maker (.addInstance spec) s a s') :
    a = .ok () ∧ s' = { s with ledger := s.ledger.enter spec } ∨ (∃ e, a = .error e) ∧ s' = s := by
  obtain ⟨rfl, rfl⟩ := Prod.mk.inj answered
  cases hadd : s.ledger.addInstance spec with
  | mk result l =>
    cases result with
    | ok u =>
      obtain ⟨-, rfl⟩ := Ledger.addInstance_eq_ok hadd
      exact .inl ⟨rfl, rfl⟩
    | error e =>
      obtain rfl := Ledger.addInstance_eq_error hadd
      exact .inr ⟨⟨e, rfl⟩, rfl⟩

theorem serves_removeInstance {n : String} {there : Bool}
    (answered : Inventory.Serves maker (.removeInstance n) s (.ok there) s') :
    (s.ledger.find? n).isSome = there ∧ s' = { s with ledger := s.ledger.strike n } := by
  obtain ⟨hresult, rfl⟩ := Prod.mk.inj answered
  exact ⟨Except.ok.inj hresult, rfl⟩

theorem mem_release {rs : Reservations} {m n : String} (h : m ∈ rs) (hne : m ≠ n) :
    m ∈ rs.release n :=
  List.mem_filter.2 ⟨h, by simpa using hne⟩

/-- One move keeps the invariant. -/
theorem Stakes.move {c : Call} {a : c.Answer}
    (stakes : Stakes settings owner phases xs s) (answered : Inventory.Serves maker c s a s')
    (move : (phases i).Move settings (owner i) c a φ) :
    Stakes settings owner (Function.update phases i φ) (xs ++ [(i, ⟨c, a⟩)]) s' := by
  generalize hi : phases i = φ₀ at move
  -- a move that changes the stores does so under one name, and `under` leaves that name to look at
  cases move with
  | quiet _ _ quiet =>
    obtain ⟨hledger, hstored, hreserved⟩ := serves_quiet quiet answered
    intro m
    have hx : addition? ⟨c, a⟩ ≠ some m := by
      cases c <;> first | cases quiet; done | nofun
    exact (stakes m).stay hi hx hledger hstored hreserved
  | granted n =>
    obtain ⟨-, free, rfl⟩ | ⟨hfalse, -⟩ := serves_reserve answered
    · refine stakes.under hi nofun (fun _ h => h.symm) ((stakes n).grant nofun hi free) ?_
      exact fun m _ => ⟨nofun, rfl, rfl, rfl, List.mem_cons_of_mem n⟩
    · cases hfalse
  | refused n =>
    obtain ⟨htrue, -⟩ | ⟨-, rfl⟩ := serves_reserve answered
    · cases htrue
    · intro m
      exact (stakes m).keep hi nofun rfl (fun _ hp => ⟨hp, id⟩) (fun _ ht => ⟨ht, id⟩) id nofun .inl
  | found n spec =>
    obtain ⟨-, rfl⟩ := serves_findInstance answered
    intro m
    exact (stakes m).keep hi nofun rfl (fun _ hp => ⟨hp, nofun⟩) (fun _ ht => ⟨ht, nofun⟩) id nofun
      .inl
  | missing n =>
    obtain ⟨missing, rfl⟩ := serves_findInstance answered
    intro m
    refine (stakes m).keep hi nofun rfl (fun _ hp => ⟨hp, nofun⟩) (fun _ ht => ⟨ht, nofun⟩) id ?_
      .inl
    rintro rfl
    exact missing
  | claimed n principal =>
    obtain ⟨-, rfl⟩ | ⟨⟨e, he⟩, -⟩ := serves_addOwner answered
    · refine stakes.under hi (fun _ h => h.symm) (fun _ h => h.symm) ?_ fun m hm =>
        ⟨nofun, rfl, Function.update_of_ne (entity_ne hm) _ _, rfl, id⟩
      refine (stakes n).advance nofun hi rfl rfl (fun p hp => .inl ?_) fun _ ht => .inr ⟨rfl, ht⟩
      exact (Function.update_self (settings.entity n) _ s.ledger.owners).symm.trans hp
    · cases he
  | denied n principal e =>
    obtain ⟨hok, -⟩ | ⟨-, rfl⟩ := serves_addOwner answered
    · cases hok
    · exact fun m => (stakes m).stay hi nofun rfl rfl rfl
  | disclaimed n claim =>
    cases answered
    refine stakes.under hi (fun _ h => h.symm) (fun _ h => h.symm) ?_ fun m hm =>
      ⟨nofun, rfl, Function.update_of_ne (entity_ne hm) _ _, rfl, id⟩
    refine (stakes n).advance nofun hi rfl rfl (fun p hp => ?_) fun _ ht => .inr ⟨rfl, ht⟩
    cases (Function.update_self _ _ _).symm.trans hp
  | made c limit claim spec named =>
    obtain ⟨t, ht, -, rfl⟩ | ⟨⟨e, he⟩, -⟩ := serves_create answered
    · cases ht
      refine stakes.under hi (fun _ h => h.symm) (fun _ h => h.symm) ?_ fun m hm =>
        ⟨nofun, rfl, rfl, Function.update_of_ne hm _ _, id⟩
      refine (stakes c.name).advance nofun hi rfl rfl (fun p hp => .inr ⟨rfl, hp⟩) fun t ht =>
        .inl ?_
      exact (Function.update_self c.name _ s.stored).symm.trans ht
    · cases he
  | unmade c limit claim e =>
    obtain ⟨t, ht, -⟩ | ⟨-, rfl⟩ := serves_create answered
    · cases ht
    · exact fun m => (stakes m).stay hi nofun rfl rfl rfl
  | cleared r limit claim =>
    cases answered
    refine stakes.under hi (fun _ h => h.symm) (fun _ h => h.symm) ?_ fun m hm =>
      ⟨nofun, rfl, rfl, Function.update_of_ne hm _ _, id⟩
    refine (stakes r.spec.name).advance nofun hi rfl rfl (fun p hp => .inr ⟨rfl, hp⟩) fun t ht => ?_
    cases (Function.update_self _ _ _).symm.trans ht
  | committed spec =>
    obtain ⟨-, rfl⟩ | ⟨⟨e, he⟩, -⟩ := serves_addInstance answered
    · refine stakes.under hi (fun _ h => h.symm) (fun _ h => h.symm) ((stakes spec.name).commit hi)
        fun m hm => ⟨?_, ?_, rfl, rfl, id⟩
      · exact fun heq => hm (Option.some.inj heq).symm
      · exact (Ledger.find?_enter _ _ _).trans (if_neg (Ne.symm hm))
    · cases he
  | released n =>
    cases answered
    refine stakes.under hi (fun _ h => h.symm) nofun ?_ fun m hm =>
      ⟨nofun, rfl, rfl, rfl, (mem_release · hm)⟩
    exact (stakes n).keep hi nofun rfl (fun _ hp => ⟨hp, nofun⟩) (fun _ ht => ⟨ht, nofun⟩) nofun
      nofun fun _ => .inr ⟨rfl, nofun⟩
  | abandoned n =>
    cases answered
    refine stakes.under hi (fun _ h => h.symm) nofun ?_ fun m hm =>
      ⟨nofun, rfl, rfl, rfl, (mem_release · hm)⟩
    exact (stakes n).keep hi nofun rfl (fun _ hp => ⟨hp, nofun⟩) (fun _ ht => ⟨ht, nofun⟩) nofun
      nofun fun _ => .inr ⟨rfl, nofun⟩
  | struck n =>
    obtain ⟨-, rfl⟩ := serves_removeInstance answered
    refine stakes.under hi nofun (fun _ h => h.symm) (stakes n).strike fun m hm =>
      ⟨nofun, ?_, rfl, rfl, id⟩
    exact (Ledger.find?_strike _ _ _).trans (if_neg (Ne.symm hm))
  | gone n =>
    obtain ⟨hgone, rfl⟩ := serves_removeInstance answered
    intro m
    refine (stakes m).keep hi nofun ?_ (fun _ hp => ⟨hp, id⟩) (fun _ ht => ⟨ht, id⟩) id nofun .inl
    refine (Ledger.find?_strike _ _ _).trans ?_
    split
    · next hm =>
      subst hm
      exact (Option.not_isSome_iff_eq_none.1 (by rw [hgone]; exact Bool.false_ne_true)).symm
    · rfl
  | disowned n =>
    cases answered
    refine stakes.under hi (fun _ h => h.symm) (fun _ h => h.symm) ?_ fun m hm =>
      ⟨nofun, rfl, Function.update_of_ne (entity_ne hm) _ _, rfl, id⟩
    refine (stakes n).keep hi nofun rfl (fun p hp => ?_) (fun _ ht => ⟨ht, id⟩) nofun nofun .inl
    cases (Function.update_self _ _ _).symm.trans hp
  | emptied r limit =>
    cases answered
    refine stakes.under hi (fun _ h => h.symm) nofun ?_ fun m hm =>
      ⟨nofun, rfl, rfl, Function.update_of_ne hm _ _, id⟩
    refine (stakes r.spec.name).keep hi nofun rfl (fun _ hp => ⟨hp, nofun⟩) (fun t ht => ?_) nofun
      nofun .inl
    cases (Function.update_self _ _ _).symm.trans ht

/-! ### All interleavings -/

omit [DecidableEq ι] in
/-- Where collaborators work, an operation that keeps to the moves gets possible answers. In
particular nothing is in the way of the instance that a create adds. -/
theorem Stakes.possible {c : Call} {a : c.Answer} (stakes : Stakes settings owner phases xs s)
    (answered : Inventory.Serves maker c s a s')
    (moves : ∀ a, Possible c a → ∃ φ, (phases i).Move settings (owner i) c a φ) :
    Possible c a := by
  cases c with
  | findInstance n =>
    cases answered
    exact ⟨_, rfl⟩
  | addInstance spec =>
    obtain ⟨φ, move⟩ := moves (.ok ()) rfl
    have vacant : s.ledger.find? spec.name = none := by
      generalize hi : phases i = φ₀ at move
      cases move with
      | quiet _ _ quiet => cases quiet
      | committed =>
        refine (stakes spec.name).vacant i ?_
        rw [hi]
        exact rfl
    obtain ⟨rfl, -⟩ := Prod.mk.inj answered
    rw [Ledger.addInstance, vacant]
    rfl
  | removeInstance n =>
    cases answered
    exact ⟨_, rfl⟩
  | removeOwner entity =>
    cases answered
    exact rfl
  | perform r limit =>
    cases r with
    | create c =>
      intro spec hspec
      obtain ⟨t, ht, named, -⟩ | ⟨⟨e, he⟩, -⟩ := serves_create answered
      · cases hspec.symm.trans ht
        exact named
      · cases hspec.symm.trans he
    | drop r =>
      cases answered
      exact rfl
    | _ => exact trivial
  | _ => exact trivial

/-- In every interleaving of operations there are phases that they are in, and with these the
invariant holds. -/
theorem stakes_of_interleaves {errand : ι → Errand} {types : TypeRegistry}
    {q : Threads ι (Except CatalogError Unit)}
    (h : Interleaves (Inventory.Serves maker) (fun i => (errand i).program settings)
      (.empty types) xs q s) :
    ∃ phases : ι → Phase,
      (∀ i, Follows settings (errand i).owner (phases i) (q i) fun _ φ => φ = .idle) ∧
      Stakes settings (fun i => (errand i).owner) phases xs s := by
  refine h.track_met (I := fun xs phases s => Stakes settings (fun i => (errand i).owner) phases xs s)
    (fun i => follows_program (errand i)) (Stakes.start _ types) ?_ ?_
  · exact fun i _ _ stakes answered moves => stakes.possible answered moves
  · exact fun i _ _ _ stakes answered move => stakes.move answered move

end DatasetCatalog.Lifecycle
