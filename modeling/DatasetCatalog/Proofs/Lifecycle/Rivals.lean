import DatasetCatalog.Proofs.Lifecycle.Coordinators
import DatasetCatalog.Proofs.Lifecycle.Stages
import DatasetCatalog.Proofs.Lifecycle.Stakes

/-!
# Creates of one name through several coordinators

The right to a name is each coordinator's own, so creates of one name through several coordinators
run against each other, and only adding the instance to the catalog decides between them. The storage
is not decided so. Whoever finds storage of a name that is not in the catalog takes it for left over,
drops it and makes its own; but the storage can be that of a rival which adds its instance between the
look-up and the drop. Then the instance in the catalog is the one rival's and the storage the other's
(`storage_of_a_rival`).

What is true of every order of the calls is `storage_is_latest`: if the name ends up in the catalog,
there is storage, and it is what the latest successful attempt to make storage made. So it agrees with
the catalog exactly if that attempt made what is in the catalog, as it does if nobody dropped
storage. The invariant is `Rivalry`: storage may be missing for some time after somebody made some,
but then some rival has dropped it and is about to make its own.
-/

namespace DatasetCatalog

/-- What every call means where the collaborators work, whoever it is that has the right to a name. -/
def Inventory.Shares (maker : Maker) : Conduct Inventory
  | .reserve _, s, _, s' | .release _, s, _, s' => ∃ rs, s' = { s with reserved := rs }
  | c, s, a, s' => Works maker c s a s'

theorem Inventory.Shares.of_works {maker : Maker} {c : Call} {s s' : Inventory} {a : c.Answer}
    (works : Works maker c s a s') (rs : Reservations) :
    Shares maker c { s with reserved := rs } a { s' with reserved := rs } := by
  cases c with
  | reserve n | release n =>
    cases works
    exact ⟨rs, rfl⟩
  | perform r limit =>
    cases r with
    | create c =>
      have performed : s.perform maker (.create c) = (a, s') := works
      show Inventory.perform maker { s with reserved := rs } (.create c) = _
      rw [Inventory.perform] at performed ⊢
      dsimp only
      split at performed
      · next taken =>
        cases performed
        exact if_pos taken
      · next free =>
        rw [if_neg free]
        split at performed <;> cases performed <;> rfl
    | _ =>
      cases works
      rfl
  | _ =>
    cases works
    rfl

namespace Lifecycle

open Program Inventory

variable {maker : Maker} {s s' : Inventory} {name : String}

/-! ### What calls come to -/

theorem shares_types {c : Call} {a : c.Answer} (shared : Shares maker c s a s') :
    s'.types = s.types := by
  cases c with
  | reserve n | release n =>
    obtain ⟨rs, rfl⟩ := shared
    rfl
  | perform r limit =>
    cases r with
    | create c => obtain ⟨-, -, -, rfl⟩ | ⟨-, rfl⟩ := serves_create (.of_works shared) <;> rfl
    | _ =>
      cases shared
      rfl
  | _ =>
    cases shared
    rfl

/-- Calls made beside leave the storage and the catalog. -/
theorem shares_beside {c : Call} {a : c.Answer} (beside : isBeside c = true)
    (shared : Shares maker c s a s') :
    s'.stored = s.stored ∧ ∀ n, s'.ledger.find? n = s.ledger.find? n := by
  cases c with
  | reserve n | release n => cases beside
  | addOwner entity principal =>
    obtain ⟨-, rfl⟩ | ⟨-, rfl⟩ := serves_addOwner (.of_works shared) <;> exact ⟨rfl, fun _ => rfl⟩
  | removeOwner entity =>
    cases shared
    exact ⟨rfl, fun _ => rfl⟩
  | _ =>
    have aside : isAside _ = true := (Bool.or_false _).symm.trans beside
    obtain ⟨hledger, hstored, -⟩ := serves_quiet (isQuiet_of_isAside aside) (.of_works shared)
    exact ⟨hstored, fun _ => by rw [hledger]⟩

/-- Storage is made where there is none, or nothing is made. -/
theorem shares_create {c : Storage.Creation} {limit : Duration} {a : Storage.Result (.create c)}
    (shared : Shares maker (.perform (.create c) limit) s a s') :
    (∃ spec, a = .ok spec ∧ s.stored c.name = none ∧
        s' = { s with stored := Function.update s.stored c.name (some spec) }) ∨
      (∃ e, a = .error e ∧ ((s.stored c.name).isSome ∨ maker.make c = .error e)) ∧ s' = s := by
  have hperform : s.perform maker (.create c) = (a, s') := shared
  rw [Inventory.perform] at hperform
  split at hperform
  · next taken =>
    cases hperform
    exact .inr ⟨⟨_, rfl, .inl taken⟩, rfl⟩
  · next free =>
    split at hperform
    · next spec made =>
      cases hperform
      exact .inl ⟨spec, rfl, Option.not_isSome_iff_eq_none.1 free, rfl⟩
    · next e refused =>
      cases hperform
      exact .inr ⟨⟨e, rfl, .inr refused⟩, rfl⟩

/-! ### Making and dropping storage -/

/-- What a call has stored under a name. -/
def madeOf (name : String) : Exchange → Option Specification
  | ⟨.perform (.create c) _, .ok spec⟩ => if c.name = name then some spec else none
  | _ => none

/-- Whether a call is to drop the storage of a name. -/
def IsDropOf (name : String) : Exchange → Prop
  | ⟨.perform (.drop r) _, _⟩ => r.spec.name = name
  | _ => False

variable {ι : Type}

/-- What the latest call that made storage of a name stored. -/
def latestMade (name : String) (xs : List (ThreadExchange ι)) : Option Specification :=
  latest (fun x => madeOf name x.2) xs

/-- A create at this stage has made storage for a specification, and goes on to add it. -/
def Stage.Made (spec : Specification) : Stage → Prop
  | making _ _ (.made t) => t = spec
  | _ => False

/-- A create at this stage has dropped storage, and goes on to make its own. -/
def Stage.Cleared : Stage → Prop
  | making _ _ .cleared => True
  | _ => False

/-- Who has dropped storage does not give its right back before it has tried to make its own. -/
theorem Stage.CanLeave.not_cleared {φ : Stage} (h : φ.CanLeave name) : ¬ φ.Cleared := by
  intro cleared
  cases φ with
  | making n plan effort =>
    cases effort with
    | cleared => exact absurd rfl h.2
    | _ => exact cleared.elim
  | _ => exact cleared.elim

theorem madeOf_of_beside {c : Call} {a : c.Answer} (h : isBeside c = true) :
    madeOf name ⟨c, a⟩ = none := by
  cases c with
  | perform r limit => cases r <;> first | (cases h; done) | rfl
  | _ => rfl

/-! ### The invariant -/

/-- The requests for a name that rivals try to create. Each has a registered type, whose code accepts
the properties. -/
structure Rivals (ι : Type) (maker : Maker) where
  name : String
  types : TypeRegistry
  request : ι → InstanceConfiguration
  accepted : ∀ i typeMeta, types.find? (request i).typeName = some typeMeta →
    ∃ spec, maker.make ⟨name, typeMeta, (request i).properties⟩ = .ok spec

variable {k : Rivals ι maker}

/-- What is true of the stage of a rival: it has no other name in hand, what it plans to make is
accepted, and its instance is only refused because there is one already. -/
def Stage.Competes (k : Rivals ι maker) : Stage → Prop
  | outside => True
  | looking n | added n | recorded n | leaving n => n = k.name
  | making n plan effort => n = k.name ∧ (∀ c ∈ plan, ∃ spec, maker.make c = .ok spec) ∧
      ∀ e, effort = .refused e → ∃ m, e = .alreadyExists m
  | removed _ | clearing _ => False

/-- How the stages of rivals fit the stores and the calls so far. -/
structure Rivalry (k : Rivals ι maker) (stage : ι → Stage) (xs : List (ThreadExchange ι))
    (s : Inventory) : Prop where
  types : s.types = k.types
  competes : ∀ i, (stage i).Competes k
  stored : s.stored k.name = latestMade k.name xs ∨ s.stored k.name = none
  missing : s.stored k.name = none →
    s.ledger.find? k.name = none ∧ (∀ i spec, ¬ (stage i).Made spec) ∨ ∃ i, (stage i).Cleared
  made : ∀ i spec, (stage i).Made spec → ∃ x ∈ xs, madeOf k.name x.2 = some spec
  entered : ∀ spec, s.ledger.find? k.name = some spec → ∃ x ∈ xs, madeOf k.name x.2 = some spec
  kept : (∀ x ∈ xs, ¬ IsDropOf k.name x.2) →
    ∀ x ∈ xs, ∀ spec, madeOf k.name x.2 = some spec → s.stored k.name = some spec

variable {stage : ι → Stage} {xs : List (ThreadExchange ι)}

theorem Rivalry.start (new : s.types = k.types) (absent : s.ledger.find? k.name = none)
    (free : s.stored k.name = none) : Rivalry k (fun _ => .outside) [] s where
  types := new
  competes _ := trivial
  stored := .inr free
  missing _ := .inl ⟨absent, fun _ _ h => h⟩
  made _ _ h := h.elim
  entered spec h := by rw [absent] at h; cases h
  kept _ _ h := by cases h

variable [DecidableEq ι] {i : ι} {φ : Stage} {x : Exchange}

theorem exists_snoc {α : Type} {P : α → Prop} {xs : List α} (h : ∃ x ∈ xs, P x) (y : α) :
    ∃ x ∈ xs ++ [y], P x := by
  obtain ⟨x, hx, hP⟩ := h
  exact ⟨x, List.mem_append_left _ hx, hP⟩

/-- The stages go on to be those of rivals. -/
theorem Rivalry.competes_update (h : Rivalry k stage xs s) (competes : φ.Competes k) :
    ∀ j, (Function.update stage i φ j).Competes k :=
  (Function.forall_update_iff stage fun _ φ => φ.Competes k).2 ⟨competes, fun j _ => h.competes j⟩

/-- A move that makes nothing, leaves the storage as it is and enters in the catalog at most what the
rival has made keeps the invariant. -/
theorem Rivalry.keep (h : Rivalry k stage xs s) (types : s'.types = s.types)
    (storage : s'.stored k.name = s.stored k.name)
    (catalog : ∀ spec, s'.ledger.find? k.name = some spec →
      s.ledger.find? k.name = some spec ∨ (stage i).Made spec)
    (nothing : madeOf k.name x = none) (competes : φ.Competes k)
    (made : ∀ spec, φ.Made spec → (stage i).Made spec)
    (cleared : s.stored k.name = none → (stage i).Cleared → φ.Cleared) :
    Rivalry k (Function.update stage i φ) (xs ++ [(i, x)]) s' := by
  have latestSame : latestMade k.name (xs ++ [(i, x)]) = latestMade k.name xs :=
    latest_snoc_none nothing xs
  have madeBefore : ∀ j spec, (Function.update stage i φ j).Made spec → (stage j).Made spec := by
    intro j spec hj
    obtain ⟨rfl, hφ⟩ | ⟨-, hj⟩ := of_update (P := (Stage.Made spec ·)) hj
    · exact made spec hφ
    · exact hj
  constructor
  case types => rw [types, h.types]
  case competes => exact h.competes_update competes
  case stored =>
    rw [storage, latestSame]
    exact h.stored
  case missing =>
    intro gone
    rw [storage] at gone
    obtain ⟨absent, nobody⟩ | clearing := h.missing gone
    · refine .inl ⟨?_, fun j spec hj => nobody j spec (madeBefore j spec hj)⟩
      rw [Option.eq_none_iff_forall_ne_some]
      intro spec hspec
      obtain before | own := catalog spec hspec
      · cases absent.symm.trans before
      · exact nobody i spec own
    · exact .inr (exists_update clearing (cleared gone))
  case made => exact fun j spec hj => exists_snoc (h.made j spec (madeBefore j spec hj)) _
  case entered =>
    intro spec hspec
    obtain before | own := catalog spec hspec
    · exact exists_snoc (h.entered spec before) _
    · exact exists_snoc (h.made i spec own) _
  case kept =>
    intro undropped y hy spec hspec
    rw [storage]
    refine h.kept (fun y hy => undropped y (List.mem_append_left _ hy)) y ?_ spec hspec
    obtain hy | hy := List.mem_append.1 hy
    · exact hy
    · rw [List.mem_singleton.1 hy] at hspec
      cases nothing.symm.trans hspec

/-- Storage is made where there was none, and from then on it is that of the one who made it. -/
theorem Rivalry.make {c : Storage.Creation} {limit : Duration} {effort : Effort}
    {spec : Specification} (h : Rivalry k stage xs s)
    (hi : stage i = .making c.name (some c) effort)
    (shared : Shares maker (.perform (.create c) limit) s (.ok spec) s') :
    Rivalry k (Function.update stage i (.making c.name (some c) (.made spec)))
      (xs ++ [(i, ⟨.perform (.create c) limit, .ok spec⟩)]) s' := by
  have competes := h.competes i
  rw [hi] at competes
  obtain ⟨named, accepted, -⟩ := competes
  obtain ⟨t, ht, free, rfl⟩ | ⟨⟨e, he, -⟩, -⟩ := shares_create shared
  case inr => cases he
  cases ht
  rw [named] at free
  have new : madeOf k.name ⟨.perform (.create c) limit, .ok spec⟩ = some spec := if_pos named
  have here : Function.update s.stored c.name (some spec) k.name = some spec := by
    rw [named, Function.update_self]
  constructor
  case types => exact h.types
  case competes => exact h.competes_update ⟨named, accepted, nofun⟩
  case stored =>
    refine .inl (here.trans ?_)
    exact (latest_snoc_some (f := fun x : ThreadExchange ι => madeOf k.name x.2) new xs).symm
  case missing =>
    intro gone
    cases here.symm.trans gone
  case made =>
    intro j t hj
    obtain ⟨-, rfl⟩ | ⟨-, hj⟩ := of_update (P := (Stage.Made t ·)) hj
    · exact ⟨_, List.mem_append_right _ (List.mem_singleton_self _), new⟩
    · exact exists_snoc (h.made j t hj) _
  case entered => exact fun t ht => exists_snoc (h.entered t ht) _
  case kept =>
    intro undropped y hy t ht
    obtain hy | hy := List.mem_append.1 hy
    · -- what was made before would still be there
      have := h.kept (fun y hy => undropped y (List.mem_append_left _ hy)) y hy t ht
      cases free.symm.trans this
    · rw [List.mem_singleton.1 hy, new] at ht
      rw [← ht]
      exact here

/-- Storage is dropped by a rival that is about to make its own. -/
theorem Rivalry.clear {r : Storage.Removal} {limit : Duration} {plan : Option Storage.Creation}
    {u : Unit} (h : Rivalry k stage xs s) (hi : stage i = .making r.spec.name plan .none)
    (shared : Shares maker (.perform (.drop r) limit) s (.ok u) s') :
    Rivalry k (Function.update stage i (.making r.spec.name plan .cleared))
      (xs ++ [(i, ⟨.perform (.drop r) limit, .ok u⟩)]) s' := by
  have competes := h.competes i
  rw [hi] at competes
  obtain ⟨named, accepted, -⟩ := competes
  cases shared
  constructor
  case types => exact h.types
  case competes => exact h.competes_update ⟨named, accepted, nofun⟩
  case stored => exact .inr (by simp [named])
  case missing => exact fun _ => .inr ⟨i, by rw [Function.update_self]; exact trivial⟩
  case made =>
    intro j t hj
    obtain ⟨-, hφ⟩ | ⟨-, hj⟩ := of_update (P := (Stage.Made t ·)) hj
    · exact hφ.elim
    · exact exists_snoc (h.made j t hj) _
  case entered => exact fun t ht => exists_snoc (h.entered t ht) _
  case kept =>
    intro undropped
    exact absurd named (undropped _ (List.mem_append_right _ (List.mem_singleton_self _)))

/-- One move keeps the invariant. -/
theorem Rivalry.move {c : Call} {a : c.Answer} (h : Rivalry k stage xs s)
    (shared : Shares maker c s a s')
    (move : (stage i).Move (.create k.name (k.request i)) c a φ) :
    Rivalry k (Function.update stage i φ) (xs ++ [(i, ⟨c, a⟩)]) s' := by
  generalize hi : stage i = φ₀ at move
  have types := shares_types shared
  have competes := h.competes i
  rw [hi] at competes
  have idle {φ : Stage} (uncleared : ¬ φ₀.Cleared) :
      s.stored k.name = none → (stage i).Cleared → φ.Cleared :=
    fun _ clearing => absurd (hi ▸ clearing) uncleared
  cases move with
  | beside _ _ beside =>
    obtain ⟨storage, catalog⟩ := shares_beside beside shared
    rw [← hi] at competes ⊢
    exact h.keep types (congrFun storage _) (fun _ found => .inl ((catalog _).symm.trans found))
      (madeOf_of_beside beside) competes (fun _ => id) fun _ => id
  | granted creates =>
    obtain ⟨rs, rfl⟩ := shared
    exact h.keep types rfl (fun _ => .inl) rfl (Eq.symm creates) nofun (idle id)
  | denied =>
    obtain ⟨rs, rfl⟩ := shared
    exact h.keep types rfl (fun _ => .inl) rfl trivial nofun (idle id)
  | absent n =>
    obtain rfl : s' = s := (congrArg Prod.snd shared).symm
    exact h.keep types rfl (fun _ => .inl) rfl ⟨competes, nofun, nofun⟩ nofun (idle id)
  | present n a =>
    cases shared
    exact h.keep types rfl (fun _ => .inl) rfl competes nofun (idle id)
  | planned asked typeMeta =>
    cases asked
    have found : s.types.find? (k.request i).typeName = some typeMeta :=
      Except.ok.inj (congrArg Prod.fst shared)
    rw [h.types] at found
    obtain rfl : s' = s := (congrArg Prod.snd shared).symm
    refine h.keep types rfl (fun _ => .inl) rfl ⟨rfl, ?_, nofun⟩ nofun (idle id)
    rintro c ⟨⟩
    exact k.accepted i typeMeta found
  | made c limit effort spec => exact h.make hi shared
  | unmade c limit effort e =>
    obtain ⟨t, ht, -⟩ | ⟨⟨e, he, refused⟩, rfl⟩ := shares_create shared
    · cases ht
    obtain ⟨named, accepted, -⟩ := competes
    obtain ⟨spec, hspec⟩ := accepted c rfl
    -- what it plans is accepted, so somebody else's storage is in the way
    have taken : (s'.stored c.name).isSome := by
      obtain taken | hrefused := refused
      · exact taken
      · cases hspec.symm.trans hrefused
    refine h.keep types rfl (fun _ => .inl) rfl ⟨named, accepted, nofun⟩ nofun fun gone => ?_
    rw [named, gone] at taken
    cases taken
  | cleared r limit plan => exact h.clear hi shared
  | uncleared r limit plan e => cases shared
  | added spec plan =>
    obtain ⟨-, rfl⟩ | ⟨⟨e, he⟩, -⟩ := serves_addInstance (.of_works shared)
    case inr => cases he
    have named : spec.name = k.name := competes.1
    refine h.keep types rfl (fun t ht => .inr ?_) rfl named nofun (idle id)
    rw [show Ledger.find? _ _ = _ from Ledger.find?_enter _ _ _, if_pos named] at ht
    cases ht
    rw [hi]
    exact rfl
  | refused spec plan e =>
    obtain ⟨named, accepted, -⟩ := competes
    obtain ⟨hok, -⟩ | ⟨-, rfl⟩ := serves_addInstance (.of_works shared)
    · cases hok
    have taken : e = .alreadyExists spec.name := by
      have answer : (s'.ledger.addInstance spec).1 = .error e := congrArg Prod.fst shared
      unfold Ledger.addInstance at answer
      split at answer <;> cases answer
      rfl
    refine h.keep types rfl (fun _ => .inl) rfl ⟨named, accepted, ?_⟩ nofun (idle id)
    rintro e ⟨⟩
    exact ⟨_, taken⟩
  | takenBack r limit plan free =>
    obtain ⟨-, -, refused⟩ := competes
    obtain ⟨m, hm⟩ := refused _ rfl
    exact absurd hm (free m)
  | recorded n typeName owner =>
    cases shared
    exact h.keep types rfl (fun _ => .inl) rfl competes nofun (idle id)
  | counted n typeName =>
    cases shared
    exact h.keep types rfl (fun _ => .inl) rfl competes nofun (idle id)
  | released canLeave =>
    obtain ⟨rs, rfl⟩ := shared
    exact h.keep types rfl (fun _ => .inl) rfl trivial nofun (idle canLeave.not_cleared)
  | removed drops | missed drops => exact drops.elim
  | uncounted | emptied | dropped | dropFailed => exact competes.elim

/-! ### All interleavings -/

/-- **The storage of a name is what the latest attempt made.** Creates of one name that was absent run
side by side through any number of coordinators, on collaborators that work. When all have returned
and the name is in the catalog, there is storage of it, and it is that of the latest create of storage
that succeeded. So it is that of the instance exactly if this attempt made what is in the catalog; and
if nobody dropped storage of the name, it is. -/
theorem storage_is_latest {σ : Type} {B : ι → Conduct σ} {view : σ → Inventory}
    (shares : ∀ i c s a s', B i c s a s' → Shares maker c (view s) a (view s'))
    (k : Rivals ι maker) {settings : ι → Settings} {s s' : σ} (types : (view s).types = k.types)
    (absent : (view s).ledger.find? k.name = none) (free : (view s).stored k.name = none)
    {q : Threads ι (Except CatalogError Unit)}
    (h : InterleavesBy B (fun i => (Errand.create k.name (k.request i)).program (settings i)) s xs q
      s') (returned : q.Returned) {spec : Specification}
    (catalogued : (view s').ledger.find? k.name = some spec) :
    ((view s').stored k.name).isSome ∧ (view s').stored k.name = latestMade k.name xs ∧
      (∃ x ∈ xs, madeOf k.name x.2 = some spec) ∧
      ((∀ x ∈ xs, ¬ IsDropOf k.name x.2) → (view s').stored k.name = some spec) := by
  obtain ⟨stage, proceeds, rivalry⟩ : ∃ stage : ι → Stage,
      (∀ i, Proceeds (.create k.name (k.request i)) (stage i) (q i) fun _ φ => φ = .outside) ∧
      Rivalry k stage xs (view s') := by
    refine h.track (I := fun xs stage s => Rivalry k stage xs (view s))
      (fun i => proceeds_program (settings i) _) (.start types absent free) ?_
    intro xs stage s₁ s₂ i c a φ rivalry answered move
    exact rivalry.move (shares _ _ _ _ _ answered) move
  have present : (view s').stored k.name ≠ none := by
    intro gone
    obtain ⟨uncatalogued, -⟩ | ⟨i, clearing⟩ := rivalry.missing gone
    · cases catalogued.symm.trans uncatalogued
    · obtain ⟨-, ended⟩ := returned.ends proceeds i
      rw [ended] at clearing
      exact clearing
  obtain ⟨x, hx, made⟩ := rivalry.entered spec catalogued
  exact ⟨Option.isSome_iff_ne_none.2 present, rivalry.stored.resolve_right present, ⟨x, hx, made⟩,
    fun undropped => rivalry.kept undropped x hx spec made⟩

end Lifecycle

/-- The inventory of stores that coordinators share. -/
def Shared.Working.inventory {κ : Type} (s : Shared.Working κ) : Inventory :=
  Stores.inventory ([], s.1.stores)

theorem Shared.Working.answer_shares {κ : Type} [DecidableEq κ] (i : κ) (c : Call)
    (s : Shared.Working κ) (a : c.Answer) (s' : Shared.Working κ)
    (answered : Conduct.ofHandler (answer i) c s a s') :
    Inventory.Shares Stores.scriptedMaker c s.inventory a s'.inventory := by
  cases answered
  exact .of_works (Stores.answer_works s.2 c (s.1.reservations i)).2 []

namespace Lifecycle

open Program

/-- One coordinator is to create a name as a table, another one as a key-value table. -/
def twoRivals : Rivals Bool Stores.scriptedMaker where
  name := "orders"
  types := Stores.types {}
  request
    | false => ⟨"table", [], none⟩
    | true => ⟨"keyValueTable", [], none⟩
  accepted _ _ _ := ⟨_, rfl⟩

/-- What the two come to on a new deployment, if the first one makes storage, the second one finds it
and looks the name up once more, the first one then goes on to its end and the second one follows. -/
def contested : List (ThreadExchange Bool) × Threads Bool (Except CatalogError Unit) ×
    Shared.Working Bool :=
  playBy Shared.Working.answer
    (List.replicate 5 false ++ List.replicate 7 true ++ List.replicate 6 false ++
      List.replicate 7 true)
    (fun i => (Errand.create twoRivals.name (twoRivals.request i)).program {}) .fresh

theorem contested_run :
    InterleavesBy (fun i => .ofHandler (Shared.Working.answer i))
      (fun i => (Errand.create twoRivals.name (twoRivals.request i)).program {}) .fresh contested.1
      contested.2.1 contested.2.2 ∧ contested.2.1.Returned :=
  ⟨interleaves_playBy _ _ _ _, .of_next? (by decide +kernel)⟩

theorem storage_is_latest_in_memory :
    (∀ (i : Bool) c s a s', Conduct.ofHandler (Shared.Working.answer i) c s a s' →
        Inventory.Shares Stores.scriptedMaker c s.inventory a s'.inventory) ∧
      contested.2.2.inventory.ledger.find? "orders" = some (.ofType "orders" "table") ∧
      contested.2.2.inventory.stored "orders" = latestMade "orders" contested.1 ∧
      ∃ x ∈ contested.1, madeOf "orders" x.2 = some (.ofType "orders" "table") := by
  have shares (i : Bool) := Shared.Working.answer_shares i
  obtain ⟨run, returned⟩ := contested_run
  have entered : contested.2.2.inventory.ledger.find? "orders" =
      some (.ofType "orders" "table") := rfl
  obtain ⟨-, latest, made, -⟩ :=
    storage_is_latest shares twoRivals rfl rfl rfl run returned entered
  exact ⟨shares, entered, latest, made⟩

/-- **The storage can be a rival's.** In the run of `contested` both types are registered, and nothing
fails. Still, the name is catalogued as a table in the end, and its storage is that of a key-value
table. -/
theorem storage_of_a_rival :
    (∀ i, ((Stores.types {}).find? (twoRivals.request i).typeName).isSome) ∧
      InterleavesBy (fun i => .ofHandler (Shared.Working.answer i))
        (fun i => (Errand.create "orders" (twoRivals.request i)).program {}) .fresh contested.1
        contested.2.1 contested.2.2 ∧
      contested.2.1.Returned ∧
      contested.2.2.inventory.ledger.find? "orders" = some (.ofType "orders" "table") ∧
      contested.2.2.inventory.stored "orders" = some (.ofType "orders" "keyValueTable") := by
  obtain ⟨run, returned⟩ := contested_run
  exact ⟨by decide +kernel, run, returned, rfl, rfl⟩

end Lifecycle

end DatasetCatalog
