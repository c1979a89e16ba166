import DatasetCatalog.Proofs.Lifecycle.Memory
import DatasetCatalog.Proofs.Lifecycle.Stages
import DatasetCatalog.Proofs.Lifecycle.Stakes

/-!
# Creates do not touch the storage of an instance

A create drops storage in two places: what it finds under a name that the catalog does not know, and
what it has made itself for an instance that was not added. In both it has looked the name up some
calls before, and others run in between. What makes this safe is that it has the right to the name
all the while, and that nothing else adds instances.

The state is reduced to what this rests on, a `Roster`: the catalog and the names that are being
created. Everything else can answer as it likes. The invariant `Guarded` ties the stages of the
operations to the roster; each call is looked at once, for what it does to the rights
(`Stage.Move.holds_iff`, `Roster.mem_reserved_iff`) and to the catalog (`Stage.Move.adds`,
`Roster.found_before`).
-/

namespace DatasetCatalog

/-- The catalog, and the names that a coordinator is creating. -/
@[ext] structure Roster where
  catalog : StringMap Specification
  reserved : Reservations

namespace Lifecycle

/-- Whether a call takes the right to a name or gives it back, if it does either. -/
def rightWrite (name : String) : Exchange → Option Bool
  | ⟨.reserve n, true⟩ => if n = name then some true else none
  | ⟨.release n, _⟩ => if n = name then some false else none
  | _ => none

end Lifecycle

namespace Roster

open Lifecycle

/-- The answers that a call may get where only the rights to names are trusted. Calls to the catalog
can fail without effect, and adding an instance then reports an error of its storage. -/
def Permits : Conduct Roster
  | .reserve name, s, a, s' =>
    a = (s.reserved.reserve name).1 ∧ s' = { s with reserved := (s.reserved.reserve name).2 }
  | .release name, s, _, s' => s' = { s with reserved := s.reserved.release name }
  | .findInstance name, s, a, s' =>
    (a = .ok (StringMap.find? name s.catalog) ∨ ∃ e, a = .error e) ∧ s' = s
  | .addInstance spec, s, a, s' =>
    (if (StringMap.find? spec.name s.catalog).isSome then
      a = .error (.alreadyExists spec.name) ∧ s' = s
    else a = .ok () ∧ s' = { s with catalog := StringMap.insert spec.name spec s.catalog }) ∨
    ∃ reason, a = .error (.storage reason) ∧ s' = s
  | .removeInstance name, s, a, s' =>
    a = .ok (StringMap.find? name s.catalog).isSome ∧
      s' = { s with catalog := StringMap.erase name s.catalog } ∨
    ∃ e, a = .error e ∧ s' = s
  | _, s, _, s' => s' = s

/-- The same where the catalog does not fail either. -/
def Works : Conduct Roster
  | .findInstance name, s, a, s' => a = .ok (StringMap.find? name s.catalog) ∧ s' = s
  | .addInstance spec, s, a, s' =>
    if (StringMap.find? spec.name s.catalog).isSome then
      a = .error (.alreadyExists spec.name) ∧ s' = s
    else a = .ok () ∧ s' = { s with catalog := StringMap.insert spec.name spec s.catalog }
  | .removeInstance name, s, a, s' =>
    a = .ok (StringMap.find? name s.catalog).isSome ∧
      s' = { s with catalog := StringMap.erase name s.catalog }
  | c, s, a, s' => Permits c s a s'

variable {c : Call} {a : c.Answer} {s s' : Roster} {name : String}

theorem Works.permits (works : Works c s a s') : Permits c s a s' := by
  cases c with
  | findInstance name => exact ⟨.inl works.1, works.2⟩
  | addInstance spec => exact .inl works
  | removeInstance name => exact .inl works
  | _ => exact works

/-- A right is only given to somebody while nobody has it. -/
theorem free_of_granted (permitted : Permits c s a s') (h : rightWrite name ⟨c, a⟩ = some true) :
    name ∉ s.reserved := by
  cases c with
  | reserve n =>
    obtain ⟨granted, -⟩ := permitted
    cases a with
    | false => cases h
    | true =>
      obtain ⟨rfl, -⟩ := Option.ite_none_right_eq_some.1 h
      intro taken
      have : s.reserved.contains n = true := by simpa using taken
      rw [Reservations.reserve, if_pos this] at granted
      cases granted
  | release n => obtain ⟨-, h⟩ := Option.ite_none_right_eq_some.1 h; cases h
  | _ => cases h

theorem mem_reserved_iff (permitted : Permits c s a s') :
    name ∈ s'.reserved ↔ rightWrite name ⟨c, a⟩ = some true ∨
      rightWrite name ⟨c, a⟩ = none ∧ name ∈ s.reserved := by
  cases c with
  | reserve n =>
    obtain ⟨rfl, rfl⟩ := permitted
    by_cases taken : s.reserved.contains n = true
    · have mem : n ∈ s.reserved := by simpa using taken
      simp [rightWrite, Reservations.reserve, mem]
    · have free : n ∉ s.reserved := by simpa using taken
      obtain rfl | heq := eq_or_ne n name
      · simp [rightWrite, Reservations.reserve, free]
      · simp [rightWrite, Reservations.reserve, free, heq, Ne.symm heq]
  | release n =>
    obtain rfl := permitted
    by_cases heq : n = name
    · simp [rightWrite, Reservations.release, heq]
    · simp [rightWrite, Reservations.release, heq, Ne.symm heq]
  | addInstance spec =>
    obtain h | ⟨reason, -, rfl⟩ := permitted
    · split at h <;> (obtain ⟨-, rfl⟩ := h; simp [rightWrite])
    · simp [rightWrite]
  | removeInstance n =>
    obtain ⟨-, rfl⟩ | ⟨e, -, rfl⟩ := permitted <;> simp [rightWrite]
  | findInstance n =>
    obtain ⟨-, rfl⟩ := permitted
    simp [rightWrite]
  | _ =>
    obtain rfl := permitted
    simp [rightWrite]

/-- What is in the catalog was there before, unless the call has added it. -/
theorem found_before (permitted : Permits c s a s')
    (found : (StringMap.find? name s'.catalog).isSome) :
    (StringMap.find? name s.catalog).isSome ∨ addition? ⟨c, a⟩ = some name := by
  cases c with
  | addInstance spec =>
    obtain h | ⟨reason, -, rfl⟩ := permitted
    · split at h
      · obtain ⟨-, rfl⟩ := h
        exact .inl found
      · obtain ⟨rfl, rfl⟩ := h
        dsimp only at found
        rw [StringMap.find?_insert] at found
        split at found
        · next named => exact .inr (congrArg some named)
        · exact .inl found
    · exact .inl found
  | removeInstance n =>
    obtain ⟨-, rfl⟩ | ⟨e, -, rfl⟩ := permitted
    · dsimp only at found
      rw [StringMap.find?_erase] at found
      split at found
      · cases found
      · exact .inl found
    · exact .inl found
  | reserve n =>
    obtain ⟨-, rfl⟩ := permitted
    exact .inl found
  | findInstance n =>
    obtain ⟨-, rfl⟩ := permitted
    exact .inl found
  | _ =>
    obtain rfl := permitted
    exact .inl found

/-- An add is only refused for the name if there is an instance of it. -/
theorem found_of_refused {spec : Specification} {n : String} {a : Except RegistryError Unit}
    (permitted : Permits (.addInstance spec) s a s') (refused : a = .error (.alreadyExists n)) :
    (StringMap.find? spec.name s.catalog).isSome := by
  subst refused
  obtain h | ⟨reason, h, -⟩ := permitted
  · split at h
    · assumption
    · cases h.1
  · cases h

end Roster

namespace Lifecycle

open Program

variable {ι : Type} {errand : Errand} {φ φ' : Stage} {c : Call} {a : c.Answer} {name : String}

/-! ### What a move does to the rights and to the catalog -/

namespace Stage

/-- Whether an operation at this stage keeps a name that is not in the catalog from being added. -/
def Keeps : Stage → String → Prop
  | making n _ _, name => n = name
  | _, _ => False

theorem Keeps.holds (h : φ.Keeps name) : φ.Holds name := by
  cases φ <;> first | exact h | exact h.elim

theorem CanLeave.holds (h : φ.CanLeave name) : φ.Holds name := by
  cases φ with
  | making n plan effort => exact h.1
  | leaving n => exact h
  | _ => exact h.elim

theorem Holds.eq {other : String} (h : φ.Holds name) (h' : φ.Holds other) : name = other := by
  cases φ <;> first | exact h.symm.trans h' | exact h.elim

namespace Move

theorem rightWrite_of_beside (h : isBeside c = true) : rightWrite name ⟨c, a⟩ = none := by
  cases c with
  | reserve n | release n => cases h
  | _ => rfl

/-- An operation has the right to a name after a call if it gets it by the call, or had it and does
not give it back. -/
theorem holds_iff (move : Move errand φ c a φ') : φ'.Holds name ↔
    rightWrite name ⟨c, a⟩ = some true ∨ rightWrite name ⟨c, a⟩ = none ∧ φ.Holds name := by
  cases move with
  | beside _ _ h => simp [rightWrite_of_beside h]
  | released canLeave =>
    next n =>
    by_cases heq : n = name
    · simp [rightWrite, Holds, heq]
    · simpa [rightWrite, Holds, heq] using fun holds => heq (canLeave.holds.eq holds)
  | _ => simp [rightWrite, Holds]

theorem holds_of_released (move : Move errand φ c a φ')
    (h : rightWrite name ⟨c, a⟩ = some false) : φ.Holds name := by
  cases move with
  | beside _ _ beside => cases (rightWrite_of_beside beside).symm.trans h
  | released canLeave =>
    obtain ⟨rfl, -⟩ := Option.ite_none_right_eq_some.1 h
    exact canLeave.holds
  | _ => simp [rightWrite] at h

/-- An operation that keeps a name has just looked it up, or kept it before. -/
theorem keeps (move : Move errand φ c a φ') (h : φ'.Keeps name) :
    φ.Keeps name ∨ (⟨c, a⟩ : Exchange) = ⟨.findInstance name, .ok none⟩ := by
  cases move with
  | absent n =>
    obtain rfl := h
    exact .inr rfl
  | beside => exact .inl h
  | planned | made | unmade | cleared | uncleared | refused => exact .inl h
  | _ => exact h.elim

/-- Who adds an instance has kept its name until then. -/
theorem adds (move : Move errand φ c a φ') (h : addition? ⟨c, a⟩ = some name) :
    φ.Keeps name ∧ ¬ φ'.Keeps name := by
  cases move with
  | added spec plan => exact ⟨Option.some.inj h, id⟩
  | beside _ a beside => cases c <;> first | (cases beside; done) | cases h
  | _ => cases h

theorem keeps_of_add {spec : Specification} {a : Except RegistryError Unit}
    (move : Move errand φ (.addInstance spec) a φ') : φ.Keeps spec.name := by
  cases move with
  | beside _ _ beside => cases beside
  | added | refused => exact rfl

/-- A create that drops storage keeps the name. -/
theorem keeps_of_drop {r : Storage.Removal} {limit : Duration} {a : Except StorageError Unit}
    (move : Move errand φ (.perform (.drop r) limit) a φ') :
    φ.Keeps r.spec.name ∨ φ = .clearing r.spec.name := by
  cases move with
  | beside _ _ beside => cases beside
  | cleared | uncleared | takenBack => exact .inl rfl
  | emptied => exact .inr rfl

end Move

end Stage

/-! ### The invariant -/

/-- A thread has the right to a name: of its calls that took it or gave it back, the latest took it. -/
def PastReservation [DecidableEq ι] (xs : List (ThreadExchange ι)) (i : ι) (name : String) : Prop :=
  latest (fun x => if x.1 = i then rightWrite name x.2 else none) xs = some true

variable [DecidableEq ι] {errands : ι → Errand} {stage : ι → Stage} {s s' : Roster}
  {xs : List (ThreadExchange ι)} {i : ι}

theorem pastReservation_snoc (i j : ι) (x : Exchange) :
    PastReservation (xs ++ [(j, x)]) i name ↔
      j = i ∧ rightWrite name x = some true ∨
        (j = i → rightWrite name x = none) ∧ PastReservation xs i name := by
  unfold PastReservation
  by_cases heq : j = i
  · cases hx : rightWrite name x with
    | none => simp [heq, latest_snoc_none, hx]
    | some b =>
      rw [latest_snoc_some ((if_pos heq).trans hx)]
      simp [heq]
  · simp [heq, latest_snoc_none]

/-- An add that was refused because there is an instance of the name. -/
def IsTaken : Exchange → Prop
  | ⟨.addInstance _, .error (.alreadyExists _)⟩ => True
  | _ => False

/-- How the stages of operations fit the roster and the calls so far. -/
structure Guarded (errands : ι → Errand) (stage : ι → Stage) (xs : List (ThreadExchange ι))
    (s : Roster) : Prop where
  suits : ∀ i, (stage i).Suits (errands i)
  past : ∀ i name, PastReservation xs i name ↔ (stage i).Holds name
  reserved : ∀ i name, (stage i).Holds name → name ∈ s.reserved
  exclusive : ∀ i j name, (stage i).Holds name → (stage j).Holds name → i = j
  absent : ∀ i name, (stage i).Keeps name → StringMap.find? name s.catalog = none
  accepted : ∀ x ∈ xs, ¬ IsTaken x.2

theorem Guarded.start (errands : ι → Errand) (s : Roster) :
    Guarded errands (fun _ => .outside) [] s where
  suits _ := trivial
  past _ _ := by simp [PastReservation, Stage.Holds]
  reserved _ _ h := h.elim
  exclusive _ _ _ h := h.elim
  absent _ _ h := h.elim
  accepted _ h := by cases h

/-- One move keeps the invariant. -/
theorem Guarded.move (h : Guarded errands stage xs s) (permitted : Roster.Permits c s a s')
    (move : (stage i).Move (errands i) c a φ) :
    Guarded errands (Function.update stage i φ) (xs ++ [(i, ⟨c, a⟩)]) s' := by
  have held : ∀ {j name}, (Function.update stage i φ j).Holds name →
      j = i ∧ rightWrite name ⟨c, a⟩ = some true ∨ (stage j).Holds name ∧
        rightWrite name ⟨c, a⟩ ≠ some false := by
    intro j name hj
    obtain ⟨rfl, hφ⟩ | ⟨hne, hj⟩ := of_update (P := (Stage.Holds · name)) hj
    · obtain granted | ⟨unchanged, before⟩ := move.holds_iff.1 hφ
      · exact .inl ⟨rfl, granted⟩
      · exact .inr ⟨before, by rw [unchanged]; nofun⟩
    · -- the right of another thread is not this one's to give back
      exact .inr ⟨hj, fun released => hne (h.exclusive _ _ _ hj (move.holds_of_released released))⟩
  constructor
  case suits =>
    exact (Function.forall_update_iff stage fun j φ => φ.Suits (errands j)).2
      ⟨move.suits (h.suits i), fun j _ => h.suits j⟩
  case past =>
    intro j name
    rw [pastReservation_snoc, h.past]
    by_cases heq : i = j
    · subst heq
      rw [Function.update_self, move.holds_iff]
      simp
    · rw [Function.update_of_ne (Ne.symm heq)]
      simp [heq]
  case reserved =>
    intro j name hj
    rw [Roster.mem_reserved_iff permitted]
    obtain ⟨-, granted⟩ | ⟨before, unreleased⟩ := held hj
    · exact .inl granted
    · cases hx : rightWrite name ⟨c, a⟩ with
      | none => exact .inr ⟨rfl, h.reserved j name before⟩
      | some b =>
        cases b with
        | true => exact .inl rfl
        | false => exact absurd hx unreleased
  case exclusive =>
    intro j k name hj hk
    have free : ∀ {l}, rightWrite name ⟨c, a⟩ = some true → ¬ (stage l).Holds name :=
      fun granted hl => Roster.free_of_granted permitted granted (h.reserved _ _ hl)
    obtain ⟨rfl, granted⟩ | ⟨hadj, -⟩ := held hj
    · obtain ⟨rfl, -⟩ | ⟨hadk, -⟩ := held hk
      · rfl
      · exact absurd hadk (free granted)
    · obtain ⟨rfl, granted⟩ | ⟨hadk, -⟩ := held hk
      · exact absurd hadj (free granted)
      · exact h.exclusive _ _ _ hadj hadk
  case absent =>
    intro j name hj
    rw [← Option.not_isSome_iff_eq_none]
    intro found
    obtain ⟨rfl, hφ⟩ | ⟨hne, hj⟩ := of_update (P := (Stage.Keeps · name)) hj
    · obtain found | added := Roster.found_before permitted found
      · obtain before | lookup := move.keeps hφ
        · rw [h.absent _ _ before] at found
          cases found
        · cases lookup
          obtain ⟨hfind | ⟨e, he⟩, -⟩ := permitted
          · rw [← Except.ok.inj hfind] at found
            cases found
          · cases he
      · exact (move.adds added).2 hφ
    · obtain found | added := Roster.found_before permitted found
      · rw [h.absent _ _ hj] at found
        cases found
      · exact hne (h.exclusive _ _ _ hj.holds (move.adds added).1.holds)
  case accepted =>
    intro x hx taken
    obtain hx | hx := List.mem_append.1 hx
    · exact h.accepted x hx taken
    · rw [List.mem_singleton.1 hx] at taken
      cases c with
      | addInstance spec =>
        rcases a with e | u
        · cases e with
          | alreadyExists n =>
            have found := Roster.found_of_refused permitted rfl
            rw [h.absent _ _ move.keeps_of_add] at found
            cases found
          | _ => exact taken.elim
        · exact taken.elim
      | _ => exact taken.elim

/-! ### All interleavings -/

/-- What creates can rely on, and instances can rely on from creates. -/
structure Protected (errands : ι → Errand) (xs : List (ThreadExchange ι))
    (q : Threads ι (Except CatalogError Unit)) (s : Roster) : Prop where
  /-- A create that is about to drop storage has the right to its own name, which is not in the
  catalog, and drops storage of that name only. -/
  spared : ∀ i name request r limit next, errands i = .create name request →
    q i = .call (.perform (.drop r) limit) next →
      r.spec.name = name ∧ PastReservation xs i name ∧ StringMap.find? name s.catalog = none
  /-- Nobody else has the right to that name. -/
  exclusive : ∀ i j name, PastReservation xs i name → PastReservation xs j name → i = j
  /-- No create was told, when it added its instance, that there is one already. -/
  accepted : ∀ x ∈ xs, ¬ IsTaken x.2

/-- **A create never drops the storage of an instance.** At every moment of every interleaving of
operations of one coordinator, which nobody else writes the catalog of, and whatever fails: the name
whose storage a create is about to drop is not in the catalog, no two creates of a name have got the
right to it at once, and no instance that a create adds was refused because of another. -/
theorem creates_spare_instances {σ : Type} {B : Conduct σ} {roster : σ → Roster}
    (permitted : ∀ c s a s', B c s a s' → Roster.Permits c (roster s) a (roster s'))
    (settings : Settings) {s s' : σ} {q : Threads ι (Except CatalogError Unit)}
    (h : Interleaves B (fun i => (errands i).program settings) s xs q s') :
    Protected errands xs q (roster s') := by
  obtain ⟨stage, proceeds, guarded⟩ : ∃ stage : ι → Stage,
      (∀ i, Proceeds (errands i) (stage i) (q i) fun _ φ => φ = .outside) ∧
      Guarded errands stage xs (roster s') := by
    refine h.track (I := fun xs stage s => Guarded errands stage xs (roster s))
      (fun i => proceeds_program settings (errands i)) (Guarded.start errands _) ?_
    intro xs stage s₁ s₂ i c a φ guarded answered move
    exact guarded.move (permitted _ _ _ _ answered) move
  constructor
  case spared =>
    intro i name request r limit next herrand hq
    have hi := proceeds i
    rw [hq] at hi
    obtain ⟨φ, move, -⟩ := hi (.ok ()) trivial
    have suits := guarded.suits i
    obtain keeps | clearing := move.keeps_of_drop
    · have creates := suits.creates keeps.holds
      rw [herrand] at creates
      obtain rfl : name = r.spec.name := creates
      exact ⟨rfl, (guarded.past i _).2 keeps.holds, guarded.absent i _ keeps⟩
    · rw [clearing, herrand] at suits
      exact suits.elim
  case exclusive =>
    intro i j name hi hj
    exact guarded.exclusive i j name ((guarded.past i name).1 hi) ((guarded.past j name).1 hj)
  case accepted => exact guarded.accepted

end Lifecycle

/-! ### Stores in memory -/

/-- The roster of a coordinator with stores in memory. -/
def MemoryStores.roster (s : MemoryStores) : Roster := ⟨s.1.2.ledger.catalog, s.1.1⟩

theorem memoryConduct_works (c : Call) (s : MemoryStores) (a : c.Answer) (s' : MemoryStores)
    (answered : memoryConduct c s a s') : Roster.Works c s.roster a s'.roster := by
  have permitted := memoryConduct_permitted c s a s' answered
  obtain ⟨⟨rs, stores⟩, inMemory⟩ := s
  have told := congrArg Prod.fst answered
  have kept : (Stores.answer c (rs, stores)).2.1 = s'.1.1 := congrArg (·.2.1) answered
  -- most calls leave the names that are being created, and then only the catalog is to be looked at
  have same (h : (Stores.answer c (rs, stores)).2.1 = rs)
      (unchanged : s'.1.2.ledger.catalog = stores.ledger.catalog) :
      s'.roster = ⟨stores.ledger.catalog, rs⟩ := Roster.ext unchanged (kept.symm.trans h)
  cases c with
  | reserve n =>
    exact ⟨(congrArg Prod.fst answered).symm,
      Roster.ext (congrArg Ledger.catalog permitted) kept.symm⟩
  | release n => exact Roster.ext (congrArg Ledger.catalog permitted) kept.symm
  | addInstance spec =>
    have added := Stores.addInstance_ledger inMemory spec rs
    rw [show Stores.answer _ (rs, stores) = _ from answered] at added
    change ite _ _ _
    split
    · next taken =>
      have refused : (a, s'.1.2.ledger) = (.error (.alreadyExists spec.name), stores.ledger) :=
        added.trans (if_pos taken)
      exact ⟨congrArg Prod.fst refused, same rfl (congrArg (·.2.catalog) refused)⟩
    · next free =>
      have entered : (a, s'.1.2.ledger) = (.ok (), stores.ledger.enter spec) :=
        added.trans (if_neg free)
      exact ⟨congrArg Prod.fst entered, Roster.ext (congrArg (·.2.catalog) entered) kept.symm⟩
  | removeInstance n =>
    have there := told.symm.trans (inMemory.removeInstance n rs)
    obtain removed | ⟨e, he, -⟩ := permitted
    · exact ⟨there, Roster.ext (congrArg (·.2.catalog) removed) kept.symm⟩
    · cases he.symm.trans there
  | findInstance n =>
    have found := congrArg Prod.fst (inMemory.findInstance n rs)
    exact ⟨told.symm.trans found, same rfl (congrArg _ permitted.2)⟩
  | addOwner entity principal =>
    refine same rfl ?_
    cases hadd : stores.ledger.addOwner entity principal with
    | mk result l =>
      have hl : s'.1.2.ledger = l := congrArg Prod.snd (Eq.trans permitted hadd)
      rw [hl]
      cases result with
      | ok u =>
        obtain ⟨-, rfl⟩ := Ledger.addOwner_eq_ok hadd
        rfl
      | error e => rw [Ledger.addOwner_eq_error hadd]
  | removeOwner entity =>
    obtain ⟨-, disowned⟩ := permitted
    exact same rfl (by rw [disowned]; rfl)
  | allInstances | findOwner entity => exact same rfl (congrArg Ledger.catalog permitted.2)
  | _ => exact same rfl (congrArg Ledger.catalog permitted)

theorem memoryAnswer_works (c : Call) (s : MemoryStores) (a : c.Answer) (s' : MemoryStores)
    (answered : Conduct.ofHandler memoryAnswer c s a s') : Roster.Works c s.roster a s'.roster := by
  refine memoryConduct_works c s a s' ?_
  cases answered
  rfl

theorem memoryAnswer_roster (c : Call) (s : MemoryStores) (a : c.Answer) (s' : MemoryStores)
    (answered : Conduct.ofHandler memoryAnswer c s a s') : Roster.Permits c s.roster a s'.roster :=
  (memoryAnswer_works c s a s' answered).permits

/-- Stores in memory with storage that an earlier create has left behind. -/
def MemoryStores.abandoned : MemoryStores :=
  ⟨([], { storage := .memory { physical := [("orders", .ofType "orders" "table")] } }),
    ⟨_, rfl⟩, _, rfl⟩

namespace Lifecycle

open Program

/-- Two creates and a drop of one name. -/
def crowding : Fin 3 → Errand
  | 0 | 2 => .create "orders" ⟨"table", [], some "alice"⟩
  | 1 => .drop "orders"

/-- A create has found the leftover storage, and is about to drop it while the others wait. -/
theorem creates_spare_instances_in_memory :
    (∀ c s a s', Conduct.ofHandler memoryAnswer c s a s' →
        Roster.Permits c s.roster a s'.roster) ∧
      ∃ xs q s, Interleaves (.ofHandler memoryAnswer) (fun i => (crowding i).program {})
        .abandoned xs q s ∧ (∃ r limit, (q 0).next? = some (.perform (.drop r) limit)) ∧
        Protected crowding xs q s.roster := by
  have h := interleaves_playBy (fun _ => memoryAnswer) [1, 0, 0, 0, 0, 2, 0, 0, 0, 0]
    (fun i => (crowding i).program {}) .abandoned
  exact ⟨memoryAnswer_roster, _, _, _, h, ⟨_, _, rfl⟩,
    creates_spare_instances memoryAnswer_roster {} h⟩

end Lifecycle

end DatasetCatalog
