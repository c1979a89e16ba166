import Mathlib.Data.List.Chain
import DatasetCatalog.Proofs.Lifecycle.Coordinators
import DatasetCatalog.Proofs.Lifecycle.Stages
import DatasetCatalog.Proofs.StringMap

/-!
# Every entry is dropped by one caller

Any number of coordinators share one catalog, and drops, resets and creates run side by side in it. A
drop looks the instance up, removes the entry and then removes the storage, in separate calls, and an
entry can be gone by the time it is removed, or be one that was created meanwhile. Still every removal
belongs to one caller, who alone removes the storage for it and says what came of that.

Two things are followed. Of a name, the catalog sees additions and removals in turn, because it refuses
the one while it has the name and denies the other while it does not (`changes_alternate`). Of a caller
it is enough to know the calls that it made itself: each name that it tried to drop was either lost to
somebody else or taken (`Fate`), what it did and what it answers can be read off that, and the reset
has one fate for each name that it found (`dropEach_fates`).
-/

namespace DatasetCatalog

/-! ### A catalog that works -/

/-- The entries of a catalog. -/
abbrev Entries := StringMap Specification

namespace Entries

/-- The answers that a call may get where the entries are looked up and removed as they should be, and
types are looked up without failure. An addition can be refused for any reason. All other collaborators
answer as they like. -/
def Works : Conduct Entries
  | .findInstance name, m, a, m' => a = .ok (StringMap.find? name m) ∧ m' = m
  | .allInstances, m, a, m' => a = .ok (StringMap.values m) ∧ m' = m
  | .addInstance spec, m, a, m' =>
    a = .ok () ∧ StringMap.find? spec.name m = none ∧ m' = StringMap.insert spec.name spec m ∨
      (∃ e, a = .error e) ∧ m' = m
  | .removeInstance name, m, a, m' =>
    a = .ok (StringMap.find? name m).isSome ∧ m' = StringMap.erase name m
  | .findType _, m, a, m' => (∃ typed, a = .ok typed) ∧ m' = m
  | _, m, _, m' => m' = m

/-- Entries in order, each under the name of its instance. -/
structure Proper (m : Entries) : Prop where
  sorted : StringMap.Sorted m
  named : ∀ {name spec}, StringMap.find? name m = some spec → spec.name = name

/-- What a caller is told by proper entries, whichever they are. -/
def Tells : Conduct Unit
  | .findInstance name, _, a, _ => ∃ found, a = .ok found ∧ ∀ spec ∈ found, spec.name = name
  | .allInstances, _, a, _ => ∃ specs, a = .ok specs ∧ (specs.map (·.name)).Nodup
  | .removeInstance _, _, a, _ => ∃ there, a = .ok there
  | .findType _, _, a, _ => ∃ typed, a = .ok typed
  | _, _, _, _ => True

variable {c : Call} {m m' : Entries} {a : c.Answer}

theorem Proper.map_name (proper : m.Proper) :
    (StringMap.values m).map (·.name) = StringMap.keys m := by
  rw [StringMap.values, StringMap.keys, List.map_map]
  refine List.map_congr_left fun e he => ?_
  exact proper.named (StringMap.find?_of_mem proper.sorted he)

/-- The instances of proper entries have different names. -/
theorem Proper.nodup_names (proper : m.Proper) :
    ((StringMap.values m).map (·.name)).Nodup := by
  rw [proper.map_name]
  exact StringMap.nodup_keys proper.sorted

theorem Proper.insert (proper : m.Proper) (spec : Specification) :
    Proper (StringMap.insert spec.name spec m) := by
  refine ⟨proper.sorted.insert _ _, fun {name found} h => ?_⟩
  rw [StringMap.find?_insert] at h
  split at h
  · next same =>
    cases h
    exact same
  · exact proper.named h

theorem Proper.erase (proper : m.Proper) (name : String) : Proper (StringMap.erase name m) := by
  refine ⟨proper.sorted.erase _, fun {other found} h => ?_⟩
  rw [StringMap.find?_erase] at h
  split at h
  · cases h
  · exact proper.named h

/-- Entries stay proper, and a caller is told what proper entries tell. -/
theorem Works.tells (works : Works c m a m') (proper : m.Proper) :
    Tells c () a () ∧ m'.Proper := by
  cases c with
  | findInstance name =>
    obtain ⟨rfl, rfl⟩ := works
    exact ⟨⟨_, rfl, fun spec hspec => proper.named hspec⟩, proper⟩
  | allInstances =>
    obtain ⟨rfl, rfl⟩ := works
    exact ⟨⟨_, rfl, proper.nodup_names⟩, proper⟩
  | addInstance spec =>
    refine ⟨trivial, ?_⟩
    obtain ⟨-, -, rfl⟩ | ⟨-, rfl⟩ := works
    · exact proper.insert spec
    · exact proper
  | removeInstance name =>
    obtain ⟨rfl, rfl⟩ := works
    exact ⟨⟨_, rfl⟩, proper.erase name⟩
  | findType typeName =>
    obtain ⟨found, rfl⟩ := works
    exact ⟨found, proper⟩
  | _ =>
    obtain rfl := works
    exact ⟨trivial, proper⟩

end Entries

namespace Lifecycle

open Program

/-! ### Additions and removals -/

/-- What a call has done to the entry of a name, if it has done anything: whether there is one now. -/
def entryAfter (name : String) : Exchange → Option Bool
  | ⟨.addInstance spec, .ok ()⟩ => if spec.name = name then some true else none
  | ⟨.removeInstance other, .ok true⟩ => if other = name then some false else none
  | _ => none

/-- The additions (`true`) and removals (`false`) of a name, in order. -/
def changes {ι : Type} (name : String) (xs : List (ThreadExchange ι)) : List Bool :=
  xs.filterMap fun x => entryAfter name x.2

/-- A name is added where it is not, and removed where it is. -/
theorem entryAfter_of_works {c : Call} {m m' : Entries} {a : c.Answer}
    (works : Entries.Works c m a m') (name : String) :
    entryAfter name ⟨c, a⟩ = none ∧
        (StringMap.find? name m').isSome = (StringMap.find? name m).isSome ∨
      entryAfter name ⟨c, a⟩ = some (StringMap.find? name m').isSome ∧
        (StringMap.find? name m).isSome ≠ (StringMap.find? name m').isSome := by
  cases c with
  | addInstance spec =>
    obtain ⟨rfl, free, rfl⟩ | ⟨⟨e, rfl⟩, rfl⟩ := works
    · rw [StringMap.find?_insert]
      by_cases same : spec.name = name
      · subst same
        exact .inr (by simp [entryAfter, free])
      · exact .inl (by simp [entryAfter, same])
    · exact .inl ⟨rfl, rfl⟩
  | removeInstance other =>
    obtain ⟨rfl, rfl⟩ := works
    rw [StringMap.find?_erase]
    by_cases same : other = name
    · subst same
      cases h : StringMap.find? other m with
      | none => exact .inl (by simp [entryAfter])
      | some spec => exact .inr (by simp [entryAfter])
    · cases h : StringMap.find? other m <;> exact .inl (by simp [entryAfter, same])
  | findInstance | allInstances | findType =>
    obtain ⟨-, rfl⟩ := works
    exact .inl ⟨rfl, rfl⟩
  | _ =>
    obtain rfl := works
    exact .inl ⟨rfl, rfl⟩

section

variable {σ ι α : Type} [DecidableEq ι] {B : ι → Conduct σ} {entries : σ → Entries}
  {p q : Threads ι α} {s s' : σ} {xs : List (ThreadExchange ι)}

/-- Additions and removals of a name take turns, and the last one decides whether there is an entry.
So a removal ends what one addition has begun, and no other removal does. -/
theorem changes_alternate
    (works : ∀ i c s a s', B i c s a s' → Entries.Works c (entries s) a (entries s'))
    (h : InterleavesBy B p s xs q s') (name : String) :
    ((StringMap.find? name (entries s)).isSome :: changes name xs).IsChain (· ≠ ·) ∧
      ((StringMap.find? name (entries s)).isSome :: changes name xs).getLast? =
        some (StringMap.find? name (entries s')).isSome := by
  induction h with
  | start => exact ⟨.singleton _, rfl⟩
  | @step xs q s₁ s₂ before i c next a turn answered ih =>
    obtain ⟨chain, last⟩ := ih
    obtain ⟨none_, same⟩ | ⟨some_, other⟩ := entryAfter_of_works (works _ _ _ _ _ answered) name
    · have unchanged : changes name (xs ++ [(i, ⟨c, a⟩)]) = changes name xs := by
        simp [changes, none_]
      rw [unchanged, same]
      exact ⟨chain, last⟩
    · have more : changes name (xs ++ [(i, ⟨c, a⟩)]) =
          changes name xs ++ [(StringMap.find? name (entries s₂)).isSome] := by
        simp [changes, some_]
      rw [more, ← List.cons_append]
      refine ⟨chain.append (.singleton _) ?_, List.getLast?_concat⟩
      intro x hx y hy
      rw [last] at hx
      cases hx
      cases hy
      exact other

end

/-! ### What a caller does about a name -/

/-- What a call does to an instance that is dropped. -/
inductive Deed
  /-- The entry is removed from the catalog. -/
  | removed (name : String)
  /-- The storage is removed, or is not. -/
  | emptied (name : String) (result : Except StorageError Unit)

/-- The deed that a call was, if it was one. -/
def deed? : Exchange → Option Deed
  | ⟨.removeInstance name, .ok true⟩ => some (.removed name)
  | ⟨.perform (.drop r) _, result⟩ => some (.emptied r.spec.name result)
  | _ => none

/-- The deeds among calls, in order. -/
def deeds (xs : List Exchange) : List Deed := xs.filterMap deed?

@[simp] theorem deeds_nil : deeds [] = [] := rfl

@[simp] theorem deeds_append (xs ys : List Exchange) : deeds (xs ++ ys) = deeds xs ++ deeds ys :=
  List.filterMap_append

/-- What became of the attempt to drop a name: the entry was lost to somebody else, or it was taken
and then the storage was removed, with this result. -/
inductive Fate
  | lost
  | taken (result : Except StorageError Unit)

namespace Fate

/-- What was done about the name. -/
def deeds (name : String) : Fate → List Deed
  | lost => []
  | taken result => [.removed name, .emptied name result]

/-- What is reported of the name. -/
def verdict (name : String) : Fate → Except CatalogError Unit
  | lost => .error (.concurrentlyDropped name)
  | taken (.ok ()) => .ok ()
  | taken (.error e) => .error (.execution "drop" name e)

def isDropped : Fate → Bool
  | taken (.ok ()) => true
  | _ => false

def isLost : Fate → Bool
  | lost => true
  | _ => false

def isFailed : Fate → Bool
  | taken (.error _) => true
  | _ => false

end Fate

variable {settings : Settings} {xs : List Exchange}

section

variable {σ α : Type} {B : Conduct σ} {p : Program α} {s s' : σ} {a : α}

/-- Calls on the side are no deeds. -/
theorem deeds_of_aside (h : Runs B p s xs a s') (aside : Aside p) : deeds xs = [] := by
  induction h with
  | done a s => rfl
  | @call c next s s₁ s' a xs b answered rest ih =>
    have first : deed? ⟨c, a⟩ = none := by
      have only := aside.1
      cases c with
      | removeInstance name => cases only
      | perform request limit => cases request <;> first | rfl | cases only
      | _ => rfl
    rw [deeds, List.filterMap_cons_none first]
    exact ih (aside.2 a)

/-- The removal of storage is one deed. -/
theorem deeds_of_drop {r : Storage.Removal} {result : Except StorageError Unit}
    (h : Runs B (perform settings (.drop r)) s xs result s') :
    deeds xs = [.emptied r.spec.name result] := by
  obtain ⟨s₁, ys, -, ⟨p, looks, rest⟩, rfl⟩ := perform_answered h
  have quiet := deeds_of_aside rest (aside_of_looks looks)
  exact congrArg (Deed.emptied r.spec.name result :: ·) quiet

end

section

variable {spec : Specification} {s s' : Unit}

/-- The type of an instance is found or made up. -/
theorem typeOf_tells {r : Except CatalogError TypeMeta}
    (h : Runs Entries.Tells (typeOf spec).run s xs r s') : ∃ typeMeta, r = .ok typeMeta := by
  rcases bind_ofRegistry_inv h with ⟨_, found, _, _, hfind, hrest, rfl⟩ | ⟨e, hfind, -⟩
  · cases found with
    | none => exact ⟨_, (pure_inv hrest).2.1⟩
    | some typeMeta => exact ⟨_, (pure_inv hrest).2.1⟩
  · obtain ⟨found, told⟩ := hfind.ask_inv.2
    cases told

/-- The storage of an instance whose entry was taken is removed, or that fails. -/
theorem dropStorage_fate {typeMeta : TypeMeta} {r : Except CatalogError Unit}
    (h : Runs Entries.Tells (dropStorage settings spec typeMeta).run s xs r s') :
    ∃ result, deeds xs = [.emptied spec.name result] ∧ r = (Fate.taken result).verdict spec.name := by
  obtain ⟨_, result, _, _, hdrop, hrest, rfl⟩ := bind_always_inv h
  refine ⟨result, ?_⟩
  rw [deeds_append, deeds_of_drop hdrop]
  cases result with
  | ok u =>
    obtain ⟨v, rfl, hrecord⟩ := always_inv hrest
    obtain ⟨rfl, -⟩ := hrecord.ask_inv
    exact ⟨rfl, rfl⟩
  | error e =>
    obtain ⟨_, v, _, _, hrecord, hthrow, rfl⟩ := bind_always_inv hrest
    obtain ⟨rfl, -⟩ := hrecord.ask_inv
    obtain ⟨rfl, rfl, -⟩ := throw_inv hthrow
    exact ⟨rfl, rfl⟩

/-- The attempt to drop an instance that was found in the catalog has a fate. -/
theorem dropFound_fate {r : Except CatalogError Unit}
    (h : Runs Entries.Tells (dropFound settings spec).run s xs r s') :
    ∃ fate : Fate, deeds xs = fate.deeds spec.name ∧ r = fate.verdict spec.name := by
  rcases bind_inv h with ⟨ys₁, typeMeta, _, _, htype, h₁, rfl⟩ | ⟨e, htype, -⟩
  case inr =>
    obtain ⟨typeMeta, told⟩ := typeOf_tells htype
    cases told
  obtain ⟨ys₂, _, _, _, hhide, h₂, rfl⟩ := bind_always_inv h₁
  have first : deeds ys₁ = [] := deeds_of_aside htype (aside_typeOf spec)
  have second : deeds ys₂ = [] := deeds_of_aside hhide (aside_hide spec.name)
  rw [deeds_append, deeds_append, first, second]
  rcases bind_ofRegistry_inv h₂ with ⟨_, there, _, _, hremove, h₃, rfl⟩ | ⟨e, hremove, -⟩
  case inr =>
    obtain ⟨there, told⟩ := hremove.ask_inv.2
    cases told
  obtain ⟨rfl, -⟩ := hremove.ask_inv
  cases there with
  | false =>
    obtain ⟨rfl, rfl, -⟩ := throw_inv h₃
    exact ⟨.lost, rfl, rfl⟩
  | true =>
    obtain ⟨_, _, _, _, hcount, h₄, rfl⟩ := bind_always_inv h₃
    obtain ⟨rfl, -⟩ := hcount.ask_inv
    obtain ⟨_, _, _, _, hdisown, h₅, rfl⟩ := bind_discard_always_inv h₄
    obtain ⟨rfl, -⟩ := hdisown.ask_inv
    obtain ⟨result, emptied, rfl⟩ := dropStorage_fate h₅
    refine ⟨.taken result, ?_, rfl⟩
    rw [deeds_append, deeds_append, deeds_append, emptied]
    rfl

end

/-! ### What becomes of a snapshot -/

/-- The names of a snapshot with their fates. -/
abbrev Fates := List (String × Fate)

namespace Fates

def names (fs : Fates) : List String := fs.map Prod.fst

/-- The names whose fate is of a kind. -/
def those (kind : Fate → Bool) (fs : Fates) : List String := (fs.filter (kind ·.2)).map Prod.fst

def deeds (fs : Fates) : List Deed := fs.flatMap fun f => f.2.deeds f.1

/-- What the reset says of the fates. -/
def report (fs : Fates) : Except CatalogError DropReport :=
  if fs.those Fate.isFailed = [] then .ok ⟨fs.those Fate.isDropped, fs.those Fate.isLost⟩
  else .error (.partialFailure (fs.those Fate.isDropped).length (fs.those Fate.isFailed))

/-- Every name has one fate. -/
theorem perm_names (fs : Fates) :
    (fs.those Fate.isDropped ++ fs.those Fate.isLost ++ fs.those Fate.isFailed).Perm fs.names := by
  induction fs with
  | nil => exact .refl _
  | cons f fs ih =>
    obtain ⟨name, fate⟩ := f
    have rest := ih.cons name
    rcases fate with _ | ⟨e | u⟩
    · refine .trans ?_ rest
      simp only [those, Fate.isDropped, Fate.isLost, Fate.isFailed, List.filter_cons, List.map_cons,
        if_true, Bool.false_eq_true, if_false, List.append_assoc, List.cons_append]
      exact List.perm_middle
    · exact .trans List.perm_middle rest
    · exact rest

end Fates

variable {specs : List Specification} {s s' : Unit}

/-- What is noted down of one more name. -/
theorem tally_add (t : Tally) (name : String) (fate : Fate) :
    t.add name (fate.verdict name) =
      ⟨t.dropped ++ Fates.those Fate.isDropped [(name, fate)],
        t.skipped ++ Fates.those Fate.isLost [(name, fate)],
        t.failed ++ Fates.those Fate.isFailed [(name, fate)]⟩ := by
  rcases fate with _ | ⟨e | u⟩ <;>
    simp [Fate.verdict, Tally.add, Fates.those, Fate.isDropped, Fate.isLost, Fate.isFailed]

/-- The reset attempts every name of its snapshot once, and notes down what becomes of it. -/
theorem dropEach_fates {t t' : Tally}
    (h : Runs Entries.Tells (dropEach settings t specs) s xs t' s') :
    ∃ fs : Fates, fs.names = specs.map (·.name) ∧ deeds xs = fs.deeds ∧
      t' = ⟨t.dropped ++ fs.those Fate.isDropped, t.skipped ++ fs.those Fate.isLost,
        t.failed ++ fs.those Fate.isFailed⟩ := by
  induction specs generalizing t xs with
  | nil =>
    obtain ⟨rfl, rfl, -⟩ := h.done_inv
    exact ⟨[], rfl, rfl, by simp [Fates.those]⟩
  | cons spec rest ih =>
    obtain ⟨ys, r, _, zs, hdrop, hrest, rfl⟩ := h.bind_inv
    obtain ⟨fate, done, rfl⟩ := dropFound_fate hdrop
    rw [tally_add] at hrest
    obtain ⟨fs, names, others, rfl⟩ := ih hrest
    refine ⟨(spec.name, fate) :: fs, congrArg (spec.name :: ·) names, ?_, ?_⟩
    · rw [deeds_append, done, others]
      rfl
    · have split (kind : Fate → Bool) : Fates.those kind ((spec.name, fate) :: fs) =
          Fates.those kind [(spec.name, fate)] ++ Fates.those kind fs := by
        rw [Fates.those, Fates.those, Fates.those, ← List.map_append, ← List.filter_append]
        rfl
      simp only [split, List.append_assoc]

/-! ### What a caller answers -/

/-- What a drop does and answers: its name has a fate, or was not found. -/
def DropsOne (name : String) (xs : List Exchange) (r : Except CatalogError Unit) : Prop :=
  (∃ fate : Fate, deeds xs = fate.deeds name ∧ r = fate.verdict name) ∨
    deeds xs = [] ∧ r = .error (.instanceNotFound name)

/-- What a reset does and answers: each name of one snapshot has a fate, or the reset is disabled. -/
def DropsAll (settings : Settings) (xs : List Exchange) (r : Except CatalogError DropReport) :
    Prop :=
  if settings.unrecoverableReset then
    ∃ specs, ∃ fs : Fates, ⟨.allInstances, .ok specs⟩ ∈ xs ∧ fs.names = specs.map (·.name) ∧
      fs.names.Nodup ∧ deeds xs = fs.deeds ∧ r = fs.report ∧
      (fs.those Fate.isDropped ++ fs.those Fate.isLost ++ fs.those Fate.isFailed).Perm fs.names
  else deeds xs = [] ∧ r = .error (.forbidden "unrecoverable reset")

theorem dropInstance_dropsOne {name : String} {r : Except CatalogError Unit}
    (h : Runs Entries.Tells (dropInstance settings name).run s xs r s') : DropsOne name xs r := by
  unfold dropInstance at h
  split at h
  · rcases bind_ofRegistry_inv h with ⟨_, found, _, _, hfind, hrest, rfl⟩ | ⟨e, hfind, -⟩
    case inr =>
      obtain ⟨found, told, -⟩ := hfind.ask_inv.2
      cases told
    obtain ⟨rfl, found', told, named⟩ := hfind.ask_inv
    cases told
    cases found with
    | none =>
      obtain ⟨rfl, rfl, -⟩ := throw_inv hrest
      exact .inr ⟨rfl, rfl⟩
    | some spec =>
      obtain ⟨fate, done, said⟩ := dropFound_fate hrest
      rw [named spec rfl] at done said
      exact .inl ⟨fate, done, said⟩
  · obtain ⟨rfl, rfl, -⟩ := throw_inv h
    exact .inr ⟨rfl, rfl⟩

theorem dropAll_dropsAll {r : Except CatalogError DropReport}
    (h : Runs Entries.Tells (dropAll settings).run s xs r s') : DropsAll settings xs r := by
  rw [DropsAll]
  unfold dropAll at h
  split at h
  · next enabled =>
    rw [if_pos enabled]
    rcases bind_ofRegistry_inv h with ⟨_, specs, _, _, hall, h₁, rfl⟩ | ⟨e, hall, -⟩
    case inr =>
      obtain ⟨specs, told, -⟩ := hall.ask_inv.2
      cases told
    obtain ⟨rfl, specs', told, nodup⟩ := hall.ask_inv
    cases told
    obtain ⟨ys, t, _, _, heach, h₂, rfl⟩ := bind_always_inv h₁
    obtain ⟨_, u, _, _, hrecord, h₃, rfl⟩ := bind_always_inv h₂
    obtain ⟨rfl, -⟩ := hrecord.ask_inv
    obtain ⟨fs, names, done, rfl⟩ := dropEach_fates heach
    refine ⟨specs, fs, List.mem_cons_self, names, names ▸ nodup, ?_⟩
    simp only [List.nil_append, List.isEmpty_iff] at h₃
    rw [deeds_append, deeds_append, deeds_append, done]
    by_cases none_ : fs.those Fate.isFailed = []
    · rw [if_pos none_] at h₃
      obtain ⟨rfl, rfl, -⟩ := pure_inv h₃
      rw [Fates.report, if_pos none_]
      exact ⟨List.append_nil _, rfl, fs.perm_names⟩
    · rw [if_neg none_] at h₃
      obtain ⟨rfl, rfl, -⟩ := throw_inv h₃
      rw [Fates.report, if_neg none_]
      exact ⟨List.append_nil _, rfl, fs.perm_names⟩
  · next disabled =>
    rw [if_neg disabled]
    obtain ⟨_, _, _, _, hrecord, hthrow, rfl⟩ := bind_always_inv h
    obtain ⟨rfl, -⟩ := hrecord.ask_inv
    obtain ⟨rfl, rfl, -⟩ := throw_inv hthrow
    exact ⟨rfl, rfl⟩

namespace Errand

/-- An errand with all of its answer that concerns what was dropped. -/
def report (settings : Settings) : Errand → Step (Option DropReport)
  | dropAll => do return some (← Lifecycle.dropAll settings)
  | errand => do
    errand.step settings
    return none

/-- What an errand to drop does and answers. -/
def Accounts (settings : Settings) : Errand → List Exchange →
    Except CatalogError (Option DropReport) → Prop
  | drop name, xs, r => ∃ r₁, DropsOne name xs r₁ ∧ r = r₁.map fun _ => none
  | dropAll, xs, r => ∃ r₁, DropsAll settings xs r₁ ∧ r = r₁.map some
  | _, _, _ => True

end Errand

theorem report_accounts {errand : Errand} {r : Except CatalogError (Option DropReport)}
    (h : Runs Entries.Tells (errand.report settings).run s xs r s') :
    errand.Accounts settings xs r := by
  cases errand with
  | drop name =>
    rcases bind_inv h with ⟨_, u, _, _, hdrop, hrest, rfl⟩ | ⟨e, hdrop, rfl⟩
    · obtain ⟨rfl, rfl, -⟩ := pure_inv hrest
      rw [List.append_nil]
      exact ⟨_, dropInstance_dropsOne hdrop, rfl⟩
    · exact ⟨_, dropInstance_dropsOne hdrop, rfl⟩
  | dropAll =>
    rcases bind_inv h with ⟨_, report, _, _, hreset, hrest, rfl⟩ | ⟨e, hreset, rfl⟩
    · obtain ⟨rfl, rfl, -⟩ := pure_inv hrest
      rw [List.append_nil]
      exact ⟨_, dropAll_dropsAll hreset, rfl⟩
    · exact ⟨_, dropAll_dropsAll hreset, rfl⟩
  | _ => exact trivial

theorem proceeds_report (settings : Settings) (errand : Errand) :
    Proceeds errand .outside (errand.report settings).run fun _ φ => φ = .outside := by
  have others {step : Step Unit} (h : Proceeds errand .outside step.run fun _ φ => φ = .outside) :
      Proceeds errand .outside (do step; return none : Step (Option DropReport)).run
        fun _ φ => φ = .outside :=
    Tracks.step_bind h (fun _ _ h => h) fun _ _ h => h
  cases errand with
  | dropAll => exact Tracks.step_bind (proceeds_dropAll trivial) (fun _ _ h => h) fun _ _ h => h
  | _ => exact others (proceeds_program settings _)

/-- Only an errand to drop removes an entry. -/
theorem Stage.Move.drops {errand : Errand} {φ φ' : Stage} {name : String}
    {a : Except RegistryError Bool}
    (move : Stage.Move errand φ (.removeInstance name) a φ') : errand.Drops := by
  cases move with
  | beside φ a h => cases h
  | removed drops => exact drops
  | missed drops => exact drops

/-! ### All interleavings -/

/-- **Each entry is dropped by one caller.** Coordinators share a catalog that works, drops, resets
and creates run side by side, and all other collaborators answer as they like. Additions and removals
of a name take turns, so that every entry is removed once; every removal is by a drop or a reset; and
of those that have returned,
* a drop has taken the entry of its name, removed the storage once and answered with what came of that,
  or has done neither and answers that the name is not there or not any more, and
* a reset has done the one or the other for each name of its snapshot, and counts the name once. -/
theorem each_entry_is_dropped_once {ι σ : Type} [DecidableEq ι] {B : ι → Conduct σ}
    {entries : σ → Entries}
    (works : ∀ i c s a s', B i c s a s' → Entries.Works c (entries s) a (entries s'))
    {settings : ι → Settings} {errands : ι → Errand} {s s' : σ} (proper : (entries s).Proper)
    {xs : List (ThreadExchange ι)} {q : Threads ι (Except CatalogError (Option DropReport))}
    (h : InterleavesBy B (fun i => ((errands i).report (settings i)).run) s xs q s') :
    (∀ name, ((StringMap.find? name (entries s)).isSome :: changes name xs).IsChain (· ≠ ·) ∧
      ((StringMap.find? name (entries s)).isSome :: changes name xs).getLast? =
        some (StringMap.find? name (entries s')).isSome) ∧
      (∀ i name, (i, ⟨.removeInstance name, .ok true⟩) ∈ xs → (errands i).Drops) ∧
      ∀ i r, q i = .done r → (errands i).Accounts (settings i) (own i xs) r := by
  refine ⟨changes_alternate works h, ?_, fun i r returned => ?_⟩
  · obtain ⟨stage, -, removals⟩ : ∃ stage : ι → Stage,
        (∀ i, Proceeds (errands i) (stage i) (q i) fun _ φ => φ = .outside) ∧
        ∀ i name, (i, ⟨.removeInstance name, .ok true⟩) ∈ xs → (errands i).Drops := by
      refine h.track
        (I := fun xs _ _ => ∀ i name, (i, ⟨.removeInstance name, .ok true⟩) ∈ xs → (errands i).Drops)
        (fun i => proceeds_report (settings i) (errands i)) nofun ?_
      intro xs stage s₁ s₂ i c a φ before answered move j name hx
      rcases List.mem_append.1 hx with hx | hx
      · exact before j name hx
      · cases List.mem_singleton.1 hx
        exact move.drops
    exact removals
  · have run : Runs Entries.Tells ((errands i).report (settings i)).run () (own i xs) r () :=
      h.runs_own (I := fun s => (entries s).Proper) proper
        (fun i c s₁ a s₂ answered proper => (works i c s₁ a s₂ answered).tells proper) returned
    exact report_accounts run

end Lifecycle

/-- The entries of stores that coordinators share. -/
def Shared.InMemory.entries {κ : Type} (s : Shared.InMemory κ) : Entries :=
  s.1.stores.ledger.catalog

/-- A registry in memory works. -/
theorem Stores.answer_entries {s : Stores} (h : s.InMemory) (c : Call) (rs : Reservations) :
    Entries.Works c s.ledger.catalog (answer c (rs, s)).1 (answer c (rs, s)).2.2.ledger.catalog := by
  have added spec := addInstance_ledger h spec rs
  obtain ⟨types, entries, records, storage, gateway, disk, audit, metrics, rfl⟩ := h.exists_eq
  cases c with
  | addInstance spec =>
    have answered := added spec
    unfold Ledger.addInstance at answered
    split at answered
    · obtain ⟨refused, same⟩ := Prod.mk.inj answered
      exact .inr ⟨⟨_, refused⟩, congrArg Ledger.catalog same⟩
    · next free =>
      obtain ⟨added, entered⟩ := Prod.mk.inj answered
      exact .inl ⟨added, Option.not_isSome_iff_eq_none.1 free, congrArg Ledger.catalog entered⟩
  | findInstance name => exact ⟨rfl, rfl⟩
  | allInstances => exact ⟨rfl, rfl⟩
  | removeInstance name => exact ⟨rfl, rfl⟩
  | findType typeName => exact ⟨⟨_, rfl⟩, rfl⟩
  | _ => exact rfl

theorem Shared.InMemory.answer_entries {κ : Type} [DecidableEq κ] (k : κ) (c : Call)
    (s : Shared.InMemory κ) (a : c.Answer) (s' : Shared.InMemory κ)
    (answered : Conduct.ofHandler (answer k) c s a s') :
    Entries.Works c s.entries a s'.entries := by
  cases answered
  exact Stores.answer_entries s.2 c (s.1.reservations k)

namespace Lifecycle

open Program

/-- A create, and then a drop and a reset that both find the instance. -/
def dropRivals : Fin 3 → Errand
  | 0 => .create "orders" ⟨"table", [], none⟩
  | 1 => .drop "orders"
  | 2 => .dropAll

/-- The settings of two coordinators, of which the second one allows the reset. -/
def dropSettings : Fin 3 → Settings
  | 0 | 1 => {}
  | 2 => { unrecoverableReset := true }

/-- The coordinator of each caller: the reset is at another one than the create and the drop. -/
def dropCoordinators : Fin 3 → Bool
  | 0 | 1 => false
  | 2 => true

/-- On a new deployment the create ends first, and the reset removes the entry after the drop has found
it. -/
theorem entry_is_dropped_once_in_memory :
    let schedule : List (Fin 3) :=
      List.replicate 20 0 ++ List.replicate 2 1 ++ List.replicate 20 2 ++ List.replicate 10 1
    let dropped := playBy (fun i => Shared.InMemory.answer (dropCoordinators i)) schedule
      (fun i => ((dropRivals i).report (dropSettings i)).run) .fresh
    (∀ (i : Fin 3) c s a s', Conduct.ofHandler (Shared.InMemory.answer (dropCoordinators i)) c s a s' →
        Entries.Works c s.entries a s'.entries) ∧
      (Shared.InMemory.fresh (κ := Bool)).entries.Proper ∧
      InterleavesBy (fun i => .ofHandler (Shared.InMemory.answer (dropCoordinators i)))
        (fun i => ((dropRivals i).report (dropSettings i)).run) .fresh dropped.1 dropped.2.1
        dropped.2.2 ∧
      changes "orders" dropped.1 = [true, false] ∧
      dropped.2.1 1 = .done (.error (.concurrentlyDropped "orders")) ∧
      dropped.2.1 2 = .done (.ok (some ⟨["orders"], []⟩)) ∧
      (dropRivals 1).Accounts {} (own 1 dropped.1) (.error (.concurrentlyDropped "orders")) := by
  intro schedule dropped
  have works (i : Fin 3) := Shared.InMemory.answer_entries (dropCoordinators i)
  have proper : (Shared.InMemory.fresh (κ := Bool)).entries.Proper := ⟨.nil, nofun⟩
  have run : InterleavesBy (fun i => .ofHandler (Shared.InMemory.answer (dropCoordinators i)))
      (fun i => ((dropRivals i).report (dropSettings i)).run) .fresh dropped.1 dropped.2.1
      dropped.2.2 := interleaves_playBy _ _ _ _
  obtain ⟨-, -, accounts⟩ := each_entry_is_dropped_once works proper run
  exact ⟨works, proper, run, rfl, rfl, rfl, accounts 1 _ rfl⟩

end Lifecycle

end DatasetCatalog
