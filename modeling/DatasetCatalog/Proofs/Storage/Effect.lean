import DatasetCatalog.Proofs.Storage.Local

/-!
# The effect of a request in a data directory

Whatever becomes of a request, three things hold after it (`Effect`): nothing has changed beyond the
place of its instance, what stands there as a specification can be followed without harm, and unless
the request was to make or remove the storage, the storage holds what it did. This is so for requests
that are carried out (`run_effect`) and for those that fail halfway in some other manner, as far as
that is bounded by `Damage`.
-/

namespace DatasetCatalog

namespace Storage

open Disk

/-- Whether a request is to make or remove the storage of its instance. -/
def Request.remakes : Request → Bool
  | create _ | drop _ => true
  | _ => false

namespace Local

variable {l : Local} {w : Place} {d d' : Disk} {name other : String} {r : Request}
  {spec : Specification} {ok : Specification → Prop} {area : Place → Prop}

/-- What stands as the specification of an instance, if one can be read there, is as asked. -/
def Admits (l : Local) (ok : Specification → Prop) (w : Place) (d : Disk) (name : String) : Prop :=
  ∀ bytes spec, d.node? (l.specPlace w name) = some (.file bytes) →
    Json.decode Specification.reader bytes = .ok spec → ok spec

/-- All stored specifications can be followed without harm. -/
def Clean (l : Local) (w : Place) (d : Disk) : Prop := ∀ name, l.Admits SafeParts w d name

theorem Admits.of_changes (admits : l.Admits ok w d name) (changes : Changes area d d')
    (h : ¬ area (l.specPlace w name)) : l.Admits ok w d' name := by
  intro bytes spec there decoded
  exact admits bytes spec (changes.file_before h there) decoded

theorem admits_of_missing (h : d.node? (l.specPlace w name) = none) : l.Admits ok w d name := by
  intro bytes spec there
  rw [h] at there
  cases there

/-- The storage of an instance holds one specification. -/
theorem Holds.unique (holds : l.Holds w d name spec) {again : Specification} {bytes : List UInt8}
    (there : d.node? (l.specPlace w name) = some (.file bytes))
    (decoded : Json.decode Specification.reader bytes = .ok again) : again = spec := by
  obtain ⟨_, there', decoded'⟩ := holds.written
  cases there.symm.trans there'
  cases decoded.symm.trans decoded'
  rfl

/-- The parts of what the built-in types make for a safe name have safe names. -/
theorem safeParts_of_makes {typeName : String} {ps : Properties} (safe : isSafeName name = true)
    (made : Definition.Makes typeName name ps spec) : SafeParts spec := by
  intro part hpart
  rcases made.parts hpart with heq | heq
  · rw [heq]
    exact safe
  · rw [heq, String.append_assoc]
    exact isSafeName_append safe rfl

theorem Settled.safeParts (settled : l.Settled w d name spec) : SafeParts spec := by
  obtain ⟨ps, made⟩ := settled.made
  exact safeParts_of_makes settled.safe made

theorem Settled.admits (settled : l.Settled w d name spec) : l.Admits SafeParts w d name := by
  intro bytes again there decoded
  rw [settled.toHolds.unique there decoded]
  exact settled.safeParts

/-! ### Effects -/

/-- What a request may come to. -/
structure Effect (l : Local) (w : Place) (r : Request) (d d' : Disk) : Prop where
  changes : Changes (below (l.home w r.target)) d d'
  safe : l.Admits SafeParts w d' r.target
  keeps : r.remakes = false → ∀ spec, l.Settled w d r.target spec → l.Settled w d' r.target spec

theorem Effect.clean (effect : l.Effect w r d d') (clean : l.Clean w d) : l.Clean w d' := by
  intro name
  by_cases h : name = r.target
  · rw [h]
    exact effect.safe
  · exact (clean name).of_changes effect.changes (not_below_home h (List.prefix_append _ _))

theorem Effect.settled (effect : l.Effect w r d d') (hw : d.workingDirectory = w)
    (h : name = r.target → r.remakes = false) (settled : l.Settled w d name spec) :
    l.Settled w d' name spec := by
  by_cases own : name = r.target
  · subst own
    exact effect.keeps (h rfl) spec settled
  · exact settled.of_other hw own effect.changes

/-- What only happens beside a specification is an effect of any request. -/
theorem effect_of_beside (hw : d.workingDirectory = w) (clean : l.Clean w d)
    (changes : Changes (l.beside w r.target) d d') : l.Effect w r d d' where
  changes := changes.mono fun _ hp => below_of_within (within_of_beside hp)
  safe := (clean r.target).of_changes changes not_beside_specPlace
  keeps _ _ settled := settled.of_beside hw changes

theorem upgrade_keeps (builtin : l.definitions = Definition.builtin) (hw : d.workingDirectory = w)
    {a : Except StorageError Unit} (h : (ExceptT.run (l.upgrade name)).run d = (a, d'))
    (settled : l.Settled w d name spec) : l.Settled w d' name spec := by
  rcases upgrade_inv builtin hw h with ⟨-, changes⟩ | ⟨old, new, -, -, stored, makes, settled'⟩
  · exact settled.of_beside hw changes
  · obtain ⟨bytes, there, decoded⟩ := stored.written hw (component_of_isSafeName settled.safe)
    obtain rfl := settled.toHolds.unique there decoded
    obtain ⟨ps, made⟩ := settled.made
    obtain rfl := made.stable makes
    exact settled'

theorem run_effect (builtin : l.definitions = Definition.builtin) (hw : d.workingDirectory = w)
    (clean : l.Clean w d) {a : Result r} (h : l.run r d = (a, d')) : l.Effect w r d d' := by
  cases r with
  | create c =>
    rcases create_inv builtin hw h with ⟨-, changes⟩ | ⟨spec, -, -, changes, settled, -⟩
    · exact effect_of_beside hw clean changes
    · exact ⟨changes, settled.admits, nofun⟩
  | drop removal =>
    rcases drop_inv hw h with rfl | rfl
    · exact effect_of_beside hw clean (.refl _ _)
    · have inside : l.home w removal.spec.name <+: l.specPlace w removal.spec.name :=
        List.prefix_append _ _
      refine ⟨.prune fun _ hq => hq, admits_of_missing ?_, nofun⟩
      exact (node?_prune _ _ (by simp [specPlace])).trans (if_pos inside)
  | truncate name =>
    -- the one operation that follows what it reads, which `clean` is for
    refine effect_of_beside hw clean (truncate_inv hw (fun safe spec stored => ?_) h)
    obtain ⟨bytes, there, decoded⟩ := stored.written hw (component_of_isSafeName safe)
    exact clean name bytes spec there decoded
  | upgrade name =>
    rcases upgrade_inv builtin hw h with ⟨-, changes⟩ | ⟨old, new, -, changes, -, -, settled⟩
    · exact effect_of_beside hw clean changes
    · exact ⟨changes, settled.admits, fun _ _ => upgrade_keeps builtin hw h⟩
  | probe name =>
    obtain rfl := probe_inv h
    exact effect_of_beside hw clean (.refl _ _)

/-- What a request that fails halfway may leave: anything in the place of its instance if it was to
make or remove the storage, unless that can be read as a specification which is not as asked, and
otherwise anything beside the specification. -/
def Damage (l : Local) (ok : Specification → Prop) (w : Place) (r : Request) (d d' : Disk) : Prop :=
  if r.remakes then Changes (below (l.home w r.target)) d d' ∧ l.Admits ok w d' r.target
  else Changes (l.beside w r.target) d d'

theorem Damage.effect (damage : l.Damage SafeParts w r d d') (hw : d.workingDirectory = w)
    (clean : l.Clean w d) : l.Effect w r d d' := by
  unfold Damage at damage
  split at damage
  · next remakes =>
    refine ⟨damage.1, damage.2, fun keeps => ?_⟩
    rw [remakes] at keeps
    cases keeps
  · exact effect_of_beside hw clean damage

end Local

end Storage

end DatasetCatalog
