import DatasetCatalog.Proofs.Program.Runs
import DatasetCatalog.Proofs.Storage.Fresh
import DatasetCatalog.Proofs.Storage.Site

/-!
# Storage that others may have touched

Whoever makes a request may be wrong about what stands in the place of its instance, because somebody
else has made storage there or removed it. A request that is carried out leaves what there is, with two
exceptions: a create that finds nothing makes storage, and a drop that succeeds removes what it finds.
`left` says so of a request and its result, and `Stands.of_perform` that it is right.

Removing storage takes that the way to it is open, which it is if the path of the data directory is
`Direct`.
-/

namespace DatasetCatalog

open Disk

namespace Storage

namespace Local

variable {l : Local} {w : Place} {d d' : Disk} {name : String} {spec : Specification} {r : Request}
  {area : Place → Prop} {ok : Specification → Prop}

/-- Nothing stands for an instance that could be its specification. -/
def Bare (l : Local) (w : Place) (d : Disk) (name : String) : Prop :=
  ∀ bytes, d.node? (l.specPlace w name) ≠ some (.file bytes)

theorem Bare.not_holds (bare : l.Bare w d name) : ¬ l.Holds w d name spec := by
  intro holds
  obtain ⟨bytes, there, -⟩ := holds.written
  exact bare bytes there

theorem Bare.of_changes (bare : l.Bare w d name) (changes : Changes area d d')
    (h : ¬ area (l.specPlace w name)) : l.Bare w d' name :=
  fun bytes there => bare bytes (changes.file_before h there)

/-- Only a create that succeeds makes a specification. -/
theorem Bare.of_run (bare : l.Bare w d name) (builtin : l.definitions = Definition.builtin)
    (hw : d.workingDirectory = w) (clean : l.Clean w d) {a : Result r} (h : l.run r d = (a, d'))
    (beside : name = r.target → r.remakes = false) : l.Bare w d' name := by
  by_cases own : name = r.target
  case neg =>
    exact bare.of_changes (run_effect builtin hw clean h).changes
      (not_below_home own (List.prefix_append _ _))
  subst own
  cases r with
  | create | drop => cases beside rfl
  | truncate name =>
    refine bare.of_changes (truncate_inv hw (fun safe spec stored => ?_) h) not_beside_specPlace
    obtain ⟨bytes, there, -⟩ := stored.written hw (component_of_isSafeName safe)
    exact absurd there (bare bytes)
  | upgrade name =>
    rcases upgrade_inv builtin hw h with ⟨-, changes⟩ | ⟨old, new, -, -, stored, -, settled⟩
    · exact bare.of_changes changes not_beside_specPlace
    · obtain ⟨bytes, there, -⟩ := stored.written hw (component_of_isSafeName settled.safe)
      exact absurd there (bare bytes)
  | probe name =>
    obtain rfl := probe_inv h
    exact bare

theorem Bare.of_damage (bare : l.Bare w d name) (damage : l.Damage ok w r d d')
    (beside : name = r.target → r.remakes = false) : l.Bare w d' name := by
  by_cases own : name = r.target
  · subst own
    rw [Damage, beside rfl] at damage
    exact bare.of_changes damage not_beside_specPlace
  · have changes : Changes (below (l.home w r.target)) d d' := by
      unfold Damage at damage
      split at damage
      · exact damage.1
      · exact damage.mono fun _ hp => below_of_within (within_of_beside hp)
    exact bare.of_changes changes (not_below_home own (List.prefix_append _ _))

theorem Bare.of_create {c : Creation} {e : StorageError} (bare : l.Bare w d c.name)
    (builtin : l.definitions = Definition.builtin) (hw : d.workingDirectory = w)
    (h : l.run (.create c) d = (.error e, d')) : l.Bare w d' c.name := by
  rcases create_inv builtin hw h with ⟨-, changes⟩ | ⟨spec, made, -⟩
  · exact bare.of_changes changes not_beside_specPlace
  · cases made

/-! ### Drops -/

/-- Where the tree was removed, there is no specification. -/
theorem bare_prune (l : Local) (w : Place) (d : Disk) (name : String) :
    l.Bare w (d.prune (l.home w name)) name := by
  intro bytes there
  have inside : l.home w name <+: l.specPlace w name := List.prefix_append _ _
  rw [node?_prune _ _ (by simp [specPlace]), if_pos inside] at there
  cases there

theorem Bare.of_drop {removal : Removal} {a : Except StorageError Unit}
    (bare : l.Bare w d removal.spec.name) (hw : d.workingDirectory = w)
    (h : l.run (.drop removal) d = (a, d')) : l.Bare w d' removal.spec.name := by
  rcases drop_inv hw h with rfl | rfl
  · exact bare
  · exact bare_prune l w d removal.spec.name

/-- A drop that fails has changed nothing. -/
theorem drop_error {removal : Removal} {e : StorageError}
    (h : l.run (.drop removal) d = (.error e, d')) : d' = d := by
  rcases DiskAction.bind_inv h with ⟨dir, d₁, hdir, h₁⟩ | ⟨e, hdir, -⟩
  case inr => exact (directory_inv hdir).1
  obtain ⟨rfl, -⟩ := directory_inv hdir
  rcases DiskAction.bind_inv h₁ with ⟨there, d₂, hremove, h₂⟩ | ⟨e, hremove, -⟩
  · cases (DiskAction.pure_inv h₂).1
  · obtain ⟨r, hrun, failed⟩ := DiskAction.adapt_inv hremove
    change (removeTreeIfPresent dir).run d₁ = (r, d') at hrun
    rw [removeTreeIfPresent_eq] at hrun
    split at hrun
    · cases hrun
      cases failed
    · cases hrun
      cases failed
    · cases hrun
      rfl

/-- The way to storage that can be read is open. -/
theorem Settled.opens (settled : l.Settled w d name spec) (direct : l.Direct w)
    (hw : d.workingDirectory = w) :
    d.Opens l.root (placeFrom w l.root) ∧ FileName name := by
  have component := component_of_isSafeName settled.safe
  obtain ⟨bytes, read, -⟩ := settled.readable direct
  obtain ⟨p, located, -⟩ := content_eq_ok.1 read
  have inner := Opens.of_locate_join located component_specFile
  have short := short_of_walk inner.walked name
    (by rw [Path.names_join component]; exact List.mem_append_right _ (List.mem_singleton_self _))
    component.notUp
  have opens := Opens.of_locate_join
    (locate_of_walk inner.noNul (Path.join_nonempty component l.root) inner.walked) component
  rw [placeOf_eq_placeFrom hw] at opens
  exact ⟨opens, fileName_of_isSafeName settled.safe short⟩

/-- A drop removes storage that can be read. -/
theorem Settled.of_drop {removal : Removal} {a : Except StorageError Unit}
    (settled : l.Settled w d removal.spec.name spec) (direct : l.Direct w)
    (hw : d.workingDirectory = w) (h : l.run (.drop removal) d = (a, d')) :
    l.Bare w d' removal.spec.name := by
  obtain ⟨opens, fits⟩ := settled.opens direct hw
  have run := drop_run settled.safe fits opens (.inr settled.placed)
  rw [settled.placed, if_neg (Option.some_ne_none _), h] at run
  cases run
  exact bare_prune l w d removal.spec.name

end Local

namespace Backend

variable {s s' : Site} {r : Request} {name : String} {spec : Specification}

/-- There is no storage of an instance. -/
def Bare : Site → String → Prop
  | (memory m, _), name => StringMap.find? name m.physical = none
  | (directory l, d), name => l.Bare d.workingDirectory d name
  | (process _ _, _), _ => False

/-- Where storage is in a data directory, the path of that does not lead through the place of an
instance. -/
def Direct : Site → Prop
  | (directory l, d) => l.Direct d.workingDirectory
  | _ => True

theorem Bare.not_holds (bare : Bare s name) : ¬ Holds s name spec := by
  rcases s with ⟨m | l | c, d⟩
  · intro holds
    cases bare.symm.trans holds
  · exact Local.Bare.not_holds bare
  · cases bare

/-- Storage is for one specification. -/
theorem Holds.unique {other : Specification} (holds : Holds s name spec)
    (also : Holds s name other) : other = spec := by
  rcases s with ⟨m | l | c, d⟩
  · exact Option.some.inj (also.symm.trans holds)
  · obtain ⟨bytes, there, decoded⟩ := Local.Holds.written also
    exact Local.Holds.unique holds there decoded
  · cases holds

/-- A request that fails need not leave anything. -/
theorem damage_refl (ready : Ready s) (r : Request) : Damage Local.SafeParts r s s := by
  rcases s with ⟨m | l | w, d⟩
  · exact fun _ _ => rfl
  · refine ⟨rfl, ?_⟩
    unfold Local.Damage
    split
    · exact ⟨.refl _ _, ready.2 r.target⟩
    · exact .refl _ _
  · cases ready

/-- What a request in a data directory comes to. -/
theorem perform_directory_inv {l : Local} {d : Disk} {a : Result r}
    (h : perform r (directory l, d) = (a, s')) (ready : Ready (directory l, d)) :
    ∃ d', s' = (directory l, d') ∧ d'.workingDirectory = d.workingDirectory ∧
      l.run r d = (a, d') := by
  cases hrun : l.run r d with
  | mk a₁ d' =>
    rw [perform_directory hrun] at h
    cases h
    exact ⟨d', rfl, (Local.run_effect ready.1 rfl ready.2 hrun).changes.workingDirectory, rfl⟩

/-- No request moves the data directory. -/
theorem Acts.direct {a : Result r} (acts : Acts Local.SafeParts r s a s') (ready : Ready s) :
    Direct s' ↔ Direct s := by
  rcases s with ⟨m | l | c, d⟩
  · obtain ⟨m', d', rfl, -⟩ := acts.memory_effect
    exact Iff.rfl
  · obtain ⟨d', rfl, effect⟩ := acts.local_effect ready
    rw [Direct, Direct, effect.changes.workingDirectory]
  · cases ready

/-- Where there is no storage, a request makes none unless it is to. -/
theorem Acts.bare {a : Result r} (acts : Acts Local.SafeParts r s a s') (ready : Ready s)
    (beside : name = r.target → r.remakes = false) (bare : Bare s name) : Bare s' name := by
  rcases s with ⟨m | l | c, d⟩
  · obtain ⟨m', d', rfl, kept⟩ := acts.memory_effect
    exact (kept name beside).trans bare
  · obtain ⟨d', rfl, effect⟩ := acts.local_effect ready
    change l.Bare d'.workingDirectory d' name
    rw [effect.changes.workingDirectory]
    cases acts with
    | served h =>
      obtain ⟨_, ⟨⟩, -, run⟩ := perform_directory_inv h ready
      exact Local.Bare.of_run bare ready.1 rfl ready.2 run beside
    | failed e h => exact Local.Bare.of_damage bare h.2 beside
  · cases ready

/-! ### What a request leaves -/

/-- The storage of an instance that a request has made, or none if it has removed it. A request that
has done neither leaves what there is. -/
def left (name : String) : StorageExchange → Option (Option Specification)
  | ⟨.create c, .ok spec⟩ => if c.name = name then some (some spec) else none
  | ⟨.drop r, .ok _⟩ => if r.spec.name = name then some none else none
  | _ => none

/-- The storage of an instance is for a specification, or there is none that could be removed. -/
def Stands (s : Site) (name : String) : Option Specification → Prop
  | some spec => Settled s name spec
  | none => Direct s → Bare s name

variable {entry : Option Specification}

/-- A request that does not make or remove the storage of an instance leaves it, even if it fails. -/
theorem Stands.of_acts {a : Result r} (stands : Stands s name entry)
    (acts : Acts Local.SafeParts r s a s') (ready : Ready s)
    (beside : name = r.target → r.remakes = false) : Stands s' name entry := by
  cases entry with
  | some spec => exact (acts.effect ready).keeps name spec beside stands
  | none => exact fun direct => acts.bare ready beside (stands ((acts.direct ready).1 direct))

/-- Where there is storage, a create is refused and leaves it. -/
theorem Settled.of_create {c : Creation} {a : Result (.create c)} (settled : Settled s c.name spec)
    (ready : Ready s) (h : perform (.create c) s = (a, s')) :
    (∃ e, a = .error e) ∧ Settled s' c.name spec := by
  rcases s with ⟨m | l | w, d⟩
  · rcases perform_memory m d (.create c) with ⟨e, m', hrun, same⟩ | ⟨m₁, same, hrun⟩
    · cases h.symm.trans hrun
      change _ ∧ StringMap.find? c.name m'.physical = some spec
      rw [same]
      exact ⟨⟨e, rfl⟩, settled⟩
    · have there : StringMap.find? c.name m₁.physical = some spec := same ▸ settled
      have taken : m₁.contains c.name = true := by
        rw [Scripted.contains, StringMap.contains, there]
        rfl
      rw [Scripted.finish, if_pos taken] at hrun
      cases h.symm.trans hrun
      exact ⟨⟨_, rfl⟩, there⟩
  · obtain ⟨d', rfl, same, run⟩ := perform_directory_inv h ready
    change _ ∧ l.Settled d'.workingDirectory d' c.name spec
    rw [same]
    exact Local.Settled.of_create settled ready.1 rfl run
  · cases ready

/-- A create that fails has made no storage. -/
theorem Bare.of_create {c : Creation} {e : StorageError} (bare : Bare s c.name) (ready : Ready s)
    (h : perform (.create c) s = (.error e, s')) : Bare s' c.name := by
  rcases s with ⟨m | l | w, d⟩
  · rcases perform_memory m d (.create c) with ⟨e, m', hrun, same⟩ | ⟨m₁, same, hrun⟩
    · cases h.symm.trans hrun
      change StringMap.find? c.name m'.physical = none
      rw [same]
      exact bare
    · have missing : m₁.contains c.name = false := by
        rw [Scripted.contains, StringMap.contains, same, show StringMap.find? _ _ = none from bare]
        rfl
      rw [Scripted.finish, missing] at hrun
      cases h.symm.trans hrun
  · obtain ⟨d', rfl, same, run⟩ := perform_directory_inv h ready
    change l.Bare d'.workingDirectory d' c.name
    rw [same]
    exact Local.Bare.of_create bare ready.1 rfl run
  · cases ready

/-- A drop that fails leaves what there is. -/
theorem Stands.of_drop_error {removal : Removal} {e : StorageError} (stands : Stands s name entry)
    (ready : Ready s) (h : perform (.drop removal) s = (.error e, s')) : Stands s' name entry := by
  rcases s with ⟨m | l | w, d⟩
  · rcases perform_memory m d (.drop removal) with ⟨_, m', hrun, same⟩ | ⟨m₁, -, hrun⟩
    · cases h.symm.trans hrun
      cases entry with
      | some spec =>
        change StringMap.find? name m'.physical = some spec
        rw [same]
        exact stands
      | none =>
        intro direct
        change StringMap.find? name m'.physical = none
        rw [same]
        exact stands direct
    · cases h.symm.trans hrun
  · obtain ⟨d', rfl, -, run⟩ := perform_directory_inv h ready
    rw [Local.drop_error run]
    exact stands
  · cases ready

/-- After a drop that succeeds there is no storage. -/
theorem Stands.of_drop {removal : Removal} {u : Unit} (stands : Stands s removal.spec.name entry)
    (ready : Ready s) (h : perform (.drop removal) s = (.ok u, s')) :
    Stands s' removal.spec.name none := by
  intro direct
  rcases s with ⟨m | l | w, d⟩
  · rcases perform_memory m d (.drop removal) with ⟨e, m', hrun, -⟩ | ⟨m₁, -, hrun⟩
    · cases h.symm.trans hrun
    · cases h.symm.trans hrun
      exact (StringMap.find?_erase _ _ _).trans (if_pos rfl)
  · obtain ⟨d', rfl, same, run⟩ := perform_directory_inv h ready
    change l.Direct d'.workingDirectory at direct
    change l.Bare d'.workingDirectory d' removal.spec.name
    rw [same] at direct ⊢
    cases entry with
    | some spec => exact Local.Settled.of_drop stands direct rfl run
    | none => exact Local.Bare.of_drop (stands direct) rfl run
  · cases ready

theorem Stands.of_create_error {c : Creation} {e : StorageError} (stands : Stands s c.name entry)
    (ready : Ready s) (h : perform (.create c) s = (.error e, s')) : Stands s' c.name entry := by
  cases entry with
  | some spec => exact (Settled.of_create stands ready h).2
  | none =>
    have acts : Acts Local.SafeParts (.create c) s (.error e) s' := .served h
    exact fun direct => (stands ((acts.direct ready).1 direct)).of_create ready h

/-- **What a request leaves.** Whoever has touched the storage of an instance before, after a request
that was carried out there is what the request has left. -/
theorem Stands.of_perform {a : Result r} (stands : Stands s name entry) (ready : Ready s)
    (h : perform r s = (a, s')) : Stands s' name ((left name ⟨r, a⟩).getD entry) := by
  have acts : Acts Local.SafeParts r s a s' := .served h
  cases r with
  | create c =>
    by_cases own : c.name = name
    · subst own
      cases a with
      | ok made =>
        rw [left, if_pos rfl]
        exact acts.created ready
      | error e => exact stands.of_create_error ready h
    · have others : left name ⟨.create c, a⟩ = none := by
        cases a with
        | ok made => exact if_neg own
        | error e => rfl
      rw [others]
      exact stands.of_acts acts ready fun same => absurd same.symm own
  | drop removal =>
    cases a with
    | ok u =>
      by_cases own : removal.spec.name = name
      · subst own
        rw [left, if_pos rfl]
        exact stands.of_drop ready h
      · rw [left, if_neg own]
        exact stands.of_acts acts ready fun same => absurd same.symm own
    | error e => exact stands.of_drop_error ready h
  | _ => exact stands.of_acts acts ready fun _ => rfl

end Backend

end Storage

end DatasetCatalog
