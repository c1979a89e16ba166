import DatasetCatalog.Disk.Operations
import DatasetCatalog.Proofs.Disk.Walk

/-!
# What file operations change

`Changes area d d'` is the frame condition of file operations: beyond an area everything is as it
was, but where nothing stood there can be a directory now, because operations make the directories
above a path that are missing. Whatever an operation does within its area, what is read along a path
that stays out of the area is read again (`Changes.content`). Where no directories have to be made on
the way, beyond the area everything stays (`Spares`).
-/

namespace DatasetCatalog

/-! ### Running actions

Actions on the disk fail with errors of different types, so what is said of their composition is said
of all of them at once. -/

namespace DiskAction

variable {σ ε ε' α β : Type} {d d' : Disk}

theorem bind_run (a : ExceptT ε (StateM σ) α) (f : α → ExceptT ε (StateM σ) β) (s : σ) :
    (ExceptT.run (a >>= f)).run s = match (ExceptT.run a).run s with
      | (.ok x, s₁) => (ExceptT.run (f x)).run s₁
      | (.error e, s₁) => (.error e, s₁) := by
  change (ExceptT.bindCont f ((ExceptT.run a).run s).1).run ((ExceptT.run a).run s).2 = _
  rcases (ExceptT.run a).run s with ⟨x | x, s₁⟩ <;> rfl

/-- The rest of an action that asks for the disk depends on the disk that it finds. -/
theorem get_bind_run (f : Disk → ExceptT ε (StateM Disk) β) (d : Disk) :
    (ExceptT.run (getThe Disk >>= f)).run d = (ExceptT.run (f d)).run d := rfl

/-- A run of one action after another: both, or the first one alone if it fails. -/
theorem bind_inv {a : ExceptT ε (StateM Disk) α} {f : α → ExceptT ε (StateM Disk) β}
    {r : Except ε β} (h : (ExceptT.run (a >>= f)).run d = (r, d')) :
    (∃ x d₁, (ExceptT.run a).run d = (.ok x, d₁) ∧ (ExceptT.run (f x)).run d₁ = (r, d')) ∨
      ∃ e, (ExceptT.run a).run d = (.error e, d') ∧ r = .error e := by
  rw [bind_run] at h
  rcases hrun : (ExceptT.run a).run d with ⟨x | x, d₁⟩
  · rw [hrun] at h
    cases h
    exact .inr ⟨x, rfl, rfl⟩
  · rw [hrun] at h
    exact .inl ⟨x, d₁, rfl, h⟩

theorem pure_inv {a : α} {r : Except ε α}
    (h : (ExceptT.run (pure a : ExceptT ε (StateM Disk) α)).run d = (r, d')) :
    r = .ok a ∧ d' = d := by
  cases h
  exact ⟨rfl, rfl⟩

theorem throw_inv {e : ε} {r : Except ε α}
    (h : (ExceptT.run (throw e : ExceptT ε (StateM Disk) α)).run d = (r, d')) :
    r = .error e ∧ d' = d := by
  cases h
  exact ⟨rfl, rfl⟩

/-- An action whose errors are translated. -/
theorem adapt_inv {a : ExceptT ε (StateM Disk) α} {f : ε → ε'} {r : Except ε' α}
    (h : (ExceptT.run (ExceptT.adapt f a)).run d = (r, d')) :
    ∃ r₁, (ExceptT.run a).run d = (r₁, d') ∧ r = r₁.mapError f := by
  rcases hrun : (ExceptT.run a).run d with ⟨r₁, d₁⟩
  have : (ExceptT.run (ExceptT.adapt f a)).run d = (r₁.mapError f, d₁) := by
    change (Except.mapError f ((ExceptT.run a).run d).1, ((ExceptT.run a).run d).2) = _
    rw [hrun]
  rw [this] at h
  cases h
  exact ⟨r₁, rfl, rfl⟩

end DiskAction

namespace FileAction

variable {α : Type} {d d' : Disk}

theorem look_run (f : Disk → Except FileError α) (d : Disk) : (look f).run d = (f d, d) := by
  rw [look, run, DiskAction.get_bind_run]
  cases f d <;> rfl

theorem look_inv {f : Disk → Except FileError α} {r : Except FileError α}
    (h : (look f).run d = (r, d')) : f d = r ∧ d' = d := by
  rw [look_run] at h
  cases h
  exact ⟨rfl, rfl⟩

theorem change_inv {f : Disk → Except FileError Disk} {r : Except FileError Unit}
    (h : (change f).run d = (r, d')) :
    (r = .ok () ∧ f d = .ok d') ∨ ∃ e, r = .error e ∧ f d = .error e ∧ d' = d := by
  rw [change, run, DiskAction.get_bind_run] at h
  cases hf : f d with
  | ok d₁ =>
    rw [hf] at h
    cases h
    exact .inl ⟨rfl, rfl⟩
  | error e =>
    rw [hf] at h
    cases h
    exact .inr ⟨e, rfl, rfl, rfl⟩

end FileAction

namespace Disk

variable {d d' d'' : Disk} {p q : Place} {area area' : Place → Prop}

/-! ### Single nodes -/

theorem node?_put (d : Disk) (p : Place) (n : Node) {q : Place} (h : q ≠ []) :
    (d.put p n).node? q = if p = q then some n else d.node? q := by
  rw [node?, if_neg h, put]
  by_cases heq : p = q
  · subst heq
    simp
  · rw [if_neg heq, node?, if_neg h, List.find?_cons_of_neg (by simpa using heq),
      List.find?_filter]
    congr 2
    funext e
    by_cases he : e.1 = q
    · simp [he, Ne.symm heq]
    · simp [he]

theorem node?_prune (d : Disk) (p : Place) {q : Place} (h : q ≠ []) :
    (d.prune p).node? q = if p <+: q then none else d.node? q := by
  rw [node?, if_neg h, prune, List.find?_filter]
  by_cases below : p <+: q
  · rw [if_pos below, Option.map_eq_none_iff, List.find?_eq_none]
    rintro e - he
    obtain ⟨outside, rfl⟩ : p.isPrefixOf e.1 = false ∧ e.1 = q := by simpa using he
    rw [List.isPrefixOf_iff_prefix.2 below] at outside
    cases outside
  · rw [if_neg below, node?, if_neg h]
    congr 2
    funext e
    by_cases he : e.1 = q
    · have : p.isPrefixOf e.1 = false := by
        rw [Bool.eq_false_iff, ne_eq, List.isPrefixOf_iff_prefix, he]
        exact below
      simp [he, he ▸ this]
    · simp [he]

/-- What is not at or below the place is left as it is. -/
theorem node?_prune_outside (d : Disk) {p q : Place} (h : ¬ p <+: q) :
    (d.prune p).node? q = d.node? q := by
  by_cases root : q = []
  · subst root
    rfl
  · rw [node?_prune d p root, if_neg h]

/-! ### The frame condition -/

/-- Beyond an area everything stays, but directories may be new. -/
structure Changes (area : Place → Prop) (d d' : Disk) : Prop where
  workingDirectory : d'.workingDirectory = d.workingDirectory
  beyond : ∀ p, ¬ area p →
    d'.node? p = d.node? p ∨ d.node? p = none ∧ d'.node? p = some .directory

/-- The places at and below a place. -/
abbrev below (p : Place) : Place → Prop := fun q => p <+: q

/-- Beyond an area everything stays as it is, and nothing is new. -/
structure Spares (area : Place → Prop) (d d' : Disk) : Prop where
  workingDirectory : d'.workingDirectory = d.workingDirectory
  beyond : ∀ p, ¬ area p → d'.node? p = d.node? p

namespace Spares

theorem refl (area : Place → Prop) (d : Disk) : Spares area d d := ⟨rfl, fun _ _ => rfl⟩

theorem trans (h : Spares area d d') (h' : Spares area d' d'') : Spares area d d'' :=
  ⟨h'.workingDirectory.trans h.workingDirectory,
    fun p hp => (h'.beyond p hp).trans (h.beyond p hp)⟩

theorem put {n : Node} (h : area p) : Spares area d (d.put p n) := by
  refine ⟨rfl, fun q hq => ?_⟩
  by_cases root : q = []
  · subst root
    rfl
  · have other : p ≠ q := by
      rintro rfl
      exact hq h
    rw [node?_put d p n root, if_neg other]

theorem prune (h : ∀ q, p <+: q → area q) : Spares area d (d.prune p) :=
  ⟨rfl, fun q hq => node?_prune_outside d fun hpq => hq (h q hpq)⟩

end Spares

theorem Spares.changes (h : Spares area d d') : Changes area d d' :=
  ⟨h.workingDirectory, fun p hp => .inl (h.beyond p hp)⟩

namespace Changes

theorem refl (area : Place → Prop) (d : Disk) : Changes area d d := ⟨rfl, fun _ _ => .inl rfl⟩

theorem mono (h : Changes area d d') (larger : ∀ p, area p → area' p) : Changes area' d d' :=
  ⟨h.workingDirectory, fun p hp => h.beyond p fun ha => hp (larger p ha)⟩

theorem trans (h : Changes area d d') (h' : Changes area d' d'') : Changes area d d'' := by
  refine ⟨h'.workingDirectory.trans h.workingDirectory, fun p hp => ?_⟩
  rcases h.beyond p hp with same | ⟨missing, new⟩
  · rw [← same]
    exact h'.beyond p hp
  · rcases h'.beyond p hp with same' | ⟨missing', -⟩
    · exact .inr ⟨missing, same'.trans new⟩
    · rw [new] at missing'
      cases missing'

/-- What stood beyond the area still stands. -/
theorem keeps (h : Changes area d d') {n : Node} (hp : ¬ area p) (there : d.node? p = some n) :
    d'.node? p = some n := by
  rcases h.beyond p hp with same | ⟨missing, -⟩
  · rw [same, there]
  · rw [there] at missing
    cases missing

/-- Nothing is removed beyond the area. -/
theorem missing_before (h : Changes area d d') (hp : ¬ area p) (missing : d'.node? p = none) :
    d.node? p = none := by
  rcases h.beyond p hp with same | ⟨missing', -⟩
  · rw [← same, missing]
  · exact missing'

/-- No file is new beyond the area. -/
theorem file_before (h : Changes area d d') {bytes : List UInt8} (hp : ¬ area p)
    (there : d'.node? p = some (.file bytes)) : d.node? p = some (.file bytes) := by
  rcases h.beyond p hp with same | ⟨-, new⟩
  · rw [← same, there]
  · rw [there] at new
    cases new

theorem origin (h : Changes area d d') (path : Path) : d'.origin path = d.origin path := by
  rw [Disk.origin, Disk.origin, h.workingDirectory]

theorem put {n : Node} (h : area p) : Changes area d (d.put p n) := (Spares.put h).changes

theorem prune (h : ∀ q, p <+: q → area q) : Changes area d (d.prune p) := (Spares.prune h).changes

theorem directoryAt (h : d.directoryAt p = .ok d') : Changes area d d' := by
  unfold Disk.directoryAt at h
  cases hnode : d.node? p with
  | some n =>
    rw [hnode] at h
    cases h
  | none =>
    rw [hnode] at h
    cases h
    refine ⟨rfl, fun q hq => ?_⟩
    by_cases root : q = []
    · subst root
      exact .inl rfl
    · rw [node?_put d p _ root]
      by_cases heq : p = q
      · rw [if_pos heq, ← heq]
        exact .inr ⟨hnode, rfl⟩
      · rw [if_neg heq]
        exact .inl rfl

end Changes

/-! ### Reading along a path -/

theorem ok_bind {ε α β : Type} (a : α) (f : α → Except ε β) : (Except.ok a >>= f) = f a := rfl

theorem ok_bind_eq_ok {ε α β : Type} {x : Except ε α} {f : α → Except ε β} {b : β}
    (h : x >>= f = .ok b) : ∃ a, x = .ok a ∧ f a = .ok b := by
  cases x with
  | error e => cases h
  | ok a => exact ⟨a, rfl, h⟩

theorem status_of_locate {path : Path} (h : d.locate path = .ok p) :
    d.status path = match d.node? p with
      | some n => .ok n
      | none => .error .notFound := by
  rw [status, h]
  rfl

theorem content_eq_ok {path : Path} {bytes : List UInt8} :
    d.content path = .ok bytes ↔ ∃ p, d.locate path = .ok p ∧ d.node? p = some (.file bytes) := by
  constructor
  · intro read
    obtain ⟨n, found, hbytes⟩ := ok_bind_eq_ok read
    obtain ⟨p, hlocate, hnode⟩ := ok_bind_eq_ok found
    refine ⟨p, hlocate, ?_⟩
    cases n with
    | directory => cases hbytes
    | file content =>
      cases hbytes
      split at hnode
      · next n there =>
        cases hnode
        exact there
      · cases hnode
  · rintro ⟨p, hlocate, there⟩
    rw [content, status_of_locate hlocate, there, ok_bind]

/-- The directories that the walk along a path needs on its way. -/
def Crosses (d : Disk) (path : Path) (p : Place) : Prop :=
  ∃ k < path.names.length, p = spelled (d.origin path) (path.names.take k)

/-- What a walk crosses that succeeds are directories. -/
theorem directory_of_crosses {path : Path} {q : Place} (h : d.locate path = .ok q)
    (hp : d.Crosses path p) : d.node? p = some .directory := by
  obtain ⟨k, hk, rfl⟩ := hp
  exact directory_of_walk (locate_eq_ok h).2.2 hk

/-- The walk to a component crosses the directory that it is in. -/
theorem crosses_placeOf {name : String} (h : Component name) (path : Path) :
    d.Crosses (path.join name) (d.placeOf path) := by
  refine ⟨path.names.length, ?_, ?_⟩
  · rw [Path.names_join h, List.length_append, List.length_singleton]
    exact Nat.lt_succ_self _
  · rw [Path.names_join h, List.take_left', origin_join h, placeOf]
    rfl

/-- The walk to a component crosses what the walk to the directory does, and the directory. -/
theorem crosses_join {path : Path} {name : String} (h : Component name)
    (hp : d.Crosses (path.join name) p) : d.Crosses path p ∨ p = d.placeOf path := by
  obtain ⟨k, hk, rfl⟩ := hp
  rw [Path.names_join h, List.length_append, List.length_singleton] at hk
  have within : k ≤ path.names.length := by omega
  rw [origin_join h, Path.names_join h, List.take_append_of_le_length within]
  rcases Nat.lt_or_eq_of_le within with inner | rfl
  · exact .inl ⟨k, inner, rfl⟩
  · rw [List.take_length]
    exact .inr rfl

namespace Changes

/-- A place is reached again if no directory on the way is in the area. -/
theorem locate {path : Path} (h : Changes area d d') (avoids : ∀ p, d.Crosses path p → ¬ area p)
    (hq : d.locate path = .ok q) : d'.locate path = .ok q := by
  obtain ⟨noNul, nonempty, walked⟩ := locate_eq_ok hq
  refine locate_of_walk noNul nonempty ?_
  rw [h.origin]
  refine walk_congr walked fun k hk there => ?_
  exact h.keeps (avoids _ ⟨k, hk, rfl⟩) there

/-- A file is read again if neither it nor a directory on the way is in the area. -/
theorem content {path : Path} {bytes : List UInt8} (h : Changes area d d')
    (avoids : ∀ p, d.Crosses path p → ¬ area p) (file : ¬ area (d.placeOf path))
    (read : d.content path = .ok bytes) : d'.content path = .ok bytes := by
  obtain ⟨p, hp, there⟩ := content_eq_ok.1 read
  have place := eq_placeOf_of_locate hp
  refine content_eq_ok.2 ⟨p, h.locate avoids hp, h.keeps ?_ there⟩
  rw [place]
  exact file

end Changes

/-! ### Actions that stay in an area -/

/-- Whatever becomes of an action, it only changes an area. The area may depend on the working
directory that the action starts in. -/
def Stays {ε α : Type} (w : Place) (area : Place → Prop) (a : ExceptT ε (StateM Disk) α) : Prop :=
  ∀ d r d', d.workingDirectory = w → (ExceptT.run a).run d = (r, d') → Changes area d d'

namespace Stays

variable {ε ε' α β : Type} {w : Place}

theorem pure (a : α) : Stays w area (Pure.pure a : ExceptT ε (StateM Disk) α) := by
  intro d r d' _ h
  obtain ⟨-, rfl⟩ := DiskAction.pure_inv h
  exact .refl _ _

theorem throw (e : ε) : Stays w area (throw e : ExceptT ε (StateM Disk) α) := by
  intro d r d' _ h
  obtain ⟨-, rfl⟩ := DiskAction.throw_inv h
  exact .refl _ _

theorem bind {a : ExceptT ε (StateM Disk) α} {f : α → ExceptT ε (StateM Disk) β}
    (ha : Stays w area a) (hf : ∀ x, Stays w area (f x)) : Stays w area (a >>= f) := by
  intro d r d' hw h
  rcases DiskAction.bind_inv h with ⟨x, d₁, hrun, hrest⟩ | ⟨e, hrun, -⟩
  · have first := ha d _ d₁ hw hrun
    exact first.trans (hf x d₁ r d' (first.workingDirectory.trans hw) hrest)
  · exact ha d _ d' hw hrun

/-- The rest of an action may depend on the disk that it finds. -/
theorem get_bind {f : Disk → ExceptT ε (StateM Disk) β}
    (hf : ∀ d r d', d.workingDirectory = w → (ExceptT.run (f d)).run d = (r, d') →
      Changes area d d') : Stays w area (getThe Disk >>= f) := by
  intro d r d' hw h
  exact hf d r d' hw h

theorem adapt {a : ExceptT ε (StateM Disk) α} {f : ε → ε'} (ha : Stays w area a) :
    Stays w area (ExceptT.adapt f a) := by
  intro d r d' hw h
  obtain ⟨r₁, hrun, -⟩ := DiskAction.adapt_inv h
  exact ha d r₁ d' hw hrun

theorem discard {a : ExceptT ε (StateM Disk) α} (ha : Stays w area a) :
    Stays w area (discard a) :=
  bind ha fun _ => .pure ()

theorem look (f : Disk → Except FileError α) : Stays w area (FileAction.look f) := by
  intro d r d' _ h
  obtain ⟨-, rfl⟩ := FileAction.look_inv h
  exact .refl _ _

theorem change {f : Disk → Except FileError Disk}
    (hf : ∀ d d', d.workingDirectory = w → f d = .ok d' → Changes area d d') :
    Stays w area (FileAction.change f) := by
  intro d r d' hw h
  rcases FileAction.change_inv h with ⟨-, made⟩ | ⟨e, -, -, rfl⟩
  · exact hf d d' hw made
  · exact .refl _ _

theorem forM {xs : List α} {f : α → ExceptT ε (StateM Disk) PUnit}
    (hf : ∀ x ∈ xs, Stays w area (f x)) : Stays w area (xs.forM f) := by
  induction xs with
  | nil => exact .pure _
  | cons x xs ih =>
    exact bind (hf x List.mem_cons_self) fun _ => ih fun y hy => hf y (List.mem_cons_of_mem _ hy)

end Stays

/-! ### Making directories -/

section

variable {w : Place}

theorem stays_makeDirectory (path : Path) : Stays w area (makeDirectory path) := by
  refine .change fun d d' _ h => ?_
  obtain ⟨p, -, made⟩ := ok_bind_eq_ok h
  exact .directoryAt made

theorem stays_makeDirectoryFrom (start : Place) (names : List String) :
    Stays w area (makeDirectoryFrom start names) := by
  refine .change fun d d' _ h => ?_
  obtain ⟨p, -, made⟩ := ok_bind_eq_ok h
  exact .directoryAt made

theorem stays_unlessDirectory (start : Place) (names : List String) (e : FileError) :
    Stays w area (unlessDirectory start names e) := by
  refine .get_bind fun d r d' hw h => ?_
  split at h
  · exact Stays.pure () d r d' hw h
  · exact Stays.throw e d r d' hw h

theorem stays_makeChain (start : Place) (reversed : List String) :
    Stays w area (makeChain start reversed) := by
  induction reversed with
  | nil => exact .pure ()
  | cons name up ih =>
    refine .bind (.look _) fun first => ?_
    cases first with
    | ok u => exact stays_makeDirectoryFrom _ _
    | error e =>
      cases e with
      | notFound =>
        refine .bind ih fun _ => .bind (.look _) fun second => ?_
        cases second with
        | ok u => exact stays_makeDirectoryFrom _ _
        | error e => exact stays_unlessDirectory _ _ _
      | _ => exact stays_unlessDirectory _ _ _

theorem stays_makeAbove (start : Place) (names : List String) :
    Stays w area (makeAbove start names) := by
  refine .get_bind fun d r d' hw h => ?_
  cases found : d.directoryFrom start names with
  | ok u =>
    rw [found] at h
    exact Stays.pure u d r d' hw h
  | error e =>
    rw [found] at h
    cases e with
    | notFound => exact Stays.bind (stays_makeChain _ _) (fun _ => .look _) d r d' hw h
    | _ => exact Stays.throw _ d r d' hw h

/-- Making directories changes nothing that is there. -/
theorem stays_makeDirectories (path : Path) : Stays w area (makeDirectories path) := by
  refine .get_bind fun d r d' hw h => ?_
  split at h
  · exact Stays.throw _ d r d' hw h
  · split at h
    · exact stays_makeAbove _ _ d r d' hw h
    · exact stays_makeChain _ _ d r d' hw h

/-! ### Writing and removing -/

/-- The place of a path for an action that starts in a working directory. -/
def placeFrom (w : Place) (path : Path) : Place :=
  spelled (if path.isAbsolute then [] else w) path.names

theorem placeOf_eq_placeFrom {path : Path} (h : d.workingDirectory = w) :
    d.placeOf path = placeFrom w path := by
  rw [placeOf, placeFrom, origin, h]

/-- The way of a path depends on the disk by its working directory only. -/
theorem crosses_of_workingDirectory {path : Path} {p : Place} (h : d.workingDirectory = w)
    (hp : d.Crosses path p) : (Disk.mk [] w).Crosses path p := by
  obtain ⟨k, hk, rfl⟩ := hp
  refine ⟨k, hk, ?_⟩
  rw [origin, origin, h]

theorem stays_writeFile {path : Path} {bytes : List UInt8} (h : area (placeFrom w path)) :
    Stays w area (writeFile path bytes) := by
  refine .change fun d d' hw made => ?_
  obtain ⟨p, hlocate, made⟩ := ok_bind_eq_ok made
  have place : p = placeFrom w path :=
    (eq_placeOf_of_locate hlocate).trans (placeOf_eq_placeFrom hw)
  split at made
  · cases made
  · cases made
    exact .put (place ▸ h)

theorem stays_moveFile {source target : Path} (hs : ∀ p, placeFrom w source <+: p → area p)
    (ht : area (placeFrom w target)) : Stays w area (moveFile source target) := by
  refine .change fun d d' hw made => ?_
  obtain ⟨s, hsource, made⟩ := ok_bind_eq_ok made
  obtain ⟨bytes, -, made⟩ := ok_bind_eq_ok made
  obtain ⟨t, htarget, made⟩ := ok_bind_eq_ok made
  have source : s = placeFrom w source :=
    (eq_placeOf_of_locate hsource).trans (placeOf_eq_placeFrom hw)
  have target : t = placeFrom w target :=
    (eq_placeOf_of_locate htarget).trans (placeOf_eq_placeFrom hw)
  split at made
  · cases made
  · cases made
    have removed : Changes area d (d.prune s) := .prune (source ▸ hs)
    exact removed.trans (.put (target ▸ ht))

/-- A file that was written stands at its place. -/
theorem writeFile_ok {path : Path} {bytes : List UInt8}
    (h : (writeFile path bytes).run d = (.ok (), d')) :
    ∃ p, d.locate path = .ok p ∧ d' = d.put p (.file bytes) := by
  rcases FileAction.change_inv h with ⟨-, made⟩ | ⟨e, herror, -⟩
  · obtain ⟨p, hlocate, made⟩ := ok_bind_eq_ok made
    split at made
    · cases made
    · cases made
      exact ⟨p, hlocate, rfl⟩
  · cases herror

/-- A file that was moved stands at its new place. -/
theorem moveFile_ok {source target : Path} (h : (moveFile source target).run d = (.ok (), d')) :
    ∃ s t bytes, d.locate source = .ok s ∧ d.content source = .ok bytes ∧
      d.locate target = .ok t ∧ d' = (d.prune s).put t (.file bytes) := by
  rcases FileAction.change_inv h with ⟨-, made⟩ | ⟨e, herror, -⟩
  · obtain ⟨s, hsource, made⟩ := ok_bind_eq_ok made
    obtain ⟨bytes, hcontent, made⟩ := ok_bind_eq_ok made
    obtain ⟨t, htarget, made⟩ := ok_bind_eq_ok made
    split at made
    · cases made
    · cases made
      exact ⟨s, t, bytes, hsource, hcontent, htarget, rfl⟩
  · cases herror

/-- What was written in one place and moved to another stands there. -/
theorem written_then_moved {source target : Path} {bytes : List UInt8}
    (written : (writeFile source bytes).run d = (.ok (), d'))
    (moved : (moveFile source target).run d' = (.ok (), d''))
    (hs : d.placeOf source ≠ []) (ht : d'.placeOf target ≠ []) :
    d'.locate target = .ok (d'.placeOf target) ∧
      d''.node? (d'.placeOf target) = some (.file bytes) := by
  obtain ⟨p, hp, rfl⟩ := writeFile_ok written
  obtain ⟨s, t, content, -, hcontent, htarget, rfl⟩ := moveFile_ok moved
  obtain ⟨p', hp', there⟩ := content_eq_ok.1 hcontent
  have same : p' = p := by
    rw [eq_placeOf_of_locate hp', eq_placeOf_of_locate hp]
    rfl
  have notRoot : p ≠ [] := eq_placeOf_of_locate hp ▸ hs
  rw [same, node?_put_self notRoot] at there
  cases there
  rw [← eq_placeOf_of_locate htarget] at ht ⊢
  exact ⟨htarget, node?_put_self ht⟩

theorem removeTreeIfPresent_eq (path : Path) (d : Disk) :
    (removeTreeIfPresent path).run d = match d.withoutTree path with
      | .ok d₁ => (.ok true, d₁)
      | .error .notFound => (.ok false, d)
      | .error e => (.error e, d) := by
  rw [removeTreeIfPresent, FileAction.run, DiskAction.get_bind_run]
  rcases d.withoutTree path with e | d₁
  · cases e <;> rfl
  · rfl

/-- A directory is removed with all it holds, or nothing is. -/
theorem removeTreeIfPresent_inv {path : Path} {r : Except FileError Bool}
    (h : (removeTreeIfPresent path).run d = (r, d')) : d' = d ∨ d' = d.prune (d.placeOf path) := by
  rw [removeTreeIfPresent_eq] at h
  split at h
  · next d₁ removed =>
    cases h
    obtain ⟨p, hlocate, made⟩ := ok_bind_eq_ok removed
    split at made
    · cases made
      exact .inr (by rw [eq_placeOf_of_locate hlocate])
    · cases made
    · cases made
  · cases h
    exact .inl rfl
  · cases h
    exact .inl rfl

theorem stays_removeTreeIfPresent {path : Path} (h : ∀ p, placeFrom w path <+: p → area p) :
    Stays w area (removeTreeIfPresent path) := by
  intro d r d' hw hrun
  rcases removeTreeIfPresent_inv hrun with rfl | rfl
  · exact .refl _ _
  · rw [placeOf_eq_placeFrom hw]
    exact .prune h

end

end Disk

end DatasetCatalog
