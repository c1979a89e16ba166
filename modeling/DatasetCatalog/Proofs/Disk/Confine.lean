import DatasetCatalog.Proofs.Disk.Tree

/-!
# Actions that are confined to an area

`Stays` says that what stands beyond an area is not lost, but it lets an action make directories
anywhere. For a store that is not to be led out of its own directory this is too weak. Here is the
exact frame: whatever becomes of an action, beyond the area nothing is created, changed or removed
(`Confined`). What has happened to the disk is `Touches`, which also says that a directory which listed
no name twice does not begin to.

It cannot hold of every disk, because an operation makes the directories above its path that are
missing. So it is said of the disks on which an invariant holds, which for a store is that its own
directory is there. The invariant has to withstand what the action does in its area (`Withstands`),
and then confined actions can be done one after the other.

All that `makeDirectories` ever does, whether it succeeds or not, is to put directories at the first
stops of its path where nothing stood (`makeDirectories_adds`).
-/

namespace DatasetCatalog.Disk

variable {inv : Disk → Prop} {area area' : Place → Prop} {d d' : Disk} {start p q : Place}
  {path : Path} {names : List String}

theorem Spares.mono (h : Spares area d d') (larger : ∀ p, area p → area' p) : Spares area' d d' :=
  ⟨h.workingDirectory, fun p hp => h.beyond p fun ha => hp (larger p ha)⟩

/-- Putting directories changes nothing at the places where something stands. -/
theorem Spares.ensureAll_missing {ps : List Place}
    (h : ∀ p ∈ ps, d.node? p = some .directory ∨ area p) : Spares area d (d.ensureAll ps) := by
  refine ⟨ensureAll_workingDirectory d ps, fun q hq => ?_⟩
  rw [node?_ensureAll]
  by_cases stop : q ∈ ps
  · rcases h q stop with there | inside
    · rw [there]
      rfl
    · exact absurd inside hq
  · rw [if_neg stop, Option.or_none]

theorem nodup_entriesAt_ensureAll (h : (d.entriesAt p).Nodup) (ps : List Place) :
    ((d.ensureAll ps).entriesAt p).Nodup := by
  induction ps generalizing d with
  | nil => exact h
  | cons q ps ih =>
    refine ih ?_
    rw [ensure]
    split
    · exact h
    · exact nodup_entriesAt_put h _ _

/-- Only an area is touched, and the listings that had no name twice still have none. -/
structure Touches (area : Place → Prop) (d d' : Disk) : Prop extends Spares area d d' where
  once : ∀ p, (d.entriesAt p).Nodup → (d'.entriesAt p).Nodup

namespace Touches

theorem refl (area : Place → Prop) (d : Disk) : Touches area d d := ⟨.refl _ _, fun _ h => h⟩

theorem trans {d'' : Disk} (h : Touches area d d') (h' : Touches area d' d'') :
    Touches area d d'' :=
  ⟨h.toSpares.trans h'.toSpares, fun p hp => h'.once p (h.once p hp)⟩

theorem mono (h : Touches area d d') (larger : ∀ p, area p → area' p) : Touches area' d d' :=
  ⟨h.toSpares.mono larger, h.once⟩

theorem put {n : Node} (h : area p) : Touches area d (d.put p n) :=
  ⟨.put h, fun _ once => nodup_entriesAt_put once p n⟩

theorem prune (h : ∀ q, p <+: q → area q) : Touches area d (d.prune p) :=
  ⟨.prune h, fun _ once => nodup_entriesAt_prune once p⟩

theorem ensureAll_missing {ps : List Place}
    (h : ∀ p ∈ ps, d.node? p = some .directory ∨ area p) : Touches area d (d.ensureAll ps) :=
  ⟨.ensureAll_missing h, fun _ once => nodup_entriesAt_ensureAll once ps⟩

/-- Removing a file touches nothing else, because nothing is below it. -/
theorem prune_file {bytes : List UInt8} (grown : d.Grown p) (hpq : p <+: q)
    (there : d.node? q = some (.file bytes)) (h : area q) : Touches area d (d.prune q) := by
  refine ⟨⟨rfl, fun r hr => ?_⟩, fun _ once => nodup_entriesAt_prune once q⟩
  by_cases below : q <+: r
  · obtain ⟨more, rfl⟩ := below
    have inner : more ≠ [] := by
      rintro rfl
      rw [List.append_nil] at hr
      exact hr h
    rw [grown.none_below_file hpq there inner, node?_prune _ _ (by simp [inner]),
      if_pos (List.prefix_append _ _)]
  · exact node?_prune_outside d below

/-- Of a file that is published nothing is left but the file. -/
theorem published {name : String} {bytes : List UInt8} (other : name ≠ draftName)
    (noDraft : ∀ q, p ++ [draftName] <+: q → d.node? q = none) (h : area (p ++ [name])) :
    Touches area d (d.published p name bytes) := by
  refine ⟨⟨published_workingDirectory .., fun q hq => ?_⟩, fun _ once =>
    nodup_entriesAt_published once p name bytes⟩
  rw [node?_published other noDraft, if_neg]
  rintro ⟨rfl, -⟩
  exact hq h

end Touches

/-! ### Directories that are out of an area -/

/-- What stands in a directory. -/
def inside (p : Place) : Place → Prop := fun q => ∃ name, p ++ [name] <+: q

/-- A directory, what stands in it and the way to it are out of an area. -/
def Aloof (w : Place) (path : Path) (area : Place → Prop) : Prop :=
  ∀ q, (Disk.mk [] w).Crosses path q ∨ placeFrom w path <+: q → ¬ area q

variable {w : Place}

theorem Aloof.mono (h : Aloof w path area) (smaller : ∀ q, area' q → area q) :
    Aloof w path area' := fun q hq inArea => h q hq (smaller q inArea)

/-- What happens elsewhere closes no directory. -/
theorem Opens.of_aloof (h : d.Opens path (placeFrom w path)) (hw : d.workingDirectory = w)
    (spares : Spares area d d') (aloof : Aloof w path area) : d'.Opens path (placeFrom w path) := by
  refine h.of_spares spares fun q hq => aloof q ?_
  rcases hq with crossed | rfl
  · exact .inl (crosses_of_workingDirectory hw crossed)
  · exact .inr (List.prefix_refl _)

/-- What happens elsewhere leaves a directory grown. -/
theorem Grown.of_aloof (h : d.Grown (placeFrom w path)) (spares : Spares area d d')
    (aloof : Aloof w path area) : d'.Grown (placeFrom w path) := by
  intro q name hq there
  rw [spares.beyond _ (aloof _ (.inr (hq.trans (List.prefix_append _ _))))] at there
  rw [spares.beyond _ (aloof _ (.inr hq))]
  exact h q name hq there

/-- The place of an empty directory is the one that its path spells. -/
theorem Vacant.place (h : d.Vacant path p) : p = placeFrom d.workingDirectory path :=
  (eq_spelled_of_walk h.walked).trans (placeOf_eq_placeFrom rfl)

/-- Two empty directories, neither of which is in the other, are out of each other's way. -/
theorem aloof_of_vacant {other : Path} (h : d.Vacant path p) (h' : d.Vacant other q)
    (apart : ¬ p <+: q) (apart' : ¬ q <+: p) : Aloof d.workingDirectory other (inside p) := by
  rintro r hr ⟨name, hname⟩
  have below : p <+: r := (List.prefix_append _ _).trans hname
  rcases hr with crossed | within
  · -- a path is walked through directories, and in an empty directory there is none
    have there : d.node? r = some .directory := h'.crossed crossed
    rw [h.nothing r below] at there
    · cases there
    · rintro rfl
      have longer := hname.length_le
      rw [List.length_append, List.length_singleton] at longer
      omega
  · rw [← h'.place] at within
    rcases List.prefix_or_prefix_of_prefix below within with hpq | hqp
    · exact apart hpq
    · exact apart' hqp

theorem stopsOf_join {name : String} (h : Component name) (d : Disk) (path : Path) :
    d.stopsOf (path.join name) = d.stopsOf path ++ [d.placeOf path ++ [name]] := by
  rw [stopsOf, origin_join h, Path.names_join h, stops_snoc, spelled_snoc _ _ h.notUp]
  rfl

/-! ### What making directories adds -/

/-- An attempt at one directory puts it where nothing stood, or changes nothing. -/
theorem makeDirectoryFrom_adds {name : String} {r : Except FileError Unit}
    (h : (makeDirectoryFrom start (names ++ [name])).run d = (r, d')) :
    d' = d ∨ d' = d.ensureAll (stops start (names ++ [name])) := by
  rcases FileAction.change_inv h with ⟨-, made⟩ | ⟨e, -, -, rfl⟩
  · obtain ⟨s, walked, made⟩ := ok_bind_eq_ok made
    rw [directoryAt] at made
    cases hs : d.node? s with
    | some n =>
      rw [hs] at made
      cases made
    | none =>
      rw [hs] at made
      cases made
      have above : d.ensureAll (stops start names) = d :=
        ensureAll_of_directories (directories_of_walk walked)
      rw [stops_snoc, ensureAll_append, above, ← eq_spelled_of_walk walked, ensureAll_cons,
        ensure_of_none hs]
      exact .inr rfl
  · exact .inl rfl

theorem unlessDirectory_inv {e : FileError} {r : Except FileError Unit}
    (h : (unlessDirectory start names e).run d = (r, d')) : d' = d := by
  rw [unlessDirectory_run] at h
  cases h
  rfl

/-- Whatever becomes of a chain of directories, it is made from the top down, as far as it is. -/
theorem makeChain_adds {r : Except FileError Unit}
    (h : (makeChain start names.reverse).run d = (r, d')) :
    ∃ k, d' = d.ensureAll (stops start (names.take k)) := by
  induction names using List.reverseRecOn generalizing d d' r with
  | nil =>
    obtain ⟨-, rfl⟩ := DiskAction.pure_inv h
    exact ⟨0, rfl⟩
  | append_singleton names name ih =>
    rw [List.reverse_append, List.reverse_singleton, List.singleton_append, makeChain_cons,
      List.reverse_cons, List.reverse_reverse] at h
    have nothing : ∃ k, d = d.ensureAll (stops start ((names ++ [name]).take k)) := ⟨0, rfl⟩
    have all : d.ensureAll (stops start (names ++ [name])) =
        d.ensureAll (stops start ((names ++ [name]).take (names ++ [name]).length)) := by
      rw [List.take_length]
    cases hfirst : ((makeDirectoryFrom start (names ++ [name])).run d).1 with
    | ok u =>
      rw [hfirst] at h
      rcases makeDirectoryFrom_adds h with rfl | rfl
      · exact nothing
      · exact ⟨_, all⟩
    | error e =>
      rw [hfirst] at h
      by_cases lost : e = .notFound
      · subst lost
        rcases DiskAction.bind_inv h with ⟨u, d₁, hup, hrest⟩ | ⟨e, hup, -⟩
        · -- the whole chain above is made first, and then the last stop is tried again
          obtain rfl : d.ensureAll (stops start names) = d₁ :=
            congrArg Prod.snd ((makeChain_run (passable_of_makeChain hup)).symm.trans hup)
          replace hrest := (DiskAction.bind_of_ok (FileAction.look_run _ _) _).symm.trans hrest
          have chain : d.ensureAll (stops start names) =
              d.ensureAll (stops start ((names ++ [name]).take names.length)) := by
            rw [List.take_left]
          have again : (d.ensureAll (stops start names)).ensureAll (stops start (names ++ [name])) =
              d.ensureAll (stops start (names ++ [name])) := by
            have made : ∀ p ∈ stops start names,
                (d.ensureAll (stops start names)).node? p = some .directory := fun p hp =>
              directory_ensureAll ((passable_of_makeChain hup).clear p hp) hp
            rw [stops_snoc, ensureAll_append, ensureAll_of_directories made, ensureAll_append]
          cases hsecond : ((makeDirectoryFrom start (names ++ [name])).run
              (d.ensureAll (stops start names))).1 with
          | ok u =>
            rw [hsecond] at hrest
            rcases makeDirectoryFrom_adds hrest with rfl | rfl
            · exact ⟨_, chain⟩
            · exact ⟨_, again.trans all⟩
          | error e =>
            rw [hsecond] at hrest
            obtain rfl := unlessDirectory_inv hrest
            exact ⟨_, chain⟩
        · obtain ⟨k, rfl⟩ := ih hup
          refine ⟨min k names.length, ?_⟩
          rw [List.take_append_of_le_length (Nat.min_le_right _ _), ← List.take_eq_take_min]
      · have looked : (unlessDirectory start (names ++ [name]) e).run d = (r, d') := by
          cases e with
          | notFound => exact absurd rfl lost
          | _ => exact h
        obtain rfl := unlessDirectory_inv looked
        exact nothing

theorem makeAbove_adds {r : Except FileError Unit} (h : (makeAbove start names).run d = (r, d')) :
    ∃ k, d' = d.ensureAll (stops start (names.take k)) := by
  have above {r : Except FileError Unit}
      (h : (makeChain start names.dropLast.reverse).run d = (r, d')) :
      ∃ k, d' = d.ensureAll (stops start (names.take k)) := by
    obtain ⟨k, rfl⟩ := makeChain_adds h
    exact ⟨min k (names.length - 1), by rw [List.dropLast_eq_take, List.take_take]⟩
  rw [makeAbove_run_eq] at h
  split at h
  · rcases DiskAction.bind_inv h with ⟨u, d₁, hup, hrest⟩ | ⟨e, hup, -⟩
    · obtain ⟨-, rfl⟩ := FileAction.look_inv hrest
      exact above hup
    · exact above hup
  · cases h
    exact ⟨0, rfl⟩

/-- Whatever becomes of making directories, all that is new are directories at the first stops of the
path. -/
theorem makeDirectories_adds {r : Except FileError Unit}
    (h : (makeDirectories path).run d = (r, d')) :
    ∃ k, d' = d.ensureAll (stops (d.origin path) (path.names.take k)) := by
  rw [makeDirectories_run_eq] at h
  split at h
  · cases h
    exact ⟨0, rfl⟩
  · split at h
    · exact makeAbove_adds h
    · exact makeChain_adds h

/-- The stops of the first names come first. -/
theorem mem_stops_of_take {k : Nat} (h : p ∈ stops start (names.take k)) : p ∈ stops start names := by
  rw [← List.take_append_drop k names, stops_append]
  exact List.mem_append_left _ h

/-! ### Confined actions -/

/-- Whatever becomes of an action that starts where an invariant holds, nothing is created, changed
or removed beyond an area. -/
def Confined (inv : Disk → Prop) (area : Place → Prop) {ε α : Type}
    (a : ExceptT ε (StateM Disk) α) : Prop :=
  ∀ d r d', inv d → (ExceptT.run a).run d = (r, d') → Touches area d d'

/-- An invariant holds whatever happens in an area. -/
def Withstands (inv : Disk → Prop) (area : Place → Prop) : Prop :=
  ∀ {d d'}, inv d → Spares area d d' → inv d'

namespace Confined

variable {ε ε' α β : Type}

theorem pure (a : α) : Confined inv area (Pure.pure a : ExceptT ε (StateM Disk) α) := by
  intro d r d' _ h
  obtain ⟨-, rfl⟩ := DiskAction.pure_inv h
  exact .refl _ _

theorem bind (withstands : Withstands inv area) {a : ExceptT ε (StateM Disk) α}
    {f : α → ExceptT ε (StateM Disk) β} (ha : Confined inv area a)
    (hf : ∀ x, Confined inv area (f x)) : Confined inv area (a >>= f) := by
  intro d r d' hd h
  rcases DiskAction.bind_inv h with ⟨x, d₁, hrun, hrest⟩ | ⟨e, hrun, -⟩
  · have first := ha d _ d₁ hd hrun
    exact first.trans (hf x d₁ r d' (withstands hd first.toSpares) hrest)
  · exact ha d _ d' hd hrun

/-- The first action only reads, and the rest goes on with something that is known of it. -/
theorem bind_read {P : α → Prop} {a : ExceptT ε (StateM Disk) α}
    {f : α → ExceptT ε (StateM Disk) β}
    (ha : ∀ d r d', inv d → (ExceptT.run a).run d = (r, d') → d' = d ∧ ∀ x, r = .ok x → P x)
    (hf : ∀ x, P x → Confined inv area (f x)) : Confined inv area (a >>= f) := by
  intro d r d' hd h
  rcases DiskAction.bind_inv h with ⟨x, d₁, hrun, hrest⟩ | ⟨e, hrun, -⟩
  · obtain ⟨rfl, known⟩ := ha d _ d₁ hd hrun
    exact hf x (known x rfl) d₁ r d' hd hrest
  · obtain ⟨rfl, -⟩ := ha d _ d' hd hrun
    exact .refl _ _

/-- What is confined from more disks is so from fewer. -/
theorem mono {inv' : Disk → Prop} {a : ExceptT ε (StateM Disk) α} (ha : Confined inv' area a)
    (fewer : ∀ d, inv d → inv' d) : Confined inv area a :=
  fun d r d' hd h => ha d r d' (fewer d hd) h

theorem adapt {a : ExceptT ε (StateM Disk) α} {f : ε → ε'} (ha : Confined inv area a) :
    Confined inv area (ExceptT.adapt f a) := by
  intro d r d' hd h
  obtain ⟨r₁, hrun, -⟩ := DiskAction.adapt_inv h
  exact ha d r₁ d' hd hrun

theorem discard (withstands : Withstands inv area) {a : ExceptT ε (StateM Disk) α}
    (ha : Confined inv area a) : Confined inv area (discard a) :=
  bind withstands ha fun _ => .pure ()

theorem change {f : Disk → Except FileError Disk}
    (hf : ∀ d d', inv d → f d = .ok d' → Touches area d d') :
    Confined inv area (FileAction.change f) := by
  intro d r d' hd h
  rcases FileAction.change_inv h with ⟨-, made⟩ | ⟨e, -, -, rfl⟩
  · exact hf d d' hd made
  · exact .refl _ _

theorem forM (withstands : Withstands inv area) {xs : List α}
    {f : α → ExceptT ε (StateM Disk) PUnit} (hf : ∀ x ∈ xs, Confined inv area (f x)) :
    Confined inv area (xs.forM f) := by
  induction xs with
  | nil => exact .pure _
  | cons x xs ih =>
    refine bind withstands (hf x List.mem_cons_self) fun _ => ih fun y hy => ?_
    exact hf y (List.mem_cons_of_mem _ hy)

end Confined

/-! ### Operations on single places -/

/-- Directories are made in the area if those on the way to it are there. -/
theorem confined_makeDirectories
    (h : ∀ d, inv d → ∀ p ∈ d.stopsOf path, d.node? p = some .directory ∨ area p) :
    Confined inv area (makeDirectories path) := by
  intro d r d' hd hrun
  obtain ⟨k, rfl⟩ := makeDirectories_adds hrun
  exact .ensureAll_missing fun p hp => h d hd p (mem_stops_of_take hp)

theorem confined_makeDirectory (h : ∀ d, inv d → area (d.placeOf path)) :
    Confined inv area (makeDirectory path) := by
  refine .change fun d d' hd made => ?_
  obtain ⟨p, located, made⟩ := ok_bind_eq_ok made
  rw [directoryAt] at made
  split at made
  · cases made
  · cases made
    exact .put (eq_placeOf_of_locate located ▸ h d hd)

theorem confined_writeFile {bytes : List UInt8} (h : ∀ d, inv d → area (d.placeOf path)) :
    Confined inv area (writeFile path bytes) := by
  refine .change fun d d' hd made => ?_
  obtain ⟨p, located, made⟩ := ok_bind_eq_ok made
  split at made
  · cases made
  · cases made
    exact .put (eq_placeOf_of_locate located ▸ h d hd)

theorem confined_moveFile {source target : Path}
    (hs : ∀ d, inv d → ∀ p, d.placeOf source <+: p → area p)
    (ht : ∀ d, inv d → area (d.placeOf target)) : Confined inv area (moveFile source target) := by
  refine .change fun d d' hd made => ?_
  obtain ⟨s, fromHere, made⟩ := ok_bind_eq_ok made
  obtain ⟨bytes, -, made⟩ := ok_bind_eq_ok made
  obtain ⟨t, toThere, made⟩ := ok_bind_eq_ok made
  split at made
  · cases made
  · cases made
    have removed : Touches area d (d.prune s) := .prune (eq_placeOf_of_locate fromHere ▸ hs d hd)
    exact removed.trans (.put (eq_placeOf_of_locate toThere ▸ ht d hd))

theorem confined_removeTreeIfPresent (h : ∀ d, inv d → ∀ p, d.placeOf path <+: p → area p) :
    Confined inv area (removeTreeIfPresent path) := by
  intro d r d' hd hrun
  rcases removeTreeIfPresent_inv hrun with rfl | rfl
  · exact .refl _ _
  · exact .prune (h d hd)

end DatasetCatalog.Disk
