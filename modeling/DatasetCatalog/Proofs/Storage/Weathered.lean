import DatasetCatalog.Proofs.Storage.Upkeep

/-!
# Storage that was created once

Time passes between a create and what is asked of the storage afterwards. Data is put into the
directories of the parts, and some of these get lost (`Weathered`). What a truncation and an upgrade do
then is known to the last place on the disk: `upkeep_is_exact`.

That a create succeeded is all that is known of the disk it was made on, but this tells a lot
(`created_inv`). It made the data directory first, and then it found nothing in the place of the
instance. So the path of the data directory does not lead through that place: a way that leads there
and away again goes through the directory of the instance, which was not there.
-/

namespace DatasetCatalog

namespace Disk

variable {d : Disk} {path : Path} {p q start : Place} {names : List String}

/-- A way that leads away from below a place leads through it. -/
theorem spelled_exit (below : p <+: start) (away : ¬ p <+: spelled start names) :
    ∃ k < names.length, spelled start (names.take k) = p := by
  induction names generalizing start with
  | nil => exact absurd below away
  | cons name rest ih =>
    by_cases still : p <+: if name = ".." then start.dropLast else start ++ [name]
    · obtain ⟨k, hk, same⟩ := ih still away
      exact ⟨k + 1, Nat.succ_lt_succ hk, same⟩
    · -- a step down stays below the place, and a step up leaves it only from the place itself
      have up : name = ".." := by
        by_contra down
        rw [if_neg down] at still
        exact still (below.trans (List.prefix_append _ _))
      rw [if_pos up] at still
      obtain ⟨more, rfl⟩ := below
      rcases List.eq_nil_or_concat more with rfl | ⟨front, last, rfl⟩
      · exact ⟨0, Nat.succ_pos _, by simp [spelled]⟩
      · refine absurd ?_ still
        rw [List.concat_eq_append, ← List.append_assoc, List.dropLast_concat]
        exact List.prefix_append _ _

theorem Crosses.exit (crossed : d.Crosses path q) (below : p <+: q) (away : ¬ p <+: d.placeOf path) :
    d.Crosses path p := by
  obtain ⟨k, hk, rfl⟩ := crossed
  have split : d.placeOf path =
      spelled (spelled (d.origin path) (path.names.take k)) (path.names.drop k) := by
    rw [← spelled_append, List.take_append_drop]
    rfl
  obtain ⟨j, hj, same⟩ := spelled_exit below (split ▸ away)
  rw [List.length_drop] at hj
  refine ⟨k + j, by omega, ?_⟩
  rw [List.take_add, spelled_append, same]

end Disk

namespace Storage.Local

open Disk

variable {l : Local} {w : Place} {d d₀ d₁ d' : Disk} {name : String} {spec : Specification}
  {c : Creation}

/-! ### What a create tells -/

/-- A path that leads to a directory passes by where nothing stands in it. -/
theorem passesBy_of_missing (opens : d.Opens l.root (placeFrom w l.root))
    (hw : d.workingDirectory = w) (missing : d.node? (l.home w name) = none) : l.PassesBy w name := by
  intro q crossed below
  have same : (Disk.mk [] w).origin l.root = d.origin l.root := by rw [origin, origin, hw]
  have away : ¬ l.home w name <+: (Disk.mk [] w).placeOf l.root := not_home_prefix_root
  obtain ⟨k, hk, here⟩ := crossed.exit below away
  rw [opens.crossed ⟨k, hk, same ▸ here⟩] at missing
  cases missing

/-- A create that succeeds leaves the storage laid out, in a data directory whose path passes it by. -/
theorem created_inv (builtin : l.definitions = Definition.builtin) (hw : d.workingDirectory = w)
    (grown : d.Grown (l.home w c.name)) (short : Utf8.size c.name ≤ 252)
    (created : l.run (.create c) d = (.ok spec, d')) :
    Storable c.name ∧ Definition.Makes c.typeMeta.name c.name c.properties spec ∧
      l.PassesBy w c.name ∧ d'.workingDirectory = w ∧ d'.Opens l.root (placeFrom w l.root) ∧
      l.Shows w d' c.name (some spec) := by
  obtain ⟨⟨e, failed⟩, -⟩ | ⟨_, answered, makes, -, settled, -⟩ := create_inv builtin hw created
  · cases failed
  cases answered
  have storable : Storable c.name := ⟨settled.safe, short⟩
  obtain ⟨code, found, made⟩ := Definition.makes_iff.2 makes
  have accepts := accepts_of_builtin builtin found made storable
  -- with the steps that cannot fail left out
  have steps := (accepts.run_eq d).symm.trans created
  obtain ⟨⟨⟩, d₁, root, rest⟩ | ⟨e, -, failed⟩ := DiskAction.bind_inv steps
  case inr => cases failed
  have adds : Changes (fun _ => False) d d₁ :=
    Stays.adapt (stays_makeDirectories l.root) _ _ _ hw root
  have hw₁ := adds.workingDirectory.trans hw
  obtain ⟨_, _, claim, -⟩ | ⟨e, -, failed⟩ := DiskAction.bind_inv rest
  case inr => cases failed
  obtain ⟨⟨_, located⟩, missing⟩ := claimDirectory_inv hw₁ accepts.fits.toComponent claim
  have opens := Opens.of_locate_join located accepts.fits.toComponent
  rw [placeOf_eq_placeFrom hw₁] at opens
  have passes := passesBy_of_missing opens hw₁ missing
  -- nothing stood below the place either, and making the data directory put nothing there
  have free (q : Place) : d₁.node? (l.home w c.name ++ q) = none := by
    have missing₀ := adds.missing_before not_false missing
    obtain ⟨r, run, answered⟩ := DiskAction.adapt_inv root
    obtain rfl : r = .ok () := by
      cases r with
      | ok u => rfl
      | error e => cases answered
    have makeable := makeDirectories_ok_iff.1 (congrArg Prod.fst run)
    cases makeable.run.symm.trans run
    rw [passes.node?_ensureAll hw (List.prefix_append _ _)]
    exact grown.none_below (List.prefix_refl _) missing₀ q
  cases (layOut_run opens accepts.fits accepts.partsFit free).symm.trans rest
  have spares : Spares (below (l.home w c.name)) d₁ (laidOut d₁ (l.home w c.name) spec) :=
    laidOut_spares accepts.partsFit
  exact ⟨storable, makes, passes, spares.workingDirectory.trans hw₁,
    passes.opens_of_spares hw₁ opens spares,
    node?_laidOut (by simp) free accepts.partsFit⟩

/-! ### What can become of it -/

/-- What the storage of an instance can have become. In the directory of a part there is whatever was put
there, or the directory is missing, and all else is as it was. What happens in other places is of no
importance, as long as the data directory is there. -/
structure Weathered (l : Local) (w : Place) (name : String) (spec : Specification) (d d' : Disk) :
    Prop where
  workingDirectory : d'.workingDirectory = d.workingDirectory
  opens : d'.Opens l.root (placeFrom w l.root)
  same : ∀ q, l.home w name <+: q → (∀ p ∈ l.dataPlaces w name spec, ¬ p <+: q) →
    d'.node? q = d.node? q
  parts : ∀ p ∈ l.dataPlaces w name spec, d'.Available p

/-- The data directory is there if nothing has happened but to the data of the instance. -/
theorem weathered_of_spares (passes : l.PassesBy w name) (hw : d.workingDirectory = w)
    (opens : d.Opens l.root (placeFrom w l.root))
    (spares : Spares (fun q => ∃ p ∈ l.dataPlaces w name spec, p <+: q) d d')
    (parts : ∀ p ∈ l.dataPlaces w name spec, d'.Available p) : l.Weathered w name spec d d' where
  workingDirectory := spares.workingDirectory
  opens := passes.opens_of_spares hw opens
    (spares.mono fun _ ⟨_, hp, hq⟩ => home_prefix_of_dataPlaces hp hq)
  same q _ apart := spares.beyond q fun ⟨p, hp, hq⟩ => apart p hp hq
  parts := parts

theorem Weathered.stands (h : l.Weathered w name spec d d') (hw : d.workingDirectory = w)
    (passes : l.PassesBy w name) (shows : l.Shows w d name (some spec)) :
    l.Stands w d' name spec where
  workingDirectory := h.workingDirectory.trans hw
  passes := passes
  opens := h.opens
  lies q apart := (h.same _ (List.prefix_append _ _) apart).trans (shows q)
  parts := h.parts

/-- Truncations and upgrades of storage that was created once do what they are to do and nothing else.
A truncation succeeds and leaves the directory of every part there and empty, all other places on the
disk are as they were, and a second one changes nothing. An upgrade succeeds and makes the directories
that are missing, and all else is as it was. The stored specification is the same to the byte. This
holds for all properties that the types accept, for all that can be in the directories of the parts,
and whatever path the data directory has. -/
theorem upkeep_is_exact (builtin : l.definitions = Definition.builtin) (tree : d₀.Grown [])
    (sorted : StringMap.Sorted c.properties) (short : Utf8.size c.name ≤ 252)
    (created : l.run (.create c) d₀ = (.ok spec, d₁))
    (weathered : l.Weathered d₀.workingDirectory c.name spec d₁ d) :
    let place := l.specPlace d₀.workingDirectory c.name
    let places := l.dataPlaces d₀.workingDirectory c.name spec
    ∃ bytes, d₁.node? place = some (.file bytes) ∧
      (∃ d', l.run (.truncate c.name) d = (.ok (), d') ∧ d'.node? place = some (.file bytes) ∧
        Emptied places d d' ∧
        ∃ d'', l.run (.truncate c.name) d' = (.ok (), d'') ∧ Spares (fun _ => False) d' d'') ∧
      ∃ d', l.run (.upgrade c.name) d = (.ok (), d') ∧ d'.node? place = some (.file bytes) ∧
        Completed places d d' := by
  intro place places
  have grown : d₀.Grown (l.home d₀.workingDirectory c.name) := fun q name _ =>
    tree q name List.nil_prefix
  obtain ⟨storable, makes, passes, hw, -, shows⟩ := created_inv builtin rfl grown short created
  have stands := weathered.stands hw passes shows
  obtain ⟨d', truncated, emptied⟩ := stands.truncate_run storable makes
  have stands' := stands.of_emptied emptied fun _ => id
  obtain ⟨d'', again, emptied'⟩ := stands'.truncate_run storable makes
  obtain ⟨e, upgraded, completed⟩ := stands.upgrade_run builtin storable (makes.self sorted)
  refine ⟨_, shows [specFile], ⟨d', truncated, stands'.specPlace_eq, emptied, d'', again,
    emptied.again emptied'⟩, e, upgraded, ?_, completed⟩
  rw [completed.nodes, stands.specPlace_eq]
  rfl

/-- A key/value table that holds data and has lost the directory of its embedded table. -/
theorem lost_part_is_made_again :
    let l : Local := ⟨⟨"data"⟩, Definition.builtin⟩
    let d₀ : Disk := ⟨[(["data"], .directory)], []⟩
    let c : Creation := ⟨"orders", ⟨"keyValueTable", []⟩, [("ttl", "60")]⟩
    let spec := Definition.keyValueSpec "orders" [("ttl", "60")]
    let table : Place := ["data", "orders", "data", "orders"]
    let rows : Place := table ++ ["rows.log"]
    let lost : Place := ["data", "orders", "data", "orders.kv"]
    ∃ d₁ d, d₀.Grown [] ∧ StringMap.Sorted c.properties ∧ Utf8.size c.name ≤ 252 ∧
      l.run (.create c) d₀ = (.ok spec, d₁) ∧ l.Weathered [] c.name spec d₁ d ∧
      d.node? rows = some (.file [7]) ∧ d.node? lost = none ∧
      (∃ d', l.run (.truncate "orders") d = (.ok (), d') ∧
        d'.node? rows = none ∧ d'.node? lost = some .directory) ∧
      ∃ d', l.run (.upgrade "orders") d = (.ok (), d') ∧
        d'.node? rows = some (.file [7]) ∧ d'.node? lost = some .directory := by
  intro l d₀ c spec table rows lost
  have vacant : d₀.Vacant l.root ["data"] := vacant_alone (by decide)
  have tree : d₀.Grown [] := grown_sideBySide ["data"]
  have sorted : StringMap.Sorted c.properties := List.pairwise_singleton _ _
  have short : Utf8.size c.name ≤ 252 := by decide
  have accepts : l.Accepts c spec := accepts_of_builtin rfl rfl rfl (by decide)
  obtain ⟨d₁, created, -⟩ := accepts.create_becomes (ready_of_vacant vacant).1
    (shows_of_vacant vacant "orders")
  obtain ⟨-, -, passes, hw, opens, shows⟩ := created_inv rfl rfl
    (fun q name _ => tree q name List.nil_prefix) short created
  have places : l.dataPlaces [] "orders" spec = [table, lost] := by decide +kernel
  have tableIn : table ∈ l.dataPlaces [] "orders" spec := by simp [places]
  have lostIn : lost ∈ l.dataPlaces [] "orders" spec := by simp [places]
  let d := (d₁.prune lost).put rows (.file [7])
  have node (q : Place) (hq : q ≠ []) : d.node? q =
      if rows = q then some (.file [7]) else if lost <+: q then none else d₁.node? q := by
    rw [node?_put _ _ _ hq, node?_prune _ _ hq]
  have data : d.node? rows = some (.file [7]) := (node _ (by decide)).trans (if_pos rfl)
  have kept : d.node? table = some .directory := by
    have home : l.home [] "orders" = ["data", "orders"] := by decide +kernel
    have laid : d₁.node? (l.home [] "orders" ++ [dataDirectory, "orders"]) =
      layout spec [dataDirectory, "orders"] := shows [dataDirectory, "orders"]
    rw [home] at laid
    rw [node _ (by decide), if_neg (by decide), if_neg (by decide)]
    exact laid.trans (by decide +kernel)
  have gone (q : Place) (hq : lost <+: q) : d.node? q = none := by
    have notRoot : q ≠ [] := by
      rintro rfl
      exact absurd hq (by decide)
    have other : rows ≠ q := by
      rintro rfl
      exact absurd hq (by decide)
    rw [node q notRoot, if_neg other, if_pos hq]
  have weathered : l.Weathered [] "orders" spec d₁ d := by
    refine weathered_of_spares passes hw opens ?_ fun p hp => ?_
    · exact .trans (.prune fun q hq => ⟨lost, lostIn, hq⟩) (.put ⟨table, tableIn, ["rows.log"], rfl⟩)
    · rw [places] at hp
      obtain rfl | rfl : p = table ∨ p = lost := by simpa using hp
      · exact .inl kept
      · exact .inr gone
  obtain ⟨bytes, -, ⟨d', truncated, -, emptied, -⟩, d'', upgraded, -, completed⟩ :=
    upkeep_is_exact rfl tree sorted short created weathered
  refine ⟨d₁, d, tree, sorted, short, created, weathered, data, gone _ (List.prefix_refl _),
    ⟨d', truncated, ?_, ?_⟩, d'', upgraded, ?_, ?_⟩
  · exact (emptied.empty table tableIn rows ⟨["rows.log"], rfl⟩).trans (if_neg (by decide))
  · exact (emptied.empty lost lostIn lost (List.prefix_refl _)).trans (if_pos rfl)
  · rw [completed.nodes, data]
    rfl
  · rw [completed.nodes, gone _ (List.prefix_refl _), if_pos lostIn]
    rfl

end Storage.Local

end DatasetCatalog
