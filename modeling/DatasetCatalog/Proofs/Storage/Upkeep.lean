import DatasetCatalog.Proofs.Disk.Confine
import DatasetCatalog.Proofs.Storage.Fresh

/-!
# Working on storage that is as it was created

In a data directory that only its own storage works in, two things can stand in the place of an
instance: its storage the way a create lays it out, or nothing (`Shows`). Here the operations are
followed forwards from there. Each one says what it finds, and leaves one of the two in the place
of its own instance and all other places as they are (`Becomes`).

Truncations and upgrades are followed on storage that has been worked with (`Stands`), where a part has a
directory with whatever is in it, or has lost it. A truncation removes and makes the directories of the
parts again (`Emptied`), and an upgrade makes those that are missing (`Completed`) and writes the same
specification over the stored one, because what the code of a type makes of stored properties is what
is stored. Storage that is as it was created is the case where nothing is in the directories.
-/

namespace DatasetCatalog

namespace Disk

variable {d d' d'' : Disk} {path : Path} {p q : Place} {places : List Place} {name : String}

/-! ### Directories that are emptied -/

/-- There is a directory at a place, with whatever is in it, or nothing at all. -/
def Available (d : Disk) (p : Place) : Prop :=
  d.node? p = some .directory ∨ ∀ q, p <+: q → d.node? q = none

theorem Available.clear (h : d.Available p) : d.Clear p :=
  h.symm.imp_left fun nothing => nothing p (List.prefix_refl _)

/-- At some places there are directories with nothing in them, and all else is as it was. -/
structure Emptied (places : List Place) (d d' : Disk) : Prop where
  spares : Spares (fun q => ∃ p ∈ places, p <+: q) d d'
  empty : ∀ p ∈ places, ∀ q, p <+: q → d'.node? q = if q = p then some .directory else none

namespace Emptied

theorem nil : Emptied [] d d := ⟨.refl _ _, nofun⟩

/-- Places that do not lie in one another are emptied one after the other. -/
theorem cons (first : Emptied [p] d d') (others : Emptied places d' d'')
    (apart : ∀ r ∈ places, ∀ q, p <+: q → r <+: q → r = p) : Emptied (p :: places) d d'' := by
  refine ⟨.trans (first.spares.mono ?_) (others.spares.mono ?_), fun r hr q hq => ?_⟩
  · rintro q ⟨r, hr, hq⟩
    exact ⟨r, List.mem_cons.2 (.inl (List.mem_singleton.1 hr)), hq⟩
  · rintro q ⟨r, hr, hq⟩
    exact ⟨r, List.mem_cons_of_mem _ hr, hq⟩
  · by_cases later : r ∈ places
    · exact others.empty r later q hq
    · obtain rfl : r = p := (List.mem_cons.1 hr).resolve_right later
      have untouched : ¬ ∃ r' ∈ places, r' <+: q := by
        rintro ⟨r', hr', hq'⟩
        exact later (apart r' hr' q hq hq' ▸ hr')
      rw [others.spares.beyond q untouched]
      exact first.empty r (List.mem_singleton_self r) q hq

/-- To empty places again changes nothing. -/
theorem again (h : Emptied places d d') (h' : Emptied places d' d'') :
    Spares (fun _ => False) d' d'' := by
  refine ⟨h'.spares.workingDirectory, fun q _ => ?_⟩
  by_cases below : ∃ p ∈ places, p <+: q
  · obtain ⟨p, hp, hq⟩ := below
    rw [h'.empty p hp q hq, h.empty p hp q hq]
  · exact h'.spares.beyond q below

end Emptied

/-- A directory in a directory is removed with whatever is in it, if it is there, and made. -/
theorem Opens.emptied (opens : d.Opens path p) (fits : FileName name)
    (available : d.Available (p ++ [name]))
    (way : ∀ q, d.Crosses path q ∨ q = p → ¬ p ++ [name] <+: q) :
    ∃ there d₁ d', (removeTreeIfPresent (path.join name)).run d = (.ok there, d₁) ∧
      (makeDirectories (path.join name)).run d₁ = (.ok (), d') ∧ Emptied [p ++ [name]] d d' := by
  have removed := opens.removeTreeIfPresent_run fits available.clear
  obtain ⟨there, d₁, removed, nothing, spares⟩ : ∃ there d₁,
      (removeTreeIfPresent (path.join name)).run d = (.ok there, d₁) ∧
      (∀ q, p ++ [name] <+: q → d₁.node? q = none) ∧ Spares (below (p ++ [name])) d d₁ := by
    rcases available with there | missing
    · rw [there, if_neg (Option.some_ne_none _)] at removed
      refine ⟨true, _, removed, fun q hq => ?_, .prune fun _ hq => hq⟩
      have notRoot : q ≠ [] := by
        rintro rfl
        simp at hq
      rw [node?_prune _ _ notRoot, if_pos hq]
    · rw [missing _ (List.prefix_refl _), if_pos rfl] at removed
      exact ⟨false, d, removed, missing, .refl _ _⟩
  have single : ∀ n ∈ [name], FileName n := by simpa using fits
  have stop : stops p [name] = [p ++ [name]] := by simp [stops, fits.notUp]
  have made := (opens.of_spares spares way).makeDirectories_run single (by
    rw [stop]
    simpa using .inl (nothing _ (List.prefix_refl _)))
  rw [stop] at made
  have whole : Spares (below (p ++ [name])) d (d₁.ensureAll [p ++ [name]]) :=
    spares.trans (.ensureAll fun q hq => List.mem_singleton.1 hq ▸ List.prefix_refl _)
  refine ⟨there, d₁, _, removed, made,
    whole.mono fun q hq => ⟨_, List.mem_singleton_self _, hq⟩, fun r hr q hq => ?_⟩
  obtain rfl := List.mem_singleton.1 hr
  simp only [node?_ensureAll, nothing q hq, Option.none_or, List.mem_singleton]

/-! ### Directories that are made where they are missing -/

/-- At some places directories have been made if there was nothing, and all else is as it was. -/
structure Completed (places : List Place) (d d' : Disk) : Prop where
  workingDirectory : d'.workingDirectory = d.workingDirectory
  nodes : ∀ q, d'.node? q = (d.node? q).or (if q ∈ places then some .directory else none)

theorem Completed.spares (h : Completed places d d') : Spares (· ∈ places) d d' :=
  ⟨h.workingDirectory, fun q hq => by rw [h.nodes, if_neg hq, Option.or_none]⟩

end Disk

namespace Storage.Local

open Disk

variable {l : Local} {w : Place} {d d' d'' : Disk} {name other operation : String}
  {spec part : Specification} {entry : Option Specification}

/-! ### Open data directories -/

/-- The data directory is there, and its path does not lead through the places of instances. -/
structure Ready (l : Local) (w : Place) (d : Disk) : Prop where
  workingDirectory : d.workingDirectory = w
  direct : l.Direct w
  opens : d.Opens l.root (placeFrom w l.root)

/-- The data directory stays there, whatever happens in the place of an instance that its path passes
by. -/
theorem PassesBy.opens_of_spares (passes : l.PassesBy w name) (hw : d.workingDirectory = w)
    (opens : d.Opens l.root (placeFrom w l.root)) (spares : Spares (below (l.home w name)) d d') :
    d'.Opens l.root (placeFrom w l.root) := by
  refine opens.of_spares spares ?_
  rintro q (crossed | rfl)
  · exact passes q (crosses_of_workingDirectory hw crossed)
  · exact not_home_prefix_root

/-- The data directory stays there, whatever happens in the place of an instance. -/
theorem Ready.of_spares (h : l.Ready w d) (spares : Spares (below (l.home w name)) d d') :
    l.Ready w d' :=
  ⟨spares.workingDirectory.trans h.workingDirectory, h.direct,
    h.direct.passesBy.opens_of_spares h.workingDirectory h.opens spares⟩

/-- An empty data directory is ready. -/
theorem ready_of_vacant {p : Place} (h : d.Vacant l.root p) :
    l.Ready d.workingDirectory d ∧ p = placeFrom d.workingDirectory l.root := by
  have place : p = placeFrom d.workingDirectory l.root := by
    rw [← placeOf_eq_placeFrom rfl]
    exact eq_spelled_of_walk h.walked
  refine ⟨⟨rfl, ?_, place ▸ h.toOpens⟩, place⟩
  -- there is no directory below it that a path could lead through
  rintro q name crossed inHome
  obtain ⟨k, hk, rfl⟩ := crossed
  change l.home _ name <+: spelled (d.origin l.root) (l.root.names.take k) at inHome
  have there : d.node? (spelled (d.origin l.root) (l.root.names.take k)) = some .directory :=
    h.crossed ⟨k, hk, rfl⟩
  have inside : p <+: l.home d.workingDirectory name := place ▸ List.prefix_append _ _
  rw [h.nothing _ (inside.trans inHome)] at there
  · cases there
  · intro same
    have lengths := inHome.length_le
    rw [same, home, ← place, List.length_append, List.length_singleton] at lengths
    omega

/-! ### What stands in the place of an instance -/

/-- In the place of an instance there is its storage as a create lays it out, or there is nothing. -/
def Shows (l : Local) (w : Place) (d : Disk) (name : String) (entry : Option Specification) : Prop :=
  ∀ q, d.node? (l.home w name ++ q) = entry.bind (layout · q)

/-- What becomes of the place of an instance, while all others stay as they are. -/
structure Becomes (l : Local) (w : Place) (name : String) (d d' : Disk)
    (entry : Option Specification) : Prop where
  spares : Spares (below (l.home w name)) d d'
  shows : l.Shows w d' name entry

/-- There is no storage in an empty data directory. -/
theorem shows_of_vacant {p : Place} (h : d.Vacant l.root p) (name : String) :
    l.Shows d.workingDirectory d name none := by
  obtain ⟨-, rfl⟩ := ready_of_vacant h
  intro q
  have longer : placeFrom d.workingDirectory l.root ++ name :: q ≠
      placeFrom d.workingDirectory l.root := by simp
  have nothing := h.nothing _ (List.prefix_append _ _) longer
  rw [home, List.append_assoc]
  exact nothing

namespace Shows

theorem of_other (h : l.Shows w d name entry) (hne : name ≠ other)
    (spares : Spares (below (l.home w other)) d d') : l.Shows w d' name entry := by
  intro q
  rw [spares.beyond _ (not_below_home hne (List.prefix_append _ _))]
  exact h q

theorem home_eq (h : l.Shows w d name entry) :
    d.node? (l.home w name) = entry.map fun _ => .directory := by
  have here := h []
  rw [List.append_nil] at here
  rw [here]
  cases entry <;> rfl

theorem clear (h : l.Shows w d name entry) : d.Clear (l.home w name) := by
  rw [Clear, h.home_eq]
  cases entry
  · exact .inl rfl
  · exact .inr rfl

/-- The directory of an instance. -/
theorem opens (h : l.Shows w d name (some spec)) (ready : l.Ready w d) (fits : FileName name) :
    d.Opens (l.root.join name) (l.home w name) :=
  ready.opens.join fits h.home_eq

/-- The file of the specification is found, or nothing is. -/
theorem finds (h : l.Shows w d name entry) (ready : l.Ready w d) (fits : FileName name) :
    d.Finds (l.specPath name) (l.specPlace w name)
      (entry.map fun spec => Utf8.encode spec.toJson.indented) := by
  cases entry with
  | some spec =>
    exact .file ((h.opens ready fits).locate_join fileName_specFile) (h [specFile])
  | none =>
    exact .noWay (ready.opens.locate_lost fits h.home_eq fileName_specFile)

end Shows

/-! ### Reading -/

/-- What is found for an instance is read, or there is nothing. -/
theorem readSpecification_finds {p : Place} (storable : Storable name)
    (found : d.Finds (l.specPath name) p
      (entry.map fun spec => Utf8.encode spec.toJson.indented))
    (decodes : ∀ spec ∈ entry,
      Json.decode Specification.reader (Utf8.encode spec.toJson.indented) = .ok spec) :
    (l.readSpecification operation name).run.run d =
      (entry.elim (.error (.notFound name)) .ok, d) := by
  have read := onDisk_run (readIfPresent_run found)
  refine (DiskAction.bind_of_ok (directory_run storable.safe d) _).trans ?_
  refine (DiskAction.bind_of_ok read _).trans ?_
  cases entry with
  | none => rfl
  | some spec =>
    dsimp only [Option.map_some]
    rw [decodes spec rfl]
    rfl

/-- The stored specification is read, or there is none. -/
theorem readSpecification_run (h : l.Shows w d name entry) (ready : l.Ready w d)
    (storable : Storable name)
    (decodes : ∀ spec ∈ entry,
      Json.decode Specification.reader (Utf8.encode spec.toJson.indented) = .ok spec) :
    (l.readSpecification operation name).run.run d =
      (entry.elim (.error (.notFound name)) .ok, d) :=
  readSpecification_finds storable (h.finds ready storable.fits) decodes

theorem probe_run (h : l.Shows w d name entry) (ready : l.Ready w d) (storable : Storable name) :
    l.run (.probe name) d = (.ok entry.isSome, d) := by
  have found := pathExists_of_finds (h.finds ready storable.fits)
  have look : (FileAction.look fun d => d.pathExists (l.specPath name)).run d =
      (.ok entry.isSome, d) := by
    rw [FileAction.look_run, found, Option.isSome_map]
  refine (DiskAction.bind_of_ok (directory_run storable.safe d) _).trans ?_
  exact onDisk_run look

/-! ### Creating and dropping -/

section

variable {c : Creation} {removal : Removal}

theorem create_unknown (unknown : StringMap.find? c.typeMeta.name l.definitions = none) (d : Disk) :
    l.run (.create c) d = (.error (.unknownType c.typeMeta.name), d) := by
  have first : (l.definition c.typeMeta.name).run.run d =
      (.error (.unknownType c.typeMeta.name), d) := by
    rw [definition, unknown]
    rfl
  exact DiskAction.bind_of_error first _

theorem create_refused {code : Definition} {e : PropertyError}
    (found : StringMap.find? c.typeMeta.name l.definitions = some code)
    (safe : isSafeName c.name = true) (refused : code c.name c.properties = .error e) (d : Disk) :
    l.run (.create c) d = (.error (.execution "create" c.name e.message), d) := by
  have third : (configure code "create" c.name c.properties).run.run d =
      (.error (.execution "create" c.name e.message), d) := by
    rw [configure, refused]
    rfl
  refine (DiskAction.bind_of_ok (definition_run found d) _).trans ?_
  refine (DiskAction.bind_of_ok (directory_run safe d) _).trans ?_
  exact DiskAction.bind_of_error third _

/-- Where nothing stands, a create lays the storage out. -/
theorem Accepts.create_becomes (accepts : l.Accepts c spec) (ready : l.Ready w d)
    (h : l.Shows w d c.name none) :
    ∃ d', l.run (.create c) d = (.ok spec, d') ∧ l.Becomes w c.name d d' (some spec) := by
  have root := onDisk_run ready.opens.makeDirectories_self
  refine ⟨laidOut d (l.home w c.name) spec, ?_, laidOut_spares accepts.partsFit,
    node?_laidOut (by simp [home]) h accepts.partsFit⟩
  refine (accepts.run_eq d).trans ?_
  refine (DiskAction.bind_of_ok root _).trans ?_
  exact layOut_run ready.opens accepts.fits accepts.partsFit h

/-- Where there is storage, a create is refused. -/
theorem Accepts.create_taken {old : Specification} (accepts : l.Accepts c spec) (ready : l.Ready w d)
    (h : l.Shows w d c.name (some old)) :
    l.run (.create c) d = (.error (.alreadyExists c.name), d) := by
  have root := onDisk_run ready.opens.makeDirectories_self
  have claim := claimDirectory_run ready.opens accepts.fits
  rw [← home, h.home_eq, Option.map_some, if_neg (Option.some_ne_none _)] at claim
  refine (accepts.run_eq d).trans ?_
  refine (DiskAction.bind_of_ok root _).trans ?_
  exact DiskAction.bind_of_error claim _

/-- A drop leaves nothing, whether there was storage or not. -/
theorem drop_becomes (ready : l.Ready w d) (storable : Storable removal.spec.name)
    (h : l.Shows w d removal.spec.name entry) :
    ∃ d', l.run (.drop removal) d = (.ok (), d') ∧ l.Becomes w removal.spec.name d d' none := by
  have run := drop_run storable.safe storable.fits ready.opens h.clear
  rw [h.home_eq] at run
  cases entry with
  | none =>
    rw [Option.map_none, if_pos rfl] at run
    exact ⟨d, run, .refl _ _, h⟩
  | some old =>
    rw [Option.map_some, if_neg (Option.some_ne_none _)] at run
    refine ⟨_, run, .prune fun _ hq => hq, fun q => ?_⟩
    rw [node?_prune _ _ (by simp [home]), if_pos (List.prefix_append _ _)]
    rfl

end

/-! ### Storage that has been worked with -/

/-- The place of the data of a part. -/
def partPlace (l : Local) (w : Place) (name : String) (part : Specification) : Place :=
  l.home w name ++ [dataDirectory, part.name]

/-- The places of the data of all parts. -/
def dataPlaces (l : Local) (w : Place) (name : String) (spec : Specification) : List Place :=
  spec.parts.map (l.partPlace w name)

theorem home_prefix_partPlace : l.home w name <+: l.partPlace w name part := List.prefix_append _ _

theorem home_prefix_of_dataPlaces {p q : Place} (hp : p ∈ l.dataPlaces w name spec) (hq : p <+: q) :
    l.home w name <+: q := by
  obtain ⟨part, -, rfl⟩ := List.mem_map.1 hp
  exact home_prefix_partPlace.trans hq

/-- Of two parts neither lies in the place of the other one. -/
theorem partPlace_apart {other : Specification} {q : Place} (h : l.partPlace w name part <+: q)
    (h' : l.partPlace w name other <+: q) : l.partPlace w name other = l.partPlace w name part :=
  (List.prefix_of_prefix_length_le h' h (by simp [partPlace])).eq_of_length (by simp [partPlace])

/-- There is storage of an instance, as a create lays it out, with whatever may be in the directories of
the parts. Some of these can be missing. -/
structure Stands (l : Local) (w : Place) (d : Disk) (name : String) (spec : Specification) : Prop where
  workingDirectory : d.workingDirectory = w
  passes : l.PassesBy w name
  opens : d.Opens l.root (placeFrom w l.root)
  lies : ∀ q, (∀ p ∈ l.dataPlaces w name spec, ¬ p <+: l.home w name ++ q) →
    d.node? (l.home w name ++ q) = layout spec q
  parts : ∀ p ∈ l.dataPlaces w name spec, d.Available p

/-- Below the place of a part the layout has the directory of the part only. -/
theorem layout_data {p q : Place} (hp : p ∈ l.dataPlaces w name spec)
    (below : p <+: l.home w name ++ q) :
    layout spec q = if l.home w name ++ q = p then some .directory else none := by
  obtain ⟨part, hpart, rfl⟩ := List.mem_map.1 hp
  rw [partPlace, List.prefix_append_right_inj] at below
  simp only [partPlace, List.append_cancel_left_eq]
  obtain ⟨more, rfl⟩ := below
  cases more with
  | nil => exact (if_pos ⟨rfl, List.mem_map_of_mem hpart⟩).trans (if_pos rfl).symm
  | cons first rest => exact (if_neg (by simp)).symm

/-- Storage that is as it was created is storage. -/
theorem Shows.stands (h : l.Shows w d name (some spec)) (ready : l.Ready w d) :
    l.Stands w d name spec where
  workingDirectory := ready.workingDirectory
  passes := ready.direct.passesBy
  opens := ready.opens
  lies q _ := h q
  parts p hp := by
    obtain ⟨part, -, rfl⟩ := List.mem_map.1 hp
    exact .inl ((h _).trans ((layout_data hp (List.prefix_refl _)).trans (if_pos rfl)))

namespace Stands

/-- What is not below the directory of the data is as it was laid out. -/
theorem lies_of_not_data (h : l.Stands w d name spec) {q : Place} (apart : ¬ [dataDirectory] <+: q) :
    d.node? (l.home w name ++ q) = layout spec q := by
  refine h.lies q fun p hp below => apart ?_
  obtain ⟨part, -, rfl⟩ := List.mem_map.1 hp
  rw [partPlace, List.prefix_append_right_inj] at below
  exact List.IsPrefix.trans ⟨[part.name], rfl⟩ below

theorem specPlace_eq (h : l.Stands w d name spec) :
    d.node? (l.specPlace w name) = some (.file (Utf8.encode spec.toJson.indented)) :=
  h.lies_of_not_data (by decide)

theorem dataDirectory_eq (h : l.Stands w d name spec) :
    d.node? (l.home w name ++ [dataDirectory]) = some .directory := by
  refine h.lies [dataDirectory] fun p hp below => ?_
  obtain ⟨part, -, rfl⟩ := List.mem_map.1 hp
  have lengths := below.length_le
  simp [partPlace] at lengths

/-- The directory of the instance. -/
theorem opens_home (h : l.Stands w d name spec) (fits : FileName name) :
    d.Opens (l.root.join name) (l.home w name) := by
  have there : d.node? (l.home w name ++ []) = some .directory := h.lies_of_not_data (by simp)
  exact h.opens.join fits (by simpa [home] using there)

theorem readSpecification_run (h : l.Stands w d name spec) (storable : Storable name)
    {typeName : String} {ps : Properties} (made : Definition.Makes typeName name ps spec) :
    (l.readSpecification operation name).run.run d = (.ok spec, d) := by
  have located := (h.opens_home storable.fits).locate_join fileName_specFile
  have found : d.Finds (l.specPath name) (l.specPlace w name)
      ((some spec).map fun spec => Utf8.encode spec.toJson.indented) := .file located h.specPlace_eq
  exact readSpecification_finds storable found (by rintro _ ⟨⟩; exact made.decode)

/-! ### Truncating -/

/-- Storage stays storage when directories of parts are emptied. -/
theorem of_emptied {places : List Place} (h : l.Stands w d name spec)
    (emptied : Emptied places d d') (own : ∀ p ∈ places, p ∈ l.dataPlaces w name spec) :
    l.Stands w d' name spec := by
  have inHome : Spares (below (l.home w name)) d d' := emptied.spares.mono fun q ⟨p, hp, hq⟩ =>
    home_prefix_of_dataPlaces (own p hp) hq
  refine ⟨inHome.workingDirectory.trans h.workingDirectory, h.passes,
    h.passes.opens_of_spares h.workingDirectory h.opens inHome, fun q apart => ?_, fun p hp => ?_⟩
  · rw [emptied.spares.beyond _ fun ⟨p, hp, hq⟩ => apart p (own p hp) hq]
    exact h.lies q apart
  · by_cases again : p ∈ places
    · exact .inl ((emptied.empty p again p (List.prefix_refl _)).trans (if_pos rfl))
    · have untouched {q : Place} (hq : p <+: q) : d'.node? q = d.node? q := by
        refine emptied.spares.beyond q ?_
        rintro ⟨r, hr, hrq⟩
        obtain ⟨part, -, rfl⟩ := List.mem_map.1 hp
        obtain ⟨other, -, rfl⟩ := List.mem_map.1 (own r hr)
        exact again (partPlace_apart hq hrq ▸ hr)
      exact (h.parts p hp).imp (untouched (List.prefix_refl _)).trans
        fun nothing q hq => (untouched hq).trans (nothing q hq)

theorem clearPart_run (h : l.Stands w d name spec) (fits : FileName name) (hpart : part ∈ spec.parts)
    (partFits : FileName part.name) :
    ∃ d', (clearPart (l.root.join name) part).run.run d = (.ok (), d') ∧
      Emptied [l.partPlace w name part] d d' := by
  have opens := (h.opens_home fits).join fileName_dataDirectory h.dataDirectory_eq
  have place : l.partPlace w name part = l.home w name ++ [dataDirectory] ++ [part.name] := by
    simp [partPlace]
  have available := h.parts _ (List.mem_map_of_mem hpart)
  rw [place] at available ⊢
  have way (q : Place) (hq : d.Crosses ((l.root.join name).join dataDirectory) q ∨
      q = l.home w name ++ [dataDirectory]) :
      ¬ l.home w name ++ [dataDirectory] ++ [part.name] <+: q := by
    intro below
    rcases hq with crossed | rfl
    · exact not_within_of_crosses h.passes h.workingDirectory fits.toComponent
        component_dataDirectory crossed ⟨dataDirectory, (List.prefix_append _ _).trans below⟩
    · have lengths := below.length_le
      simp at lengths
  obtain ⟨there, d₁, d', removed, made, emptied⟩ := opens.emptied partFits available way
  refine ⟨d', ?_, emptied⟩
  exact (DiskAction.bind_of_ok (DiskAction.bind_of_ok (onDisk_run removed) _) _).trans
    (onDisk_run made)

theorem clearParts_run {parts : List Specification} (h : l.Stands w d name spec)
    (fits : FileName name) (own : ∀ part ∈ parts, part ∈ spec.parts)
    (names : ∀ part ∈ spec.parts, FileName part.name) :
    ∃ d', (parts.forM (clearPart (l.root.join name))).run.run d = (.ok (), d') ∧
      Emptied (parts.map (l.partPlace w name)) d d' := by
  induction parts generalizing d with
  | nil => exact ⟨d, rfl, .nil⟩
  | cons part rest ih =>
    have hpart := own part List.mem_cons_self
    obtain ⟨d₁, first, emptied₁⟩ := h.clearPart_run fits hpart (names part hpart)
    have stands₁ := h.of_emptied emptied₁ fun p hp =>
      List.mem_singleton.1 hp ▸ List.mem_map_of_mem hpart
    obtain ⟨d₂, others, emptied₂⟩ := ih stands₁ fun p hp => own p (List.mem_cons_of_mem _ hp)
    refine ⟨d₂, (DiskAction.bind_of_ok first _).trans others, emptied₁.cons emptied₂ ?_⟩
    intro r hr q hq hrq
    obtain ⟨other, -, rfl⟩ := List.mem_map.1 hr
    exact partPlace_apart hq hrq

/-- A truncation empties the directories of all parts. -/
theorem truncate_run (h : l.Stands w d name spec) (storable : Storable name) {typeName : String}
    {ps : Properties} (made : Definition.Makes typeName name ps spec) :
    ∃ d', l.run (.truncate name) d = (.ok (), d') ∧ Emptied (l.dataPlaces w name spec) d d' := by
  obtain ⟨d', cleared, emptied⟩ := h.clearParts_run storable.fits (fun _ => id)
    (storable.partsFit made)
  refine ⟨d', ?_, emptied⟩
  refine (DiskAction.bind_of_ok (h.readSpecification_run storable made) _).trans ?_
  exact (DiskAction.bind_of_ok (directory_run storable.safe d) _).trans cleared

end Stands

/-! ### Upgrading -/

/-- A specification that its type makes of its own properties under a name. -/
abbrev SelfMade (name : String) (spec : Specification) : Prop :=
  Definition.Makes spec.typeName name spec.properties spec

/-- A specification that is written again over the same one changes nothing. -/
theorem rewrite_run {dir : Path} {p : Place} (opens : d.Opens dir p)
    (stored : d.node? (p ++ [specFile]) = some (.file (Utf8.encode spec.toJson.indented)))
    (free : ∀ q, p ++ [draftSpecFile] <+: q → d.node? q = none) :
    ∃ d', (writeSpecification dir spec).run.run d = (.ok (), d') ∧ Spares (fun _ => False) d d' := by
  have noDirectory : d.node? (p ++ [specFile]) ≠ some .directory := by
    rw [stored]
    exact nofun
  have written : (writeSpecification dir spec).run.run d = _ :=
    writeSpecification_run opens (free _ (List.prefix_refl _)) noDirectory
  refine ⟨_, written, rfl, fun q _ => ?_⟩
  by_cases root : q = []
  · simp [root, node?]
  rw [node?_put _ _ _ root, node?_prune _ _ root, node?_put _ _ _ root]
  by_cases here : p ++ [specFile] = q
  · rw [if_pos here, ← here, stored]
  · rw [if_neg here]
    by_cases draft : p ++ [draftSpecFile] <+: q
    · rw [if_pos draft, free q draft]
    · have other : p ++ [draftSpecFile] ≠ q := by
        rintro rfl
        exact draft (List.prefix_refl _)
      rw [if_neg draft, if_neg other]

theorem mem_partPlaces_iff (names : ∀ part ∈ spec.parts, FileName part.name) {q : Place} :
    q ∈ partPlaces (l.home w name) spec.parts ↔
      q = l.home w name ++ [dataDirectory] ∨ q ∈ l.dataPlaces w name spec := by
  constructor
  · intro hq
    obtain ⟨q, rfl⟩ := below_of_mem_partPlaces names hq
    refine ((mem_partPlaces names).1 hq).imp (congrArg _) ?_
    rintro ⟨part, hpart, rfl⟩
    exact List.mem_map_of_mem hpart
  · rintro (rfl | hq)
    · exact (mem_partPlaces names).2 (.inl rfl)
    · obtain ⟨part, hpart, rfl⟩ := List.mem_map.1 hq
      exact (mem_partPlaces names).2 (.inr ⟨part, hpart, rfl⟩)

/-- An upgrade makes the directories of parts that are missing, and writes what is stored. -/
theorem Stands.upgrade_run (builtin : l.definitions = Definition.builtin)
    (h : l.Stands w d name spec) (storable : Storable name) (made : SelfMade name spec) :
    ∃ d', l.run (.upgrade name) d = (.ok (), d') ∧ Completed (l.dataPlaces w name spec) d d' := by
  obtain ⟨code, found, makes⟩ := Definition.makes_iff.2 made
  have names := storable.partsFit made
  have opens := h.opens_home storable.fits
  have clear : ∀ q ∈ partPlaces (l.home w name) spec.parts, d.Clear q := by
    intro q hq
    obtain rfl | hq := (mem_partPlaces_iff names).1 hq
    · exact .inr h.dataDirectory_eq
    · exact (h.parts q hq).clear
  have parts := makeParts_run opens names clear
  -- the files beside the data are as they were
  have beside {q : Place} (apart : ¬ [dataDirectory] <+: q) :
      (d.ensureAll (partPlaces (l.home w name) spec.parts)).node? (l.home w name ++ q) =
        layout spec q := by
    have notPart : l.home w name ++ q ∉ partPlaces (l.home w name) spec.parts := by
      rw [mem_partPlaces names]
      rintro (rfl | ⟨part, -, rfl⟩)
      · exact apart (List.prefix_refl _)
      · exact apart ⟨[part.name], rfl⟩
    rw [node?_ensureAll, if_neg notPart, Option.or_none, h.lies_of_not_data apart]
  have free : ∀ q, l.home w name ++ [draftSpecFile] <+: q →
      (d.ensureAll (partPlaces (l.home w name) spec.parts)).node? q = none := by
    rintro _ ⟨more, rfl⟩
    rw [List.append_assoc, beside (by simp [dataDirectory, draftSpecFile])]
    match more with
    | [] => rfl
    | [_] => rfl
    | _ :: _ :: _ => rfl
  obtain ⟨d', written, same⟩ := rewrite_run (opens.ensureAll (partPlaces (l.home w name) spec.parts))
    (beside (by decide)) free
  refine ⟨d', ?_, same.workingDirectory.trans (ensureAll_workingDirectory _ _), fun q => ?_⟩
  · refine (DiskAction.bind_of_ok (h.readSpecification_run storable made) _).trans ?_
    refine (DiskAction.bind_of_ok (definition_run (builtin ▸ found) d) _).trans ?_
    refine (DiskAction.bind_of_ok (configure_run makes d) _).trans ?_
    refine (DiskAction.bind_of_ok (directory_run storable.safe d) _).trans ?_
    exact (DiskAction.bind_of_ok parts _).trans written
  · rw [same.beyond q not_false, node?_ensureAll]
    simp only [mem_partPlaces_iff names]
    by_cases data : q = l.home w name ++ [dataDirectory]
    · rw [data, h.dataDirectory_eq]
      rfl
    · simp only [data, false_or]

/-! ### Storage that is as it was created -/

/-- A truncation leaves the layout. -/
theorem truncate_becomes (ready : l.Ready w d) (storable : Storable name)
    (h : l.Shows w d name (some spec)) (made : SelfMade name spec) :
    ∃ d', l.run (.truncate name) d = (.ok (), d') ∧ l.Becomes w name d d' (some spec) := by
  have stands := h.stands ready
  obtain ⟨d', run, emptied⟩ := stands.truncate_run storable made
  refine ⟨d', run, emptied.spares.mono fun q ⟨p, hp, hq⟩ => home_prefix_of_dataPlaces hp hq,
    fun q => ?_⟩
  by_cases below : ∃ p ∈ l.dataPlaces w name spec, p <+: l.home w name ++ q
  · obtain ⟨p, hp, hq⟩ := below
    exact (emptied.empty p hp _ hq).trans (layout_data hp hq).symm
  · exact (emptied.spares.beyond _ below).trans (h q)

/-- An upgrade leaves the layout. -/
theorem upgrade_becomes (builtin : l.definitions = Definition.builtin) (ready : l.Ready w d)
    (storable : Storable name) (h : l.Shows w d name (some spec)) (made : SelfMade name spec) :
    ∃ d', l.run (.upgrade name) d = (.ok (), d') ∧ l.Becomes w name d d' (some spec) := by
  obtain ⟨d', run, completed⟩ := (h.stands ready).upgrade_run builtin storable made
  refine ⟨d', run, completed.spares.mono fun p hp => home_prefix_of_dataPlaces hp (List.prefix_refl _),
    fun q => ?_⟩
  rw [completed.nodes, h q]
  -- the directories of the parts are all there
  split
  · next hp =>
    have there := (layout_data hp (List.prefix_refl _)).trans (if_pos rfl)
    rw [Option.bind_some, there]
    rfl
  · rw [Option.or_none]

end Storage.Local

end DatasetCatalog
