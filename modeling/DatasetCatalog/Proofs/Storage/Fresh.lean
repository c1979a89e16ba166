import DatasetCatalog.Proofs.Disk.Files
import DatasetCatalog.Proofs.Disk.Making
import DatasetCatalog.Proofs.Storage.Effect

/-!
# Creating storage where something was left over

The lemmas on `Changes` bound what a create may do. Here it is followed forwards, to show that it
succeeds and what stands in the place of the instance afterwards: the `layout` of its specification
and nothing else.

That is so where nothing stands in the place (`Accepts.create_run`). Where a directory was left
there, a create is refused, but a drop takes the directory away with all it holds, and the next
create finds the place free (`drop_run`, `Accepts.recreate_run`).

Both need that the data directory is there or can be made (`Provided`). No request changes that, as
long as the path of the data directory is direct.
-/

namespace DatasetCatalog

open Disk

namespace Storage.Local

variable {l : Local} {w : Place} {d d' d₁ : Disk} {name other : String} {dir : Path} {p q : Place}
  {spec : Specification}

/-- What stands in the place of an instance whose storage has just been created, by the names that
lead there from its directory. -/
def layout (spec : Specification) : Place → Option Node
  | [] => some .directory
  | [file] =>
    if file = specFile then some (.file (Utf8.encode spec.toJson.indented))
    else if file = dataDirectory then some .directory
    else none
  | [parent, part] =>
    if parent = dataDirectory ∧ part ∈ spec.parts.map (·.name) then some .directory else none
  | _ => none

/-! ### The data directory -/

/-- The data directory is there or can be made. -/
structure Provided (l : Local) (d : Disk) : Prop where
  begins : d.node? (d.origin l.root) = some .directory
  made : ((makeDirectories l.root).run d).1 = .ok ()

/-- The way to the data directory does not touch the place of an instance that it passes by. -/
theorem PassesBy.outside (passes : l.PassesBy w name) (hw : d.workingDirectory = w) {k : Nat}
    (hk : k ≤ l.root.names.length) :
    ¬ l.home w name <+: spelled (d.origin l.root) (l.root.names.take k) := by
  rcases Nat.lt_or_eq_of_le hk with before | rfl
  · exact passes _ (crosses_of_workingDirectory hw ⟨k, before, rfl⟩)
  · rw [List.take_length]
    change ¬ l.home w name <+: d.placeOf l.root
    rw [placeOf_eq_placeFrom hw]
    exact not_home_prefix_root

theorem PassesBy.not_stop (passes : l.PassesBy w name) (hw : d.workingDirectory = w)
    (h : p ∈ d.stopsOf l.root) : ¬ l.home w name <+: p := by
  obtain ⟨k, hk, rfl⟩ := exists_take_of_mem_stops h
  exact passes.outside hw hk

/-- What happens in the place of an instance does not keep the data directory from being made. -/
theorem Provided.of_changes (h : l.Provided d) (direct : l.Direct w) (hw : d.workingDirectory = w)
    (changes : Changes (below (l.home w name)) d d') : l.Provided d' := by
  have makeable := makeDirectories_ok_iff.1 h.made
  have begins : d'.node? (d'.origin l.root) = some .directory := by
    rw [changes.origin]
    exact changes.keeps (direct.passesBy.outside hw (Nat.zero_le _)) h.begins
  refine ⟨begins, makeDirectories_ok_iff.2 ⟨makeable.noNul, ⟨fun _ => begins, fun p hp => ?_,
    makeable.passable.short⟩, fun here => ?_⟩⟩
  · rw [changes.origin] at hp
    rcases changes.beyond p (direct.passesBy.not_stop hw hp) with same | ⟨-, new⟩
    · rw [Clear, same]
      exact makeable.passable.clear p hp
    · exact .inr new
  · have stands := makeable.stands here
    have outside : ¬ l.home w name <+: d.placeOf l.root := by
      rw [placeOf_eq_placeFrom hw]
      exact not_home_prefix_root
    rw [Stands, node?_ensureAll] at stands ⊢
    rw [changes.origin]
    rcases changes.beyond _ outside with same | ⟨-, new⟩
    · rw [← placeOf, same]
      exact stands
    · rw [← placeOf, new]
      rfl

/-! ### The steps of a create -/

theorem onDisk_run {α : Type} {a : FileAction α} {r : Except FileError α} (h : a.run d = (r, d')) :
    (onDisk a).run.run d = (r.mapError .ofFile, d') := DiskAction.adapt_run h _

theorem definition_run {typeName : String} {code : Definition}
    (found : StringMap.find? typeName l.definitions = some code) (d : Disk) :
    (l.definition typeName).run.run d = (.ok code, d) := by
  rw [definition, found]
  rfl

theorem configure_run {code : Definition} {operation : String} {ps : Properties}
    (made : code name ps = .ok spec) (d : Disk) :
    (configure code operation name ps).run.run d = (.ok spec, d) := by
  rw [configure, made]
  rfl

/-- A safe name has its directory. -/
theorem directory_run {operation : String} (safe : isSafeName name = true) (d : Disk) :
    (l.directory operation name).run.run d = (.ok (l.root.join name), d) := by
  rw [directory, if_pos safe]
  rfl

/-- The directory of an instance is claimed if nothing stands in its place. -/
theorem claimDirectory_run (opens : d.Opens dir p) (hname : FileName name) :
    (claimDirectory (dir.join name) name).run.run d =
      if d.node? (p ++ [name]) = none then (.ok (), d.put (p ++ [name]) .directory)
      else (.error (.alreadyExists name), d) := by
  rw [claimDirectory, DiskAction.get_bind_run, opens.makeDirectory_run hname]
  by_cases free : d.node? (p ++ [name]) = none
  · rw [if_pos free, if_pos free]
    rfl
  · rw [if_neg free, if_neg free]
    rfl

/-- The places of the directories of parts, below the directory of their instance. -/
def partPlaces (p : Place) (parts : List Specification) : List Place :=
  parts.flatMap fun part => stops p [dataDirectory, part.name]

theorem fileName_dataDirectory : FileName dataDirectory := by decide

theorem fileName_draftSpecFile : FileName draftSpecFile := by decide

theorem fileName_specFile : FileName specFile := by decide

/-- The directories of parts are made where nothing but directories stands. -/
theorem makeParts_run {parts : List Specification} (opens : d.Opens dir p)
    (names : ∀ part ∈ parts, FileName part.name) (clear : ∀ q ∈ partPlaces p parts, d.Clear q) :
    (parts.forM fun part => onDisk (makeDirectories (partDirectory dir part))).run.run d =
      (.ok (), d.ensureAll (partPlaces p parts)) := by
  induction parts generalizing d with
  | nil => rfl
  | cons part rest ih =>
    have hname := names part List.mem_cons_self
    have both : ∀ n ∈ [dataDirectory, part.name], FileName n := by
      simp [fileName_dataDirectory, hname]
    rw [partPlaces, List.flatMap_cons] at clear
    have path : partDirectory dir part = dir.joinAll [dataDirectory, part.name] := rfl
    have made : (makeDirectories (partDirectory dir part)).run d =
        (.ok (), d.ensureAll (stops p [dataDirectory, part.name])) := by
      rw [path]
      exact opens.makeDirectories_run both fun q hq => clear q (List.mem_append_left _ hq)
    have opens' := opens.ensureAll (stops p [dataDirectory, part.name])
    have rest' := ih opens' (fun part hpart => names part (List.mem_cons_of_mem _ hpart))
      fun q hq => clear_ensureAll.2 (clear q (List.mem_append_right _ hq))
    refine (DiskAction.bind_of_ok (onDisk_run made) _).trans ?_
    rw [rest', partPlaces, partPlaces, List.flatMap_cons, ensureAll_append]

/-- The specification is written beside its place and moved there, whether one stood there or not. -/
theorem writeSpecification_run (opens : d.Opens dir p) (free : d.node? (p ++ [draftSpecFile]) = none)
    (noDirectory : d.node? (p ++ [specFile]) ≠ some .directory) :
    (writeSpecification dir spec).run.run d =
      (.ok (), ((d.put (p ++ [draftSpecFile]) (.file (Utf8.encode spec.toJson.indented))).prune
        (p ++ [draftSpecFile])).put (p ++ [specFile]) (.file (Utf8.encode spec.toJson.indented))) := by
  unfold writeSpecification
  generalize Utf8.encode spec.toJson.indented = bytes
  have other : p ++ [draftSpecFile] ≠ p ++ [specFile] := fun same =>
    absurd (append_singleton_inj.1 same) (by decide)
  have written : (writeFile (dir.join draftSpecFile) bytes).run d = _ :=
    opens.writeFile_run fileName_draftSpecFile free
  have opens' := opens.put_missing free (.file bytes)
  have draft : (d.put (p ++ [draftSpecFile]) (.file bytes)).node? (p ++ [draftSpecFile]) =
      some (.file bytes) := node?_put_self (append_singleton_ne_nil _ _)
  have target : (d.put (p ++ [draftSpecFile]) (.file bytes)).node? (p ++ [specFile]) ≠
      some .directory := by
    rwa [node?_put _ _ _ (append_singleton_ne_nil _ _), if_neg other]
  have moved := opens'.moveFile_run fileName_draftSpecFile fileName_specFile draft target
  refine (DiskAction.bind_of_ok (onDisk_run written) _).trans ?_
  exact onDisk_run moved

/-! ### The fresh layout -/

/-- The way from the directory of an instance to that of a part. -/
theorem stops_part {part : Specification} (h : FileName part.name) (p : Place) :
    stops p [dataDirectory, part.name] =
      [p ++ [dataDirectory], p ++ [dataDirectory, part.name]] := by
  simp [stops, fileName_dataDirectory.notUp, h.notUp]

theorem below_of_mem_stops_part {part : Specification} (h : FileName part.name)
    (hq : q ∈ stops p [dataDirectory, part.name]) : p <+: q := by
  simp only [stops_part h, List.mem_cons, List.not_mem_nil, or_false] at hq
  rcases hq with rfl | rfl <;> exact List.prefix_append _ _

theorem below_of_mem_partPlaces {parts : List Specification}
    (names : ∀ part ∈ parts, FileName part.name) (h : q ∈ partPlaces p parts) : p <+: q := by
  obtain ⟨part, hpart, hq⟩ := List.mem_flatMap.1 h
  exact below_of_mem_stops_part (names part hpart) hq

theorem mem_partPlaces (names : ∀ part ∈ spec.parts, FileName part.name) :
    p ++ q ∈ partPlaces p spec.parts ↔
      q = [dataDirectory] ∨ ∃ part ∈ spec.parts, q = [dataDirectory, part.name] := by
  have self : spec ∈ spec.parts := by
    cases spec
    simp [Specification.parts]
  rw [partPlaces, List.mem_flatMap]
  constructor
  · rintro ⟨part, hpart, hq⟩
    have either : q = [dataDirectory] ∨ q = [dataDirectory, part.name] := by
      simpa [stops_part (names part hpart)] using hq
    exact either.imp_right fun hq => ⟨part, hpart, hq⟩
  · rintro (rfl | ⟨part, hpart, rfl⟩)
    · exact ⟨spec, self, by simp [stops_part (names spec self)]⟩
    · exact ⟨part, hpart, by simp [stops_part (names part hpart)]⟩

/-- The disk after the last steps of a create that found nothing in the place of the instance. -/
def laidOut (d : Disk) (p : Place) (spec : Specification) : Disk :=
  let made := (d.put p .directory).ensureAll (partPlaces p spec.parts)
  let bytes := Utf8.encode spec.toJson.indented
  ((made.put (p ++ [draftSpecFile]) (.file bytes)).prune (p ++ [draftSpecFile])).put
    (p ++ [specFile]) (.file bytes)

theorem laidOut_spares (names : ∀ part ∈ spec.parts, FileName part.name) :
    Spares (below p) d (laidOut d p spec) := by
  have inside (file : String) : p <+: p ++ [file] := List.prefix_append _ _
  have made : Spares (below p) d ((d.put p .directory).ensureAll (partPlaces p spec.parts)) :=
    (Spares.put (List.prefix_refl p)).trans
      (.ensureAll fun _ hq => below_of_mem_partPlaces names hq)
  refine made.trans (.trans (.trans (.put (inside _)) (.prune fun q hq => ?_)) (.put (inside _)))
  exact (inside _).trans hq

theorem node?_laidOut (notRoot : p ≠ []) (free : ∀ q, d.node? (p ++ q) = none)
    (names : ∀ part ∈ spec.parts, FileName part.name) (q : Place) :
    (laidOut d p spec).node? (p ++ q) = layout spec q := by
  have notRoot' (q : Place) : p ++ q ≠ [] := fun h => notRoot (List.append_eq_nil_iff.1 h).1
  have made : ((d.put p .directory).ensureAll (partPlaces p spec.parts)).node? (p ++ q) =
      if q = [] ∨ q = [dataDirectory] ∨ ∃ part ∈ spec.parts, q = [dataDirectory, part.name]
      then some .directory else none := by
    rw [node?_ensureAll, node?_put _ _ _ (notRoot' q), free]
    simp only [mem_partPlaces names, List.self_eq_append_right]
    by_cases here : q = [] <;> simp [here]
  have draft_spec : draftSpecFile ≠ specFile := by decide
  have draft_data : draftSpecFile ≠ dataDirectory := by decide
  rw [laidOut, node?_put _ _ _ (notRoot' q), node?_prune _ _ (notRoot' q),
    node?_put _ _ _ (notRoot' q), made]
  simp only [List.append_cancel_left_eq, List.prefix_append_right_inj]
  match q with
  | [] => simp [layout]
  | [file] =>
    by_cases hspec : file = specFile
    · simp [layout, hspec]
    · by_cases hdata : file = dataDirectory
      · subst hdata
        simp [layout, hspec, Ne.symm hspec, draft_data]
      · simp [layout, hspec, hdata, Ne.symm hspec]
  | [parent, part] =>
    have named : (∃ x ∈ spec.parts, part = x.name) ↔ ∃ x ∈ spec.parts, x.name = part := by
      simp only [eq_comm]
    by_cases hdata : parent = dataDirectory
    · simp [layout, hdata, draft_data, named]
    · simp [layout, hdata]
  | first :: second :: third :: rest => simp [layout]

/-- The last steps of a create lay the storage out where nothing stands. -/
theorem layOut_run (opens : d.Opens dir p) (hname : FileName name)
    (names : ∀ part ∈ spec.parts, FileName part.name)
    (free : ∀ q, d.node? (p ++ [name] ++ q) = none) :
    (ExceptT.run (do
      claimDirectory (dir.join name) name
      makePartDirectories (dir.join name) spec
      writeSpecification (dir.join name) spec
      return spec : StorageAction Specification)).run d =
        (.ok spec, laidOut d (p ++ [name]) spec) := by
  have missing : d.node? (p ++ [name]) = none := by simpa using free []
  have claim := claimDirectory_run opens hname
  rw [if_pos missing] at claim
  generalize hclaimed : d.put (p ++ [name]) .directory = claimed at claim
  have node (q : Place) : claimed.node? (p ++ [name] ++ q) =
      if q = [] then some .directory else none := by
    rw [← hclaimed, node?_put _ _ _ (by simp), free]
    simp
  have opensOwn : claimed.Opens (dir.join name) (p ++ [name]) := by
    have opens' := opens.put_missing missing .directory
    rw [hclaimed] at opens'
    exact opens'.join hname (by simpa using node [])
  have clear : ∀ q ∈ partPlaces (p ++ [name]) spec.parts, claimed.Clear q := by
    intro q hq
    obtain ⟨q, rfl⟩ := below_of_mem_partPlaces names hq
    rw [Clear, node]
    by_cases here : q = [] <;> simp [here]
  have parts := makeParts_run opensOwn names clear
  -- neither of the two files is there when the directories of the parts are
  have freeFile (file : String) (other : file ≠ dataDirectory) :
      (claimed.ensureAll (partPlaces (p ++ [name]) spec.parts)).node? (p ++ [name] ++ [file]) =
        none := by
    have notPart : p ++ [name] ++ [file] ∉ partPlaces (p ++ [name]) spec.parts := by
      rw [mem_partPlaces names]
      simp [other]
    rw [node?_ensureAll, if_neg notPart, node]
    simp
  have written : (writeSpecification (dir.join name) spec).run.run _ = _ :=
    writeSpecification_run (opensOwn.ensureAll (partPlaces (p ++ [name]) spec.parts))
      (freeFile draftSpecFile (by decide)) (by rw [freeFile specFile (by decide)]; exact nofun)
  rw [laidOut, hclaimed]
  refine (DiskAction.bind_of_ok claim _).trans ?_
  refine (DiskAction.bind_of_ok parts _).trans ?_
  exact DiskAction.bind_of_ok written _

/-! ### The operations -/

/-- A creation that is not refused, whatever stands on the disk: its type has code, which makes a
specification of the properties, and all the names fit into directories. -/
structure Accepts (l : Local) (c : Creation) (spec : Specification) : Prop where
  made : ∃ code, StringMap.find? c.typeMeta.name l.definitions = some code ∧
    code c.name c.properties = .ok spec
  safe : isSafeName c.name = true
  fits : FileName c.name
  partsFit : ∀ part ∈ spec.parts, FileName part.name

/-- A name under which everything that belongs to an instance of a built-in type can be stored: it is
safe, and there is room for the ending of an embedded table. -/
structure Storable (name : String) : Prop where
  safe : isSafeName name = true
  short : Utf8.size name ≤ 252

instance (name : String) : Decidable (Storable name) :=
  decidable_of_iff (isSafeName name = true ∧ Utf8.size name ≤ 252)
    ⟨fun ⟨safe, short⟩ => ⟨safe, short⟩, fun h => ⟨h.safe, h.short⟩⟩

theorem Storable.fits (h : Storable name) : FileName name :=
  fileName_of_isSafeName h.safe (Nat.le_trans h.short (by decide))

/-- The parts of what the built-in types make have the name of the instance or one with that ending. -/
theorem Storable.partsFit (h : Storable name) {typeName : String} {ps : Properties}
    (makes : Definition.Makes typeName name ps spec) : ∀ part ∈ spec.parts, FileName part.name := by
  intro part hpart
  rcases makes.parts hpart with same | ending
  · exact same ▸ h.fits
  · have size : Utf8.size ("." ++ Definition.embeddedTable) = 3 := by decide
    have short := h.short
    rw [ending, String.append_assoc]
    refine fileName_of_isSafeName (isSafeName_append h.safe rfl) ?_
    rw [Utf8.size_append, size, nameLimit]
    omega

/-- What a built-in type makes for such a name is accepted. -/
theorem accepts_of_builtin (builtin : l.definitions = Definition.builtin) {c : Creation}
    {code : Definition} (found : StringMap.find? c.typeMeta.name Definition.builtin = some code)
    (made : code c.name c.properties = .ok spec) (storable : Storable c.name) :
    l.Accepts c spec :=
  ⟨⟨code, builtin ▸ found, made⟩, storable.safe, storable.fits,
    storable.partsFit (Definition.makes_iff.1 ⟨code, found, made⟩)⟩

variable {c : Creation}

/-- A create that is not refused goes on with the disk that it finds. -/
theorem Accepts.run_eq (accepts : l.Accepts c spec) (d : Disk) :
    (l.create c).run.run d = (ExceptT.run (do
      onDisk (makeDirectories l.root)
      claimDirectory (l.root.join c.name) c.name
      makePartDirectories (l.root.join c.name) spec
      writeSpecification (l.root.join c.name) spec
      return spec : StorageAction Specification)).run d := by
  obtain ⟨code, found, made⟩ := accepts.made
  refine (DiskAction.bind_of_ok (definition_run found d) _).trans ?_
  refine (DiskAction.bind_of_ok (directory_run accepts.safe d) _).trans ?_
  exact DiskAction.bind_of_ok (configure_run made d) _

/-- The data directory is made, and then its path leads there. -/
theorem Provided.run (provided : l.Provided d) (hw : d.workingDirectory = w) :
    (onDisk (makeDirectories l.root)).run.run d = (.ok (), d.ensureAll (d.stopsOf l.root)) ∧
      (d.ensureAll (d.stopsOf l.root)).Opens l.root (placeFrom w l.root) := by
  have makeable := makeDirectories_ok_iff.1 provided.made
  have opens := makeable.opens provided.begins
  rw [placeOf_eq_placeFrom hw] at opens
  exact ⟨onDisk_run makeable.run, opens⟩

/-- Making the data directory puts nothing in the place of an instance that its path passes by. -/
theorem PassesBy.node?_ensureAll (passes : l.PassesBy w name) (hw : d.workingDirectory = w)
    (h : l.home w name <+: q) : (d.ensureAll (d.stopsOf l.root)).node? q = d.node? q := by
  have notStop : q ∉ d.stopsOf l.root := fun hq => passes.not_stop hw hq h
  rw [Disk.node?_ensureAll, if_neg notStop, Option.or_none]

/-- What can be left in the place of an instance: nothing, or a directory with whatever is in it. -/
def Leftover (l : Local) (w : Place) (d : Disk) (name : String) : Prop :=
  (∀ q, l.home w name <+: q → d.node? q = none) ∨ d.node? (l.home w name) = some .directory

/-- In the place of an instance there is its storage as a create lays it out, and nothing else. -/
def Fresh (l : Local) (w : Place) (d : Disk) (name : String) (spec : Specification) : Prop :=
  ∀ q, d.node? (l.home w name ++ q) = layout spec q

/-- A create where nothing stands lays the storage out. -/
theorem Accepts.create_run (accepts : l.Accepts c spec) (provided : l.Provided d)
    (direct : l.Direct w) (hw : d.workingDirectory = w)
    (free : ∀ q, l.home w c.name <+: q → d.node? q = none) :
    ∃ d', l.run (.create c) d = (.ok spec, d') ∧ l.Fresh w d' c.name spec := by
  obtain ⟨root, opens⟩ := provided.run hw
  have free' (q : Place) : (d.ensureAll (d.stopsOf l.root)).node? (l.home w c.name ++ q) = none := by
    have below : l.home w c.name <+: l.home w c.name ++ q := List.prefix_append _ _
    rw [direct.passesBy.node?_ensureAll hw below, free _ below]
  refine ⟨_, ?_, node?_laidOut (by simp [home]) free' accepts.partsFit⟩
  refine (accepts.run_eq d).trans ?_
  refine (DiskAction.bind_of_ok root _).trans ?_
  exact layOut_run opens accepts.fits accepts.partsFit free'

/-- A drop takes away a directory with all it holds, if there is one. -/
theorem drop_run {removal : Removal} (safe : isSafeName removal.spec.name = true)
    (fits : FileName removal.spec.name) (opens : d.Opens l.root (placeFrom w l.root))
    (clear : d.Clear (l.home w removal.spec.name)) :
    l.run (.drop removal) d = (.ok (), if d.node? (l.home w removal.spec.name) = none then d
      else d.prune (l.home w removal.spec.name)) := by
  have removed := opens.removeTreeIfPresent_run fits clear
  refine (DiskAction.bind_of_ok (directory_run safe d) _).trans ?_
  rw [home]
  split
  · next missing =>
    rw [if_pos missing] at removed
    exact DiskAction.bind_of_ok (onDisk_run removed) _
  · next there =>
    rw [if_neg there] at removed
    exact DiskAction.bind_of_ok (onDisk_run removed) _

/-- Where a directory stands a create is refused, a drop removes the directory with all it holds,
and a second create lays the storage out. -/
theorem Accepts.recreate_run (accepts : l.Accepts c spec) (provided : l.Provided d)
    (direct : l.Direct w) (hw : d.workingDirectory = w)
    (there : d.node? (l.home w c.name) = some .directory) {removal : Removal}
    (own : removal.spec.name = c.name) :
    ∃ d₁ d₂ d₃, l.run (.create c) d = (.error (.alreadyExists c.name), d₁) ∧
      l.run (.drop removal) d₁ = (.ok (), d₂) ∧
      l.run (.create c) d₂ = (.ok spec, d₃) ∧ l.Fresh w d₃ c.name spec := by
  obtain ⟨root, opens⟩ := provided.run hw
  have made : Changes (fun _ => False) d (d.ensureAll (d.stopsOf l.root)) :=
    stays_makeDirectories l.root d _ _ hw (makeDirectories_ok_iff.1 provided.made).run
  generalize d.ensureAll (d.stopsOf l.root) = d₁ at root opens made
  have there₁ : d₁.node? (l.home w c.name) = some .directory := made.keeps not_false there
  have refused : l.run (.create c) d = (.error (.alreadyExists c.name), d₁) := by
    have taken : ¬ d₁.node? (l.home w c.name) = none := by simp [there₁]
    have claim := claimDirectory_run opens accepts.fits
    rw [← home, if_neg taken] at claim
    refine (accepts.run_eq d).trans ?_
    refine (DiskAction.bind_of_ok root _).trans ?_
    exact DiskAction.bind_of_error claim _
  have dropped : l.run (.drop removal) d₁ = (.ok (), d₁.prune (l.home w c.name)) := by
    rw [← own] at there₁ ⊢
    have run := drop_run (own ▸ accepts.safe) (own ▸ accepts.fits) opens (.inr there₁)
    rwa [there₁, if_neg (Option.some_ne_none _)] at run
  have pruned : Changes (below (l.home w c.name)) d₁ (d₁.prune (l.home w c.name)) :=
    .prune fun _ hq => hq
  have both := (made.mono fun _ no => no.elim).trans pruned
  have free : ∀ q, l.home w c.name <+: q → (d₁.prune (l.home w c.name)).node? q = none := by
    intro q below
    have notRoot : q ≠ [] := by
      rintro rfl
      simp [home] at below
    rw [node?_prune _ _ notRoot, if_pos below]
  obtain ⟨d₃, created, fresh⟩ := accepts.create_run (provided.of_changes direct hw both) direct
    (both.workingDirectory.trans hw) free
  exact ⟨d₁, _, d₃, refused, dropped, created, fresh⟩

end Storage.Local

end DatasetCatalog
