import DatasetCatalog.Proofs.Disk.Change
import DatasetCatalog.Proofs.Storage.Definition
import DatasetCatalog.Storage.Local

/-!
# What requests do in a data directory

Every instance has its place in the data directory, and a request changes nothing beyond the place of
its own instance, apart from directories that it makes on the way. For each operation there is one
lemma that says of all its runs, failed ones included, what it may have changed and what has become
of the stored specification. The latter is replaced as a whole or not at all, because it is written
beside its place first.

A truncation follows the part names of the stored specification without a check, so these have to be
names. All operations keep it so (`Clean`), because they store only what the code of the built-in types
makes. And what is stored can be read as long as the path of the data directory does not lead through
the data directory itself (`Direct`), where removing an instance could cut it.
-/

namespace DatasetCatalog.Storage.Local

open Disk

variable {l : Local} {w : Place} {d d' : Disk} {name other : String}

/-! ### Places -/

theorem component_specFile : Component specFile := by decide

theorem component_draftSpecFile : Component draftSpecFile := by decide

theorem component_dataDirectory : Component dataDirectory := by decide

theorem placeFrom_join (h : Component name) (path : Path) :
    placeFrom w (path.join name) = placeFrom w path ++ [name] := by
  have at_ : (Disk.mk [] w).workingDirectory = w := rfl
  rw [← placeOf_eq_placeFrom at_, ← placeOf_eq_placeFrom at_, placeOf_join h]

/-- The place of an instance. -/
def home (l : Local) (w : Place) (name : String) : Place := placeFrom w l.root ++ [name]

/-- The path of the file that holds the specification of an instance. -/
def specPath (l : Local) (name : String) : Path := (l.root.join name).join specFile

/-- The place of that file. -/
def specPlace (l : Local) (w : Place) (name : String) : Place := l.home w name ++ [specFile]

/-- What stands in the place of an instance, but for the file that holds its specification. -/
def beside (l : Local) (w : Place) (name : String) : Place → Prop :=
  fun p => ∃ file, file ≠ specFile ∧ l.home w name ++ [file] <+: p

theorem placeFrom_specPath (h : Component name) :
    placeFrom w (l.specPath name) = l.specPlace w name := by
  rw [specPath, placeFrom_join component_specFile, placeFrom_join h, specPlace, home]

/-- What stands in the place of an instance. -/
def within (l : Local) (w : Place) (name : String) : Place → Prop :=
  fun p => ∃ file, l.home w name ++ [file] <+: p

theorem within_of_beside {p : Place} (h : l.beside w name p) : l.within w name p := by
  obtain ⟨file, -, hp⟩ := h
  exact ⟨file, hp⟩

theorem below_of_within {p : Place} (h : l.within w name p) : below (l.home w name) p := by
  obtain ⟨file, hp⟩ := h
  exact (List.prefix_append _ _).trans hp

/-- Two places of one length that lead to one place are the same. -/
theorem eq_of_prefixes {start start' p : Place} {a b : String} (ha : start ++ [a] <+: p)
    (hb : start' ++ [b] <+: p) (lengths : start.length = start'.length) : a = b := by
  have same : start ++ [a] = start' ++ [b] :=
    (List.prefix_of_prefix_length_le ha hb (by simp [lengths])).eq_of_length (by simp [lengths])
  exact (List.cons.inj (List.append_inj same lengths).2).1

theorem not_beside_specPlace : ¬ l.beside w name (l.specPlace w name) := by
  rintro ⟨file, hne, hp⟩
  exact hne (eq_of_prefixes hp (List.prefix_refl _) rfl)

theorem not_within_home : ¬ l.within w name (l.home w name) := by
  rintro ⟨file, hp⟩
  have shorter := hp.length_le
  rw [List.length_append, List.length_singleton] at shorter
  omega

theorem not_beside_home : ¬ l.beside w name (l.home w name) :=
  fun h => not_within_home (within_of_beside h)

/-- Places of different instances lie apart. -/
theorem not_below_home {p : Place} (h : name ≠ other) (hp : l.home w name <+: p) :
    ¬ l.home w other <+: p := fun hother => h (eq_of_prefixes hp hother rfl)

/-- The path of the data directory does not lead through the place of an instance. -/
def Direct (l : Local) (w : Place) : Prop :=
  ∀ p name, (Disk.mk [] w).Crosses l.root p → ¬ l.home w name <+: p

/-- A path without steps up is direct. -/
theorem direct_of_no_up (h : ".." ∉ l.root.names) : l.Direct w := by
  rintro p name ⟨k, hk, rfl⟩ hbelow
  have shorter := hbelow.length_le
  have down : ".." ∉ l.root.names.take k := fun hin => h (List.mem_of_mem_take hin)
  rw [home, placeFrom, spelled_eq_append _ h, spelled_eq_append _ down] at shorter
  simp only [List.length_append, List.length_take, List.length_singleton, origin] at shorter
  omega

/-- The path of the data directory does not lead through the place of a certain instance. -/
def PassesBy (l : Local) (w : Place) (name : String) : Prop :=
  ∀ p, (Disk.mk [] w).Crosses l.root p → ¬ l.home w name <+: p

theorem Direct.passesBy (direct : l.Direct w) : l.PassesBy w name := fun p => direct p name

theorem not_home_prefix_root {m : String} : ¬ l.home w m <+: placeFrom w l.root := by
  intro longer
  have lengths := longer.length_le
  rw [home, List.length_append, List.length_singleton] at lengths
  omega

/-- The way into the place of an instance does not lead through anything that stands there. -/
theorem not_within_of_crosses (passes : l.PassesBy w name) (hw : d.workingDirectory = w)
    (h : Component name) {file : String} (hfile : Component file) {p : Place}
    (hp : d.Crosses ((l.root.join name).join file) p) : ¬ l.within w name p := by
  have inHome {q : Place} (hq : l.within w name q) : l.home w name <+: q := below_of_within hq
  rcases crosses_join hfile hp with inner | rfl
  · rcases crosses_join h inner with outer | rfl
    -- before the data directory, the data directory itself, and the place of the instance
    · exact fun hq => passes p (crosses_of_workingDirectory hw outer) (inHome hq)
    · rw [placeOf_eq_placeFrom hw]
      exact fun hq => not_home_prefix_root (inHome hq)
  · rw [placeOf_join h, placeOf_eq_placeFrom hw]
    exact not_within_home

/-- The way to a specification does not lead through other instances, nor through anything that
stands in its own one. -/
theorem crosses_specPath (direct : l.Direct w) (hw : d.workingDirectory = w) (h : Component name)
    {p : Place} (hp : d.Crosses (l.specPath name) p) :
    (∀ m, l.home w m <+: p → m = name) ∧ ∀ file, ¬ l.home w name ++ [file] <+: p := by
  have outside := not_within_of_crosses direct.passesBy hw h component_specFile hp
  refine ⟨fun m hm => ?_, fun file hfile => outside ⟨file, hfile⟩⟩
  rcases crosses_join component_specFile hp with inner | rfl
  · rcases crosses_join h inner with outer | rfl
    · exact absurd hm (direct p m (crosses_of_workingDirectory hw outer))
    · rw [placeOf_eq_placeFrom hw] at hm
      exact absurd hm not_home_prefix_root
  · rw [placeOf_join h, placeOf_eq_placeFrom hw] at hm
    by_contra hne
    exact not_below_home hne hm (List.prefix_refl _)

/-! ### Stored specifications -/

/-- A specification is stored for an instance. -/
def Stored (l : Local) (d : Disk) (name : String) (spec : Specification) : Prop :=
  ∃ bytes, d.content (l.specPath name) = .ok bytes ∧
    Json.decode Specification.reader bytes = .ok spec

/-- What is read for an instance stands in its place. -/
theorem Stored.written {spec : Specification} (stored : l.Stored d name spec)
    (hw : d.workingDirectory = w) (h : Component name) :
    ∃ bytes, d.node? (l.specPlace w name) = some (.file bytes) ∧
      Json.decode Specification.reader bytes = .ok spec := by
  obtain ⟨bytes, read, decoded⟩ := stored
  obtain ⟨p, hp, there⟩ := content_eq_ok.1 read
  rw [eq_placeOf_of_locate hp, placeOf_eq_placeFrom hw, placeFrom_specPath h] at there
  exact ⟨bytes, there, decoded⟩

/-- There is storage of an instance, with a specification. It stands in the place of the instance,
and it can be read if the path of the data directory is direct. -/
structure Holds (l : Local) (w : Place) (d : Disk) (name : String) (spec : Specification) : Prop where
  written : ∃ bytes, d.node? (l.specPlace w name) = some (.file bytes) ∧
    Json.decode Specification.reader bytes = .ok spec
  readable : l.Direct w → l.Stored d name spec

/-- What happens in the place of another instance leaves the storage of an instance. -/
theorem Holds.of_other {spec : Specification} (holds : l.Holds w d name spec)
    (hw : d.workingDirectory = w) (h : Component name) (hne : name ≠ other)
    (changes : Changes (below (l.home w other)) d d') : l.Holds w d' name spec := by
  have apart : ¬ below (l.home w other) (l.specPlace w name) :=
    not_below_home hne (List.prefix_append _ _)
  constructor
  · obtain ⟨bytes, there, decoded⟩ := holds.written
    exact ⟨bytes, changes.keeps apart there, decoded⟩
  · intro direct
    obtain ⟨bytes, read, decoded⟩ := holds.readable direct
    refine ⟨bytes, changes.content ?_ ?_ read, decoded⟩
    · intro p hp hbelow
      exact hne ((crosses_specPath direct hw h hp).1 other hbelow).symm
    · rw [placeOf_eq_placeFrom hw, placeFrom_specPath h]
      exact apart

/-- What happens beside its specification leaves the storage of an instance. -/
theorem Holds.of_beside {spec : Specification} (holds : l.Holds w d name spec)
    (hw : d.workingDirectory = w) (h : Component name)
    (changes : Changes (l.beside w name) d d') : l.Holds w d' name spec := by
  constructor
  · obtain ⟨bytes, there, decoded⟩ := holds.written
    exact ⟨bytes, changes.keeps not_beside_specPlace there, decoded⟩
  · intro direct
    obtain ⟨bytes, read, decoded⟩ := holds.readable direct
    refine ⟨bytes, changes.content ?_ ?_ read, decoded⟩
    · rintro p hp ⟨file, -, hfile⟩
      exact (crosses_specPath direct hw h hp).2 file hfile
    · rw [placeOf_eq_placeFrom hw, placeFrom_specPath h]
      exact not_beside_specPlace

/-! ### Parts of the operations -/

section Parts

variable {operation : String} {dir : Path} {spec : Specification}

theorem directory_inv {r : Except StorageError Path}
    (h : (ExceptT.run (l.directory operation name)).run d = (r, d')) :
    d' = d ∧ (r = .ok (l.root.join name) ∧ isSafeName name = true ∨ ∃ e, r = .error e) := by
  unfold directory at h
  split at h
  · next safe =>
    obtain ⟨rfl, rfl⟩ := DiskAction.pure_inv h
    exact ⟨rfl, .inl ⟨rfl, safe⟩⟩
  · obtain ⟨rfl, rfl⟩ := DiskAction.throw_inv h
    exact ⟨rfl, .inr ⟨_, rfl⟩⟩

theorem definition_inv {typeName : String} {r : Except StorageError Definition}
    (h : (ExceptT.run (l.definition typeName)).run d = (r, d')) :
    d' = d ∧ ∀ code, r = .ok code → StringMap.find? typeName l.definitions = some code := by
  unfold definition at h
  split at h
  · next code found =>
    obtain ⟨rfl, rfl⟩ := DiskAction.pure_inv h
    refine ⟨rfl, ?_⟩
    rintro _ ⟨⟩
    exact found
  · obtain ⟨rfl, rfl⟩ := DiskAction.throw_inv h
    exact ⟨rfl, nofun⟩

theorem configure_inv {code : Definition} {ps : Properties} {r : Except StorageError Specification}
    (h : (ExceptT.run (configure code operation name ps)).run d = (r, d')) :
    d' = d ∧ ∀ spec, r = .ok spec → code name ps = .ok spec := by
  unfold configure at h
  split at h
  · next spec made =>
    obtain ⟨rfl, rfl⟩ := DiskAction.pure_inv h
    refine ⟨rfl, ?_⟩
    rintro _ ⟨⟩
    exact made
  · obtain ⟨rfl, rfl⟩ := DiskAction.throw_inv h
    exact ⟨rfl, nofun⟩

theorem stays_makePartDirectories {area : Place → Prop} (dir : Path) (spec : Specification) :
    Stays w area (makePartDirectories dir spec) :=
  .forM fun _ _ => .adapt (stays_makeDirectories _)

theorem stays_claimDirectory {area : Place → Prop} (dir : Path) (name : String) :
    Stays w area (claimDirectory dir name) := by
  refine .get_bind fun d r d' hw h => ?_
  rcases hmake : (makeDirectory dir).run d with ⟨made, d₁⟩
  rw [hmake] at h
  cases made with
  | ok u =>
    cases h
    exact stays_makeDirectory dir d _ _ hw hmake
  | error e =>
    cases e <;>
    · cases h
      exact .refl _ _

/-- Reading a specification changes nothing, and it is the stored one. -/
theorem readSpecification_inv {r : Except StorageError Specification}
    (h : (ExceptT.run (l.readSpecification operation name)).run d = (r, d')) :
    d' = d ∧ ∀ spec, r = .ok spec → isSafeName name = true ∧ l.Stored d name spec := by
  rcases DiskAction.bind_inv h with ⟨dir, d₁, hdir, h⟩ | ⟨e, hdir, rfl⟩
  case inr => exact ⟨(directory_inv hdir).1, nofun⟩
  obtain ⟨rfl, ⟨hok, safe⟩ | ⟨e, herror⟩⟩ := directory_inv hdir
  case inr => cases herror
  cases hok
  rcases DiskAction.bind_inv h with ⟨found, d₁, hread, h⟩ | ⟨e, hread, rfl⟩
  · obtain ⟨r₁, hrun, hr⟩ := DiskAction.adapt_inv hread
    obtain ⟨hlook, rfl⟩ := FileAction.look_inv hrun
    cases found with
    | none =>
      obtain ⟨rfl, rfl⟩ := DiskAction.throw_inv h
      exact ⟨rfl, nofun⟩
    | some bytes =>
      have read : d₁.content (l.specPath name) = .ok bytes := by
        cases r₁ with
        | error e => cases hr
        | ok a =>
          cases hr
          rw [specPath]
          split at hlook
          · next content heq =>
            cases hlook
            exact heq
          · cases hlook
          · cases hlook
      dsimp only at h
      split at h
      · next spec decoded =>
        obtain ⟨rfl, rfl⟩ := DiskAction.pure_inv h
        refine ⟨rfl, ?_⟩
        rintro _ ⟨⟩
        exact ⟨safe, bytes, read, decoded⟩
      · obtain ⟨rfl, rfl⟩ := DiskAction.throw_inv h
        exact ⟨rfl, nofun⟩
  · obtain ⟨r₁, hrun, -⟩ := DiskAction.adapt_inv hread
    exact ⟨(FileAction.look_inv hrun).2, nofun⟩

/-- The stored specification is replaced as a whole, in the directory of the instance, or there are
only changes beside it. -/
theorem writeSpecification_inv (hw : d.workingDirectory = w) (hname : Component name)
    {r : Except StorageError Unit}
    (h : (ExceptT.run (writeSpecification (l.root.join name) spec)).run d = (r, d')) :
    (∃ e, r = .error e) ∧ Changes (l.beside w name) d d' ∨
      r = .ok () ∧ Changes (below (l.home w name)) d d' ∧
        d'.node? (l.home w name) = some .directory ∧
        d'.node? (l.specPlace w name) = some (.file (Utf8.encode spec.toJson.indented)) ∧
        (l.Direct w → d'.content (l.specPath name) = .ok (Utf8.encode spec.toJson.indented)) := by
  let draft := (l.root.join name).join draftSpecFile
  have draftPlace : placeFrom w draft = l.home w name ++ [draftSpecFile] := by
    rw [placeFrom_join component_draftSpecFile, placeFrom_join hname, home]
  have other : draftSpecFile ≠ specFile := by decide
  have draftBeside : ∀ p, placeFrom w draft <+: p → l.beside w name p := by
    intro p hp
    exact ⟨draftSpecFile, other, draftPlace ▸ hp⟩
  have writing : Stays w (l.beside w name)
      (onDisk (writeFile draft (Utf8.encode spec.toJson.indented))) :=
    .adapt (stays_writeFile (draftBeside _ (List.prefix_refl _)))
  rcases DiskAction.bind_inv h with ⟨u, d₁, hwrite, hmove⟩ | ⟨e, hwrite, rfl⟩
  case inr => exact .inl ⟨⟨e, rfl⟩, writing d _ d' hw hwrite⟩
  have written := writing d _ d₁ hw hwrite
  have hw₁ : d₁.workingDirectory = w := written.workingDirectory.trans hw
  obtain ⟨r₁, hrun, rfl⟩ := DiskAction.adapt_inv hmove
  rcases FileAction.change_inv hrun with ⟨rfl, -⟩ | ⟨e, rfl, -, rfl⟩
  case inr => exact .inl ⟨⟨_, rfl⟩, written⟩
  have target : placeFrom w ((l.root.join name).join specFile) = l.specPlace w name :=
    placeFrom_specPath hname
  have moving : Changes (l.within w name) d₁ d' := by
    refine stays_moveFile ?_ ?_ d₁ _ d' hw₁ hrun
    · exact fun p hp => within_of_beside (draftBeside p hp)
    · exact ⟨specFile, target ▸ List.prefix_refl _⟩
  -- the file that is moved is the one that was written
  obtain ⟨r₂, hdraft, hr₂⟩ := DiskAction.adapt_inv hwrite
  obtain rfl : r₂ = .ok () := by
    cases r₂ with
    | ok u => rfl
    | error e => cases hr₂
  rw [← placeOf_eq_placeFrom hw₁] at target
  rw [← placeOf_eq_placeFrom hw] at draftPlace
  obtain ⟨ht, found⟩ := written_then_moved hdraft hrun
    (by rw [draftPlace]; simp) (by rw [target]; simp [specPlace])
  rw [target] at ht found
  have placed : d₁.node? (l.home w name) = some .directory := by
    have crossed := directory_of_crosses ht (crosses_placeOf component_specFile (l.root.join name))
    rwa [placeOf_join hname, placeOf_eq_placeFrom hw₁, ← home] at crossed
  refine .inr ⟨rfl, ?_, moving.keeps not_within_home placed, found,
    fun direct => content_eq_ok.2 ⟨_, ?_, found⟩⟩
  · exact (written.mono fun p hp => below_of_within (within_of_beside hp)).trans
      (moving.mono fun p => below_of_within)
  · refine moving.locate ?_ ht
    rintro q hq ⟨file, hfile⟩
    exact (crosses_specPath direct hw₁ hname hq).2 file hfile

end Parts

/-! ### The operations -/

/-- There is storage of an instance with what the code of a built-in type makes for it. -/
structure Settled (l : Local) (w : Place) (d : Disk) (name : String) (spec : Specification) : Prop
    extends l.Holds w d name spec where
  placed : d.node? (l.home w name) = some .directory
  safe : isSafeName name = true
  made : ∃ ps, Definition.Makes spec.typeName name ps spec

theorem Settled.of_other {spec : Specification} (settled : l.Settled w d name spec)
    (hw : d.workingDirectory = w) (hne : name ≠ other)
    (changes : Changes (below (l.home w other)) d d') : l.Settled w d' name spec :=
  ⟨settled.toHolds.of_other hw (component_of_isSafeName settled.safe) hne changes,
    changes.keeps (not_below_home hne (List.prefix_refl _)) settled.placed, settled.safe,
    settled.made⟩

theorem Settled.of_beside {spec : Specification} (settled : l.Settled w d name spec)
    (hw : d.workingDirectory = w) (changes : Changes (l.beside w name) d d') :
    l.Settled w d' name spec :=
  ⟨settled.toHolds.of_beside hw (component_of_isSafeName settled.safe) changes,
    changes.keeps not_beside_home settled.placed, settled.safe, settled.made⟩

theorem settled_of_write (hw : d.workingDirectory = w) (safe : isSafeName name = true)
    {typeName : String} {ps : Properties} {spec : Specification}
    (made : Definition.Makes typeName name ps spec) {r : Except StorageError Unit}
    (h : (ExceptT.run (writeSpecification (l.root.join name) spec)).run d = (r, d')) :
    (∃ e, r = .error e) ∧ Changes (l.beside w name) d d' ∨
      r = .ok () ∧ Changes (below (l.home w name)) d d' ∧ l.Settled w d' name spec := by
  rcases writeSpecification_inv hw (component_of_isSafeName safe) h with
    failed | ⟨rfl, changes, placed, there, read⟩
  · exact .inl failed
  · have holds : l.Holds w d' name spec :=
      ⟨⟨_, there, made.decode⟩, fun direct => ⟨_, read direct, made.decode⟩⟩
    exact .inr ⟨rfl, changes, holds, placed, safe, ps, made.named.2 ▸ made⟩

theorem makes_of_code {code : Definition} {typeName : String} {ps : Properties}
    {spec : Specification} (builtin : l.definitions = Definition.builtin)
    (found : StringMap.find? typeName l.definitions = some code)
    (made : code name ps = .ok spec) : Definition.Makes typeName name ps spec := by
  rw [builtin] at found
  exact Definition.makes_iff.1 ⟨code, found, made⟩

/-- The directory of an instance is claimed only if there is a way to its place and nothing stands
there. -/
theorem claimDirectory_inv (hw : d.workingDirectory = w) (hname : Component name)
    (h : (ExceptT.run (claimDirectory (l.root.join name) name)).run d = (.ok (), d')) :
    (∃ p, d.locate (l.root.join name) = .ok p) ∧ d.node? (l.home w name) = none := by
  rw [claimDirectory, DiskAction.get_bind_run] at h
  rcases hmake : (makeDirectory (l.root.join name)).run d with ⟨made, d₁⟩
  rw [hmake] at h
  cases made with
  | error e => cases e <;> cases h
  | ok u =>
    rcases FileAction.change_inv hmake with ⟨-, changed⟩ | ⟨e, herror, -⟩
    · obtain ⟨p, located, claimed⟩ := ok_bind_eq_ok changed
      rw [eq_placeOf_of_locate located, placeOf_eq_placeFrom hw, placeFrom_join hname,
        ← home] at claimed
      unfold directoryAt at claimed
      split at claimed
      · cases claimed
      · next free => exact ⟨⟨p, located⟩, free⟩
    · cases herror

/-- A create that fails leaves at most directories. One that succeeds has found nothing in the place of
the instance and stored what it answers. -/
theorem create_inv (builtin : l.definitions = Definition.builtin) (hw : d.workingDirectory = w)
    {c : Creation} {r : Except StorageError Specification}
    (h : (ExceptT.run (l.create c)).run d = (r, d')) :
    (∃ e, r = .error e) ∧ Changes (l.beside w c.name) d d' ∨
      ∃ spec, r = .ok spec ∧ Definition.Makes c.typeMeta.name c.name c.properties spec ∧
        Changes (below (l.home w c.name)) d d' ∧ l.Settled w d' c.name spec ∧
        d.node? (l.home w c.name) = none := by
  rcases DiskAction.bind_inv h with ⟨code, d₁, hcode, h₁⟩ | ⟨e, hcode, rfl⟩
  case inr =>
    obtain ⟨rfl, -⟩ := definition_inv hcode
    exact .inl ⟨⟨e, rfl⟩, .refl _ _⟩
  obtain ⟨rfl, found⟩ := definition_inv hcode
  rcases DiskAction.bind_inv h₁ with ⟨dir, d₂, hdir, h₂⟩ | ⟨e, hdir, rfl⟩
  case inr =>
    obtain ⟨rfl, -⟩ := directory_inv hdir
    exact .inl ⟨⟨e, rfl⟩, .refl _ _⟩
  obtain ⟨rfl, ⟨hok, safe⟩ | ⟨e, herror⟩⟩ := directory_inv hdir
  case inr => cases herror
  cases hok
  rcases DiskAction.bind_inv h₂ with ⟨spec, d₃, hspec, h₃⟩ | ⟨e, hspec, rfl⟩
  case inr =>
    obtain ⟨rfl, -⟩ := configure_inv hspec
    exact .inl ⟨⟨e, rfl⟩, .refl _ _⟩
  obtain ⟨rfl, made⟩ := configure_inv hspec
  have makes := makes_of_code builtin (found code rfl) (made spec rfl)
  -- up to here nothing has changed; the next three steps make directories only
  rcases DiskAction.bind_inv h₃ with ⟨u₁, d₄, hroot, h₄⟩ | ⟨e, hroot, rfl⟩
  case inr => exact .inl ⟨⟨e, rfl⟩, Stays.adapt (stays_makeDirectories _) _ _ _ hw hroot⟩
  have first : Changes (l.beside w c.name) d₃ d₄ :=
    Stays.adapt (stays_makeDirectories _) _ _ _ hw hroot
  have hw₄ := first.workingDirectory.trans hw
  rcases DiskAction.bind_inv h₄ with ⟨u₂, d₅, hclaim, h₅⟩ | ⟨e, hclaim, rfl⟩
  case inr => exact .inl ⟨⟨e, rfl⟩, first.trans (stays_claimDirectory _ _ _ _ _ hw₄ hclaim)⟩
  have second : Changes (l.beside w c.name) d₃ d₅ :=
    first.trans (stays_claimDirectory _ _ _ _ _ hw₄ hclaim)
  have hw₅ := second.workingDirectory.trans hw
  rcases DiskAction.bind_inv h₅ with ⟨u₃, d₆, hparts, h₆⟩ | ⟨e, hparts, rfl⟩
  case inr => exact .inl ⟨⟨e, rfl⟩, second.trans (stays_makePartDirectories _ _ _ _ _ hw₅ hparts)⟩
  have third : Changes (l.beside w c.name) d₃ d₆ :=
    second.trans (stays_makePartDirectories _ _ _ _ _ hw₅ hparts)
  have hw₆ := third.workingDirectory.trans hw
  rcases DiskAction.bind_inv h₆ with ⟨u₄, d₇, hwrite, h₇⟩ | ⟨e, hwrite, rfl⟩
  · rcases settled_of_write hw₆ safe makes hwrite with
      ⟨⟨e, herror⟩, -⟩ | ⟨-, changes, settled⟩
    · cases herror
    · obtain ⟨rfl, rfl⟩ := DiskAction.pure_inv h₇
      have before := third.mono fun p hp => below_of_within (within_of_beside hp)
      have free := (claimDirectory_inv hw₄ (component_of_isSafeName safe) hclaim).2
      exact .inr ⟨spec, rfl, makes, before.trans changes, settled,
        first.missing_before not_beside_home free⟩
  · rcases settled_of_write hw₆ safe makes hwrite with ⟨-, changes⟩ | ⟨hok, -⟩
    · exact .inl ⟨⟨e, rfl⟩, third.trans changes⟩
    · cases hok

/-- Where there is storage, a create is refused and leaves it. -/
theorem Settled.of_create {spec : Specification} {c : Creation}
    (settled : l.Settled w d c.name spec) (builtin : l.definitions = Definition.builtin)
    (hw : d.workingDirectory = w) {r : Except StorageError Specification}
    (h : (ExceptT.run (l.create c)).run d = (r, d')) :
    (∃ e, r = .error e) ∧ l.Settled w d' c.name spec := by
  rcases create_inv builtin hw h with ⟨failed, changes⟩ | ⟨made, -, -, -, -, free⟩
  · exact ⟨failed, settled.of_beside hw changes⟩
  · rw [settled.placed] at free
    cases free

/-- A drop takes the whole place of the instance away, or changes nothing. -/
theorem drop_inv (hw : d.workingDirectory = w) {removal : Removal} {r : Except StorageError Unit}
    (h : (ExceptT.run (l.drop removal)).run d = (r, d')) :
    d' = d ∨ d' = d.prune (l.home w removal.spec.name) := by
  rcases DiskAction.bind_inv h with ⟨dir, d₁, hdir, h₁⟩ | ⟨e, hdir, rfl⟩
  case inr => exact .inl (directory_inv hdir).1
  obtain ⟨rfl, ⟨hok, safe⟩ | ⟨e, herror⟩⟩ := directory_inv hdir
  case inr => cases herror
  cases hok
  have removed : ∀ {r₁ d₂}, (ExceptT.run (onDisk (removeTreeIfPresent
      (l.root.join removal.spec.name)))).run d₁ = (r₁, d₂) →
      d₂ = d₁ ∨ d₂ = d₁.prune (l.home w removal.spec.name) := by
    intro r₁ d₂ hrun
    obtain ⟨r₂, hrun, -⟩ := DiskAction.adapt_inv hrun
    rcases removeTreeIfPresent_inv hrun with rfl | rfl
    · exact .inl rfl
    · rw [placeOf_eq_placeFrom hw, placeFrom_join (component_of_isSafeName safe)]
      exact .inr rfl
  rcases DiskAction.bind_inv h₁ with ⟨there, d₂, hremove, h₂⟩ | ⟨e, hremove, -⟩
  · obtain ⟨-, rfl⟩ := DiskAction.pure_inv h₂
    exact removed hremove
  · exact removed hremove

/-- All parts of a specification have safe names. -/
def SafeParts (spec : Specification) : Prop := ∀ part ∈ spec.parts, isSafeName part.name = true

theorem stays_clearPart {part : Specification} (hname : Component name)
    (safe : isSafeName part.name = true) :
    Stays w (l.beside w name) (clearPart (l.root.join name) part) := by
  have other : dataDirectory ≠ specFile := by decide
  have place : placeFrom w (partDirectory (l.root.join name) part) =
      l.home w name ++ [dataDirectory] ++ [part.name] := by
    rw [partDirectory, placeFrom_join (component_of_isSafeName safe),
      placeFrom_join component_dataDirectory, placeFrom_join hname, home]
  refine .bind (.discard (.adapt (stays_removeTreeIfPresent fun p hp => ?_))) fun _ =>
    .adapt (stays_makeDirectories _)
  rw [place] at hp
  exact ⟨dataDirectory, other, (List.prefix_append _ _).trans hp⟩

/-- A truncation stays beside the specification, if the parts in it have safe names. -/
theorem truncate_inv (hw : d.workingDirectory = w)
    (clean : isSafeName name = true → ∀ spec, l.Stored d name spec → SafeParts spec)
    {r : Except StorageError Unit}
    (h : (ExceptT.run (l.truncate name)).run d = (r, d')) : Changes (l.beside w name) d d' := by
  rcases DiskAction.bind_inv h with ⟨spec, d₁, hread, h₁⟩ | ⟨e, hread, rfl⟩
  case inr =>
    obtain ⟨rfl, -⟩ := readSpecification_inv hread
    exact .refl _ _
  obtain ⟨rfl, read⟩ := readSpecification_inv hread
  obtain ⟨safe, stored⟩ := read spec rfl
  rcases DiskAction.bind_inv h₁ with ⟨dir, d₂, hdir, h₂⟩ | ⟨e, hdir, rfl⟩
  case inr =>
    obtain ⟨rfl, -⟩ := directory_inv hdir
    exact .refl _ _
  obtain ⟨rfl, ⟨hok, -⟩ | ⟨e, herror⟩⟩ := directory_inv hdir
  case inr => cases herror
  cases hok
  refine Stays.forM (fun part hpart => ?_) d₂ r d' hw h₂
  exact stays_clearPart (component_of_isSafeName safe) (clean safe spec stored part hpart)

/-- An upgrade that fails leaves the stored specification. One that succeeds has stored what the code
of its type makes of it. -/
theorem upgrade_inv (builtin : l.definitions = Definition.builtin) (hw : d.workingDirectory = w)
    {r : Except StorageError Unit} (h : (ExceptT.run (l.upgrade name)).run d = (r, d')) :
    (∃ e, r = .error e) ∧ Changes (l.beside w name) d d' ∨
      ∃ old spec, r = .ok () ∧ Changes (below (l.home w name)) d d' ∧ l.Stored d name old ∧
        Definition.Makes old.typeName name old.properties spec ∧ l.Settled w d' name spec := by
  rcases DiskAction.bind_inv h with ⟨old, d₁, hread, h₁⟩ | ⟨e, hread, rfl⟩
  case inr =>
    obtain ⟨rfl, -⟩ := readSpecification_inv hread
    exact .inl ⟨⟨e, rfl⟩, .refl _ _⟩
  obtain ⟨rfl, read⟩ := readSpecification_inv hread
  obtain ⟨safe, stored⟩ := read old rfl
  rcases DiskAction.bind_inv h₁ with ⟨code, d₂, hcode, h₂⟩ | ⟨e, hcode, rfl⟩
  case inr =>
    obtain ⟨rfl, -⟩ := definition_inv hcode
    exact .inl ⟨⟨e, rfl⟩, .refl _ _⟩
  obtain ⟨rfl, found⟩ := definition_inv hcode
  rcases DiskAction.bind_inv h₂ with ⟨spec, d₃, hspec, h₃⟩ | ⟨e, hspec, rfl⟩
  case inr =>
    obtain ⟨rfl, -⟩ := configure_inv hspec
    exact .inl ⟨⟨e, rfl⟩, .refl _ _⟩
  obtain ⟨rfl, made⟩ := configure_inv hspec
  have makes := makes_of_code builtin (found code rfl) (made spec rfl)
  -- up to here nothing has changed
  rcases DiskAction.bind_inv h₃ with ⟨dir, d₄, hdir, h₄⟩ | ⟨e, hdir, rfl⟩
  case inr =>
    obtain ⟨rfl, -⟩ := directory_inv hdir
    exact .inl ⟨⟨e, rfl⟩, .refl _ _⟩
  obtain ⟨rfl, ⟨hok, -⟩ | ⟨e, herror⟩⟩ := directory_inv hdir
  case inr => cases herror
  cases hok
  rcases DiskAction.bind_inv h₄ with ⟨u, d₅, hparts, h₅⟩ | ⟨e, hparts, rfl⟩
  case inr => exact .inl ⟨⟨e, rfl⟩, stays_makePartDirectories _ _ _ _ _ hw hparts⟩
  have first : Changes (l.beside w name) d₄ d₅ := stays_makePartDirectories _ _ _ _ _ hw hparts
  have hw₅ := first.workingDirectory.trans hw
  rcases settled_of_write hw₅ safe makes h₅ with ⟨failed, changes⟩ | ⟨rfl, changes, settled⟩
  · exact .inl ⟨failed, first.trans changes⟩
  · have before := first.mono fun p hp => below_of_within (within_of_beside hp)
    exact .inr ⟨old, spec, rfl, before.trans changes, stored, makes, settled⟩

theorem probe_inv {r : Except StorageError Bool}
    (h : (ExceptT.run (l.probe name)).run d = (r, d')) : d' = d := by
  rcases DiskAction.bind_inv h with ⟨dir, d₁, hdir, h₁⟩ | ⟨e, hdir, rfl⟩
  · obtain ⟨rfl, -⟩ := directory_inv hdir
    obtain ⟨r₁, hrun, -⟩ := DiskAction.adapt_inv h₁
    exact (FileAction.look_inv hrun).2
  · exact (directory_inv hdir).1

end DatasetCatalog.Storage.Local
