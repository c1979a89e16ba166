import Mathlib.Data.List.Perm.Basic
import DatasetCatalog.Proofs.Disk.Tree
import DatasetCatalog.Proofs.Specification
import DatasetCatalog.Proofs.Text.Utf8
import DatasetCatalog.Registry.Files

/-!
# The registry in a directory

An instance is a file in the directory of the registry. `Holds` says how the files make up a map:
the file of each entry of the map holds its specification, and there is nothing else in the
directory. From this every operation is followed through. What is written may nest more containers
than can be read again; `Keeps` is the case where nothing does.

Listing the directory takes most of the work. What stands there are the files of the entries, in the
order of the file names, which is not that of the instance names; but read and sorted again they are
the values of the map, because two sorted lists of the same entries are the same (`getAll_shallow`).
-/

namespace DatasetCatalog.Registry

open Disk

/-- A specification that can be written: its file name fits into a directory, and its maps are in
order, as those of every specification are. -/
structure Writable (spec : Specification) : Prop where
  safe : isSafeName spec.name = true
  short : Utf8.size spec.name ≤ 250
  ordered : spec.Ordered

/-- A specification that can be stored: it can be written, and its JSON form nests no more than can be
read. -/
structure Storable (spec : Specification) : Prop extends Writable spec where
  shallow : spec.toJson.depth ≤ Json.depthLimit

namespace Files

variable {d d' : Disk} {root : Path} {p : Place} {m : StringMap Specification} {name other : String}
  {spec : Specification}

/-! ### File names -/

/-- The file of an instance. -/
def entryOf (name : String) : String := name ++ "." ++ fileExtension

theorem toList_entryOf (name : String) : (entryOf name).toList = name.toList ++ ".json".toList := by
  simp [entryOf, fileExtension]

theorem entryOf_inj (h : entryOf name = entryOf other) : name = other := by
  have same := congrArg String.toList h
  rw [toList_entryOf, toList_entryOf] at same
  exact String.ext (List.append_cancel_right same)

theorem isSafeName_entryOf (h : isSafeName name = true) : isSafeName (entryOf name) = true := by
  rw [entryOf, String.append_assoc]
  exact isSafeName_append h rfl

theorem size_entryOf (name : String) : Utf8.size (entryOf name) = Utf8.size name + 5 := by
  rw [entryOf, String.append_assoc, Utf8.size_append]
  rfl

theorem fileName_entryOf (h : isSafeName name = true) (short : Utf8.size name ≤ 250) :
    FileName (entryOf name) := by
  refine fileName_of_isSafeName (isSafeName_entryOf h) ?_
  rw [size_entryOf, nameLimit]
  omega

/-- The files of instances are those that the listing takes for entries. -/
theorem isEntry_entryOf (h : isSafeName name = true) : isEntry (entryOf name) = true := by
  have visible : (entryOf name).toList.head? ≠ some '.' := by
    have safe := isSafeName_entryOf h
    simp only [isSafeName, Bool.and_eq_true, decide_eq_true_eq] at safe
    exact safe.1.2
  have nonempty : name.toList ≠ [] := (component_of_isSafeName h).nonempty
  have reversed : (entryOf name).toList.reverse =
      'n' :: 'o' :: 's' :: 'j' :: '.' :: name.toList.reverse := by
    rw [toList_entryOf]
    simp
  obtain ⟨last, before, hlast⟩ : ∃ last before, name.toList.reverse = last :: before :=
    List.exists_cons_of_ne_nil (by simpa using nonempty)
  have extension : extension? (entryOf name) = some fileExtension := by
    rw [extension?, reversed, hlast]
    rfl
  simp [isEntry, extension, visible]

theorem entryOf_ne_draftName (h : isSafeName name = true) : entryOf name ≠ draftName := by
  intro same
  have safe := isSafeName_entryOf h
  rw [same] at safe
  cases safe

/-! ### What a directory holds -/

/-- The file of a specification. -/
def fileOf (spec : Specification) : Node := .file (Utf8.encode spec.toJson.indented)

/-- The files in a directory are those of a map. -/
structure Holds (root : Path) (p : Place) (m : StringMap Specification) (d : Disk) : Prop where
  opens : d.Opens root p
  grown : d.Grown p
  sorted : StringMap.Sorted m
  entry : ∀ e ∈ m, e.2.name = e.1 ∧ Writable e.2
  file : ∀ name, isSafeName name = true →
    d.node? (p ++ [entryOf name]) = (StringMap.find? name m).map fileOf
  /-- There is nothing but the files of the map. -/
  only : ∀ file ∈ d.entriesAt p, ∃ e ∈ m, file = entryOf e.1
  once : (d.entriesAt p).Nodup

/-- The files in a directory are those of a map, and can all be read. -/
structure Keeps (root : Path) (p : Place) (m : StringMap Specification) (d : Disk) : Prop
    extends Holds root p m d where
  shallow : ∀ e ∈ m, e.2.toJson.depth ≤ Json.depthLimit

/-- A registry begins in an empty directory, and without instances. -/
theorem keeps_of_vacant (h : d.Vacant root p) : Keeps root p [] d where
  opens := h.toOpens
  grown := h.grown
  sorted := List.Pairwise.nil
  entry e he := by cases he
  file name _ := h.nothing _ (List.prefix_append _ _) (by simp)
  only file hfile := by
    have missing : d.node? (p ++ [file]) = none := h.nothing _ (List.prefix_append _ _) (by simp)
    rw [mem_entriesAt, missing] at hfile
    cases hfile
  once := by
    have nothing : d.entriesAt p = [] := by
      refine List.eq_nil_iff_forall_not_mem.2 fun file hfile => ?_
      have missing : d.node? (p ++ [file]) = none :=
        h.nothing _ (List.prefix_append _ _) (by simp)
      rw [mem_entriesAt, missing] at hfile
      cases hfile
    rw [nothing]
    exact List.nodup_nil
  shallow e he := by cases he

namespace Holds

/-- The path of an entry leads to what the map has for its name. -/
theorem finds (h : Holds root p m d) (safe : isSafeName name = true) (short : Utf8.size name ≤ 250) :
    d.Finds (root.join (entryOf name)) (p ++ [entryOf name])
      ((StringMap.find? name m).map fun spec => Utf8.encode spec.toJson.indented) := by
  have names : ∀ n ∈ [entryOf name], FileName n := by
    intro n hn
    rw [List.mem_singleton.1 hn]
    exact fileName_entryOf safe short
  refine h.opens.finds h.grown names (by simp) (fun q hq hne => ?_) ?_
  · have here : q = [] := by
      rcases List.prefix_cons_iff.1 hq with nothing | ⟨rest, rfl, hrest⟩
      · exact nothing
      · rw [List.prefix_nil.1 hrest] at hne
        exact absurd rfl hne
    rw [here, List.append_nil]
    exact .inr h.opens.directory
  · rw [Option.map_map]
    exact h.file name safe

theorem writable_of_find? (h : Holds root p m d) (found : StringMap.find? name m = some spec) :
    spec.name = name ∧ Writable spec := h.entry _ (StringMap.mem_of_find? found)

/-- No draft is left. -/
theorem noDraft (h : Holds root p m d) : d.node? (p ++ [draftName]) = none := by
  by_contra there
  obtain ⟨e, he, same⟩ := h.only draftName (mem_entriesAt.2 (Option.isSome_iff_ne_none.2 there))
  obtain ⟨named, writable⟩ := h.entry e he
  exact entryOf_ne_draftName (named ▸ writable.safe) same.symm

theorem draft (h : Holds root p m d) : ∀ q, p ++ [draftName] <+: q → d.node? q = none := by
  rintro _ ⟨more, rfl⟩
  exact h.grown.none_below (List.prefix_append _ _) h.noDraft more

/-- Where the files are the same, so is the map. -/
theorem same (h : Holds root p m d) (opens : d'.Opens root p) (grown : d'.Grown p)
    (once : (d'.entriesAt p).Nodup)
    (node : ∀ file, d'.node? (p ++ [file]) = d.node? (p ++ [file])) : Holds root p m d' := by
  refine ⟨opens, grown, h.sorted, h.entry, fun name safe => ?_, fun file hfile => ?_, once⟩
  · rw [node, h.file name safe]
  · rw [mem_entriesAt, node] at hfile
    exact h.only file (mem_entriesAt.2 hfile)

/-- To insert a specification is to put its file there. -/
theorem insert (h : Holds root p m d) (writable : Writable spec) (opens : d'.Opens root p)
    (grown : d'.Grown p) (once : (d'.entriesAt p).Nodup)
    (node : ∀ file, d'.node? (p ++ [file]) =
      if file = entryOf spec.name then some (fileOf spec) else d.node? (p ++ [file])) :
    Holds root p (StringMap.insert spec.name spec m) d' := by
  have sorted := h.sorted.insert spec.name spec
  refine ⟨opens, grown, sorted, fun e he => ?_, fun name safe => ?_, fun file hfile => ?_, once⟩
  · have found := StringMap.find?_of_mem sorted he
    rw [StringMap.find?_insert] at found
    by_cases here : spec.name = e.1
    · rw [if_pos here] at found
      cases found
      exact ⟨here, writable⟩
    · rw [if_neg here] at found
      exact h.writable_of_find? found
  · rw [node, StringMap.find?_insert]
    by_cases here : spec.name = name
    · simp [here]
    · have apart : entryOf name ≠ entryOf spec.name := fun same => here (entryOf_inj same).symm
      rw [if_neg apart, if_neg here, h.file name safe]
  · rw [mem_entriesAt, node] at hfile
    by_cases here : file = entryOf spec.name
    · refine ⟨(spec.name, spec), StringMap.mem_of_find? ?_, here⟩
      rw [StringMap.find?_insert, if_pos rfl]
    · rw [if_neg here] at hfile
      obtain ⟨e, he, rfl⟩ := h.only file (mem_entriesAt.2 hfile)
      have apart : spec.name ≠ e.1 := fun same => here (by rw [same])
      refine ⟨e, StringMap.mem_of_find? ?_, rfl⟩
      rw [StringMap.find?_insert, if_neg apart, StringMap.find?_of_mem h.sorted he]

/-- To erase a name is to take its file away. -/
theorem erase (h : Holds root p m d) (opens : d'.Opens root p) (grown : d'.Grown p)
    (once : (d'.entriesAt p).Nodup)
    (node : ∀ file, d'.node? (p ++ [file]) =
      if file = entryOf name then none else d.node? (p ++ [file])) :
    Holds root p (StringMap.erase name m) d' := by
  refine ⟨opens, grown, h.sorted.erase name,
    fun e he => h.entry e ((StringMap.erase_sublist name m).subset he), fun other safe => ?_,
    fun file hfile => ?_, once⟩
  · rw [node, StringMap.find?_erase]
    by_cases here : name = other
    · simp [here]
    · have apart : entryOf other ≠ entryOf name := fun same => here (entryOf_inj same).symm
      rw [if_neg apart, if_neg here, h.file other safe]
  · rw [mem_entriesAt, node] at hfile
    by_cases here : file = entryOf name
    · simp [here] at hfile
    · rw [if_neg here] at hfile
      obtain ⟨e, he, rfl⟩ := h.only file (mem_entriesAt.2 hfile)
      have apart : name ≠ e.1 := fun same => here (by rw [same])
      refine ⟨e, StringMap.mem_of_find? ?_, rfl⟩
      rw [StringMap.find?_erase, if_neg apart, StringMap.find?_of_mem h.sorted he]

end Holds

/-- What is in a map that can be read can be stored. -/
theorem Keeps.storable (h : Keeps root p m d) {e : String × Specification} (he : e ∈ m) :
    e.2.name = e.1 ∧ Storable e.2 :=
  ⟨(h.entry e he).1, (h.entry e he).2, h.shallow e he⟩

theorem Keeps.storable_of_find? (h : Keeps root p m d) (found : StringMap.find? name m = some spec) :
    spec.name = name ∧ Storable spec := h.storable (StringMap.mem_of_find? found)

/-! ### Single instances -/

/-- A file operation that succeeds. -/
theorem onDisk_run {α : Type} {what : String} {a : FileAction α} {x : α} {d' : Disk}
    (h : a.run d = (.ok x, d')) : (onDisk what a).run.run d = (.ok x, d') :=
  DiskAction.adapt_run h _

theorem fileName_run (safe : isSafeName name = true) (d : Disk) :
    (fileName name).run.run d = (.ok (entryOf name), d) := by
  rw [fileName, if_pos safe]
  rfl

/-- What is read from the file of a specification: itself, unless it nests more containers than can be
read. Then it is what the decoder has to say. -/
def reading (spec : Specification) : Except RegistryError Specification :=
  if spec.toJson.depth ≤ Json.depthLimit then .ok spec
  else (Json.decode Specification.reader (Utf8.encode spec.toJson.indented)).mapError .unreadable

theorem reading_of_shallow (shallow : spec.toJson.depth ≤ Json.depthLimit) :
    reading spec = .ok spec := if_pos shallow

theorem reading_of_deep (deep : Json.depthLimit < spec.toJson.depth) :
    ∃ e, reading spec = .error (.unreadable e) := by
  obtain ⟨e, failed⟩ := Specification.decode_indented_deep deep
  exact ⟨e, by rw [reading, if_neg (Nat.not_le.2 deep), failed]; rfl⟩

theorem reading_eq_ok {found : Specification} (h : reading spec = .ok found) : found = spec := by
  by_cases shallow : spec.toJson.depth ≤ Json.depthLimit
  · rw [reading_of_shallow shallow] at h
    exact (Except.ok.inj h).symm
  · obtain ⟨e, failed⟩ := reading_of_deep (Nat.lt_of_not_le shallow)
    rw [failed] at h
    cases h

theorem read_reading (ordered : spec.Ordered) (d : Disk) :
    (read (Utf8.encode spec.toJson.indented)).run.run d = (reading spec, d) := by
  rw [reading]
  split
  · next shallow =>
    rw [read, Specification.decode_indented ordered shallow]
    rfl
  · rw [read]
    cases Json.decode Specification.reader (Utf8.encode spec.toJson.indented) <;> rfl

/-- What is read from the file that has been found. -/
theorem read_some_run (ordered : spec.Ordered) (d : Disk) :
    (do return some (← read (Utf8.encode spec.toJson.indented)) :
      RegistryAction (Option Specification)).run.run d = ((reading spec).map some, d) := by
  have run := read_reading ordered d
  cases reads : reading spec with
  | ok found =>
    rw [reads] at run
    exact DiskAction.bind_of_ok run _
  | error e =>
    rw [reads] at run
    exact DiskAction.bind_of_error run _

namespace Holds

theorem get_run (h : Holds root p m d) (safe : isSafeName name = true)
    (short : Utf8.size name ≤ 250) :
    (get root name).run.run d =
      (match StringMap.find? name m with
        | none => .ok none
        | some spec => (reading spec).map some, d) := by
  refine (DiskAction.bind_of_ok (fileName_run safe d) _).trans ?_
  refine (DiskAction.bind_of_ok (onDisk_run (readIfPresent_run (h.finds safe short))) _).trans ?_
  cases found : StringMap.find? name m with
  | none => rfl
  | some spec => exact read_some_run (h.writable_of_find? found).2.ordered d

/-- Publishing the file of a specification inserts it into the map, unless its name is taken. -/
theorem publish (h : Holds root p m d) (writable : Writable spec) :
    Holds root p
      (if StringMap.find? spec.name m = none then StringMap.insert spec.name spec m else m)
      (d.published p (entryOf spec.name) (Utf8.encode spec.toJson.indented)) := by
  have other := entryOf_ne_draftName writable.safe
  have node (file : String) :
      (d.published p (entryOf spec.name) (Utf8.encode spec.toJson.indented)).node? (p ++ [file]) =
        if file = entryOf spec.name ∧ d.node? (p ++ [file]) = none then some (fileOf spec)
        else d.node? (p ++ [file]) := by
    simp only [node?_published other h.draft, append_singleton_inj, fileOf]
  have opens :
      (d.published p (entryOf spec.name) (Utf8.encode spec.toJson.indented)).Opens root p :=
    h.opens.published other h.draft
  have grown : (d.published p (entryOf spec.name) (Utf8.encode spec.toJson.indented)).Grown p :=
    h.grown.published (List.prefix_refl p) h.opens.directory other h.noDraft
  have once := nodup_entriesAt_published h.once p (entryOf spec.name)
    (Utf8.encode spec.toJson.indented)
  have there := h.file spec.name writable.safe
  by_cases free : StringMap.find? spec.name m = none
  · rw [if_pos free]
    refine h.insert writable opens grown once fun file => ?_
    rw [node]
    by_cases here : file = entryOf spec.name
    · simp [here, there, free]
    · simp [here]
  · rw [if_neg free]
    refine h.same opens grown once fun file => ?_
    rw [node, if_neg]
    rintro ⟨rfl, missing⟩
    rw [there, Option.map_eq_none_iff] at missing
    exact free missing

/-- Adding an instance publishes its file. -/
theorem add_published (h : Holds root p m d) (writable : Writable spec) :
    (add root spec).run.run d =
      ((if StringMap.find? spec.name m = none then .ok () else .error (.alreadyExists spec.name)),
        d.published p (entryOf spec.name) (Utf8.encode spec.toJson.indented)) := by
  have published : (Disk.publish root (entryOf spec.name) (Utf8.encode spec.toJson.indented)).run d =
      _ :=
    publish_run h.opens.makeWay_self h.opens (fileName_entryOf writable.safe writable.short)
      (entryOf_ne_draftName writable.safe) h.draft
  rw [h.file spec.name writable.safe, Option.isNone_map] at published
  refine (DiskAction.bind_of_ok (fileName_run writable.safe d) _).trans ?_
  refine (DiskAction.bind_of_ok (onDisk_run published) _).trans ?_
  cases StringMap.find? spec.name m <;> rfl

/-- Deleting an instance removes its file, if it is there. -/
theorem delete_pruned (h : Holds root p m d) (safe : isSafeName name = true)
    (short : Utf8.size name ≤ 250) :
    (delete root name).run.run d =
      (.ok (StringMap.contains name m),
        if StringMap.contains name m then d.prune (p ++ [entryOf name]) else d) := by
  have removed := removeFileIfPresent_run (h.finds safe short)
  rw [Option.isSome_map] at removed
  exact (DiskAction.bind_of_ok (fileName_run safe d) _).trans (onDisk_run removed)

/-- To delete an instance is to erase it from the map. -/
theorem delete_run (h : Holds root p m d) (safe : isSafeName name = true)
    (short : Utf8.size name ≤ 250) :
    ∃ d', (delete root name).run.run d = (.ok (StringMap.contains name m), d') ∧
      Holds root p (StringMap.erase name m) d' := by
  refine ⟨_, h.delete_pruned safe short, ?_⟩
  have there := h.file name safe
  rw [StringMap.contains]
  cases found : StringMap.find? name m with
  | none =>
    rw [found] at there
    refine h.erase h.opens h.grown h.once fun file => ?_
    by_cases here : file = entryOf name
    · rw [if_pos here, here]
      exact there
    · rw [if_neg here]
      rfl
  | some spec =>
    rw [found] at there
    rw [Option.isSome_some, if_pos rfl]
    refine h.erase (h.opens.prune_file h.grown (List.prefix_append _ _) there) (h.grown.prune _)
      (nodup_entriesAt_prune h.once _) fun file => ?_
    by_cases here : file = entryOf name
    · rw [here, node?_prune _ _ (append_singleton_ne_nil _ _)]
      simp
    · rw [if_neg here, node?_prune_outside]
      intro hq
      exact here (append_singleton_inj.1 (hq.eq_of_length (by simp))).symm

end Holds

/-- A map that can be read can still be read after an add of what can be stored. -/
theorem Keeps.of_add (h : Keeps root p m d) (storable : Storable spec)
    (holds : Holds root p
      (if StringMap.find? spec.name m = none then StringMap.insert spec.name spec m else m) d') :
    Keeps root p
      (if StringMap.find? spec.name m = none then StringMap.insert spec.name spec m else m) d' := by
  refine ⟨holds, fun e he => ?_⟩
  by_cases free : StringMap.find? spec.name m = none
  · rw [if_pos free] at he
    rcases (StringMap.mem_insert_of_free free).1 he with rfl | he
    · exact storable.shallow
    · exact h.shallow e he
  · rw [if_neg free] at he
    exact h.shallow e he

/-- It can still be read after a delete. -/
theorem Keeps.of_delete (h : Keeps root p m d) (holds : Holds root p (StringMap.erase name m) d') :
    Keeps root p (StringMap.erase name m) d' :=
  ⟨holds, fun e he => h.shallow e ((StringMap.erase_sublist name m).subset he)⟩

/-! ### All instances -/

/-- What is read from the files of entries, one after the other. -/
def readings (es : List (String × Specification)) : Except RegistryError (List Specification) :=
  es.mapM fun e => reading e.2

theorem readings_of_shallow {es : List (String × Specification)}
    (shallow : ∀ e ∈ es, e.2.toJson.depth ≤ Json.depthLimit) :
    readings es = .ok (StringMap.values es) := by
  induction es with
  | nil => rfl
  | cons e rest ih =>
    have tail : readings rest = _ := ih fun e he => shallow e (List.mem_cons_of_mem _ he)
    rw [readings] at tail
    rw [readings, List.mapM_cons, reading_of_shallow (shallow e List.mem_cons_self), tail]
    rfl

/-- An entry that cannot be read fails the reading of all. -/
theorem readings_of_deep {es : List (String × Specification)} {e : String × Specification}
    (he : e ∈ es) (deep : Json.depthLimit < e.2.toJson.depth) :
    ∃ fault, readings es = .error (.unreadable fault) := by
  induction es with
  | nil => cases he
  | cons first rest ih =>
    by_cases lost : Json.depthLimit < first.2.toJson.depth
    · obtain ⟨fault, failed⟩ := reading_of_deep lost
      exact ⟨fault, by rw [readings, List.mapM_cons, failed]; rfl⟩
    · have later : e ∈ rest :=
        (List.mem_cons.1 he).resolve_left fun same => lost (same ▸ deep)
      obtain ⟨fault, failed⟩ := ih later
      rw [readings] at failed
      refine ⟨fault, ?_⟩
      rw [readings, List.mapM_cons, reading_of_shallow (Nat.not_lt.1 lost), failed]
      rfl

namespace Holds

/-- The file of an entry is there, and what it says is read if it can be. -/
theorem getEntry_run (h : Holds root p m d) {e : String × Specification} (he : e ∈ m) :
    (getEntry root (entryOf e.1)).run.run d = ((reading e.2).map some, d) := by
  obtain ⟨named, writable⟩ := h.entry e he
  have short : Utf8.size e.1 ≤ 250 := named ▸ writable.short
  have found := h.finds (named ▸ writable.safe) short
  rw [StringMap.find?_of_mem h.sorted he] at found
  refine (DiskAction.bind_of_ok (onDisk_run (readIfPresent_run found)) _).trans ?_
  exact read_some_run writable.ordered d

/-- The files of entries are read one after the other. -/
theorem mapM_getEntry_run (h : Holds root p m d) {es : List (String × Specification)}
    (entries : ∀ e ∈ es, e ∈ m) :
    ((es.map fun e => entryOf e.1).mapM (getEntry root)).run.run d =
      ((readings es).map (·.map some), d) := by
  induction es with
  | nil => rfl
  | cons e rest ih =>
    have head := h.getEntry_run (entries e List.mem_cons_self)
    have tail := ih fun e he => entries e (List.mem_cons_of_mem _ he)
    rw [List.map_cons, List.mapM_cons, readings, List.mapM_cons]
    rw [readings] at tail
    cases reads : reading e.2 with
    | error fault =>
      rw [reads] at head
      exact DiskAction.bind_of_error head _
    | ok spec =>
      rw [reads] at head
      refine (DiskAction.bind_of_ok head _).trans ?_
      cases others : rest.mapM fun e => reading e.2 with
      | error fault =>
        rw [others] at tail
        exact DiskAction.bind_of_error tail _
      | ok specs =>
        rw [others] at tail
        exact DiskAction.bind_of_ok tail _

end Holds

namespace Holds

/-- What stands in the directory are the files of the entries. -/
theorem entriesAt_perm (h : Holds root p m d) :
    (d.entriesAt p).Perm (m.map fun e => entryOf e.1) := by
  have distinct : (m.map fun e => entryOf e.1).Nodup := by
    have keys := StringMap.nodup_keys h.sorted
    have mapped : (m.map fun e => entryOf e.1) = (StringMap.keys m).map entryOf := by
      rw [StringMap.keys, List.map_map]
      rfl
    rw [mapped]
    exact List.Pairwise.map entryOf (fun _ _ apart same => apart (entryOf_inj same)) keys
  refine (List.perm_ext_iff_of_nodup h.once distinct).2 fun file => ?_
  rw [List.mem_map]
  constructor
  · intro hfile
    obtain ⟨e, he, rfl⟩ := h.only file hfile
    exact ⟨e, he, rfl⟩
  · rintro ⟨e, he, rfl⟩
    obtain ⟨named, writable⟩ := h.entry e he
    rw [mem_entriesAt, h.file e.1 (named ▸ writable.safe), StringMap.find?_of_mem h.sorted he]
    rfl

/-- The directory lists the files of the entries, in some order, and nothing that is no entry. -/
theorem list_run (h : Holds root p m d) (located : d.locate root = .ok p) :
    ∃ es : List (String × Specification), es.Perm m ∧
      (FileAction.look (·.entryNames root)).run d = (.ok (es.map fun e => entryOf e.1), d) ∧
      (es.map fun e => entryOf e.1).filter isEntry = es.map fun e => entryOf e.1 := by
  have perm := (List.mergeSort_perm (d.entriesAt p) fun a b => decide (a ≤ b)).trans h.entriesAt_perm
  have pairs : List.Forall₂ (fun file e => file = entryOf e.1) (m.map fun e => entryOf e.1) m :=
    List.forall₂_map_left_iff.2 (List.forall₂_same.2 fun _ _ => rfl)
  obtain ⟨es, files, same⟩ := List.perm_comp_forall₂ perm pairs
  have names := List.forall₂_eq_eq_eq ▸ List.forall₂_map_right_iff.2 files
  refine ⟨es, same, ?_, List.filter_eq_self.2 fun file hfile => ?_⟩
  · rw [FileAction.look_run, entryNames_of_opens h.opens located, names]
  · obtain ⟨e, he, rfl⟩ := List.mem_map.1 hfile
    obtain ⟨named, writable⟩ := h.entry e (same.mem_iff.1 he)
    exact isEntry_entryOf (named ▸ writable.safe)

/-- The values of a map come in the order of their names. -/
theorem values_pairwise (h : Holds root p m d) :
    (StringMap.values m).Pairwise fun a b => a.name < b.name := by
  refine List.pairwise_map.2 (h.sorted.imp_of_mem fun {a b} ha hb before => ?_)
  rw [(h.entry a ha).1, (h.entry b hb).1]
  exact before

/-- Specifications of the map that are sorted by name are its values. -/
theorem mergeSort_eq_values (h : Holds root p m d) {specs : List Specification}
    (perm : specs.Perm (StringMap.values m)) :
    (specs.mergeSort fun a b => decide (a.name ≤ b.name)) = StringMap.values m := by
  have sorted : (specs.mergeSort fun a b => decide (a.name ≤ b.name)).Pairwise
      fun a b => decide (a.name ≤ b.name) = true :=
    List.pairwise_mergeSort
      (fun a b c hab hbc => by
        simp only [decide_eq_true_eq] at hab hbc ⊢
        exact String.le_trans hab hbc)
      (fun a b => by
        simp only [Bool.or_eq_true, decide_eq_true_eq]
        exact String.le_total a.name b.name) specs
  have values : (StringMap.values m).Pairwise fun a b : Specification =>
      decide (a.name ≤ b.name) = true :=
    h.values_pairwise.imp fun before => decide_eq_true (String.not_lt.1 (String.lt_asymm before))
  refine List.Perm.eq_of_pairwise (fun a b ha hb hab hba => ?_) sorted values
    ((List.mergeSort_perm _ _).trans perm)
  -- in the map a name has one specification
  have same := String.le_antisymm (of_decide_eq_true hab) (of_decide_eq_true hba)
  have ha' : a ∈ StringMap.values m :=
    ((List.mergeSort_perm _ _).trans perm).mem_iff.1 ha
  obtain ⟨⟨_, _⟩, hea, rfl⟩ := List.mem_map.1 ha'
  obtain ⟨⟨_, _⟩, heb, rfl⟩ := List.mem_map.1 hb
  have named := (h.entry _ hea).1
  have named' := (h.entry _ heb).1
  dsimp only at same named named' ⊢
  subst named
  subst named'
  rw [same] at hea
  exact Option.some.inj ((StringMap.find?_of_mem h.sorted hea).symm.trans
    (StringMap.find?_of_mem h.sorted heb))

/-- The listing of the directory reads the entries in some order, and sorts what it has read. -/
theorem getAll_run (h : Holds root p m d) (located : d.locate root = .ok p) :
    ∃ es : List (String × Specification), es.Perm m ∧ (getAll root).run.run d =
      ((readings es).map (·.mergeSort fun a b => decide (a.name ≤ b.name)), d) := by
  obtain ⟨es, perm, list, all⟩ := h.list_run located
  refine ⟨es, perm, (DiskAction.bind_of_ok (onDisk_run list) _).trans ?_⟩
  rw [all]
  have read := h.mapM_getEntry_run fun e he => perm.mem_iff.1 he
  cases reads : readings es with
  | error fault =>
    rw [reads] at read
    exact DiskAction.bind_of_error read _
  | ok specs =>
    rw [reads] at read
    have kept : (specs.map some).filterMap id = specs := by
      rw [List.filterMap_map]
      exact List.filterMap_some
    refine (DiskAction.bind_of_ok read _).trans ?_
    rw [kept]
    rfl

/-- Where all entries can be read, the listing gives the values of the map. -/
theorem getAll_shallow (h : Holds root p m d) (located : d.locate root = .ok p)
    (shallow : ∀ e ∈ m, e.2.toJson.depth ≤ Json.depthLimit) :
    (getAll root).run.run d = (.ok (StringMap.values m), d) := by
  obtain ⟨es, perm, run⟩ := h.getAll_run located
  rw [run, readings_of_shallow fun e he => shallow e (perm.mem_iff.1 he)]
  exact congrArg (fun specs => (Except.ok specs, d)) (h.mergeSort_eq_values (perm.map _))

/-- One entry that cannot be read is enough for the listing to fail. -/
theorem getAll_deep (h : Holds root p m d) (located : d.locate root = .ok p)
    {e : String × Specification} (he : e ∈ m) (deep : Json.depthLimit < e.2.toJson.depth) :
    ∃ fault, (getAll root).run.run d = (.error (.unreadable fault), d) := by
  obtain ⟨es, perm, run⟩ := h.getAll_run located
  obtain ⟨fault, failed⟩ := readings_of_deep (perm.mem_iff.2 he) deep
  exact ⟨fault, by rw [run, failed]; rfl⟩

end Holds

end Files

end DatasetCatalog.Registry
