import DatasetCatalog.Proofs.Disk.Confine
import DatasetCatalog.Proofs.Registry.Files

/-!
# What the registry leaves alone

An operation on an instance touches the file of this instance and nothing else (`add_stays`,
`delete_stays`), and to look something up changes nothing at all (`get_eq`, `getAll_eq`). The other way
round, the files are those of the map for as long as nobody touches the directory (`Holds.of_aloof`),
and what is found under a name depends on its own file only (`find?_congr`, `others_congr`).

Some of this needs that everything in the directory can be read, and is said of `Keeps` then. What
remains where that is not so is said of `Holds`: an entry that cannot be read fails to be looked up, and
makes the listing fail.
-/

namespace DatasetCatalog.Registry.Files

open Disk

variable {d d' : Disk} {root : Path} {p w : Place} {area : Place → Prop}
  {m m' : StringMap Specification} {name : String} {spec : Specification}

/-- The place of the file of an instance. -/
def entryPlace (p : Place) (name : String) : Place := p ++ [entryOf name]

/-- The files are those of the map, whatever happens elsewhere. -/
theorem Holds.of_aloof (h : Holds root (placeFrom w root) m d) (hw : d.workingDirectory = w)
    (touches : Touches area d d') (aloof : Aloof w root area) :
    Holds root (placeFrom w root) m d' :=
  h.same (h.opens.of_aloof hw touches.toSpares aloof) (h.grown.of_aloof touches.toSpares aloof)
    (touches.once _ h.once) fun _ => touches.beyond _ (aloof _ (.inr (List.prefix_append _ _)))

theorem Keeps.of_aloof (h : Keeps root (placeFrom w root) m d) (hw : d.workingDirectory = w)
    (touches : Touches area d d') (aloof : Aloof w root area) :
    Keeps root (placeFrom w root) m d' :=
  ⟨h.toHolds.of_aloof hw touches aloof, h.shallow⟩

/-! ### Looking up -/

/-- What is found under a name, if the name can be looked up. -/
def lookup (m : StringMap Specification) (name : String) :
    Except RegistryError (Option Specification) :=
  if isSafeName name then
    if Utf8.size name ≤ 250 then .ok (StringMap.find? name m)
    else .error (.storage ("Failed to read " ++ name ++ ": " ++ FileError.nameTooLong.message))
  else .error (.storage ("Instance name '" ++ name ++ "' cannot be stored on the filesystem"))

theorem lookup_eq_ok {found : Option Specification} :
    lookup m name = .ok found ↔
      isSafeName name = true ∧ Utf8.size name ≤ 250 ∧ StringMap.find? name m = found := by
  rw [lookup]
  split
  · split
    · simp [*]
    · simp [*]
  · simp [*]

/-- What is read under a name, if the name can be looked up and what is there can be read. -/
def reads (m : StringMap Specification) (name : String) :
    Except RegistryError (Option Specification) :=
  match lookup m name with
  | .ok (some spec) => (reading spec).map some
  | found => found

theorem reads_of_error {e : RegistryError} (h : lookup m name = .error e) :
    reads m name = .error e := by
  rw [reads, h]

/-- Where the file of a name is missing, nothing is read. -/
theorem reads_of_none (h : lookup m name = .ok none) : reads m name = .ok none := by
  rw [reads, h]

theorem reads_of_some (h : lookup m name = .ok (some spec)) :
    reads m name = (reading spec).map some := by
  rw [reads, h]

/-- What is read under a name is what the map has for it. -/
theorem reads_eq_ok {found : Option Specification} (h : reads m name = .ok found) :
    lookup m name = .ok found := by
  cases looked : lookup m name with
  | error e =>
    rw [reads_of_error looked] at h
    cases h
  | ok there =>
    cases there with
    | none => rwa [reads_of_none looked] at h
    | some spec =>
      rw [reads_of_some looked] at h
      cases reads : reading spec with
      | error e =>
        rw [reads] at h
        cases h
      | ok same =>
        rw [reads] at h
        obtain rfl := reading_eq_ok reads
        exact h

theorem Holds.get_eq (h : Holds root p m d) (name : String) :
    (get root name).run.run d = (reads m name, d) := by
  by_cases safe : isSafeName name = true
  · by_cases short : Utf8.size name ≤ 250
    · have looked : lookup m name = .ok (StringMap.find? name m) :=
        lookup_eq_ok.2 ⟨safe, short, rfl⟩
      rw [h.get_run safe short]
      cases found : StringMap.find? name m with
      | none => rw [reads_of_none (found ▸ looked)]
      | some spec => rw [reads_of_some (found ▸ looked)]
    · have refused : lookup m name = _ := (if_pos safe).trans (if_neg short)
      have long : nameLimit < Utf8.size (entryOf name) := by
        rw [size_entryOf, nameLimit]
        omega
      have lost := h.opens.locate_join_long (isSafeName_entryOf safe) long
      have unread : (readIfPresent (root.join (entryOf name))).run d =
          (.error .nameTooLong, d) := by
        rw [readIfPresent, FileAction.look_run, content, status, lost]
        rfl
      rw [reads_of_error refused]
      refine (DiskAction.bind_of_ok (fileName_run safe d) _).trans ?_
      exact DiskAction.bind_of_error (DiskAction.adapt_run unread _) _
  · have refused : lookup m name = _ := if_neg safe
    rw [reads_of_error refused]
    refine DiskAction.bind_of_error ?_ _
    rw [fileName, if_neg safe]
    rfl

theorem Keeps.get_eq (h : Keeps root p m d) (name : String) :
    (get root name).run.run d = (lookup m name, d) := by
  rw [h.toHolds.get_eq name]
  cases looked : lookup m name with
  | error e => rw [reads_of_error looked]
  | ok found =>
    cases found with
    | none => rw [reads_of_none looked]
    | some spec =>
      have storable := (h.storable_of_find? (lookup_eq_ok.1 looked).2.2).2
      rw [reads_of_some looked, reading_of_shallow storable.shallow]
      rfl

/-- Where the path of a directory is empty nothing can be listed. -/
theorem getAll_nameless (opens : d.Opens root p) (empty : root.text.isEmpty = true) :
    (getAll root).run.run d = (.error (.storage
      ("Failed to list registry directory " ++ root.text ++ ": " ++ FileError.notFound.message)), d) := by
  have lost : d.locate root = .error .notFound := by
    rw [locate, if_neg (by simp [opens.noNul]), if_pos empty]
  have unlisted : (FileAction.look (·.entryNames root)).run d = (.error .notFound, d) := by
    rw [FileAction.look_run, entryNames, status, lost]
    rfl
  exact DiskAction.bind_of_error (DiskAction.adapt_run unlisted _) _

/-- All that is listed, if the directory can be. -/
theorem Keeps.getAll_eq (h : Keeps root p m d) :
    (getAll root).run.run d =
      (if root.text.isEmpty then .error (.storage
          ("Failed to list registry directory " ++ root.text ++ ": " ++ FileError.notFound.message))
        else .ok (StringMap.values m), d) := by
  cases empty : root.text.isEmpty with
  | false =>
    rw [if_neg (by decide)]
    exact h.getAll_shallow (locate_of_walk h.opens.noNul empty h.opens.walked) h.shallow
  | true =>
    rw [if_pos rfl]
    exact getAll_nameless h.opens empty

/-- A listing fails as soon as one entry cannot be read. -/
theorem Holds.getAll_eq (h : Holds root p m d) (named : root.text.isEmpty = false) :
    ∃ r, (getAll root).run.run d = (r, d) ∧
      ((∀ e ∈ m, e.2.toJson.depth ≤ Json.depthLimit) → r = .ok (StringMap.values m)) ∧
      ((∃ e ∈ m, Json.depthLimit < e.2.toJson.depth) → ∃ fault, r = .error (.unreadable fault)) := by
  have located : d.locate root = .ok p := locate_of_walk h.opens.noNul named h.opens.walked
  by_cases shallow : ∀ e ∈ m, e.2.toJson.depth ≤ Json.depthLimit
  · refine ⟨_, h.getAll_shallow located shallow, fun _ => rfl, ?_⟩
    rintro ⟨e, he, deep⟩
    exact absurd (shallow e he) (Nat.not_le.2 deep)
  · obtain ⟨e, he, deep⟩ : ∃ e ∈ m, Json.depthLimit < e.2.toJson.depth := by
      simpa only [not_forall, Nat.not_le, exists_prop] using shallow
    obtain ⟨fault, run⟩ := h.getAll_deep located he deep
    exact ⟨_, run, fun all => absurd all shallow, fun _ => ⟨fault, rfl⟩⟩

/-- Where the file of a name is the same, the same is found under it. -/
theorem find?_congr (h : Keeps root p m d) (h' : Keeps root p m' d') (safe : isSafeName name = true)
    (same : d'.node? (entryPlace p name) = d.node? (entryPlace p name)) :
    StringMap.find? name m' = StringMap.find? name m := by
  rw [entryPlace, h.file name safe, h'.file name safe] at same
  cases found : StringMap.find? name m with
  | none =>
    rw [found] at same
    exact Option.map_eq_none_iff.1 same
  | some spec =>
    rw [found] at same
    obtain ⟨spec', found', files⟩ := Option.map_eq_some_iff.1 same
    have storable := (h.storable_of_find? found).2
    have storable' := (h'.storable_of_find? found').2
    have decoded := Specification.decode_indented storable.ordered storable.shallow
    have decoded' := Specification.decode_indented storable'.ordered storable'.shallow
    obtain rfl : spec' = spec := by
      have bytes : Utf8.encode spec'.toJson.indented = Utf8.encode spec.toJson.indented := by
        simpa [fileOf] using files
      rw [bytes] at decoded'
      exact Except.ok.inj (decoded'.symm.trans decoded)
    exact found'

theorem lookup_congr (h : Keeps root p m d) (h' : Keeps root p m' d')
    (same : d'.node? (entryPlace p name) = d.node? (entryPlace p name)) :
    lookup m' name = lookup m name := by
  rw [lookup, lookup]
  by_cases safe : isSafeName name = true
  · rw [if_pos safe, if_pos safe, find?_congr h h' safe same]
  · rw [if_neg safe, if_neg safe]

theorem filter_values (h : Keeps root p m d) (name : String) :
    ((StringMap.values m).filter fun spec => spec.name ≠ name) =
      StringMap.values (StringMap.erase name m) := by
  rw [StringMap.values, StringMap.values, StringMap.erase_eq_filter, List.filter_map]
  refine congrArg _ (List.filter_congr fun e he => ?_)
  rw [Function.comp_apply, (h.entry e he).1]

/-- Where the files of all other names are the same, so are the other instances. -/
theorem others_congr (h : Keeps root p m d) (h' : Keeps root p m' d')
    (same : ∀ other ≠ name, d'.node? (entryPlace p other) = d.node? (entryPlace p other)) :
    ((StringMap.values m').filter fun spec => spec.name ≠ name) =
      (StringMap.values m).filter fun spec => spec.name ≠ name := by
  rw [filter_values h, filter_values h']
  refine congrArg _ (StringMap.eq_of_find? (h'.sorted.erase name) (h.sorted.erase name) fun key => ?_)
  rw [StringMap.find?_erase, StringMap.find?_erase]
  by_cases here : name = key
  · rw [if_pos here, if_pos here]
  · rw [if_neg here, if_neg here]
    by_cases safe : isSafeName key = true
    · exact find?_congr h h' safe (same key (Ne.symm here))
    · -- a name that is not safe is in neither map
      have absent {m : StringMap Specification} {d : Disk} (h : Keeps root p m d) :
          StringMap.find? key m = none := by
        cases found : StringMap.find? key m with
        | none => rfl
        | some spec =>
          obtain ⟨rfl, storable⟩ := h.storable_of_find? found
          exact absurd storable.safe safe
      rw [absent h, absent h']

/-! ### Changes -/

/-- To add an instance is to insert it into the map, if its name is free, and touches its file only. -/
theorem Holds.add_exact (h : Holds root p m d) (writable : Writable spec)
    {r : Except RegistryError Unit} (run : (add root spec).run.run d = (r, d')) :
    r = (if StringMap.find? spec.name m = none then .ok ()
      else .error (.alreadyExists spec.name)) ∧
    Holds root p (if StringMap.find? spec.name m = none then StringMap.insert spec.name spec m
      else m) d' ∧ Touches (· = entryPlace p spec.name) d d' := by
  cases (h.add_published writable).symm.trans run
  exact ⟨rfl, h.publish writable, .published (entryOf_ne_draftName writable.safe) h.draft rfl⟩

/-- To delete an instance is to erase it from the map, and touches its file only. -/
theorem Holds.delete_exact (h : Holds root p m d) (safe : isSafeName name = true)
    (short : Utf8.size name ≤ 250) {r : Except RegistryError Bool}
    (run : (delete root name).run.run d = (r, d')) :
    r = .ok (StringMap.contains name m) ∧ Holds root p (StringMap.erase name m) d' ∧
      Touches (· = entryPlace p name) d d' := by
  obtain ⟨d₁, run₁, holds⟩ := h.delete_run safe short
  cases run₁.symm.trans run
  refine ⟨rfl, holds, ?_⟩
  cases (h.delete_pruned safe short).symm.trans run
  have there := h.file name safe
  rw [StringMap.contains]
  cases found : StringMap.find? name m with
  | none => exact .refl _ _
  | some spec =>
    rw [found] at there
    exact .prune_file h.grown (List.prefix_append _ _) there rfl

/-- An add touches the file of its instance only. -/
theorem Keeps.add_stays (h : Keeps root p m d) (storable : Storable spec)
    {r : Except RegistryError Unit} (run : (add root spec).run.run d = (r, d')) :
    (∃ m', Keeps root p m' d') ∧ Touches (· = entryPlace p spec.name) d d' := by
  obtain ⟨-, holds, touches⟩ := h.add_exact storable.toWritable run
  exact ⟨⟨_, h.of_add storable holds⟩, touches⟩

/-- A delete touches the file of its instance only. -/
theorem Keeps.delete_stays (h : Keeps root p m d) (safe : isSafeName name = true)
    (short : Utf8.size name ≤ 250) {r : Except RegistryError Bool}
    (run : (delete root name).run.run d = (r, d')) :
    (∃ m', Keeps root p m' d') ∧ Touches (· = entryPlace p name) d d' := by
  obtain ⟨-, holds, touches⟩ := h.delete_exact safe short run
  exact ⟨⟨_, h.of_delete holds⟩, touches⟩

end DatasetCatalog.Registry.Files
