import DatasetCatalog.Proofs.Disk.Reach

/-!
# The files of one directory

The file-backed stores publish their files in a directory and list it. Both are described here by
what stands at the places of the directory, so that a store needs no more than a relation between
these places and its own content.

* Publishing writes a draft beside the file, links it and removes the draft again. Where nothing stands
  at or below the place of the draft, all that is left of this is the file, and only if its place was
  free (`publish_run`, `node?_published`).
* The names that are listed are those at whose places something stands (`mem_entriesAt`). That no name
  is listed twice is not so for any list of nodes, but every operation keeps it
  (`nodup_entriesAt_put`, `nodup_entriesAt_prune`).
-/

namespace DatasetCatalog.Disk

variable {d d' d₁ : Disk} {path dir : Path} {p q : Place} {name : String} {bytes : List UInt8}

/-! ### Publishing -/

theorem fileName_draftName : FileName draftName := by decide

/-- The disk after a file has been published in a directory. -/
def published (d : Disk) (p : Place) (name : String) (bytes : List UInt8) : Disk :=
  let drafted := d.put (p ++ [draftName]) (.file bytes)
  let linked :=
    if d.node? (p ++ [name]) = none then drafted.put (p ++ [name]) (.file bytes) else drafted
  linked.prune (p ++ [draftName])

@[simp] theorem published_workingDirectory (d : Disk) (p : Place) (name : String)
    (bytes : List UInt8) : (d.published p name bytes).workingDirectory = d.workingDirectory := by
  simp only [published, prune]
  split <;> rfl

theorem append_singleton_ne_nil (p : Place) (name : String) : p ++ [name] ≠ [] := by simp

theorem append_singleton_inj {a b : String} : p ++ [a] = p ++ [b] ↔ a = b := by simp

/-- A file that is beside the draft is not below it. -/
theorem not_draft_below (h : name ≠ draftName) : ¬ p ++ [draftName] <+: p ++ [name] := by
  rw [List.prefix_append_right_inj]
  intro hp
  exact h (by simpa using (hp.eq_of_length rfl).symm)

theorem node?_published (h : name ≠ draftName)
    (noDraft : ∀ q, p ++ [draftName] <+: q → d.node? q = none) (q : Place) :
    (d.published p name bytes).node? q =
      if q = p ++ [name] ∧ d.node? q = none then some (.file bytes) else d.node? q := by
  by_cases root : q = []
  · simp [root, node?]
  rw [published, node?_prune _ _ root]
  by_cases below : p ++ [draftName] <+: q
  · have other : q ≠ p ++ [name] := by
      rintro rfl
      exact not_draft_below h below
    simp [below, other, noDraft q below]
  · have notDraft : p ++ [draftName] ≠ q := by
      rintro rfl
      exact below (List.prefix_refl _)
    rw [if_neg below]
    by_cases free : d.node? (p ++ [name]) = none
    · rw [if_pos free, node?_put _ _ _ root, node?_put _ _ _ root, if_neg notDraft]
      by_cases here : p ++ [name] = q
      · simp [← here, free]
      · rw [if_neg here, if_neg fun hq => here hq.1.symm]
    · have taken : ¬ (q = p ++ [name] ∧ d.node? q = none) := by
        rintro ⟨rfl, hq⟩
        exact free hq
      rw [if_neg free, node?_put _ _ _ root, if_neg notDraft, if_neg taken]

/-- A node that is put where nothing stood is on no way to a directory. -/
theorem Opens.put_missing (h : d.Opens path p) (missing : d.node? q = none) (n : Node) :
    (d.put q n).Opens path p := by
  refine h.of_directories rfl fun r there => ?_
  by_cases root : r = []
  · simp [root, node?]
  · rw [node?_put _ _ _ root, if_neg]
    · exact there
    · rintro rfl
      rw [missing] at there
      cases there

/-- A file is written where nothing stood. -/
theorem Opens.writeFile_run (h : d.Opens path p) (hname : FileName name)
    (missing : d.node? (p ++ [name]) = none) :
    (writeFile (path.join name) bytes).run d = (.ok (), d.put (p ++ [name]) (.file bytes)) := by
  refine FileAction.change_run ?_
  rw [withFile, h.locate_join hname, ok_bind, missing]

/-- A file is linked under another name in its directory if that is free. -/
theorem Opens.withLink_join (h : d.Opens path p) {source : String} (hsource : FileName source)
    (hname : FileName name) (there : d.node? (p ++ [source]) = some (.file bytes)) :
    d.withLink (path.join source) (path.join name) =
      if d.node? (p ++ [name]) = none then .ok (d.put (p ++ [name]) (.file bytes))
      else .error .alreadyExists := by
  have content : d.content (path.join source) = .ok bytes :=
    content_eq_ok.2 ⟨_, h.locate_join hsource, there⟩
  rw [withLink, content, ok_bind, h.locate_join hname, ok_bind]
  cases d.node? (p ++ [name]) <;> simp

/-- A directory is made in a directory where nothing stood. -/
theorem Opens.makeDirectory_run (h : d.Opens path p) (hname : FileName name) :
    (makeDirectory (path.join name)).run d =
      if d.node? (p ++ [name]) = none then (.ok (), d.put (p ++ [name]) .directory)
      else (.error .alreadyExists, d) := by
  have made : d.withDirectory (path.join name) = d.directoryAt (p ++ [name]) := by
    rw [withDirectory, h.locate_join hname]
    rfl
  cases hnode : d.node? (p ++ [name]) with
  | none =>
    rw [if_pos rfl]
    refine FileAction.change_run ?_
    rw [made, directoryAt, hnode]
  | some n =>
    rw [if_neg (Option.some_ne_none n)]
    refine FileAction.change_run_error ?_
    rw [made, directoryAt, hnode]

/-- A file is moved within its directory to where no directory stood. -/
theorem Opens.moveFile_run (h : d.Opens path p) {source : String} (hsource : FileName source)
    (hname : FileName name) (there : d.node? (p ++ [source]) = some (.file bytes))
    (noDirectory : d.node? (p ++ [name]) ≠ some .directory) :
    (moveFile (path.join source) (path.join name)).run d =
      (.ok (), (d.prune (p ++ [source])).put (p ++ [name]) (.file bytes)) := by
  have content : d.content (path.join source) = .ok bytes :=
    content_eq_ok.2 ⟨_, h.locate_join hsource, there⟩
  refine FileAction.change_run ?_
  rw [withMoved, h.locate_join hsource, ok_bind, content, ok_bind, h.locate_join hname, ok_bind]
  split
  · next directory => exact absurd directory noDirectory
  · rfl

/-- A directory in a directory is removed with all it holds, if it is there. -/
theorem Opens.removeTreeIfPresent_run (h : d.Opens path p) (hname : FileName name)
    (clear : d.node? (p ++ [name]) = none ∨ d.node? (p ++ [name]) = some .directory) :
    (removeTreeIfPresent (path.join name)).run d =
      if d.node? (p ++ [name]) = none then (.ok false, d) else (.ok true, d.prune (p ++ [name])) := by
  rw [removeTreeIfPresent_eq, withoutTree, h.locate_join hname, ok_bind]
  obtain missing | there := clear
  · rw [missing, if_pos rfl]
  · rw [there, if_neg (Option.some_ne_none _)]

/-- Publishing in a directory that has been made: the answer is whether the place of the file was
free. -/
theorem publish_run (made : (makeWay dir).run d = (.ok (), d₁)) (h : d₁.Opens dir p)
    (hname : FileName name) (other : name ≠ draftName)
    (noDraft : ∀ q, p ++ [draftName] <+: q → d₁.node? q = none) :
    (publish dir name bytes).run d =
      (.ok (d₁.node? (p ++ [name])).isNone, d₁.published p name bytes) := by
  have draftMissing : d₁.node? (p ++ [draftName]) = none := noDraft _ (List.prefix_refl _)
  have apart : p ++ [draftName] ≠ p ++ [name] := fun same => other (append_singleton_inj.1 same).symm
  let d₂ := d₁.put (p ++ [draftName]) (.file bytes)
  have open₂ : d₂.Opens dir p := h.put_missing draftMissing _
  have draft₂ : d₂.node? (p ++ [draftName]) = some (.file bytes) :=
    node?_put_self (append_singleton_ne_nil _ _)
  have place₂ : d₂.node? (p ++ [name]) = d₁.node? (p ++ [name]) := by
    rw [node?_put _ _ _ (append_singleton_ne_nil _ _), if_neg apart]
  have link := open₂.withLink_join fileName_draftName hname draft₂
  refine (DiskAction.bind_of_ok made _).trans ?_
  refine (DiskAction.bind_of_ok (h.writeFile_run fileName_draftName draftMissing) _).trans ?_
  -- linked or not, the draft is found and removed
  rw [place₂] at link
  refine (DiskAction.get_bind_run _ d₂).trans ?_
  dsimp only
  rw [link]
  by_cases free : d₁.node? (p ++ [name]) = none
  · rw [if_pos free]
    let d₃ := d₂.put (p ++ [name]) (.file bytes)
    have open₃ : d₃.Opens dir p := open₂.put_missing (place₂.trans free) _
    have draft₃ : d₃.node? (p ++ [draftName]) = some (.file bytes) := by
      rw [node?_put _ _ _ (append_singleton_ne_nil _ _), if_neg apart.symm]
      exact draft₂
    have remove := removeFileIfPresent_run (.file (open₃.locate_join fileName_draftName) draft₃)
    have linked : (ExceptT.run (set d₃ : FileAction PUnit)).run d₂ = (.ok (), d₃) := rfl
    refine (DiskAction.bind_of_ok linked _).trans ?_
    refine (DiskAction.bind_of_ok remove _).trans ?_
    rw [free, published, if_pos free]
    rfl
  · rw [if_neg free]
    have remove := removeFileIfPresent_run (.file (open₂.locate_join fileName_draftName) draft₂)
    refine (DiskAction.bind_of_ok remove _).trans ?_
    rw [published, if_neg free]
    cases hnode : d₁.node? (p ++ [name]) with
    | none => exact absurd hnode free
    | some n => rfl

/-! ### Listing -/

/-- The names at the places of a directory, as they are found. -/
def entriesAt (d : Disk) (p : Place) : List String :=
  d.nodes.filterMap fun e =>
    match e.1.getLast? with
    | some name => if e.1 = p ++ [name] then some name else none
    | none => none

/-- A directory is listed in the order of the names. -/
theorem entryNames_of_opens (h : d.Opens path p) (located : d.locate path = .ok p) :
    d.entryNames path = .ok ((d.entriesAt p).mergeSort fun a b => decide (a ≤ b)) := by
  rw [entryNames, status_of_locate located, h.directory, located]
  rfl

/-- The entry that a node is. -/
theorem entry_eq_some {e : Place} :
    (match e.getLast? with
      | some n => if e = p ++ [n] then some n else none
      | none => none) = some name ↔ e = p ++ [name] := by
  constructor
  · intro h
    cases hlast : e.getLast? with
    | none =>
      rw [hlast] at h
      cases h
    | some n =>
      rw [hlast] at h
      dsimp only at h
      split at h
      · next heq =>
        cases h
        exact heq
      · cases h
  · rintro rfl
    simp

/-- The names that are listed are those at whose places something stands. -/
theorem mem_entriesAt : name ∈ d.entriesAt p ↔ (d.node? (p ++ [name])).isSome := by
  rw [node?, if_neg (append_singleton_ne_nil _ _), entriesAt, List.mem_filterMap]
  simp only [entry_eq_some, Option.isSome_map, List.find?_isSome, beq_iff_eq]

theorem nodup_entriesAt_put (h : (d.entriesAt p).Nodup) (q : Place) (n : Node) :
    ((d.put q n).entriesAt p).Nodup := by
  have rest : ((d.nodes.filter fun e => e.1 ≠ q).filterMap fun e =>
      match e.1.getLast? with
      | some name => if e.1 = p ++ [name] then some name else none
      | none => none).Nodup :=
    h.sublist (List.filter_sublist.filterMap _)
  rw [entriesAt, put, List.filterMap_cons]
  split
  · exact rest
  · next name hname =>
    refine List.nodup_cons.2 ⟨?_, rest⟩
    rw [entry_eq_some] at hname
    rw [List.mem_filterMap]
    rintro ⟨e, he, hsome⟩
    rw [entry_eq_some] at hsome
    have apart : e.1 ≠ q := by simpa using (List.mem_filter.1 he).2
    exact apart (hsome.trans hname.symm)

theorem nodup_entriesAt_prune (h : (d.entriesAt p).Nodup) (q : Place) :
    ((d.prune q).entriesAt p).Nodup :=
  h.sublist (List.filter_sublist.filterMap _)

theorem nodup_entriesAt_published (h : (d.entriesAt p).Nodup) (q : Place) (name : String)
    (bytes : List UInt8) : ((d.published q name bytes).entriesAt p).Nodup := by
  rw [published]
  refine nodup_entriesAt_prune ?_ _
  split
  · exact nodup_entriesAt_put (nodup_entriesAt_put h _ _) _ _
  · exact nodup_entriesAt_put h _ _

end DatasetCatalog.Disk
