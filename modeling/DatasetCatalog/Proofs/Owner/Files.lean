import DatasetCatalog.Proofs.Disk.Tree
import DatasetCatalog.Proofs.Owner.Memory
import DatasetCatalog.Proofs.Owner.Register
import DatasetCatalog.Proofs.Text.Utf8

/-!
# Owner records in a directory

The record of an entity is a file three levels below the directory of the store. `Keeps` says how
the nodes there make up a map: the file of each entity holds the principal that the map has for it,
nothing but directories stands above the files, and no draft is left. From this every operation is
followed through, and it answers what the map answers and keeps the relation (`perform_files`).

Entities share no file and none stands in the way of another, because all records lie equally deep.
-/

namespace DatasetCatalog.Owner

open Disk

/-- The namespace and the name of an entity are safe names that the system takes. -/
structure Storable (entity : EntityId) : Prop where
  safeNamespace : isSafeName entity.namespace = true
  shortNamespace : Utf8.size entity.namespace ≤ nameLimit
  safeName : isSafeName entity.name = true
  shortName : Utf8.size entity.name ≤ nameLimit

instance (entity : EntityId) : Decidable (Storable entity) :=
  decidable_of_iff (isSafeName entity.namespace = true ∧ Utf8.size entity.namespace ≤ nameLimit ∧
      isSafeName entity.name = true ∧ Utf8.size entity.name ≤ nameLimit)
    ⟨fun ⟨h₁, h₂, h₃, h₄⟩ => ⟨h₁, h₂, h₃, h₄⟩, fun ⟨h₁, h₂, h₃, h₄⟩ => ⟨h₁, h₂, h₃, h₄⟩⟩

/-- The entity that an operation is about, if there is one, can be stored. -/
def Operation.Storable : Operation → Prop
  | .add entity _ | .get entity | .isRecorded entity | .delete entity => Owner.Storable entity
  | .reopen => True

instance (op : Operation) : Decidable op.Storable := by
  cases op <;> unfold Operation.Storable <;> infer_instance

namespace Files

variable {d : Disk} {root : Path} {p q : Place} {m : Register} {entity other : EntityId}
  {principal : Principal}

/-- The names that lead from the directory of a store to the directory of a record. -/
def above (entity : EntityId) : List String := [entity.entityType.text, entity.namespace]

/-- The place of the record of an entity. -/
def recordPlace (p : Place) (entity : EntityId) : Place := p ++ above entity ++ [entity.name]

/-- The file of a principal. -/
def fileOf (principal : Principal) : Node := .file (Utf8.encode principal.text)

theorem fileName_text (t : EntityType) : FileName t.text := by
  cases t <;> decide

theorem fileName_above (h : Storable entity) : ∀ n ∈ above entity, FileName n := by
  intro n hn
  rcases List.mem_pair.1 hn with rfl | rfl
  · exact fileName_text _
  · exact fileName_of_isSafeName h.safeNamespace h.shortNamespace

theorem fileName_name (h : Storable entity) : FileName entity.name :=
  fileName_of_isSafeName h.safeName h.shortName

/-- A safe name is not the one of a draft, which is hidden. -/
theorem ne_draftName_of_isSafeName {name : String} (h : isSafeName name = true) :
    name ≠ draftName := by
  rintro rfl
  cases h

theorem text_inj {s t : EntityType} (h : s.text = t.text) : s = t := by
  cases s <;> cases t <;> first | rfl | exact absurd h (by decide)

/-- Entities share no place. -/
theorem recordPlace_inj (h : recordPlace p entity = recordPlace p other) : entity = other := by
  obtain ⟨t, ns, n⟩ := entity
  obtain ⟨t', ns', n'⟩ := other
  simp only [recordPlace, above, List.append_assoc, List.append_cancel_left_eq, List.cons_append,
    List.nil_append, List.cons.injEq, and_true] at h
  obtain ⟨kind, rfl, rfl⟩ := h
  rw [text_inj kind]

/-- The records below a directory are those of a map. -/
structure Keeps (root : Path) (p : Place) (m : Register) (d : Disk) : Prop where
  opens : d.Opens root p
  grown : d.Grown p
  /-- Nothing but directories stands above the records. -/
  clear : ∀ names : Place, names.length ≤ 2 → d.Clear (p ++ names)
  record : ∀ entity, Storable entity → d.node? (recordPlace p entity) = (m.lookup entity).map fileOf
  noDraft : ∀ entity, d.node? (p ++ above entity ++ [draftName]) = none

/-- A store begins in an empty directory, and without records. -/
theorem keeps_of_vacant (h : d.Vacant root p) : Keeps root p ∅ d where
  opens := h.toOpens
  grown := h.grown
  clear names _ := by
    cases names with
    | nil => exact .inr (by rw [List.append_nil]; exact h.directory)
    | cons n rest => exact .inl (h.nothing _ (List.prefix_append _ _) (by simp))
  record entity _ := by
    rw [Finmap.lookup_empty]
    exact h.nothing _ ((List.prefix_append _ _).trans (List.prefix_append _ _))
      (by simp [recordPlace, above])
  noDraft entity := h.nothing _ ((List.prefix_append _ _).trans (List.prefix_append _ _))
    (by simp [above])

namespace Keeps

/-- The path of a record leads to what the map has for its entity. -/
theorem finds (h : Keeps root p m d) (storable : Storable entity) :
    d.Finds ((root.joinAll (above entity)).join entity.name) (recordPlace p entity)
      ((m.lookup entity).map fun principal => Utf8.encode principal.text) := by
  have names : ∀ n ∈ above entity ++ [entity.name], FileName n := by
    intro n hn
    rcases List.mem_append.1 hn with hn | hn
    · exact fileName_above storable n hn
    · rw [List.mem_singleton.1 hn]
      exact fileName_name storable
  have found : d.Finds (root.joinAll (above entity ++ [entity.name]))
      (p ++ (above entity ++ [entity.name]))
      ((m.lookup entity).map fun principal => Utf8.encode principal.text) :=
    h.opens.finds h.grown names (by simp) (fun q hq hne => h.clear q ?_) ?_
  · simpa [Path.joinAll, recordPlace] using found
  · have shorter := hq.length_le
    have notAll : q.length ≠ (above entity ++ [entity.name]).length := fun same =>
      hne (hq.eq_of_length same)
    simp only [above, List.length_append, List.length_cons, List.length_nil] at shorter notAll
    omega
  · rw [← List.append_assoc, Option.map_map]
    exact h.record entity storable

end Keeps

/-! ### The operations -/

theorem directory_run (root : Path) (storable : Storable entity) (d : Disk) :
    (directory root entity).run.run d = (.ok (root.joinAll (above entity)), d) := by
  rw [directory, storable.safeNamespace, storable.safeName]
  rfl

/-- A file operation on the record of an entity that succeeds. -/
theorem onDisk_run {α : Type} {what : String} {a : FileAction α} {x : α} {d' : Disk}
    (h : a.run d = (.ok x, d')) : (onDisk what entity a).run.run d = (.ok x, d') :=
  DiskAction.adapt_run h _

theorem get_run (h : Keeps root p m d) (storable : Storable entity) :
    (get root entity).run.run d = (.ok (m.lookup entity), d) := by
  refine (DiskAction.bind_of_ok (directory_run root storable d) _).trans ?_
  refine (DiskAction.bind_of_ok (onDisk_run (readIfPresent_run (h.finds storable))) _).trans ?_
  cases m.lookup entity with
  | none => rfl
  | some principal =>
    simp only [Option.map_some, Utf8.decode_encode]
    rfl

theorem isRecorded_run (h : Keeps root p m d) (storable : Storable entity) :
    (isRecorded root entity).run.run d = (.ok (m.lookup entity).isSome, d) := by
  refine (DiskAction.bind_of_ok (directory_run root storable d) _).trans ?_
  refine onDisk_run ((FileAction.look_run _ d).trans ?_)
  rw [pathExists_of_finds (h.finds storable), Option.isSome_map]

/-- Deleting a record removes its file, if it is there. -/
theorem delete_pruned (h : Keeps root p m d) (storable : Storable entity) :
    (delete root entity).run.run d =
      (.ok (m.lookup entity).isSome,
        if (m.lookup entity).isSome then d.prune (recordPlace p entity) else d) := by
  have removed : (onDisk "delete" entity (removeFileIfPresent
      ((root.joinAll (above entity)).join entity.name))).run.run d = _ :=
    onDisk_run (removeFileIfPresent_run (h.finds storable))
  rw [Option.isSome_map] at removed
  exact (DiskAction.bind_of_ok (directory_run root storable d) _).trans removed

/-- To delete a record is to remove it from the map. -/
theorem delete_run (h : Keeps root p m d) (storable : Storable entity) :
    ∃ d', (delete root entity).run.run d = (.ok (m.lookup entity).isSome, d') ∧
      Keeps root p (m.erase entity) d' := by
  refine ⟨_, delete_pruned h storable, ?_⟩
  cases hlookup : m.lookup entity with
  | none =>
    refine ⟨h.opens, h.grown, h.clear, fun other hother => ?_, h.noDraft⟩
    refine (h.record other hother).trans ?_
    rw [Register.lookup_erase]
    by_cases here : other = entity
    · rw [if_pos here, here, hlookup]
    · rw [if_neg here]
  | some principal =>
    have there : d.node? (recordPlace p entity) = some (fileOf principal) := by
      rw [h.record entity storable, hlookup]
      rfl
    have length : (recordPlace p entity).length = p.length + 3 := by simp [recordPlace, above]
    rw [Option.isSome_some, if_pos rfl]
    refine ⟨h.opens.prune_file h.grown ?_ there, h.grown.prune _, fun names hnames => ?_,
      fun e he => ?_, fun e => ?_⟩
    · exact (List.prefix_append _ _).trans (List.prefix_append _ _)
    · rw [Clear, node?_prune_outside]
      · exact h.clear names hnames
      · intro hq
        have shorter := hq.length_le
        rw [length, List.length_append] at shorter
        omega
    · rw [Register.lookup_erase]
      by_cases here : e = entity
      · rw [if_pos here, here]
        exact (node?_prune _ _ (append_singleton_ne_nil _ _)).trans (if_pos (List.prefix_refl _))
      · rw [if_neg here, node?_prune_outside, h.record e he]
        intro hq
        exact here (recordPlace_inj (hq.eq_of_length (by simp [recordPlace, above]))).symm
    · rw [node?_prune_outside, h.noDraft e]
      intro hq
      have same : recordPlace p entity = p ++ above e ++ [draftName] :=
        hq.eq_of_length (by simp [length, above])
      have last : entity.name = draftName := by simpa using (List.append_inj' same rfl).2
      exact ne_draftName_of_isSafeName storable.safeName last

/-- The first stops on the way to the directory of a record. -/
theorem stops_take_above (h : Component entity.namespace) (k : Nat) :
    stops p ((above entity).take k) =
      [p ++ [entity.entityType.text], p ++ above entity].take k := by
  have kind := (fileName_text entity.entityType).notUp
  match k with
  | 0 => rfl
  | 1 => simp [stops, above, kind]
  | k + 2 => simp [stops, above, kind, h.notUp]

/-- The stops on the way to the directory of a record. -/
theorem stops_above (storable : Storable entity) : stops p (above entity) =
    [p ++ [entity.entityType.text], p ++ above entity] :=
  stops_take_above (component_of_isSafeName storable.safeNamespace) 2

theorem Keeps.draft (h : Keeps root p m d) (entity : EntityId) :
    ∀ q, p ++ above entity ++ [draftName] <+: q → d.node? q = none := by
  rintro _ ⟨more, rfl⟩
  have inside : p <+: p ++ above entity ++ [draftName] :=
    (List.prefix_append _ _).trans (List.prefix_append _ _)
  exact h.grown.none_below inside (h.noDraft entity) more

/-- The records stay as they are when the first directories on the way to one are made. -/
theorem Keeps.ensure_above (h : Keeps root p m d) (ns : Component entity.namespace) (k : Nat) :
    Keeps root p m (d.ensureAll (stops p ((above entity).take k))) := by
  -- nothing changes at the level of the records
  have deep (q : Place) (hq : q.length = p.length + 3) :
      (d.ensureAll (stops p ((above entity).take k))).node? q = d.node? q := by
    rw [node?_ensureAll, if_neg, Option.or_none]
    rw [stops_take_above ns]
    intro hin
    rcases List.mem_pair.1 (List.mem_of_mem_take hin) with rfl | rfl <;> simp [above] at hq
  refine ⟨h.opens.ensureAll _, ?_, fun names hnames => clear_ensureAll.2 (h.clear names hnames),
    fun e he => ?_, fun e => ?_⟩
  · have first := h.grown.ensure h.opens.directory entity.entityType.text
    have there : (d.ensureAll [p ++ [entity.entityType.text]]).node?
        (p ++ [entity.entityType.text]) = some .directory :=
      directory_ensureAll (h.clear [_] (by simp)) (by simp)
    have second := first.ensure there entity.namespace
    rw [stops_take_above ns]
    match k with
    | 0 => exact h.grown
    | 1 => exact first
    | k + 2 => simpa [above] using second
  · rw [deep _ (by simp [recordPlace, above]), h.record e he]
  · rw [deep _ (by simp [above]), h.noDraft]

/-- The directory of a record is made if it is missing, and the records stay as they are. -/
theorem Keeps.make (h : Keeps root p m d) (storable : Storable entity) :
    let d₁ := d.ensureAll (stops p (above entity))
    (makeWay (root.joinAll (above entity))).run d = (.ok (), d₁) ∧
      d₁.Opens (root.joinAll (above entity)) (p ++ above entity) ∧ Keeps root p m d₁ := by
  have names := fileName_above storable
  have clear : ∀ q ∈ stops p (above entity), d.Clear q := by
    rw [stops_above storable]
    intro q hq
    rcases List.mem_pair.1 hq with rfl | rfl
    · exact h.clear [_] (by simp)
    · exact h.clear (above entity) (by simp [above])
  exact ⟨h.opens.makeWay_run names clear, h.opens.joinAll names clear,
    h.ensure_above (component_of_isSafeName storable.safeNamespace) 2⟩

/-- Publishing a record inserts it into the map, unless its entity has one already. -/
theorem Keeps.publish (h : Keeps root p m d) (storable : Storable entity)
    (opens : d.Opens (root.joinAll (above entity)) (p ++ above entity)) (principal : Principal) :
    Keeps root p (if m.lookup entity = none then m.insert entity principal else m)
      (d.published (p ++ above entity) entity.name (Utf8.encode principal.text)) := by
  have other := ne_draftName_of_isSafeName storable.safeName
  have node (q : Place) : (d.published (p ++ above entity) entity.name
      (Utf8.encode principal.text)).node? q =
        if q = recordPlace p entity ∧ d.node? q = none then some (fileOf principal)
        else d.node? q := node?_published other (h.draft entity) q
  refine ⟨h.opens.published other (h.draft entity),
    h.grown.published (List.prefix_append _ _) opens.directory other (h.noDraft entity),
    fun names hnames => ?_, fun e he => ?_, fun e => ?_⟩
  · rw [Clear, node, if_neg]
    · exact h.clear names hnames
    · rintro ⟨same, -⟩
      have lengths := congrArg List.length same
      simp only [recordPlace, above, List.length_append, List.length_cons,
        List.length_nil] at lengths
      omega
  · rw [node, h.record e he]
    by_cases here : e = entity
    · subst here
      cases hlookup : m.lookup e with
      | none => simp
      | some given => simp [hlookup]
    · have apart : recordPlace p e ≠ recordPlace p entity := fun same => here (recordPlace_inj same)
      by_cases free : m.lookup entity = none
      · simp [apart, free, here]
      · simp [apart, free]
  · rw [node, if_neg, h.noDraft e]
    rintro ⟨same, -⟩
    exact other (by simpa using (List.append_inj' same rfl).2.symm)

theorem validate_run {x : Except OwnerError Unit} (h : validate entity principal = x) (d : Disk) :
    (ExceptT.run (ExceptT.mk (pure (validate entity principal)) : OwnerAction Unit)).run d =
      (x, d) := congrArg (·, d) h

/-- Adding a record that is valid makes its directory and publishes its file there. -/
theorem add_published (h : Keeps root p m d) (storable : Storable entity)
    (valid : validate entity principal = .ok ()) :
    let d₁ := d.ensureAll (stops p (above entity))
    d₁.Opens (root.joinAll (above entity)) (p ++ above entity) ∧ Keeps root p m d₁ ∧
      (add root entity principal).run.run d =
        ((if m.lookup entity = none then .ok () else .error (.alreadyExists entity)),
          d₁.published (p ++ above entity) entity.name (Utf8.encode principal.text)) := by
  intro d₁
  obtain ⟨made, opens, h₁⟩ := h.make storable
  have run : (onDisk "store" entity (publish (root.joinAll (above entity)) entity.name
      (Utf8.encode principal.text))).run.run d = _ :=
    onDisk_run (publish_run made opens (fileName_name storable)
      (ne_draftName_of_isSafeName storable.safeName) (h₁.draft entity))
  have free : (d₁.node? (p ++ above entity ++ [entity.name])).isNone =
      (m.lookup entity).isNone := by
    have record := h₁.record entity storable
    rw [recordPlace] at record
    rw [record, Option.isNone_map]
  refine ⟨opens, h₁, ?_⟩
  refine (DiskAction.bind_of_ok (validate_run valid d) _).trans ?_
  refine (DiskAction.bind_of_ok (directory_run root storable d) _).trans ?_
  refine (DiskAction.bind_of_ok run _).trans ?_
  rw [free]
  cases m.lookup entity <;> rfl

/-- To add a record is to insert it into the map, if the entry is accepted. -/
theorem add_run (h : Keeps root p m d) (storable : Storable entity) (principal : Principal) :
    ∃ d', (add root entity principal).run.run d =
        ((match m.refusal? entity principal with
          | some e => .error e
          | none => .ok ()), d') ∧
      Keeps root p (if m.refusal? entity principal = none then m.insert entity principal else m)
        d' := by
  rw [Register.refusal?_eq]
  cases valid : validate entity principal with
  | error e => exact ⟨d, DiskAction.bind_of_error (validate_run valid d) _, h⟩
  | ok u =>
    obtain ⟨opens, h₁, run⟩ := add_published h storable valid
    have result := h₁.publish storable opens principal
    refine ⟨(d.ensureAll (stops p (above entity))).published (p ++ above entity) entity.name
      (Utf8.encode principal.text), ?_, ?_⟩
    · rw [run]
      cases m.lookup entity <;> rfl
    · cases hlookup : m.lookup entity with
      | none => simpa [hlookup] using result
      | some given => simpa [hlookup] using result

end Files

end DatasetCatalog.Owner
