import DatasetCatalog.Proofs.Disk.Confine
import DatasetCatalog.Proofs.Owner.Files

/-!
# What the owner store leaves alone

An operation on the record of an entity touches this record and the two directories above it, and
nothing else (`add_stays`, `delete_stays`), and what is found for an entity depends on its own record
(`get_congr`).

There is one exception to the latter. A namespace that is no safe name is refused at once, but one that
is safe and too long for a name is only found out on the way. An add then leaves the directory of the
kind (`add_overlong`), for the way is made from the top down; and once this directory is there, looking
for any owner under the namespace fails, where before there was none to be found (`get_overlong`).
-/

namespace DatasetCatalog.Owner.Files

open Disk

variable {d d' : Disk} {root : Path} {p w : Place} {area : Place → Prop} {m m' : Register}
  {entity : EntityId} {principal : Principal}

/-- The record of an entity and the directories above it. -/
def recordArea (p : Place) (entity : EntityId) : Place → Prop := fun q =>
  q = p ++ [entity.entityType.text] ∨ q = p ++ above entity ∨ q = recordPlace p entity

theorem inside_of_recordArea {q : Place} (h : recordArea p entity q) : inside p q := by
  rcases h with rfl | rfl | rfl <;> exact ⟨entity.entityType.text, by simp [above, recordPlace]⟩

/-- The records are those of the map, whatever happens elsewhere. -/
theorem Keeps.of_aloof (h : Keeps root (placeFrom w root) m d) (hw : d.workingDirectory = w)
    (spares : Spares area d d') (aloof : Aloof w root area) :
    Keeps root (placeFrom w root) m d' := by
  have same (names : Place) : d'.node? (placeFrom w root ++ names) =
      d.node? (placeFrom w root ++ names) :=
    spares.beyond _ (aloof _ (.inr (List.prefix_append _ _)))
  refine ⟨h.opens.of_aloof hw spares aloof, h.grown.of_aloof spares aloof, fun names hnames => ?_,
    fun e he => ?_, fun e => ?_⟩
  · rw [Clear, same]
    exact h.clear names hnames
  · rw [recordPlace, List.append_assoc, same, ← List.append_assoc]
    exact h.record e he
  · rw [List.append_assoc, same, ← List.append_assoc]
    exact h.noDraft e

/-! ### Looking up -/

/-- A directory is found by safe names only, without a look at the disk. -/
theorem directory_cases (root : Path) (entity : EntityId) :
    (isSafeName entity.namespace = true ∧ isSafeName entity.name = true ∧
      ∀ d, (directory root entity).run.run d = (.ok (root.joinAll (above entity)), d)) ∨
    ∃ e, ∀ d, (directory root entity).run.run d = (.error e, d) := by
  cases ns : isSafeName entity.namespace with
  | false => exact .inr ⟨_, fun d => by rw [directory, ns]; rfl⟩
  | true =>
    cases n : isSafeName entity.name with
    | false => exact .inr ⟨_, fun d => by rw [directory, ns, n]; rfl⟩
    | true => exact .inl ⟨rfl, rfl, fun d => by rw [directory, ns, n]; rfl⟩

/-- Looking an owner up changes nothing. -/
theorem get_reads {r : Except OwnerError (Option Principal)}
    (run : (get root entity).run.run d = (r, d')) : d' = d := by
  obtain ⟨-, -, found⟩ | ⟨e, refused⟩ := directory_cases root entity
  · replace run := (DiskAction.bind_of_ok (found d) _).symm.trans run
    rcases DiskAction.bind_inv run with ⟨bytes, d₁, hread, hrest⟩ | ⟨e, hread, -⟩
    · obtain ⟨_, hlook, -⟩ := DiskAction.adapt_inv hread
      obtain ⟨-, rfl⟩ := FileAction.look_inv hlook
      cases bytes with
      | none => exact (DiskAction.pure_inv hrest).2
      | some bytes =>
        dsimp only at hrest
        split at hrest
        · exact (DiskAction.pure_inv hrest).2
        · exact (DiskAction.throw_inv hrest).2
    · obtain ⟨_, hlook, -⟩ := DiskAction.adapt_inv hread
      exact (FileAction.look_inv hlook).2
  · cases (DiskAction.bind_of_error (refused d) _).symm.trans run
    rfl

/-- Where the record of an entity is the same, the same is found for it. -/
theorem get_congr (h : Keeps root p m d) (h' : Keeps root p m' d')
    (short : Utf8.size entity.name ≤ nameLimit)
    (ns : isSafeName entity.namespace = true → Utf8.size entity.namespace ≤ nameLimit)
    (same : d'.node? (recordPlace p entity) = d.node? (recordPlace p entity)) :
    ((get root entity).run.run d').1 = ((get root entity).run.run d).1 := by
  obtain ⟨safeNs, safe, -⟩ | ⟨e, refused⟩ := directory_cases root entity
  · have storable : Storable entity := ⟨safeNs, ns safeNs, safe, short⟩
    rw [get_run h storable, get_run h' storable]
    rw [h.record entity storable, h'.record entity storable] at same
    have injective : Function.Injective fileOf := by
      intro a b files
      have bytes : Utf8.encode a.text = Utf8.encode b.text := by simpa [fileOf] using files
      have decoded := Utf8.decode_encode a.text
      rw [bytes, Utf8.decode_encode] at decoded
      cases a
      cases b
      cases decoded
      rfl
    exact congrArg Except.ok (Option.map_injective injective same)
  · have fails (d : Disk) : ((get root entity).run.run d) = (.error e, d) :=
      DiskAction.bind_of_error (refused d) _
    rw [fails, fails]

/-! ### Namespaces that are too long -/

theorem names_above (ns : Component entity.namespace) :
    (root.joinAll (above entity)).names = root.names ++ above entity := by
  have joined : root.joinAll (above entity) =
      (root.join entity.entityType.text).join entity.namespace := rfl
  rw [joined, Path.names_join ns, Path.names_join (fileName_text _).toComponent, List.append_assoc]
  rfl

theorem origin_above (ns : Component entity.namespace) :
    d.origin (root.joinAll (above entity)) = d.origin root := by
  have joined : root.joinAll (above entity) =
      (root.join entity.entityType.text).join entity.namespace := rfl
  rw [joined, origin_join ns, origin_join (fileName_text _).toComponent]

/-- An entity whose namespace could be that of a record if it were shorter. -/
structure Overlong (entity : EntityId) : Prop where
  safeNamespace : isSafeName entity.namespace = true
  long : nameLimit < Utf8.size entity.namespace
  safeName : isSafeName entity.name = true

theorem directory_overlong (root : Path) (overlong : Overlong entity) (d : Disk) :
    (directory root entity).run.run d = (.ok (root.joinAll (above entity)), d) := by
  rw [directory, overlong.safeNamespace, overlong.safeName]
  rfl

/-- The way to a record ends at the namespace, or before it for want of a directory. -/
theorem Keeps.walk_overlong (h : Keeps root p m d) (overlong : Overlong entity)
    (more : List String) :
    d.walk (d.origin root) (root.names ++ (above entity ++ more)) =
      .error (if d.node? (p ++ [entity.entityType.text]) = none then .notFound
        else .nameTooLong) := by
  have kind := fileName_text entity.entityType
  have ns := component_of_isSafeName overlong.safeNamespace
  have first : d.walk p (above entity ++ more) =
      d.walk (p ++ [entity.entityType.text]) (entity.namespace :: more) :=
    walk_append (walk_singleton kind h.opens.directory)
  rw [walk_append h.opens.walked, first, walk]
  rcases h.clear [entity.entityType.text] (by simp) with missing | there
  · rw [requireDirectory, missing, if_pos rfl]
    rfl
  · have passed : d.requireDirectory (p ++ [entity.entityType.text]) = .ok () :=
      requireDirectory_eq_ok.2 there
    rw [passed, there, if_neg (Option.some_ne_none _)]
    change (if _ then _ else _) = _
    rw [if_neg ns.notUp, if_pos overlong.long]

theorem Keeps.hasNul_above (h : Keeps root p m d) (safe : isSafeName entity.namespace = true) :
    (root.joinAll (above entity)).hasNul = false :=
  Path.hasNul_join_component (component_of_isSafeName safe) (noNul_of_isSafeName safe)
    (Path.hasNul_join (fileName_text _) h.opens.noNul)

theorem locate_overlong (h : Keeps root p m d) (overlong : Overlong entity) :
    d.locate ((root.joinAll (above entity)).join entity.name) =
      .error (if d.node? (p ++ [entity.entityType.text]) = none then .notFound
        else .nameTooLong) := by
  have ns := component_of_isSafeName overlong.safeNamespace
  have name := component_of_isSafeName overlong.safeName
  have notNul : ¬ ((root.joinAll (above entity)).join entity.name).hasNul = true := by
    simp [Path.hasNul_join_component name (noNul_of_isSafeName overlong.safeName)
      (h.hasNul_above overlong.safeNamespace)]
  have notEmpty := Path.join_nonempty name (root.joinAll (above entity))
  rw [locate, if_neg notNul, if_neg (by simp [notEmpty]), origin_join name, origin_above ns,
    Path.names_join name, names_above ns, List.append_assoc, h.walk_overlong overlong]

/-- Under a namespace that is too long nothing is found, and once the directory above it is there,
nothing can be looked for. -/
theorem get_overlong (h : Keeps root p m d) (overlong : Overlong entity) :
    (get root entity).run.run d =
      (if d.node? (p ++ [entity.entityType.text]) = none then .ok none
        else .error (.storage ("Failed to read owner of " ++ entity.text ++ ": " ++
          FileError.nameTooLong.message)), d) := by
  have lost := locate_overlong h overlong
  refine (DiskAction.bind_of_ok (directory_overlong root overlong d) _).trans ?_
  by_cases missing : d.node? (p ++ [entity.entityType.text]) = none
  · rw [if_pos missing] at lost ⊢
    exact DiskAction.bind_of_ok (onDisk_run (readIfPresent_run (.noWay (p := p) lost))) _
  · rw [if_neg missing] at lost ⊢
    have unread : (readIfPresent ((root.joinAll (above entity)).join entity.name)).run d =
        (.error .nameTooLong, d) := by
      rw [readIfPresent, FileAction.look_run, content, status, lost]
      rfl
    exact DiskAction.bind_of_error (DiskAction.adapt_run unread _) _

/-- Of the way to a record under such a namespace, only the directory above the namespace is made. -/
theorem makeWay_overlong (h : Keeps root p m d) (overlong : Overlong entity) :
    (makeWay (root.joinAll (above entity))).run d =
      (.error .nameTooLong, d.ensure (p ++ [entity.entityType.text])) := by
  have ns := component_of_isSafeName overlong.safeNamespace
  have kind := fileName_text entity.entityType
  have split : root.names ++ above entity =
      (root.names ++ [entity.entityType.text]) ++ [entity.namespace] := by simp [above]
  have walked := h.walk_overlong overlong []
  rw [List.append_nil, split] at walked
  rw [makeWay_run_eq, if_neg (by simp [h.hasNul_above overlong.safeNamespace]), origin_above ns,
    names_above ns, split, List.reverse_append, List.reverse_singleton, List.singleton_append, makeChain_cons,
    List.reverse_cons, List.reverse_reverse, makeDirectoryFrom_run_lost walked]
  rcases h.clear [entity.entityType.text] (by simp) with missing | there
  · rw [if_pos missing]
    -- the directory above the namespace is made, and then the attempt at the namespace is repeated
    have reached : d.walk (d.origin root) (root.names ++ [entity.entityType.text]) =
        .ok (p ++ [entity.entityType.text]) := by
      rw [walk_append h.opens.walked, walk_singleton kind h.opens.directory]
    have chain := makeChain_run (passable_of_walk reached (.inl missing))
    have there : d.ensureAll (stops (d.origin root) root.names) = d :=
      ensureAll_of_directories h.opens.stops_there
    rw [stops_snoc, ensureAll_append, there, ← eq_spelled_of_walk reached] at chain
    have again : (d.ensure (p ++ [entity.entityType.text])).walk (d.origin root)
        ((root.names ++ [entity.entityType.text]) ++ [entity.namespace]) = .error .nameTooLong := by
      have later := (h.ensure_above ns 1).walk_overlong overlong []
      have made := directory_ensureAll (.inl missing) (List.mem_singleton_self _)
      rw [stops_take_above ns, List.append_nil, split, List.take_succ_cons, List.take_zero, made,
        if_neg (Option.some_ne_none _), origin, ensureAll_workingDirectory] at later
      exact later
    refine (DiskAction.bind_of_ok chain _).trans ?_
    refine (DiskAction.bind_of_ok (FileAction.look_run _ _) _).trans ?_
    rw [ensureAll_cons, ensureAll_nil, makeDirectoryFrom_run_lost again]
    exact unlessDirectory_run_lost again
  · rw [if_neg (by simp [there]), ensure_of_some there]
    exact unlessDirectory_run_lost walked

/-- Nothing can be recorded under such a namespace, and all that is left of the attempt is the directory
above it. -/
theorem add_overlong (h : Keeps root p m d) (overlong : Overlong entity)
    (valid : validate entity principal = .ok ()) :
    (add root entity principal).run.run d =
      (.error (.storage ("Failed to store owner of " ++ entity.text ++ ": " ++
        FileError.nameTooLong.message)), d.ensure (p ++ [entity.entityType.text])) := by
  have failed : (publish (root.joinAll (above entity)) entity.name
      (Utf8.encode principal.text)).run d =
        (.error .nameTooLong, d.ensure (p ++ [entity.entityType.text])) :=
    DiskAction.bind_of_error (makeWay_overlong h overlong) _
  refine (DiskAction.bind_of_ok (validate_run valid d) _).trans ?_
  refine (DiskAction.bind_of_ok (directory_overlong root overlong d) _).trans ?_
  exact DiskAction.bind_of_error (DiskAction.adapt_run failed _) _

/-! ### Changes -/

/-- Making the first directories above a record touches nothing else. -/
theorem touches_above (ns : Component entity.namespace) (k : Nat) :
    Touches (recordArea p entity) d (d.ensureAll (stops p ((above entity).take k))) := by
  refine .ensureAll_missing fun q hq => .inr ?_
  rw [stops_take_above ns] at hq
  rcases List.mem_pair.1 (List.mem_of_mem_take hq) with rfl | rfl
  · exact .inl rfl
  · exact .inr (.inl rfl)

/-- An add touches the record of its entity and what is above it only. -/
theorem add_stays (h : Keeps root p m d) (short : Utf8.size entity.name ≤ nameLimit)
    {r : Except OwnerError Unit} (run : (add root entity principal).run.run d = (r, d')) :
    (∃ m', Keeps root p m' d') ∧ Touches (recordArea p entity) d d' := by
  cases valid : validate entity principal with
  | error e =>
    cases (DiskAction.bind_of_error (validate_run valid d) _).symm.trans run
    exact ⟨⟨_, h⟩, .refl _ _⟩
  | ok u =>
    obtain ⟨safeNs, safe, -⟩ | ⟨e, refused⟩ := directory_cases root entity
    · have ns := component_of_isSafeName safeNs
      by_cases shortNs : Utf8.size entity.namespace ≤ nameLimit
      · have storable : Storable entity := ⟨safeNs, shortNs, safe, short⟩
        obtain ⟨opens, h₁, published⟩ := add_published h storable valid
        cases published.symm.trans run
        have other := ne_draftName_of_isSafeName safe
        exact ⟨⟨_, h₁.publish storable opens principal⟩,
          (touches_above ns 2).trans (.published other (h₁.draft entity) (.inr (.inr rfl)))⟩
      · have overlong : Overlong entity := ⟨safeNs, Nat.lt_of_not_le shortNs, safe⟩
        cases (add_overlong h overlong valid).symm.trans run
        have kept := h.ensure_above ns 1
        have touches : Touches (recordArea p entity) d _ := touches_above ns 1
        rw [stops_take_above ns] at kept touches
        exact ⟨⟨_, kept⟩, touches⟩
    · replace run := (DiskAction.bind_of_ok (validate_run valid d) _).symm.trans run
      cases (DiskAction.bind_of_error (refused d) _).symm.trans run
      exact ⟨⟨_, h⟩, .refl _ _⟩

/-- A delete touches the record of its entity only. -/
theorem delete_stays (h : Keeps root p m d) (short : Utf8.size entity.name ≤ nameLimit)
    {r : Except OwnerError Bool} (run : (delete root entity).run.run d = (r, d')) :
    (∃ m', Keeps root p m' d') ∧ Touches (recordArea p entity) d d' := by
  obtain ⟨safeNs, safe, found⟩ | ⟨e, refused⟩ := directory_cases root entity
  · by_cases shortNs : Utf8.size entity.namespace ≤ nameLimit
    · have storable : Storable entity := ⟨safeNs, shortNs, safe, short⟩
      obtain ⟨d₁, run₁, keeps⟩ := delete_run h storable
      cases run₁.symm.trans run
      refine ⟨⟨_, keeps⟩, ?_⟩
      cases (delete_pruned h storable).symm.trans run
      have there := h.record entity storable
      cases hlookup : m.lookup entity with
      | none => exact .refl _ _
      | some principal =>
        rw [hlookup] at there
        have within : p <+: recordPlace p entity :=
          (List.prefix_append _ _).trans (List.prefix_append _ _)
        exact .prune_file h.grown within there (.inr (.inr rfl))
    · have overlong : Overlong entity := ⟨safeNs, Nat.lt_of_not_le shortNs, safe⟩
      have lost : ∀ q, d.locate ((root.joinAll (above entity)).join entity.name) ≠ .ok q := by
        intro q located
        rw [locate_overlong h overlong] at located
        cases located
      replace run := (DiskAction.bind_of_ok (found d) _).symm.trans run
      obtain ⟨_, removed, -⟩ := DiskAction.adapt_inv run
      obtain rfl := removeFileIfPresent_lost lost removed
      exact ⟨⟨_, h⟩, .refl _ _⟩
  · cases (DiskAction.bind_of_error (refused d) _).symm.trans run
    exact ⟨⟨_, h⟩, .refl _ _⟩

end DatasetCatalog.Owner.Files
