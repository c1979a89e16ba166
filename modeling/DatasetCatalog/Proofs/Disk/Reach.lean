import DatasetCatalog.Proofs.Disk.Change

/-!
# What operations find at the end of a path

The lemmas on `Changes` follow a run backwards, from what an operation did to what it may have
changed. To show that a store works one has to follow it forwards: the directory is there, so the
file in it is found, so the operation succeeds with exactly this disk. Here are the three facts that
this takes.

* `Opens d path p`: the path leads to a directory, at the place `p`. Joining a `FileName` to such a
  path leads to the place of that name in the directory (`Opens.locate_join`).
* `Finds d path p found`: what stands at the end of a path, a file with its content or nothing.
  Nothing is also found where a directory on the way is missing, because the operations on files that
  may be absent do not tell the two apart.
* The operations on such a file are functions of what is found (`readIfPresent_run`,
  `pathExists_of_finds`, `removeFileIfPresent_run`).
-/

namespace DatasetCatalog

/-! ### Running actions forwards -/

namespace DiskAction

variable {σ ε ε' α β : Type} {s s' : σ}

/-- An action that succeeds is followed by the next one. -/
theorem bind_of_ok {a : ExceptT ε (StateM σ) α} {x : α} (h : (ExceptT.run a).run s = (.ok x, s'))
    (f : α → ExceptT ε (StateM σ) β) :
    (ExceptT.run (a >>= f)).run s = (ExceptT.run (f x)).run s' := by
  rw [bind_run, h]

/-- An action that fails ends all. -/
theorem bind_of_error {a : ExceptT ε (StateM σ) α} {e : ε}
    (h : (ExceptT.run a).run s = (.error e, s')) (f : α → ExceptT ε (StateM σ) β) :
    (ExceptT.run (a >>= f)).run s = (.error e, s') := by
  rw [bind_run, h]

theorem adapt_run {a : ExceptT ε (StateM σ) α} {r : Except ε α}
    (h : (ExceptT.run a).run s = (r, s')) (f : ε → ε') :
    (ExceptT.run (ExceptT.adapt f a)).run s = (r.mapError f, s') := by
  change (Except.mapError f ((ExceptT.run a).run s).1, ((ExceptT.run a).run s).2) = _
  rw [h]

end DiskAction

namespace FileAction

theorem change_run {f : Disk → Except FileError Disk} {d d' : Disk} (h : f d = .ok d') :
    (change f).run d = (.ok (), d') := by
  rcases hrun : (change f).run d with ⟨r, d₁⟩
  rcases change_inv hrun with ⟨rfl, made⟩ | ⟨e, rfl, failed, rfl⟩
  · rw [h] at made
    cases made
    rfl
  · rw [h] at failed
    cases failed

theorem change_run_error {f : Disk → Except FileError Disk} {d : Disk} {e : FileError}
    (h : f d = .error e) : (change f).run d = (.error e, d) := by
  rcases hrun : (change f).run d with ⟨r, d₁⟩
  rcases change_inv hrun with ⟨rfl, made⟩ | ⟨e', rfl, failed, rfl⟩
  · rw [h] at made
    cases made
  · rw [h] at failed
    cases failed
    rfl

end FileAction

namespace Disk

variable {d d' : Disk} {path : Path} {p q : Place} {name : String} {names more : List String}

/-! ### Names that the system takes -/

/-- A single name that the system takes: it does not end early, and it is not too long. -/
structure FileName (name : String) : Prop extends Component name where
  noNul : ∀ c ∈ name.toList, c.toNat ≠ 0
  short : Utf8.size name ≤ nameLimit

instance (name : String) : Decidable (FileName name) :=
  decidable_of_iff (Component name ∧ (name.toList.all fun c => c.toNat ≠ 0) = true ∧
      Utf8.size name ≤ nameLimit)
    ⟨fun ⟨h₁, h₂, h₃⟩ => ⟨h₁, by simpa using h₂, h₃⟩,
      fun h => ⟨h.toComponent, by simpa using h.noNul, h.short⟩⟩

theorem noNul_of_isSafeName (h : isSafeName name = true) : ∀ c ∈ name.toList, c.toNat ≠ 0 := by
  intro c hc
  simp only [isSafeName, Bool.and_eq_true, List.all_eq_true, decide_eq_true_eq, ne_eq] at h
  exact (h.2 c hc).2

/-- A safe name is taken if it is short enough. -/
theorem fileName_of_isSafeName (h : isSafeName name = true) (short : Utf8.size name ≤ nameLimit) :
    FileName name := ⟨component_of_isSafeName h, noNul_of_isSafeName h, short⟩

theorem Path.hasNul_join_component (h : Component name) (inName : ∀ c ∈ name.toList, c.toNat ≠ 0)
    (noNul : path.hasNul = false) : (path.join name).hasNul = false := by
  have slash : ¬ ('/' : Char).toNat = 0 := by decide
  simp only [Path.hasNul, List.any_eq_false, decide_eq_true_eq] at noNul ⊢
  rcases Path.join_text h path with ⟨text, -⟩ | ⟨before, heq, text⟩ | ⟨text, -⟩
  · rw [text]
    exact inName
  · rw [heq] at noNul
    simp only [text, List.mem_append, List.mem_cons] at noNul ⊢
    rintro c (hc | rfl | hc)
    · exact noNul c (.inl hc)
    · exact slash
    · exact inName c hc
  · simp only [text, List.mem_append, List.mem_cons]
    rintro c (hc | rfl | hc)
    · exact noNul c hc
    · exact slash
    · exact inName c hc

theorem Path.hasNul_join (h : FileName name) (noNul : path.hasNul = false) :
    (path.join name).hasNul = false := hasNul_join_component h.toComponent h.noNul noNul

theorem Path.hasNul_of_join (h : Component name) (noNul : (path.join name).hasNul = false) :
    path.hasNul = false := by
  simp only [Path.hasNul, List.any_eq_false, decide_eq_true_eq] at noNul ⊢
  intro c hc
  rcases Path.join_text h path with ⟨-, nothing⟩ | ⟨before, heq, text⟩ | ⟨text, -⟩
  · rw [nothing] at hc
    cases hc
  · refine noNul c ?_
    rw [heq] at hc
    simp only [text, List.mem_append, List.mem_cons, List.not_mem_nil, or_false] at hc ⊢
    exact hc.imp_right .inl
  · exact noNul c (text ▸ List.mem_append_left _ hc)

theorem Path.join_nonempty (h : Component name) (path : Path) :
    (path.join name).text.isEmpty = false := by
  have nonempty : (path.join name).text.toList ≠ [] := by
    rcases Path.join_text h path with ⟨text, -⟩ | ⟨before, -, text⟩ | ⟨text, -⟩
    · rw [text]
      exact h.nonempty
    · simp [text]
    · simp [text]
  rw [Bool.eq_false_iff]
  intro empty
  exact nonempty (by simp [String.isEmpty_iff.1 empty])

/-! ### Walks -/

/-- A walk along more names goes on from where the first ones lead. -/
theorem walk_append (h : d.walk p names = .ok q) : d.walk p (names ++ more) = d.walk q more := by
  induction names generalizing p with
  | nil =>
    cases h
    rfl
  | cons name rest ih =>
    obtain ⟨there, short, hrest⟩ := walk_cons_eq_ok.1 h
    have dir : d.requireDirectory p = .ok () := requireDirectory_eq_ok.2 there
    rw [List.cons_append, walk, dir]
    change (if _ then _ else _) = _
    by_cases up : name = ".."
    · rw [if_pos up] at hrest ⊢
      exact ih hrest
    · rw [if_neg up] at hrest ⊢
      rw [if_neg (Nat.not_lt.2 (short up))]
      exact ih hrest

/-- One step down from a directory. -/
theorem walk_singleton (h : FileName name) (there : d.node? p = some .directory) :
    d.walk p [name] = .ok (p ++ [name]) := by
  refine walk_cons_eq_ok.2 ⟨there, fun _ => h.short, ?_⟩
  rw [if_neg h.notUp, walk]

/-! ### Directories at the end of a path -/

/-- A path leads to a directory. -/
structure Opens (d : Disk) (path : Path) (p : Place) : Prop where
  noNul : path.hasNul = false
  walked : d.walk (d.origin path) path.names = .ok p
  directory : d.node? p = some .directory

namespace Opens

theorem of_locate (h : d.locate path = .ok p) (there : d.node? p = some .directory) :
    d.Opens path p := by
  obtain ⟨noNul, -, walked⟩ := locate_eq_ok h
  exact ⟨noNul, walked, there⟩

/-- Where a component can be looked for, there is a directory. -/
theorem of_locate_join (h : d.locate (path.join name) = .ok q) (hname : Component name) :
    d.Opens path (d.placeOf path) := by
  obtain ⟨noNul, -, walked⟩ := locate_eq_ok h
  rw [origin_join hname, Path.names_join hname] at walked
  exact ⟨Path.hasNul_of_join hname noNul, walk_init walked,
    directory_of_crosses h (crosses_placeOf hname path)⟩

/-- The directories on the way. -/
theorem crossed (h : d.Opens path p) (hq : d.Crosses path q) : d.node? q = some .directory := by
  obtain ⟨k, hk, rfl⟩ := hq
  exact directory_of_walk h.walked hk

/-- The path leads to the directory for as long as it and those on the way are kept. -/
theorem of_kept (h : d.Opens path p) (same : d'.workingDirectory = d.workingDirectory)
    (kept : ∀ q, d.Crosses path q ∨ q = p → d'.node? q = some .directory) : d'.Opens path p := by
  refine ⟨h.noNul, ?_, kept p (.inr rfl)⟩
  rw [origin, same]
  exact walk_congr h.walked fun k hk _ => kept _ (.inl ⟨k, hk, rfl⟩)

/-- The path leads to the directory still if neither it nor the way is in the area. -/
theorem of_spares {area : Place → Prop} (h : d.Opens path p) (spares : Spares area d d')
    (avoids : ∀ q, d.Crosses path q ∨ q = p → ¬ area q) : d'.Opens path p := by
  refine h.of_kept spares.workingDirectory fun q hq => ?_
  rw [spares.beyond q (avoids q hq)]
  rcases hq with crossed | rfl
  · exact h.crossed crossed
  · exact h.directory

/-- The path leads to the directory for as long as no directory goes away. -/
theorem of_directories (h : d.Opens path p) (same : d'.workingDirectory = d.workingDirectory)
    (kept : ∀ q, d.node? q = some .directory → d'.node? q = some .directory) :
    d'.Opens path p := by
  refine h.of_kept same fun q hq => kept q ?_
  rcases hq with crossed | rfl
  · exact h.crossed crossed
  · exact h.directory

/-- A name in a directory has its place there, whether anything stands in it or not. -/
theorem locate_join (h : d.Opens path p) (hname : FileName name) :
    d.locate (path.join name) = .ok (p ++ [name]) := by
  refine locate_of_walk (Path.hasNul_join hname h.noNul) (Path.join_nonempty hname.toComponent _) ?_
  rw [origin_join hname.toComponent, Path.names_join hname.toComponent, walk_append h.walked,
    walk_singleton hname h.directory]

/-- A name that is too long has no place in any directory. -/
theorem locate_join_long (h : d.Opens path p) (safe : isSafeName name = true)
    (long : nameLimit < Utf8.size name) : d.locate (path.join name) = .error .nameTooLong := by
  have component := component_of_isSafeName safe
  have notNul : ¬ (path.join name).hasNul = true := by
    simp [Path.hasNul_join_component component (noNul_of_isSafeName safe) h.noNul]
  have notEmpty := Path.join_nonempty component path
  have there : d.requireDirectory p = .ok () := requireDirectory_eq_ok.2 h.directory
  rw [locate, if_neg notNul, if_neg (by simp [notEmpty]), origin_join component,
    Path.names_join component, walk_append h.walked, walk, there]
  change (if _ then _ else _) = _
  rw [if_neg component.notUp, if_pos long]

/-- There is no way through a directory that is missing. -/
theorem locate_lost (h : d.Opens path p) (hname : FileName name)
    (missing : d.node? (p ++ [name]) = none) {file : String} (hfile : FileName file) :
    d.locate ((path.join name).join file) = .error .notFound := by
  have notNul : ¬ ((path.join name).join file).hasNul = true := by
    simp [Path.hasNul_join hfile (Path.hasNul_join hname h.noNul)]
  have notEmpty := Path.join_nonempty hfile.toComponent (path.join name)
  have first : d.walk (d.origin path) (path.names ++ [name]) = .ok (p ++ [name]) := by
    rw [walk_append h.walked, walk_singleton hname h.directory]
  have lost : d.requireDirectory (p ++ [name]) = .error .notFound := by
    rw [requireDirectory, missing]
  rw [locate, if_neg notNul, if_neg (by simp [notEmpty]), origin_join hfile.toComponent,
    origin_join hname.toComponent, Path.names_join hfile.toComponent,
    Path.names_join hname.toComponent, walk_append first, walk, lost]
  rfl

/-- A directory in a directory. -/
theorem join (h : d.Opens path p) (hname : FileName name)
    (there : d.node? (p ++ [name]) = some .directory) : d.Opens (path.join name) (p ++ [name]) :=
  .of_locate (h.locate_join hname) there

end Opens

/-! ### Files at the end of a path -/

/-- What is found at the end of a path, which is at the place `p`: a file or nothing. -/
inductive Finds (d : Disk) (path : Path) (p : Place) : Option (List UInt8) → Prop
  | file {bytes : List UInt8} (located : d.locate path = .ok p)
      (there : d.node? p = some (.file bytes)) : Finds d path p (some bytes)
  | nothing (located : d.locate path = .ok p) (missing : d.node? p = none) : Finds d path p none
  /-- A directory on the way is missing. -/
  | noWay (lost : d.locate path = .error .notFound) : Finds d path p none

variable {found : Option (List UInt8)}

/-- What is found has a status, or none. -/
theorem status_of_finds (h : d.Finds path p found) :
    d.status path = match found with
      | some bytes => .ok (.file bytes)
      | none => .error .notFound := by
  cases h with
  | file located there => rw [status_of_locate located, there]
  | nothing located missing => rw [status_of_locate located, missing]
  | noWay lost =>
    rw [status, lost]
    rfl

theorem content_of_finds (h : d.Finds path p found) :
    d.content path = match found with
      | some bytes => .ok bytes
      | none => .error .notFound := by
  rw [content, status_of_finds h]
  cases found <;> rfl

/-- Reading a file that may be absent answers what is found. -/
theorem readIfPresent_run (h : d.Finds path p found) :
    (readIfPresent path).run d = (.ok found, d) := by
  rw [readIfPresent, FileAction.look_run, content_of_finds h]
  cases found <;> rfl

theorem pathExists_of_finds (h : d.Finds path p found) :
    d.pathExists path = .ok found.isSome := by
  rw [pathExists, status_of_finds h]
  cases found <;> rfl

/-- Removing a file that may be absent takes away what is found. -/
theorem removeFileIfPresent_run (h : d.Finds path p found) :
    (removeFileIfPresent path).run d =
      (.ok found.isSome, if found.isSome then d.prune p else d) := by
  rw [removeFileIfPresent, FileAction.run, DiskAction.get_bind_run, withoutFile]
  cases h with
  | file located there =>
    rw [located, ok_bind, there]
    rfl
  | nothing located missing =>
    rw [located, ok_bind, missing]
    rfl
  | noWay lost =>
    rw [lost]
    rfl

/-- Where a path has no place nothing is removed. -/
theorem removeFileIfPresent_lost (h : ∀ p, d.locate path ≠ .ok p) {r : Except FileError Bool}
    (run : (removeFileIfPresent path).run d = (r, d')) : d' = d := by
  rw [removeFileIfPresent, FileAction.run, DiskAction.get_bind_run, withoutFile] at run
  cases located : d.locate path with
  | ok p => exact absurd located (h p)
  | error e =>
    rw [located] at run
    cases e <;>
    · cases run
      rfl

end Disk

end DatasetCatalog
