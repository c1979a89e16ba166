import Mathlib.Data.List.Induction
import DatasetCatalog.Proofs.Disk.Reach

/-!
# Making a chain of directories

`makeDirectories` tries the whole path first and goes up from there, so what it does is spread over
a recursion whose steps look at the disk twice. Its outcome is simple all the same, and the rest of
the development only uses that: if nothing but directories stands on the way (`Passable`), it
succeeds and has put a directory at every stop of the way where nothing stood (`Makeable.run`).
Otherwise it fails (`makeDirectories_ok_iff`). Of a path that ends in `.` the last stop is not made, so
for it to succeed the last stop must be there by the time that those above it are (`Stands`).

The induction is on the names from the last one, as the recursion is. A step is the same whether the
chain above had to be made first or not: by then the walk reaches the last stop, and a directory is
put there or found there (`lastStop_run`).
-/

namespace DatasetCatalog.Disk

variable {d d' : Disk} {start p q s : Place} {path : Path} {name : String}
  {names more : List String}

/-! ### Putting directories where nothing stands -/

/-- Puts a directory at a place if nothing stands there. -/
def ensure (d : Disk) (p : Place) : Disk :=
  if (d.node? p).isSome then d else d.put p .directory

/-- Puts directories at all the places where nothing stands. -/
def ensureAll (d : Disk) (ps : List Place) : Disk := ps.foldl ensure d

@[simp] theorem ensureAll_nil (d : Disk) : d.ensureAll [] = d := rfl

@[simp] theorem ensureAll_cons (d : Disk) (p : Place) (ps : List Place) :
    d.ensureAll (p :: ps) = (d.ensure p).ensureAll ps := rfl

theorem ensureAll_append (d : Disk) (ps qs : List Place) :
    d.ensureAll (ps ++ qs) = (d.ensureAll ps).ensureAll qs := List.foldl_append

theorem ensure_of_some {n : Node} (h : d.node? p = some n) : d.ensure p = d := by
  simp [ensure, h]

theorem ensure_of_none (h : d.node? p = none) : d.ensure p = d.put p .directory := by
  simp [ensure, h]

theorem ensureAll_of_directories {ps : List Place}
    (h : ∀ p ∈ ps, d.node? p = some .directory) : d.ensureAll ps = d := by
  induction ps with
  | nil => rfl
  | cons p ps ih =>
    have first := ensure_of_some (h p List.mem_cons_self)
    have rest := ih fun q hq => h q (List.mem_cons_of_mem _ hq)
    simp only [ensureAll_cons, first, rest]

theorem node?_ensure (d : Disk) (p q : Place) :
    (d.ensure p).node? q = (d.node? q).or (if p = q then some .directory else none) := by
  by_cases root : q = []
  · simp [node?, root]
  · cases hp : d.node? p with
    | some n =>
      rw [ensure_of_some hp]
      by_cases same : p = q
      · simp [← same, hp]
      · simp [same]
    | none =>
      rw [ensure_of_none hp, node?_put d p _ root]
      by_cases same : p = q
      · simp [← same, hp]
      · simp [same]

/-- What stood stands, and there is a directory at each of the other places. -/
theorem node?_ensureAll (d : Disk) (ps : List Place) (q : Place) :
    (d.ensureAll ps).node? q = (d.node? q).or (if q ∈ ps then some .directory else none) := by
  induction ps generalizing d with
  | nil => simp
  | cons p ps ih =>
    rw [ensureAll_cons, ih, node?_ensure]
    by_cases first : p = q
    · subst first
      cases d.node? p <;> simp
    · simp [first, Ne.symm first]

@[simp] theorem ensure_workingDirectory (d : Disk) (p : Place) :
    (d.ensure p).workingDirectory = d.workingDirectory := by
  rw [ensure]
  split <;> rfl

@[simp] theorem ensureAll_workingDirectory (d : Disk) (ps : List Place) :
    (d.ensureAll ps).workingDirectory = d.workingDirectory := by
  induction ps generalizing d with
  | nil => rfl
  | cons p ps ih => rw [ensureAll_cons, ih, ensure_workingDirectory]

theorem Spares.ensureAll {area : Place → Prop} {ps : List Place} (h : ∀ p ∈ ps, area p) :
    Spares area d (d.ensureAll ps) := by
  refine ⟨ensureAll_workingDirectory d ps, fun q hq => ?_⟩
  rw [node?_ensureAll, if_neg fun hin => hq (h q hin), Option.or_none]

/-- Nothing or a directory stands at a place. -/
abbrev Clear (d : Disk) (p : Place) : Prop := d.node? p = none ∨ d.node? p = some .directory

theorem clear_ensureAll {ps : List Place} : (d.ensureAll ps).Clear q ↔ d.Clear q := by
  simp only [Clear, node?_ensureAll]
  cases d.node? q with
  | none =>
    by_cases h : q ∈ ps <;> simp [h]
  | some n => simp

theorem directory_ensureAll {ps : List Place} (clear : d.Clear q) (h : q ∈ ps) :
    (d.ensureAll ps).node? q = some .directory := by
  rcases clear with hq | hq <;> simp [node?_ensureAll, hq, h]

/-! ### The stops of a way -/

/-- The places that names lead to from a place, one after the other. -/
def stops (start : Place) : List String → List Place
  | [] => []
  | name :: rest =>
    let next := if name = ".." then start.dropLast else start ++ [name]
    next :: stops next rest

theorem stops_append (start : Place) (names more : List String) :
    stops start (names ++ more) = stops start names ++ stops (spelled start names) more := by
  induction names generalizing start with
  | nil => rfl
  | cons name rest ih => simp [stops, spelled, ih]

theorem stops_snoc (start : Place) (names : List String) (name : String) :
    stops start (names ++ [name]) = stops start names ++ [spelled start (names ++ [name])] := by
  rw [stops_append, spelled_append]
  rfl

/-- A stop is where the first names lead. -/
theorem exists_take_of_mem_stops (h : p ∈ stops start names) :
    ∃ k ≤ names.length, p = spelled start (names.take k) := by
  induction names generalizing start with
  | nil => simp [stops] at h
  | cons name rest ih =>
    rw [stops] at h
    rcases List.mem_cons.1 h with rfl | later
    · exact ⟨1, by simp, by simp [spelled]⟩
    · obtain ⟨k, hk, rfl⟩ := ih later
      exact ⟨k + 1, by simpa using hk, by rw [List.take_succ_cons, spelled]⟩

/-! ### Ways that can be made -/

/-- Nothing but directories stands on a way, and its names can be taken. -/
structure Passable (d : Disk) (start : Place) (names : List String) : Prop where
  begins : names ≠ [] → d.node? start = some .directory
  clear : ∀ p ∈ stops start names, d.Clear p
  short : ∀ name ∈ names, name ≠ ".." → Utf8.size name ≤ nameLimit

theorem Passable.init (h : d.Passable start (names ++ [name])) : d.Passable start names where
  begins _ := h.begins (by simp)
  clear p hp := h.clear p (by simp [stops_snoc, hp])
  short n hn := h.short n (by simp [hn])

/-- A way is passable, and stays so, while directories are put on it. -/
theorem Passable.ensureAll (h : d.Passable start names) (ps : List Place) :
    (d.ensureAll ps).Passable start names where
  begins hne := by simp [node?_ensureAll, h.begins hne]
  clear p hp := clear_ensureAll.2 (h.clear p hp)
  short := h.short

/-- The walk along a passable way stops, if at all, for want of a directory. -/
theorem Passable.walk (h : d.Passable start names) :
    d.walk start names = .ok (spelled start names) ∨ d.walk start names = .error .notFound := by
  induction names generalizing start with
  | nil => exact .inl rfl
  | cons name rest ih =>
    have dir := requireDirectory_eq_ok (u := ()).2 (h.begins (by simp))
    have step : d.walk start (name :: rest) =
        d.walk (if name = ".." then start.dropLast else start ++ [name]) rest := by
      rw [Disk.walk, dir]
      change (if _ then _ else _) = _
      by_cases up : name = ".."
      · rw [if_pos up, if_pos up]
      · have short := h.short name List.mem_cons_self up
        rw [if_neg up, if_neg up, if_neg (Nat.not_lt.2 short)]
    rw [step, spelled]
    generalize hnext : (if name = ".." then start.dropLast else start ++ [name]) = next
    have clear : ∀ p ∈ next :: stops next rest, d.Clear p := by
      intro p hp
      refine h.clear p ?_
      rw [stops, hnext]
      exact hp
    rcases clear next List.mem_cons_self with missing | there
    · cases rest with
      | nil => exact .inl rfl
      | cons second rest =>
        refine .inr ?_
        simp only [Disk.walk, requireDirectory, missing]
        rfl
    · refine ih ⟨fun _ => there, fun p hp => clear p (List.mem_cons_of_mem _ hp), fun n hn => ?_⟩
      exact h.short n (List.mem_cons_of_mem _ hn)

/-- The stops before the last one are directories if the walk reaches it. -/
theorem directories_of_walk (h : d.walk start (names ++ [name]) = .ok q) :
    ∀ p ∈ stops start names, d.node? p = some .directory := by
  induction names generalizing start with
  | nil => simp [stops]
  | cons first rest ih =>
    rw [List.cons_append] at h
    obtain ⟨-, -, hrest⟩ := walk_cons_eq_ok.1 h
    intro p hp
    rw [stops] at hp
    rcases List.mem_cons.1 hp with rfl | hp
    · obtain ⟨second, more, heq⟩ : ∃ second more, rest ++ [name] = second :: more := by
        cases rest <;> simp
      rw [heq] at hrest
      exact (walk_cons_eq_ok.1 hrest).1
    · exact ih hrest p hp

/-- With directories at all the stops before it, the walk reaches the last one. -/
theorem Passable.walk_of_directories (h : d.Passable start (names ++ [name]))
    (made : ∀ p ∈ stops start names, d.node? p = some .directory) :
    d.walk start (names ++ [name]) = .ok (spelled start (names ++ [name])) := by
  induction names generalizing start with
  | nil =>
    refine walk_cons_eq_ok.2 ⟨h.begins (by simp), h.short name (by simp), ?_⟩
    rw [Disk.walk, List.nil_append, spelled, spelled]
  | cons first rest ih =>
    rw [stops] at made
    refine walk_cons_eq_ok.2 ⟨h.begins (by simp), h.short first (by simp), ?_⟩
    refine ih ⟨fun _ => made _ List.mem_cons_self, fun p hp => ?_, fun n hn => ?_⟩
      fun p hp => made p (List.mem_cons_of_mem _ hp)
    · refine h.clear p ?_
      rw [List.cons_append, stops]
      exact List.mem_cons_of_mem _ hp
    · exact h.short n (List.mem_cons_of_mem _ hn)

/-! ### The last stop -/

theorem makeDirectoryFrom_run (walked : d.walk start names = .ok s) (missing : d.node? s = none) :
    (makeDirectoryFrom start names).run d = (.ok (), d.ensure s) := by
  refine FileAction.change_run ?_
  rw [walked, ensure_of_none missing]
  change d.directoryAt s = _
  rw [directoryAt, missing]

theorem makeDirectoryFrom_run_there (walked : d.walk start names = .ok s)
    (there : d.node? s = some .directory) :
    (makeDirectoryFrom start names).run d = (.error .alreadyExists, d) := by
  refine FileAction.change_run_error ?_
  rw [walked]
  change d.directoryAt s = _
  rw [directoryAt, there]

theorem makeDirectoryFrom_run_lost {e : FileError} (lost : d.walk start names = .error e) :
    (makeDirectoryFrom start names).run d = (.error e, d) := by
  refine FileAction.change_run_error ?_
  rw [lost]
  rfl

/-- A failure is forgiven where names lead to a directory, and nothing changes. -/
theorem unlessDirectory_run (start : Place) (names : List String) (e : FileError) (d : Disk) :
    (unlessDirectory start names e).run d =
      (if d.isDirectoryFrom start names = true then .ok () else .error e, d) := by
  change FileAction.run (if d.isDirectoryFrom start names then pure () else throw e) d = _
  split <;> rfl

theorem unlessDirectory_run_lost {e e' : FileError} (lost : d.walk start names = .error e') :
    (unlessDirectory start names e).run d = (.error e, d) := by
  rw [unlessDirectory_run, if_neg (by simp [isDirectoryFrom, lost])]

/-- An attempt at the last stop, once the walk reaches it, puts a directory there or finds one. -/
theorem lastStop_run (walked : d.walk start names = .ok s) (clear : d.Clear s) :
    ((makeDirectoryFrom start names).run d).1 = .ok () ∧
        (makeDirectoryFrom start names).run d = (.ok (), d.ensure s) ∨
      ((makeDirectoryFrom start names).run d).1 = .error .alreadyExists ∧
        (unlessDirectory start names .alreadyExists).run d = (.ok (), d.ensure s) := by
  rcases clear with missing | there
  · have made := makeDirectoryFrom_run walked missing
    exact .inl ⟨by rw [made], made⟩
  · have isDir : d.isDirectoryFrom start names = true := by simp [isDirectoryFrom, walked, there]
    rw [makeDirectoryFrom_run_there walked there, ensure_of_some there]
    exact .inr ⟨rfl, by rw [unlessDirectory_run, if_pos isDir]⟩

/-- One level of the recursion, by the answer of the first attempt. -/
theorem makeChain_cons (start : Place) (name : String) (up : List String) (d : Disk) :
    (makeChain start (name :: up)).run d =
      match ((makeDirectoryFrom start (name :: up).reverse).run d).1 with
      | .ok () => (makeDirectoryFrom start (name :: up).reverse).run d
      | .error .notFound =>
        (makeChain start up >>= fun _ => do
          let second ← FileAction.look fun d =>
            .ok (makeDirectoryFrom start (name :: up).reverse |>.run d).1
          match second with
          | .ok () => makeDirectoryFrom start (name :: up).reverse
          | .error e => unlessDirectory start (name :: up).reverse e : FileAction Unit).run d
      | .error e => (unlessDirectory start (name :: up).reverse e).run d := by
  rw [makeChain]
  refine (DiskAction.bind_of_ok (FileAction.look_run _ d) _).trans ?_
  rcases ((makeDirectoryFrom start (name :: up).reverse).run d).1 with e | u
  · cases e <;> rfl
  · rfl

/-- A chain of directories is made along a passable way. -/
theorem makeChain_run (h : d.Passable start names) :
    (makeChain start names.reverse).run d = (.ok (), d.ensureAll (stops start names)) := by
  induction names using List.reverseRecOn generalizing d with
  | nil => rfl
  | append_singleton names name ih =>
    have last : spelled start (names ++ [name]) ∈ stops start (names ++ [name]) := by
      simp [stops_snoc]
    rw [List.reverse_append, List.reverse_singleton, List.singleton_append, makeChain_cons,
      List.reverse_cons, List.reverse_reverse, stops_snoc, ensureAll_append]
    rcases h.walk with walked | lost
    · -- nothing is missing above the last stop
      rw [ensureAll_of_directories (directories_of_walk walked)]
      rcases lastStop_run walked (h.clear _ last) with ⟨first, run⟩ | ⟨first, run⟩
      · rw [first]
        exact run
      · rw [first]
        exact run
    · rw [makeDirectoryFrom_run_lost lost]
      refine (DiskAction.bind_of_ok (ih h.init) _).trans ?_
      have h₁ := h.ensureAll (stops start names)
      have walked := h₁.walk_of_directories fun p hp => directory_ensureAll (h.init.clear p hp) hp
      refine (DiskAction.bind_of_ok (FileAction.look_run _ _) _).trans ?_
      rcases lastStop_run walked (h₁.clear _ last) with ⟨second, run⟩ | ⟨second, run⟩
      · rw [second]
        exact run
      · rw [second]
        exact run

/-! ### Only passable ways can be made -/

theorem short_of_walk (h : d.walk p names = .ok q) :
    ∀ name ∈ names, name ≠ ".." → Utf8.size name ≤ nameLimit := by
  induction names generalizing p with
  | nil => simp
  | cons first rest ih =>
    obtain ⟨-, short, hrest⟩ := walk_cons_eq_ok.1 h
    intro name hname
    rcases List.mem_cons.1 hname with rfl | hin
    · exact short
    · exact ih hrest name hin

/-- A way that is walked to its last stop is passable if that is clear. -/
theorem passable_of_walk (walked : d.walk start (names ++ [name]) = .ok s) (clear : d.Clear s) :
    d.Passable start (names ++ [name]) where
  begins _ := by
    have first := directory_of_walk walked (k := 0) (by simp)
    exact first
  clear p hp := by
    rw [stops_snoc, ← eq_spelled_of_walk walked] at hp
    rcases List.mem_append.1 hp with before | last
    · exact .inr (directories_of_walk walked p before)
    · rw [List.mem_singleton.1 last]
      exact clear
  short := short_of_walk walked

theorem walk_of_makeDirectoryFrom (h : ((makeDirectoryFrom start names).run d).1 = .ok ()) :
    ∃ s, d.walk start names = .ok s ∧ d.Clear s := by
  rcases hrun : (makeDirectoryFrom start names).run d with ⟨r, d'⟩
  rw [hrun] at h
  rcases FileAction.change_inv hrun with ⟨-, made⟩ | ⟨e, rfl, -⟩
  · obtain ⟨s, walked, made⟩ := ok_bind_eq_ok made
    refine ⟨s, walked, .inl ?_⟩
    rw [directoryAt] at made
    cases hs : d.node? s with
    | none => rfl
    | some n =>
      rw [hs] at made
      cases made
  · cases h

theorem walk_of_unlessDirectory {e : FileError}
    (h : (unlessDirectory start names e).run d = (.ok (), d')) :
    ∃ s, d.walk start names = .ok s ∧ d.Clear s := by
  rw [unlessDirectory_run] at h
  by_cases isDir : d.isDirectoryFrom start names = true
  · rw [isDirectoryFrom] at isDir
    cases hwalk : d.walk start names with
    | error e =>
      rw [hwalk] at isDir
      cases isDir
    | ok s =>
      rw [hwalk] at isDir
      exact ⟨s, rfl, .inr (by simpa using isDir)⟩
  · rw [if_neg isDir] at h
    cases h

theorem Passable.nil : d.Passable start [] := ⟨fun hne => absurd rfl hne, by simp [stops], by simp⟩

/-- A way is passable if it is as far as the stop before the last, and the walk then reaches the last
stop and finds it clear. -/
theorem Passable.snoc (up : d.Passable start names)
    (walked : (d.ensureAll (stops start names)).walk start (names ++ [name]) = .ok s)
    (clear : (d.ensureAll (stops start names)).Clear s) : d.Passable start (names ++ [name]) := by
  have later := passable_of_walk walked clear
  refine ⟨fun hne => ?_, fun p hp => clear_ensureAll.1 (later.clear p hp), later.short⟩
  by_cases only : names = []
  · subst only
    exact later.begins hne
  · exact up.begins only

/-- A chain of directories is only made along a passable way. -/
theorem passable_of_makeChain (h : (makeChain start names.reverse).run d = (.ok (), d')) :
    d.Passable start names := by
  induction names using List.reverseRecOn generalizing d' with
  | nil => exact .nil
  | append_singleton names name ih =>
    rw [List.reverse_append, List.reverse_singleton, List.singleton_append, makeChain_cons,
      List.reverse_cons, List.reverse_reverse] at h
    cases hfirst : ((makeDirectoryFrom start (names ++ [name])).run d).1 with
    | ok u =>
      obtain ⟨s, walked, clear⟩ := walk_of_makeDirectoryFrom hfirst
      exact passable_of_walk walked clear
    | error e =>
      rw [hfirst] at h
      by_cases lost : e = .notFound
      · subst lost
        rcases DiskAction.bind_inv h with ⟨u, d₁, hup, hrest⟩ | ⟨e, -, hfail⟩
        case inr => cases hfail
        have up := ih hup
        cases hup.symm.trans (makeChain_run up)
        replace hrest := (DiskAction.bind_of_ok (FileAction.look_run _ _) _).symm.trans hrest
        cases hsecond : ((makeDirectoryFrom start (names ++ [name])).run
            (d.ensureAll (stops start names))).1 with
        | ok u =>
          obtain ⟨s, walked, clear⟩ := walk_of_makeDirectoryFrom hsecond
          exact up.snoc walked clear
        | error e =>
          rw [hsecond] at hrest
          obtain ⟨s, walked, clear⟩ := walk_of_unlessDirectory hrest
          exact up.snoc walked clear
      · have direct : (unlessDirectory start (names ++ [name]) e).run d = (.ok (), d') := by
          cases e with
          | notFound => exact absurd rfl lost
          | _ => exact h
        obtain ⟨s, walked, clear⟩ := walk_of_unlessDirectory direct
        exact passable_of_walk walked clear

/-! ### Making only what is above -/

theorem directoryFrom_eq_ok :
    d.directoryFrom start names = .ok () ↔
      ∃ p, d.walk start names = .ok p ∧ d.node? p = some .directory := by
  simp only [← requireDirectory_eq_ok (u := ())]
  exact ⟨ok_bind_eq_ok, fun ⟨p, walked, there⟩ => by rw [directoryFrom, walked]; exact there⟩

/-- The last stop is looked for a second time only if it was missing. -/
theorem makeAbove_run_eq (start : Place) (names : List String) (d : Disk) :
    (makeAbove start names).run d =
      if d.directoryFrom start names = .error .notFound then
        (makeChain start names.dropLast.reverse >>= fun _ =>
          FileAction.look (·.directoryFrom start names) : FileAction Unit).run d
      else (d.directoryFrom start names, d) := by
  rw [makeAbove, FileAction.run, DiskAction.get_bind_run]
  rcases d.directoryFrom start names with e | u
  · cases e <;> rfl
  · rfl

/-- There is a directory at the last stop, once the stops before it have been made. -/
def Stands (d : Disk) (start : Place) (names : List String) : Prop :=
  (d.ensureAll (stops start names.dropLast)).node? (spelled start names) = some .directory

/-- What is above the last stop is made along a passable way whose last stop stands. -/
theorem makeAbove_run (h : d.Passable start names) (stands : d.Stands start names) :
    (makeAbove start names).run d = (.ok (), d.ensureAll (stops start names)) := by
  rw [makeAbove_run_eq]
  cases names using List.reverseRecOn with
  | nil =>
    have found : d.directoryFrom start [] = .ok () := directoryFrom_eq_ok.2 ⟨start, rfl, stands⟩
    rw [found, if_neg (by simp)]
    rfl
  | append_singleton names name =>
    rw [Stands, List.dropLast_concat] at stands
    have last : d.ensureAll (stops start (names ++ [name])) = d.ensureAll (stops start names) := by
      rw [stops_snoc, ensureAll_append, ensureAll_cons, ensure_of_some stands, ensureAll_nil]
    rw [last, List.dropLast_concat]
    rcases h.walk with walked | lost
    · -- nothing is missing above the last stop, so that nothing is made
      rw [ensureAll_of_directories (directories_of_walk walked)] at stands ⊢
      rw [directoryFrom_eq_ok.2 ⟨_, walked, stands⟩, if_neg (by simp)]
    · have missing : d.directoryFrom start (names ++ [name]) = .error .notFound := by
        rw [directoryFrom, lost]
        rfl
      have walked := (h.ensureAll (stops start names)).walk_of_directories fun p hp =>
        directory_ensureAll (h.init.clear p hp) hp
      rw [if_pos missing]
      refine (DiskAction.bind_of_ok (makeChain_run h.init) _).trans ?_
      exact (FileAction.look_run _ _).trans (by rw [directoryFrom_eq_ok.2 ⟨_, walked, stands⟩])

theorem passable_of_makeAbove (h : (makeAbove start names).run d = (.ok (), d')) :
    d.Passable start names ∧ d.Stands start names := by
  rw [makeAbove_run_eq] at h
  split at h
  · rcases DiskAction.bind_inv h with ⟨u, d₁, hup, hrest⟩ | ⟨e, -, hfail⟩
    case inr => cases hfail
    have up := passable_of_makeChain hup
    cases hup.symm.trans (makeChain_run up)
    obtain ⟨p, walked, there⟩ := directoryFrom_eq_ok.1 (FileAction.look_inv hrest).1
    obtain rfl := eq_spelled_of_walk walked
    refine ⟨?_, there⟩
    cases names using List.reverseRecOn with
    | nil => exact .nil
    | append_singleton names name =>
      rw [List.dropLast_concat] at up walked there
      exact up.snoc walked (.inr there)
  · obtain ⟨p, walked, there⟩ := directoryFrom_eq_ok.1 (congrArg Prod.fst h)
    obtain rfl := eq_spelled_of_walk walked
    refine ⟨?_, by simp [Stands, node?_ensureAll, there]⟩
    cases names using List.reverseRecOn with
    | nil => exact .nil
    | append_singleton names name => exact passable_of_walk walked (.inr there)

/-! ### Whole paths -/

/-- The directories of a path that are missing can be made. -/
structure Makeable (d : Disk) (path : Path) : Prop where
  noNul : path.hasNul = false
  passable : d.Passable (d.origin path) path.names
  stands : path.endsHere = true → d.Stands (d.origin path) path.names

/-- The stops of the way of a path. -/
def stopsOf (d : Disk) (path : Path) : List Place := stops (d.origin path) path.names

theorem makeDirectories_run_eq (path : Path) (d : Disk) :
    (makeDirectories path).run d =
      if path.hasNul = true then (.error .interiorNul, d)
      else if path.endsHere = true then (makeAbove (d.origin path) path.names).run d
      else (makeChain (d.origin path) path.names.reverse).run d := by
  rw [makeDirectories, FileAction.run, DiskAction.get_bind_run]
  split
  · rfl
  · split <;> rfl

theorem makeWay_run_eq (path : Path) (d : Disk) :
    (makeWay path).run d =
      if path.hasNul = true then (.error .interiorNul, d)
      else (makeChain (d.origin path) path.names.reverse).run d := by
  rw [makeWay, FileAction.run, DiskAction.get_bind_run]
  split <;> rfl

/-- Making the directories of a path puts one at every stop where nothing stood. -/
theorem Makeable.run (h : d.Makeable path) :
    (makeDirectories path).run d = (.ok (), d.ensureAll (d.stopsOf path)) := by
  rw [makeDirectories_run_eq, if_neg (by simp [h.noNul])]
  split
  · next here => exact makeAbove_run h.passable (h.stands here)
  · exact makeChain_run h.passable

theorem Makeable.makeWay_run (h : d.Makeable path) :
    (makeWay path).run d = (.ok (), d.ensureAll (d.stopsOf path)) := by
  rw [makeWay_run_eq, if_neg (by simp [h.noNul])]
  exact makeChain_run h.passable

/-- The directories of a path can be made exactly if it is makeable. -/
theorem makeDirectories_ok_iff :
    ((makeDirectories path).run d).1 = .ok () ↔ d.Makeable path := by
  constructor
  · intro h
    rcases hrun : (makeDirectories path).run d with ⟨r, d'⟩
    obtain rfl : r = .ok () := by simpa [hrun] using h
    rw [makeDirectories_run_eq] at hrun
    split at hrun
    · cases hrun
    · next noNul =>
      rw [Bool.not_eq_true] at noNul
      split at hrun
      · obtain ⟨passable, stands⟩ := passable_of_makeAbove hrun
        exact ⟨noNul, passable, fun _ => stands⟩
      · next ends => exact ⟨noNul, passable_of_makeChain hrun, fun here => absurd here ends⟩
  · intro h
    rw [h.run]

/-- The last stop is where the path leads to. -/
theorem placeOf_mem_stopsOf (h : path.names ≠ []) : d.placeOf path ∈ d.stopsOf path := by
  obtain ⟨names, name, heq⟩ : ∃ names name, path.names = names ++ [name] :=
    ⟨_, _, (List.dropLast_concat_getLast h).symm⟩
  rw [placeOf, stopsOf, heq, stops_snoc]
  simp

/-- All the stops on the way to a directory are directories. -/
theorem directories_of_walk_to (walked : d.walk start names = .ok p)
    (there : d.node? p = some .directory) :
    ∀ q ∈ stops start names, d.node? q = some .directory := by
  induction names using List.reverseRecOn with
  | nil => simp [stops]
  | append_singleton names name _ =>
    intro q hq
    rw [stops_snoc, ← eq_spelled_of_walk walked] at hq
    rcases List.mem_append.1 hq with before | last
    · exact directories_of_walk walked q before
    · rw [List.mem_singleton.1 last]
      exact there

/-- Once its directories are made, a path leads to a directory. -/
theorem Makeable.opens (h : d.Makeable path) (begins : d.node? (d.origin path) = some .directory) :
    (d.ensureAll (d.stopsOf path)).Opens path (d.placeOf path) := by
  have same : (d.ensureAll (d.stopsOf path)).origin path = d.origin path := by
    rw [origin, origin, ensureAll_workingDirectory]
  by_cases none_ : path.names = []
  · refine ⟨h.noNul, ?_, ?_⟩
    · rw [same, placeOf, none_]
      rfl
    · rw [placeOf, none_, spelled, node?_ensureAll, begins]
      rfl
  · have passable := h.passable.ensureAll (d.stopsOf path)
    have made : ∀ p ∈ d.stopsOf path, (d.ensureAll (d.stopsOf path)).node? p = some .directory :=
      fun p hp => directory_ensureAll (h.passable.clear p hp) hp
    refine ⟨h.noNul, ?_, made _ (placeOf_mem_stopsOf none_)⟩
    obtain ⟨names, name, heq⟩ : ∃ names name, path.names = names ++ [name] :=
      ⟨_, _, (List.dropLast_concat_getLast none_).symm⟩
    rw [stopsOf, heq, stops_snoc] at made
    rw [same, placeOf, stopsOf, heq, stops_snoc]
    rw [stopsOf, heq, stops_snoc] at passable
    exact passable.walk_of_directories fun p hp => made p (List.mem_append_left _ hp)

/-! ### Directories below a directory that is there -/

/-- The path that names lead to from a directory, one below the other. -/
def Path.joinAll (path : Path) (names : List String) : Path := names.foldl Path.join path

theorem Path.joinAll_keeps (h : ∀ name ∈ more, FileName name) (path : Path) :
    (path.joinAll more).names = path.names ++ more ∧
      (path.joinAll more).isAbsolute = path.isAbsolute ∧
      (path.hasNul = false → (path.joinAll more).hasNul = false) := by
  induction more generalizing path with
  | nil => simp [Path.joinAll]
  | cons name rest ih =>
    have hname := h name List.mem_cons_self
    obtain ⟨names, absolute, noNul⟩ := ih (fun n hn => h n (List.mem_cons_of_mem _ hn)) (path.join name)
    have step : path.joinAll (name :: rest) = (path.join name).joinAll rest := rfl
    rw [step, names, absolute, Path.names_join hname.toComponent,
      Path.isAbsolute_join hname.toComponent]
    exact ⟨by simp, rfl, fun hpath => noNul (Path.hasNul_join hname hpath)⟩

theorem Path.endsHere_joinAll (h : ∀ name ∈ more, FileName name) (hne : more ≠ []) (path : Path) :
    (path.joinAll more).endsHere = false := by
  cases more using List.reverseRecOn with
  | nil => exact absurd rfl hne
  | append_singleton more last =>
    rw [Path.joinAll, List.foldl_append]
    exact Path.endsHere_join (h last (by simp)).toComponent _

/-- All the stops on the way to a directory are there. -/
theorem Opens.stops_there (h : d.Opens path p) : ∀ q ∈ d.stopsOf path, d.node? q = some .directory :=
  directories_of_walk_to h.walked h.directory

theorem Opens.stopsOf_joinAll (h : d.Opens path p) (hnames : ∀ name ∈ more, FileName name) :
    d.stopsOf (path.joinAll more) = d.stopsOf path ++ stops p more := by
  obtain ⟨names, absolute, -⟩ := Path.joinAll_keeps hnames path
  rw [stopsOf, stopsOf, origin, absolute, ← origin, names, stops_append,
    ← eq_spelled_of_walk h.walked]

/-- Below a directory that is there, directories can be made where nothing else stands. -/
theorem Opens.makeable (h : d.Opens path p) (hnames : ∀ name ∈ more, FileName name)
    (clear : ∀ q ∈ stops p more, d.Clear q) : d.Makeable (path.joinAll more) := by
  obtain ⟨names, absolute, noNul⟩ := Path.joinAll_keeps hnames path
  have same : d.origin (path.joinAll more) = d.origin path := by rw [origin, origin, absolute]
  refine ⟨noNul h.noNul, ⟨fun hne => ?_, fun q hq => ?_, fun n hn up => ?_⟩, fun here => ?_⟩
  · rw [same]
    cases hpath : path.names with
    | nil =>
      have here : p = d.origin path := by
        have := eq_spelled_of_walk h.walked
        rwa [hpath] at this
      rw [← here]
      exact h.directory
    | cons first rest =>
      have walked := h.walked
      rw [hpath] at walked
      exact (walk_cons_eq_ok.1 walked).1
  · rw [← stopsOf, h.stopsOf_joinAll hnames] at hq
    rcases List.mem_append.1 hq with hq | hq
    · exact .inr (h.stops_there q hq)
    · exact clear q hq
  · rw [names] at hn
    rcases List.mem_append.1 hn with hn | hn
    · exact short_of_walk h.walked n hn up
    · exact (hnames n hn).short
  · by_cases itself : more = []
    · subst itself
      have there := h.directory
      rw [eq_spelled_of_walk h.walked] at there
      simp [Stands, Path.joinAll, node?_ensureAll, there]
    · rw [Path.endsHere_joinAll hnames itself] at here
      cases here

/-- Below a directory that is there, only the directories below it have to be made. -/
theorem Opens.makeDirectories_run (h : d.Opens path p) (hnames : ∀ name ∈ more, FileName name)
    (clear : ∀ q ∈ stops p more, d.Clear q) :
    (makeDirectories (path.joinAll more)).run d = (.ok (), d.ensureAll (stops p more)) := by
  rw [(h.makeable hnames clear).run, h.stopsOf_joinAll hnames, ensureAll_append,
    ensureAll_of_directories h.stops_there]

theorem Opens.makeWay_run (h : d.Opens path p) (hnames : ∀ name ∈ more, FileName name)
    (clear : ∀ q ∈ stops p more, d.Clear q) :
    (makeWay (path.joinAll more)).run d = (.ok (), d.ensureAll (stops p more)) := by
  have makeable := h.makeable hnames clear
  rw [makeable.makeWay_run, ← h.makeDirectories_run hnames clear, makeable.run]

/-- The directory that is there already is made without a change. -/
theorem Opens.makeDirectories_self (h : d.Opens path p) :
    (makeDirectories path).run d = (.ok (), d) := by
  have run : (makeDirectories (path.joinAll [])).run d = (.ok (), d.ensureAll (stops p [])) :=
    h.makeDirectories_run (by simp) (by simp [stops])
  exact run

theorem Opens.makeWay_self (h : d.Opens path p) : (makeWay path).run d = (.ok (), d) := by
  have run : (makeWay (path.joinAll [])).run d = (.ok (), d.ensureAll (stops p [])) :=
    h.makeWay_run (by simp) (by simp [stops])
  exact run

/-- The path leads to the directory still when more directories have been made. -/
theorem Opens.ensureAll (h : d.Opens path p) (ps : List Place) : (d.ensureAll ps).Opens path p := by
  refine h.of_directories (ensureAll_workingDirectory d ps) fun q there => ?_
  simp [node?_ensureAll, there]

/-- The directories that were made are there. -/
theorem Opens.joinAll (h : d.Opens path p) (hnames : ∀ name ∈ more, FileName name)
    (clear : ∀ q ∈ stops p more, d.Clear q) :
    (d.ensureAll (stops p more)).Opens (path.joinAll more) (p ++ more) := by
  induction more generalizing d path p with
  | nil => simpa [Path.joinAll, stops] using h
  | cons name rest ih =>
    have hname := hnames name List.mem_cons_self
    have next : stops p (name :: rest) = (p ++ [name]) :: stops (p ++ [name]) rest := by
      rw [stops, if_neg hname.notUp]
    rw [next] at clear
    have made : (d.ensureAll [p ++ [name]]).Opens (path.join name) (p ++ [name]) :=
      (h.ensureAll _).join hname (directory_ensureAll (clear _ List.mem_cons_self) (by simp))
    have below := ih made (fun n hn => hnames n (List.mem_cons_of_mem _ hn)) fun q hq =>
      clear_ensureAll.2 (clear q (List.mem_cons_of_mem _ hq))
    rw [next, ensureAll_cons]
    simpa [Path.joinAll] using below

end DatasetCatalog.Disk
