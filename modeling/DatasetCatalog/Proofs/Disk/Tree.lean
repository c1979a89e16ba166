import DatasetCatalog.Proofs.Disk.Files
import DatasetCatalog.Proofs.Disk.Making

/-!
# A directory that only its store works in

A store that keeps its files in a directory finds nothing there but what it has put there itself.
Two facts about the nodes below the directory are all that is needed to look up a file in it:

* whatever stands below it stands in a directory (`Grown`), and
* no file stands on the way to a file.

Then the walk to a file either reaches its place, or ends where a directory is missing, and in that
case nothing stands at the place (`Opens.finds`). All operations of a store keep a directory grown,
because they put nothing where there is no directory and remove whole trees.
-/

namespace DatasetCatalog.Disk

variable {d d' d₁ : Disk} {path dir : Path} {p q : Place} {name : String} {names : List String}
  {bytes : List UInt8}

/-- Whatever stands below a place stands in a directory. -/
def Grown (d : Disk) (p : Place) : Prop :=
  ∀ q name, p <+: q → (d.node? (q ++ [name])).isSome → d.node? q = some .directory

/-- A path leads to a directory with nothing in it. -/
structure Vacant (d : Disk) (path : Path) (p : Place) : Prop extends d.Opens path p where
  nothing : ∀ q, p <+: q → q ≠ p → d.node? q = none

theorem Vacant.grown (h : d.Vacant path p) : d.Grown p := by
  intro q name hpq there
  have missing : d.node? (q ++ [name]) = none := by
    refine h.nothing _ (hpq.trans (List.prefix_append _ _)) ?_
    intro same
    have longer := hpq.length_le
    rw [← same, List.length_append, List.length_singleton] at longer
    omega
  rw [missing] at there
  cases there

/-- A directory at the top of the disk. -/
theorem opens_top (h : FileName name) (top : d.workingDirectory = [])
    (there : d.node? [name] = some .directory) : d.Opens ⟨name⟩ [name] := by
  refine ⟨?_, ?_, there⟩
  · simpa [Path.hasNul] using h.noNul
  · have relative : d.origin ⟨name⟩ = [] := by simp [origin, top]
    rw [Path.names_of_component h.toComponent, relative]
    exact walk_singleton h rfl

/-- A directory is empty if no entry of the disk lies below it. -/
theorem Opens.vacant (h : d.Opens path p) (alone : ∀ e ∈ d.nodes, p <+: e.1 → e.1 = p) :
    d.Vacant path p := by
  refine ⟨h, fun q hpq hne => ?_⟩
  have deeper : q ≠ [] := by
    rintro rfl
    exact hne (List.prefix_nil.1 hpq).symm
  rw [node?, if_neg deeper, Option.map_eq_none_iff, List.find?_eq_none]
  intro e he same
  obtain rfl : e.1 = q := beq_iff_eq.1 same
  exact hne (alone e he hpq)

/-- Directories side by side and nothing else. -/
def sideBySide (names : List String) : Disk := ⟨names.map fun n => ([n], .directory), []⟩

theorem node?_sideBySide (names : List String) (h : q ≠ []) :
    (sideBySide names).node? q = if ∃ n ∈ names, q = [n] then some .directory else none := by
  rw [node?, if_neg h, sideBySide]
  dsimp only
  induction names with
  | nil => rfl
  | cons n rest ih =>
    rw [List.map_cons, List.find?_cons]
    by_cases here : q = [n]
    · simp [here]
    · have other : ([n] == q) = false := by simpa using Ne.symm here
      simp only [other, ih, List.mem_cons, exists_eq_or_imp, here, false_or]

theorem grown_sideBySide (names : List String) : (sideBySide names).Grown [] := by
  intro q name _ there
  rw [node?_sideBySide names (by simp)] at there
  split at there
  · next top =>
    obtain ⟨n, -, same⟩ := top
    obtain rfl : q = [] := by simpa using congrArg List.dropLast same
    rfl
  · cases there

theorem vacant_sideBySide (h : FileName name) (there : name ∈ names) :
    (sideBySide names).Vacant ⟨name⟩ [name] := by
  have node : (sideBySide names).node? [name] = some .directory := by
    rw [node?_sideBySide names (by simp), if_pos ⟨name, there, rfl⟩]
  refine ⟨opens_top h rfl node, fun q hq hne => ?_⟩
  · have deeper : q ≠ [] := by
      rintro rfl
      simp at hq
    rw [node?_sideBySide names deeper, if_neg]
    rintro ⟨n, -, rfl⟩
    exact hne (hq.eq_of_length rfl).symm

/-- A directory that is alone on the disk is empty. -/
theorem vacant_alone (h : FileName name) :
    Disk.Vacant ⟨[([name], .directory)], []⟩ ⟨name⟩ [name] :=
  vacant_sideBySide h (List.mem_singleton_self name)

namespace Grown

/-- Below a place where nothing stands there is nothing. -/
theorem none_below (h : d.Grown p) (hpq : p <+: q) (missing : d.node? q = none) (more : Place) :
    d.node? (q ++ more) = none := by
  induction more using List.reverseRecOn with
  | nil => rwa [List.append_nil]
  | append_singleton more name ih =>
    rw [← List.append_assoc]
    by_contra there
    have dir := h (q ++ more) name (hpq.trans (List.prefix_append _ _))
      (Option.isSome_iff_ne_none.2 there)
    rw [ih] at dir
    cases dir

/-- Below a file there is nothing. -/
theorem none_below_file (h : d.Grown p) (hpq : p <+: q) (there : d.node? q = some (.file bytes))
    {more : Place} (hmore : more ≠ []) : d.node? (q ++ more) = none := by
  obtain ⟨name, rest, rfl⟩ := List.exists_cons_of_ne_nil hmore
  have child : d.node? (q ++ [name]) = none := by
    by_contra something
    have dir := h q name hpq (Option.isSome_iff_ne_none.2 something)
    rw [there] at dir
    cases dir
  have below := h.none_below (hpq.trans (List.prefix_append _ _)) child rest
  rwa [List.append_assoc] at below

/-- A node that is put in a directory where nothing stood. -/
theorem put (h : d.Grown p) (dir : d.node? q = some .directory)
    (missing : d.node? (q ++ [name]) = none) (n : Node) : (d.put (q ++ [name]) n).Grown p := by
  intro r last hpr there
  have kept : d.node? r = some .directory → (d.put (q ++ [name]) n).node? r = some .directory := by
    intro hr
    by_cases root : r = []
    · simp [root, node?]
    · rw [node?_put _ _ _ root, if_neg]
      · exact hr
      · rintro rfl
        rw [missing] at hr
        cases hr
  rw [node?_put _ _ _ (append_singleton_ne_nil _ _)] at there
  by_cases here : q ++ [name] = r ++ [last]
  · obtain ⟨rfl, -⟩ := List.append_inj' here rfl
    exact kept dir
  · rw [if_neg here] at there
    exact kept (h r last hpr there)

theorem prune (h : d.Grown p) (q : Place) : (d.prune q).Grown p := by
  intro r last hpr there
  rw [node?_prune _ _ (append_singleton_ne_nil _ _)] at there
  by_cases below : q <+: r ++ [last]
  · rw [if_pos below] at there
    cases there
  · rw [if_neg below] at there
    have above : ¬ q <+: r := fun hqr => below (hqr.trans (List.prefix_append _ _))
    rw [node?_prune_outside d above]
    exact h r last hpr there

/-- A directory that is made in a directory. -/
theorem ensure (h : d.Grown p) (dir : d.node? q = some .directory)
    (name : String) : (d.ensure (q ++ [name])).Grown p := by
  cases hnode : d.node? (q ++ [name]) with
  | some n => rwa [ensure_of_some hnode]
  | none =>
    rw [ensure_of_none hnode]
    exact h.put dir hnode _

/-- A file that is published in a directory. -/
theorem published (h : d.Grown p) (hpq : p <+: q) (dir : d.node? q = some .directory)
    (other : name ≠ draftName) (noDraft : d.node? (q ++ [draftName]) = none) :
    (d.published q name bytes).Grown p := by
  have draft : ∀ r, q ++ [draftName] <+: r → d.node? r = none := by
    rintro _ ⟨more, rfl⟩
    exact h.none_below (hpq.trans (List.prefix_append _ _)) noDraft more
  intro r last hpr there
  have kept : d.node? r = some .directory →
      (d.published q name bytes).node? r = some .directory := by
    intro hr
    rw [node?_published other draft, if_neg]
    · exact hr
    · rintro ⟨-, missing⟩
      rw [missing] at hr
      cases hr
  rw [node?_published other draft] at there
  by_cases here : r ++ [last] = q ++ [name] ∧ d.node? (r ++ [last]) = none
  · obtain ⟨rfl, -⟩ := List.append_inj' here.1 rfl
    exact kept dir
  · rw [if_neg here] at there
    exact kept (h r last hpr there)

end Grown

/-! ### Directories that stay open -/

variable {start : Place}

/-- Removing a file closes no directory. -/
theorem Opens.prune_file (h : d.Opens path start) (grown : d.Grown p) (hpq : p <+: q)
    (there : d.node? q = some (.file bytes)) : (d.prune q).Opens path start := by
  refine h.of_directories rfl fun r dir => ?_
  -- a file is no directory, and there is nothing below one
  have apart : ¬ q <+: r := by
    rintro ⟨more, rfl⟩
    cases more with
    | nil =>
      rw [List.append_nil, there] at dir
      cases dir
    | cons name rest =>
      rw [grown.none_below_file hpq there (List.cons_ne_nil _ _)] at dir
      cases dir
  rw [node?_prune_outside d apart]
  exact dir

/-- Publishing a file closes no directory. -/
theorem Opens.published (h : d.Opens path start) (other : name ≠ draftName)
    (noDraft : ∀ r, q ++ [draftName] <+: r → d.node? r = none) :
    (d.published q name bytes).Opens path start := by
  refine h.of_directories (published_workingDirectory ..) fun r dir => ?_
  rw [node?_published other noDraft, if_neg]
  · exact dir
  · rintro ⟨-, missing⟩
    rw [missing] at dir
    cases dir

/-! ### Looking up files -/

/-- A walk down reaches the last place, or ends where a directory is missing. -/
theorem walk_down (there : d.node? p = some .directory) (hnames : ∀ n ∈ names, FileName n)
    (clear : ∀ q, q <+: names → q ≠ names → d.Clear (p ++ q)) :
    d.walk p names = .ok (p ++ names) ∨
      d.walk p names = .error .notFound ∧ ∃ q, q <+: names ∧ d.node? (p ++ q) = none := by
  induction names generalizing p with
  | nil => exact .inl (by rw [walk, List.append_nil])
  | cons name rest ih =>
    have hname := hnames name List.mem_cons_self
    have dir := requireDirectory_eq_ok (u := ()).2 there
    have step : d.walk p (name :: rest) = d.walk (p ++ [name]) rest := by
      rw [walk, dir]
      change (if _ then _ else _) = _
      rw [if_neg hname.notUp, if_neg (Nat.not_lt.2 hname.short)]
    have shift : p ++ name :: rest = p ++ [name] ++ rest := by simp
    rw [step, shift]
    cases rest with
    | nil => exact .inl (by rw [walk, List.append_nil])
    | cons second rest =>
      have first : d.Clear (p ++ [name]) :=
        clear [name] (List.cons_prefix_cons.2 ⟨rfl, List.nil_prefix⟩) (by simp)
      rcases first with missing | made
      · refine .inr ⟨?_, [name], List.cons_prefix_cons.2 ⟨rfl, List.nil_prefix⟩, missing⟩
        simp only [walk, requireDirectory, missing]
        rfl
      · have below := ih made (fun n hn => hnames n (List.mem_cons_of_mem _ hn)) fun q hq hne => by
          have := clear (name :: q) (List.cons_prefix_cons.2 ⟨rfl, hq⟩) (by simpa using hne)
          simpa using this
        rcases below with reached | ⟨lost, q, hq, missing⟩
        · exact .inl reached
        · exact .inr ⟨lost, name :: q, List.cons_prefix_cons.2 ⟨rfl, hq⟩, by simpa using missing⟩

/-- What is found at the end of a path below a directory is what stands at its place. -/
theorem Opens.finds (h : d.Opens path p) (grown : d.Grown p) (hnames : ∀ n ∈ names, FileName n)
    (nonempty : names ≠ []) (clear : ∀ q, q <+: names → q ≠ names → d.Clear (p ++ q))
    {found : Option (List UInt8)} (there : d.node? (p ++ names) = found.map .file) :
    d.Finds (path.joinAll names) (p ++ names) found := by
  obtain ⟨allNames, absolute, noNul⟩ := Path.joinAll_keeps hnames path
  have nonemptyText : (path.joinAll names).text.isEmpty = false := by
    obtain ⟨front, last, rfl⟩ : ∃ front last, names = front ++ [last] :=
      ⟨_, _, (List.dropLast_concat_getLast nonempty).symm⟩
    have split : path.joinAll (front ++ [last]) = (path.joinAll front).join last := by
      simp [Path.joinAll]
    rw [split]
    exact Path.join_nonempty (hnames last (by simp)).toComponent _
  have located : d.locate (path.joinAll names) = d.walk p names := by
    have notNul : ¬ (path.joinAll names).hasNul = true := by simp [noNul h.noNul]
    rw [locate, if_neg notNul, if_neg (by simp [nonemptyText]), origin, absolute, allNames]
    exact walk_append h.walked
  rcases walk_down h.directory hnames clear with reached | ⟨lost, q, hq, missing⟩
  · cases found with
    | none => exact .nothing (located.trans reached) there
    | some bytes => exact .file (located.trans reached) there
  · obtain ⟨more, rfl⟩ := hq
    have nothing := grown.none_below (List.prefix_append _ _) missing more
    cases found with
    | none => exact .noWay (located.trans lost)
    | some bytes =>
      rw [← List.append_assoc, nothing] at there
      cases there

end DatasetCatalog.Disk
