import DatasetCatalog.Disk.Basic
import DatasetCatalog.Proofs.Disk.Path

/-!
# Where walks lead

A walk either fails or leads to the place that the names spell (`spelled`); what stands on the disk
only decides which of the two. It succeeds again on every disk that has kept the directories that
it passes (`walk_congr`).
-/

namespace DatasetCatalog.Disk

variable {d d' : Disk} {p q : Place} {name : String} {names : List String}

/-- The place that names spell from a place, whether it can be reached or not. -/
def spelled (start : Place) : List String → Place
  | [] => start
  | name :: rest => spelled (if name = ".." then start.dropLast else start ++ [name]) rest

theorem spelled_append (start : Place) (names more : List String) :
    spelled start (names ++ more) = spelled (spelled start names) more := by
  induction names generalizing start with
  | nil => rfl
  | cons name rest ih => exact ih _

theorem spelled_snoc (start : Place) (names : List String) (h : name ≠ "..") :
    spelled start (names ++ [name]) = spelled start names ++ [name] := by
  rw [spelled_append, spelled, if_neg h, spelled]

/-- Without steps up, names only lead further down. -/
theorem spelled_eq_append (start : Place) (h : ".." ∉ names) :
    spelled start names = start ++ names := by
  induction names generalizing start with
  | nil => rw [spelled, List.append_nil]
  | cons name rest ih =>
    have down : name ≠ ".." := fun heq => h (heq ▸ List.mem_cons_self)
    rw [spelled, if_neg down, ih _ fun hin => h (List.mem_cons_of_mem _ hin), List.append_assoc]
    rfl

theorem requireDirectory_eq_ok {u : Unit} :
    d.requireDirectory p = .ok u ↔ d.node? p = some .directory := by
  unfold requireDirectory
  cases h : d.node? p with
  | none => simp
  | some n => cases n <;> simp

/-- The first step of a walk. -/
theorem walk_cons_eq_ok {rest : List String} :
    d.walk p (name :: rest) = .ok q ↔ d.node? p = some .directory ∧
      (name ≠ ".." → Utf8.size name ≤ nameLimit) ∧
      d.walk (if name = ".." then p.dropLast else p ++ [name]) rest = .ok q := by
  rw [walk]
  cases hdir : d.requireDirectory p with
  | error e =>
    have missing : d.node? p ≠ some .directory := by
      intro h
      cases hdir.symm.trans (requireDirectory_eq_ok (u := ()) |>.2 h)
    constructor
    · intro h
      cases h
    · intro h
      exact absurd h.1 missing
  | ok u =>
    have there := requireDirectory_eq_ok.1 hdir
    show (if _ then _ else _) = _ ↔ _
    by_cases up : name = ".."
    · simp [up, there]
    · by_cases long : nameLimit < Utf8.size name
      · have tooLong : ¬ Utf8.size name ≤ nameLimit := Nat.not_le.2 long
        simp [up, long, tooLong]
      · have short : Utf8.size name ≤ nameLimit := Nat.not_lt.1 long
        simp [up, long, short, there]

/-- A walk leads to the place that its names spell. -/
theorem eq_spelled_of_walk (h : d.walk p names = .ok q) : q = spelled p names := by
  induction names generalizing p with
  | nil =>
    cases h
    rfl
  | cons name rest ih =>
    obtain ⟨-, -, hrest⟩ := walk_cons_eq_ok.1 h
    exact ih hrest

/-- A walk along more names succeeds only if that along the first ones does. -/
theorem walk_init {more : List String} (h : d.walk p (names ++ more) = .ok q) :
    d.walk p names = .ok (spelled p names) := by
  induction names generalizing p with
  | nil => rfl
  | cons name rest ih =>
    obtain ⟨there, short, hrest⟩ := walk_cons_eq_ok.1 h
    exact walk_cons_eq_ok.2 ⟨there, short, ih hrest⟩

/-- A walk passes directories only. -/
theorem directory_of_walk (h : d.walk p names = .ok q) {k : Nat} (hk : k < names.length) :
    d.node? (spelled p (names.take k)) = some .directory := by
  induction names generalizing p k with
  | nil => cases hk
  | cons name rest ih =>
    obtain ⟨there, -, hrest⟩ := walk_cons_eq_ok.1 h
    cases k with
    | zero => exact there
    | succ k => exact ih hrest (Nat.lt_of_succ_lt_succ hk)

/-- A walk succeeds again where the directories that it passes are still there. -/
theorem walk_congr (h : d.walk p names = .ok q)
    (kept : ∀ k < names.length, d.node? (spelled p (names.take k)) = some .directory →
      d'.node? (spelled p (names.take k)) = some .directory) : d'.walk p names = .ok q := by
  induction names generalizing p with
  | nil => exact h
  | cons name rest ih =>
    obtain ⟨there, short, hrest⟩ := walk_cons_eq_ok.1 h
    refine walk_cons_eq_ok.2 ⟨kept 0 (Nat.succ_pos _) there, short, ih hrest ?_⟩
    intro k hk hthere
    have hkept := kept (k + 1) (Nat.succ_lt_succ hk)
    rw [List.take_succ_cons, spelled] at hkept
    exact hkept hthere

/-! ### Paths -/

/-- The place that a path spells. -/
def placeOf (d : Disk) (path : Path) : Place := spelled (d.origin path) path.names

theorem locate_eq_ok {path : Path} (h : d.locate path = .ok q) :
    path.hasNul = false ∧ path.text.isEmpty = false ∧ d.walk (d.origin path) path.names = .ok q := by
  unfold locate at h
  split at h
  · cases h
  · next noNul =>
    split at h
    · cases h
    · next nonempty => exact ⟨by simpa using noNul, by simpa using nonempty, h⟩

theorem locate_of_walk {path : Path} (noNul : path.hasNul = false)
    (nonempty : path.text.isEmpty = false) (h : d.walk (d.origin path) path.names = .ok q) :
    d.locate path = .ok q := by
  have notNul : ¬ path.hasNul = true := by simp [noNul]
  have notEmpty : ¬ path.text.isEmpty = true := by simp [nonempty]
  rw [locate, if_neg notNul, if_neg notEmpty, h]

theorem eq_placeOf_of_locate {path : Path} (h : d.locate path = .ok q) : q = d.placeOf path :=
  eq_spelled_of_walk (locate_eq_ok h).2.2

theorem origin_join (h : Component name) (path : Path) :
    d.origin (path.join name) = d.origin path := by
  rw [origin, origin, Path.isAbsolute_join h]

theorem placeOf_join (h : Component name) (path : Path) :
    d.placeOf (path.join name) = d.placeOf path ++ [name] := by
  rw [placeOf, placeOf, origin_join h, Path.names_join h, spelled_snoc _ _ h.notUp]

end DatasetCatalog.Disk
