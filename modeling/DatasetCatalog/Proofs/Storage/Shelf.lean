import DatasetCatalog.Proofs.Program.Replay
import DatasetCatalog.Proofs.Program.Runs
import DatasetCatalog.Proofs.Storage.Upkeep

/-!
# Storage in a directory is a map of specifications

Whoever uses storage need not know of the directories and files in it. A `Shelf` is a map from names
to specifications, and `Shelf.perform` says what each request answers and does to it. Storage in a
directory answers every sequence of requests as the shelf does, and after each of them there is on
the disk, for every specification on the shelf, the file that it is read back from and a directory
for each of its parts, and nothing for other names (`directory_is_shelf`).

The data directory is empty at first, and nothing else works in it. The relation that every request
keeps is `Shelf.LiesIn`. It includes that what is on the shelf was made by the code of its type from
properties in order, so that an upgrade, which makes it again from the properties that it reads back,
changes nothing.
-/

namespace DatasetCatalog.Storage

open Disk

variable {l : Local} {w : Place} {d d' : Disk} {name : String}

/-- Carries out a request and keeps its result beside it. -/
def exchange {σ : Type} (run : (r : Request) → σ → Result r × σ) (r : Request) (s : σ) :
    StorageExchange × σ :=
  (⟨r, (run r s).1⟩, (run r s).2)

/-- Requests for instances whose names can be stored, with the properties in order. -/
def Request.Suited : Request → Prop
  | create c => Local.Storable c.name ∧ StringMap.Sorted c.properties
  | r => Local.Storable r.target

theorem Request.Suited.storable {r : Request} (h : r.Suited) : Local.Storable r.target := by
  cases r with
  | create c => exact h.1
  | _ => exact h

/-- Specifications by the names of their instances. -/
abbrev Shelf := String → Option Specification

namespace Shelf

variable {m : Shelf} {entry : Option Specification}

/-- The shelf of a new deployment. -/
def empty : Shelf := fun _ => none

/-- What a request answers and does. A create asks for the code of its type first, then for what the
code makes of the properties, and only then whether the name is taken. -/
def perform (definitions : StringMap Definition) : (r : Request) → Shelf → Result r × Shelf
  | .create c, m =>
    match StringMap.find? c.typeMeta.name definitions with
    | none => (.error (.unknownType c.typeMeta.name), m)
    | some code =>
      match code c.name c.properties with
      | .error e => (.error (.execution "create" c.name e.message), m)
      | .ok spec =>
        match m c.name with
        | some _ => (.error (.alreadyExists c.name), m)
        | none => (.ok spec, Function.update m c.name (some spec))
  | .drop r, m => (.ok (), Function.update m r.spec.name none)
  | .truncate name, m | .upgrade name, m =>
    match m name with
    | some _ => (.ok (), m)
    | none => (.error (.notFound name), m)
  | .probe name, m => (.ok (m name).isSome, m)

/-- What is on the shelf is what stands in the data directory. -/
structure LiesIn (m : Shelf) (l : Local) (w : Place) (d : Disk) : Prop where
  ready : l.Ready w d
  shows : ∀ name, Local.Storable name → l.Shows w d name (m name)
  made : ∀ name spec, m name = some spec → Local.Storable name ∧ Local.SelfMade name spec

theorem empty_liesIn {p : Place} (h : d.Vacant l.root p) : empty.LiesIn l d.workingDirectory d :=
  ⟨(Local.ready_of_vacant h).1, fun name _ => Local.shows_of_vacant h name, nofun⟩

/-- What becomes of one place is put on the shelf. -/
theorem LiesIn.update (h : m.LiesIn l w d) (becomes : l.Becomes w name d d' entry)
    (made : ∀ spec ∈ entry, Local.Storable name ∧ Local.SelfMade name spec) :
    LiesIn (Function.update m name entry) l w d' := by
  refine ⟨h.ready.of_spares becomes.spares, fun other storable => ?_, fun other spec there => ?_⟩
  · by_cases same : other = name
    · subst same
      rw [Function.update_self]
      exact becomes.shows
    · rw [Function.update_of_ne same]
      exact (h.shows other storable).of_other same becomes.spares
  · by_cases same : other = name
    · subst same
      rw [Function.update_self] at there
      exact made spec there
    · rw [Function.update_of_ne same] at there
      exact h.made other spec there

/-- What was on the shelf is there again. -/
theorem LiesIn.keep {spec : Specification} (h : m.LiesIn l w d) (there : m name = some spec)
    (becomes : l.Becomes w name d d' (some spec)) : m.LiesIn l w d' := by
  have made : ∀ t ∈ some spec, Local.Storable name ∧ Local.SelfMade name t := by
    rintro _ ⟨⟩
    exact h.made name spec there
  have kept := h.update becomes made
  rwa [← there, Function.update_eq_self] at kept

theorem LiesIn.shows_of (h : m.LiesIn l w d) (storable : Local.Storable name)
    (found : m name = entry) : l.Shows w d name entry := found ▸ h.shows name storable

/-- Nothing is stored of a name that is not on the shelf. -/
theorem LiesIn.readSpecification_missing {operation : String} (h : m.LiesIn l w d)
    (storable : Local.Storable name) (absent : m name = none) :
    (l.readSpecification operation name).run.run d = (.error (.notFound name), d) :=
  Local.readSpecification_run (h.shows_of storable absent) h.ready storable nofun

/-- What is on the shelf is read back from its file. -/
theorem LiesIn.stored {spec : Specification} (h : m.LiesIn l w d) (there : m name = some spec) :
    l.Stored d name spec := by
  obtain ⟨storable, made⟩ := h.made name spec there
  have found := (h.shows_of storable there).finds h.ready storable.fits
  exact ⟨_, content_of_finds found, made.decode⟩

/-! ### Requests -/

/-- A request comes to the same in the directory and on the shelf, and what is on the shelf then is
what stands in the directory then. -/
def Agrees (l : Local) (w : Place) (d : Disk) (m : Shelf) (r : Request) : Prop :=
  (l.run r d).1 = (m.perform l.definitions r).1 ∧
    (m.perform l.definitions r).2.LiesIn l w (l.run r d).2

theorem create_agrees (builtin : l.definitions = Definition.builtin) {c : Creation}
    (storable : Local.Storable c.name) (sorted : StringMap.Sorted c.properties)
    (h : m.LiesIn l w d) : Agrees l w d m (.create c) := by
  unfold Agrees
  cases found : StringMap.find? c.typeMeta.name l.definitions with
  | none =>
    rw [Local.create_unknown found]
    simp only [perform, found]
    exact ⟨trivial, h⟩
  | some code =>
    cases made : code c.name c.properties with
    | error e =>
      rw [Local.create_refused found storable.safe made]
      simp only [perform, found, made]
      exact ⟨trivial, h⟩
    | ok spec =>
      have accepts := Local.accepts_of_builtin builtin (builtin ▸ found) made storable
      cases taken : m c.name with
      | some old =>
        rw [accepts.create_taken h.ready (h.shows_of storable taken)]
        simp only [perform, found, made, taken]
        exact ⟨trivial, h⟩
      | none =>
        obtain ⟨d', run, becomes⟩ := accepts.create_becomes h.ready (h.shows_of storable taken)
        rw [run]
        simp only [perform, found, made, taken]
        have makes := Definition.makes_iff.1 ⟨code, builtin ▸ found, made⟩
        refine ⟨trivial, h.update becomes ?_⟩
        rintro _ ⟨⟩
        exact ⟨storable, makes.self sorted⟩

theorem drop_agrees {removal : Removal} (storable : Local.Storable removal.spec.name)
    (h : m.LiesIn l w d) : Agrees l w d m (.drop removal) := by
  unfold Agrees
  obtain ⟨d', run, becomes⟩ := Local.drop_becomes h.ready storable (h.shows _ storable)
  rw [run]
  exact ⟨rfl, h.update becomes nofun⟩

theorem truncate_agrees (storable : Local.Storable name) (h : m.LiesIn l w d) :
    Agrees l w d m (.truncate name) := by
  unfold Agrees
  cases found : m name with
  | none =>
    have run : l.run (.truncate name) d = (.error (.notFound name), d) :=
      DiskAction.bind_of_error (h.readSpecification_missing storable found) _
    rw [run]
    simp only [perform, found]
    exact ⟨trivial, h⟩
  | some spec =>
    obtain ⟨d', run, becomes⟩ := Local.truncate_becomes h.ready storable
      (h.shows_of storable found) (h.made name spec found).2
    rw [run]
    simp only [perform, found]
    exact ⟨trivial, h.keep found becomes⟩

theorem upgrade_agrees (builtin : l.definitions = Definition.builtin)
    (storable : Local.Storable name) (h : m.LiesIn l w d) : Agrees l w d m (.upgrade name) := by
  unfold Agrees
  cases found : m name with
  | none =>
    have run : l.run (.upgrade name) d = (.error (.notFound name), d) :=
      DiskAction.bind_of_error (h.readSpecification_missing storable found) _
    rw [run]
    simp only [perform, found]
    exact ⟨trivial, h⟩
  | some spec =>
    obtain ⟨d', run, becomes⟩ := Local.upgrade_becomes builtin h.ready storable
      (h.shows_of storable found) (h.made name spec found).2
    rw [run]
    simp only [perform, found]
    exact ⟨trivial, h.keep found becomes⟩

theorem probe_agrees (storable : Local.Storable name) (h : m.LiesIn l w d) :
    Agrees l w d m (.probe name) := by
  unfold Agrees
  rw [Local.probe_run (h.shows name storable) h.ready storable]
  exact ⟨rfl, h⟩

theorem run_agrees (builtin : l.definitions = Definition.builtin) {r : Request} (suited : r.Suited)
    (h : m.LiesIn l w d) : Agrees l w d m r := by
  cases r with
  | create c => exact create_agrees builtin suited.1 suited.2 h
  | drop removal => exact drop_agrees suited h
  | truncate name => exact truncate_agrees suited h
  | upgrade name => exact upgrade_agrees builtin suited h
  | probe name => exact probe_agrees suited h

end Shelf

/-! ### Sequences of requests -/

/-- **Storage in a directory is a shelf.** In an empty data directory every sequence of requests gets
the results that it gets on a shelf. After it, for each specification on the shelf, the stored file is
read back as that specification, and the place of the instance holds just this file and a directory for
each of the parts, which have different names; of other names there is nothing. -/
theorem directory_is_shelf {p : Place} (builtin : l.definitions = Definition.builtin)
    (vacant : d.Vacant l.root p) (requests : List Request) (suited : ∀ r ∈ requests, r.Suited) :
    let shelf := (replay (exchange (Shelf.perform l.definitions)) requests .empty).2
    let disk := (replay (exchange l.run) requests d).2
    (replay (exchange l.run) requests d).1 =
        (replay (exchange (Shelf.perform l.definitions)) requests .empty).1 ∧
      (∀ name spec, shelf name = some spec → l.Stored disk name spec ∧
        l.Fresh d.workingDirectory disk name spec ∧ (spec.parts.map (·.name)).Nodup) ∧
      ∀ name, Local.Storable name → shelf name = none →
        ∀ q, l.home d.workingDirectory name <+: q → disk.node? q = none := by
  intro shelf disk
  have agrees (r : Request) (d₁ : Disk) (m : Shelf) (suited : r.Suited)
      (h : m.LiesIn l d.workingDirectory d₁) :
      (exchange l.run r d₁).1 = (exchange (Shelf.perform l.definitions) r m).1 ∧
        (exchange (Shelf.perform l.definitions) r m).2.LiesIn l d.workingDirectory
          (exchange l.run r d₁).2 := by
    obtain ⟨same, lies⟩ := Shelf.run_agrees builtin suited h
    exact ⟨congrArg (StorageExchange.mk r) same, lies⟩
  obtain ⟨same, lies⟩ := replay_refines (R := fun d₁ m => Shelf.LiesIn m l d.workingDirectory d₁)
    agrees suited (Shelf.empty_liesIn vacant)
  refine ⟨same, fun name spec there => ?_, fun name storable absent => ?_⟩
  · obtain ⟨storable, made⟩ := lies.made name spec there
    exact ⟨lies.stored there, lies.shows_of storable there, made.nodup_parts⟩
  · rintro _ ⟨q, rfl⟩
    exact lies.shows_of storable absent q

/-- A create is refused for its properties before it is refused for its name, and after a drop there is
nothing to truncate. -/
theorem shelf_of_one_name :
    let l : Local := ⟨⟨"data"⟩, Definition.builtin⟩
    let d : Disk := ⟨[(["data"], .directory)], []⟩
    let requests : List Request :=
      [.create ⟨"orders", ⟨"keyValueTable", []⟩, [("ttl", "60")]⟩,
        .create ⟨"orders", ⟨"table", []⟩, [("ttl", "soon")]⟩,
        .create ⟨"orders", ⟨"table", []⟩, []⟩,
        .upgrade "orders",
        .drop ⟨.ofType "orders" "table", ⟨"table", []⟩⟩,
        .truncate "orders"]
    d.Vacant l.root ["data"] ∧ (∀ r ∈ requests, r.Suited) ∧
      (replay (exchange l.run) requests d).1 =
        [⟨requests[0], .ok (Definition.keyValueSpec "orders" [("ttl", "60")])⟩,
          ⟨requests[1], .error (.execution "create" "orders"
            "Invalid value 'soon' for property 'ttl': invalid digit found in string")⟩,
          ⟨requests[2], .error (.alreadyExists "orders")⟩,
          ⟨requests[3], .ok ()⟩, ⟨requests[4], .ok ()⟩,
          ⟨requests[5], .error (.notFound "orders")⟩] := by
  intro l d requests
  have vacant : d.Vacant l.root ["data"] := vacant_alone (by decide)
  have name : Local.Storable "orders" := by decide
  have suited : ∀ r ∈ requests, r.Suited := by
    intro r hr
    simp only [requests, List.mem_cons, List.not_mem_nil, or_false] at hr
    rcases hr with rfl | rfl | rfl | rfl | rfl | rfl
    · exact ⟨name, List.pairwise_singleton _ _⟩
    · exact ⟨name, List.pairwise_singleton _ _⟩
    · exact ⟨name, List.Pairwise.nil⟩
    all_goals exact name
  exact ⟨vacant, suited, (directory_is_shelf rfl vacant requests suited).1⟩

end DatasetCatalog.Storage
