import DatasetCatalog.Proofs.Program.Replay
import DatasetCatalog.Proofs.Registry.Frame
import DatasetCatalog.Proofs.Registry.Memory
import DatasetCatalog.Proofs.Text.Order
import DatasetCatalog.Registry.Instances

/-!
# The registry in a directory is the one in memory

Both registries answer every sequence of operations alike. The registry in memory is a map in the
order of the names; the one in a directory holds the files of that map (`Files.Keeps`), which every
operation preserves. It begins in an empty directory that nothing else works in, and may be opened
again between any two operations.

What is listed is in the order of the bytes of the names, without repetitions.
-/

namespace DatasetCatalog.Registry

open Disk

/-- What is asked of a registry. -/
inductive Operation
  | add (spec : Specification)
  | get (name : String)
  | getAll
  | delete (name : String)
  /-- A registry that is kept in a directory is closed and opened again. -/
  | reopen

/-- What it answers. -/
inductive Outcome
  | added (result : Except RegistryError Unit)
  | found (result : Except RegistryError (Option Specification))
  | listed (result : Except RegistryError (List Specification))
  | deleted (result : Except RegistryError Bool)
  | reopened (result : Except RegistryError Unit)

/-- The specifications and names in an operation can be stored. -/
def Operation.Storable : Operation → Prop
  | .add spec => Registry.Storable spec
  | .get name | .delete name => isSafeName name = true ∧ Utf8.size name ≤ 250
  | .getAll | .reopen => True

/-- A registry with the disk it may use. -/
abbrev Site := InstanceRegistry × Disk

/-- Carries out an operation on a registry. -/
def perform : Operation → Site → Outcome × Site
  | .add spec, s =>
    let (result, s) := (InstanceRegistry.add spec).run.run s
    (.added result, s)
  | .get name, s =>
    let (result, s) := (InstanceRegistry.get name).run.run s
    (.found result, s)
  | .getAll, s =>
    let (result, s) := InstanceRegistry.getAll.run.run s
    (.listed result, s)
  | .delete name, s =>
    let (result, s) := (InstanceRegistry.delete name).run.run s
    (.deleted result, s)
  | .reopen, (.memory entries, d) => (.reopened (.ok ()), (.memory entries, d))
  | .reopen, (.files root, d) =>
    let (result, d) := (Files.openAt root).run.run d
    (.reopened result, (.files root, d))

variable {d : Disk} {root : Path} {p : Place} {m : StringMap Specification}

/-! ### One operation -/

/-- A registry in a directory holds what a registry in memory does. -/
def SameContent (root : Path) (p : Place) (s t : Site) : Prop :=
  ∃ d m d', s = (.files root, d) ∧ t = (.memory m, d') ∧ Files.Keeps root p m d

/-- The two registries answer an operation alike, and hold the same still. -/
theorem perform_agrees (named : root.text.isEmpty = false) (op : Operation) (s t : Site)
    (storable : op.Storable) (h : SameContent root p s t) :
    (perform op s).1 = (perform op t).1 ∧ SameContent root p (perform op s).2 (perform op t).2 := by
  obtain ⟨d, m, d', rfl, rfl, keeps⟩ := h
  cases op with
  | add spec =>
    have run := keeps.add_published storable.toWritable
    have keeps' := keeps.of_add storable (keeps.publish storable.toWritable)
    have inFiles : perform (.add spec) (.files root, d) =
        let result := (Files.add root spec).run.run d
        (.added result.1, (.files root, result.2)) := rfl
    have inMemory : perform (.add spec) (.memory m, d') =
        let result := (Memory.add spec).run.run m
        (.added result.1, (.memory result.2, d')) := rfl
    rw [inFiles, inMemory, run, Memory.add_run]
    cases found : StringMap.find? spec.name m with
    | none =>
      rw [found, if_pos rfl] at keeps'
      exact ⟨rfl, _, _, d', rfl, rfl, keeps'⟩
    | some taken =>
      rw [found, if_neg (by simp)] at keeps'
      exact ⟨rfl, _, m, d', rfl, rfl, keeps'⟩
  | get name =>
    have inFiles : perform (.get name) (.files root, d) =
        let result := (Files.get root name).run.run d
        (.found result.1, (.files root, result.2)) := rfl
    have found : Files.lookup m name = .ok (StringMap.find? name m) :=
      Files.lookup_eq_ok.2 ⟨storable.1, storable.2, rfl⟩
    rw [inFiles, keeps.get_eq name, found]
    exact ⟨rfl, d, m, d', rfl, rfl, keeps⟩
  | getAll =>
    have inFiles : perform .getAll (.files root, d) =
        let result := (Files.getAll root).run.run d
        (.listed result.1, (.files root, result.2)) := rfl
    rw [inFiles, keeps.getAll_eq, if_neg (by simp [named])]
    exact ⟨rfl, d, m, d', rfl, rfl, keeps⟩
  | delete name =>
    obtain ⟨after, run, holds⟩ := keeps.delete_run storable.1 storable.2
    have inFiles : perform (.delete name) (.files root, d) =
        let result := (Files.delete root name).run.run d
        (.deleted result.1, (.files root, result.2)) := rfl
    rw [inFiles, run]
    exact ⟨rfl, after, _, d', rfl, rfl, keeps.of_delete holds⟩
  | reopen =>
    have run : (Files.openAt root).run.run d = (.ok (), d) :=
      Files.onDisk_run keeps.opens.makeDirectories_self
    have inFiles : perform .reopen (.files root, d) =
        let result := (Files.openAt root).run.run d
        (.reopened result.1, (.files root, result.2)) := rfl
    rw [inFiles, run]
    exact ⟨rfl, d, m, d', rfl, rfl, keeps⟩

/-! ### Listings -/

/-- A listing succeeds, and its names increase strictly in the order of their bytes. -/
def Outcome.Increasing : Outcome → Prop
  | .listed result => ∃ specs, result = .ok specs ∧
      specs.Pairwise fun a b => Utf8.encode a.name < Utf8.encode b.name
  | _ => True

theorem increasing_of_sameContent (op : Operation) (s t : Site) (h : SameContent root p s t) :
    (perform op t).1.Increasing := by
  obtain ⟨d, m, d', rfl, rfl, keeps⟩ := h
  cases op with
  | getAll => exact ⟨_, rfl, keeps.values_pairwise.imp Utf8.encode_lt⟩
  | _ => trivial

/-! ### Sequences of operations -/

/-- A registry that begins in an empty directory answers every sequence of operations, with any
number of reopenings, as a registry in memory does. Every listing among the answers succeeds, and
its names increase strictly in the order of their bytes. -/
theorem files_registry_is_memory_registry (vacant : d.Vacant root p)
    (named : root.text.isEmpty = false) (d' : Disk) (ops : List Operation)
    (storable : ∀ op ∈ ops, op.Storable) :
    (replay perform ops (.files root, d)).1 = (replay perform ops (.memory [], d')).1 ∧
      ∀ answer ∈ (replay perform ops (.files root, d)).1, answer.Increasing := by
  have start : SameContent root p (.files root, d) (.memory [], d') :=
    ⟨d, [], d', rfl, rfl, Files.keeps_of_vacant vacant⟩
  have agree : (replay perform ops (.files root, d)).1 = (replay perform ops (.memory [], d')).1 :=
    replay_agrees (perform_agrees named) storable start
  refine ⟨agree, ?_⟩
  rw [agree]
  refine forall_mem_replay (P := fun t => ∃ s, SameContent root p s t) ?_ storable ⟨_, start⟩
  rintro op t hop ⟨s, same⟩
  exact ⟨increasing_of_sameContent op s t same, _, (perform_agrees named op s t hop same).2⟩

/-- After an add, a refused add of the same name and a reopening, the listing has the first
specification. -/
theorem first_instance_is_kept :
    let table := Specification.ofType "orders" "table"
    let other := Specification.ofType "orders" "keyValueTable"
    let ops : List Operation := [.add table, .add other, .reopen, .getAll]
    let d : Disk := ⟨[(["registry"], .directory)], []⟩
    d.Vacant ⟨"registry"⟩ ["registry"] ∧ (∀ op ∈ ops, op.Storable) ∧
      (replay perform ops (.files ⟨"registry"⟩, d)).1 =
        [.added (.ok ()), .added (.error (.alreadyExists "orders")), .reopened (.ok ()),
          .listed (.ok [table])] := by
  intro table other ops d
  have vacant : d.Vacant ⟨"registry"⟩ ["registry"] := vacant_alone (by decide)
  have ordered (typeName : String) : (Specification.ofType "orders" typeName).Ordered :=
    ⟨.nil, .nil, trivial⟩
  have storable : ∀ op ∈ ops, op.Storable := by
    intro op hop
    simp only [ops, List.mem_cons, List.not_mem_nil, or_false] at hop
    rcases hop with rfl | rfl | rfl | rfl
    · exact ⟨⟨by decide, by decide, ordered _⟩, by decide⟩
    · exact ⟨⟨by decide, by decide, ordered _⟩, by decide⟩
    · trivial
    · trivial
  exact ⟨vacant, storable, (files_registry_is_memory_registry vacant rfl d ops storable).1⟩

end DatasetCatalog.Registry
