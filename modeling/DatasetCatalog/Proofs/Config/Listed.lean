import DatasetCatalog.Proofs.Config.Nested
import DatasetCatalog.Proofs.Lifecycle.Removals
import DatasetCatalog.Proofs.Text.Order

/-!
# Listings of one catalog

A listing can be asked for in six ways, with a filter or without, and with or without all that is known
about the instances. Whatever the catalog holds and whatever tables the query engine tells, the six go
together (`Parts`): the filters split the whole listing in two, and the rest of what is known about the
instances does not matter for it. Names are compared with tables after both have been put into one form,
so it is of no importance how the tables are written, or how often.

All of it is about listings that succeed. As soon as there is one entry in files that nests too deep,
none of the six does: `explorable_filter_splits_the_listing` says when they succeed.
-/

namespace DatasetCatalog

/-- The table that an entry of a listing names. -/
def Listing.exploreTable : Listing → Option String
  | .withMeta m => m.exploreTableName
  | .bare _ => none

/-! ### Entries in order -/

/-- Names come in the order of their bytes. -/
theorem Entries.Proper.increasing {m : Entries} (proper : m.Proper) :
    (StringMap.values m).Pairwise fun a b => Utf8.encode a.name < Utf8.encode b.name := by
  have names : ((StringMap.values m).map (·.name)).Pairwise (· < ·) := by
    rw [proper.map_name]
    exact List.pairwise_map.2 proper.sorted
  exact (List.pairwise_map.1 names).imp Utf8.encode_lt

theorem Registry.Files.Holds.proper {root : Disk.Path} {p : Disk.Place} {m : Entries} {d : Disk}
    (h : Holds root p m d) : m.Proper :=
  ⟨h.sorted, fun found => (h.writable_of_find? found).1⟩

namespace Lifecycle

open Disk Program

variable {m : Entries} {s : Stores} {rs : Reservations} {tables : List String}
  {options : ListOptions} {types : TypeRegistry} {specs : List Specification} {spec : Specification}
  {withMeta : Bool}

/-- Stores whose catalog has some entries, in memory or in files. -/
inductive Stocked (m : Entries) (s : Stores) : Prop
  | memory (kept : s.instances = .memory m) (proper : m.Proper)
  | files {root : Path} {p : Place} (kept : s.instances = .files root)
    (holds : Registry.Files.Holds root p m s.disk)

/-- Whether all entries of a catalog can be read. In files that takes a directory whose path is not
empty, and entries that do not nest too deep. -/
def Readable (m : Entries) : InstanceRegistry → Prop
  | .memory _ => True
  | .files root => root.text.isEmpty = false ∧ ∀ e ∈ m, e.2.toJson.depth ≤ Json.depthLimit

theorem Stocked.proper (h : Stocked m s) : m.Proper := by
  cases h with
  | memory _ proper => exact proper
  | files _ holds => exact holds.proper

theorem run_allInstances {root : Path} {r : Except RegistryError (List Specification)}
    (kept : s.instances = .files root)
    (run : (Registry.Files.getAll root).run.run s.disk = (r, s.disk)) :
    allInstances.run Stores.answer (rs, s) = (r, rs, s) := by
  have told : s.onInstances InstanceRegistry.getAll = (r, s) := Stores.onInstances_files kept run
  have answered : Stores.answer .allInstances (rs, s) = (r, rs, s) := by
    rw [Stores.answer, told]
    rfl
  exact (Program.run_call answered).trans rfl

/-- What a coordinator is told who asks for all instances. -/
theorem Stocked.asked (h : Stocked m s) (rs : Reservations) :
    ∃ r, allInstances.run Stores.answer (rs, s) = (r, rs, s) ∧
      (Readable m s.instances → r = .ok (StringMap.values m)) ∧
      (¬ Readable m s.instances → ∃ e, r = .error e) := by
  cases h with
  | memory kept _ =>
    obtain ⟨_, instances, _, _, _, _, _, _⟩ := s
    cases kept
    exact ⟨_, rfl, fun _ => rfl, fun unreadable => absurd trivial unreadable⟩
  | @files root p kept holds =>
    rw [Readable.eq_def, kept]
    cases named : root.text.isEmpty with
    | true =>
      refine ⟨_, run_allInstances kept (Registry.Files.getAll_nameless holds.opens named), ?_,
        fun _ => ⟨_, rfl⟩⟩
      rintro ⟨named', -⟩
      cases named.symm.trans named'
    | false =>
      obtain ⟨r, run, listed, failed⟩ := holds.getAll_eq named
      refine ⟨r, run_allInstances kept run, fun readable => listed readable.2, fun unreadable => ?_⟩
      obtain ⟨fault, failed⟩ := failed (by simpa [named] using unreadable)
      exact ⟨_, failed⟩

/-! ### What a listing shows -/

/-- What a listing of some instances shows where the query engine tells some tables. -/
def shows (options : ListOptions) (types : TypeRegistry) (tables : List String)
    (specs : List Specification) : List Listing :=
  (options.keep (tables.map Casing.lower) specs).map (Grounds.shown options types)

/-- A listing succeeds as soon as all instances and all tables have been told. -/
theorem listing_of_tables (told : s.gateway.tableNames = .ok tables) :
    Grounds.listing options s (.ok specs) = .ok (shows options s.types tables specs) := by
  obtain ⟨explorable, withMeta⟩ := options
  rw [Grounds.listing, Grounds.filterTables, told]
  cases explorable <;> rfl

theorem shown_spec : (Grounds.shown options types spec).spec = spec := by
  rw [Grounds.shown]
  split <;> rfl

theorem shown_exploreTable :
    (Grounds.shown options types spec).exploreTable =
      if options.explorable = some true ∧ options.withMeta = true then
        some (InstanceName.table spec.name) else none := by
  rw [Grounds.shown]
  cases asked : options.withMeta with
  | false => simp [Listing.exploreTable]
  | true => simp [Listing.exploreTable]

/-- The specifications in a listing are those that the filter keeps. -/
theorem map_spec_shows :
    (shows options types tables specs).map Listing.spec =
      options.keep (tables.map Casing.lower) specs := by
  rw [shows, List.map_map]
  exact (List.map_congr_left fun _ _ => shown_spec).trans (List.map_id _)

theorem keep_sublist (options : ListOptions) (tables : List String) (specs : List Specification) :
    (options.keep tables specs).Sublist specs := by
  rw [ListOptions.keep]
  split
  · exact List.Sublist.refl _
  · exact List.filter_sublist

/-- What one filter leaves out the other one keeps. -/
theorem keep_append_perm (tables : List String) (specs : List Specification) :
    (ListOptions.keep ⟨some true, withMeta⟩ tables specs ++
      ListOptions.keep ⟨some false, withMeta⟩ tables specs).Perm specs := by
  simp only [ListOptions.keep, beq_true, beq_false]
  exact List.filter_append_perm _ _

theorem mem_keep :
    spec ∈ ListOptions.keep ⟨some true, withMeta⟩ (tables.map Casing.lower) specs ↔
      spec ∈ specs ∧ ∃ table ∈ tables, InstanceName.table spec.name = Casing.lower table := by
  simp only [ListOptions.keep, isExposedIn, beq_true, List.mem_filter, List.contains_iff_mem,
    List.mem_map, eq_comm (a := InstanceName.table spec.name)]

/-- How the listings of one catalog go together, which has some entries, where the query engine tells
some tables. -/
structure Parts (m : Entries) (tables : List String) (listing : ListOptions → List Listing) : Prop where
  /-- Without a filter all instances are listed, each one once. -/
  whole : ∀ withMeta, (listing ⟨none, withMeta⟩).map Listing.spec = StringMap.values m
  increasing : ∀ options, (listing options).Pairwise fun a b => Utf8.encode a.name < Utf8.encode b.name
  part : ∀ wanted withMeta, ((listing ⟨some wanted, withMeta⟩).map Listing.spec).Sublist
    ((listing ⟨none, withMeta⟩).map Listing.spec)
  together : ∀ withMeta, ((listing ⟨some true, withMeta⟩ ++ listing ⟨some false, withMeta⟩).map
    Listing.spec).Perm ((listing ⟨none, withMeta⟩).map Listing.spec)
  exposed : ∀ withMeta spec, spec ∈ (listing ⟨some true, withMeta⟩).map Listing.spec ↔
    spec ∈ StringMap.values m ∧ ∃ table ∈ tables, InstanceName.table spec.name = Casing.lower table
  /-- It makes no difference whether all that is known is asked for. -/
  alike : ∀ explorable, (listing ⟨explorable, true⟩).map Listing.spec =
    (listing ⟨explorable, false⟩).map Listing.spec
  named : ∀ options, ∀ l ∈ listing options, l.exploreTable =
    if options.explorable = some true ∧ options.withMeta = true then some (InstanceName.table l.name)
    else none

theorem parts_of_proper (proper : m.Proper) (types : TypeRegistry) (tables : List String) :
    Parts m tables fun options => shows options types tables (StringMap.values m) where
  whole withMeta := map_spec_shows
  increasing options := by
    have kept : ((shows options types tables (StringMap.values m)).map Listing.spec).Pairwise
        fun a b => Utf8.encode a.name < Utf8.encode b.name := by
      rw [map_spec_shows]
      exact proper.increasing.sublist (keep_sublist _ _ _)
    exact (List.pairwise_map (f := Listing.spec)).1 kept
  part wanted withMeta := by
    rw [map_spec_shows, map_spec_shows]
    exact keep_sublist _ _ _
  together withMeta := by
    rw [List.map_append, map_spec_shows, map_spec_shows, map_spec_shows]
    exact keep_append_perm _ _
  exposed withMeta spec := by
    rw [map_spec_shows]
    exact mem_keep
  alike explorable := by
    rw [map_spec_shows, map_spec_shows]
    rfl
  named options l hl := by
    obtain ⟨spec, -, rfl⟩ := List.mem_map.1 hl
    rw [Listing.name, shown_spec, shown_exploreTable]

/-! ### All listings of a catalog -/

/-- The filters split the listing of a catalog, in memory or in files, whatever it holds, whatever types
are registered and whatever tables the query engine tells. This takes entries that can all be read.
Otherwise the registry fails every listing, with a filter or without. -/
theorem explorable_filter_splits_the_listing (stocked : Stocked m s)
    (told : s.gateway.tableNames = .ok tables) :
    (Readable m s.instances → ∃ listing : ListOptions → List Listing, Parts m tables listing ∧
      ∀ options rs, ((list options).run.run Stores.answer (rs, s)).1 = .ok (listing options)) ∧
    (¬ Readable m s.instances → ∀ options rs, ∃ e,
      ((list options).run.run Stores.answer (rs, s)).1 = .error (.registry e)) := by
  refine ⟨fun readable => ⟨_, parts_of_proper stocked.proper s.types tables, fun options rs => ?_⟩,
    fun unreadable options rs => ?_⟩
  · obtain ⟨r, asked, listed, -⟩ := stocked.asked rs
    rw [Grounds.run_list asked, listed readable, listing_of_tables told]
  · obtain ⟨r, asked, -, failed⟩ := stocked.asked rs
    obtain ⟨e, rfl⟩ := failed unreadable
    exact ⟨e, Grounds.run_list asked⟩

/-- Three instances, two of which are exposed. One of them is told twice, and both in capitals. -/
theorem two_of_three_are_exposed :
    let m : Entries := StringMap.ofList (["orders", "Sales.eu", "stock"].map fun name =>
      (name, .ofType name "table"))
    let tables := ["ORDERS", "SALES_EU", "orders", "other"]
    let s : Stores := { instances := .memory m, gateway := { tables := tables.map (·, ()) } }
    Stocked m s ∧ s.gateway.tableNames = .ok tables ∧ Readable m s.instances ∧
      ∃ listing : ListOptions → List Listing, Parts m tables listing ∧
        (∀ options rs,
          ((list options).run.run Stores.answer (rs, s)).1 = .ok (listing options)) ∧
        (listing ⟨some true, true⟩).map Listing.exploreTable = [some "sales_eu", some "orders"] ∧
        (listing ⟨some false, true⟩).map (fun l => (l.name, l.exploreTable)) = [("stock", none)] := by
  intro m tables s
  have proper : m.Proper := by
    refine ⟨StringMap.sorted_ofList _, fun {name spec} found => ?_⟩
    have all : ∀ e ∈ m, e.2.name = e.1 := by decide +kernel
    exact all _ (StringMap.mem_of_find? found)
  have stocked : Stocked m s := .memory rfl proper
  have told : s.gateway.tableNames = .ok tables := by decide
  obtain ⟨listing, parts, lists⟩ := (explorable_filter_splits_the_listing stocked told).1 trivial
  have shown (wanted : Bool) : listing ⟨some wanted, true⟩ =
      shows ⟨some wanted, true⟩ s.types tables (StringMap.values m) := by
    have listed := lists ⟨some wanted, true⟩ []
    cases wanted <;> exact Except.ok.inj (listed.symm.trans rfl)
  refine ⟨stocked, told, trivial, listing, parts, lists, ?_, ?_⟩
  · rw [shown]
    decide +kernel
  · rw [shown]
    decide +kernel

/-- One entry in files that nests too deep fails all listings. -/
theorem list_of_deep {root : Path} {p : Place} (kept : s.instances = .files root)
    (named : root.text.isEmpty = false) (holds : Registry.Files.Holds root p m s.disk)
    (deep : ∃ e ∈ m, Json.depthLimit < e.2.toJson.depth) :
    ∃ fault, ∀ options rs,
      ((list options).run.run Stores.answer (rs, s)).1 = .error (.registry (.unreadable fault)) := by
  obtain ⟨r, read, -, failed⟩ := holds.getAll_eq named
  obtain ⟨fault, rfl⟩ := failed deep
  exact ⟨fault, fun options rs => Grounds.run_list (run_allInstances kept read)⟩

/-- A catalog in files that has got an instance whose specification nests too deep. It has this instance,
and still no listing shows it, nor says that there is none. -/
theorem deep_entry_hides_the_catalog :
    let root : Path := ⟨"registry"⟩
    let empty : Disk := ⟨[(["registry"], .directory)], []⟩
    ∃ d fault, (Registry.Files.add root deep).run.run empty = (.ok (), d) ∧
      let s : Stores := { instances := .files root, disk := d }
      Stocked [("deep", deep)] s ∧ s.gateway.tableNames = .ok [] ∧
        ∀ options rs, ((list options).run.run Stores.answer (rs, s)).1 =
          .error (.registry (.unreadable fault)) := by
  intro root empty
  have vacant : empty.Vacant root ["registry"] := vacant_alone (by decide)
  have holds := (Registry.Files.keeps_of_vacant vacant).toHolds
  have writable : Registry.Writable deep := ⟨by decide, by decide, ordered_deep⟩
  have free : StringMap.find? deep.name [] = (none : Option Specification) := rfl
  rcases added : (Registry.Files.add root deep).run.run empty with ⟨r, d⟩
  obtain ⟨answered, holds, -⟩ := holds.add_exact writable added
  rw [if_pos free] at answered holds
  subst answered
  let s : Stores := { instances := .files root, disk := d }
  have kept : s.instances = .files root := rfl
  obtain ⟨fault, fails⟩ := list_of_deep kept rfl holds
    ⟨("deep", deep), List.mem_singleton_self _, deep_is_too_deep⟩
  exact ⟨d, fault, rfl, .files kept holds, rfl, fails⟩

end Lifecycle

end DatasetCatalog
