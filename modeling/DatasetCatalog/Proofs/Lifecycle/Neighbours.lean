import DatasetCatalog.Lifecycle.Stores
import DatasetCatalog.Proofs.Lifecycle.Grounds

/-!
# Neighbours of an instance

Coordinators that keep everything in files share three directories. What an operation on one instance
does there is no concern of the others: `Grounds.operations_stay_in_their_instance` says so of every
name that a client can send, of whatever comes of the operation, and of every state that operations
lead to. It takes two things. The calls of an operation concern its own name and change the territory
of this name only. And what is answered about another instance depends on what is not in there:
`looksUp_congr` for an instance that is looked up, `lists_congr` for a listing.

Answers depend on one thing more if the namespace of the coordinator is too long for the name of a
directory. No owner can be recorded then, and the first attempt to record one makes that known to
everybody: from then on no instance is found (`looksUp_overlong`,
`long_namespace_disturbs_neighbours`). The files of the others are left alone all the same.
-/

namespace DatasetCatalog.Lifecycle

open Disk Program

namespace Grounds

variable {g : Grounds} {s : Stores} {d d' : Disk} {rs : Reservations} {settings : Settings}
  {name : String} {spec : Specification}

/-- Stores that keep everything in files. Types, the query engine and what is written down are those of
other stores. -/
def stores (g : Grounds) (s : Stores) (d : Disk) : Stores :=
  { s with
    instances := .files g.registry, owners := .files g.owners, storage := .directory g.storage
    disk := d }

/-- What a coordinator answers who is asked about an instance. -/
def looksUp (g : Grounds) (s : Stores) (settings : Settings) (name : String) (d : Disk) :
    Except CatalogError (Option InstanceMeta) :=
  ((get settings name).run.run Stores.answer ([], g.stores s d)).1

/-- What a coordinator lists. -/
def lists (g : Grounds) (s : Stores) (options : ListOptions) (d : Disk) :
    Except CatalogError (List Listing) :=
  ((list options).run.run Stores.answer ([], g.stores s d)).1

/-! ### Looking an instance up -/

/-- A call that is an action on the files is answered as the action says. -/
theorem answer_of_run {c : Call} {action : Disk → c.Answer × Disk} {r : c.Answer}
    (run : action d = (r, d'))
    (acts : ∀ d, Stores.answer c (rs, g.stores s d) = ((action d).1, rs, g.stores s (action d).2)) :
    Stores.answer c (rs, g.stores s d) = (r, rs, g.stores s d') := by
  rw [acts, run]

/-- Calls by which a coordinator finds out about an instance. -/
def AsksAbout (settings : Settings) (name : String) : Call → Prop
  | .findInstance n => n = name
  | .findType _ => True
  | .findOwner entity => entity = settings.entity name ∧ Nameable name
  | _ => False

theorem asksAbout_get : Relies (AsksAbout settings name) Sound (get settings name).run
    fun _ => True := by
  unfold get
  split
  · refine .ofRegistry_bind (.ask rfl) fun found sound => ?_
    cases found with
    | none => exact trivial
    | some spec =>
      refine .ofRegistry_bind (.ask trivial) fun typed _ => ?_
      refine .step_bind (.bind (.ask ⟨rfl, sound.1⟩) fun _ _ => trivial) fun owner => trivial
  · exact trivial

/-- Where the entry of a name and its owner record are the same, so is what is answered about it. -/
theorem looksUp_congr (apart : g.Apart) (h : g.InOrder d) (h' : g.InOrder d')
    (ns : isSafeName settings.namespace = true → Utf8.size settings.namespace ≤ nameLimit)
    (entry : d'.node? (g.entryPlace name) = d.node? (g.entryPlace name))
    (record : d'.node? (g.recordPlace settings name) = d.node? (g.recordPlace settings name)) :
    g.looksUp s settings name d' = g.looksUp s settings name d := by
  obtain ⟨m, instances⟩ := h.instances
  obtain ⟨m', instances'⟩ := h'.instances
  obtain ⟨n, owners⟩ := h.owners
  obtain ⟨n', owners'⟩ := h'.owners
  refine asksAbout_get.run_congr fun c asks => ?_
  cases c with
  | findInstance n =>
    obtain rfl : n = name := asks
    have run := instances.get_eq n
    have run' := instances'.get_eq n
    rw [Registry.Files.lookup_congr instances instances' entry] at run'
    have concerns : Concerns settings n (.findInstance n) := trivial
    obtain ⟨-, sound, -⟩ := call_stays apart h concerns run
    exact ⟨_, sound, answer_of_run run fun _ => rfl, answer_of_run run' fun _ => rfl⟩
  | findType n => exact ⟨_, trivial, rfl, rfl⟩
  | findOwner entity =>
    obtain ⟨rfl, nameable⟩ := asks
    have short : Utf8.size (settings.entity name).name ≤ nameLimit :=
      Nat.le_trans nameable.short (by decide)
    have same := Owner.Files.get_congr owners owners' short ns record
    rcases run : (Owner.Files.get g.owners (settings.entity name)).run.run d with ⟨r, d₁⟩
    rcases run' : (Owner.Files.get g.owners (settings.entity name)).run.run d' with ⟨r', d₂⟩
    obtain rfl := Owner.Files.get_reads run
    obtain rfl := Owner.Files.get_reads run'
    rw [run, run'] at same
    obtain rfl : r' = r := same
    exact ⟨_, trivial, answer_of_run run fun _ => rfl, answer_of_run run' fun _ => rfl⟩
  | _ => exact asks.elim

/-! ### Listing -/

variable {options : ListOptions}

/-- What a listing shows of an instance. -/
def shown (options : ListOptions) (types : TypeRegistry) (spec : Specification) : Listing :=
  if options.withMeta then
    .withMeta ⟨spec, types.find? spec.typeName,
      if options.explorable = some true then some (InstanceName.table spec.name) else none, none⟩
  else .bare spec

theorem shown_name (types : TypeRegistry) : (shown options types spec).name = spec.name := by
  rw [shown]
  split <;> rfl

/-- The tables that a listing is filtered by. -/
def filterTables (options : ListOptions) (gateway : Gateway) : Except CatalogError (List String) :=
  if options.explorable.isSome then
    match gateway.tableNames with
    | .ok names => .ok (names.map Casing.lower)
    | .error e => .error (.exploreListing e)
  else .ok []

theorem run_entry (options : ListOptions) (spec : Specification) (x : Reservations × Stores) :
    (options.entry spec).run.run Stores.answer x = (.ok (shown options x.2.types spec), x) := by
  unfold ListOptions.entry shown
  split
  · rfl
  · rfl

theorem run_entries (options : ListOptions) (specs : List Specification)
    (x : Reservations × Stores) :
    (specs.mapM options.entry).run.run Stores.answer x =
      (.ok (specs.map (shown options x.2.types)), x) := by
  induction specs with
  | nil => rfl
  | cons spec rest ih =>
    rw [List.mapM_cons, run_bind_ok (run_entry options spec x), run_bind_ok ih]
    rfl

theorem run_exposed (x : Reservations × Stores) :
    ∃ y, (exposed.run.run Stores.answer x) = (match x.2.gateway.tableNames with
      | .ok names => .ok (names.map Casing.lower)
      | .error e => .error (.exploreListing e), y) ∧ y.2.types = x.2.types := by
  have asked : (always exposedTables).run.run Stores.answer x =
      (.ok x.2.gateway.tableNames, x) := rfl
  cases tables : x.2.gateway.tableNames with
  | ok names =>
    refine ⟨x, ?_, rfl⟩
    rw [exposed, run_bind_ok asked, tables]
    rfl
  | error e =>
    refine ⟨(x.1, { x.2 with metrics := x.2.metrics.count (.exploreFailed "list") }), ?_, rfl⟩
    rw [exposed, run_bind_ok asked, tables]
    rfl

/-- The listing of what a registry holds. -/
def listing (options : ListOptions) (s : Stores) :
    Except RegistryError (List Specification) → Except CatalogError (List Listing)
  | .error e => .error (.registry e)
  | .ok specs => (filterTables options s.gateway).map fun tables =>
    (options.keep tables specs).map (shown options s.types)

/-- A listing shows the instances that pass the filter. -/
theorem run_list {r : Except RegistryError (List Specification)}
    (asked : allInstances.run Stores.answer (rs, s) = (r, rs, s)) :
    ((list options).run.run Stores.answer (rs, s)).1 = listing options s r := by
  rw [list, run_ofRegistry_bind, Program.run_bind, asked]
  cases r with
  | error e => rfl
  | ok specs =>
    rw [listing, filterTables]
    cases filtered : options.explorable.isSome with
    | false =>
      have none : (pure [] : Step (List String)).run.run Stores.answer (rs, s) = (.ok [], rs, s) := rfl
      simp only [Bool.false_eq_true, if_false]
      rw [run_bind_ok none, run_entries]
      rfl
    | true =>
      obtain ⟨y, asked, types⟩ := run_exposed (rs, s)
      simp only [if_true]
      cases tables : s.gateway.tableNames with
      | error e =>
        simp only [tables] at asked
        rw [run_bind_error asked]
        rfl
      | ok names =>
        simp only [tables] at asked
        rw [run_bind_ok asked, run_entries, types]
        rfl

theorem lists_eq {r : Except RegistryError (List Specification)}
    (run : (Registry.Files.getAll g.registry).run.run d = (r, d)) :
    g.lists s options d = listing options s r := by
  have asked : allInstances.run Stores.answer ([], g.stores s d) = (r, [], g.stores s d) := by
    refine (Program.run_call (answer_of_run run fun _ => rfl)).trans ?_
    rfl
  exact run_list asked

theorem keep_filter (tables : List String) (specs : List Specification) (p : Specification → Bool) :
    (options.keep tables specs).filter p = options.keep tables (specs.filter p) := by
  rw [ListOptions.keep, ListOptions.keep]
  split
  · rfl
  · exact List.filter_comm _ _ _

/-- What is listed of all instances but one. -/
def besides (name : String) (listed : Except CatalogError (List Listing)) :
    Except CatalogError (List Listing) :=
  listed.map fun entries => entries.filter fun l => l.name ≠ name

theorem besides_listing (specs : List Specification) :
    besides name (listing options s (.ok specs)) =
      listing options s (.ok (specs.filter fun spec => spec.name ≠ name)) := by
  rw [listing, listing]
  cases filterTables options s.gateway with
  | error e => rfl
  | ok tables =>
    rw [Except.map, besides, Except.map, Except.map, ← keep_filter, List.filter_map]
    simp only [Function.comp_def, shown_name]

/-- Where the entries of all other names are the same, so is what is listed of them. -/
theorem lists_congr (h : g.InOrder d) (h' : g.InOrder d')
    (same : ∀ other ≠ name, d'.node? (g.entryPlace other) = d.node? (g.entryPlace other)) :
    besides name (g.lists s options d') = besides name (g.lists s options d) := by
  obtain ⟨m, instances⟩ := h.instances
  obtain ⟨m', instances'⟩ := h'.instances
  rw [lists_eq instances.getAll_eq,
    lists_eq instances'.getAll_eq]
  split
  · rfl
  · rw [besides_listing, besides_listing, Registry.Files.others_congr instances instances' same]

/-! ### Whole operations -/

/-- What such stores do with a call. -/
def handle (g : Grounds) (s : Stores) (c : Call) (d : Disk) : c.Answer × Disk :=
  let (a, _, after) := Stores.answer c ([], g.stores s d)
  (a, after.disk)

theorem serves_handle (c : Call) (d : Disk) : g.Serves c d (g.handle s c d).1 (g.handle s c d).2 := by
  cases c with
  | perform r limit => exact .inl rfl
  | removeOwner entity => exact ⟨_, rfl, rfl⟩
  | _ => rfl

/-- What an operation answers that such stores serve, and the disk after it. -/
def serve (g : Grounds) (s : Stores) (settings : Settings) (errand : Errand) (d : Disk) :
    Except CatalogError Unit × Disk :=
  (errand.program settings).run (g.handle s) d

theorem runs_serve (g : Grounds) (s : Stores) (settings : Settings) (errand : Errand) (d : Disk) :
    ∃ xs, Runs g.Serves (errand.program settings) d xs (g.serve s settings errand d).1
      (g.serve s settings errand d).2 := by
  obtain ⟨xs, run⟩ := runs_ofHandler (g.handle s) (errand.program settings) d
  have sees (c : Call) (d₁ : Disk) (a : c.Answer) (d₂ : Disk)
      (answered : Conduct.ofHandler (g.handle s) c d₁ a d₂) : g.Serves c (id d₁) a (id d₂) := by
    have same : g.handle s c d₁ = (a, d₂) := answered
    have serves := serves_handle (g := g) (s := s) c d₁
    rwa [same] at serves
  exact ⟨xs, run.simulate sees⟩

/-! ### Namespaces that are too long -/

/-- Where no owner can be recorded because the namespace is too long, an instance is found for as long
as nobody has tried to record one. -/
theorem looksUp_overlong (h : g.InOrder d)
    (overlong : Owner.Files.Overlong (settings.entity name)) (valid : InstanceName.isValid name = true)
    (there : (d.node? (g.entryPlace name)).isSome) :
    (g.looksUp s settings name d).isOk =
      (d.node? (g.ownersPlace ++ [EntityType.dataset.text])).isNone := by
  obtain ⟨m, instances⟩ := h.instances
  obtain ⟨n, owners⟩ := h.owners
  obtain ⟨spec, found⟩ : ∃ spec, StringMap.find? name m = some spec := by
    rw [entryPlace, Registry.Files.entryPlace, instances.file name overlong.safeName,
      Option.isSome_map] at there
    exact Option.isSome_iff_exists.1 there
  obtain ⟨rfl, storable⟩ := instances.storable_of_find? found
  have got := instances.get_eq spec.name
  rw [Registry.Files.lookup_eq_ok.2 ⟨storable.safe, storable.short, found⟩] at got
  have owner := Owner.Files.get_overlong owners overlong
  have asked : (findInstance spec.name).run Stores.answer ([], g.stores s d) =
      (.ok (some spec), [], g.stores s d) := by
    refine (Program.run_call (answer_of_run got fun _ => rfl)).trans ?_
    rfl
  have typed : (ofRegistry (findType spec.typeName)).run.run Stores.answer ([], g.stores s d) =
      (.ok (s.types.find? spec.typeName), [], g.stores s d) := rfl
  rw [looksUp, get, if_pos valid, run_ofRegistry_bind, Program.run_bind, asked]
  dsimp only
  rw [run_bind_ok typed]
  have kind : (settings.entity spec.name).entityType = .dataset := rfl
  rw [kind] at owner
  have looked : (findOwner (settings.entity spec.name)).run Stores.answer ([], g.stores s d) =
      (_, [], g.stores s d) :=
    (Program.run_call (answer_of_run owner fun _ => rfl)).trans rfl
  rw [run_ofOwners_bind, Program.run_bind]
  cases directory : d.node? (g.ownersPlace ++ [EntityType.dataset.text]) with
  | none =>
    rw [if_pos directory] at looked
    rw [looked]
    rfl
  | some n =>
    rw [if_neg (by simp [directory])] at looked
    rw [looked]
    rfl

/-- A create whose owner cannot be recorded is over, whatever that has left. -/
theorem serve_unclaimed {request : InstanceConfiguration} {principal : Principal} {reason : String}
    {typeMeta : TypeMeta} (checked : checkCreate settings name request = .ok (some principal))
    (h : g.InOrder d) (nameable : Nameable name) (free : d.node? (g.entryPlace name) = none)
    (typed : s.types.find? request.typeName = some typeMeta)
    (failed : (Owner.Files.add g.owners (settings.entity name) principal).run.run d =
      (.error (.storage reason), d')) :
    g.serve s settings (.create name request) d = (.error (.ownerStore (.storage reason)), d') := by
  obtain ⟨m, instances⟩ := h.instances
  rw [entryPlace, Registry.Files.entryPlace, instances.file name nameable.safe,
    Option.map_eq_none_iff] at free
  have got := instances.get_eq name
  rw [Registry.Files.lookup_eq_ok.2 ⟨nameable.safe, nameable.short, free⟩] at got
  have reserved : g.handle s (.reserve name) d = (true, d) := rfl
  have notFound : g.handle s (.findInstance name) d = (.ok none, d) := by
    have answered : Stores.answer (.findInstance name) ([], g.stores s d) =
        (.ok none, [], g.stores s d) := answer_of_run got fun _ => rfl
    rw [handle, answered]
    rfl
  have known : g.handle s (.findType request.typeName) d = (.ok (some typeMeta), d) := by
    rw [← typed]
    rfl
  have refused : g.handle s (.addOwner (settings.entity name) principal) d =
      (.error (.storage reason), d') := by
    have unfolded : g.handle s (.addOwner (settings.entity name) principal) d =
        (((Owner.Files.add g.owners (settings.entity name) principal).run.run d).1,
          ((Owner.Files.add g.owners (settings.entity name) principal).run.run d).2) := rfl
    rw [unfolded, failed]
    rfl
  have body : (createReserved settings name request (some principal)).run.run (g.handle s) d =
      (.error (.ownerStore (.storage reason)), d') := by
    have first : (ofRegistry (findInstance name)).run.run (g.handle s) d = (.ok none, d) :=
      (run_call notFound).trans rfl
    have second : (ofRegistry (findType request.typeName)).run.run (g.handle s) d =
        (.ok (some typeMeta), d) := (run_call known).trans rfl
    have third : (claimOwner settings name (some principal)).run.run (g.handle s) d =
        (.error (.ownerStore (.storage reason)), d') := (run_call refused).trans rfl
    refine (run_bind_ok first).trans ?_
    refine (run_bind_ok second).trans ?_
    exact run_bind_error third
  have created : (create settings name request).run.run (g.handle s) d =
      (.error (.ownerStore (.storage reason)), d') := by
    rw [create_run checked]
    refine (run_call reserved).trans ?_
    dsimp only
    rw [holding, Program.run_bind, body]
    rfl
  exact run_bind_error created

/-! ### Other instances -/

theorem inside_entryPlace : inside g.registryPlace (g.entryPlace name) := ⟨_, List.prefix_refl _⟩

theorem not_entryPlace (apart : g.Apart) {other : String} (hne : other ≠ name) :
    ¬ g.territory settings name (g.entryPlace other) := by
  have within : g.registryPlace <+: g.entryPlace other := List.prefix_append _ _
  rintro (same | above | below)
  · exact hne (Registry.Files.entryOf_inj (List.singleton_inj.1 (List.append_cancel_left same)))
  · exact apart.registry.1 _ (.inr within) (Owner.Files.inside_of_recordArea above)
  · exact apart.registry.2 _ (.inr within) ⟨name, below⟩

theorem not_recordPlace (apart : g.Apart) {other : String} (hne : other ≠ name)
    (settings' : Settings) : ¬ g.territory settings name (g.recordPlace settings' other) := by
  have within : g.ownersPlace <+: g.recordPlace settings' other :=
    (List.prefix_append _ _).trans (List.prefix_append _ _)
  rintro (same | above | below)
  · exact apart.owners.1 _ (.inr within) (same ▸ inside_entryPlace)
  · rcases above with same | same | same
    · have lengths := congrArg List.length same
      simp [recordPlace, Owner.Files.recordPlace, Owner.Files.above] at lengths
    · have lengths := congrArg List.length same
      simp [recordPlace, Owner.Files.recordPlace, Owner.Files.above] at lengths
    · exact hne (congrArg EntityId.name (Owner.Files.recordPlace_inj same))
  · exact apart.owners.2 _ (.inr within) ⟨name, below⟩

theorem not_below_home (apart : g.Apart) {other : String} (hne : other ≠ name) {q : Place}
    (h : g.home other <+: q) : ¬ g.territory settings name q := by
  have within : g.dataPlace <+: q := (List.prefix_append _ _).trans h
  rintro (same | above | below)
  · exact apart.data.1 _ (.inr within) (same ▸ inside_entryPlace)
  · exact apart.data.2 _ (.inr within) (Owner.Files.inside_of_recordArea above)
  · exact Storage.Local.not_below_home hne h below

/-- An instance is as it was: what stands on the disk of it, and what is answered about it by
coordinators whose namespace can be the name of a directory, if it is a safe name at all. -/
structure Undisturbed (g : Grounds) (name : String) (d d' : Disk) : Prop where
  entry : d'.node? (g.entryPlace name) = d.node? (g.entryPlace name)
  record : ∀ settings, d'.node? (g.recordPlace settings name) = d.node? (g.recordPlace settings name)
  storage : ∀ q, g.home name <+: q → d'.node? q = d.node? q
  looksUp : ∀ s settings,
    (isSafeName settings.namespace = true → Utf8.size settings.namespace ≤ nameLimit) →
    g.looksUp s settings name d' = g.looksUp s settings name d

theorem undisturbed_of_spares (apart : g.Apart) (h : g.InOrder d) (h' : g.InOrder d')
    (spares : Spares (g.territory settings name) d d') {other : String} (hne : other ≠ name) :
    g.Undisturbed other d d' := by
  have entry := spares.beyond _ (not_entryPlace apart hne)
  have record (settings' : Settings) := spares.beyond _ (not_recordPlace apart hne settings')
  exact ⟨entry, record, fun q hq => spares.beyond q (not_below_home apart hne hq),
    fun s settings' ns => looksUp_congr apart h h' ns entry (record settings')⟩

/-- Operations stay inside their instance. In every state that operations lead to from three empty
directories, one after the other or side by side, an operation on a name changes nothing but the
catalog entry of the name, its owner record with the two directories above it, and its storage. It
changes nothing at all if the name is none, and an admin operation changes nothing but storage. So all
other instances are as they were, and so is what is listed of them. -/
theorem operations_stay_in_their_instance {ι : Type} [DecidableEq ι] {calls : ι → Settings × Errand}
    {d₀ : Disk} {ys : List (ThreadExchange ι)} {q : Threads ι (Except CatalogError Unit)}
    {errand : Errand} {xs : List Exchange} {a : Except CatalogError Unit} (fresh : g.Fresh d₀)
    (reached : Interleaves g.Serves (fun i => (calls i).2.program (calls i).1) d₀ ys q d)
    (on : errand.On name) (run : Runs g.Serves (errand.program settings) d xs a d') :
    Spares (g.territory settings name) d d' ∧
      (InstanceName.isValid name = false → d' = d) ∧
      (errand.IsAdmin → Spares (below (g.home name)) d d') ∧
      (∀ other ≠ name, g.Undisturbed other d d') ∧
      ∀ s options, besides name (g.lists s options d') = besides name (g.lists s options d) := by
  have apart := fresh.isApart
  have inOrder := inOrder_of_interleaves apart fresh.inOrder reached
  obtain ⟨inOrder', touches⟩ := run_stays apart inOrder (minds_program settings on)
    (fun c hc => ⟨_, _, hc⟩) (fun c q hc => territory_of_reach hc) run
  refine ⟨touches.toSpares, fun invalid => ?_, fun isAdmin => ?_, fun other hne => ?_,
    fun s options => ?_⟩
  · obtain ⟨r, done⟩ := program_of_invalid settings on invalid
    rw [done] at run
    exact run.done_inv.2.2
  · have storage := run_stays apart inOrder (storageOnly_program on isAdmin)
      (fun c hc => ⟨settings, name, concerns_of_concernsStorage hc⟩)
      (fun c q hc => home_of_reach hc) run
    exact storage.2.toSpares
  · exact undisturbed_of_spares apart inOrder inOrder' touches.toSpares hne
  · exact lists_congr inOrder inOrder' fun other hne =>
      touches.beyond _ (not_entryPlace apart hne)

/-- Two instances are created, and one of them is dropped. -/
theorem dropping_orders_spares_sales :
    let g := sideBySide "registry" "owners" "data"
    let empty := Disk.sideBySide ["registry", "owners", "data"]
    let settings : Settings := {}
    let create (name : String) : Errand := .create name ⟨"table", [], some "alice"⟩
    let drop : Errand := .drop "orders"
    let d := (g.serve {} settings (create "orders") (g.serve {} settings (create "sales") empty).2).2
    let d' := (g.serve {} settings drop d).2
    (g.serve {} settings drop d).1.isOk = true ∧ g.Fresh empty ∧ drop.On "orders" ∧
      Spares (g.territory settings "orders") d d' ∧ g.Undisturbed "sales" d d' := by
  intro g empty settings create drop d d'
  have fresh : g.Fresh empty :=
    fresh_sideBySide (by decide) (by decide) (by decide) (by decide)
  obtain ⟨xs₁, first⟩ := runs_serve g {} settings (create "sales") empty
  obtain ⟨xs₂, second⟩ := runs_serve g {} settings (create "orders")
    (g.serve {} settings (create "sales") empty).2
  obtain ⟨xs, run⟩ := runs_serve g {} settings drop d
  let calls (b : Bool) : Settings × Errand := (settings, create (if b then "orders" else "sales"))
  have reached : Interleaves g.Serves (fun b => (calls b).2.program (calls b).1) empty _ _ d :=
    (InterleavesBy.start.run (i := false) rfl first).run (i := true) rfl second
  have on : drop.On "orders" := rfl
  obtain ⟨spares, -, -, others, -⟩ := operations_stay_in_their_instance fresh reached on run
  exact ⟨by decide +kernel, fresh, on, spares, others "sales" (by decide)⟩

theorem size_letters (n : Nat) : Utf8.size (String.ofList (List.replicate n 'a')) = n := by
  have one : (Utf8.encodeChar 'a').length = 1 := rfl
  simp [Utf8.size, Utf8.encode, Utf8.encodeChars, List.length_flatMap, one]

theorem isSafeName_letters (n : Nat) :
    isSafeName (String.ofList (List.replicate (n + 1) 'a')) = true := by
  simp [isSafeName, List.replicate_succ]

/-- A namespace that is too long comes between an instance and those who ask for it, as soon as another
one is to be created for somebody. -/
theorem long_namespace_disturbs_neighbours :
    let g := sideBySide "registry" "owners" "data"
    let empty := Disk.sideBySide ["registry", "owners", "data"]
    let settings : Settings := ⟨String.ofList (List.replicate 256 'a'), false, .ofSeconds 300⟩
    let first : Errand := .create "sales" ⟨"table", [], none⟩
    let second : Errand := .create "orders" ⟨"table", [], some "alice"⟩
    let d := (g.serve {} settings first empty).2
    let d' := (g.serve {} settings second d).2
    g.Fresh empty ∧ (∃ xs a, Runs g.Serves (first.program settings) empty xs a d) ∧
      second.On "orders" ∧ (∃ xs a, Runs g.Serves (second.program settings) d xs a d') ∧
      (g.looksUp {} settings "sales" d).isOk = true ∧
      (g.looksUp {} settings "sales" d').isOk = false := by
  intro g empty settings first second d d'
  have fresh : g.Fresh empty :=
    fresh_sideBySide (by decide) (by decide) (by decide) (by decide)
  obtain ⟨xs₁, a₁, run₁⟩ : ∃ xs a, Runs g.Serves (first.program settings) empty xs a d := by
    obtain ⟨xs, run⟩ := runs_serve g {} settings first empty
    exact ⟨xs, _, run⟩
  obtain ⟨xs₂, a₂, run₂⟩ : ∃ xs a, Runs g.Serves (second.program settings) d xs a d' := by
    obtain ⟨xs, run⟩ := runs_serve g {} settings second d
    exact ⟨xs, _, run⟩
  have inOrder : g.InOrder d := inOrder_of_run fresh.isApart fresh.inOrder run₁
  have overlong (name : String) (safe : isSafeName name = true) :
      Owner.Files.Overlong (settings.entity name) :=
    ⟨isSafeName_letters 255, Nat.lt_of_lt_of_eq (by decide) (size_letters 256).symm, safe⟩
  obtain ⟨n, owners⟩ := inOrder.owners
  have valid : Owner.validate (settings.entity "orders") ⟨"alice"⟩ = .ok () := rfl
  have checked : checkCreate settings "orders" ⟨"table", [], some "alice"⟩ = .ok (some ⟨"alice"⟩) :=
    checkCreate_of_recordable (by decide) fun _ h => Option.some.inj h ▸ rfl
  have made : d' = d.ensure (g.ownersPlace ++ [EntityType.dataset.text]) :=
    congrArg Prod.snd (serve_unclaimed checked inOrder ⟨by decide, by decide⟩ (by decide +kernel) rfl
      (Owner.Files.add_overlong owners (overlong "orders" (by decide)) valid))
  have sales : (d.node? (g.entryPlace "sales")).isSome := by decide +kernel
  have nobody : d.node? (g.ownersPlace ++ [EntityType.dataset.text]) = none := by decide +kernel
  have before := looksUp_overlong (s := {}) inOrder (overlong "sales" (by decide)) (by decide) sales
  have still : (d'.node? (g.entryPlace "sales")).isSome := by
    rw [made, node?_ensure, Option.isSome_or, sales, Bool.true_or]
  have after := looksUp_overlong (s := {}) (inOrder_of_run fresh.isApart inOrder run₂)
    (overlong "sales" (by decide)) (by decide) still
  rw [nobody, Option.isNone_none] at before
  rw [made, node?_ensure, if_pos rfl, Option.isNone_or, Option.isNone_some, Bool.and_false] at after
  have on : second.On "orders" := rfl
  refine ⟨fresh, ⟨xs₁, a₁, run₁⟩, on, ⟨xs₂, a₂, run₂⟩, before, ?_⟩
  rw [made]
  exact after

end Grounds

end DatasetCatalog.Lifecycle
