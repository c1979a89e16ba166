import DatasetCatalog.Proofs.Config.Deployment
import DatasetCatalog.Proofs.Lifecycle.Neighbours

/-!
# Specifications that nest too deep

The code of a type answers a create with a specification, and a catalog in files writes it down as it is.
Whatever is written can be read again, but for one thing: a reader gives up on values that nest too deep.

So a create whose answer nests too deep does harm. The entry is there and can neither be read nor
dropped, and nothing can be listed any more (`deep_specification_spoils_the_listing`). No other answer
does any harm, be it a specification or a failure: `only_deep_specifications_do_harm`.
-/

namespace DatasetCatalog

open Disk Lifecycle Program

/-! ### What a create changes of a ledger -/

namespace Ledger

variable {inFiles : Bool} {types : TypeRegistry} {settings : Settings} {l l' : Ledger} {name : String}
  {spec : Specification} {owner : Option Principal} {entity : EntityId}

/-- What is read under a name depends on its entry only. -/
theorem reads_congr (same : l'.find? name = l.find? name) :
    l'.reads inFiles name = l.reads inFiles name := by
  cases inFiles with
  | false => exact congrArg Except.ok same
  | true =>
    have looked : Registry.Files.lookup l'.catalog name = Registry.Files.lookup l.catalog name := by
      rw [Registry.Files.lookup, Registry.Files.lookup, show StringMap.find? name l'.catalog = _ from same]
      rfl
    change Registry.Files.reads l'.catalog name = Registry.Files.reads l.catalog name
    rw [Registry.Files.reads, Registry.Files.reads, looked]

/-- What is answered about a name depends on its entry and its owner record only. -/
theorem describes_congr (entry : l'.find? name = l.find? name)
    (record : l'.owners (settings.entity name) = l.owners (settings.entity name)) :
    l'.describes inFiles types settings name = l.describes inFiles types settings name := by
  rw [describes, describes, reads_congr entry, record]

theorem legible_claim : (l.claim entity owner).Legible inFiles ↔ l.Legible inFiles := by
  cases owner <;> exact Iff.rfl

/-- All entries can be read after one more if they could before and it can. -/
theorem legible_enter (free : l.find? spec.name = none) :
    (l.enter spec).Legible inFiles ↔
      l.Legible inFiles ∧ (inFiles = true → spec.toJson.depth ≤ Json.depthLimit) := by
  have members {e : String × Specification} :
      e ∈ (l.enter spec).catalog ↔ e = (spec.name, spec) ∨ e ∈ l.catalog :=
    StringMap.mem_insert_of_free free
  simp only [Legible, members, forall_eq_or_imp]
  exact ⟨fun h => ⟨fun files => (h files).2, fun files => (h files).1⟩,
    fun h files => ⟨h.2 files, h.1 files⟩⟩

end Ledger

namespace Lifecycle

variable {types : TypeRegistry} {settings : Settings} {name : String} {l l' : Ledger}
  {xs : List Exchange} {request : InstanceConfiguration} {a : Except CatalogError Specification}
  {spec : Specification}

/-- Whether a create has made an instance whose specification nests too deep to be read. -/
def nestsTooDeep : Except CatalogError Specification → Bool
  | .ok spec => decide (Json.depthLimit < spec.toJson.depth)
  | .error _ => false

theorem create_legible
    (run : Runs (Ledger.Serves true types) (create settings name request).run l xs a l') :
    l'.Legible true ↔ l.Legible true ∧ nestsTooDeep a = false := by
  obtain ⟨spec, rfl, rfl, -, free, rfl⟩ | ⟨⟨e, rfl⟩, rfl⟩ := create_serves run
  · rw [Ledger.legible_enter (by rw [Ledger.find?_claim, free]), Ledger.legible_claim]
    simp [nestsTooDeep]
  · simp [nestsTooDeep]

/-- What was created is in the ledger. -/
theorem create_found (run : Runs (Ledger.Serves true types) (create settings name request).run l xs
      (.ok spec) l') :
    InstanceName.isValid name = true ∧ l'.find? name = some spec := by
  obtain ⟨_, made, named, valid, -, rfl⟩ | ⟨⟨e, failed⟩, -⟩ := create_serves run
  · cases made
    exact ⟨valid, (Ledger.find?_enter _ _ _).trans (if_pos named)⟩
  · cases failed

/-- A create changes nothing of what is known about another name. -/
theorem create_describes {other : String} (hne : other ≠ name)
    (run : Runs (Ledger.Serves true types) (create settings name request).run l xs a l') :
    l'.describes true types settings other = l.describes true types settings other := by
  obtain ⟨spec, -, rfl, -, -, rfl⟩ | ⟨-, rfl⟩ := create_serves run
  · refine Ledger.describes_congr ?_ ?_
    · rw [Ledger.find?_enter, if_neg (Ne.symm hne), Ledger.find?_claim]
    · rw [Ledger.owners_enter]
      cases ownerOf request with
      | none => rfl
      | some principal => exact Function.update_of_ne (entity_ne hne) _ _
  · rfl

/-! ### What can be seen of it -/

variable {g : Grounds} {ok : Specification → Prop} {s₀ s s' : Stores}

/-- Whether the registry fails listings. -/
def listingsFail (s : Stores) : Bool := lostRegistry ((list {}).run.run Stores.answer ([], s)).1

theorem listing_lost (options : ListOptions) (specs : List Specification) :
    lostRegistry (Grounds.listing options s (.ok specs)) = false := by
  rw [Grounds.listing, Grounds.filterTables]
  split
  · split <;> rfl
  · rfl

/-- The registry fails a listing if there is an entry that cannot be read. -/
theorem Keeping.list_lost (h : Keeping g settings ok true l s) (options : ListOptions)
    (rs : Reservations) :
    lostRegistry ((list options).run.run Stores.answer (rs, s)).1 = true ↔ ¬ l.Legible true := by
  obtain ⟨r, asked, listed, failed⟩ := h.all
  rw [Grounds.run_list asked]
  by_cases legible : l.Legible true
  · rw [listed legible, listing_lost]
    simp [legible]
  · obtain ⟨fault, rfl⟩ := failed legible
    simp [legible, Grounds.listing, lostRegistry]

theorem Keeping.name_of_found (h : Keeping g settings ok true l s) (found : l.find? name = some spec) :
    spec.name = name := by
  cases h with
  | files filed => exact (filed.catalog.writable_of_find? found).1

theorem Keeping.ok_of_found (h : Keeping g settings ok true l s) (found : l.find? name = some spec) :
    ok spec := by
  cases h with
  | files filed => exact filed.fits _ (StringMap.mem_of_find? found)

/-- What nests too deep cannot be read. -/
theorem Keeping.reads_of_deep (h : Keeping g settings ok true l s) (found : l.find? name = some spec)
    (deep : Json.depthLimit < spec.toJson.depth) :
    ∃ fault, l.reads true name = .error (.unreadable fault) := by
  cases h with
  | files filed =>
    obtain ⟨rfl, writable⟩ := filed.catalog.writable_of_find? found
    have looked := Registry.Files.lookup_eq_ok.2 ⟨writable.safe, writable.short, found⟩
    obtain ⟨fault, failed⟩ := Registry.Files.reading_of_deep deep
    refine ⟨fault, ?_⟩
    change Registry.Files.reads l.catalog spec.name = _
    rw [Registry.Files.reads_of_some looked, failed]
    rfl

/-- What is there is found, unless it nests too deep. -/
theorem Keeping.describes_of_found (h : Keeping g settings ok true l s)
    (valid : InstanceName.isValid name = true) (found : l.find? name = some spec) :
    if Json.depthLimit < spec.toJson.depth then
      ∃ fault, l.describes true types settings name = .error (.registry (.unreadable fault))
    else ∃ m, l.describes true types settings name = .ok (some m) ∧ m.spec = spec := by
  rw [Ledger.describes, if_pos valid]
  split
  · next deep =>
    obtain ⟨fault, read⟩ := h.reads_of_deep found deep
    exact ⟨fault, by rw [read]⟩
  · next shallow =>
    rw [h.reads_of_found found fun _ => Nat.not_lt.1 shallow]
    exact ⟨_, rfl, rfl⟩

/-- What cannot be read cannot be dropped. -/
theorem Keeping.drop_of_error (h : Keeping g settings ok true l s)
    (valid : InstanceName.isValid name = true) {fault : RegistryError}
    (read : l.reads true name = .error fault) (rs : Reservations) :
    (dropInstance settings name).run.run Stores.answer (rs, s) = (.error (.registry fault), rs, s) := by
  unfold dropInstance
  rw [if_pos valid, run_ofRegistry_bind, Program.run_bind, h.find name, read]
  rfl

/-- A drop removes what it finds, but nothing that nests too deep. -/
theorem Keeping.drop_of_found {l' : Ledger} {r : Except CatalogError Unit}
    (h : Keeping g settings ok true l s) (valid : InstanceName.isValid name = true)
    (found : l.find? name = some spec)
    (run : Runs (Ledger.Serves true types) (dropInstance settings name).run l xs r l') :
    if Json.depthLimit < spec.toJson.depth then
      (∃ fault, r = .error (.registry (.unreadable fault))) ∧ l' = l
    else l' = drops settings l name := by
  have dropped := dropInstance_serves run
  rw [if_pos valid] at dropped
  split
  · next deep =>
    obtain ⟨fault, read⟩ := h.reads_of_deep found deep
    rw [read] at dropped
    exact ⟨⟨fault, dropped.1⟩, dropped.2⟩
  · next shallow =>
    have read := h.reads_of_found found fun _ => Nat.not_lt.1 shallow
    rw [read] at dropped
    obtain ⟨_, dropped⟩ := dropped
    obtain rfl := h.name_of_found found
    obtain ⟨-, rfl⟩ | ⟨missing, -⟩ := dropFound_serves dropped
    · rfl
    · cases missing.symm.trans found

/-- A reset that can list the instances leaves none of them. -/
theorem Keeping.dropAll_empties {l' : Ledger} {r : Except CatalogError DropReport} {other : String}
    (h : Keeping g settings ok true l s)
    (run : Runs (Ledger.Serves true types) (dropAll settings).run l xs r l')
    (enabled : settings.unrecoverableReset = true) (succeeds : lostRegistry r = false) :
    l'.find? other = none := by
  obtain ⟨-, failed⟩ | ⟨_, t, dropped, -⟩ := dropAll_serves run
  · cases succeeds.symm.trans (failed enabled).1
  · refine dropEach_serves _ dropped ?_
    cases found : l.find? other with
    | none => exact .inr rfl
    | some spec =>
      exact .inl ⟨spec, List.mem_map_of_mem (StringMap.mem_of_find? found), h.name_of_found found⟩

/-- A create can do harm with a specification that nests too deep, and with nothing else. Whether listings
and resets fail is as before, every other name is answered for as before, and what was created is found
and can be dropped, as long as it does not nest too deep. Otherwise nothing can be listed any more, and it
can neither be read nor dropped. This holds of every catalog in files, in every state that operations lead
to, and whatever the code of the types does in the data directory. -/
theorem only_deep_specifications_do_harm {ι : Type} [DecidableEq ι] {calls : ι → Errand}
    {ys : List (ThreadExchange ι)} {q : Threads ι (Except CatalogError Unit)} {area : Place → Prop}
    {l₀ : Ledger} (start : Keeping g settings Specification.Ordered true l₀ s₀) (apart : g.Apart)
    (confined : ∀ q, area q → inside g.dataPlace q)
    (reached : Interleaves (Stores.Unvouched area Specification.Ordered)
      (fun i => (calls i).program settings) s₀ ys q s)
    (run : Runs (Stores.Unvouched area Specification.Ordered)
      (create settings name request).run s xs a s') :
    (∀ options rs, lostRegistry ((list options).run.run Stores.answer (rs, s')).1 =
      (listingsFail s || nestsTooDeep a)) ∧
    (∀ other, other ≠ name → ∀ rs, ∃ r,
      (get settings other).run.run Stores.answer (rs, s) = (r, rs, s) ∧
        (get settings other).run.run Stores.answer (rs, s') = (r, rs, s')) ∧
    (∀ spec, a = .ok spec → ∀ rs, ∃ r,
      (get settings name).run.run Stores.answer (rs, s') = (r, rs, s') ∧
        if nestsTooDeep a then ∃ fault, r = .error (.registry (.unreadable fault))
        else ∃ found, r = .ok (some found) ∧ found.spec = spec) ∧
    (∀ spec, a = .ok spec → ∀ zs r s'', Runs (Stores.Unvouched area Specification.Ordered)
        (dropInstance settings name).run s' zs r s'' →
      if nestsTooDeep a then
        (∃ fault, r = .error (.registry (.unreadable fault))) ∧ s''.catalogues name = true
      else s''.catalogues name = false) ∧
    (settings.unrecoverableReset = true →
      ∀ zs r s'', Runs (Stores.Unvouched area Specification.Ordered)
        (dropAll settings).run s' zs r s'' →
      lostRegistry r = (listingsFail s || nestsTooDeep a) ∧
        (lostRegistry r = false →
          ∀ other, InstanceName.isValid other = true → s''.catalogues other = false)) := by
  have contained : Contained g true area := ⟨fun _ => apart, fun _ => confined⟩
  have ordered (spec : Specification) (h : spec.Ordered) : spec.Ordered := h
  obtain ⟨l, keeping, -⟩ := start.interleaves contained ordered reached
  obtain ⟨l', served, keeping', types⟩ :=
    keeping.runs contained ordered (heeds_some (heeds_create request)) run
  have listed : ¬ l'.Legible true ↔ (listingsFail s || nestsTooDeep a) = true := by
    rw [create_legible served, Bool.or_eq_true, listingsFail, keeping.list_lost]
    cases nestsTooDeep a <;> simp
  refine ⟨fun options rs => Bool.eq_iff_iff.2 ((keeping'.list_lost options rs).trans listed),
    fun other hne rs => ⟨_, keeping.get_eq other, ?_⟩, fun spec made rs => ⟨_, keeping'.get_eq name, ?_⟩,
    fun spec made zs r s'' dropping => ?_, fun enabled zs r s'' dropping => ?_⟩
  · rw [keeping'.get_eq, types, create_describes hne served]
  · subst made
    obtain ⟨valid, found⟩ := create_found served
    simpa only [nestsTooDeep, decide_eq_true_eq] using keeping'.describes_of_found valid found
  · subst made
    obtain ⟨valid, found⟩ := create_found served
    have safe := InstanceName.isSafeName_of_isValid valid
    obtain ⟨l'', dropped, keeping'', -⟩ :=
      keeping'.runs contained ordered (heeds_some heeds_dropInstance) dropping
    have left := keeping'.drop_of_found valid found dropped
    simp only [nestsTooDeep, decide_eq_true_eq, keeping''.catalogues_eq safe]
    split at left
    · next deep =>
      obtain ⟨refused, rfl⟩ := left
      rw [if_pos deep, found]
      exact ⟨refused, rfl⟩
    · next shallow => rw [if_neg shallow, left, find?_drops, if_pos rfl, Option.isSome_none]
  · obtain ⟨l'', dropped, keeping'', -⟩ := keeping'.runs contained ordered heeds_dropAll dropping
    refine ⟨Bool.eq_iff_iff.2 (Iff.trans ?_ listed), fun succeeds other valid => ?_⟩
    · obtain ⟨-, failed⟩ | ⟨_, t, -, succeeded, legible⟩ := dropAll_serves dropped
      · simp [failed enabled]
      · simp [succeeded, legible]
    · rw [keeping''.catalogues_eq (InstanceName.isSafeName_of_isValid valid),
        keeping'.dropAll_empties dropped enabled succeeds, Option.isSome_none]

/-! ### A nest -/

/-- Specifications one inside the other. -/
def nest : Nat → Specification
  | 0 => .ofType "part" "table"
  | levels + 1 => ⟨"part", "table", [], [("part", nest levels)]⟩

/-- A specification that nests too deep. -/
def deep : Specification := ⟨"deep", "table", [], [("part", nest 63)]⟩

theorem ordered_nest (levels : Nat) : (nest levels).Ordered := by
  induction levels with
  | zero => exact ⟨.nil, .nil, trivial⟩
  | succ levels ih => exact ⟨.nil, List.pairwise_singleton _ _, ih, trivial⟩

theorem ordered_deep : deep.Ordered := ⟨.nil, List.pairwise_singleton _ _, ordered_nest 63, trivial⟩

theorem le_depth_nest (levels : Nat) : 2 * levels + 2 ≤ (nest levels).toJson.depth := by
  induction levels with
  | zero => exact Specification.two_le_depth _
  | succ levels ih =>
    have inner : (nest levels).toJson.depth + 2 ≤ (nest (levels + 1)).toJson.depth :=
      Specification.depth_embedded (e := ("part", nest levels)) (List.mem_singleton.2 rfl)
    omega

theorem deep_is_too_deep : Json.depthLimit < deep.toJson.depth := by
  have outer : (nest 63).toJson.depth + 2 ≤ deep.toJson.depth :=
    Specification.depth_embedded (e := ("part", nest 63)) (List.mem_singleton.2 rfl)
  exact Nat.lt_of_lt_of_le (by decide)
    (Nat.le_trans (Nat.add_le_add_right (le_depth_nest 63) 2) outer)

/-- Answers like some stores do, but for storage, which makes a certain specification and fails with
everything else. -/
def making (spec : Specification) : (c : Call) → Reservations × Stores → c.Answer × Reservations × Stores
  | .perform (.create _) _, x => (.ok spec, x)
  | .perform _ _, x => (.error (.unknownType spec.typeName), x)
  | c, x => Stores.answer c x

theorem runs_making (spec : Specification) (p : Program (Except CatalogError Specification))
    (rs : Reservations) (s : Stores) :
    ∃ xs, Runs (Stores.Unvouched (fun _ => False) (· = spec)) p s xs
      (p.run (making spec) (rs, s)).1 (p.run (making spec) (rs, s)).2.2 := by
  have sees (c : Call) (x : Reservations × Stores) (a : c.Answer) (y : Reservations × Stores)
      (answered : making spec c x = (a, y)) :
      Stores.Unvouched (fun _ => False) (· = spec) c x.2 a y.2 := by
    obtain ⟨rs, s⟩ := x
    refine ⟨s, .refl _ _, ?_⟩
    cases c with
    | perform r limit =>
      cases r with
      | create c => cases answered; exact ⟨rfl, rfl⟩
      | _ => cases answered; exact ⟨trivial, rfl⟩
    | _ => cases answered; rfl
  obtain ⟨xs, run⟩ := runs_ofHandler (making spec) p (rs, s)
  exact ⟨xs, run.simulate sees⟩

end Lifecycle

namespace Config

/-- An instance is created beside another one, and does no harm. -/
theorem sales_do_no_harm :
    listingsFail withOrders = false ∧
      ∃ spec s, (create (inFolders {}).settings "sales" ⟨"table", [], none⟩).run.run Stores.answer
          ([], withOrders) = (.ok spec, [], s) ∧
        (∀ options rs, lostRegistry ((list options).run.run Stores.answer (rs, s)).1 = false) ∧
        (∃ found, (get (inFolders {}).settings "sales").run.run Stores.answer ([], s) =
          (.ok (some found), [], s) ∧ found.spec = spec) ∧
        ((dropInstance (inFolders {}).settings "sales").run.run Stores.answer
          ([], s)).2.2.catalogues "sales" = false := by
  let calls (_ : Unit) : Errand := .create "orders" ⟨"table", [], some "alice"⟩
  have apart : ((inFolders {}).grounds []).Apart := (fresh_inFolders {}).isApart
  have makes : Grounds.Houses.Makes Specification.Ordered := fun _ _ _ _ => Definition.Makes.ordered
  have start : Keeping ((inFolders {}).grounds []) (inFolders {}).settings Specification.Ordered true
      ⟨[], fun _ => none⟩ (beginning {}) := keeping_beginning {} ⟨by decide, by decide⟩
  obtain ⟨houses, _, _, before⟩ := runs_withOrders
  have reached : Interleaves
      (Stores.Unvouched (inside ((inFolders {}).grounds []).dataPlace) Specification.Ordered)
      (fun i => (calls i).program (inFolders {}).settings) (beginning {}) _ _ withOrders :=
    InterleavesBy.start.run (i := ()) rfl before
  have heeds : Heeds Registry.Storable (inFolders {}).settings "sales"
      (create (inFolders {}).settings "sales" ⟨"table", [], none⟩).run := heeds_create _
  have heedsDrop : Heeds Registry.Storable (inFolders {}).settings "sales"
      (dropInstance (inFolders {}).settings "sales").run := heeds_dropInstance
  obtain ⟨houses', _, run⟩ := houses.runs apart makes (relies_of_storable (heeds_some heeds)) []
  have listed : listingsFail withOrders = false := by decide +kernel
  -- what the create comes to, as far as it can be told by evaluating it
  have succeeds : endsWell ((create (inFolders {}).settings "sales" ⟨"table", [], none⟩).run.run
      Stores.answer ([], withOrders)) = true := by decide +kernel
  obtain ⟨spec, s, created, readable⟩ := endsWell_inv succeeds
  have shallow : nestsTooDeep (.ok spec) = false := decide_eq_false (Nat.not_lt.2 readable)
  rw [created] at run houses'
  obtain ⟨_, _, dropping⟩ := houses'.runs apart makes (relies_of_storable (heeds_some heedsDrop)) []
  obtain ⟨lists, -, gets, drops, -⟩ :=
    only_deep_specifications_do_harm start apart (fun _ => id) reached run
  refine ⟨listed, spec, s, created, ?_, ?_, ?_⟩
  · simpa [listed, shallow] using lists
  · obtain ⟨r, got, found⟩ := gets spec rfl []
    simp only [shallow, Bool.false_eq_true, if_false] at found
    obtain ⟨found, rfl, same⟩ := found
    exact ⟨found, got, same⟩
  · simpa [shallow] using drops spec rfl _ _ _ dropping

/-- Type code that answers with a nest breaks the catalog: the create succeeds, and from then on its name
can neither be looked up nor dropped, and nothing can be listed. -/
theorem deep_specification_spoils_the_listing :
    let c := inFolders {}
    c.deploy {} ⟨[], []⟩ = (.ok (beginning {}), folders) ∧ listingsFail (beginning {}) = false ∧
      ∃ xs s fault, Runs (Stores.Unvouched (fun _ => False) (· = deep))
          (create c.settings "deep" ⟨"table", [], none⟩).run (beginning {}) xs (.ok deep) s ∧
        (∀ options, lostRegistry ((list options).run.run Stores.answer ([], s)).1 = true) ∧
        (get c.settings "deep").run.run Stores.answer ([], s) =
          (.error (.registry (.unreadable fault)), [], s) ∧
        (dropInstance c.settings "deep").run.run Stores.answer ([], s) =
          (.error (.registry (.unreadable fault)), [], s) := by
  intro c
  have start : Keeping (c.grounds []) c.settings (· = deep) true ⟨[], fun _ => none⟩ (beginning {}) :=
    keeping_beginning {} ⟨by decide, by decide⟩
  have succeeds : ((create c.settings "deep" ⟨"table", [], none⟩).run.run (making deep)
      ([], beginning {})).1.isOk = true := by decide +kernel
  obtain ⟨xs, run⟩ := runs_making deep (create c.settings "deep" ⟨"table", [], none⟩).run []
    (beginning {})
  rcases made : (create c.settings "deep" ⟨"table", [], none⟩).run.run (making deep)
    ([], beginning {}) with ⟨_ | spec, rs, s⟩ <;> rw [made] at succeeds run
  case error => cases succeeds
  have ordered : ∀ spec, spec = deep → spec.Ordered := fun _ same => same ▸ ordered_deep
  have heeds : Heeds (· = deep) c.settings "deep" (create c.settings "deep" ⟨"table", [], none⟩).run :=
    heeds_create _
  obtain ⟨l, served, keeping, -⟩ := start.runs ⟨fun _ => (fresh_inFolders {}).isApart, nofun⟩ ordered
    (heeds_some heeds) run
  obtain ⟨valid, found⟩ := create_found served
  obtain rfl : spec = deep := keeping.ok_of_found found
  obtain ⟨fault, read⟩ := keeping.reads_of_deep found deep_is_too_deep
  have illegible : ¬ l.Legible true := fun legible =>
    absurd (legible rfl _ (StringMap.mem_of_find? found)) (Nat.not_le.2 deep_is_too_deep)
  refine ⟨deploy_inFolders {}, by decide +kernel, xs, s, fault, run,
    fun options => (keeping.list_lost options []).2 illegible, ?_, keeping.drop_of_error valid read []⟩
  rw [keeping.get_eq, Ledger.describes, if_pos valid, read]

end Config

end DatasetCatalog
