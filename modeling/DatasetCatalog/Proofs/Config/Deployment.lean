import DatasetCatalog.Config.Deployment
import DatasetCatalog.Proofs.Lifecycle.Housed
import DatasetCatalog.Proofs.Text.Casing

/-!
# The stores of a deployment

A deployment that succeeds has exactly the stores that its configuration names (`deploy_inv`), and where
its directories are there already it makes the same stores again and leaves the disk as it is
(`redeploy`).

The directories of a deployment are its `grounds`. If they are apart and hold nothing but what a catalog
has left there (`Tidy`), as empty directories do, the deployment begins with a ledger (`keeping_deploy`);
with an empty one, if they are empty (`keeping_deploy_fresh`).
-/

namespace DatasetCatalog

open Disk Lifecycle Program

namespace Config

variable {c : Config} {host : Storage.Host} {d d' d₀ : Disk} {s : Stores}

/-! ### What a deployment makes -/

/-- Where the instances are. -/
def instances (c : Catalog) : InstanceRegistry :=
  match c.directory with
  | none => .memory []
  | some directory => .files (instancesDirectory directory)

/-- Where the owner records are. -/
def owners (c : Catalog) : OwnerStore :=
  match c.directory with
  | none => .memory []
  | some directory => .files (ownersDirectory directory)

/-- The stores of a deployment on a disk. -/
def stores (c : Config) (backend : Storage.Backend) (d : Disk) : Stores where
  instances := instances c.catalog
  owners := owners c.catalog
  storage := backend
  gateway := gateway c.explore
  disk := d

theorem openCatalog_inv {r : InstanceRegistry × OwnerStore}
    (run : (openCatalog c.catalog).run.run d = (.ok r, d')) :
    r = (instances c.catalog, owners c.catalog) := by
  unfold openCatalog at run
  cases directory : c.catalog.directory with
  | none =>
    rw [directory] at run
    obtain ⟨hr, -⟩ := DiskAction.pure_inv run
    rw [instances, owners, directory]
    exact Except.ok.inj hr
  | some path =>
    rw [directory] at run
    rcases DiskAction.bind_inv run with ⟨u, d₁, -, run⟩ | ⟨e, -, failed⟩
    · rcases DiskAction.bind_inv run with ⟨u, d₂, -, run⟩ | ⟨e, -, failed⟩
      · obtain ⟨hr, -⟩ := DiskAction.pure_inv run
        rw [instances, owners, directory]
        exact Except.ok.inj hr
      · cases failed
    · cases failed

/-- Where storage is does not depend on the disk, and looking for it does not change it. -/
theorem storage_run (host : Storage.Host) (e : Executor) :
    ∃ r, ∀ d, (storage host e).run.run d = (r, d) := by
  unfold storage
  split
  · exact ⟨_, fun _ => rfl⟩
  · split <;> exact ⟨_, fun _ => rfl⟩

theorem storage_inProcess {e : Executor} (h : e.mode = .inProcess) (d : Disk) :
    (storage host e).run.run d = (.ok (.directory { root := ⟨e.dataDirectory⟩ }), d) := by
  rw [storage, h]
  rfl

theorem prepare_run (valid : c.validate = .ok ()) (d : Disk) :
    (prepare c host).run.run d = (do
      let (instances, owners) ← openCatalog c.catalog
      ExceptT.adapt .dataDirectory (makeDirectories ⟨c.executor.dataDirectory⟩)
      return { instances, owners, storage := ← storage host c.executor, gateway := gateway c.explore } :
        Deploying Stores).run.run d := by
  rw [prepare, valid]
  rfl

/-- A deployment that succeeds has the stores that its configuration names. -/
theorem deploy_inv (h : c.deploy host d₀ = (.ok s, d)) :
    c.validate = .ok () ∧ ∃ backend, (∀ d, (storage host c.executor).run.run d = (.ok backend, d)) ∧
      s = c.stores backend d := by
  rcases run : (prepare c host).run.run d₀ with ⟨r, d₁⟩
  have unfolded : c.deploy host d₀ = (r.map fun stores => { stores with disk := d₁ }, d₁) := by
    rw [deploy, run]
  rw [h] at unfolded
  obtain ⟨stores, rfl⟩ : ∃ stores, r = .ok stores := by
    cases r with
    | ok stores => exact ⟨stores, rfl⟩
    | error e => cases unfolded
  cases unfolded
  cases valid : c.validate with
  | error e =>
    rw [prepare, valid] at run
    cases run
  | ok u =>
    refine ⟨rfl, ?_⟩
    rw [prepare_run valid] at run
    rcases DiskAction.bind_inv run with ⟨places, d₂, hopen, run⟩ | ⟨e, -, failed⟩
    case inr => cases failed
    obtain rfl := openCatalog_inv hopen
    rcases DiskAction.bind_inv run with ⟨u, d₃, -, run⟩ | ⟨e, -, failed⟩
    case inr => cases failed
    obtain ⟨backend, all⟩ := storage_run host c.executor
    rcases DiskAction.bind_inv run with ⟨storage, d₄, hstorage, run⟩ | ⟨e, -, failed⟩
    case inr => cases failed
    obtain ⟨rfl, rfl⟩ := Prod.mk.inj ((all d₃).symm.trans hstorage)
    obtain ⟨made, -⟩ := DiskAction.pure_inv run
    exact ⟨storage, all, congrArg (fun s : Stores => { s with disk := d }) (Except.ok.inj made)⟩

/-! ### Deploying -/

theorem openCatalog_run {directory : String} {d₁ : Disk}
    (files : c.catalog.directory = some directory)
    (registry : (makeDirectories (instancesDirectory directory)).run d = (.ok (), d₁))
    (records : (makeDirectories (ownersDirectory directory)).run d₁ = (.ok (), d')) :
    (openCatalog c.catalog).run.run d = (.ok (instances c.catalog, owners c.catalog), d') := by
  have first : (Registry.Files.openAt (instancesDirectory directory)).run.run d = (.ok (), d₁) :=
    Registry.Files.onDisk_run registry
  have second : (Owner.Files.openAt (ownersDirectory directory)).run.run d₁ = (.ok (), d') :=
    DiskAction.adapt_run records _
  unfold openCatalog instances owners
  rw [files]
  refine (DiskAction.bind_of_ok (DiskAction.adapt_run first _) _).trans ?_
  exact (DiskAction.bind_of_ok (DiskAction.adapt_run second _) _).trans rfl

theorem deploy_run {backend : Storage.Backend} {d₁ : Disk} (valid : c.validate = .ok ())
    (catalog : (openCatalog c.catalog).run.run d₀ =
      (.ok (instances c.catalog, owners c.catalog), d₁))
    (data : (makeDirectories ⟨c.executor.dataDirectory⟩).run d₁ = (.ok (), d))
    (storage : (storage host c.executor).run.run d = (.ok backend, d)) :
    c.deploy host d₀ = (.ok (c.stores backend d), d) := by
  have run : (prepare c host).run.run d₀ = (.ok (c.stores backend ⟨[], []⟩), d) := by
    rw [prepare_run valid]
    refine (DiskAction.bind_of_ok catalog _).trans ?_
    refine (DiskAction.bind_of_ok (DiskAction.adapt_run data _) _).trans ?_
    exact (DiskAction.bind_of_ok storage _).trans rfl
  rw [deploy, run]
  rfl

/-- The directories of a deployment are there. -/
structure Standing (c : Config) (d : Disk) : Prop where
  catalog : ∀ directory, c.catalog.directory = some directory →
    (∃ p, d.Opens (instancesDirectory directory) p) ∧ ∃ p, d.Opens (ownersDirectory directory) p
  data : ∃ p, d.Opens ⟨c.executor.dataDirectory⟩ p

/-- Where its directories are there a deployment makes the same stores again, and leaves the disk as it
is. -/
theorem redeploy (h : c.deploy host d₀ = (.ok s, d)) (standing : c.Standing d') :
    c.deploy host d' = (.ok { s with disk := d' }, d') := by
  obtain ⟨valid, backend, storage, rfl⟩ := deploy_inv h
  have catalog : (openCatalog c.catalog).run.run d' =
      (.ok (instances c.catalog, owners c.catalog), d') := by
    cases files : c.catalog.directory with
    | none =>
      unfold openCatalog instances owners
      rw [files]
      rfl
    | some path =>
      obtain ⟨⟨_, registry⟩, ⟨_, records⟩⟩ := standing.catalog path files
      exact openCatalog_run files registry.makeDirectories_self records.makeDirectories_self
  obtain ⟨_, data⟩ := standing.data
  exact deploy_run valid catalog data.makeDirectories_self (storage d')

/-! ### The ledger of a deployment -/

/-- Whether the catalog is kept in files. -/
def inFiles (c : Config) : Bool := c.catalog.directory.isSome

/-- The directories of a deployment. -/
def grounds (c : Config) (w : Place) : Grounds where
  registry := instancesDirectory (c.catalog.directory.getD "")
  owners := ownersDirectory (c.catalog.directory.getD "")
  data := ⟨c.executor.dataDirectory⟩
  workingDirectory := w

theorem instances_of_inFiles (h : c.inFiles = true) (w : Place) :
    instances c.catalog = .files (c.grounds w).registry := by
  obtain ⟨directory, found⟩ := Option.isSome_iff_exists.1 h
  rw [instances, grounds, found]
  rfl

theorem owners_of_inFiles (h : c.inFiles = true) (w : Place) :
    owners c.catalog = .files (c.grounds w).owners := by
  obtain ⟨directory, found⟩ := Option.isSome_iff_exists.1 h
  rw [owners, grounds, found]
  rfl

theorem inMemory_of_not_inFiles (h : c.inFiles = false) :
    instances c.catalog = .memory [] ∧ owners c.catalog = .memory [] := by
  have missing : c.catalog.directory = none := Option.isNone_iff_eq_none.1 (Option.isSome_eq_false_iff.1 h)
  rw [instances, owners, missing]
  exact ⟨rfl, rfl⟩

theorem registry_named (c : Config) (w : Place) :
    (c.grounds w).registry.text.isEmpty = false :=
  Path.join_nonempty (by decide) _

variable {ok : Specification → Prop}

/-- Stores on directories that hold a ledger. -/
theorem keeping_of_holds (h : c.deploy host d₀ = (.ok s, d)) (files : c.inFiles = true)
    (recordable : c.settings.Recordable)
    {m : StringMap Specification} {n : Owner.Register}
    (catalog : Registry.Files.Holds (c.grounds d.workingDirectory).registry
      (c.grounds d.workingDirectory).registryPlace m d) (fits : ∀ e ∈ m, ok e.2)
    (records : Owner.Files.Keeps (c.grounds d.workingDirectory).owners
      (c.grounds d.workingDirectory).ownersPlace n d) :
    Keeping (c.grounds d.workingDirectory) c.settings ok c.inFiles
      ⟨m, fun entity => n.lookup entity⟩ s := by
  obtain ⟨-, backend, -, rfl⟩ := deploy_inv h
  rw [files]
  exact .files ⟨rfl, registry_named _ _, instances_of_inFiles files _, catalog, fits,
    .files (owners_of_inFiles files _) recordable n records rfl⟩

/-- A deployment on directories that a catalog has left begins with a ledger. -/
theorem keeping_deploy (h : c.deploy host d₀ = (.ok s, d))
    (recordable : c.inFiles = true → c.settings.Recordable)
    (tidy : c.inFiles = true → (c.grounds d.workingDirectory).Tidy ok d) :
    ∃ l, Keeping (c.grounds d.workingDirectory) c.settings ok c.inFiles l s := by
  cases files : c.inFiles with
  | true =>
    obtain ⟨-, -, ⟨m, catalog, fits⟩, ⟨n, records⟩⟩ := tidy files
    exact ⟨_, files ▸ keeping_of_holds h files (recordable files) catalog fits records⟩
  | false =>
    obtain ⟨-, backend, -, rfl⟩ := deploy_inv h
    obtain ⟨instances, owners⟩ := inMemory_of_not_inFiles files
    exact ⟨_, .memory ⟨⟨_, instances⟩, _, owners⟩⟩

/-- A deployment on empty directories begins with an empty ledger. -/
theorem keeping_deploy_fresh (h : c.deploy host d₀ = (.ok s, d))
    (recordable : c.inFiles = true → c.settings.Recordable)
    (fresh : c.inFiles = true → (c.grounds d.workingDirectory).Fresh d) :
    Keeping (c.grounds d.workingDirectory) c.settings ok c.inFiles ⟨[], fun _ => none⟩ s := by
  cases files : c.inFiles with
  | true =>
    have empty := fresh files
    have nothing : ∀ e ∈ ([] : StringMap Specification), ok e.2 := nofun
    have keeping := keeping_of_holds h files (recordable files)
      (Registry.Files.keeps_of_vacant empty.registry).toHolds nothing
      (Owner.Files.keeps_of_vacant empty.owners)
    rw [files] at keeping
    exact keeping
  | false =>
    obtain ⟨-, backend, -, rfl⟩ := deploy_inv h
    obtain ⟨instances, owners⟩ := inMemory_of_not_inFiles files
    have empty : (c.stores backend d).ledger = ⟨[], fun _ => none⟩ := by
      rw [Stores.ledger, stores]
      simp only [instances, owners]
      rfl
    exact empty ▸ .memory ⟨⟨_, instances⟩, _, owners⟩

/-- A deployment that does everything itself, in its own process and in files. -/
theorem houses_of_deploy (h : c.deploy host d₀ = (.ok s, d)) (files : c.inFiles = true)
    (inProcess : c.executor.mode = .inProcess) {w : Place} (inOrder : (c.grounds w).InOrder d) :
    (c.grounds w).Houses s := by
  obtain ⟨-, backend, storage, rfl⟩ := deploy_inv h
  have chosen : backend = .directory { root := ⟨c.executor.dataDirectory⟩ } :=
    Except.ok.inj (congrArg Prod.fst ((storage d).symm.trans (storage_inProcess inProcess d)))
  exact ⟨instances_of_inFiles files w, owners_of_inFiles files w, chosen, inOrder⟩

/-- A deployment is accepted that leaves logging and the execution of type code as they are. -/
theorem valid_inProcess (catalog : Catalog) (dataDirectory : String) :
    ({ catalog, executor := { dataDirectory } } : Config).validate = .ok () := by
  have low : ("info".toList.all fun c => decide (Casing.IsLow c)) = true := by decide
  have level : Casing.lower "info" = "info" :=
    Casing.lower_of_low fun c mem => of_decide_eq_true (List.all_eq_true.1 low c mem)
  have listed : levels.contains (Casing.lower "info") = true := by
    rw [level]
    decide
  simp only [validate, listed]
  rfl

/-! ### Two folders -/

/-- A deployment that keeps its catalog in one folder and its data in another one. -/
def inFolders (c : Catalog) : Config :=
  { catalog := { c with directory := some "catalog" }, executor := { dataDirectory := "data" } }

/-- What stands on the disk then. -/
def folders : Disk where
  nodes := [(["data"], .directory), (["catalog", "owners"], .directory),
    (["catalog", "instances"], .directory), (["catalog"], .directory)]

/-- The stores of such a deployment that has just begun. -/
def beginning (c : Catalog) : Stores :=
  (inFolders c).stores (.directory { root := ⟨"data"⟩ }) folders

theorem deploy_inFolders (c : Catalog) :
    (inFolders c).deploy {} ⟨[], []⟩ = (.ok (beginning c), folders) := by
  have top : Disk.Opens ⟨[], []⟩ ⟨""⟩ [] := ⟨rfl, rfl, rfl⟩
  let first := stops [] ["catalog", "instances"]
  let second := stops [] ["catalog", "owners"]
  have registry : (makeDirectories (Path.joinAll ⟨""⟩ ["catalog", "instances"])).run ⟨[], []⟩ = _ :=
    top.makeDirectories_run (by decide) (by decide)
  have owners : (makeDirectories (Path.joinAll ⟨""⟩ ["catalog", "owners"])).run _ = _ :=
    (top.ensureAll first).makeDirectories_run (by decide) (by decide)
  have data : (makeDirectories (Path.joinAll ⟨""⟩ ["data"])).run _ = _ :=
    ((top.ensureAll first).ensureAll second).makeDirectories_run (by decide) (by decide)
  have paths : Path.joinAll ⟨""⟩ ["catalog", "instances"] = instancesDirectory "catalog" ∧
      Path.joinAll ⟨""⟩ ["catalog", "owners"] = ownersDirectory "catalog" ∧
      Path.joinAll ⟨""⟩ ["data"] = ⟨"data"⟩ := by decide
  have made : (((Disk.mk [] []).ensureAll (stops [] ["catalog", "instances"])).ensureAll
      (stops [] ["catalog", "owners"])).ensureAll (stops [] ["data"]) = folders := by rfl
  rw [paths.1] at registry
  rw [paths.2.1] at owners
  rw [paths.2.2, made] at data
  exact deploy_run (valid_inProcess _ _) (openCatalog_run rfl registry owners) data
    (storage_inProcess rfl folders)

theorem grounds_inFolders (c : Catalog) :
    (inFolders c).grounds [] =
      ⟨instancesDirectory "catalog", ownersDirectory "catalog", ⟨"data"⟩, []⟩ := by rfl

theorem fresh_inFolders (c : Catalog) : ((inFolders c).grounds []).Fresh folders := by
  have catalog : folders.Opens ⟨"catalog"⟩ ["catalog"] := opens_top (by decide) rfl (by decide)
  have registry : folders.Opens (instancesDirectory "catalog") ["catalog", "instances"] :=
    catalog.join (by decide) (by decide)
  have owners : folders.Opens (ownersDirectory "catalog") ["catalog", "owners"] :=
    catalog.join (by decide) (by decide)
  have data : folders.Opens ⟨"data"⟩ ["data"] := opens_top (by decide) rfl (by decide)
  have place {path : Path} {p : Place} (h : folders.Opens path p) : placeFrom [] path = p :=
    (eq_spelled_of_walk h.walked).symm
  rw [grounds_inFolders]
  refine ⟨rfl, ?_, ?_, ?_, ?_⟩
  · rw [Grounds.registryPlace, place registry]
    exact registry.vacant (by decide)
  · rw [Grounds.ownersPlace, place owners]
    exact owners.vacant (by decide)
  · rw [Grounds.dataPlace, place data]
    exact data.vacant (by decide)
  · rw [Grounds.registryPlace, Grounds.ownersPlace, Grounds.dataPlace, place registry, place owners,
      place data]
    decide

theorem houses_beginning (c : Catalog) : ((inFolders c).grounds []).Houses (beginning c) :=
  houses_of_deploy (deploy_inFolders c) rfl rfl (fresh_inFolders c).inOrder

/-- A deployment that has just begun keeps an empty ledger. -/
theorem keeping_beginning (c : Catalog) (recordable : (inFolders c).settings.Recordable) :
    Keeping ((inFolders c).grounds []) (inFolders c).settings ok true ⟨[], fun _ => none⟩
      (beginning c) :=
  keeping_deploy_fresh (deploy_inFolders c) (fun _ => recordable) fun _ => fresh_inFolders c

/-- Its stores after an instance was created. -/
def withOrders : Stores :=
  (((Errand.create "orders" ⟨"table", [], some "alice"⟩).program (inFolders {}).settings).run
    Stores.answer ([], beginning {})).2.2

theorem runs_withOrders :
    ((inFolders {}).grounds []).Houses withOrders ∧
      ∃ xs a, Runs (Stores.Unvouched (inside ((inFolders {}).grounds []).dataPlace)
        Specification.Ordered) ((Errand.create "orders" ⟨"table", [], some "alice"⟩).program
          (inFolders {}).settings) (beginning {}) xs a withOrders := by
  obtain ⟨houses, xs, run⟩ := (houses_beginning {}).runs (fresh_inFolders {}).isApart
    (fun _ _ _ _ => Definition.Makes.ordered) (relies_program (inFolders {}).settings
      (.create "orders" ⟨"table", [], some "alice"⟩)) []
  exact ⟨houses, xs, _, run⟩

/-- Whether a create has ended well: its specification can be read again, and no name is reserved. -/
def endsWell : Except CatalogError Specification × Reservations × Stores → Bool
  | (.ok spec, [], _) => decide (spec.toJson.depth ≤ Json.depthLimit)
  | _ => false

theorem endsWell_inv {r : Except CatalogError Specification × Reservations × Stores}
    (h : endsWell r = true) :
    ∃ spec s, r = (.ok spec, [], s) ∧ spec.toJson.depth ≤ Json.depthLimit := by
  obtain ⟨_ | spec, _ | _, s⟩ := r
  case ok.nil => exact ⟨spec, s, rfl, of_decide_eq_true h⟩
  all_goals cases h

end Config

end DatasetCatalog
