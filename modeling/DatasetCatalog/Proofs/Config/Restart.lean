import DatasetCatalog.Proofs.Config.Deployment
import DatasetCatalog.Proofs.Lifecycle.Replies

/-!
# Restarts

A deployment in files can be ended at any time and begun anew from its configuration. What its clients
are told should not depend on it, and almost nothing does: the catalog, the owner records and the storage
are read back from the disk, and between two errands a coordinator has no rights to names.

The tables that the query engine shows are not on the disk, for it keeps them in memory. So after a
restart those are missing that were shown before (`restart_forgets_tables`). A listing that asks for the
tables is answered as if no instances were shown but those that have been created since, and everything
else is answered as if there had been no restart: `restart_hides_earlier_tables_only`.

That takes directories that are still there. Where the catalog is kept inside the data directory it can
go with the data of an instance, and listings fail then. A restart makes it again, empty:
`restart_makes_a_catalog_again`.
-/

namespace DatasetCatalog

open Disk Lifecycle Program

/-! ### What lasts -/

namespace Stores

/-- What stores in files can come to: the disk is another one, and what is kept in memory. -/
def BecomesOnDisk (s s' : Stores) : Prop :=
  s'.gateway.Works ∧
    ∃ gateway disk audit metrics, s' = { s with gateway, disk, audit, metrics }

/-- The stores with the tables of some instances only. -/
def showing (names : List String) (s : Stores) : Stores :=
  { s with gateway := s.gateway.only names }

variable {s s' : Stores} {registry owners : Path} {l : Storage.Local}

theorem gateway_answer_works {x : Reservations × Stores} (works : x.2.gateway.Works) (c : Call) :
    (answer c x).2.2.gateway.Works := by
  cases c with
  | expose name => exact works.expose name
  | withdraw name => exact works.withdraw name
  | _ => exact works

/-- Where everything is kept in files, no call makes it be kept elsewhere. -/
theorem BecomesOnDisk.answer {rs : Reservations} (h : s.BecomesOnDisk s')
    (instances : s.instances = .files registry) (records : s.owners = .files owners)
    (storage : s.storage = .directory l) (c : Call) :
    s.BecomesOnDisk (Stores.answer c (rs, s')).2.2 := by
  refine ⟨gateway_answer_works h.1 c, ?_⟩
  obtain ⟨-, gateway, disk, audit, metrics, rfl⟩ := h
  obtain ⟨types, _, _, _, _, _, _, _⟩ := s
  obtain rfl := instances
  obtain rfl := records
  obtain rfl := storage
  cases c <;> exact ⟨_, _, _, _, rfl⟩

theorem BecomesOnDisk.serve {settings : Settings} {rs : Reservations} (h : s.BecomesOnDisk s')
    (instances : s.instances = .files registry) (records : s.owners = .files owners)
    (storage : s.storage = .directory l) (errand : Errand) :
    s.BecomesOnDisk (Lifecycle.serve settings errand (rs, s')).2.2 := by
  obtain ⟨-, -, becomes⟩ := (Tracks.free (errand.reply settings).run).run_keeps
    (I := fun _ (x : Reservations × Stores) => s.BecomesOnDisk x.2) (s := (rs, s')) h
    fun becomes _ => becomes.answer instances records storage _
  exact becomes

end Stores

namespace Config

variable {c : Config} {host : Storage.Host} {d₀ d : Disk} {s₀ s : Stores}

/-- What is in order is there. -/
theorem standing_of_inOrder {w : Place} (files : c.inFiles = true)
    (inOrder : (c.grounds w).InOrder d) : c.Standing d := by
  obtain ⟨_, instances⟩ := inOrder.instances
  obtain ⟨_, owners⟩ := inOrder.owners
  obtain ⟨directory, found⟩ := Option.isSome_iff_exists.1 files
  have place : c.catalog.directory.getD "" = directory := by rw [found]; rfl
  refine ⟨fun other named => ?_, ⟨_, inOrder.ready.opens⟩⟩
  obtain rfl : directory = other := Option.some.inj (found.symm.trans named)
  rw [← place]
  exact ⟨⟨_, instances.opens⟩, ⟨_, owners.opens⟩⟩

/-- A coordinator in files between two errands. -/
structure Rests (s₀ : Stores) (x : Reservations × Stores) : Prop where
  reservations : x.1 = []
  stores : s₀.BecomesOnDisk x.2

theorem rests_replay (deployed : c.deploy host d₀ = (.ok s₀, d)) (files : c.inFiles = true)
    (inProcess : c.executor.mode = .inProcess) (enabled : c.explore.enabled = true)
    (errands : List Errand) : Rests s₀ (replay (serve c.settings) errands ([], s₀)).2 := by
  obtain ⟨-, backend, storage, rfl⟩ := deploy_inv deployed
  obtain rfl : backend = .directory { root := ⟨c.executor.dataDirectory⟩ } :=
    Except.ok.inj (congrArg Prod.fst ((storage d).symm.trans (storage_inProcess inProcess d)))
  have works : (gateway c.explore).Works := by
    rw [gateway, if_pos enabled]
    exact ⟨rfl, rfl, rfl, rfl, .nil⟩
  refine replay_keeps (Q := fun _ => True) (fun errand x _ rests => ?_) (fun _ _ => trivial)
    ⟨rfl, works, _, _, _, _, rfl⟩
  obtain ⟨rs, s⟩ := x
  exact ⟨(serve_reservations _ errand _).trans rests.reservations,
    rests.stores.serve (instances_of_inFiles files []) (owners_of_inFiles files []) rfl errand⟩

/-- A coordinator that is begun anew is in lockstep with the one before it, but shows no tables. -/
theorem Rests.lockstep {x : Reservations × Stores} (h : Rests s₀ x) (shown : s₀.gateway = {}) :
    Lockstep (Gateway.only []) x ([], { s₀ with disk := x.2.disk }) := by
  obtain ⟨rs, s⟩ := x
  obtain ⟨rfl, works, gateway, disk, audit, metrics, rfl⟩ := h
  refine ⟨s₀.audit, s₀.metrics, ?_⟩
  rw [Gateway.only_nil works, ← shown]

/-- In directories that are apart and in order everything stays in order. -/
theorem houses_replay {w : Place} (houses : (c.grounds w).Houses s₀) (apart : (c.grounds w).Apart)
    (errands : List Errand) :
    (c.grounds w).Houses (replay (serve c.settings) errands ([], s₀)).2.2 := by
  refine replay_keeps (P := fun x : Reservations × Stores => (c.grounds w).Houses x.2)
    (Q := fun _ => True) (fun errand x _ houses => ?_) (fun _ _ => trivial) houses
  obtain ⟨rs, s⟩ := x
  rw [serve_program]
  exact (houses.runs apart (fun _ _ _ _ => Definition.Makes.ordered)
    (relies_program c.settings errand) rs).1

/-- A deployment in files that is begun anew after any errands goes on as if nothing had happened, but for
the tables that were shown before: a listing that asks for the tables is answered as if no instances were
shown but those that have been created since, and everything else is answered as it would have been. For
that the directories of the deployment must be there, and so they are if they were apart and in order at
the beginning. -/
theorem restart_hides_earlier_tables_only (deployed : c.deploy host d₀ = (.ok s₀, d))
    (files : c.inFiles = true) (inProcess : c.executor.mode = .inProcess)
    (enabled : c.explore.enabled = true) (before : List Errand) :
    let x := (replay (serve c.settings) before ([], s₀)).2
    (∀ w, (c.grounds w).Apart → (c.grounds w).InOrder d → c.Standing x.2.disk) ∧
      (c.Standing x.2.disk → ∃ s, c.deploy host x.2.disk = (.ok s, x.2.disk) ∧ ∀ after errand,
        let x' := replay (serve c.settings) after x
        let y' := replay (serve c.settings) after ([], s)
        (serve c.settings errand y'.2).1 =
            (serve c.settings errand (x'.2.1, x'.2.2.showing (x'.1.flatMap made))).1 ∧
          (¬ errand.Filters →
            (serve c.settings errand y'.2).1 = (serve c.settings errand x'.2).1)) := by
  intro x
  have rests : Rests s₀ x := rests_replay deployed files inProcess enabled before
  refine ⟨fun w apart inOrder => ?_, fun standing => ?_⟩
  · have houses := houses_of_deploy deployed files inProcess inOrder
    exact standing_of_inOrder files (houses_replay houses apart before).inOrder
  · have shown : s₀.gateway = {} := by
      obtain ⟨-, backend, -, rfl⟩ := deploy_inv deployed
      exact if_pos enabled
    refine ⟨_, redeploy deployed standing, fun after errand => ?_⟩
    obtain ⟨lockstep, works⟩ :=
      replay_lockstep c.settings after (rests.lockstep shown) rests.stores.1
    refine ⟨?_, (serve_lockstep lockstep works c.settings errand).1⟩
    exact lockstep.viewed.run (errand.reply c.settings).run

/-- An errand that creates an instance. -/
def ordersFirst : List Errand := [.create "orders" ⟨"table", [], some "alice"⟩]

/-- A coordinator that has done it. -/
def running : Reservations × Stores :=
  (replay (serve (inFolders {}).settings) ordersFirst ([], beginning {})).2

/-- The stores of a coordinator that is begun anew after that. -/
def restarted : Stores := { beginning {} with disk := running.2.disk }

theorem standing_running : (inFolders {}).Standing running.2.disk := by
  have houses := houses_replay (houses_beginning {}) (fresh_inFolders {}).isApart ordersFirst
  rw [← running] at houses
  exact standing_of_inOrder rfl houses.inOrder

/-- After a restart the instance is found as before. -/
theorem orders_outlast_a_restart :
    (inFolders {}).deploy {} running.2.disk = (.ok restarted, running.2.disk) ∧
      (serve (inFolders {}).settings (.get "orders") ([], restarted)).1 =
        (serve (inFolders {}).settings (.get "orders") running).1 := by
  have restart := restart_hides_earlier_tables_only (deploy_inFolders {}) rfl rfl rfl ordersFirst
  rw [← running] at restart
  obtain ⟨s, deployed, alike⟩ := restart.2 standing_running
  have redeployed := redeploy (deploy_inFolders {}) standing_running
  obtain rfl : s = restarted :=
    Except.ok.inj (congrArg Prod.fst (deployed.symm.trans redeployed))
  have found := (alike [] (.get "orders")).2 id
  simp only [replay_nil] at found
  exact ⟨redeployed, found⟩

/-- The names of the instances that a client is shown. -/
def namesListed : Except CatalogError Reply → Option (List String)
  | .ok (.listed entries) => some (entries.map Listing.name)
  | _ => none

/-- After a restart no instance is explorable that was before. -/
theorem restart_forgets_tables :
    (inFolders {}).deploy {} running.2.disk = (.ok restarted, running.2.disk) ∧
      namesListed (serve (inFolders {}).settings (.list { explorable := some true }) running).1 =
        some ["orders"] ∧
      namesListed (serve (inFolders {}).settings (.list { explorable := some true })
        ([], restarted)).1 = some [] ∧
      namesListed (serve (inFolders {}).settings (.list {}) ([], restarted)).1 = some ["orders"] :=
  ⟨redeploy (deploy_inFolders {}) standing_running, by decide +kernel, by decide +kernel,
    by decide +kernel⟩

/-! ### A catalog inside the data directory -/

/-- A deployment that keeps its catalog where the data of an instance goes. -/
def entangled : Config :=
  { catalog := { directory := some "data/orders" }, executor := { dataDirectory := "data" } }

/-- What stands on the disk then. -/
def entangledFolders : Disk where
  nodes := [(["data", "orders", "owners"], .directory), (["data", "orders", "instances"], .directory),
    (["data", "orders"], .directory), (["data"], .directory)]

/-- The stores of such a deployment that has just begun. -/
def entangledStores : Stores :=
  entangled.stores (.directory { root := ⟨"data"⟩ }) entangledFolders

/-- A coordinator that has made the instance and dropped it. -/
def emptied : Reservations × Stores :=
  (replay (serve entangled.settings) [.create "orders" ⟨"table", [], none⟩, .drop "orders"]
    ([], entangledStores)).2

theorem disk_emptied : emptied.2.disk = ⟨[(["data"], .directory)], []⟩ := by
  have left : emptied.2.disk.nodes = [(["data"], .directory)] ∧
      emptied.2.disk.workingDirectory = [] := by decide +kernel
  generalize emptied.2.disk = d at left
  obtain ⟨nodes, workingDirectory⟩ := d
  obtain ⟨rfl, rfl⟩ : nodes = _ ∧ workingDirectory = _ := left
  rfl

theorem deploy_entangled {d : Disk} (start : d = ⟨[], []⟩ ∨ d = ⟨[(["data"], .directory)], []⟩) :
    entangled.deploy {} d = (.ok entangledStores, entangledFolders) := by
  have registry : (makeDirectories (instancesDirectory "data/orders")).run d =
      (.ok (), ⟨entangledFolders.nodes.tail, []⟩) := by
    obtain rfl | rfl := start <;> rfl
  have owners : (makeDirectories (ownersDirectory "data/orders")).run
      ⟨entangledFolders.nodes.tail, []⟩ = (.ok (), entangledFolders) := by rfl
  have data : (makeDirectories ⟨"data"⟩).run entangledFolders = (.ok (), entangledFolders) := by rfl
  exact deploy_run (valid_inProcess _ _) (openCatalog_run rfl registry owners) data
    (storage_inProcess rfl _)

/-- The catalog goes with the data of the instance that is dropped, and then the instances cannot be
listed. After a restart they can. -/
theorem restart_makes_a_catalog_again :
    entangled.deploy {} ⟨[], []⟩ = (.ok entangledStores, entangledFolders) ∧
      entangled.deploy {} emptied.2.disk = (.ok entangledStores, entangledFolders) ∧
      namesListed (serve entangled.settings (.list {}) emptied).1 = none ∧
      namesListed (serve entangled.settings (.list {}) ([], entangledStores)).1 = some [] :=
  ⟨deploy_entangled (.inl rfl), deploy_entangled (.inr disk_emptied), by decide +kernel,
    by decide +kernel⟩

end Config

end DatasetCatalog
