import DatasetCatalog.Proofs.Lifecycle.Concern
import DatasetCatalog.Proofs.Owner.Frame
import DatasetCatalog.Proofs.Registry.Frame
import DatasetCatalog.Proofs.Storage.Confined

/-!
# Coordinators that keep everything in files

The registry, the owner store and the storage of a deployment can each have a directory on one disk.
`Grounds` are these directories, and `Grounds.Serves` is what calls do there.

As long as none of the directories is in the way of another one (`Grounds.Apart`), the stores do not
notice each other. So each of them can go on from what is known of it alone: the registry and the owner
store from the map that their files stand for, and the storage from a data directory that requests can
be confined to. `Grounds.InOrder` puts this together. A call that concerns a name keeps it and stays
within the territory of the name (`call_stays`, `territory_of_reach`), and therefore so does a run
(`run_stays`). Three empty directories are in order (`Fresh.inOrder`), and everything that operations
lead to from there is (`inOrder_of_interleaves`).
-/

namespace DatasetCatalog.Lifecycle

open Disk Program

/-- The directories of a deployment that keeps everything in files, and the directory that their paths
are followed from. -/
structure Grounds where
  registry : Path
  owners : Path
  data : Path
  workingDirectory : Place := []

namespace Grounds

/-- The storage in the data directory, which knows the built-in types. -/
def storage (g : Grounds) : Storage.Local := { root := g.data }

/-- The directory of the registry. -/
def registryPlace (g : Grounds) : Place := placeFrom g.workingDirectory g.registry

/-- The directory of the owner store. -/
def ownersPlace (g : Grounds) : Place := placeFrom g.workingDirectory g.owners

/-- The data directory. -/
def dataPlace (g : Grounds) : Place := placeFrom g.workingDirectory g.data

/-- The file of the catalog entry of a name. -/
def entryPlace (g : Grounds) (name : String) : Place :=
  Registry.Files.entryPlace g.registryPlace name

/-- The file of the owner record of a name. -/
def recordPlace (g : Grounds) (settings : Settings) (name : String) : Place :=
  Owner.Files.recordPlace g.ownersPlace (settings.entity name)

/-- The place of the storage of a name. -/
def home (g : Grounds) (name : String) : Place := g.storage.home g.workingDirectory name

/-- The catalog entry of a name, its owner record with the two directories above it, and its storage. -/
def territory (g : Grounds) (settings : Settings) (name : String) : Place → Prop := fun q =>
  q = g.entryPlace name ∨ Owner.Files.recordArea g.ownersPlace (settings.entity name) q ∨
    g.home name <+: q

/-- What calls do on the disk. Those to the registry and to the owner store are operations on their
files. A request to the storage is carried out, or it is given up on the way and fails. Types, the
query engine and what is written down are elsewhere, so those calls may be answered in any way. -/
def Serves (g : Grounds) : Conduct Disk
  | .findInstance name, d, a, d' => (Registry.Files.get g.registry name).run.run d = (a, d')
  | .allInstances, d, a, d' => (Registry.Files.getAll g.registry).run.run d = (a, d')
  | .addInstance spec, d, a, d' => (Registry.Files.add g.registry spec).run.run d = (a, d')
  | .removeInstance name, d, a, d' => (Registry.Files.delete g.registry name).run.run d = (a, d')
  | .addOwner entity principal, d, a, d' =>
    (Owner.Files.add g.owners entity principal).run.run d = (a, d')
  | .findOwner entity, d, a, d' => (Owner.Files.get g.owners entity).run.run d = (a, d')
  | .removeOwner entity, d, a, d' =>
    ∃ r, (Owner.Files.delete g.owners entity).run.run d = (r, d') ∧ a = r.map fun _ => ()
  | .perform r _, d, a, d' =>
    g.storage.run r d = (a, d') ∨
      (∃ e, a = .error e) ∧ g.storage.Leaves g.workingDirectory r d d'
  | _, d, _, d' => d' = d

/-- No directory is in another one or on the way to it. -/
structure Apart (g : Grounds) : Prop where
  registry : Aloof g.workingDirectory g.registry (inside g.ownersPlace) ∧
    Aloof g.workingDirectory g.registry (inside g.dataPlace)
  owners : Aloof g.workingDirectory g.owners (inside g.registryPlace) ∧
    Aloof g.workingDirectory g.owners (inside g.dataPlace)
  data : Aloof g.workingDirectory g.data (inside g.registryPlace) ∧
    Aloof g.workingDirectory g.data (inside g.ownersPlace)

/-- The stores are in order. -/
structure InOrder (g : Grounds) (d : Disk) : Prop where
  workingDirectory : d.workingDirectory = g.workingDirectory
  instances : ∃ m, Registry.Files.Keeps g.registry g.registryPlace m d
  owners : ∃ m, Owner.Files.Keeps g.owners g.ownersPlace m d
  ready : g.storage.Ready g.workingDirectory d
  clean : g.storage.Clean g.workingDirectory d

variable {g : Grounds} {d d' : Disk} {area : Place → Prop} {settings : Settings} {name : String}

/-! ### One store at a time -/

namespace InOrder

theorem of_registry (h : g.InOrder d) (apart : g.Apart) (touches : Touches area d d')
    (within : ∀ q, area q → inside g.registryPlace q)
    (kept : ∃ m, Registry.Files.Keeps g.registry g.registryPlace m d') : g.InOrder d' := by
  obtain ⟨m, owners⟩ := h.owners
  obtain ⟨ready, clean⟩ := Storage.Local.keeps_of_aloof h.ready h.clean touches.toSpares
    (apart.data.1.mono within)
  exact ⟨touches.workingDirectory.trans h.workingDirectory, kept,
    ⟨m, owners.of_aloof h.workingDirectory touches.toSpares (apart.owners.1.mono within)⟩,
    ready, clean⟩

theorem of_owners (h : g.InOrder d) (apart : g.Apart) (touches : Touches area d d')
    (within : ∀ q, area q → inside g.ownersPlace q)
    (kept : ∃ m, Owner.Files.Keeps g.owners g.ownersPlace m d') : g.InOrder d' := by
  obtain ⟨m, instances⟩ := h.instances
  obtain ⟨ready, clean⟩ := Storage.Local.keeps_of_aloof h.ready h.clean touches.toSpares
    (apart.data.2.mono within)
  exact ⟨touches.workingDirectory.trans h.workingDirectory,
    ⟨m, instances.of_aloof h.workingDirectory touches (apart.registry.1.mono within)⟩, kept,
    ready, clean⟩

theorem of_storage (h : g.InOrder d) (apart : g.Apart)
    (touches : Touches (below (g.home name)) d d')
    (kept : g.storage.Ready g.workingDirectory d' ∧ g.storage.Clean g.workingDirectory d') :
    g.InOrder d' := by
  have within : ∀ q, below (g.home name) q → inside g.dataPlace q :=
    fun q hq => ⟨name, hq⟩
  obtain ⟨m, instances⟩ := h.instances
  obtain ⟨n, owners⟩ := h.owners
  exact ⟨touches.workingDirectory.trans h.workingDirectory,
    ⟨m, instances.of_aloof h.workingDirectory touches (apart.registry.2.mono within)⟩,
    ⟨n, owners.of_aloof h.workingDirectory touches.toSpares (apart.owners.2.mono within)⟩,
    kept.1, kept.2⟩

end InOrder

/-! ### Calls -/

/-- What a call may change. -/
def reach (g : Grounds) : Call → Place → Prop
  | .addInstance spec => (· = g.entryPlace spec.name)
  | .removeInstance name => (· = g.entryPlace name)
  | .addOwner entity _ | .removeOwner entity => Owner.Files.recordArea g.ownersPlace entity
  | .perform r _ => below (g.home r.target)
  | _ => fun _ => False

/-- A call leaves the stores in order and is answered as expected, and it changes nothing out of its
reach. -/
theorem call_stays (apart : g.Apart) (h : g.InOrder d) {c : Call} {a : c.Answer}
    (concerns : Concerns settings name c) (answered : g.Serves c d a d') :
    g.InOrder d' ∧ Sound ⟨c, a⟩ ∧ Touches (g.reach c) d d' := by
  obtain ⟨m, instances⟩ := h.instances
  obtain ⟨n, owners⟩ := h.owners
  cases c with
  | findInstance n =>
    cases (instances.get_eq n).symm.trans answered
    refine ⟨h, ?_, .refl _ _⟩
    cases looked : Registry.Files.lookup m n with
    | error e => exact trivial
    | ok found =>
      obtain ⟨safe, short, there⟩ := Registry.Files.lookup_eq_ok.1 looked
      exact ⟨⟨safe, short⟩, fun spec heq => instances.storable_of_find? (there.trans heq)⟩
  | allInstances =>
    cases instances.getAll_eq.symm.trans answered
    refine ⟨h, ?_, .refl _ _⟩
    split
    · exact trivial
    · intro spec hspec
      obtain ⟨e, he, rfl⟩ := List.mem_map.1 hspec
      exact (instances.storable he).2
  | addInstance spec =>
    obtain ⟨-, storable⟩ := concerns
    obtain ⟨kept, touches⟩ := instances.add_stays storable answered
    refine ⟨h.of_registry apart touches ?_ kept, trivial, touches⟩
    rintro _ rfl
    exact ⟨_, List.prefix_refl _⟩
  | removeInstance n =>
    obtain ⟨rfl, safe, short⟩ := concerns
    obtain ⟨kept, touches⟩ := instances.delete_stays safe short answered
    refine ⟨h.of_registry apart touches ?_ kept, trivial, touches⟩
    rintro _ rfl
    exact ⟨_, List.prefix_refl _⟩
  | addOwner entity principal =>
    obtain ⟨rfl, nameable⟩ := concerns
    have short : Utf8.size (settings.entity name).name ≤ nameLimit :=
      Nat.le_trans nameable.short (by decide)
    obtain ⟨kept, touches⟩ := Owner.Files.add_stays owners short answered
    exact ⟨h.of_owners apart touches (fun _ => Owner.Files.inside_of_recordArea) kept, trivial,
      touches⟩
  | removeOwner entity =>
    obtain ⟨rfl, nameable⟩ := concerns
    have short : Utf8.size (settings.entity name).name ≤ nameLimit :=
      Nat.le_trans nameable.short (by decide)
    obtain ⟨r, run, -⟩ := answered
    obtain ⟨kept, touches⟩ := Owner.Files.delete_stays owners short run
    exact ⟨h.of_owners apart touches (fun _ => Owner.Files.inside_of_recordArea) kept, trivial,
      touches⟩
  | findOwner entity =>
    obtain rfl := Owner.Files.get_reads answered
    exact ⟨h, trivial, .refl _ _⟩
  | perform r limit =>
    obtain run | ⟨⟨e, rfl⟩, leaves⟩ := answered
    · have touches : Touches (below (g.home r.target)) d d' :=
        Storage.Local.run_touches rfl h.ready h.clean run
      refine ⟨h.of_storage apart touches (Storage.Local.run_keeps rfl h.ready h.clean run), ?_,
        touches⟩
      cases r with
      | create c =>
        rcases Storage.Local.create_inv rfl h.workingDirectory run with
          ⟨⟨e, rfl⟩, -⟩ | ⟨spec, rfl, makes, -⟩
        · exact trivial
        · exact ⟨_, makes⟩
      | _ => exact trivial
    · have touches : Touches (below (g.home r.target)) d d' := leaves.toTouches
      refine ⟨h.of_storage apart touches (leaves.keeps h.ready h.clean), ?_, touches⟩
      cases r <;> exact trivial
  | _ =>
    obtain rfl := answered
    exact ⟨h, trivial, .refl _ _⟩

/-- What a call that concerns a name may change belongs to the name. -/
theorem territory_of_reach {c : Call} {q : Place} (concerns : Concerns settings name c)
    (h : g.reach c q) : g.territory settings name q := by
  cases c with
  | addInstance spec =>
    obtain ⟨rfl, -⟩ := concerns
    exact .inl h
  | removeInstance n =>
    obtain ⟨rfl, -⟩ := concerns
    exact .inl h
  | addOwner entity principal =>
    obtain ⟨rfl, -⟩ := concerns
    exact .inr (.inl h)
  | removeOwner entity =>
    obtain ⟨rfl, -⟩ := concerns
    exact .inr (.inl h)
  | perform r limit =>
    obtain rfl : r.target = name := concerns
    exact .inr (.inr h)
  | _ => exact h.elim

theorem home_of_reach {c : Call} {q : Place} (concerns : ConcernsStorage name c) (h : g.reach c q) :
    below (g.home name) q := by
  cases c with
  | perform r limit =>
    obtain rfl : r.target = name := concerns
    exact h
  | addInstance | removeInstance | addOwner | removeOwner => exact concerns.elim
  | _ => exact h.elim

/-! ### Runs -/

/-- Three empty directories, none of which is in another one. -/
structure Fresh (g : Grounds) (d : Disk) : Prop where
  workingDirectory : d.workingDirectory = g.workingDirectory
  registry : d.Vacant g.registry g.registryPlace
  owners : d.Vacant g.owners g.ownersPlace
  data : d.Vacant g.data g.dataPlace
  apart : [g.registryPlace, g.ownersPlace, g.dataPlace].Pairwise fun p q => ¬ p <+: q ∧ ¬ q <+: p

theorem Fresh.isApart (h : g.Fresh d) : g.Apart := by
  have apart := h.apart
  simp only [List.pairwise_cons, List.mem_cons, List.not_mem_nil, or_false, forall_eq_or_imp,
    forall_eq] at apart
  obtain ⟨⟨⟨ro, or⟩, rd, dr⟩, ⟨od, do_⟩, -⟩ := apart
  have aloof {path other : Path} {p q : Place} (hp : d.Vacant path p) (hq : d.Vacant other q)
      (h₁ : ¬ p <+: q) (h₂ : ¬ q <+: p) : Aloof g.workingDirectory other (inside p) :=
    h.workingDirectory ▸ aloof_of_vacant hp hq h₁ h₂
  exact ⟨⟨aloof h.owners h.registry or ro, aloof h.data h.registry dr rd⟩,
    ⟨aloof h.registry h.owners ro or, aloof h.data h.owners do_ od⟩,
    ⟨aloof h.registry h.data rd dr, aloof h.owners h.data od do_⟩⟩

theorem Fresh.inOrder (h : g.Fresh d) : g.InOrder d where
  workingDirectory := h.workingDirectory
  instances := ⟨_, Registry.Files.keeps_of_vacant h.registry⟩
  owners := ⟨_, Owner.Files.keeps_of_vacant h.owners⟩
  ready := h.workingDirectory ▸ (Storage.Local.ready_of_vacant (l := g.storage) h.data).1
  clean := h.workingDirectory ▸ Storage.Local.clean_of_vacant (l := g.storage) h.data

/-- Three directories at the top of the disk. -/
def sideBySide (registry owners data : String) : Grounds := ⟨⟨registry⟩, ⟨owners⟩, ⟨data⟩, []⟩

theorem fresh_sideBySide {registry owners data : String} (hr : FileName registry)
    (ho : FileName owners) (hd : FileName data) (distinct : [registry, owners, data].Nodup) :
    (sideBySide registry owners data).Fresh (Disk.sideBySide [registry, owners, data]) := by
  have place {name : String} (h : FileName name) : placeFrom [] ⟨name⟩ = [name] :=
    (vacant_sideBySide h (List.mem_singleton_self name)).place.symm
  have vacant {name : String} (h : FileName name) (there : name ∈ [registry, owners, data]) :
      (Disk.sideBySide [registry, owners, data]).Vacant ⟨name⟩ (placeFrom [] ⟨name⟩) :=
    (place h).symm ▸ vacant_sideBySide h there
  refine ⟨rfl, vacant hr (by simp), vacant ho (by simp), vacant hd (by simp), ?_⟩
  simp only [registryPlace, ownersPlace, dataPlace, sideBySide, place hr, place ho, place hd]
  simpa [List.cons_prefix_cons, eq_comm] using distinct

/-- What a program may change whose calls concern names. -/
theorem run_stays {α : Type} {P : Call → Prop} {p : Program α} {Q : α → Prop} {xs : List Exchange}
    {a : α} (apart : g.Apart) (h : g.InOrder d) (relies : Relies P Sound p Q)
    (concerns : ∀ c, P c → ∃ settings name, Concerns settings name c)
    (within : ∀ c q, P c → g.reach c q → area q) (run : Runs g.Serves p d xs a d') :
    g.InOrder d' ∧ Touches area d d' := by
  obtain ⟨inOrder, -, touches⟩ := run.reliant relies h (F := Touches area) (fun _ => .refl _ _)
    (fun _ _ _ => .trans) fun c d₁ b d₂ hc inv answered => by
      obtain ⟨settings, name, hc'⟩ := concerns c hc
      obtain ⟨inv', sound, touches⟩ := call_stays apart inv hc' answered
      exact ⟨inv', sound, touches.mono fun q => within c q hc⟩
  exact ⟨inOrder, touches⟩

/-- The stores are in order after an operation. -/
theorem inOrder_of_run {errand : Errand} {xs : List Exchange} {a : Except CatalogError Unit}
    (apart : g.Apart) (h : g.InOrder d) (run : Runs g.Serves (errand.program settings) d xs a d') :
    g.InOrder d' := by
  have stays : g.InOrder d' ∧ Touches (fun _ => True) d d' :=
    run_stays apart h (relies_program settings errand) (fun _ hc => ⟨settings, hc⟩)
      (fun _ _ _ _ => trivial) run
  exact stays.1

/-- The stores are in order in every state that operations side by side lead to. -/
theorem inOrder_of_interleaves {ι : Type} [DecidableEq ι] {calls : ι → Settings × Errand}
    {q : Threads ι (Except CatalogError Unit)} {ys : List (ThreadExchange ι)} (apart : g.Apart)
    (h : g.InOrder d)
    (reached : Interleaves g.Serves (fun i => (calls i).2.program (calls i).1) d ys q d') :
    g.InOrder d' := by
  refine (reached.reliant (P := fun c => ∃ settings name, Concerns settings name c) (R := Sound)
    (Q := fun _ => True) (fun i => ?_) h ?_).1
  · exact (relies_program (calls i).1 (calls i).2).mono (fun c hc => ⟨_, hc⟩) fun _ _ => trivial
  · intro _ c d₁ a d₂ concerns inv answered
    obtain ⟨settings, name, hc⟩ := concerns
    obtain ⟨inv', sound, -⟩ := call_stays apart inv hc answered
    exact ⟨inv', sound⟩

end Grounds

end DatasetCatalog.Lifecycle
