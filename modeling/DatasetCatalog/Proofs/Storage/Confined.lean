import DatasetCatalog.CommandLine.OpWorker
import DatasetCatalog.Proofs.Disk.Confine
import DatasetCatalog.Proofs.Program.Replay
import DatasetCatalog.Proofs.Storage.Effect
import DatasetCatalog.Proofs.Storage.Upkeep
import DatasetCatalog.Proofs.Storage.Wire

/-!
# Requests stay in the place of their instance

A worker carries out whatever request stands in its input, so nothing is known of the name in it.
A name that is not safe is refused before anything is touched (`run_refused`). With a safe name, a
request creates, changes and removes nothing but what stands at or below the place of its instance
(`run_spares`), whatever its type, its properties or its specification say and whatever becomes of it.

This takes two things of the disk. The data directory has to be there, for it would be made otherwise
(`Ready`). And what is stored must list safe names only, because a truncation follows the names of the
stored parts without a check (`Clean`). Both hold of an empty data directory, and requests keep them, so
they hold in every run of a worker (`worker_confined`).
-/

namespace DatasetCatalog

namespace Storage

open Disk

namespace Local

variable {l : Local} {w : Place} {d d' : Disk} {name operation : String} {r : Request}
  {spec part : Specification}

/-! ### Safe names -/

theorem directory_reads {a : Except StorageError Path}
    (h : (ExceptT.run (l.directory operation name)).run d = (a, d')) :
    d' = d ∧ ∀ dir, a = .ok dir → dir = l.root.join name ∧ isSafeName name = true := by
  obtain ⟨same, ⟨rfl, safe⟩ | ⟨e, rfl⟩⟩ := directory_inv h
  · refine ⟨same, ?_⟩
    rintro _ ⟨⟩
    exact ⟨rfl, safe⟩
  · exact ⟨same, nofun⟩

/-- A name that is not safe has no directory. -/
theorem directory_refused (h : isSafeName name = false) (d : Disk) :
    (l.directory operation name).run.run d =
      (.error (.execution operation name "name cannot be used as a storage path"), d) := by
  rw [directory, if_neg (by simp [h])]
  rfl

/-- A request for a name that is not safe leaves the disk as it is. -/
theorem run_refused (h : isSafeName r.target = false) (d : Disk) : (l.run r d).2 = d := by
  have refused {α : Type} (operation : String) (f : Path → StorageAction α) (d : Disk) :
      ((ExceptT.run (l.directory operation r.target >>= f)).run d).2 = d := by
    rw [DiskAction.bind_of_error (directory_refused h d) f]
  have unread {α : Type} (operation : String) (f : Specification → StorageAction α) :
      ((ExceptT.run (l.readSpecification operation r.target >>= f)).run d).2 = d := by
    have read : (l.readSpecification operation r.target).run.run d = _ :=
      DiskAction.bind_of_error (directory_refused h d) _
    rw [DiskAction.bind_of_error read f]
  cases r with
  | create c =>
    rcases hrun : l.run (.create c) d with ⟨a, d'⟩
    rcases DiskAction.bind_inv hrun with ⟨code, d₁, hcode, hrest⟩ | ⟨e, hcode, -⟩
    · obtain ⟨rfl, -⟩ := definition_inv hcode
      exact (congrArg Prod.snd hrest).symm.trans (refused "create" _ d₁)
    · exact (definition_inv hcode).1
  | drop removal => exact refused "drop" _ d
  | truncate name => exact unread "truncate" _
  | upgrade name => exact unread "upgrade" _
  | probe name => exact refused "exists" _ d

/-! ### Steps in the place of an instance -/

theorem withstands_ready : Withstands (l.Ready w) (below (l.home w name)) :=
  fun ready spares => ready.of_spares spares

theorem Ready.placeOf_root (ready : l.Ready w d) : d.placeOf l.root = placeFrom w l.root :=
  placeOf_eq_placeFrom ready.workingDirectory

theorem Ready.placeOf_join (ready : l.Ready w d) (h : Component name) :
    d.placeOf (l.root.join name) = l.home w name := by
  rw [Disk.placeOf_join h, ready.placeOf_root, home]

/-- A file or directory in the directory of an instance has its place there. -/
theorem Ready.placeOf_within (ready : l.Ready w d) (h : Component name) {file : String}
    (hfile : Component file) :
    d.placeOf ((l.root.join name).join file) = l.home w name ++ [file] := by
  rw [Disk.placeOf_join hfile, ready.placeOf_join h]

theorem Ready.placeOf_part (ready : l.Ready w d) (h : Component name)
    (hpart : Component part.name) :
    d.placeOf (partDirectory (l.root.join name) part) =
      l.home w name ++ [dataDirectory] ++ [part.name] := by
  rw [partDirectory, Disk.placeOf_join hpart, ready.placeOf_within h component_dataDirectory]

/-- The directory of a part is made in the place of the instance. -/
theorem confined_partDirectory (h : Component name) (hpart : Component part.name) :
    Confined (l.Ready w) (below (l.home w name))
      (onDisk (makeDirectories (partDirectory (l.root.join name) part))) := by
  refine .adapt (confined_makeDirectories fun d ready q hq => ?_)
  rw [partDirectory, stopsOf_join hpart, stopsOf_join component_dataDirectory, stopsOf_join h,
    ready.placeOf_within h component_dataDirectory, ready.placeOf_join h, ready.placeOf_root] at hq
  simp only [List.mem_append, List.mem_singleton] at hq
  rcases hq with ((above | rfl) | rfl) | rfl
  · exact .inl (ready.opens.stops_there q above)
  · exact .inr (List.prefix_refl _)
  · exact .inr (List.prefix_append _ _)
  · exact .inr (by simp [below])

theorem confined_makePartDirectories (h : Component name) (safe : SafeParts spec) :
    Confined (l.Ready w) (below (l.home w name))
      (makePartDirectories (l.root.join name) spec) :=
  .forM withstands_ready fun part hpart =>
    confined_partDirectory h (component_of_isSafeName (safe part hpart))

theorem confined_writeSpecification (h : Component name) :
    Confined (l.Ready w) (below (l.home w name))
      (writeSpecification (l.root.join name) spec) := by
  have draft {d} (ready : l.Ready w d) :
      d.placeOf ((l.root.join name).join draftSpecFile) = l.home w name ++ [draftSpecFile] :=
    ready.placeOf_within h component_draftSpecFile
  have target {d} (ready : l.Ready w d) :
      d.placeOf ((l.root.join name).join specFile) = l.home w name ++ [specFile] :=
    ready.placeOf_within h component_specFile
  refine .bind withstands_ready (.adapt (confined_writeFile fun d ready => ?_)) fun _ =>
    .adapt (confined_moveFile (fun d ready p hp => ?_) fun d ready => ?_)
  · rw [draft ready]
    exact List.prefix_append _ _
  · rw [draft ready] at hp
    exact (List.prefix_append _ _).trans hp
  · rw [target ready]
    exact List.prefix_append _ _

theorem confined_claimDirectory (h : Component name) :
    Confined (l.Ready w) (below (l.home w name)) (claimDirectory (l.root.join name) name) := by
  have making : Confined (l.Ready w) (below (l.home w name)) (makeDirectory (l.root.join name)) := by
    refine confined_makeDirectory fun d ready => ?_
    exact ready.placeOf_join h ▸ List.prefix_refl _
  intro d a d' ready hrun
  rw [claimDirectory, DiskAction.get_bind_run] at hrun
  rcases hmake : (makeDirectory (l.root.join name)).run d with ⟨made, d₁⟩
  rw [hmake] at hrun
  cases made with
  | ok u =>
    cases hrun
    exact making d _ _ ready hmake
  | error e =>
    cases e <;>
    · cases hrun
      exact .refl _ _

theorem confined_clearPart (h : Component name) (hpart : Component part.name) :
    Confined (l.Ready w) (below (l.home w name)) (clearPart (l.root.join name) part) := by
  refine .bind withstands_ready (.discard withstands_ready
    (.adapt (confined_removeTreeIfPresent fun d ready p hp => ?_))) fun _ =>
    confined_partDirectory h hpart
  rw [ready.placeOf_part h hpart, List.append_assoc] at hp
  exact (List.prefix_append _ _).trans hp

/-! ### Requests -/

theorem confined_create (builtin : l.definitions = Definition.builtin) (c : Creation) :
    Confined (l.Ready w) (below (l.home w c.name)) (l.create c) := by
  refine .bind_read (fun _ _ _ _ => definition_inv) fun code found => ?_
  refine .bind_read (fun _ _ _ _ => directory_reads) fun dir hdir => ?_
  obtain ⟨rfl, safe⟩ := hdir
  refine .bind_read (fun _ _ _ _ => configure_inv) fun spec made => ?_
  have component := component_of_isSafeName safe
  have parts := safeParts_of_makes safe (makes_of_code builtin found made)
  have root : Confined (l.Ready w) (below (l.home w c.name)) (onDisk (makeDirectories l.root)) :=
    .adapt (confined_makeDirectories fun d ready q hq => .inl (ready.opens.stops_there q hq))
  refine .bind withstands_ready root fun _ => ?_
  refine .bind withstands_ready (confined_claimDirectory component) fun _ => ?_
  refine .bind withstands_ready (confined_makePartDirectories component parts) fun _ => ?_
  exact .bind withstands_ready (confined_writeSpecification component) fun _ => .pure _

theorem confined_drop (removal : Removal) :
    Confined (l.Ready w) (below (l.home w removal.spec.name)) (l.drop removal) := by
  intro d a d' ready h
  rcases drop_inv ready.workingDirectory h with rfl | rfl
  · exact .refl _ _
  · exact .prune fun _ hq => hq

/-- The names that a truncation follows are those that are stored. -/
theorem confined_truncate (name : String) :
    Confined (fun d => l.Ready w d ∧ l.Clean w d) (below (l.home w name)) (l.truncate name) := by
  refine .bind_read (P := fun spec => isSafeName name = true ∧ SafeParts spec) ?_ ?_
  · intro d a d' inv hread
    obtain ⟨same, read⟩ := readSpecification_inv hread
    refine ⟨same, fun spec hspec => ?_⟩
    obtain ⟨safe, stored⟩ := read spec hspec
    obtain ⟨bytes, there, decoded⟩ :=
      stored.written inv.1.workingDirectory (component_of_isSafeName safe)
    exact ⟨safe, inv.2 name bytes spec there decoded⟩
  · rintro spec ⟨safe, parts⟩
    refine .mono ?_ fun d inv => inv.1
    refine .bind_read (fun _ _ _ _ => directory_reads) fun dir hdir => ?_
    obtain ⟨rfl, -⟩ := hdir
    exact .forM withstands_ready fun part hpart =>
      confined_clearPart (component_of_isSafeName safe) (component_of_isSafeName (parts part hpart))

theorem confined_upgrade (builtin : l.definitions = Definition.builtin) (name : String) :
    Confined (l.Ready w) (below (l.home w name)) (l.upgrade name) := by
  refine .bind_read (P := fun _ => True)
    (fun _ _ _ _ h => ⟨(readSpecification_inv h).1, fun _ _ => trivial⟩) fun current _ => ?_
  refine .bind_read (fun _ _ _ _ => definition_inv) fun code found => ?_
  refine .bind_read (fun _ _ _ _ => configure_inv) fun spec made => ?_
  refine .bind_read (fun _ _ _ _ => directory_reads) fun dir hdir => ?_
  obtain ⟨rfl, safe⟩ := hdir
  have component := component_of_isSafeName safe
  have parts := safeParts_of_makes safe (makes_of_code builtin found made)
  exact .bind withstands_ready (confined_makePartDirectories component parts) fun _ =>
    confined_writeSpecification component

theorem confined_perform (builtin : l.definitions = Definition.builtin) (r : Request) :
    Confined (fun d => l.Ready w d ∧ l.Clean w d) (below (l.home w r.target)) (l.perform r) := by
  cases r with
  | create c => exact (confined_create builtin c).mono fun _ inv => inv.1
  | drop removal => exact (confined_drop removal).mono fun _ inv => inv.1
  | truncate name => exact confined_truncate name
  | upgrade name => exact (confined_upgrade builtin name).mono fun _ inv => inv.1
  | probe name =>
    intro d a d' _ h
    obtain rfl := probe_inv h
    exact .refl _ _

/-- Whatever becomes of a request, it creates, changes and removes nothing but what stands at or below
the place of its instance. -/
theorem run_touches (builtin : l.definitions = Definition.builtin) (ready : l.Ready w d)
    (clean : l.Clean w d) {a : Result r} (h : l.run r d = (a, d')) :
    Touches (below (l.home w r.target)) d d' :=
  confined_perform builtin r d a d' ⟨ready, clean⟩ h

theorem run_spares (builtin : l.definitions = Definition.builtin) (ready : l.Ready w d)
    (clean : l.Clean w d) {a : Result r} (h : l.run r d = (a, d')) :
    Spares (below (l.home w r.target)) d d' := (run_touches builtin ready clean h).toSpares

/-- A request leaves a data directory that requests can be confined to. -/
theorem run_keeps (builtin : l.definitions = Definition.builtin) (ready : l.Ready w d)
    (clean : l.Clean w d) {a : Result r} (h : l.run r d = (a, d')) :
    l.Ready w d' ∧ l.Clean w d' :=
  ⟨ready.of_spares (run_spares builtin ready clean h),
    (run_effect builtin ready.workingDirectory clean h).clean clean⟩

/-- What a request may leave that is given up on the way: anything in the place of its instance, but no
specification that would lead out of it. -/
structure Leaves (l : Local) (w : Place) (r : Request) (d d' : Disk) : Prop
    extends Touches (below (l.home w r.target)) d d' where
  admits : l.Admits SafeParts w d' r.target

theorem Leaves.keeps (h : l.Leaves w r d d') (ready : l.Ready w d) (clean : l.Clean w d) :
    l.Ready w d' ∧ l.Clean w d' := by
  refine ⟨ready.of_spares h.toSpares, fun name => ?_⟩
  by_cases own : name = r.target
  · exact own ▸ h.admits
  · exact (clean name).of_changes h.toSpares.changes (not_below_home own (List.prefix_append _ _))

/-- A data directory stays as it is, whatever happens elsewhere. -/
theorem keeps_of_aloof {area : Place → Prop} (ready : l.Ready w d) (clean : l.Clean w d)
    (spares : Spares area d d') (aloof : Aloof w l.root area) : l.Ready w d' ∧ l.Clean w d' := by
  refine ⟨⟨spares.workingDirectory.trans ready.workingDirectory, ready.direct,
    ready.opens.of_aloof ready.workingDirectory spares aloof⟩, fun name => ?_⟩
  refine (clean name).of_changes spares.changes (aloof _ (.inr ?_))
  exact (List.prefix_append _ _).trans (List.prefix_append _ _)

/-- Nothing is stored in an empty data directory. -/
theorem clean_of_vacant {p : Place} (h : d.Vacant l.root p) : l.Clean d.workingDirectory d := by
  have place := (ready_of_vacant h).2
  intro name
  refine admits_of_missing (h.nothing _ ?_ ?_)
  · rw [specPlace, home, ← place, List.append_assoc]
    exact List.prefix_append _ _
  · intro same
    have lengths := congrArg List.length same
    rw [specPlace, home, ← place] at lengths
    simp at lengths

end Local

end Storage

/-! ### Runs of the worker command -/

namespace CommandLine.OpWorker

open Disk Storage

/-- One run of the worker command: its arguments, its environment and what stands in its input. -/
structure Invocation where
  line : List String
  environment : StringMap String
  input : List UInt8

variable {i : Invocation} {runs : List Invocation} {root : Path} {p : Place} {d : Disk}

namespace Invocation

/-- What a run prints, and the disk after it. -/
def step (i : Invocation) (d : Disk) : Outcome × Disk := run i.line i.environment i.input d

/-- The arguments of a run name the directory at a place, which is empty on a disk. -/
def Names (i : Invocation) (d : Disk) (p : Place) : Prop :=
  ∃ root, dataDirectory i.line i.environment = .ok root ∧ d.Vacant root p

/-- A run carries out the request that stands in its input, if one does. -/
theorem step_disk (h : dataDirectory i.line i.environment = .ok root) (d : Disk) :
    (i.step d).2 = match Json.decode Request.reader i.input with
      | .ok r => (Local.run { root } r d).2
      | .error _ => d := by
  rw [step, run, h]
  dsimp only
  rw [Worker.serve]
  cases Json.decode Request.reader i.input <;> rfl

end Invocation

/-- The disk after runs of the worker command, one after the other. -/
def after (runs : List Invocation) (d : Disk) : Disk := (replay Invocation.step runs d).2

/-- The directory that was empty on the first disk is still there on the second one, by whichever path
it is named, and nothing is stored in it that would lead out of it. -/
def Sound (d : Disk) (p : Place) (d₁ : Disk) : Prop :=
  ∀ root, d.Vacant root p → Local.Ready { root } d.workingDirectory d₁ ∧
    Local.Clean { root } d.workingDirectory d₁

theorem sound_self (d : Disk) (p : Place) : Sound d p d := by
  intro root vacant
  let l : Local := { root }
  exact ⟨(Local.ready_of_vacant (l := l) vacant).1, Local.clean_of_vacant (l := l) vacant⟩

/-- Every run leaves the directory sound. -/
theorem Sound.step {d₁ : Disk} (h : Sound d p d₁) (names : i.Names d p) :
    Sound d p (i.step d₁).2 := by
  obtain ⟨root, named, vacant⟩ := names
  rw [Invocation.step_disk named]
  cases Json.decode Request.reader i.input with
  | error e => exact h
  | ok r =>
    let l : Local := { root }
    obtain ⟨ready, clean⟩ := h root vacant
    have spares := Local.run_spares (l := l) (r := r) rfl ready clean rfl
    obtain ⟨-, clean₂⟩ := Local.run_keeps (l := l) (r := r) rfl ready clean rfl
    intro other hother
    let l' : Local := { root := other }
    -- both paths lead to one place, so an instance has one place in the directory
    have homes (name : String) : l'.home d.workingDirectory name =
        l.home d.workingDirectory name := by
      rw [Local.home, Local.home, ← (Local.ready_of_vacant (l := l') hother).2,
        ← (Local.ready_of_vacant (l := l) vacant).2]
    constructor
    · have inside : Spares (below (l'.home d.workingDirectory r.target)) d₁ (l.run r d₁).2 := by
        rw [homes]
        exact spares
      exact (h other hother).1.of_spares inside
    · intro name bytes spec
      rw [Local.specPlace, homes]
      exact clean₂ name bytes spec

theorem sound_after (names : ∀ j ∈ runs, j.Names d p) : Sound d p (after runs d) :=
  replay_keeps (fun _ _ hj h => h.step hj) names (sound_self d p)

/-- A worker is not led out of its data directory. After any runs on a data directory that was empty
before, a run whose input is no request changes nothing, and a run that is given a request creates,
changes and removes nothing but what stands at or below the entry of its instance. If the name of the
instance is not safe, it changes nothing either. -/
theorem worker_confined (names : ∀ j ∈ i :: runs, j.Names d p) :
    match Json.decode Request.reader i.input with
    | .error _ => (i.step (after runs d)).2 = after runs d
    | .ok r =>
      Spares (below (p ++ [r.target])) (after runs d) (i.step (after runs d)).2 ∧
        (isSafeName r.target = false → (i.step (after runs d)).2 = after runs d) := by
  obtain ⟨root, named, vacant⟩ := names i List.mem_cons_self
  obtain ⟨ready, clean⟩ := sound_after (fun j hj => names j (List.mem_cons_of_mem _ hj)) root vacant
  rw [Invocation.step_disk named]
  cases Json.decode Request.reader i.input with
  | error e => rfl
  | ok r =>
    refine ⟨?_, fun h => Local.run_refused h _⟩
    rw [(Local.ready_of_vacant (l := { root }) vacant).2]
    exact Local.run_spares rfl ready clean rfl

/-- After a create, a drop whose specification has the name of the directory above is refused. -/
theorem drop_above_is_refused :
    let d : Disk := ⟨[(["data"], .directory)], []⟩
    let asks (r : Request) : Invocation := ⟨["--data-dir", "data"], StringMap.empty, Worker.input r⟩
    let create := asks (.create ⟨"orders", ⟨"table", []⟩, []⟩)
    let drop := asks (.drop ⟨Specification.ofType ".." "table", ⟨"table", []⟩⟩)
    (∀ j ∈ [drop, create], j.Names d ["data"]) ∧
      (drop.step (after [create] d)).2 = after [create] d := by
  intro d asks create drop
  have names (r : Request) : (asks r).Names d ["data"] :=
    ⟨⟨"data"⟩, (by decide +kernel :
      dataDirectory ["--data-dir", "data"] StringMap.empty = .ok ⟨"data"⟩), vacant_alone (by decide)⟩
  have both : ∀ j ∈ [drop, create], j.Names d ["data"] := by
    intro j hj
    simp only [List.mem_cons, List.not_mem_nil, or_false] at hj
    rcases hj with rfl | rfl
    · exact names _
    · exact names _
  refine ⟨both, ?_⟩
  have confined := worker_confined both
  have read : Json.decode Request.reader drop.input = .ok _ :=
    Request.decode_compact (r := .drop ⟨Specification.ofType ".." "table", ⟨"table", []⟩⟩)
      ⟨List.Pairwise.nil, List.Pairwise.nil, trivial⟩ (by decide)
  rw [read] at confined
  exact confined.2 (by decide)

end CommandLine.OpWorker

end DatasetCatalog
