import DatasetCatalog.Proofs.Lifecycle.Served

/-!
# Deployments that do everything themselves

A deployment that keeps everything in files and runs the code of the types in its own process `Houses`
its stores: whatever is there is in one of its directories. Its calls keep the stores in order
(`Houses.answer`), and its storage is a case of one that nobody vouches for, which stays in its own
directory and gives what the built-in types make (`Houses.runs`).

`Stores.after` is what errands leave that are carried out one after the other, and such errands are a
`Sequel` (`Houses.sequel`).
-/

namespace DatasetCatalog.Lifecycle

open Disk Program

/-- Everything is kept in files, and in order. -/
structure Grounds.Houses (g : Grounds) (s : Stores) : Prop where
  instances : s.instances = .files g.registry
  owners : s.owners = .files g.owners
  storage : s.storage = .directory g.storage
  inOrder : g.InOrder s.disk

namespace Grounds.Houses

variable {g : Grounds} {settings : Settings} {name : String} {ok : Specification → Prop}
  {s : Stores} {rs : Reservations}

/-- What a call does to the stores, as far as the disk shows it. -/
theorem serves (h : g.Houses s) (c : Call) (rs : Reservations) :
    g.Serves c s.disk (Stores.answer c (rs, s)).1 (Stores.answer c (rs, s)).2.2.disk := by
  obtain ⟨types, instances, owners, storage, gateway, disk, audit, metrics⟩ := s
  obtain ⟨rfl, rfl, rfl, -⟩ := h
  cases c with
  | perform r limit => exact .inl rfl
  | removeOwner entity => exact ⟨_, rfl, rfl⟩
  | _ => rfl

theorem places (h : g.Houses s) (c : Call) (rs : Reservations) :
    (Stores.answer c (rs, s)).2.2.instances = .files g.registry ∧
      (Stores.answer c (rs, s)).2.2.owners = .files g.owners ∧
      (Stores.answer c (rs, s)).2.2.storage = .directory g.storage := by
  obtain ⟨types, instances, owners, storage, gateway, disk, audit, metrics⟩ := s
  obtain ⟨rfl, rfl, rfl, -⟩ := h
  cases c <;> exact ⟨rfl, rfl, rfl⟩

theorem perform_run (h : g.Houses s) (r : Storage.Request) (limit : Duration) :
    Stores.answer (.perform r limit) (rs, s) =
      ((g.storage.run r s.disk).1, rs, { s with disk := (g.storage.run r s.disk).2 }) := by
  obtain ⟨types, instances, owners, storage, gateway, disk, audit, metrics⟩ := s
  obtain ⟨rfl, rfl, rfl, -⟩ := h
  rfl

/-- The built-in types make nothing but what is as `ok` says. -/
def Makes (ok : Specification → Prop) : Prop :=
  ∀ typeName name ps spec, Definition.Makes typeName name ps spec → ok spec

theorem gives (h : g.Houses s) (makes : Makes ok) (r : Storage.Request) :
    Stores.Gives ok r (g.storage.run r s.disk).1 := by
  cases r with
  | create c =>
    rcases run : g.storage.run (.create c) s.disk with ⟨a, d'⟩
    rcases Storage.Local.create_inv rfl h.inOrder.workingDirectory run with
      ⟨⟨e, rfl⟩, -⟩ | ⟨spec, rfl, made, -⟩
    · exact trivial
    · exact makes _ _ _ _ made
  | _ => exact trivial

/-- Storage in the process of the service is a case of one that nobody vouches for. -/
theorem unvouched (h : g.Houses s) (makes : Makes ok) (c : Call) (rs : Reservations) :
    Stores.Unvouched (inside g.dataPlace) ok c s (Stores.answer c (rs, s)).1
      (Stores.answer c (rs, s)).2.2 := by
  cases c with
  | reserve n => exact ⟨s, .refl _ _, rfl⟩
  | perform r limit =>
    rw [h.perform_run]
    rcases run : g.storage.run r s.disk with ⟨a, d'⟩
    have touches := Storage.Local.run_touches rfl h.inOrder.ready h.inOrder.clean run
    have given := h.gives makes r
    rw [run] at given
    exact ⟨{ s with disk := d' }, ⟨touches.mono fun q hq => ⟨r.target, hq⟩, rfl⟩, given, rfl⟩
  | _ => exact ⟨s, .refl _ _, rfl⟩

/-- A call keeps the stores in order. -/
theorem answer (h : g.Houses s) (apart : g.Apart) {c : Call}
    (concerns : Concerns settings name c) (rs : Reservations) :
    g.Houses (Stores.answer c (rs, s)).2.2 ∧ Sound ⟨c, (Stores.answer c (rs, s)).1⟩ := by
  obtain ⟨inOrder, sound, -⟩ := call_stays apart h.inOrder concerns (h.serves c rs)
  obtain ⟨instances, owners, storage⟩ := h.places c rs
  exact ⟨⟨instances, owners, storage, inOrder⟩, sound⟩

/-- A program keeps the stores in order, and runs as it does where nobody vouches for the storage. -/
theorem runs {α : Type} {p : Program α} {Q : α → Prop} (h : g.Houses s) (apart : g.Apart)
    (makes : Makes ok)
    (relies : Relies (fun c => ∃ name, Concerns settings name c) Sound p Q) (rs : Reservations) :
    g.Houses (p.run Stores.answer (rs, s)).2.2 ∧
      ∃ xs, Runs (Stores.Unvouched (inside g.dataPlace) ok) p s xs
        (p.run Stores.answer (rs, s)).1 (p.run Stores.answer (rs, s)).2.2 := by
  obtain ⟨xs, run⟩ := runs_ofHandler Stores.answer p (rs, s)
  obtain ⟨s', simulated, rfl, houses⟩ := run.reliant_simulate
    (I := fun s₁ x => x.2 = s₁ ∧ g.Houses s₁) relies ⟨rfl, h⟩ (by
      rintro c _ ⟨rs, s₁⟩ a x ⟨name, concerns⟩ ⟨rfl, houses⟩ answered
      have same : Stores.answer c (rs, s₁) = (a, x) := answered
      have stays := houses.answer apart concerns rs
      have does := houses.unvouched makes c rs
      rw [same] at stays does
      exact ⟨x.2, does, ⟨rfl, stays.1⟩, stays.2⟩)
  exact ⟨houses, xs, simulated⟩

end Grounds.Houses

/-! ### One after the other -/

/-- The stores after errands that are carried out one after the other. -/
def Stores.after (settings : Settings) (errands : List Errand) (s : Stores) : Stores :=
  errands.foldl (fun s errand => ((errand.program settings).run Stores.answer ([], s)).2.2) s

theorem Grounds.Houses.sequel {g : Grounds} {ok : Specification → Prop} {s : Stores}
    (h : g.Houses s) (apart : g.Apart) (makes : Houses.Makes ok) (settings : Settings)
    (errands : List Errand) :
    g.Houses (Stores.after settings errands s) ∧
      Sequel (Stores.Unvouched (inside g.dataPlace) ok) settings s errands
        (Stores.after settings errands s) := by
  induction errands using List.reverseRecOn with
  | nil => exact ⟨h, .start⟩
  | append_singleton errands errand ih =>
    obtain ⟨houses, sequel⟩ := ih
    obtain ⟨houses', xs, run⟩ := houses.runs apart makes (relies_program settings errand) []
    have last : Stores.after settings (errands ++ [errand]) s = ((errand.program settings).run
        Stores.answer ([], Stores.after settings errands s)).2.2 := by
      rw [Stores.after, List.foldl_append]
      rfl
    rw [last]
    exact ⟨houses', .next sequel run⟩

end DatasetCatalog.Lifecycle
