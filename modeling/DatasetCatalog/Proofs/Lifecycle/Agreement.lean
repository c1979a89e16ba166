import DatasetCatalog.Proofs.Lifecycle.Consistent
import DatasetCatalog.Proofs.Lifecycle.Memory

/-!
# Catalog, owner records and storage agree

Operations come one after the other here, in any order and number, and the collaborators fail as they
like. `agree_after_every_operation` says that after each operation every instance in the catalog has
storage with the specification that the catalog has, and that the owner records are those that the
creates named. It needs that what a failing storage operation leaves is not a specification which
names parts that are not safe names, and `leftover_leads_astray` shows that it does.
-/

namespace DatasetCatalog.Lifecycle

open Program Storage.Backend

/-- Operations that have come to their end, the last one first, with what came of them. -/
abbrev History := List (Errand × Except CatalogError Unit)

/-- The request that made the instance of a name: a create that succeeds adds an instance, so it is
that of the last such create of the name. -/
def History.origin (name : String) : History → Option InstanceConfiguration
  | [] => none
  | (.create n request, .ok _) :: earlier => if n = name then some request else origin name earlier
  | _ :: earlier => origin name earlier

/-- What stores can come to in a sequence of operations, each of which comes to its end before the
next one starts. -/
inductive Follow (ok : Specification → Prop) (settings : Settings) (start : Holdings) :
    History → Holdings → Prop
  | nothing : Follow ok settings start [] start
  | operation {h : History} {x x' : Holdings} {errand : Errand} {xs : List Exchange}
      {a : Except CatalogError Unit} (earlier : Follow ok settings start h x)
      (run : Runs (Faulty ok) (errand.program settings) x xs a x') :
      Follow ok settings start ((errand, a) :: h) x'

/-- Catalog, owner records and storage agree. -/
structure Agree (settings : Settings) (h : History) (x : Holdings) : Prop where
  /-- Every instance in the catalog has storage with the specification that the catalog has. -/
  stored : ∀ name spec, x.1.find? name = some spec → spec.name = name ∧ Holds x.2 name spec
  /-- Every instance in the catalog was made by a create. -/
  created : ∀ name spec, x.1.find? name = some spec → ∃ request, h.origin name = some request
  /-- There is an owner record where that create named an owner, and nowhere else. -/
  owned : ∀ name principal, x.1.owners (settings.entity name) = some principal ↔
    ∃ spec request, x.1.find? name = some spec ∧ h.origin name = some request ∧
      ownerOf request = some principal

variable {settings : Settings} {h : History} {x : Holdings}

/-- Operations come to their end, whichever they are. -/
theorem exists_follow (ok : Specification → Prop) (settings : Settings) (start : Holdings)
    (errands : List Errand) : ∃ h x, h.map Prod.fst = errands ∧ Follow ok settings start h x := by
  induction errands with
  | nil => exact ⟨[], start, rfl, .nothing⟩
  | cons errand errands ih =>
    obtain ⟨h, x, rfl, earlier⟩ := ih
    obtain ⟨xs, a, x', run⟩ := exists_runs faulty_total (errand.program settings) x
    exact ⟨(errand, a) :: h, x', rfl, .operation earlier run⟩

theorem origin_cons (errand : Errand) (a : Except CatalogError Unit) (h : History) :
    (fun name => History.origin name ((errand, a) :: h)) =
      errand.update (fun name => h.origin name) a := by
  funext name
  cases errand with
  | create n request =>
    cases a with
    | error e => rfl
    | ok u =>
      rw [History.origin, Errand.update, Function.update_apply]
      simp only [eq_comm]
  | _ => rfl

/-- The invariant holds after every operation. -/
theorem Follow.consistent {start : Holdings}
    (follow : Follow Storage.Local.SafeParts settings start h x)
    (h₀ : Consistent settings (fun _ => none) start) :
    Consistent settings (fun name => h.origin name) x := by
  induction follow with
  | nothing => exact h₀
  | operation earlier run ih =>
    rw [origin_cons]
    exact errand_consistent ih run

theorem Consistent.agree (c : Consistent settings (fun name => h.origin name) x) :
    Agree settings h x := by
  refine ⟨fun name spec there => ?_, fun name spec there => ?_, fun name principal => ?_⟩
  · obtain ⟨named, settled⟩ := c.stored name spec there
    exact ⟨named, settled.holds⟩
  · obtain ⟨request, made, -⟩ := c.owned name spec there
    exact ⟨request, made⟩
  · cases hfound : x.1.find? name with
    | none =>
      rw [c.unowned name hfound]
      simp
    | some spec =>
      obtain ⟨request, made, owner⟩ := c.owned name spec hfound
      rw [owner]
      constructor
      · intro howner
        exact ⟨spec, request, rfl, made, howner⟩
      · rintro ⟨_, request', -, made', howner⟩
        cases made.symm.trans made'
        exact howner

/-- After any operations in any order, whichever calls of the registry, the storage, the query engine
and the registry of types failed in them, catalog, owner records and storage agree. -/
theorem agree_after_every_operation {s : Storage.Backend.Site} (empty : Empty s)
    (follow : Follow Storage.Local.SafeParts settings (⟨[], fun _ => none⟩, s) h x) :
    Agree settings h x := by
  refine (follow.consistent ⟨empty.ready, ?_, ?_, ?_⟩).agree
  · rintro name spec ⟨⟩
  · rintro name spec ⟨⟩
  · intro name _
    rfl

/-! ### Stores in memory -/

/-- The ledger and the storage of stores in memory; the storage can be anywhere. -/
def holdings (s : MemoryStores) : Holdings := (s.1.2.ledger, s.1.2.storage, s.1.2.disk)

/-- Stores in memory do nothing that collaborators are not expected to do. -/
theorem memoryAnswer_faulty {ok : Specification → Prop} {c : Call} {s s' : MemoryStores}
    {a : c.Answer} (answered : memoryAnswer c s = (a, s')) :
    Faulty ok c (holdings s) a (holdings s') := by
  cases answered
  refine ⟨memoryConduct_permitted c s _ _ rfl, ?_⟩
  obtain ⟨⟨rs, s⟩, inMemory⟩ := s
  obtain ⟨types, entries, records, storage, gateway, disk, audit, metrics, rfl⟩ :=
    inMemory.exists_eq
  cases c with
  | perform r limit => exact .served rfl
  | _ => rfl

/-- One more operation on stores in memory. -/
theorem Follow.run {ok : Specification → Prop} {start : Holdings} {s : MemoryStores}
    (earlier : Follow ok settings start h (holdings s)) (errand : Errand) :
    Follow ok settings start ((errand, ((errand.program settings).run memoryAnswer s).1) :: h)
      (holdings ((errand.program settings).run memoryAnswer s).2) := by
  obtain ⟨xs, run⟩ := runs_ofHandler memoryAnswer (errand.program settings) s
  have faulty : Runs (Faulty ok) (errand.program settings) (holdings s) xs _ _ :=
    run.simulate fun _ _ _ _ answered => memoryAnswer_faulty answered
  exact .operation earlier faulty

theorem agree_after_create_in_memory :
    Empty (Storage.Backend.memory {}, ⟨[], []⟩) ∧
      ∃ x, Follow Storage.Local.SafeParts {} (⟨[], fun _ => none⟩, .memory {}, ⟨[], []⟩)
          [(.create "orders" ⟨"table", [], some "alice"⟩, .ok ())] x ∧
        x.1.find? "orders" = some (.ofType "orders" "table") ∧
        Agree {} [(.create "orders" ⟨"table", [], some "alice"⟩, .ok ())] x := by
  let errand : Errand := .create "orders" ⟨"table", [], some "alice"⟩
  let fresh : MemoryStores := ⟨([], {}), ⟨_, rfl⟩, ⟨_, rfl⟩⟩
  have empty : Empty (Storage.Backend.memory {}, ⟨[], []⟩) := rfl
  have result : ((errand.program {}).run memoryAnswer fresh).1 = .ok () := rfl
  have follow : Follow Storage.Local.SafeParts {} (holdings fresh) [(errand, _)] _ :=
    Follow.nothing.run errand
  rw [result] at follow
  exact ⟨empty, _, follow, rfl, agree_after_every_operation empty follow⟩

/-! ### A leftover that leads astray -/

namespace Astray

/-- A data directory. -/
def dataDirectory : Storage.Local := ⟨⟨"data"⟩, Definition.builtin⟩

/-- An empty ledger, with storage in that directory. -/
def onDisk (d : Disk) : Holdings := (⟨[], fun _ => none⟩, .directory dataDirectory, d)

/-- A create of a table without properties. -/
def creation (name : String) : Storage.Creation := ⟨name, ⟨"table", []⟩, []⟩

/-- A specification with a part that is in the place of `b`. -/
def spec : Specification := ⟨"a", "", [], [("", ⟨"../../b", "", [], []⟩)]⟩

/-- What a create of `a` can leave that fails. -/
def leftover : Disk :=
  (((Disk.put ⟨[], []⟩ ["data"] .directory).put ["data", "a"] .directory).put
    ["data", "a", "data"] .directory).put ["data", "a", "spec.json"]
    (.file (Utf8.encode spec.toJson.compact))

/-- The disk after a create of `b`. -/
def created : Disk := ((dataDirectory.create (creation "b")).run.run leftover).2

/-- The disk after a truncation of `a` as well. -/
def truncated : Disk := ((dataDirectory.truncate "a").run.run created).2

theorem leftover_damage :
    Damage (fun _ => True) (.create (creation "a")) (onDisk ⟨[], []⟩).2 (onDisk leftover).2 := by
  have place : dataDirectory.home [] "a" = ["data", "a"] := by decide
  refine ⟨rfl, ?_, fun _ _ _ _ => trivial⟩
  change Disk.Changes (Disk.below (dataDirectory.home [] "a")) ⟨[], []⟩ leftover
  rw [place]
  have made : Disk.Changes (Disk.below ["data", "a"]) ⟨[], []⟩
      (Disk.put ⟨[], []⟩ ["data"] .directory) := .directoryAt (p := ["data"]) rfl
  exact ((made.trans (.put (by decide))).trans (.put (by decide))).trans (.put (by decide))

theorem create_fails {d d' : Disk}
    (h : Damage (fun _ => True) (.create (creation "a")) (onDisk d).2 (onDisk d').2) : ∃ xs,
    Runs (Faulty fun _ => True) ((Errand.create "a" ⟨"table", [], none⟩).program {})
      (onDisk d) xs (.error (.execution "create" "a" (.system ""))) (onDisk d') := by
  have failed : Faulty (fun _ => True)
      (.perform (.create (creation "a")) ({} : Settings).operationLimit) (onDisk d)
      (.error (.system "")) (onDisk d') := ⟨rfl, .failed _ h⟩
  exact ⟨_,
    .call (c := .reserve "a") (a := true) ⟨rfl, rfl⟩ <|
    .call (c := .findInstance "a") (a := .ok none) ⟨⟨.inl rfl, rfl⟩, rfl⟩ <|
    .call (c := .findType "table") (a := .ok (some ⟨"table", []⟩)) ⟨rfl, rfl⟩ <|
    .call failed <|
    .call (c := .count _) (a := ()) ⟨rfl, rfl⟩ <|
    .call (c := .count _) (a := ()) ⟨rfl, rfl⟩ <|
    .call (c := .record _) (a := ()) ⟨rfl, rfl⟩ <|
    .call (c := .findInstance "a") (a := .ok none) ⟨⟨.inl rfl, rfl⟩, rfl⟩ <|
    .call (c := .release "a") (a := ()) ⟨rfl, rfl⟩ <|
    .done _ _⟩

/-- The storage of `b` is created. -/
theorem run_create : dataDirectory.run (.create (creation "b")) leftover =
    (.ok (.ofType "b" "table"), created) := by
  have done : ((dataDirectory.create (creation "b")).run.run leftover).1.isOk = true := by
    decide +kernel
  rw [created]
  cases hrun : (dataDirectory.create (creation "b")).run.run leftover with
  | mk r d =>
    rw [hrun] at done
    rcases Storage.Local.create_inv rfl rfl hrun with ⟨⟨e, rfl⟩, -⟩ | ⟨made, rfl, makes, -⟩
    · cases done
    · obtain ⟨code, found, hmade⟩ := Definition.makes_iff.2 makes
      obtain rfl : Definition.table = code := Option.some.inj found
      obtain rfl : Specification.ofType "b" "table" = made := Except.ok.inj hmade
      exact hrun

theorem create_succeeds {d d' : Disk} (h : dataDirectory.run (.create (creation "b")) d =
      (.ok (.ofType "b" "table"), d')) : ∃ xs,
    Runs (Faulty fun _ => True) ((Errand.create "b" ⟨"table", [], none⟩).program {})
      (onDisk d) xs (.ok ()) ((onDisk d).1.enter (.ofType "b" "table"), (onDisk d').2) := by
  have served : Faulty (fun _ => True)
      (.perform (.create (creation "b")) ({} : Settings).operationLimit) (onDisk d)
      (.ok (.ofType "b" "table")) (onDisk d') := ⟨rfl, .served (perform_directory h)⟩
  have added : Faulty (fun _ => True) (.addInstance (.ofType "b" "table")) (onDisk d') (.ok ())
      ((onDisk d).1.enter (.ofType "b" "table"), (onDisk d').2) := ⟨.inl rfl, rfl⟩
  exact ⟨_,
    .call (c := .reserve "b") (a := true) ⟨rfl, rfl⟩ <|
    .call (c := .findInstance "b") (a := .ok none) ⟨⟨.inl rfl, rfl⟩, rfl⟩ <|
    .call (c := .findType "table") (a := .ok (some ⟨"table", []⟩)) ⟨rfl, rfl⟩ <|
    .call served <|
    .call (c := .count _) (a := ()) ⟨rfl, rfl⟩ <|
    .call added <|
    .call (c := .expose "b") (a := .ok ()) ⟨rfl, rfl⟩ <|
    .call (c := .record _) (a := ()) ⟨rfl, rfl⟩ <|
    .call (c := .count _) (a := ()) ⟨rfl, rfl⟩ <|
    .call (c := .release "b") (a := ()) ⟨rfl, rfl⟩ <|
    .done _ _⟩

/-- And then it is lost. -/
theorem run_truncate : dataDirectory.run (.truncate "a") created = (.ok (), truncated) := by
  have done : ((dataDirectory.truncate "a").run.run created).1.isOk = true := by decide +kernel
  rw [truncated]
  cases hrun : (dataDirectory.truncate "a").run.run created with
  | mk r d =>
    rw [hrun] at done
    cases r with
    | ok u => exact hrun
    | error e => cases done

theorem truncate_succeeds (l : Ledger) {d d' : Disk}
    (h : dataDirectory.run (.truncate "a") d = (.ok (), d')) : ∃ xs,
    Runs (Faulty fun _ => True) ((Errand.admin "a" "truncate").program {})
      (l, (onDisk d).2) xs (.ok ()) (l, (onDisk d').2) := by
  have served : Faulty (fun _ => True)
      (.perform (.truncate "a") ({} : Settings).operationLimit) (l, (onDisk d).2)
      (.ok ()) (l, (onDisk d').2) := ⟨rfl, .served (perform_directory h)⟩
  exact ⟨_, .call served <| .call (c := .count _) (a := ()) ⟨rfl, rfl⟩ <| .done _ _⟩

end Astray

/-- If a failing create can leave anything, the truncation of an instance that was never made can
remove the storage of another one. -/
theorem leftover_leads_astray :
    Empty (Astray.onDisk ⟨[], []⟩).2 ∧
      ∃ x, Follow (fun _ => True) {} (Astray.onDisk ⟨[], []⟩)
          [(.admin "a" "truncate", .ok ()), (.create "b" ⟨"table", [], none⟩, .ok ()),
            (.create "a" ⟨"table", [], none⟩, .error (.execution "create" "a" (.system "")))] x ∧
        x.1.find? "b" = some (.ofType "b" "table") ∧ ¬ Holds x.2 "b" (.ofType "b" "table") := by
  obtain ⟨_, first⟩ := Astray.create_fails Astray.leftover_damage
  obtain ⟨_, second⟩ := Astray.create_succeeds Astray.run_create
  obtain ⟨_, third⟩ := Astray.truncate_succeeds _ Astray.run_truncate
  refine ⟨⟨rfl, fun name p inside => ?_⟩, _, ((Follow.nothing.operation first).operation
    second).operation third, rfl, fun holds => ?_⟩
  · have notRoot : p ≠ [] := by
      rintro rfl
      simp [Storage.Local.home] at inside
    rw [Disk.node?, if_neg notRoot]
    rfl
  · obtain ⟨bytes, there, -⟩ := Storage.Local.Holds.written holds
    have lost : Astray.truncated.node? (Astray.dataDirectory.specPlace
        Astray.truncated.workingDirectory "b") = none := by decide +kernel
    rw [lost] at there
    cases there

end DatasetCatalog.Lifecycle
