import DatasetCatalog.Proofs.Config.Deployment
import DatasetCatalog.Proofs.Lifecycle.Consistent
import DatasetCatalog.Proofs.Lifecycle.Served

/-!
# Configurations with which a catalog can be used

A deployment refuses what it cannot be run with, before it has served anybody. Then whoever has created
an instance is to find it with its owner, and nobody is to be refused because of where owners are kept.

So it is where the namespace can be the name of a directory and the directories are apart
(`created_instances_are_found`). A catalog in memory needs neither. But a namespace is not looked at
before an owner is recorded or asked for, and there is more to it than `Config.validate` checks:
`accepted_namespace_loses_instances`.
-/

namespace DatasetCatalog

open Disk Lifecycle Program

namespace Config

variable {c : Config} {host : Storage.Host} {d₀ d : Disk} {s₀ s s' : Stores} {area : Place → Prop} {name : String}
  {errands : List Errand} {request : InstanceConfiguration} {xs : List Exchange}
  {a : Except CatalogError Specification}

/-- Whoever creates an instance finds it afterwards, with the owner that was named, and no create is
refused on account of a well-formed owner. This holds of every deployment on empty directories that are
apart and whose namespace can be the name of a directory, after any operations, and whatever the code of
the types does in the data directory. -/
theorem created_instances_are_found (deployed : c.deploy host d₀ = (.ok s₀, d))
    (recordable : c.inFiles = true → c.settings.Recordable)
    (fresh : c.inFiles = true → (c.grounds d.workingDirectory).Fresh d)
    (confined : c.inFiles = true → ∀ q, area q → inside (c.grounds d.workingDirectory).dataPlace q)
    (earlier : Sequel (Stores.Unvouched area Specification.Ordered) c.settings s₀ errands s)
    (run : Runs (Stores.Unvouched area Specification.Ordered)
      (create c.settings name request).run s xs a s') :
    (∀ spec, a = .ok spec → (c.inFiles = true → spec.toJson.depth ≤ Json.depthLimit) → ∀ rs,
      (get c.settings name).run.run Stores.answer (rs, s') =
        (.ok (some ⟨spec, s'.types.find? spec.typeName, none, request.ownerPrincipal⟩), rs, s')) ∧
      ((∀ owner, ownerOf request = some owner → owner.validate = .ok ()) →
        ∀ e, a = .error e → refusesOwner e = false) := by
  have keeping₀ : Keeping (c.grounds d.workingDirectory) c.settings Specification.Ordered c.inFiles
      ⟨[], fun _ => none⟩ s₀ := keeping_deploy_fresh deployed recordable fresh
  have contained : Contained (c.grounds d.workingDirectory) c.inFiles area :=
    ⟨fun files => (fresh files).isApart, confined⟩
  obtain ⟨l, sequel, keeping, -⟩ := keeping₀.sequel contained (fun _ => id) earlier
  have unowned : Unowned c.settings l := sequel.unowned fun _ _ => rfl
  obtain ⟨l', served, keeping', -⟩ := keeping.runs contained (fun _ => id)
    (heeds_some (heeds_create request)) run
  refine ⟨fun spec made shallow rs => ?_, fun wellFormed => create_accepted unowned wellFormed served⟩
  obtain ⟨_, rfl, rfl, valid, free, rfl⟩ | ⟨⟨e, rfl⟩, -⟩ := create_serves served
  case inr => cases made
  cases made
  have found := Ledger.find?_enter (l.claim (c.settings.entity spec.name) (ownerOf request)) spec
    spec.name
  rw [if_pos rfl] at found
  have owner : (request.ownerPrincipal.map Principal.mk).map Principal.text =
      request.ownerPrincipal := by
    cases request.ownerPrincipal <;> rfl
  rw [keeping'.get_eq, Ledger.describes, if_pos valid, keeping'.reads_of_found found shallow,
    Ledger.owners_enter, owners_claim (unowned spec.name free), Function.update_self, owner]

/-- Stores with an instance. -/
def withSales : Stores :=
  Stores.after (inFolders {}).settings [.create "sales" ⟨"table", [], none⟩] (beginning {})

/-- An instance is created beside another one, and found with its owner. -/
theorem orders_are_found_with_their_owner :
    (inFolders {}).deploy {} ⟨[], []⟩ = (.ok (beginning {}), folders) ∧
      ∃ spec s, (create (inFolders {}).settings "orders" ⟨"table", [], some "alice"⟩).run.run
          Stores.answer ([], withSales) = (.ok spec, [], s) ∧
        (get (inFolders {}).settings "orders").run.run Stores.answer ([], s) =
          (.ok (some ⟨spec, s.types.find? spec.typeName, none, some "alice"⟩), [], s) := by
  have fresh : ((inFolders {}).grounds []).Fresh folders := fresh_inFolders {}
  have makes : Grounds.Houses.Makes Specification.Ordered := fun _ _ _ _ => Definition.Makes.ordered
  obtain ⟨houses, earlier⟩ : ((inFolders {}).grounds []).Houses withSales ∧
      Sequel (Stores.Unvouched (inside ((inFolders {}).grounds []).dataPlace) Specification.Ordered)
        (inFolders {}).settings (beginning {}) _ withSales :=
    (houses_beginning {}).sequel fresh.isApart makes (inFolders {}).settings
      [.create "sales" ⟨"table", [], none⟩]
  have heeds : Heeds Registry.Storable (inFolders {}).settings "orders"
      (create (inFolders {}).settings "orders" ⟨"table", [], some "alice"⟩).run := heeds_create _
  obtain ⟨-, xs, run⟩ := houses.runs fresh.isApart makes (relies_of_storable (heeds_some heeds)) []
  -- what the create comes to, as far as it can be told by evaluating it
  have succeeds : endsWell ((create (inFolders {}).settings "orders"
      ⟨"table", [], some "alice"⟩).run.run Stores.answer ([], withSales)) = true := by decide +kernel
  obtain ⟨spec, s, created, shallow⟩ := endsWell_inv succeeds
  rw [created] at run
  refine ⟨deploy_inFolders {}, spec, s, created, ?_⟩
  exact (created_instances_are_found (deploy_inFolders {}) (fun _ => ⟨by decide, by decide⟩)
    (fun _ => fresh) (fun _ _ => id) earlier run).1 spec rfl (fun _ => shallow) []

/-- A configuration can be accepted and its catalog lose every instance, because the namespace cannot be
the name of a directory. -/
theorem accepted_namespace_loses_instances :
    let c := inFolders { «namespace» := "a/b" }
    let created := (((Errand.create "orders" ⟨"table", [], none⟩).program c.settings).run
      Stores.answer ([], beginning { «namespace» := "a/b" }))
    let refusal : CatalogError := .ownerStore (.storage
      "Entity dataset:a/b.orders cannot be stored on the filesystem")
    c.validate = .ok () ∧
      c.deploy {} ⟨[], []⟩ = (.ok (beginning { «namespace» := "a/b" }), folders) ∧
      created.1 = .ok () ∧
      (((Errand.get "orders").program c.settings).run Stores.answer created.2).1 = .error refusal ∧
      (((Errand.create "orders" ⟨"table", [], some "alice"⟩).program c.settings).run
        Stores.answer ([], beginning { «namespace» := "a/b" })).1 = .error refusal :=
  ⟨valid_inProcess _ _, deploy_inFolders _, by decide +kernel, by decide +kernel, by decide +kernel⟩

end Config

end DatasetCatalog
