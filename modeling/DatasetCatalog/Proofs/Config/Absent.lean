import DatasetCatalog.Proofs.Config.Deployment
import DatasetCatalog.Proofs.Lifecycle.Neighbours

/-!
# Names that are not catalogued

Whoever asks a coordinator for a name that is not catalogued, or wants to drop it, is to hear that there
is no such instance. So it is with every name that is not even valid, and with every other name if the
catalog is in memory (`absent_names_are_not_found`).

A catalog in files looks for the file of the name, and no file can have a name of more than 255 bytes,
the extension included. So a valid name of more than 250 bytes is answered with an error of storage
(`long_names_are_refused`). Either way the question changes nothing.
-/

namespace DatasetCatalog

open Disk Lifecycle Program

namespace Lifecycle

variable {g : Grounds} {settings : Settings} {ok : Specification → Prop} {inFiles : Bool} {l : Ledger}
  {s : Stores} {name : String}

/-- A name that is looked for in files and is too long for one. -/
def Unfileable (inFiles : Bool) (name : String) : Prop :=
  inFiles = true ∧ InstanceName.isValid name = true ∧ 250 < Utf8.size name

instance (inFiles : Bool) (name : String) : Decidable (Unfileable inFiles name) :=
  inferInstanceAs (Decidable (_ ∧ _))

/-- How a look for such a name fails. -/
def tooLong (name : String) : RegistryError :=
  .storage ("Failed to read " ++ name ++ ": " ++ FileError.nameTooLong.message)

/-- What is read under a name that is not catalogued. -/
theorem Keeping.reads_of_absent (h : Keeping g settings ok inFiles l s)
    (valid : InstanceName.isValid name = true) (absent : s.catalogues name = false) :
    l.reads inFiles name = if Unfileable inFiles name then .error (tooLong name) else .ok none := by
  have safe := InstanceName.isSafeName_of_isValid valid
  have missing : l.find? name = none := by
    rwa [h.catalogues_eq safe, Option.isSome_eq_false_iff, Option.isNone_iff_eq_none] at absent
  cases inFiles with
  | false =>
    rw [if_neg fun unfileable => Bool.false_ne_true unfileable.1]
    exact congrArg Except.ok missing
  | true =>
    change Registry.Files.reads l.catalog name = _
    by_cases long : 250 < Utf8.size name
    · rw [if_pos ⟨rfl, valid, long⟩]
      exact Registry.Files.reads_of_error ((if_pos safe).trans (if_neg (Nat.not_le.2 long)))
    · rw [if_neg fun unfileable => long unfileable.2.2]
      exact Registry.Files.reads_of_none
        (Registry.Files.lookup_eq_ok.2 ⟨safe, Nat.not_lt.1 long, missing⟩)

/-- What is answered about a name that is not catalogued. -/
theorem Keeping.get_of_absent (h : Keeping g settings ok inFiles l s)
    (absent : s.catalogues name = false) (rs : Reservations) :
    (get settings name).run.run Stores.answer (rs, s) =
      (if Unfileable inFiles name then .error (.registry (tooLong name)) else .ok none, rs, s) := by
  rw [h.get_eq, Ledger.describes]
  by_cases valid : InstanceName.isValid name = true
  · have read := h.reads_of_absent valid absent
    by_cases unfileable : Unfileable inFiles name
    · rw [if_pos unfileable] at read ⊢
      rw [if_pos valid, read]
    · rw [if_neg unfileable] at read ⊢
      rw [if_pos valid, read]
  · rw [if_neg valid, if_neg fun unfileable => valid unfileable.2.1]

/-- A name that is not catalogued cannot be dropped. -/
theorem Keeping.drop_of_absent (h : Keeping g settings ok inFiles l s)
    (absent : s.catalogues name = false) (rs : Reservations) :
    (dropInstance settings name).run.run Stores.answer (rs, s) =
      (.error (if Unfileable inFiles name then .registry (tooLong name) else .instanceNotFound name),
        rs, s) := by
  unfold dropInstance
  by_cases valid : InstanceName.isValid name = true
  · rw [if_pos valid, run_ofRegistry_bind, Program.run_bind, h.find name,
      h.reads_of_absent valid absent]
    by_cases unfileable : Unfileable inFiles name
    · rw [if_pos unfileable, if_pos unfileable]
      rfl
    · rw [if_neg unfileable, if_neg unfileable]
      rfl
  · rw [if_neg valid, if_neg fun unfileable => valid unfileable.2.1]
    rfl

end Lifecycle

namespace Config

variable {c : Config} {host : Storage.Host} {d₀ d : Disk} {s₀ s : Stores} {area : Place → Prop} {name : String}

/-- Whatever is not catalogued is answered for as absent, and the question changes nothing. The one
exception are valid names of more than 250 bytes, if the catalog is in files. This holds of every
deployment whose namespace can be the name of a directory, in every state that operations lead to, and
whatever the code of the types does in the data directory. -/
theorem absent_names_are_not_found {ι : Type} [DecidableEq ι] {calls : ι → Errand}
    {ys : List (ThreadExchange ι)} {q : Threads ι (Except CatalogError Unit)}
    (deployed : c.deploy host d₀ = (.ok s₀, d))
    (recordable : c.inFiles = true → c.settings.Recordable)
    (tidy : c.inFiles = true → (c.grounds d.workingDirectory).Tidy Specification.Ordered d)
    (confined : c.inFiles = true → ∀ q, area q → inside (c.grounds d.workingDirectory).dataPlace q)
    (reached : Interleaves (Stores.Unvouched area Specification.Ordered)
      (fun i => (calls i).program c.settings) s₀ ys q s)
    (absent : s.catalogues name = false) (rs : Reservations) :
    (get c.settings name).run.run Stores.answer (rs, s) =
        (if Unfileable c.inFiles name then .error (.registry (tooLong name)) else .ok none, rs, s) ∧
      (dropInstance c.settings name).run.run Stores.answer (rs, s) =
        (.error (if Unfileable c.inFiles name then .registry (tooLong name)
          else .instanceNotFound name), rs, s) := by
  obtain ⟨l₀, keeping₀⟩ := keeping_deploy deployed recordable tidy
  have contained : Contained (c.grounds d.workingDirectory) c.inFiles area :=
    ⟨fun files => (tidy files).apart, confined⟩
  obtain ⟨l, keeping, -⟩ := keeping₀.interleaves contained (fun _ => id) reached
  exact ⟨keeping.get_of_absent absent rs, keeping.drop_of_absent absent rs⟩

/-- Beside an instance another name is absent. -/
theorem sales_is_absent_beside_orders :
    (inFolders {}).deploy {} ⟨[], []⟩ = (.ok (beginning {}), folders) ∧
      withOrders.catalogues "orders" = true ∧ withOrders.catalogues "sales" = false ∧
      (get (inFolders {}).settings "sales").run.run Stores.answer ([], withOrders) =
        (.ok none, [], withOrders) ∧
      (dropInstance (inFolders {}).settings "sales").run.run Stores.answer ([], withOrders) =
        (.error (.instanceNotFound "sales"), [], withOrders) := by
  let calls (_ : Unit) : Errand := .create "orders" ⟨"table", [], some "alice"⟩
  have fresh : ((inFolders {}).grounds []).Fresh folders := fresh_inFolders {}
  obtain ⟨-, _, _, run⟩ := runs_withOrders
  have reached : Interleaves
      (Stores.Unvouched (inside ((inFolders {}).grounds []).dataPlace) Specification.Ordered)
      (fun i => (calls i).program (inFolders {}).settings) (beginning {}) _ _ withOrders :=
    InterleavesBy.start.run (i := ()) rfl run
  have catalogued : withOrders.catalogues "orders" = true ∧ withOrders.catalogues "sales" = false := by
    decide +kernel
  have fits : ¬ Unfileable (inFolders {}).inFiles "sales" := by decide
  obtain ⟨got, dropped⟩ := absent_names_are_not_found (deploy_inFolders {})
    (fun _ => ⟨by decide, by decide⟩) (fun _ => fresh.tidy) (fun _ _ => id) reached
    catalogued.2 []
  rw [if_neg fits] at got dropped
  exact ⟨deploy_inFolders {}, catalogued.1, catalogued.2, got, dropped⟩

theorem isValid_letters (n : Nat) :
    InstanceName.isValid (String.ofList (List.replicate (n + 1) 'a')) = true := by
  refine InstanceName.isValid_iff.2 ⟨'a', List.replicate n 'a', ?_, by decide, fun c hc => ?_⟩
  · rw [String.toList_ofList, List.replicate_succ]
  · rw [List.eq_of_mem_replicate hc]
    decide

/-- A catalog in files does not say of a long name that there is no such instance. -/
theorem long_names_are_refused :
    let c := inFolders {}
    let s := beginning {}
    let name := String.ofList (List.replicate 256 'a')
    c.deploy {} ⟨[], []⟩ = (.ok s, folders) ∧ InstanceName.isValid name = true ∧
      s.catalogues name = false ∧
      (get c.settings name).run.run Stores.answer ([], s) =
        (.error (.registry (tooLong name)), [], s) ∧
      (dropInstance c.settings name).run.run Stores.answer ([], s) =
        (.error (.registry (tooLong name)), [], s) := by
  intro c s name
  have valid : InstanceName.isValid name = true := isValid_letters 255
  have long : 250 < Utf8.size name :=
    Nat.lt_of_lt_of_eq (by decide) (Grounds.size_letters 256).symm
  have keeping : Keeping (c.grounds []) c.settings Specification.Ordered c.inFiles
      ⟨[], fun _ => none⟩ s :=
    keeping_deploy_fresh (deploy_inFolders {}) (fun _ => ⟨by decide, by decide⟩)
      fun _ => fresh_inFolders {}
  have absent : s.catalogues name = false :=
    keeping.catalogues_eq (InstanceName.isSafeName_of_isValid valid)
  have unfileable : Unfileable c.inFiles name := ⟨rfl, valid, long⟩
  have got := keeping.get_of_absent absent []
  have dropped := keeping.drop_of_absent absent []
  rw [if_pos unfileable] at got dropped
  exact ⟨deploy_inFolders {}, valid, absent, got, dropped⟩

end Config

end DatasetCatalog
