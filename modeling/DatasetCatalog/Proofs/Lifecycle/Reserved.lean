import DatasetCatalog.Lifecycle.Create
import DatasetCatalog.Proofs.Program.Runs

/-!
# The shape of a create

A create checks its request without any call. Then all it does stands between two calls, one that
takes the right to the name and one that gives it back: `create_run` writes the program in this
form.
-/

namespace DatasetCatalog.Lifecycle

open Program

variable {α : Type} {settings : Settings} {name : String} {request : InstanceConfiguration}
  {owner : Option Principal}

/-- The owner that a request names. -/
abbrev ownerOf (request : InstanceConfiguration) : Option Principal :=
  request.ownerPrincipal.map Principal.mk

/-- Different instances have different owner records. -/
theorem entity_ne {m n : String} (h : m ≠ n) : settings.entity m ≠ settings.entity n := by
  intro heq
  cases heq
  exact h rfl

theorem checkCreate_eq_ok (h : checkCreate settings name request = .ok owner) :
    InstanceName.isValid name = true ∧ owner = ownerOf request := by
  unfold checkCreate at h
  split at h
  · next valid =>
    refine ⟨valid, ?_⟩
    unfold requestedOwner at h
    cases hrequest : request.ownerPrincipal with
    | none =>
      rw [hrequest] at h
      cases h
      rw [ownerOf, hrequest]
      rfl
    | some text =>
      rw [hrequest] at h
      dsimp only at h
      split at h <;> cases h
      rw [ownerOf, hrequest]
      rfl
  · cases h

/-- A request passes the check if its name is valid and its owner, if it names one, can be recorded.
-/
theorem checkCreate_of_recordable (valid : InstanceName.isValid name = true)
    (recordable : ∀ principal, ownerOf request = some principal →
      Owner.validate (settings.entity name) principal = .ok ()) :
    checkCreate settings name request = .ok (ownerOf request) := by
  rw [checkCreate, if_pos valid, requestedOwner, ownerOf]
  cases howner : request.ownerPrincipal with
  | none => rfl
  | some text =>
    have accepted : Owner.validate (settings.entity name) ⟨text⟩ = .ok () :=
      recordable ⟨text⟩ (by rw [ownerOf, howner]; rfl)
    dsimp only
    rw [accepted]
    rfl

/-- What is left of a create once it has the right to its name: some calls, and then that right is
given back. -/
def holding (name : String) (body : Program α) : Program α :=
  body >>= fun a => .call (.release name) fun _ => .done a

theorem withReservation_run (name : String) (step : Step α) :
    (withReservation name step).run = .call (.reserve name) fun (granted : Bool) =>
      match granted with
      | true => holding name step.run
      | false => .done (.error (.instanceExists name)) := by
  unfold withReservation
  rw [run_always_bind]
  refine congrArg (Program.call (.reserve name)) (funext fun granted => ?_)
  cases granted with
  | false => rfl
  | true => exact run_always_bind _ _

theorem holding_ne_done (body : Program α) (r : α) : holding name body ≠ .done r := by
  cases body <;> rintro ⟨⟩

theorem create_run (checked : checkCreate settings name request = .ok owner) :
    (create settings name request).run = .call (.reserve name) fun (granted : Bool) =>
      match granted with
      | true => holding name (createReserved settings name request owner).run
      | false => .done (.error (.instanceExists name)) := by
  rw [← withReservation_run, create, checked]
  rfl

/-- A create whose request is refused makes no call. -/
theorem create_run_refused {e : CatalogError}
    (checked : checkCreate settings name request = .error e) :
    (create settings name request).run = .done (.error e) := by
  rw [create, checked]
  rfl

end DatasetCatalog.Lifecycle
