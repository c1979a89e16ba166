import Mathlib.Logic.Function.Basic
import DatasetCatalog.Owner.Memory

/-!
# Owner records in memory, as a function

The records are a list, but everything that is asked of them goes by the owner that is found for an
entity. Adding and removing a record changes this at one entity only.
-/

namespace DatasetCatalog.Owner.Memory

theorem add_run (entity : EntityId) (principal : Principal) (records : Records) :
    (add entity principal).run.run records =
      match validate entity principal with
      | .error e => (.error e, records)
      | .ok () =>
        if (find? entity records).isSome then (.error (.alreadyExists entity), records)
        else (.ok (), (entity, principal) :: records) := by
  unfold add
  cases validate entity principal with
  | error e => rfl
  | ok u =>
    have : (ExceptT.mk (pure (.ok u)) >>= fun _ => do
          let rs ← getThe Records
          if (find? entity rs).isSome then throw (.alreadyExists entity)
          set ((entity, principal) :: rs) : MemoryAction Unit).run.run records =
        (if (find? entity records).isSome then throw (.alreadyExists entity)
          else set ((entity, principal) :: records) : MemoryAction Unit).run.run records := rfl
    rw [this]
    dsimp only
    split <;> rfl

theorem find?_cons (entity : EntityId) (principal : Principal) (records : Records) :
    (fun e => find? e ((entity, principal) :: records)) =
      Function.update (fun e => find? e records) entity (some principal) := by
  funext other
  rw [Function.update_apply]
  split
  · next heq => simp [find?, heq]
  · next hne => simp [find?, Ne.symm hne]

theorem find?_filter_ne (records : Records) (entity : EntityId) :
    (fun e => find? e (records.filter fun r => r.1 ≠ entity)) =
      Function.update (fun e => find? e records) entity none := by
  funext other
  simp only [find?, List.find?_filter, Function.update_apply]
  split
  · next heq =>
    subst heq
    rw [List.find?_eq_none.2 (by simp), Option.map_none]
  · next hne =>
    congr 2
    funext r
    by_cases h : r.1 = other
    · simp [h, hne]
    · simp [h]

end DatasetCatalog.Owner.Memory
