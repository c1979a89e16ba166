import DatasetCatalog.Registry.Memory

/-!
# Adding to the registry in memory

Adding an instance is refused if its name is taken, and stores it otherwise.
-/

namespace DatasetCatalog.Registry.Memory

theorem add_run (spec : Specification) (entries : StringMap Specification) :
    (add spec).run.run entries =
      if (StringMap.find? spec.name entries).isSome then
        (.error (.alreadyExists spec.name), entries)
      else (.ok (), StringMap.insert spec.name spec entries) := by
  have : (add spec).run.run entries =
      (if (StringMap.find? spec.name entries).isSome then throw (.alreadyExists spec.name)
        else set (StringMap.insert spec.name spec entries) :
          MemoryAction Unit).run.run entries := rfl
  rw [this]
  split <;> rfl

end DatasetCatalog.Registry.Memory
