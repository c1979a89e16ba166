import DatasetCatalog.Simulation.Fault

/-!
# Faults by name

A rehearsal names the operation that faults are planned for, and each fault by a word, some with a
text after a colon: `delay:20`, `panic:out of memory`. Stores and storage have different faults, and
a word that means nothing to its operation stands for nothing out of the ordinary.
-/

namespace DatasetCatalog.Simulation

/-- The targets by their names. -/
def targets : List (String × Target) := [
  ("instances.get", .findInstance), ("instances.get_all", .allInstances),
  ("instances.add", .addInstance), ("instances.delete", .removeInstance), ("types.get", .findType),
  ("owners.add", .addOwner), ("owners.get", .findOwner), ("owners.delete", .removeOwner)] ++
  ["create", "drop", "truncate", "upgrade", "exists"].map fun o => ("executor." ++ o, .storage o)

namespace Fault

/-- The fault of a store that a word names. -/
def ofStore : String → Fault
  | "fail" => fail
  | "none" => absent
  | "some" => present
  | "preempt" => preempt
  | "exists" => alreadyExists
  | "unsupported" => unsupported
  | "malformed" => malformed
  | _ => pass

/-- The fault of a storage operation that a word names, with the text after it. -/
def ofStorage (detail : String) : String → Fault
  | "delay" => delay (Decimal.value detail.toList)
  | "panic" => panic detail
  | "panic_str" => panic "static panic message"
  | "panic_any" => panic "non-string panic payload"
  | "execution" => execution detail
  | "already" => alreadyExists
  | "notfound" => notFound detail
  | "protocol" => protocol detail
  | "unknown_type" => unknownType detail
  | "io" => system detail
  | "misname" => misname
  | _ => pass

/-- The fault of a target that a text describes. -/
def ofText (target : Target) (text : String) : Fault :=
  match target with
  | .storage _ =>
    let word := text.toList.takeWhile (· ≠ ':')
    let detail := (text.toList.dropWhile (· ≠ ':')).drop 1
    ofStorage (String.ofList detail) (String.ofList word)
  | _ => ofStore text

end Fault

end DatasetCatalog.Simulation
