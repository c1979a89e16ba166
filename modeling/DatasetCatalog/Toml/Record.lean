import DatasetCatalog.Toml.Value

/-!
# Records

A record is read from a table by the names of its fields; what a table has beside them is ignored.
It can also be read from an array, by their order. Fields that are not given keep the values of a
record that the reading starts from. A moment counts as a table with nothing that is looked for.

A choice between names is read from the name alone, or from a table whose entry has the name and
nothing in it.
-/

namespace DatasetCatalog.Toml

namespace Value

/-- The string that a value is. -/
def string? : Value → Option String
  | string s => some s
  | _ => none

/-- The natural number that a value is. -/
def natural? : Value → Option Nat
  | integer n => if 0 ≤ n then some n.toNat else none
  | _ => none

/-- The boolean that a value is. -/
def boolean? : Value → Option Bool
  | boolean b => some b
  | _ => none

/-- The strings that a value is an array of. -/
def strings? : Value → Option (List String)
  | array items => items.mapM string?
  | _ => none

/-- Whether a value is an array or a table with nothing in it. -/
def isEmpty : Value → Bool
  | array items => items.isEmpty
  | table _ entries => entries.isEmpty
  | tables items => items.isEmpty
  | _ => false

/-- What a choice between names comes to. -/
def choice? {α : Type} (known : List (String × α)) : Value → Option α
  | string s => known.lookup s
  | table origin ((k, v) :: rest) =>
    if v.isEmpty && (rest.isEmpty || !origin.isInline) then known.lookup k else none
  | _ => none

end Value

/-- A field of a record: its name, and how its value goes into the record. -/
structure Field (α : Type) where
  key : String
  set : Value → α → Option α

/-- A field whose value is read by `read`. -/
def Field.make {α β : Type} (key : String) (read : Value → Option β) (set : β → α → α) : Field α :=
  ⟨key, fun v a => (read v).map fun b => set b a⟩

variable {α : Type}

/-- Takes the entries of a table into a record. -/
def takeEntries (fields : List (Field α)) : Entries → α → Option α
  | [], a => some a
  | (k, v) :: rest, a =>
    match fields.find? fun f => f.key == k with
    | some f => (f.set v a).bind (takeEntries fields rest)
    | none => takeEntries fields rest a

/-- Takes the items of an array into a record. Items beyond the last field are ignored. -/
def takeItems : List (Field α) → List Value → α → Option α
  | f :: fields, v :: rest, a => (f.set v a).bind (takeItems fields rest)
  | _, _, a => some a

/-- Reads a record that differs from `start` by what a value says. -/
def readRecord (fields : List (Field α)) (start : α) : Value → Option α
  | .table _ entries => takeEntries fields entries start
  | .array items => takeItems fields items start
  | .tables items => takeItems fields (items.map (.table .opened)) start
  | .moment => some start
  | _ => none

end DatasetCatalog.Toml
