import DatasetCatalog.Number.Binary64
import DatasetCatalog.StringMap

/-!
# JSON values

Everything that the catalog stores, sends to a worker or answers over HTTP is a JSON value. Members
of an object keep the order in which they were written, because the printed form of a record shows
its fields in a fixed order; `Value.normalize` brings a value of unknown origin into the order of
its keys.
-/

namespace DatasetCatalog.Json

/-- A number as it was read: in 64 bits without or with a sign where that loses nothing, and as a
binary floating point number otherwise. -/
inductive Number
  /-- A number from zero on, below `2 ^ 64`. -/
  | natural (n : Nat)
  /-- The number `-n`, from `-2 ^ 63` to `-1`. -/
  | negative (n : Nat)
  | real (x : Binary64)
  deriving DecidableEq, Repr

inductive Value
  | null
  | bool (b : Bool)
  | number (n : Number)
  | string (s : String)
  | array (items : List Value)
  | object (members : List (String × Value))
  deriving Repr

instance : Inhabited Value := ⟨.null⟩

namespace Value

mutual

/-- The value with the members of every object in the order of their keys; of members with one key
the last counts. -/
def normalize : Value → Value
  | .array items => .array (normalizeItems items)
  | .object members => .object (normalizeMembers members [])
  | v => v

/-- `normalize` on each item. -/
def normalizeItems : List Value → List Value
  | [] => []
  | v :: rest => normalize v :: normalizeItems rest

/-- `normalize` on each member, collected into the ordered members `done`. -/
def normalizeMembers : List (String × Value) → StringMap Value → StringMap Value
  | [], done => done
  | (k, v) :: rest, done =>
    normalizeMembers rest (StringMap.insert k (normalize v) done)

end

/-- A text, or null where there is none. -/
def ofOption : Option String → Value
  | some s => .string s
  | none => .null

/-- A list of texts. -/
def ofStrings (ss : List String) : Value := .array (ss.map .string)

/-- A map of texts, in the order of its keys. -/
def ofStringMap (m : StringMap String) : Value := .object (m.map fun e => (e.1, .string e.2))

/-- A member that is left out where there is no value. -/
def optionalMember (key : String) : Option String → List (String × Value)
  | some s => [(key, .string s)]
  | none => []

mutual

/-- How many containers are nested in a value at most, the value itself included. -/
def depth : Value → Nat
  | .array items => depthItems items + 1
  | .object members => depthMembers members + 1
  | _ => 0

/-- The greatest depth of an item. -/
def depthItems : List Value → Nat
  | [] => 0
  | v :: rest => Nat.max (depth v) (depthItems rest)

/-- The greatest depth of a member. -/
def depthMembers : List (String × Value) → Nat
  | [] => 0
  | (_, v) :: rest => Nat.max (depth v) (depthMembers rest)

end

end Value

end DatasetCatalog.Json
