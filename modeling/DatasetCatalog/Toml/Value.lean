/-!
# Values

A value is a string, an integer, a float, a boolean, a moment, an array or a table. The entries of
a table keep the order in which they were written. A table also keeps how it came to be, because
that decides whether it may be added to.

`Entries.assign`, `Entries.openTable` and `Entries.openElement` are the three ways to add to a
table. Each refuses what would say one thing twice.
-/

namespace DatasetCatalog.Toml

/-- How a table came to be. -/
inductive Origin
  /-- By a header of its own. -/
  | opened
  /-- By the header of a table within it. -/
  | implied
  /-- By a key with points. -/
  | dotted
  /-- Between braces. -/
  | inline
  /-- By a key with points between braces. -/
  | inlineDotted
  deriving DecidableEq, Repr

inductive Value
  | string (s : String)
  | integer (n : Int)
  | float
  | boolean (b : Bool)
  | moment
  | array (items : List Value)
  | table (origin : Origin) (entries : List (String × Value))
  /-- Tables under one name, one for each of its headers. -/
  | tables (items : List (List (String × Value)))

instance : Inhabited Value := ⟨.float⟩

/-- The entries of a table. -/
abbrev Entries := List (String × Value)

namespace Origin

/-- Whether a key with points may lead through such a table. -/
def isImplicit : Origin → Bool
  | implied | dotted | inlineDotted => true
  | opened | inline => false

/-- Whether a key with points made the table; then another one may add to it. -/
def isDotted : Origin → Bool
  | dotted | inlineDotted => true
  | opened | implied | inline => false

/-- Whether the table stands between braces. Headers cannot add to it. -/
def isInline : Origin → Bool
  | inline | inlineDotted => true
  | opened | implied | dotted => false

end Origin

namespace Entries

/-- The value of a key. -/
def value? (es : Entries) (key : String) : Option Value := List.lookup key es

/-- Adds an entry at the end. -/
def append (es : Entries) (key : String) (v : Value) : Entries := es ++ [(key, v)]

/-- Replaces the value of a key. -/
def replace (es : Entries) (key : String) (v : Value) : Entries :=
  es.map fun e => if e.1 = key then (key, v) else e

/-- Takes a key out. -/
def erase (es : Entries) (key : String) : Entries := es.filter fun e => e.1 ≠ key

/-- Changes the last of several tables. -/
def onLast (f : Entries → Option Entries) (items : List Entries) : Option (List Entries) :=
  match items.getLast? with
  | some last => (f last).map fun last => items.dropLast ++ [last]
  | none => none

/-- Assigns a value to the last part of a key with points, whose other parts are `path`. Tables on
the way are made, or are there only because of what is in them; the last one must have come by a key
with points. -/
def assign (made : Origin) : (path : List String) → String → Value → Entries → Option Entries
  | [], key, v, es => if (es.value? key).isSome then none else some (es.append key v)
  | k :: path, key, v, es =>
    match es.value? k with
    | none => (assign made path key v []).map fun inner => es.append k (.table made inner)
    | some (.table origin inner) =>
      if origin.isImplicit && (!path.isEmpty || origin.isDotted) then
        (assign made path key v inner).map fun inner => es.replace k (.table origin inner)
      else none
    | some (.tables items) =>
      if path.isEmpty then none
      else (onLast (assign made path key v) items).map fun items => es.replace k (.tables items)
    | some _ => none

/-- Changes the table that a header leads through, and makes it if it is missing. Of several tables
under one name the last one counts. -/
def within (k : String) (f : Entries → Option Entries) (es : Entries) : Option Entries :=
  match es.value? k with
  | none => (f []).map fun inner => es.append k (.table .implied inner)
  | some (.table origin inner) =>
    if origin.isInline then none else (f inner).map fun inner => es.replace k (.table origin inner)
  | some (.tables items) => (onLast f items).map fun items => es.replace k (.tables items)
  | some _ => none

/-- Changes the table at the end of a path of headers. -/
def atPath (f : Entries → Option Entries) : List String → Entries → Option Entries
  | [] => f
  | k :: path => within k (atPath f path)

/-- Opens a table of a name: a new one, or one that is there only because of what is in it. -/
def openTable (key : String) (es : Entries) : Option Entries :=
  match es.value? key with
  | none => some (es.append key (.table .opened []))
  | some (.table .implied inner) => some ((es.erase key).append key (.table .opened inner))
  | some _ => none

/-- Opens one more of the tables under a name. -/
def openElement (key : String) (es : Entries) : Option Entries :=
  match es.value? key with
  | none => some (es.append key (.tables [[]]))
  | some (.tables items) => some (es.replace key (.tables (items ++ [[]])))
  | some _ => none

end Entries

end DatasetCatalog.Toml
