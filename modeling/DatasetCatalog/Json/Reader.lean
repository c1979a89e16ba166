import DatasetCatalog.Json.Parser

/-!
# Reading typed values from documents

A `Reader α` turns a document into an `α` or says what is wrong with it. Readers follow the text
from left to right and stop at the first fault they meet, so the order in which a reader looks at
the parts is part of its meaning.

* Texts, flags, lists and maps have the readers one expects; a key that occurs twice in a map keeps
  the last value.
* `Record` describes a record by its fields. It is read from an object, in any order of the keys
  and with unknown keys skipped, or from a list of its fields in order.
* `Tagged` describes a choice between records that one member, or the first item of a list, names.
  The rest of the text is taken in whole before the chosen record is read from it.
* `Reader.either` is a choice that nothing names: the first shape that fits is read.

A reader follows nested containers only to the depth that its `Stage` allows.
-/

namespace DatasetCatalog.Json

/-- How a document is being read. -/
structure Stage where
  /-- How many containers may still nest. -/
  depth : Nat
  /-- The document was taken in whole before. -/
  buffered : Bool

/-- A way to read a value from a document. -/
abbrev Reader (α : Type) := Stage → Doc → Except Error α

/-- The containers that may nest in a text. -/
def depthLimit : Nat := 127

/-- Reads a value from a text and checks that nothing follows it. -/
def decode {α : Type} (r : Reader α) (bytes : List UInt8) : Except Error α :=
  let text := parse bytes
  match r ⟨depthLimit, false⟩ text.doc with
  | .error e => .error e
  | .ok a => if text.trailing then .error (.here .trailingCharacters) else .ok a

namespace Reader

variable {α β : Type}

/-- Fails at the value that is being read. -/
def fail (f : Fault) : Except Error α := .error (.here f)

/-- Turns a result without a path into one at the value that is being read. -/
def lift (x : Except Fault α) : Except Error α := x.mapError .here

/-- Fails if there is a fault. -/
def check : Option Fault → Except Error Unit
  | none => .ok ()
  | some f => fail f

/-- The result of reading the part of a container that `step` leads to. -/
def inside (step : Step) (x : Except Error α) : Except Error α := x.mapError (Error.within step)

/-- Applies a function to what is read. -/
def map (f : α → β) (r : Reader α) : Reader β := fun s d => (r s d).map f

/-- A text. -/
def string : Reader String
  | _, .string (.ok s) _ => .ok s
  | _, d => fail (d.mismatch "a string")

/-- A flag. -/
def bool : Reader Bool
  | _, .bool b => .ok b
  | _, d => fail (d.mismatch "a boolean")

/-- A value or null. -/
def optional (r : Reader α) : Reader (Option α)
  | _, .null => .ok none
  | s, d => (r s d).map some

/-- Any value, with its objects in the order of their keys. -/
def value : Reader Value := fun s d => lift ((d.value s.depth).map Value.normalize)

/-- Enters a container, if the stage allows one more. -/
def enter (s : Stage) (next : Stage → Except Error α) : Except Error α :=
  match s.depth with
  | 0 => fail .tooDeep
  | depth + 1 => next ⟨depth, s.buffered⟩

/-- Reads items in turn, of which the first has position `i`. -/
def itemsFrom (r : Reader α) (s : Stage) : Nat → List Doc → Except Error (List α)
  | _, [] => .ok []
  | i, d :: rest => do
    let a ← inside (.index i) (r s d)
    let as ← itemsFrom r s (i + 1) rest
    return a :: as

/-- A list of values. -/
def list (r : Reader α) : Reader (List α)
  | s, .array items ending => enter s fun s => do
    let as ← itemsFrom r s 0 items
    check ending.listFault
    return as
  | _, d => fail (d.mismatch "a sequence")

/-- Reads members in turn into a map. -/
def membersInto (r : Reader α) (s : Stage) :
    StringMap α → List (Doc × Doc) → Except Error (StringMap α)
  | m, [] => .ok m
  | m, (k, d) :: rest => do
    let key ← lift k.key
    let a ← inside (.key key) (r s d)
    membersInto r s (StringMap.insert key a m) rest

/-- A map from texts to values. -/
def stringMap (r : Reader α) : Reader (StringMap α)
  | s, .object members ending => enter s fun s => do
    let m ← membersInto r s StringMap.empty members
    check ending.objectFault
    return m
  | _, d => fail (d.mismatch "a map")

end Reader

/-! ## Records -/

/-- When a field may be missing. -/
inductive Presence
  /-- Never. -/
  | required
  /-- In an object; a list of fields has to spell it out. -/
  | nullable
  /-- In an object, and at the end of a list of fields. -/
  | defaulted
  deriving DecidableEq, Repr

/-- A field of a record: its key, how its value is read into the record, and when it may be
missing. -/
structure Field (α : Type) where
  key : String
  presence : Presence
  read : Reader (α → α)

/-- A field whose value is stored by `set`. -/
def Field.make {α β : Type} (key : String) (presence : Presence) (r : Reader β) (set : β → α → α) :
    Field α :=
  ⟨key, presence, Reader.map set r⟩

/-- A record: its name in messages, its fields in order, and the record before any field is read. -/
structure Record (α : Type) where
  name : String
  fields : List (Field α)
  blank : α

namespace Record

variable {α : Type}

/-- The words for a number of fields. -/
def countText (n : Nat) : String :=
  if n = 1 then "1 element" else Decimal.text n ++ " elements"

/-- What is expected of a list of the fields. -/
def lengthText (r : Record α) : String := r.name ++ " with " ++ countText r.fields.length

/-- Reads the members of an object in turn; `seen` holds the keys of the fields read so far. -/
def readMembers (r : Record α) (s : Stage) :
    List String → α → List (Doc × Doc) → Except Error (List String × α)
  | seen, a, [] => .ok (seen, a)
  | seen, a, (k, d) :: rest => do
    let key ← Reader.lift k.key
    match r.fields.find? (fun f => f.key == key) with
    | some f =>
      if seen.contains key then Reader.fail (.duplicateField key)
      else
        let set ← Reader.inside (.key key) (f.read s d)
        readMembers r s (key :: seen) (set a) rest
    | none =>
      Reader.inside (.key key) (Reader.lift d.skip)
      readMembers r s seen a rest

/-- The first required field that was not read. -/
def missing? (r : Record α) (seen : List String) : Option String :=
  (r.fields.find? fun f => f.presence == .required && !seen.contains f.key).map (·.key)

/-- Reads the fields in order from the items of a list, of which the first has position `i`. A list
that breaks off where a field has to follow has the fault of its ending. -/
def readItems (r : Record α) (s : Stage) (ending : Ending) :
    (i : Nat) → List (Field α) → α → List Doc → Except Error (α × List Doc)
  | _, [], a, items => .ok (a, items)
  | i, f :: fields, a, [] => do
    Reader.check ending.listFault
    if f.presence = .defaulted then readItems r s ending (i + 1) fields a []
    else Reader.fail (.wrongLength i r.lengthText)
  | i, f :: fields, a, d :: items => do
    let set ← Reader.inside (.index i) (f.read s d)
    readItems r s ending (i + 1) fields (set a) items

/-- Checks that a list of fields ends where the fields end. -/
def checkRest (r : Record α) (s : Stage) (rest : List Doc) (ending : Ending) :
    Except Error Unit :=
  if s.buffered then
    if rest.isEmpty then .ok ()
    else
      let n := r.fields.length
      Reader.fail (.wrongLength (n + rest.length) (countText n ++ " in sequence"))
  else if rest.isEmpty then Reader.check ending.recordFault
  else Reader.fail .trailingCharacters

/-- Reads the record from an object's members. -/
def ofMembers (r : Record α) (s : Stage) (members : List (Doc × Doc)) (ending : Ending) :
    Except Error α := do
  let (seen, a) ← r.readMembers s [] r.blank members
  Reader.check ending.objectFault
  match r.missing? seen with
  | some key => Reader.fail (.missingField key)
  | none => .ok a

/-- Reads the record from a list of its fields. -/
def ofItems (r : Record α) (s : Stage) (items : List Doc) (ending : Ending) : Except Error α := do
  let (a, rest) ← r.readItems s ending 0 r.fields r.blank items
  r.checkRest s rest ending
  return a

/-- Reads the record. -/
def reader (r : Record α) : Reader α
  | s, .object members ending => Reader.enter s fun s => r.ofMembers s members ending
  | s, .array items ending => Reader.enter s fun s => r.ofItems s items ending
  | _, d => Reader.fail (d.mismatch r.name)

end Record

/-! ## Names from a fixed list -/

/-- A name from a list of names that stand for values. It is also read from an object with that
name as its only key and null as its value. -/
def Reader.name {α : Type} (known : List (String × α)) : Reader α :=
  let find (name : String) : Except Error α :=
    match StringMap.find? name known with
    | some a => .ok a
    | none => Reader.fail (.unknownVariant name (known.map Prod.fst))
  fun s d =>
    match d with
    | .string (.ok name) _ => find name
    | .string (.error f) _ => Reader.fail f
    | .broken .expectedColon => Reader.fail .expectedColon
    | .broken .endInObject => Reader.fail .endInObject
    | .missing => Reader.fail .endInValue
    | .object members ending => Reader.enter s fun _ =>
      match members with
      | [] => Reader.fail (if ending = .ended then .endInValue else .expectedValue)
      | (.string (.ok name) _, v) :: rest => do
        let a ← find name
        match v with
        | .null => .ok ()
        | v => Reader.fail (v.mismatch "unit")
        match rest, ending with
        | [], .closed => return a
        | [], .ended => Reader.fail .endInObject
        | _, _ => Reader.fail .expectedValue
      | (k, _) :: _ => Reader.fail (k.mismatch "variant identifier")
    | _ => Reader.fail .expectedValue

/-! ## Choices -/

/-- A choice between records that a member named `tag` decides. -/
structure Tagged (α : Type) where
  /-- The name of the choice in messages. -/
  name : String
  tag : String
  /-- How each record is read, by the name that chooses it. -/
  variants : List (String × Reader α)

namespace Tagged

variable {α : Type}

/-- The way to read the record that a document chooses. -/
def choose (t : Tagged α) : Doc → Except Error (Reader α)
  | .string (.ok name) _ =>
    match StringMap.find? name t.variants with
    | some r => .ok r
    | none => Reader.fail (.unknownVariant name (t.variants.map Prod.fst))
  | d => Reader.fail (d.mismatch "variant identifier")

/-- Takes in the members of an object in turn; the one that chooses is read at once. -/
def takeMembers (t : Tagged α) (depth : Nat) :
    Option (Reader α) → List (Doc × Doc) →
      Except Error (Option (Reader α) × List (String × Value))
  | chosen, [] => .ok (chosen, [])
  | chosen, (k, d) :: rest => do
    let key ← Reader.lift k.key
    if key = t.tag then
      if chosen.isSome then Reader.fail (.duplicateField t.tag)
      let r ← Reader.inside (.key key) (t.choose d)
      takeMembers t depth (some r) rest
    else
      let v ← Reader.inside (.key key) (Reader.lift (d.value depth))
      let (chosen, vs) ← takeMembers t depth chosen rest
      return (chosen, (key, v) :: vs)

/-- Reads the chosen record from the rest of the text. A record without fields takes anything from
an object. -/
def readChosen (r : Reader α) (s : Stage) (d : Doc) : Except Error α := r ⟨s.depth + 1, true⟩ d

/-- Reads the choice. -/
def reader (t : Tagged α) : Reader α
  | s, .object members ending => Reader.enter s fun s => do
    let (chosen, vs) ← t.takeMembers s.depth none members
    Reader.check ending.objectFault
    match chosen with
    | none => Reader.fail (.missingField t.tag)
    | some r => readChosen r s (Doc.ofValue (.object vs))
  | s, .array items ending => Reader.enter s fun s => do
    match items with
    | [] =>
      Reader.check ending.listFault
      Reader.fail (.missingField t.tag)
    | d :: rest =>
      let r ← Reader.inside (.index 0) (t.choose d)
      let vs ← Reader.lift (Doc.values s.depth rest)
      Reader.check ending.listFault
      readChosen r s (Doc.ofValue (.array vs))
  | _, d => Reader.fail (d.mismatch t.name)

end Tagged

/-- The first of two shapes that a document fits, once all of it was taken in. -/
def Reader.either {α : Type} (name : String) (first second : Reader α) : Reader α := fun s d => do
  let v ← Reader.lift (d.value s.depth)
  match first ⟨s.depth, true⟩ (Doc.ofValue v) with
  | .ok a => return a
  | .error _ =>
    match second ⟨s.depth, true⟩ (Doc.ofValue v) with
    | .ok a => return a
    | .error _ => Reader.fail (.noVariant name)

end DatasetCatalog.Json
