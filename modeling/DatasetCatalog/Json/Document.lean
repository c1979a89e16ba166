import DatasetCatalog.Json.Fault
import DatasetCatalog.Text.Utf8

/-!
# JSON documents

A document is what the text of a value looks like before anything is asked of it: the tree of its
parts, with every fault kept at the place where it stands. Keeping the faults matters because the
first one in reading order decides the answer, and a value of the wrong kind early in a text is met
before a missing brace at its end.

A reader meets parts in one of two ways. A part whose value is wanted is *read*. A part that nobody
asked for is only *skipped*: the text of its strings and the range of its numbers are then not
looked at, and containers may nest to any depth. So a string or number can be faulty for a reader
and yet be skipped without notice.

`Doc.ofValue` is the document of a value without faults.
-/

namespace DatasetCatalog.Json

/-- How the text of a container goes on after its last part. -/
inductive Ending
  /-- The closing bracket follows. -/
  | closed
  /-- Something else than a comma or the closing bracket follows. -/
  | unseparated
  /-- The text ends. -/
  | ended
  /-- A comma follows, and then the closing bracket. -/
  | commaThenClose
  /-- A comma follows, and then the text ends. -/
  | commaThenEnd
  deriving DecidableEq, Repr

/-- The parts of a text. Strings and numbers hold what reading them gives, and the fault that even
skipping them meets. -/
inductive Doc
  | null
  | bool (b : Bool)
  | number (read : Except Fault Number) (skip : Option Fault)
  | string (read : Except Fault String) (skip : Option Fault)
  | array (items : List Doc) (ending : Ending)
  /-- Keys are documents, because what stands in the place of a key can be anything. -/
  | object (members : List (Doc × Doc)) (ending : Ending)
  /-- Something that starts no value, or a word that breaks off. -/
  | broken (fault : Fault)
  /-- The end of the text. -/
  | missing

namespace Ending

/-- The fault of a list whose items are read, if it is not closed. -/
def listFault : Ending → Option Fault
  | closed => none
  | unseparated => some .expectedCommaOrBracket
  | ended => some .endInList
  | commaThenClose => some .trailingComma
  | commaThenEnd => some .endInValue

/-- The fault of a list that is skipped. -/
def skippedListFault : Ending → Option Fault
  | closed => none
  | unseparated => some .expectedCommaOrBracket
  | ended => some .endInList
  | commaThenClose => some .expectedValue
  | commaThenEnd => some .endInValue

/-- The fault of a list in which a record has found all its fields. -/
def recordFault : Ending → Option Fault
  | closed => none
  | ended => some .endInList
  | commaThenClose => some .trailingComma
  | unseparated | commaThenEnd => some .trailingCharacters

/-- The fault of an object whose members are read. -/
def objectFault : Ending → Option Fault
  | closed => none
  | unseparated => some .expectedCommaOrBrace
  | ended => some .endInObject
  | commaThenClose => some .trailingComma
  | commaThenEnd => some .endInValue

/-- The fault of an object that is skipped. -/
def skippedObjectFault : Ending → Option Fault
  | closed => none
  | unseparated => some .expectedCommaOrBrace
  | ended => some .endInObject
  | commaThenClose => some .keyNotString
  | commaThenEnd => some .endInObject

end Ending

namespace Doc

mutual

/-- The document of a value without faults. -/
def ofValue : Value → Doc
  | .null => .null
  | .bool b => .bool b
  | .number n => .number (.ok n) none
  | .string s => .string (.ok s) none
  | .array items => .array (ofItems items) .closed
  | .object members => .object (ofMembers members) .closed

/-- `ofValue` on each item. -/
def ofItems : List Value → List Doc
  | [] => []
  | v :: rest => ofValue v :: ofItems rest

/-- `ofValue` on each key and member. -/
def ofMembers : List (String × Value) → List (Doc × Doc)
  | [] => []
  | (k, v) :: rest => (.string (.ok k) none, ofValue v) :: ofMembers rest

end

/-- The key of a member. -/
def key : Doc → Except Fault String
  | .string read _ => read
  | _ => .error .keyNotString

/-- The fault of a document that stands where `expected` is wanted and is none: its own fault, or
its being of another kind. -/
def mismatch (expected : String) : Doc → Fault
  | .null => .wrongType .null expected
  | .bool b => .wrongType (.bool b) expected
  | .number (.ok n) _ => .wrongType (.number n) expected
  | .number (.error f) _ => f
  | .string (.ok s) _ => .wrongType (.string s) expected
  | .string (.error f) _ => f
  | .array _ _ => .wrongType .array expected
  | .object _ _ => .wrongType .object expected
  | .broken f => f
  | .missing => .endInValue

mutual

/-- Passes over a document that nobody asked for. -/
def skip : Doc → Except Fault Unit
  | .null | .bool _ => .ok ()
  | .number _ s | .string _ s => s.elim (.ok ()) .error
  | .array items ending => do
    skipItems items
    ending.skippedListFault.elim (.ok ()) .error
  | .object members ending => do
    skipMembers members
    ending.skippedObjectFault.elim (.ok ()) .error
  | .broken f => .error f
  | .missing => .error .endInValue

/-- `skip` on each item in turn. -/
def skipItems : List Doc → Except Fault Unit
  | [] => .ok ()
  | d :: rest => do
    skip d
    skipItems rest

/-- `skip` on each key and member in turn. -/
def skipMembers : List (Doc × Doc) → Except Fault Unit
  | [] => .ok ()
  | (k, d) :: rest => do
    match k with
    | .string _ s => s.elim (.ok ()) .error
    | _ => .error .keyNotString
    skip d
    skipMembers rest

end

mutual

/-- The value of a document in which at most `depth` containers may nest. -/
def value (depth : Nat) : Doc → Except Fault Value
  | .null => .ok .null
  | .bool b => .ok (.bool b)
  | .number read _ => read.map .number
  | .string read _ => read.map .string
  | .array items ending =>
    match depth with
    | 0 => .error .tooDeep
    | depth + 1 => do
      let vs ← values depth items
      ending.listFault.elim (.ok (.array vs)) .error
  | .object members ending =>
    match depth with
    | 0 => .error .tooDeep
    | depth + 1 => do
      let ms ← memberValues depth members
      ending.objectFault.elim (.ok (.object ms)) .error
  | .broken f => .error f
  | .missing => .error .endInValue

/-- The values of items in turn. -/
def values (depth : Nat) : List Doc → Except Fault (List Value)
  | [] => .ok []
  | d :: rest => do
    let v ← value depth d
    let vs ← values depth rest
    return v :: vs

/-- The keys and values of members in turn. -/
def memberValues (depth : Nat) : List (Doc × Doc) → Except Fault (List (String × Value))
  | [] => .ok []
  | (k, d) :: rest => do
    let name ← key k
    let v ← value depth d
    let vs ← memberValues depth rest
    return (name, v) :: vs

end

end Doc

end DatasetCatalog.Json
