import DatasetCatalog.Toml.Moment
import DatasetCatalog.Toml.Text
import DatasetCatalog.Toml.Value

/-!
# Statements

A text is a sequence of statements, one on a line: a header opens a table, or one more of several
tables under one name, and an assignment gives a value to a key of the table that is open. Only a
value can go on over lines, within an array or a string. Arrays and inline tables nest at most
`nestingLimit` deep, and a key has at most `keyLimit` parts.
-/

namespace DatasetCatalog.Toml

/-- How deep values may nest. -/
def nestingLimit : Nat := 79

/-- How many parts a key may have. -/
def keyLimit : Nat := 79

/-! ## Keys -/

/-- Whether a character can stand in a key without quotes. -/
def isBareKey (c : Char) : Bool :=
  let n := c.toNat
  (48 ≤ n && n ≤ 57) || (65 ≤ n && n ≤ 90) || (97 ≤ n && n ≤ 122) || c == '-' || c == '_'

/-- Reads one part of a key. -/
def keyPart (cs : List Char) : Option (String × List Char) :=
  match cs with
  | '"' :: _ | '\'' :: _ => readLineText cs
  | cs =>
    let bare := cs.takeWhile isBareKey
    if bare.isEmpty then none else some (String.ofList bare, cs.dropWhile isBareKey)

/-- Reads a key of at most so many parts, with the blanks around each. -/
def keyParts : (most : Nat) → Scan (List String)
  | 0, _ => none
  | most + 1, cs => do
    let (part, rest) ← keyPart (skipBlanks cs)
    match skipBlanks rest with
    | '.' :: rest =>
      let (parts, rest) ← keyParts most rest
      return (part :: parts, rest)
    | rest => return ([part], rest)

/-- Reads a key. -/
def readKey : Scan (List String) := keyParts keyLimit

/-! ## Values -/

/-- Reads the items of an array up to its closing bracket. A comma may follow the last one. -/
def arrayItems {α : Type} (item : Scan α) : (fuel : Nat) → Scan (List α)
  | 0, _ => none
  | fuel + 1, cs => do
    match ← skipLines false cs with
    | ']' :: rest => return ([], rest)
    | cs =>
      let (a, rest) ← item cs
      match ← skipLines false rest with
      | ',' :: rest =>
        let (as, rest) ← arrayItems item fuel rest
        return (a :: as, rest)
      | ']' :: rest => return ([a], rest)
      | _ => none

/-- Reads the assignment of a value to a key. -/
def assignment {α : Type} (value : Scan α) : Scan (List String × α) := fun cs => do
  let (key, rest) ← readKey cs
  let (a, rest) ← value (skipBlanks (← expect '=' rest))
  return ((key, a), rest)

/-- Reads the assignments of an inline table up to its closing brace. No comma follows the last
one. -/
def inlineItems {α : Type} (value : Scan α) : (fuel : Nat) → Scan (List (List String × α))
  | 0, _ => none
  | fuel + 1, cs => do
    let (a, rest) ← assignment value cs
    match skipBlanks rest with
    | ',' :: rest =>
      let (as, rest) ← inlineItems value fuel rest
      return (a :: as, rest)
    | '\x7d' :: rest => return ([a], rest)
    | _ => none

/-- The entries that assignments with keys of at least one part make. -/
def assignAll (made : Origin) (start : Entries) (assignments : List (List String × Value)) :
    Option Entries :=
  assignments.foldlM (fun es a =>
    match a.1.getLast? with
    | some key => es.assign made a.1.dropLast key a.2
    | none => none) start

/-- Reads an inline table on after its opening brace. -/
def inlineTable (value : Scan Value) : Scan Value := fun cs =>
  match skipBlanks cs with
  | '\x7d' :: rest => some (.table .inline [], rest)
  | cs => do
    let (assignments, rest) ← inlineItems value (cs.length + 1) cs
    return (.table .inline (← assignAll .inlineDotted [] assignments), rest)

/-- Reads a number or a moment. -/
def readNumber (cs : List Char) : Option (Value × List Char) :=
  match readMoment cs with
  | some rest => some (.moment, rest)
  | none =>
    match readFloat cs with
    | some rest => some (.float, rest)
    | none => (readInteger cs).map fun r => (.integer r.1, r.2)

/-- Reads a value with at most so many values around the innermost one. -/
def readNested : (levels : Nat) → Scan Value
  | levels, cs =>
    match cs with
    | '"' :: _ | '\'' :: _ => (readText cs).map fun r => (.string r.1, r.2)
    | 't' :: rest => (expectWord ['r', 'u', 'e'] rest).map fun rest => (.boolean true, rest)
    | 'f' :: rest => (expectWord ['a', 'l', 's', 'e'] rest).map fun rest => (.boolean false, rest)
    | '[' :: rest =>
      match levels with
      | 0 => none
      | levels + 1 =>
        (arrayItems (readNested levels) (rest.length + 1) rest).map fun r => (.array r.1, r.2)
    | '\x7b' :: rest =>
      match levels with
      | 0 => none
      | levels + 1 => inlineTable (readNested levels) rest
    | cs => readNumber cs

/-- Reads a value. -/
def readValue : Scan Value := readNested nestingLimit

/-! ## Lines -/

inductive Statement
  | assign (key : List String) (v : Value)
  | openTable (path : List String)
  | openElement (path : List String)

/-- Reads a header. -/
def header : Scan Statement
  | '[' :: '[' :: rest => do
    let (path, rest) ← readKey rest
    return (.openElement path, ← expect ']' (← expect ']' rest))
  | '[' :: rest => do
    let (path, rest) ← readKey rest
    return (.openTable path, ← expect ']' rest)
  | _ => none

/-- Reads a statement to the end of its line. -/
def statement : Scan Statement := fun cs => do
  let (s, rest) ←
    match cs with
    | '[' :: _ => header cs
    | _ => (assignment readValue cs).map fun r => (.assign r.1.1 r.1.2, r.2)
  return (s, ← lineEnd rest)

/-- Reads the statements of a text. -/
def statements : (fuel : Nat) → List Char → Option (List Statement)
  | 0, _ => none
  | fuel + 1, cs =>
    match skipBlanks cs with
    | [] => some []
    | '#' :: rest => do statements fuel (← lineEnd ('#' :: rest))
    | '\n' :: rest | '\r' :: '\n' :: rest => statements fuel rest
    | cs => do
      let (s, rest) ← statement cs
      return s :: (← statements fuel rest)

end DatasetCatalog.Toml
