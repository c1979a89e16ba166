import DatasetCatalog.Text.Decimal

/-!
# Media types

A media type is written as a type and a subtype, possibly with a suffix after a plus sign and with
parameters. Case does not matter. A body counts as JSON if the subtype or the suffix is `json`
below `application`; a header that is no media type counts as none.
-/

namespace DatasetCatalog.Http

/-- A media type, in lower case and without its parameters. -/
structure MediaType where
  type : List Char
  subtype : List Char
  suffix : Option (List Char)
  deriving DecidableEq, Repr

namespace MediaType

/-- Whether a character can stand in a name. -/
def isToken (c : Char) : Bool :=
  let n := c.toNat
  (48 ≤ n && n ≤ 57) || (65 ≤ n && n ≤ 90) || (97 ≤ n && n ≤ 122) ||
    "!#$%&'*+-.^_`|~".toList.contains c

/-- A character in lower case. -/
def lower (c : Char) : Char := if 65 ≤ c.toNat ∧ c.toNat ≤ 90 then Char.ofNat (c.toNat + 32) else c

/-- Where a reader of parameters stands. -/
inductive Place
  /-- Before a name; blanks may come first. -/
  | beforeName
  | inName
  /-- At the first character of a value. -/
  | beforeValue
  | inValue
  /-- In a quoted value, which must not be empty. -/
  | inQuotes (empty : Bool)
  | afterQuotes
  deriving DecidableEq, Repr

/-- Whether a character can stand between quotes; only ASCII can stand in a header. -/
def isQuotable (c : Char) : Bool := 32 ≤ c.toNat && c.toNat < 127 && c ≠ '"'

/-- Where a reader of parameters stands after one more character. -/
def Place.next : Place → Char → Option Place
  | .beforeName, c => if c = ' ' then some .beforeName else if isToken c then some .inName else none
  | .inName, c => if c = '=' then some .beforeValue else if isToken c then some .inName else none
  | .beforeValue, c =>
    if c = '"' then some (.inQuotes true) else if isToken c then some .inValue else none
  | .inValue, c => if c = ';' then some .beforeName else if isToken c then some .inValue else none
  | .inQuotes empty, c =>
    if c = '"' then (if empty then none else some .afterQuotes)
    else if isQuotable c then some (.inQuotes false)
    else none
  | .afterQuotes, c =>
    if c = ';' then some .beforeName else if c = ' ' then some .afterQuotes else none

/-- Whether parameters may end at a place. -/
def Place.isEnd : Place → Bool
  | .beforeName | .beforeValue | .inValue | .afterQuotes => true
  | .inName | .inQuotes _ => false

/-- Whether a text is a list of parameters. -/
def areParameters (cs : List Char) : Bool :=
  match cs.foldlM Place.next .beforeName with
  | some place => place.isEnd
  | none => false

/-- Takes the suffix off a subtype: what follows the last plus sign, unless that comes first. -/
def splitSuffix (cs : List Char) : List Char × Option (List Char) :=
  match cs with
  | [] => ([], none)
  | c :: rest =>
    let back := rest.reverse
    match back.dropWhile (· ≠ '+') with
    | [] => (c :: rest, none)
    | _ :: front => (c :: front.reverse, some (back.takeWhile (· ≠ '+')).reverse)

/-- The media type that a header names. -/
def parse? (header : String) : Option MediaType :=
  let cs := header.toList
  let type := cs.takeWhile isToken
  match type, cs.dropWhile isToken with
  | _ :: _, '/' :: rest =>
    let sub := rest.takeWhile isToken
    let parameters := rest.dropWhile isToken
    let wellFormed : Bool :=
      match parameters with
      | [] => true
      | c :: more => !sub.isEmpty && (c == ';' || c == ' ') && areParameters more
    if wellFormed then
      let (subtype, suffix) := splitSuffix (sub.map lower)
      some ⟨type.map lower, subtype, suffix⟩
    else none
  | _, _ => none

/-- Whether a body of this type is JSON. -/
def isJson (m : MediaType) : Bool :=
  m.type == "application".toList &&
    (m.subtype == "json".toList || m.suffix == some "json".toList)

end MediaType

end DatasetCatalog.Http
