import DatasetCatalog.Json.Value
import DatasetCatalog.Text.Quoted

/-!
# What can be wrong with a JSON text

A text can end too early, break the grammar, or be grammatical and hold something else than what
is wanted. `Fault` has one constructor per cause; the three groups are the `Fault.Kind`s. `Fault.message`
is the wording, without the position in the text.

An `Error` is a fault together with the path of keys and positions that leads to the value at fault.
-/

namespace DatasetCatalog.Json

/-- The kind of value that stands where another one is wanted. -/
inductive Found
  | null
  | bool (b : Bool)
  | number (n : Number)
  | string (s : String)
  | array
  | object
  deriving DecidableEq, Repr

/-- The kind of value in words. -/
def Found.describe : Found → String
  | .null => "null"
  | .bool true => "boolean `true`"
  | .bool false => "boolean `false`"
  | .number (.natural n) => "integer `" ++ Decimal.text n ++ "`"
  | .number (.negative n) => "integer `-" ++ Decimal.text n ++ "`"
  | .number (.real x) => "floating point `" ++ String.ofList x.text ++ "`"
  | .string s => "string " ++ Quoted.quote s
  | .array => "sequence"
  | .object => "map"

inductive Fault
  /-- The text ends where a value has to come, or within a word or number. -/
  | endInValue
  | endInList
  | endInObject
  | endInString
  | expectedValue
  /-- A word starts like `null`, `true` or `false` and goes on differently. -/
  | expectedWord
  | expectedColon
  | expectedCommaOrBrace
  | expectedCommaOrBracket
  | trailingComma
  /-- Something follows the value, or more items follow than the record has fields. -/
  | trailingCharacters
  | keyNotString
  | invalidNumber
  | numberOutOfRange
  | invalidEscape
  /-- The bytes of a string are not text. -/
  | invalidCodePoint
  /-- An escape is one half of a pair, and the other half is none or comes first. -/
  | loneSurrogate
  /-- The first half of a pair is not followed by another escape. -/
  | unfinishedSurrogate
  | controlCharacter
  /-- Containers are nested more deeply than a reader follows. -/
  | tooDeep
  | wrongType (found : Found) (expected : String)
  | missingField (key : String)
  | duplicateField (key : String)
  | unknownVariant (name : String) (known : List String)
  | wrongLength (length : Nat) (expected : String)
  /-- A value fits none of the shapes that the type `name` allows. -/
  | noVariant (name : String)
  deriving DecidableEq, Repr

/-- The group of causes that a fault belongs to. -/
inductive Fault.Kind
  /-- The text ends too early. -/
  | ending
  /-- The text breaks the grammar. -/
  | grammar
  /-- The text is grammatical and does not describe the wanted value. -/
  | content
  deriving DecidableEq, Repr

namespace Fault

/-- The group of a fault. -/
def kind : Fault → Kind
  | endInValue | endInList | endInObject | endInString => .ending
  | wrongType .. | missingField _ | duplicateField _ | unknownVariant .. | wrongLength ..
  | noVariant _ => .content
  | _ => .grammar

/-- A choice between names: alone, joined by "or", or as a list. -/
def choice : List String → String
  | [] => "there are no variants"
  | [a] => "expected `" ++ a ++ "`"
  | [a, b] => "expected `" ++ a ++ "` or `" ++ b ++ "`"
  | names => "expected one of " ++ ", ".intercalate (names.map fun n => "`" ++ n ++ "`")

/-- The fault in words. -/
def message : Fault → String
  | endInValue => "EOF while parsing a value"
  | endInList => "EOF while parsing a list"
  | endInObject => "EOF while parsing an object"
  | endInString => "EOF while parsing a string"
  | expectedValue => "expected value"
  | expectedWord => "expected ident"
  | expectedColon => "expected `:`"
  | expectedCommaOrBrace => "expected `,` or `\x7d`"
  | expectedCommaOrBracket => "expected `,` or `]`"
  | trailingComma => "trailing comma"
  | trailingCharacters => "trailing characters"
  | keyNotString => "key must be a string"
  | invalidNumber => "invalid number"
  | numberOutOfRange => "number out of range"
  | invalidEscape => "invalid escape"
  | invalidCodePoint => "invalid unicode code point"
  | loneSurrogate => "lone leading surrogate in hex escape"
  | unfinishedSurrogate => "unexpected end of hex escape"
  | controlCharacter => "control character (\\u0000-\\u001F) found while parsing a string"
  | tooDeep => "recursion limit exceeded"
  | wrongType found expected => "invalid type: " ++ found.describe ++ ", expected " ++ expected
  | missingField key => "missing field `" ++ key ++ "`"
  | duplicateField key => "duplicate field `" ++ key ++ "`"
  | unknownVariant name known => "unknown variant `" ++ name ++ "`, " ++ choice known
  | wrongLength length expected =>
    "invalid length " ++ Decimal.text length ++ ", expected " ++ expected
  | noVariant name => "data did not match any variant of untagged enum " ++ name

end Fault

/-- A step from a container to one of its values. -/
inductive Step
  | key (name : String)
  | index (i : Nat)
  deriving DecidableEq, Repr

/-- A fault, and the way from the whole text to the value at fault. -/
structure Error where
  path : List Step
  fault : Fault
  deriving DecidableEq, Repr

namespace Error

/-- A fault at the value that is being read. -/
def here (fault : Fault) : Error := ⟨[], fault⟩

/-- The error seen from the container that holds the value at fault. -/
def within (step : Step) (e : Error) : Error := ⟨step :: e.path, e.fault⟩

/-- The steps of a path: keys with points between them, positions in brackets. -/
def pathTextFrom (first : Bool) : List Step → String
  | [] => ""
  | .key name :: rest => (if first then "" else ".") ++ name ++ pathTextFrom false rest
  | .index i :: rest => "[" ++ Decimal.text i ++ "]" ++ pathTextFrom false rest

/-- The error in words, with the path in front if there is one. -/
def locatedMessage (e : Error) : String :=
  match e.path with
  | [] => e.fault.message
  | path => pathTextFrom true path ++ ": " ++ e.fault.message

end Error

end DatasetCatalog.Json
