import DatasetCatalog.Json.Value

/-!
# Writing JSON

Values are written in two layouts. The compact one, without any blank, travels between processes
and over HTTP. The indented one, two spaces per level and one item per line, is what the stores
keep on disk; an empty container stays on one line in it.

Strings are written with as few escapes as the grammar allows: the quote, the backslash and the
control characters. Everything else stands for itself.
-/

namespace DatasetCatalog.Json

/-- A character within a string. -/
def escapeChar (c : Char) : List Char :=
  if c = '"' then ['\\', '"']
  else if c = '\\' then ['\\', '\\']
  else if c.toNat = 8 then ['\\', 'b']
  else if c.toNat = 12 then ['\\', 'f']
  else if c = '\n' then ['\\', 'n']
  else if c = '\r' then ['\\', 'r']
  else if c = '\t' then ['\\', 't']
  else if c.toNat < 32 then ['\\', 'u'] ++ Hex.fixed 4 c.toNat
  else [c]

/-- A string between its quotes. -/
def renderString (s : String) : List Char := '"' :: (s.toList.flatMap escapeChar ++ ['"'])

/-- The text of a number. -/
def Number.render : Number → List Char
  | .natural n => Decimal.digits n
  | .negative n => '-' :: Decimal.digits n
  | .real x => x.text

namespace Value

/-- The text of a value that holds no other values. -/
def renderScalar : Value → List Char
  | .null => "null".toList
  | .bool true => "true".toList
  | .bool false => "false".toList
  | .number n => n.render
  | .string s => renderString s
  | .array _ | .object _ => []

/-! ## The compact layout -/

mutual

/-- The compact text of a value. -/
def compactChars : Value → List Char
  | .array items => '[' :: (compactItems items ++ [']'])
  | .object members => '\x7b' :: (compactMembers members ++ ['\x7d'])
  | v => renderScalar v

/-- Items with commas between them. -/
def compactItems : List Value → List Char
  | [] => []
  | [v] => compactChars v
  | v :: rest => compactChars v ++ ',' :: compactItems rest

/-- Members with commas between them. -/
def compactMembers : List (String × Value) → List Char
  | [] => []
  | [(k, v)] => renderString k ++ ':' :: compactChars v
  | (k, v) :: rest => renderString k ++ ':' :: (compactChars v ++ ',' :: compactMembers rest)

end

/-- The compact text of a value. -/
def compact (v : Value) : String := String.ofList (compactChars v)

/-! ## The indented layout -/

/-- A new line at an indentation level. -/
def newLine (level : Nat) : List Char := '\n' :: List.replicate (2 * level) ' '

mutual

/-- The indented text of a value whose first line starts at `level`. -/
def indentedChars (level : Nat) : Value → List Char
  | .array [] => "[]".toList
  | .array (v :: rest) =>
    '[' :: (indentedItems (level + 1) (v :: rest) ++ newLine level ++ [']'])
  | .object [] => ['\x7b', '\x7d']
  | .object (m :: rest) =>
    '\x7b' :: (indentedMembers (level + 1) (m :: rest) ++ newLine level ++ ['\x7d'])
  | v => renderScalar v

/-- Items on lines of their own. -/
def indentedItems (level : Nat) : List Value → List Char
  | [] => []
  | [v] => newLine level ++ indentedChars level v
  | v :: rest => newLine level ++ indentedChars level v ++ ',' :: indentedItems level rest

/-- Members on lines of their own. -/
def indentedMembers (level : Nat) : List (String × Value) → List Char
  | [] => []
  | [(k, v)] => newLine level ++ renderString k ++ ':' :: ' ' :: indentedChars level v
  | (k, v) :: rest =>
    newLine level ++ renderString k ++ ':' :: ' ' ::
      (indentedChars level v ++ ',' :: indentedMembers level rest)

end

/-- The indented text of a value. -/
def indented (v : Value) : String := String.ofList (indentedChars 0 v)

end Value

end DatasetCatalog.Json
