import DatasetCatalog.Text.Decimal
import DatasetCatalog.Text.Casing
import DatasetCatalog.Text.Visible.Table

/-!
# Quoted text in messages

A message that names a piece of foreign text puts it between quotes in a form that fits on one
line: quotes and backslashes are escaped, the common control characters have short forms, and
every other character without a visible form of its own appears as its number.
-/

namespace DatasetCatalog.Quoted

/-- Whether a character is shown by its number. -/
def isHidden (c : Char) : Bool :=
  let n := c.toNat
  if 32 ≤ n && n < 127 then false else Casing.inRanges Visible.hiddenRanges n

/-- A character within quotes. -/
def showChar (c : Char) : List Char :=
  if c = '"' then ['\\', '"']
  else if c = '\\' then ['\\', '\\']
  else if c = '\n' then ['\\', 'n']
  else if c = '\r' then ['\\', 'r']
  else if c = '\t' then ['\\', 't']
  else if c.toNat = 0 then ['\\', '0']
  else if isHidden c then ['\\', 'u', '\x7b'] ++ Hex.digits c.toNat ++ ['\x7d']
  else [c]

/-- A text between quotes. -/
def quote (s : String) : String :=
  String.ofList (['"'] ++ s.toList.flatMap showChar ++ ['"'])

end DatasetCatalog.Quoted
