import DatasetCatalog.Text.Decimal
import DatasetCatalog.Text.Utf8

/-!
# The encodings of request targets

In a path any byte can be written as a percent sign and two hexadecimal digits. In a query, pairs
of names and values are joined by ampersands, a plus sign is a blank as well, and what is no text
is read with replacement characters.
-/

namespace DatasetCatalog.Http

/-- The byte of a percent sign. -/
def percent : UInt8 := 0x25

/-- The byte that two bytes after a percent sign denote. -/
def escaped? (hi lo : UInt8) : Option UInt8 :=
  Hex.byte? (Char.ofNat hi.toNat) (Char.ofNat lo.toNat)

/-- Replaces every percent sign with two hexadecimal digits by the byte that it denotes. Other
percent signs stand for themselves. -/
def percentDecode : List UInt8 → List UInt8
  | b :: hi :: lo :: rest =>
    if b = percent then
      match escaped? hi lo with
      | some x => x :: percentDecode rest
      | none => b :: percentDecode (hi :: lo :: rest)
    else b :: percentDecode (hi :: lo :: rest)
  | bs => bs

/-- The pieces between the separators in a sequence. -/
def splitOn {α : Type} [DecidableEq α] (separator : α) : List α → List (List α)
  | [] => [[]]
  | x :: xs =>
    if x = separator then [] :: splitOn separator xs
    else
      match splitOn separator xs with
      | [] => [[x]]
      | piece :: pieces => (x :: piece) :: pieces

/-- A sequence up to its first separator, and what follows the separator. -/
def cut {α : Type} [DecidableEq α] (separator : α) (xs : List α) : List α × List α :=
  (xs.takeWhile (· ≠ separator), (xs.dropWhile (· ≠ separator)).drop 1)

/-- A name or a value of a query. -/
def formText (bs : List UInt8) : String :=
  Utf8.decodeLossy (percentDecode (bs.map fun b => if b = 0x2B then 0x20 else b))

/-- The pairs of a query. A piece without an equals sign is a name with an empty value, and an empty
piece is nothing. -/
def formPairs (query : List Char) : List (String × String) :=
  let pieces := (splitOn 0x26 (Utf8.encodeChars query)).filter fun piece => piece ≠ []
  pieces.map fun piece =>
    let (name, value) := cut 0x3D piece
    (formText name, formText value)

end DatasetCatalog.Http
