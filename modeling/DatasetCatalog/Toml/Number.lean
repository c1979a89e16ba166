import DatasetCatalog.Text.Decimal
import DatasetCatalog.Toml.Scan

/-!
# Numbers

An integer is decimal with an optional sign, or hexadecimal, octal or binary without one, and fits
into 64 bits. A float is a decimal integer with a fraction, an exponent or both, or one of the words
`inf` and `nan`. Between two digits there may be an underscore. A decimal number has no needless
zero in front.

Floats are recognized and not computed, because nothing that is configured is a float; one that is
too large to be finite is refused all the same.
-/

namespace DatasetCatalog.Toml

/-- Reads digits on, with single underscores between them. -/
def digitsOn (isDigit : Char → Bool) : List Char → List Char × List Char
  | '_' :: c :: rest =>
    if isDigit c then
      let (ds, rest) := digitsOn isDigit rest
      (c :: ds, rest)
    else ([], '_' :: c :: rest)
  | c :: rest =>
    if isDigit c then
      let (ds, rest) := digitsOn isDigit rest
      (c :: ds, rest)
    else ([], c :: rest)
  | [] => ([], [])

/-- Reads digits, at least one. -/
def digitRun (isDigit : Char → Bool) : Scan (List Char)
  | c :: rest =>
    if isDigit c then
      let (ds, rest) := digitsOn isDigit rest
      some (c :: ds, rest)
    else none
  | [] => none

/-- Whether a character is a decimal digit. -/
def isDecimal (c : Char) : Bool := (Decimal.digitValue? c).isSome

/-- Takes a sign off. Whether it was a minus is the answer. -/
def sign : List Char → Bool × List Char
  | '-' :: rest => (true, rest)
  | '+' :: rest => (false, rest)
  | cs => (false, cs)

/-- Reads a decimal number without sign: a zero alone, or digits that do not start with one. -/
def wholeDigits : Scan (List Char)
  | '0' :: rest => some (['0'], rest)
  | cs => digitRun isDecimal cs

/-! ## Integers -/

/-- The smallest and the largest integer. -/
def least : Int := -(Nat.pow 2 63 : Nat)
def greatest : Int := (Nat.pow 2 63 - 1 : Nat)

/-- An integer, if it is in range. -/
def inRange? (n : Int) : Option Int := if least ≤ n ∧ n ≤ greatest then some n else none

/-- Whether a character is a digit to a base up to sixteen. -/
def isDigitOf (base : Nat) (c : Char) : Bool :=
  match Hex.digitValue? c with
  | some d => d < base
  | none => false

/-- The number that digits denote to a base. -/
def valueOf (base : Nat) (ds : List Char) : Nat :=
  ds.foldl (fun n c => n * base + (Hex.digitValue? c).getD 0) 0

/-- Reads the digits of an integer to a base. -/
def basedInteger (base : Nat) : Scan Int := fun cs => do
  let (ds, rest) ← digitRun (isDigitOf base) cs
  return (← inRange? (valueOf base ds), rest)

/-- Reads an integer with digits to the base ten. -/
def decimalInteger : Scan Int := fun cs => do
  let (negative, cs) := sign cs
  let (ds, rest) ← wholeDigits cs
  let n : Int := Decimal.value ds
  return (← inRange? (if negative then -n else n), rest)

/-- Reads an integer. -/
def readInteger : Scan Int
  | '0' :: 'x' :: rest => basedInteger 16 rest
  | '0' :: 'o' :: rest => basedInteger 8 rest
  | '0' :: 'b' :: rest => basedInteger 2 rest
  | cs => decimalInteger cs

/-! ## Floats -/

/-- Reads the digits of a fraction, if there is one. -/
def fraction? : Scan (List Char)
  | '.' :: rest => digitRun isDecimal rest
  | _ => none

/-- Reads an exponent, if there is one. -/
def exponent? : Scan Int
  | c :: rest =>
    if c = 'e' ∨ c = 'E' then do
      let (negative, rest) := sign rest
      let (ds, rest) ← digitRun isDecimal rest
      let n : Int := Decimal.value ds
      return (if negative then -n else n, rest)
    else none
  | [] => none

/-- Half way from the largest finite float to the power of two above it: what is smaller rounds to
a finite one. -/
def floatLimit : Nat := Nat.pow 2 1024 - Nat.pow 2 970

/-- Whether the number of some digits times a power of ten is too large to be finite. The count of
its digits before the point decides, unless it is that of the limit. -/
def isTooLarge (digits : List Char) (power : Int) : Bool :=
  let n := Decimal.value digits
  let places : Int := (Decimal.digits n).length + power
  if n = 0 ∨ places < 309 then false
  else if 309 < places then true
  else if 0 ≤ power then floatLimit ≤ n * Nat.pow 10 power.toNat
  else floatLimit * Nat.pow 10 (-power).toNat ≤ n

/-- Reads a float in digits. -/
def digitFloat (cs : List Char) : Option (List Char) := do
  let (negative, cs) := sign cs
  let (whole, rest) ← wholeDigits cs
  match fraction? rest with
  | some (part, rest) =>
    let (power, rest) := (exponent? rest).getD (0, rest)
    if !negative && isTooLarge (whole ++ part) (power - part.length) then none else some rest
  | none =>
    let (power, rest) ← exponent? rest
    if !negative && isTooLarge whole power then none else some rest

/-- Reads a float, and says only what follows it. -/
def readFloat (cs : List Char) : Option (List Char) :=
  let (_, unsigned) := sign cs
  (digitFloat cs).or
    ((expectWord ['i', 'n', 'f'] unsigned).or (expectWord ['n', 'a', 'n'] unsigned))

end DatasetCatalog.Toml
