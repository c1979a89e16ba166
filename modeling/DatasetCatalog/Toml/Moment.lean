import DatasetCatalog.Toml.Number

/-!
# Moments

A moment is a date, a time of day, or both, and with both perhaps the distance to universal time.
Nothing that is configured is one, so moments are recognized and not kept; a date that the calendar
does not have is refused all the same.
-/

namespace DatasetCatalog.Toml

/-- Reads a number of exactly so many digits within bounds. -/
def fixedNumber (width low high : Nat) : Scan Nat := fun cs =>
  let ds := cs.take width
  let n := Decimal.value ds
  if ds.length = width ∧ ds.all isDecimal ∧ low ≤ n ∧ n ≤ high then some (n, cs.drop width)
  else none

/-- Whether a year has a leap day. -/
def isLeapYear (year : Nat) : Bool := year % 4 = 0 && (year % 100 ≠ 0 || year % 400 = 0)

/-- How many days a month has. -/
def daysIn (year month : Nat) : Nat :=
  if month = 2 then (if isLeapYear year then 29 else 28)
  else if [4, 6, 9, 11].contains month then 30
  else 31

/-- Reads a date. -/
def date (cs : List Char) : Option (List Char) := do
  let (year, cs) ← fixedNumber 4 0 9999 cs
  let (month, cs) ← fixedNumber 2 1 12 (← expect '-' cs)
  let (_, cs) ← fixedNumber 2 1 (daysIn year month) (← expect '-' cs)
  return cs

/-- Drops the fraction of a second, if there is one. -/
def skipFraction (cs : List Char) : List Char :=
  match cs with
  | '.' :: c :: rest => if isDecimal c then rest.dropWhile isDecimal else cs
  | _ => cs

/-- Reads a time of day. A minute can have a leap second. -/
def timeOfDay (cs : List Char) : Option (List Char) := do
  let (_, cs) ← fixedNumber 2 0 23 cs
  let (_, cs) ← fixedNumber 2 0 59 (← expect ':' cs)
  let (_, cs) ← fixedNumber 2 0 60 (← expect ':' cs)
  return skipFraction cs

/-- Reads a distance to universal time. -/
def offset : List Char → Option (List Char)
  | 'Z' :: rest | 'z' :: rest => some rest
  | '+' :: rest | '-' :: rest => do
    let (_, cs) ← fixedNumber 2 0 23 rest
    let (_, cs) ← fixedNumber 2 0 59 (← expect ':' cs)
    return cs
  | _ => none

/-- Reads what may follow a date: a time of day and perhaps an offset. -/
def timeAfterDate : List Char → Option (List Char)
  | c :: rest =>
    if c = 'T' ∨ c = 't' ∨ c = ' ' then (timeOfDay rest).map fun cs => (offset cs).getD cs
    else none
  | [] => none

/-- Reads a moment, and says only what follows it. -/
def readMoment (cs : List Char) : Option (List Char) :=
  match date cs with
  | some rest => some ((timeAfterDate rest).getD rest)
  | none => timeOfDay cs

end DatasetCatalog.Toml
