import DatasetCatalog.Text.Decimal

/-!
# Durations

Time limits are kept to the nanosecond. `Duration.text` is how they appear in messages: in the
largest of the units s, ms, µs and ns of which there is at least one, with as many decimal places
as are needed and no more.
-/

namespace DatasetCatalog

/-- A length of time. -/
structure Duration where
  nanoseconds : Nat
  deriving DecidableEq, Repr

namespace Duration

def ofSeconds (n : Nat) : Duration := ⟨n * 1000000000⟩
def ofMilliseconds (n : Nat) : Duration := ⟨n * 1000000⟩
def ofMicroseconds (n : Nat) : Duration := ⟨n * 1000⟩

/-- The duration in whole milliseconds, rounded up. -/
def ceilMilliseconds (d : Duration) : Nat := (d.nanoseconds + 999999) / 1000000

/-- Drops zeros at the end. -/
def dropTrailingZeros (cs : List Char) : List Char :=
  (cs.reverse.dropWhile (· == '0')).reverse

/-- A number of units and the rest in `places` further decimal places. -/
def decimal (whole rest places : Nat) : List Char :=
  let fraction := dropTrailingZeros (Decimal.padded places rest)
  if fraction.isEmpty then Decimal.digits whole else Decimal.digits whole ++ ['.'] ++ fraction

/-- The duration in words: `90s`, `1.5ms`, `10µs`, `0ns`. -/
def text (d : Duration) : String :=
  let n := d.nanoseconds
  if 1000000000 ≤ n then String.ofList (decimal (n / 1000000000) (n % 1000000000) 9) ++ "s"
  else if 1000000 ≤ n then String.ofList (decimal (n / 1000000) (n % 1000000) 6) ++ "ms"
  else if 1000 ≤ n then String.ofList (decimal (n / 1000) (n % 1000) 3) ++ "µs"
  else Decimal.text n ++ "ns"

end Duration

end DatasetCatalog
