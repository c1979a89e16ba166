import DatasetCatalog.Text.Decimal

/-!
# Binary floating point numbers in exact arithmetic

A JSON number with a fraction or an exponent stands for a binary floating point number of 64 bits.
All arithmetic here is on natural numbers, so every step is exact up to the one rounding that it
names:

* `Binary64.ofRatio` — the number nearest to a ratio, ties to the even significand;
* `mul`, `div` — the rounded product and quotient; and
* `Binary64.text` — the shortest decimal that reads back as the number.

The sign is kept apart from the magnitude, so there are two zeros.
-/

namespace DatasetCatalog

/-- The number `significand * 2 ^ exponent`, negative if `negative`. The significand is below
`2 ^ 53`, and not below `2 ^ 52` unless the exponent is the least one. -/
structure Binary64 where
  negative : Bool
  significand : Nat
  exponent : Int
  deriving DecidableEq, Repr

namespace Binary64

/-- The least exponent of a number. -/
def leastExponent : Int := -1074

/-- The greatest exponent of a number. -/
def greatestExponent : Int := 971

/-- The two zeros. -/
def zero (negative : Bool) : Binary64 := ⟨negative, 0, leastExponent⟩

/-- `2 ^ e` as a ratio. -/
def twoPow (e : Int) : Nat × Nat :=
  if 0 ≤ e then (Nat.pow 2 e.toNat, 1) else (1, Nat.pow 2 (-e).toNat)

/-- `10 ^ e` as a ratio. -/
def tenPow (e : Int) : Nat × Nat :=
  if 0 ≤ e then (Nat.pow 10 e.toNat, 1) else (1, Nat.pow 10 (-e).toNat)

/-- The quotient of two numbers, rounded to the nearest one; a tie goes to the even neighbour. -/
def roundDiv (num den : Nat) : Nat :=
  let q := num / den
  let r := num % den
  if 2 * r < den then q else if den < 2 * r then q + 1 else if q % 2 = 0 then q else q + 1

/-- The magnitude of a number as a ratio. -/
def magnitude (x : Binary64) : Nat × Nat :=
  let p := twoPow x.exponent
  (x.significand * p.1, p.2)

/-- The number nearest to `num / den`, where `den` is positive; `none` if it would be infinite. -/
def ofRatio (negative : Bool) (num den : Nat) : Option Binary64 :=
  if num = 0 then some (zero negative)
  else
    let estimate : Int := (Nat.log2 num : Int) - (Nat.log2 den : Int) - 53
    let scaled (e : Int) : Nat × Nat := let p := twoPow e; (num * p.2, den * p.1)
    let short := (scaled estimate).1 / (scaled estimate).2 < Nat.pow 2 53
    let e₁ := if short then estimate else estimate + 1
    let e := if e₁ < leastExponent then leastExponent else e₁
    let m := roundDiv (scaled e).1 (scaled e).2
    -- rounding up can reach the next power of two
    let rounded : Binary64 :=
      if m = Nat.pow 2 53 then ⟨negative, Nat.pow 2 52, e + 1⟩ else ⟨negative, m, e⟩
    if greatestExponent < rounded.exponent then none else some rounded

/-- The number nearest to a natural number. -/
def ofNat (n : Nat) : Option Binary64 := ofRatio false n 1

/-- The rounded product; `none` if it would be infinite. -/
def mul (x y : Binary64) : Option Binary64 :=
  let a := x.magnitude
  let b := y.magnitude
  ofRatio (x.negative != y.negative) (a.1 * b.1) (a.2 * b.2)

/-- The rounded quotient by a number other than zero; `none` if it would be infinite. -/
def div (x y : Binary64) : Option Binary64 :=
  let a := x.magnitude
  let b := y.magnitude
  ofRatio (x.negative != y.negative) (a.1 * b.2) (a.2 * b.1)

/-- The number nearest to a power of ten. -/
def tenTo (k : Nat) : Option Binary64 := ofNat (Nat.pow 10 k)

/-! ## Shortest decimals -/

/-- The ratios that round to a number: from `low` to `high` over one denominator, both ends
included if the significand is even. -/
structure Interval where
  low : Nat
  value : Nat
  high : Nat
  den : Nat
  closed : Bool

/-- The interval of a positive number. The gap below a power of two is half the gap above it. -/
def interval (x : Binary64) : Interval :=
  let p := twoPow x.exponent
  let m := x.significand
  let narrow := m = Nat.pow 2 52 ∧ leastExponent < x.exponent
  { low := (4 * m - (if narrow then 1 else 2)) * p.1
    value := 4 * m * p.1
    high := (4 * m + 2) * p.1
    den := 4 * p.2
    closed := m % 2 = 0 }

/-- Whether `num / den` rounds to the number of the interval. -/
def Interval.contains (i : Interval) (num den : Nat) : Bool :=
  let a := num * i.den
  let lo := i.low * den
  let hi := i.high * den
  if i.closed then lo ≤ a && a ≤ hi else lo < a && a < hi

/-- The exponent of the first decimal digit of `num / den`, which is below one: tries `-k`, `-k - 1`
and so on. -/
def firstDigitBelowOne (num den : Nat) : (fuel k : Nat) → Int
  | 0, k => -(k : Int)
  | fuel + 1, k =>
    if den ≤ num * Nat.pow 10 k then -(k : Int) else firstDigitBelowOne num den fuel (k + 1)

/-- The exponent of the first decimal digit of a positive ratio. No number is below `10 ^ -400`. -/
def firstDigit (num den : Nat) : Int :=
  if den ≤ num then ((Decimal.digits (num / den)).length : Int) - 1
  else firstDigitBelowOne num den 400 1

/-- The multiple of `10 ^ e` nearest to the number among its two neighbours on that grid that round
to the number; a tie goes to the even one. -/
def onGrid? (i : Interval) (e : Int) : Option Nat :=
  let p := tenPow e
  let below := i.value * p.2 / (i.den * p.1)
  let inside (d : Nat) : Bool := i.contains (d * p.1) p.2
  -- with both neighbours inside the nearest counts, else the one that is
  match inside below, inside (below + 1) with
  | false, false => none
  | true, false => some below
  | false, true => some (below + 1)
  | true, true => some (roundDiv (i.value * p.2) (i.den * p.1))

/-- Drops trailing zeros of a decimal, moving them into the exponent. -/
def trim : (fuel : Nat) → Nat → Int → Nat × Int
  | 0, d, e => (d, e)
  | fuel + 1, d, e => if d % 10 = 0 then trim fuel (d / 10) (e + 1) else (d, e)

/-- Searches the shortest decimal from `count` digits on. Seventeen digits always suffice. -/
def shortestFrom (i : Interval) (first : Int) : (fuel count : Nat) → Nat × Int
  | 0, _ => (i.value / i.den, 0)
  | fuel + 1, count =>
    let e := first - (count : Int) + 1
    match onGrid? i e with
    | some d => trim 20 d e
    | none => shortestFrom i first fuel (count + 1)

/-- The shortest decimal `(d, e)`, standing for `d * 10 ^ e`, that rounds to a positive number, and
of those the nearest. -/
def shortest (x : Binary64) : Nat × Int :=
  let i := x.interval
  shortestFrom i (firstDigit i.value i.den) 17 1

/-- The exponent of an exponential form, with its sign. -/
def exponentText (e : Int) : List Char :=
  if e < 0 then '-' :: Decimal.digits e.natAbs else '+' :: Decimal.digits e.natAbs

/-- The decimal text of a number: positional from `10 ^ -5` up to below `10 ^ 16`, always with a
point; exponential outside, with a point only between two digits. -/
def text (x : Binary64) : List Char :=
  let sign := if x.negative then ['-'] else []
  if x.significand = 0 then sign ++ ['0', '.', '0']
  else
    let (d, e) := x.shortest
    let ds := Decimal.digits d
    let first : Int := e + ds.length - 1
    if -5 ≤ first ∧ first ≤ 15 then
      if first < 0 then
        sign ++ ['0', '.'] ++ List.replicate (-first - 1).toNat '0' ++ ds
      else if 0 ≤ e then
        sign ++ ds ++ List.replicate e.toNat '0' ++ ['.', '0']
      else
        sign ++ ds.take (first + 1).toNat ++ ['.'] ++ ds.drop (first + 1).toNat
    else
      match ds with
      | [] => sign
      | [c] => sign ++ [c, 'e'] ++ exponentText first
      | c :: cs => sign ++ [c, '.'] ++ cs ++ ['e'] ++ exponentText first

end Binary64

end DatasetCatalog
