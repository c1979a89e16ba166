/-!
# Decimal and hexadecimal numerals

Numbers leave the catalog as plain decimal digits and enter it the same way, so the two directions
stand side by side:

* `Decimal.digits` — the digits of a number, without leading zeros;
* `Decimal.value` — the number that a run of digits denotes, leading zeros allowed; and
* `Unsigned.parse` — a 64-bit unsigned number, refused with the reason for the refusal.

Hexadecimal digits are needed by the string escapes of the text formats, in fixed width only.
-/

namespace DatasetCatalog

namespace Decimal

/-- The character of a digit below ten. -/
def digit (d : Nat) : Char := Char.ofNat (48 + d)

/-- The number that a decimal digit stands for. -/
def digitValue? (c : Char) : Option Nat :=
  if 48 ≤ c.toNat ∧ c.toNat ≤ 57 then some (c.toNat - 48) else none

/-- The decimal digits of `n`: at least one, and no leading zero unless `n` is zero. -/
def digits (n : Nat) : List Char :=
  if n < 10 then [digit n] else digits (n / 10) ++ [digit (n % 10)]
termination_by n

/-- The number that a run of digits denotes, read on from `start`. A character that is no digit
counts as zero; callers read runs of digits only. -/
def valueFrom (start : Nat) (cs : List Char) : Nat :=
  cs.foldl (fun n c => n * 10 + (digitValue? c).getD 0) start

/-- The number that a run of digits denotes. -/
def value (cs : List Char) : Nat := valueFrom 0 cs

/-- The decimal text of `n`. -/
def text (n : Nat) : String := String.ofList (digits n)

/-- The digits of `n` filled up with zeros on the left to at least `width` characters. -/
def padded (width n : Nat) : List Char :=
  let ds := digits n
  List.replicate (width - ds.length) '0' ++ ds

theorem digitValue?_digit {d : Nat} (h : d < 10) : digitValue? (digit d) = some d := by
  match d, h with
  | 0, _ | 1, _ | 2, _ | 3, _ | 4, _ | 5, _ | 6, _ | 7, _ | 8, _ | 9, _ => rfl

theorem valueFrom_append (start : Nat) (as bs : List Char) :
    valueFrom start (as ++ bs) = valueFrom (valueFrom start as) bs := by
  simp [valueFrom]

/-- Reading the digits of a number gives the number back. -/
@[simp] theorem value_digits (n : Nat) : value (digits n) = n := by
  fun_induction digits n with
  | case1 n h => simp [value, valueFrom, digitValue?_digit h]
  | case2 n h ih =>
    rw [value, valueFrom_append, ← value, ih]
    simp only [valueFrom, List.foldl_cons, List.foldl_nil,
      digitValue?_digit (Nat.mod_lt n (by decide)), Option.getD_some]
    omega

end Decimal

namespace Hex

/-- The lower-case hexadecimal digit of a number below sixteen. -/
def digit (d : Nat) : Char := if d < 10 then Char.ofNat (48 + d) else Char.ofNat (87 + d)

/-- The number that a hexadecimal digit of either case stands for. -/
def digitValue? (c : Char) : Option Nat :=
  let n := c.toNat
  if 48 ≤ n ∧ n ≤ 57 then some (n - 48)
  else if 97 ≤ n ∧ n ≤ 102 then some (n - 87)
  else if 65 ≤ n ∧ n ≤ 70 then some (n - 55)
  else none

/-- `n` in exactly `width` lower-case hexadecimal digits; higher digits are dropped. -/
def fixed : (width : Nat) → Nat → List Char
  | 0, _ => []
  | width + 1, n => fixed width (n / 16) ++ [digit (n % 16)]

/-- The number that a run of hexadecimal digits denotes, or `none` if one of them is no digit. -/
def value? (cs : List Char) : Option Nat :=
  cs.foldlM (fun n c => (digitValue? c).map (n * 16 + ·)) 0

/-- The hexadecimal digits of `n` in lower case, without leading zeros. -/
def digits (n : Nat) : List Char :=
  if n < 16 then [digit n] else digits (n / 16) ++ [digit (n % 16)]
termination_by n

/-- The byte that two hexadecimal digits denote. -/
def byte? (hi lo : Char) : Option UInt8 :=
  match digitValue? hi, digitValue? lo with
  | some h, some l => some (UInt8.ofNat (16 * h + l))
  | _, _ => none

end Hex

namespace Unsigned

/-- The largest number that a 64-bit unsigned field can hold. -/
def max : Nat := Nat.pow 2 64 - 1

/-- Why a text is not a 64-bit unsigned number. -/
inductive Refusal
  /-- There is nothing to read. -/
  | empty
  /-- A character is no decimal digit. -/
  | badDigit
  /-- The digits denote a number above `max`. -/
  | tooLarge
  deriving DecidableEq, Repr

/-- The refusal in words. -/
def Refusal.message : Refusal → String
  | .empty => "cannot parse integer from empty string"
  | .badDigit => "invalid digit found in string"
  | .tooLarge => "number too large to fit in target type"

/-- Reads digits on from `n`, which is already in range. The first character that is no digit or
takes the number out of range decides the refusal. -/
def readOn : Nat → List Char → Except Refusal Nat
  | n, [] => .ok n
  | n, c :: cs =>
    match Decimal.digitValue? c with
    | none => .error .badDigit
    | some d => if n * 10 + d ≤ max then readOn (n * 10 + d) cs else .error .tooLarge

/-- Reads a 64-bit unsigned number: digits with any number of leading zeros after an optional plus
sign. A sign needs at least one digit after it. -/
def parse : List Char → Except Refusal Nat
  | [] => .error .empty
  | '+' :: [] => .error .badDigit
  | '+' :: cs => readOn 0 cs
  | cs => readOn 0 cs

end Unsigned

end DatasetCatalog
