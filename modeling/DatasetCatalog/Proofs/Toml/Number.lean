import DatasetCatalog.Proofs.Text.Decimal
import DatasetCatalog.Toml.Statement

/-!
# Numbers survive their text

A natural number that fits is read back from its digits at the end of a line (`readNumber_digits`).
A number that is read is tried as a moment first, then as a float and last as an integer, so the
first two must not fit: a moment goes on with a mark behind its first digits, and a float with a
point or an exponent.

Whatever text an integer is read from, it is in range (`inRange_of_readInteger`).
-/

namespace DatasetCatalog.Toml

variable {c : Char} {cs ds rest : List Char}

/-! ### Neither a moment nor a float -/

/-- After a number of fixed width the text goes on with digits, or with what stands behind them. -/
theorem rest_of_fixedNumber {width low high n : Nat}
    (h : fixedNumber width low high cs = some (n, rest)) :
    rest.dropWhile isDecimal = cs.dropWhile isDecimal := by
  rw [fixedNumber] at h
  split at h
  · next all =>
    cases h
    have digits : ∀ c ∈ cs.take width, isDecimal c = true := List.all_eq_true.1 all.2.1
    conv => rhs; rw [← List.take_append_drop width cs, List.dropWhile_append_of_pos digits]
  · cases h

/-- A mark that follows a number of fixed width stands directly behind the digits. -/
theorem mark_of_expect {mark : Char} {after : List Char} (notDigit : isDecimal mark = false)
    (h : expect mark cs = some after) : cs.dropWhile isDecimal = mark :: after := by
  cases cs with
  | nil => cases h
  | cons d cs =>
    rw [expect] at h
    split at h
    · next same =>
      cases h
      rw [same, List.dropWhile_cons, notDigit]
      rfl
    · cases h

section
variable (decimal : ∀ c ∈ ds, isDecimal c = true)

include decimal in
/-- Digits at the end of a line are no part of a moment. -/
theorem no_mark {width low high n : Nat} {mark : Char} {cs : List Char}
    (read : fixedNumber width low high (ds ++ '\n' :: rest) = some (n, cs))
    (notDigit : isDecimal mark = false) (other : mark ≠ '\n') : expect mark cs = none := by
  cases h : expect mark cs with
  | none => rfl
  | some after =>
    have behind := (mark_of_expect notDigit h).symm.trans (rest_of_fixedNumber read)
    rw [dropWhile_run decimal (ends_cons.2 rfl)] at behind
    exact absurd (List.cons.inj behind).1 other

include decimal in
theorem readMoment_digits : readMoment (ds ++ '\n' :: rest) = none := by
  have noDate : date (ds ++ '\n' :: rest) = none := by
    rw [date]
    cases read : fixedNumber 4 0 9999 (ds ++ '\n' :: rest) with
    | none => rfl
    | some r =>
      obtain ⟨year, after⟩ := r
      simp [no_mark decimal read (show isDecimal '-' = false from rfl) (by decide)]
  have noTime : timeOfDay (ds ++ '\n' :: rest) = none := by
    rw [timeOfDay]
    cases read : fixedNumber 2 0 23 (ds ++ '\n' :: rest) with
    | none => rfl
    | some r =>
      obtain ⟨hour, after⟩ := r
      simp [no_mark decimal read (show isDecimal ':' = false from rfl) (by decide)]
  rw [readMoment, noDate, noTime]

end

/-! ### Decimal integers -/

theorem digitsOn_run (decimal : ∀ c ∈ ds, isDecimal c = true) :
    digitsOn isDecimal (ds ++ '\n' :: rest) = (ds, '\n' :: rest) := by
  induction ds with
  | nil => rfl
  | cons d ds ih =>
    have digit := decimal d List.mem_cons_self
    have other : d ≠ '_' := ne_of_kind digit rfl
    rw [List.cons_append, digitsOn, if_pos digit, ih fun c hc => decimal c (List.mem_cons_of_mem _ hc)]
    exact fun _ _ same => absurd same other

/-- The digits of a number, from its first one on. -/
theorem wholeDigits_digits (n : Nat) (rest : List Char) :
    wholeDigits (Decimal.digits n ++ '\n' :: rest) = some (Decimal.digits n, '\n' :: rest) := by
  have decimal : ∀ c ∈ Decimal.digits n, isDecimal c = true := fun c hc =>
    Decimal.isSome_of_mem_digits hc
  by_cases zero : n = 0
  · have digits : Decimal.digits 0 = ['0'] := by simp [Decimal.digits, Decimal.digit]
    rw [zero, digits]
    rfl
  · obtain ⟨d, ds, positive, small, written⟩ := Decimal.exists_digits_cons (Nat.pos_of_ne_zero zero)
    have notZero : Decimal.digit d ≠ '0' := by
      have all : ∀ d < 10, 0 < d → Decimal.digit d ≠ '0' := by decide
      exact all d small positive
    rw [written] at decimal ⊢
    rw [List.cons_append, wholeDigits, digitRun, if_pos (decimal _ List.mem_cons_self),
      digitsOn_run fun c hc => decimal c (List.mem_cons_of_mem _ hc)]
    exact fun _ same => absurd (List.cons.inj same).1 notZero

theorem digits_cons (n : Nat) : ∃ d ds, Decimal.digits n = d :: ds ∧ isDecimal d = true := by
  obtain ⟨d, ds, written⟩ := List.exists_cons_of_ne_nil (Decimal.digits_ne_nil n)
  exact ⟨d, ds, written, Decimal.isSome_of_mem_digits (written ▸ List.mem_cons_self)⟩

/-- What starts with another character is no number. -/
theorem digits_append_ne (n : Nat) (other : isDecimal c = false) (rest ds : List Char) :
    Decimal.digits n ++ rest ≠ c :: ds := by
  obtain ⟨d, front, written, digit⟩ := digits_cons n
  rw [written]
  exact fun same => ne_of_kind digit other (List.cons.inj same).1

theorem sign_digits (n : Nat) :
    sign (Decimal.digits n ++ '\n' :: rest) = (false, Decimal.digits n ++ '\n' :: rest) := by
  unfold sign
  split
  · next same => exact absurd same (digits_append_ne n rfl _ _)
  · next same => exact absurd same (digits_append_ne n rfl _ _)
  · rfl

/-- A number is not a float. -/
theorem readFloat_digits (n : Nat) : readFloat (Decimal.digits n ++ '\n' :: rest) = none := by
  have number : digitFloat (Decimal.digits n ++ '\n' :: rest) = none := by
    rw [digitFloat, sign_digits]
    simp [wholeDigits_digits, fraction?, exponent?]
  have word (w : Char) (ws : List Char) (letter : isDecimal w = false) :
      expectWord (w :: ws) (Decimal.digits n ++ '\n' :: rest) = none := by
    obtain ⟨d, ds, written, digit⟩ := digits_cons n
    simp [written, expectWord, expect, ne_of_kind digit letter]
  rw [readFloat, number, sign_digits]
  simp [word 'i' _ rfl, word 'n' _ rfl]

/-- A number at the end of a line is read back from its digits. -/
theorem readNumber_digits {n : Nat} (h : (n : Int) ≤ greatest) (rest : List Char) :
    readNumber (Decimal.digits n ++ '\n' :: rest) = some (.integer n, '\n' :: rest) := by
  have decimal : ∀ c ∈ Decimal.digits n, isDecimal c = true := fun c hc =>
    Decimal.isSome_of_mem_digits hc
  have fits : inRange? (n : Int) = some (n : Int) := by
    have low : least ≤ (n : Int) := Int.le_trans (by decide) (Int.natCast_nonneg n)
    exact if_pos ⟨low, h⟩
  have read : decimalInteger (Decimal.digits n ++ '\n' :: rest) =
      some ((n : Int), '\n' :: rest) := by
    rw [decimalInteger, sign_digits]
    simp [wholeDigits_digits, fits]
  have based : readInteger (Decimal.digits n ++ '\n' :: rest) =
      decimalInteger (Decimal.digits n ++ '\n' :: rest) := by
    -- a zero stands alone, so no letter for a base comes behind it
    have behind {d : Char} {ds : List Char}
        (same : Decimal.digits n ++ '\n' :: rest = '0' :: d :: ds) : d = '\n' := by
      have whole := wholeDigits_digits n rest
      rw [same] at whole
      exact (List.cons.inj (Prod.mk.inj (Option.some.inj whole)).2).1
    unfold readInteger
    split
    · next same => exact absurd (behind same) (by decide)
    · next same => exact absurd (behind same) (by decide)
    · next same => exact absurd (behind same) (by decide)
    · rfl
  rw [readNumber, readMoment_digits decimal, readFloat_digits, based, read]
  rfl

/-! ### Integers of any text -/

theorem inRange_of_inRange? {n m : Int} (h : inRange? n = some m) : least ≤ m ∧ m ≤ greatest := by
  rw [inRange?] at h
  split at h
  · next fits =>
    cases h
    exact fits
  · cases h

theorem inRange_of_basedInteger {base : Nat} {m : Int} (h : basedInteger base cs = some (m, rest)) :
    least ≤ m ∧ m ≤ greatest := by
  simp only [basedInteger, Option.bind_eq_bind, Option.bind_eq_some_iff, Option.pure_def] at h
  obtain ⟨run, -, n, fits, same⟩ := h
  cases same
  exact inRange_of_inRange? fits

theorem inRange_of_decimalInteger {m : Int} (h : decimalInteger cs = some (m, rest)) :
    least ≤ m ∧ m ≤ greatest := by
  simp only [decimalInteger, Option.bind_eq_bind, Option.bind_eq_some_iff, Option.pure_def] at h
  obtain ⟨whole, -, n, fits, same⟩ := h
  cases same
  exact inRange_of_inRange? fits

/-- Whatever integer is read, it is in range. -/
theorem inRange_of_readInteger {m : Int} (h : readInteger cs = some (m, rest)) :
    least ≤ m ∧ m ≤ greatest := by
  unfold readInteger at h
  split at h
  · exact inRange_of_basedInteger h
  · exact inRange_of_basedInteger h
  · exact inRange_of_basedInteger h
  · exact inRange_of_decimalInteger h

end DatasetCatalog.Toml
