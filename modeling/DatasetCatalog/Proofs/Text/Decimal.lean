import DatasetCatalog.Text.Decimal

/-!
# Numerals

What is written as a number is read back as that number. `Decimal.digits` has only digits, at least
one and as many as the number needs, and starts with a zero only for zero itself; the hexadecimal
digits likewise. A reader of digits takes them off a text up to the first character that is none
(`takeWhile_run`).

`Unsigned.Numeral` is the grammar of 64-bit numbers: an optional plus sign and at least one digit.
`Unsigned.parse_eq_ok_iff` says that exactly the numerals of numbers that fit are read.
-/

namespace DatasetCatalog

/-! ### Runs of characters -/

/-- Two characters are different if only one of them is of some kind. -/
theorem ne_of_kind {p : Char → Bool} {c d : Char} (hc : p c = true) (hd : p d = false) : c ≠ d := by
  intro same
  rw [same, hd] at hc
  cases hc

/-- No such character comes next. -/
def Ends (p : Char → Bool) (rest : List Char) : Prop := ∀ c ∈ rest.head?, p c = false

theorem ends_nil {p : Char → Bool} : Ends p [] := by simp [Ends]

theorem ends_cons {p : Char → Bool} {c : Char} {rest : List Char} :
    Ends p (c :: rest) ↔ p c = false := by simp [Ends]

section
variable {p : Char → Bool} {run rest : List Char}

/-- A run of characters ends where another one comes. -/
theorem takeWhile_run (h : ∀ c ∈ run, p c = true) (ends : Ends p rest) :
    (run ++ rest).takeWhile p = run := by
  rw [List.takeWhile_append_of_pos h]
  cases rest with
  | nil => simp
  | cons c rest => simp [ends_cons.1 ends]

theorem dropWhile_run (h : ∀ c ∈ run, p c = true) (ends : Ends p rest) :
    (run ++ rest).dropWhile p = rest := by
  rw [List.dropWhile_append_of_pos h]
  cases rest with
  | nil => rfl
  | cons c rest => simp [ends_cons.1 ends]

end

/-! ### Decimal digits -/

namespace Decimal

theorem isSome_digitValue?_iff {c : Char} :
    (digitValue? c).isSome = true ↔ '0' ≤ c ∧ c ≤ '9' := by
  have bounds : '0' ≤ c ∧ c ≤ '9' ↔ 48 ≤ c.toNat ∧ c.toNat ≤ 57 := Iff.rfl
  rw [bounds, digitValue?]
  split <;> simp_all

theorem isSome_of_mem_digits {n : Nat} {c : Char} (h : c ∈ digits n) :
    (digitValue? c).isSome = true := by
  fun_induction digits n with
  | case1 n small =>
    obtain rfl := List.mem_singleton.1 h
    simp [digitValue?_digit small]
  | case2 n large ih =>
    rcases List.mem_append.1 h with front | last
    · exact ih front
    · obtain rfl := List.mem_singleton.1 last
      simp [digitValue?_digit (Nat.mod_lt n (by decide : 0 < 10))]

theorem digits_ne_nil (n : Nat) : digits n ≠ [] := by
  unfold digits
  split <;> simp

/-- A number from ten on does not start with a zero. -/
theorem exists_digits_cons {n : Nat} (h : 0 < n) :
    ∃ d rest, 0 < d ∧ d < 10 ∧ digits n = digit d :: rest := by
  fun_induction digits n with
  | case1 n small => exact ⟨n, [], h, small, rfl⟩
  | case2 n large ih =>
    obtain ⟨d, rest, positive, small, written⟩ := ih (by omega)
    exact ⟨d, rest ++ [digit (n % 10)], positive, small, by simp [written]⟩

theorem le_valueFrom (start : Nat) (cs : List Char) : start ≤ valueFrom start cs := by
  induction cs generalizing start with
  | nil => exact Nat.le_refl _
  | cons c cs ih =>
    have step : start ≤ start * 10 + (digitValue? c).getD 0 := by omega
    exact Nat.le_trans step (ih _)

end Decimal

/-! ### Hexadecimal digits -/

namespace Hex

theorem digitValue?_digit {d : Nat} (h : d < 16) : digitValue? (digit d) = some d := by
  have all : ∀ d < 16, digitValue? (digit d) = some d := by decide
  exact all d h

theorem isSome_of_mem_digits {n : Nat} {c : Char} (h : c ∈ digits n) :
    (digitValue? c).isSome = true := by
  fun_induction digits n with
  | case1 n small =>
    obtain rfl := List.mem_singleton.1 h
    simp [digitValue?_digit small]
  | case2 n large ih =>
    rcases List.mem_append.1 h with front | last
    · exact ih front
    · obtain rfl := List.mem_singleton.1 last
      simp [digitValue?_digit (Nat.mod_lt n (by decide : 0 < 16))]

theorem digits_ne_nil (n : Nat) : digits n ≠ [] := by
  unfold digits
  split <;> simp

/-- Reading the hexadecimal digits of a number gives the number back. -/
theorem value?_digits (n : Nat) : value? (digits n) = some n := by
  fun_induction digits n with
  | case1 n small => simp [value?, digitValue?_digit small]
  | case2 n large ih =>
    have last := digitValue?_digit (Nat.mod_lt n (by decide : 0 < 16))
    rw [value?, List.foldlM_append, ← value?, ih]
    simp [last]
    omega

theorem length_digits {width n : Nat} (h : n < Nat.pow 16 (width + 1)) :
    (digits n).length ≤ width + 1 := by
  induction width generalizing n with
  | zero =>
    unfold digits
    rw [if_pos (by omega)]
    simp
  | succ width ih =>
    unfold digits
    split
    · simp
    · have front : n / 16 < Nat.pow 16 (width + 1) := by
        rw [Nat.div_lt_iff_lt_mul (by decide)]
        exact h
      simpa using ih front

end Hex

/-! ### Numbers in 64 bits -/

namespace Unsigned

open Decimal (digitValue? valueFrom value)

/-- A numeral and the number that it denotes: decimal digits, at least one and with any number of
zeros in front, after an optional plus sign. -/
inductive Numeral : List Char → Nat → Prop
  | plain {ds : List Char} (nonempty : ds ≠ []) (decimal : ∀ c ∈ ds, '0' ≤ c ∧ c ≤ '9') :
      Numeral ds (value ds)
  | signed {ds : List Char} (nonempty : ds ≠ []) (decimal : ∀ c ∈ ds, '0' ≤ c ∧ c ≤ '9') :
      Numeral ('+' :: ds) (value ds)

/-- Digits are read on to the number that they denote, if that fits. -/
theorem readOn_eq_ok_iff {n m : Nat} {cs : List Char} (start : n ≤ max) :
    readOn n cs = .ok m ↔ (∀ c ∈ cs, (digitValue? c).isSome = true) ∧ valueFrom n cs = m ∧ m ≤ max := by
  induction cs generalizing n with
  | nil =>
    simp only [readOn, Except.ok.injEq, List.not_mem_nil, false_implies, implies_true, true_and,
      valueFrom, List.foldl_nil]
    constructor
    · intro same
      exact ⟨same, same ▸ start⟩
    · exact And.left
  | cons c cs ih =>
    cases digit : digitValue? c with
    | none => simp [readOn, digit]
    | some d =>
      have next : valueFrom n (c :: cs) = valueFrom (n * 10 + d) cs := by
        simp [valueFrom, digit]
      rw [List.forall_mem_cons, next]
      simp only [readOn, digit, Option.isSome_some, true_and]
      by_cases fits : n * 10 + d ≤ max
      · rw [if_pos fits, ih fits]
      · -- the number only grows from here
        rw [if_neg fits]
        have grows := Decimal.le_valueFrom (n * 10 + d) cs
        constructor
        · intro h
          cases h
        · intro h
          obtain ⟨-, same, small⟩ := h
          omega

/-- Exactly the numerals of numbers that fit into 64 bits are read. -/
theorem parse_eq_ok_iff {cs : List Char} {n : Nat} :
    parse cs = .ok n ↔ Numeral cs n ∧ n ≤ max := by
  have read (ds : List Char) : readOn 0 ds = .ok n ↔
      (∀ c ∈ ds, '0' ≤ c ∧ c ≤ '9') ∧ value ds = n ∧ n ≤ max := by
    rw [readOn_eq_ok_iff (Nat.zero_le _), value]
    simp only [Decimal.isSome_digitValue?_iff]
  have notDigit : ¬ ('0' ≤ '+' ∧ '+' ≤ '9') := by decide
  constructor
  · intro h
    unfold parse at h
    split at h
    · cases h
    · cases h
    · next ds nonempty =>
      obtain ⟨decimal, rfl, small⟩ := (read ds).1 h
      exact ⟨.signed (by simpa using nonempty) decimal, small⟩
    · next nonempty _ _ =>
      obtain ⟨decimal, rfl, small⟩ := (read cs).1 h
      exact ⟨.plain (by simpa using nonempty) decimal, small⟩
  · intro h
    obtain ⟨numeral, small⟩ := h
    cases numeral with
    | plain nonempty decimal =>
      unfold parse
      split
      · exact absurd rfl nonempty
      · exact absurd (decimal '+' (by simp)) notDigit
      · exact absurd (decimal '+' (by simp)) notDigit
      · exact (read cs).2 ⟨decimal, rfl, small⟩
    | signed nonempty decimal =>
      unfold parse
      split
      · next same => cases same
      · next same => exact absurd (List.cons.inj same).2 nonempty
      · next ds _ same =>
        cases same
        exact (read _).2 ⟨decimal, rfl, small⟩
      · next other => exact absurd rfl (other _)

end Unsigned

end DatasetCatalog
