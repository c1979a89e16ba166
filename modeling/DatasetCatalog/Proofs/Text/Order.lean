import DatasetCatalog.Proofs.Text.Utf8

/-!
# Texts in the order of their bytes

Texts are compared by their code points, and systems compare them by their bytes. The two orders are
the same, because UTF-8 keeps the order of the characters: a longer sequence starts with a greater
byte, and sequences of one length spell the digits of the code point from the greatest down
(`encodeChars_lt_of_toNat_lt`).
-/

namespace DatasetCatalog.Utf8

/-- Sequences of bytes are compared at the first byte at which they differ. -/
theorem bytes_lt {m n : Nat} {as bs : List UInt8} (hn : n < 256) (h : m ≤ n)
    (hrest : m = n → as < bs) : UInt8.ofNat m :: as < UInt8.ofNat n :: bs := by
  rw [List.cons_lt_cons_iff]
  rcases Nat.lt_or_eq_of_le h with smaller | same
  · left
    rw [UInt8.lt_iff_toNat_lt, toNat_byte hn, toNat_byte (Nat.lt_trans smaller hn)]
    exact smaller
  · exact .inr ⟨by rw [same], hrest same⟩

/-- A smaller character has smaller bytes, whatever follows them. -/
theorem encodeChars_lt_of_toNat_lt {a b : Char} (h : a.toNat < b.toNat) (as bs : List UInt8) :
    encodeChar a ++ as < encodeChar b ++ bs := by
  have rangeA := toNat_range a
  have rangeB := toNat_range b
  unfold encodeChar
  dsimp only
  generalize a.toNat = m at h rangeA
  generalize b.toNat = n at h rangeB
  -- the lengths go up with the characters; only equal lengths need more than the first byte
  by_cases one : n < 0x80
  · rw [if_pos one, if_pos (by omega : m < 0x80)]
    exact bytes_lt (by omega) (by omega) (by omega)
  rw [if_neg one]
  by_cases two : n < 0x800
  · rw [if_pos two]
    by_cases shorter : m < 0x80
    · rw [if_pos shorter]
      exact bytes_lt (by omega) (by omega) (by omega)
    · rw [if_neg shorter, if_pos (by omega : m < 0x800)]
      exact bytes_lt (by omega) (by omega) fun _ => bytes_lt (by omega) (by omega) (by omega)
  rw [if_neg two]
  by_cases three : n < 0x10000
  · rw [if_pos three]
    by_cases shortest : m < 0x80
    · rw [if_pos shortest]
      exact bytes_lt (by omega) (by omega) (by omega)
    rw [if_neg shortest]
    by_cases shorter : m < 0x800
    · rw [if_pos shorter]
      exact bytes_lt (by omega) (by omega) (by omega)
    · rw [if_neg shorter, if_pos (by omega : m < 0x10000)]
      exact bytes_lt (by omega) (by omega) fun _ => bytes_lt (by omega) (by omega) fun _ =>
        bytes_lt (by omega) (by omega) (by omega)
  rw [if_neg three]
  by_cases shortest : m < 0x80
  · rw [if_pos shortest]
    exact bytes_lt (by omega) (by omega) (by omega)
  rw [if_neg shortest]
  by_cases shorter : m < 0x800
  · rw [if_pos shorter]
    exact bytes_lt (by omega) (by omega) (by omega)
  rw [if_neg shorter]
  by_cases short : m < 0x10000
  · rw [if_pos short]
    exact bytes_lt (by omega) (by omega) (by omega)
  · rw [if_neg short]
    exact bytes_lt (by omega) (by omega) fun _ => bytes_lt (by omega) (by omega) fun _ =>
      bytes_lt (by omega) (by omega) fun _ => bytes_lt (by omega) (by omega) (by omega)

theorem encodeChar_ne_nil (c : Char) : encodeChar c ≠ [] := by
  unfold encodeChar
  dsimp only
  split
  · simp
  · split
    · simp
    · split <;> simp

theorem encodeChars_lt {as bs : List Char} (h : as < bs) : encodeChars as < encodeChars bs := by
  induction as generalizing bs with
  | nil =>
    cases bs with
    | nil => exact absurd h (List.lt_irrefl _)
    | cons b bs =>
      obtain ⟨byte, rest, heq⟩ := List.exists_cons_of_ne_nil (encodeChar_ne_nil b)
      rw [encodeChars_cons, heq, encodeChars_nil]
      exact List.nil_lt_cons _ _
  | cons a as ih =>
    cases bs with
    | nil => exact absurd h (List.not_lt_nil _)
    | cons b bs =>
      rw [encodeChars_cons, encodeChars_cons]
      rcases List.cons_lt_cons_iff.1 h with smaller | ⟨rfl, rest⟩
      · exact encodeChars_lt_of_toNat_lt smaller _ _
      · have tails := ih rest
        generalize encodeChar a = front
        induction front with
        | nil => exact tails
        | cons byte front ihf => exact List.cons_lt_cons_iff.2 (.inr ⟨rfl, ihf⟩)

/-- The order of texts is that of their bytes. -/
theorem encode_lt {s t : String} (h : s < t) : encode s < encode t :=
  encodeChars_lt (String.lt_iff.1 h)

end DatasetCatalog.Utf8
