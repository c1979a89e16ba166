import Mathlib.Tactic.IntervalCases
import DatasetCatalog.Text.Utf8

/-!
# Texts survive their encoding

Decoding the bytes of a text gives the text back. The decoder takes one character at a time, so it is
enough that one step takes exactly the bytes of one character (`next_encodeChar`), whatever follows
them. The four lengths of a sequence are gone through one by one; in the longer ones the first byte
can narrow the range of the second, and a character lies in that range because it is no surrogate
and not too large.
-/

namespace DatasetCatalog.Utf8

/-- A character is no surrogate and not too large. -/
theorem toNat_range (c : Char) : c.toNat < 0xD800 ∨ 0xDFFF < c.toNat ∧ c.toNat < 0x110000 :=
  c.valid

theorem toNat_byte {n : Nat} (h : n < 256) : (UInt8.ofNat n).toNat = n :=
  UInt8.toNat_ofNat_of_lt' h

/-- A continuation byte in range is taken. -/
theorem continuation_cons {tail bits seen low high n : Nat} {bs : List UInt8} (h : n < 64)
    (hlow : low ≤ 0x80 + n) (hhigh : 0x80 + n ≤ high) :
    continuation (tail + 1) bits seen low high (UInt8.ofNat (0x80 + n) :: bs) =
      continuation tail (bits * 64 + n) (seen + 1) 0x80 0xBF bs := by
  have byte : (UInt8.ofNat (0x80 + n)).toNat = 0x80 + n := toNat_byte (by omega)
  rw [continuation, byte, if_pos ⟨hlow, hhigh⟩, Nat.add_sub_cancel_left]

theorem next_of_lead {b : UInt8} {l : Lead} (h : lead b.toNat = some l) (bs : List UInt8) :
    next b bs = continuation l.tail l.bits 1 l.low l.high bs := by
  rw [next, h]

/-- What the first byte of a sequence of three promises. -/
theorem lead_of_three {k : Nat} (h : k < 16) :
    lead (0xE0 + k) = some ⟨k, 2, if k = 0 then 0xA0 else 0x80, if k = 13 then 0x9F else 0xBF⟩ := by
  interval_cases k <;> rfl

/-- What the first byte of a sequence of four promises. -/
theorem lead_of_four {k : Nat} (h : k < 5) :
    lead (0xF0 + k) = some ⟨k, 3, if k = 0 then 0x90 else 0x80, if k = 4 then 0x8F else 0xBF⟩ := by
  interval_cases k <;> rfl

/-- One step of the decoder takes the bytes of one character. -/
theorem next_encodeChar (c : Char) (rest : List UInt8) :
    ∃ b bs, encodeChar c ++ rest = b :: bs ∧ next b bs = (.char c, rest) := by
  have range := toNat_range c
  have back : Char.ofNat c.toNat = c := Char.ofNat_toNat c
  unfold encodeChar
  dsimp only
  generalize c.toNat = n at range back
  -- one case for each length, as the encoder has them; the lead byte promises the continuation bytes
  by_cases one : n < 0x80
  · rw [if_pos one]
    refine ⟨_, _, List.cons_append, ?_⟩
    have promised : lead (UInt8.ofNat n).toNat = some ⟨n, 0, 0x80, 0xBF⟩ := by
      rw [toNat_byte (by omega), lead, if_pos one]
    rw [next_of_lead promised, continuation, back, List.nil_append]
  rw [if_neg one]
  by_cases two : n < 0x800
  · rw [if_pos two]
    refine ⟨_, _, List.cons_append, ?_⟩
    have promised : lead (UInt8.ofNat (0xC0 + n / 64)).toNat = some ⟨n / 64, 1, 0x80, 0xBF⟩ := by
      rw [toNat_byte (by omega), lead, if_neg (by omega), if_neg (by omega), if_pos (by omega),
        Nat.add_sub_cancel_left]
    rw [next_of_lead promised]
    dsimp only [List.cons_append, List.nil_append]
    rw [continuation_cons (by omega) (by omega) (by omega), continuation,
      show n / 64 * 64 + n % 64 = n by omega, back]
  rw [if_neg two]
  by_cases three : n < 0x10000
  · rw [if_pos three]
    refine ⟨_, _, List.cons_append, ?_⟩
    have promised := lead_of_three (k := n / 4096) (by omega)
    rw [← toNat_byte (n := 0xE0 + n / 4096) (by omega)] at promised
    -- the bounds of the second byte rule out short forms and surrogates
    have low : (if n / 4096 = 0 then 0xA0 else 0x80) ≤ 0x80 + n / 64 % 64 := by
      split <;> omega
    have high : 0x80 + n / 64 % 64 ≤ if n / 4096 = 13 then 0x9F else 0xBF := by
      split <;> omega
    rw [next_of_lead promised]
    dsimp only [List.cons_append, List.nil_append]
    rw [continuation_cons (by omega) low high,
      continuation_cons (by omega) (by omega) (by omega), continuation,
      show (n / 4096 * 64 + n / 64 % 64) * 64 + n % 64 = n by omega, back]
  · rw [if_neg three]
    refine ⟨_, _, List.cons_append, ?_⟩
    have promised := lead_of_four (k := n / 262144) (by omega)
    rw [← toNat_byte (n := 0xF0 + n / 262144) (by omega)] at promised
    -- and here short forms and what lies beyond the last character
    have low : (if n / 262144 = 0 then 0x90 else 0x80) ≤ 0x80 + n / 4096 % 64 := by
      split <;> omega
    have high : 0x80 + n / 4096 % 64 ≤ if n / 262144 = 4 then 0x8F else 0xBF := by
      split <;> omega
    rw [next_of_lead promised]
    dsimp only [List.cons_append, List.nil_append]
    rw [continuation_cons (by omega) low high,
      continuation_cons (by omega) (by omega) (by omega),
      continuation_cons (by omega) (by omega) (by omega), continuation,
      show ((n / 262144 * 64 + n / 4096 % 64) * 64 + n / 64 % 64) * 64 + n % 64 = n by omega, back]

theorem chunks_encodeChars (cs : List Char) : chunks (encodeChars cs) = cs.map .char := by
  induction cs with
  | nil => rw [encodeChars, List.flatMap_nil, chunks, List.map_nil]
  | cons c cs ih =>
    obtain ⟨b, bs, bytes, step⟩ := next_encodeChar c (encodeChars cs)
    have split : encodeChars (c :: cs) = encodeChar c ++ encodeChars cs := List.flatMap_cons
    rw [split, bytes, chunks, step, ih, List.map_cons]

theorem gather_chars (start : Nat) (cs : List Char) : gather start (cs.map .char) = .ok cs := by
  induction cs generalizing start with
  | nil => rfl
  | cons c cs ih =>
    rw [List.map_cons, gather, ih]
    rfl

/-- Decoding the bytes of a text gives the text. -/
theorem decode_encode (s : String) : decode (encode s) = .ok s := by
  have chars : decodeChars (encode s) = .ok s.toList := by
    rw [decodeChars, encode, chunks_encodeChars, gather_chars]
  rw [decode, chars]
  exact congrArg Except.ok String.ofList_toList

/-- Nothing in the bytes of a text has to be replaced. -/
theorem decodeLossy_encode (s : String) : decodeLossy (encode s) = s := by
  rw [decodeLossy, encode, chunks_encodeChars, List.map_map]
  refine (congrArg String.ofList ?_).trans String.ofList_toList
  exact List.map_id' _

@[simp] theorem encodeChars_nil : encodeChars [] = [] := rfl

@[simp] theorem encodeChars_cons (c : Char) (cs : List Char) :
    encodeChars (c :: cs) = encodeChar c ++ encodeChars cs := List.flatMap_cons

@[simp] theorem encodeChars_append (as bs : List Char) :
    encodeChars (as ++ bs) = encodeChars as ++ encodeChars bs := List.flatMap_append

theorem size_append (s t : String) : size (s ++ t) = size s + size t := by
  simp [size, encode]

/-- A character of the first 128 is its own byte. -/
theorem encodeChar_ascii {c : Char} (h : c.toNat < 0x80) : encodeChar c = [UInt8.ofNat c.toNat] := by
  rw [encodeChar]
  exact if_pos h

/-- The bytes of all other characters lie above the first 128. -/
theorem encodeChar_high {c : Char} (h : 0x80 ≤ c.toNat) {b : UInt8} (hb : b ∈ encodeChar c) :
    0x80 ≤ b.toNat := by
  have range := toNat_range c
  unfold encodeChar at hb
  dsimp only at hb
  generalize c.toNat = n at h range hb
  rw [if_neg (by omega)] at hb
  split at hb
  · simp only [List.mem_cons, List.not_mem_nil, or_false] at hb
    rcases hb with rfl | rfl <;> rw [toNat_byte (by omega)] <;> omega
  · split at hb
    · simp only [List.mem_cons, List.not_mem_nil, or_false] at hb
      rcases hb with rfl | rfl | rfl <;> rw [toNat_byte (by omega)] <;> omega
    · simp only [List.mem_cons, List.not_mem_nil, or_false] at hb
      rcases hb with rfl | rfl | rfl | rfl <;> rw [toNat_byte (by omega)] <;> omega

end DatasetCatalog.Utf8
