/-!
# UTF-8

File contents, worker output and request bodies are bytes; names and properties are text. This
module holds the way from one to the other:

* `encode` — the bytes of a text;
* `decode` — the text of a sequence of bytes, or where and why it is none; and
* `decodeLossy` — the text with a replacement character for every broken sequence.

A first byte fixes how many continuation bytes follow and the range of the first of them; `lead`
is that table. A sequence that leaves its range is broken at that byte, so the bytes before it are
what one replacement character stands for.
-/

namespace DatasetCatalog.Utf8

/-- The bytes of one character. -/
def encodeChar (c : Char) : List UInt8 :=
  let n := c.toNat
  if n < 0x80 then [UInt8.ofNat n]
  else if n < 0x800 then [UInt8.ofNat (0xC0 + n / 64), UInt8.ofNat (0x80 + n % 64)]
  else if n < 0x10000 then
    [UInt8.ofNat (0xE0 + n / 4096), UInt8.ofNat (0x80 + n / 64 % 64), UInt8.ofNat (0x80 + n % 64)]
  else
    [UInt8.ofNat (0xF0 + n / 262144), UInt8.ofNat (0x80 + n / 4096 % 64),
      UInt8.ofNat (0x80 + n / 64 % 64), UInt8.ofNat (0x80 + n % 64)]

/-- The bytes of a sequence of characters. -/
def encodeChars (cs : List Char) : List UInt8 := cs.flatMap encodeChar

/-- The bytes of a text. -/
def encode (s : String) : List UInt8 := encodeChars s.toList

/-- The number of bytes of a text. -/
def size (s : String) : Nat := (encode s).length

/-- What the first byte of a sequence promises. -/
structure Lead where
  /-- The bits that the first byte contributes. -/
  bits : Nat
  /-- How many continuation bytes follow. -/
  tail : Nat
  /-- The least first continuation byte. -/
  low : Nat
  /-- The greatest first continuation byte. -/
  high : Nat

/-- What a byte promises as the first of a sequence; `none` if it cannot start one. -/
def lead (b : Nat) : Option Lead :=
  if b < 0x80 then some ⟨b, 0, 0x80, 0xBF⟩
  else if b < 0xC2 then none
  else if b < 0xE0 then some ⟨b - 0xC0, 1, 0x80, 0xBF⟩
  else if b = 0xE0 then some ⟨0, 2, 0xA0, 0xBF⟩
  else if b = 0xED then some ⟨0xD, 2, 0x80, 0x9F⟩
  else if b < 0xF0 then some ⟨b - 0xE0, 2, 0x80, 0xBF⟩
  else if b = 0xF0 then some ⟨0, 3, 0x90, 0xBF⟩
  else if b < 0xF4 then some ⟨b - 0xF0, 3, 0x80, 0xBF⟩
  else if b = 0xF4 then some ⟨4, 3, 0x80, 0x8F⟩
  else none

/-- One step of reading: a character, or a broken sequence. -/
inductive Chunk
  /-- A complete character. -/
  | char (c : Char)
  /-- A sequence of `length` bytes that the next byte broke off. -/
  | broken (length : Nat)
  /-- A sequence of `length` bytes that the end of the input broke off. -/
  | incomplete (length : Nat)
  deriving DecidableEq, Repr

/-- Takes `tail` more continuation bytes, of which the first lies between `low` and `high`. `seen`
counts the bytes of the sequence so far. -/
def continuation : (tail bits seen low high : Nat) → List UInt8 → Chunk × List UInt8
  | 0, bits, _, _, _, bs => (.char (Char.ofNat bits), bs)
  | _ + 1, _, seen, _, _, [] => (.incomplete seen, [])
  | tail + 1, bits, seen, low, high, b :: bs =>
    if low ≤ b.toNat ∧ b.toNat ≤ high then
      continuation tail (bits * 64 + (b.toNat - 0x80)) (seen + 1) 0x80 0xBF bs
    else (.broken seen, b :: bs)

/-- The first chunk of a sequence of bytes that starts with `b`, and the bytes after it. -/
def next (b : UInt8) (bs : List UInt8) : Chunk × List UInt8 :=
  match lead b.toNat with
  | none => (.broken 1, bs)
  | some l => continuation l.tail l.bits 1 l.low l.high bs

theorem length_continuation (tail bits seen low high : Nat) (bs : List UInt8) :
    (continuation tail bits seen low high bs).2.length ≤ bs.length := by
  fun_induction continuation tail bits seen low high bs with
  | case1 => exact Nat.le_refl _
  | case2 => exact Nat.le_refl _
  | case3 _ _ _ _ _ _ _ _ ih => exact Nat.le_succ_of_le ih
  | case4 => exact Nat.le_refl _

theorem length_next (b : UInt8) (bs : List UInt8) : (next b bs).2.length ≤ bs.length := by
  unfold next
  split
  · exact Nat.le_refl _
  · exact length_continuation ..

/-- The chunks of a sequence of bytes, in order. -/
def chunks : List UInt8 → List Chunk
  | [] => []
  | b :: bs => (next b bs).1 :: chunks (next b bs).2
termination_by bs => bs.length
decreasing_by exact Nat.lt_succ_of_le (length_next b bs)

/-- Why a sequence of bytes is no text. -/
inductive Refusal
  /-- The `length` bytes from `start` on belong to no character. -/
  | invalid (length start : Nat)
  /-- The input ends within the character that starts at `start`. -/
  | incomplete (start : Nat)
  deriving DecidableEq, Repr

/-- Collects characters until a broken chunk; `start` is the offset of the first chunk. -/
def gather : Nat → List Chunk → Except Refusal (List Char)
  | _, [] => .ok []
  | start, .char c :: rest => (gather (start + (encodeChar c).length) rest).map (c :: ·)
  | start, .broken length :: _ => .error (.invalid length start)
  | start, .incomplete _ :: _ => .error (.incomplete start)

/-- The characters of a sequence of bytes, or where and why it is no text. -/
def decodeChars (bs : List UInt8) : Except Refusal (List Char) := gather 0 (chunks bs)

/-- The text of a sequence of bytes, or where and why it is none. -/
def decode (bs : List UInt8) : Except Refusal String := (decodeChars bs).map String.ofList

/-- The text of a sequence of bytes, if it is one. -/
def decode? (bs : List UInt8) : Option String := (decode bs).toOption

/-- The character that stands for a broken sequence. -/
def replacement : Char := Char.ofNat 0xFFFD

/-- The text of a sequence of bytes with a replacement character for every broken sequence. -/
def decodeLossy (bs : List UInt8) : String :=
  String.ofList ((chunks bs).map fun
    | .char c => c
    | .broken _ | .incomplete _ => replacement)

end DatasetCatalog.Utf8
