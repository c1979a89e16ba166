import DatasetCatalog.Json.Document

/-!
# The tokens of a JSON text

The bytes of a text are cut into punctuation and leaves. A leaf is a whole document without parts:
a word, a number or a string, possibly a faulty one. Nothing that follows a leaf which cannot even
be skipped is ever looked at, so cutting stops there.

Strings are taken apart in two steps. `StringPiece`s are what the bytes between the quotes spell;
`StringPiece.text` puts them together, which is where halves of pairs and bytes that are no text
are found out.
-/

namespace DatasetCatalog.Json

/-- A piece of the text of a value. -/
inductive Token
  | openBracket
  | closeBracket
  | openBrace
  | closeBrace
  | comma
  | colon
  | leaf (d : Doc)

/-! ## Strings -/

/-- What a stretch of a string spells. -/
inductive StringPiece
  /-- A byte that stands for itself, or an escape of a single character. -/
  | byte (b : UInt8) (escaped : Bool)
  /-- A unit of 16 bits, from an escape with four hexadecimal digits. -/
  | unit (u : Nat)

/-- Why a string does not reach its closing quote. -/
inductive StringBreak
  | ended
  | control
  | unknownEscape
  | badDigits
  deriving DecidableEq, Repr

/-- The fault of a string that breaks off. -/
def StringBreak.fault : StringBreak → Fault
  | .ended => .endInString
  | .control => .controlCharacter
  | .unknownEscape | .badDigits => .invalidEscape

/-- The byte that the letter of a short escape stands for. -/
def shortEscape? (b : UInt8) : Option UInt8 :=
  match Char.ofNat b.toNat with
  | '"' => some 34
  | '\\' => some 92
  | '/' => some 47
  | 'b' => some 8
  | 'f' => some 12
  | 'n' => some 10
  | 'r' => some 13
  | 't' => some 9
  | _ => none

/-- The unit that four hexadecimal digits denote. -/
def hexUnit? (a b c d : UInt8) : Option Nat :=
  Hex.value? [Char.ofNat a.toNat, Char.ofNat b.toNat, Char.ofNat c.toNat, Char.ofNat d.toNat]

/-- The pieces of a string after its opening quote, how it breaks off if it does, and the bytes
after its closing quote. -/
def scanPieces : List UInt8 → List StringPiece × Option StringBreak × List UInt8
  | [] => ([], some .ended, [])
  | 34 :: rest => ([], none, rest)
  -- a unit, if there are four bytes for its digits; with fewer the text is at its end
  | 92 :: 117 :: a :: b :: c :: d :: rest =>
    match hexUnit? a b c d with
    | some u =>
      let (ps, brk, after) := scanPieces rest
      (.unit u :: ps, brk, after)
    | none => ([], some .badDigits, [])
  | [92] => ([], some .ended, [])
  | 92 :: e :: rest =>
    if e = 117 then ([], some .ended, [])
    else
      match shortEscape? e with
      | some b =>
        let (ps, brk, after) := scanPieces rest
        (.byte b true :: ps, brk, after)
      | none => ([], some .unknownEscape, [])
  | b :: rest =>
    if b.toNat < 32 then ([], some .control, [])
    else
      let (ps, brk, after) := scanPieces rest
      (.byte b false :: ps, brk, after)

theorem length_scanPieces (bs : List UInt8) : (scanPieces bs).2.2.length ≤ bs.length := by
  fun_induction scanPieces bs with
  | case1 => simp
  | case2 => simp
  | case3 a b c d rest u h ps brk after heq ih => simp only [heq] at ih; simp; omega
  | case4 => simp
  | case5 => simp
  | case6 => simp
  | case7 e rest hne hnot b hb ps brk after heq ih => simp only [heq] at ih; simp; omega
  | case8 => simp
  | case9 => simp
  | case10 b rest _ _ _ _ hlt ps brk after heq ih => simp only [heq] at ih; simp; omega

/-- Whether a unit is the first half of a pair. -/
def isLeading (u : Nat) : Bool := 0xD800 ≤ u && u ≤ 0xDBFF

/-- Whether a unit is the second half of a pair. -/
def isTrailing (u : Nat) : Bool := 0xDC00 ≤ u && u ≤ 0xDFFF

/-- The fault of a first half after which the string breaks off. -/
def afterLeading : Option StringBreak → Fault
  | some .ended => .endInString
  | some .badDigits => .invalidEscape
  | _ => .unfinishedSurrogate

/-- The bytes that pieces spell, or the first fault. -/
def spell (brk : Option StringBreak) : List StringPiece → Except Fault (List UInt8)
  | [] => brk.elim (.ok []) (fun b => .error b.fault)
  | .byte b _ :: rest => (spell brk rest).map (b :: ·)
  | .unit u :: rest =>
    if isTrailing u then .error .loneSurrogate
    else if isLeading u then
      match rest with
      | .unit v :: rest =>
        if isTrailing v then
          -- both halves carry ten bits of what lies above the first plane
          let c := Char.ofNat (0x10000 + (u - 0xD800) * 0x400 + (v - 0xDC00))
          (spell brk rest).map (Utf8.encodeChar c ++ ·)
        else .error .loneSurrogate
      | .byte _ _ :: _ => .error .unfinishedSurrogate
      | [] => .error (afterLeading brk)
    else (spell brk rest).map (Utf8.encodeChar (Char.ofNat u) ++ ·)

/-- The text that pieces spell, or the first fault. -/
def spellText (brk : Option StringBreak) (pieces : List StringPiece) : Except Fault String := do
  let bytes ← spell brk pieces
  match Utf8.decode bytes with
  | .ok s => .ok s
  | .error _ => .error .invalidCodePoint

/-- The string after an opening quote, and the bytes after its closing quote. -/
def scanString (bs : List UInt8) : Doc × List UInt8 :=
  let (pieces, brk, rest) := scanPieces bs
  (.string (spellText brk pieces) (brk.map StringBreak.fault), rest)

/-! ## Numbers -/

/-- Whether a byte is a decimal digit. -/
def isDigit (b : UInt8) : Bool := 48 ≤ b.toNat && b.toNat ≤ 57

/-- A number that breaks off: reading tells an early end of the text from a wrong character,
skipping does not. -/
def brokenNumber (rest : List UInt8) : Doc :=
  .number (.error (if rest.isEmpty then .endInValue else .invalidNumber)) (some .invalidNumber)

/-- Adds digits to a significand as long as it stays in 64 bits: the significand and how many
digits were added. -/
def addDigits : (significand added : Nat) → List UInt8 → Nat × Nat
  | s, n, [] => (s, n)
  | s, n, b :: rest =>
    let s' := s * 10 + (b.toNat - 48)
    if s' ≤ Unsigned.max then addDigits s' (n + 1) rest else (s, n)

/-- Scales a significand by a power of ten in steps that each round, as large powers are not exact.
`fuel` bounds the steps down from a very negative exponent. -/
def scale (f : Binary64) : (fuel : Nat) → Int → Except Fault Binary64
  | 0, _ => .ok (.zero false)
  | fuel + 1, e =>
    if e.natAbs ≤ 308 then
      match Binary64.tenTo e.natAbs with
      | none => .error .numberOutOfRange
      | some p =>
        if 0 ≤ e then (f.mul p).elim (.error .numberOutOfRange) .ok
        else .ok ((f.div p).getD f)
    else if f.significand = 0 then .ok f
    else if 0 ≤ e then .error .numberOutOfRange
    else
      match (Binary64.tenTo 308).bind f.div with
      | some g => scale g fuel (e + 308)
      | none => .ok f

/-- The floating point number with the given digits before and after the point and the exponent, of
which `tenfold` says whether it is positive. -/
def realNumber (negative : Bool) (whole fraction exponent : List UInt8) (tenfold : Bool) :
    Except Fault Number :=
  let (s₁, n₁) := addDigits 0 0 whole
  -- digits that do not fit any more count for the exponent, and after the point for nothing
  let dropped := whole.length - n₁
  let (s, n₂) := addDigits s₁ 0 fraction
  let shift : Int := (dropped : Int) - n₂
  let e := Decimal.value (exponent.map fun b => Char.ofNat b.toNat)
  let limit : Nat := Nat.pow 2 31 - 1
  if limit < e then
    if s ≠ 0 && tenfold then .error .numberOutOfRange else .ok (.real (.zero negative))
  else
    let total := if tenfold then shift + e else shift - e
    match Binary64.ofNat s with
    | none => .error .numberOutOfRange
    | some f =>
      match scale f 8 total with
      | .error x => .error x
      | .ok r => .ok (.real { r with negative := negative })

/-- A number without fraction and exponent. It is a floating point number if it does not fit in 64
bits, and if it is a negative zero. -/
def wholeNumber (negative : Bool) (digits : List UInt8) : Except Fault Number :=
  let n := Decimal.value (digits.map fun b => Char.ofNat b.toNat)
  if n ≤ Unsigned.max then
    if negative then
      -- negative zero, and what lies below the least signed number, are not whole any more
      if n = 0 ∨ Nat.pow 2 63 < n then realNumber true digits [] [] true else .ok (.negative n)
    else .ok (.natural n)
  else realNumber negative digits [] [] true

/-- The exponent of a number and what follows it: the sign, the digits and the bytes after. -/
def splitExponent (bs : List UInt8) : Bool × List UInt8 × List UInt8 :=
  match bs with
  | 43 :: rest => (true, rest.takeWhile isDigit, rest.dropWhile isDigit)
  | 45 :: rest => (false, rest.takeWhile isDigit, rest.dropWhile isDigit)
  | rest => (true, rest.takeWhile isDigit, rest.dropWhile isDigit)

/-- A number whose digits before and after the point are known, with its exponent if there is one. -/
def scanExponent (negative : Bool) (whole fraction : List UInt8) (bs : List UInt8) :
    Doc × List UInt8 :=
  match bs with
  | b :: rest =>
    if b = 101 ∨ b = 69 then
      let (tenfold, ds, after) := splitExponent rest
      if ds.isEmpty then (brokenNumber after, [])
      else (.number (realNumber negative whole fraction ds tenfold) none, after)
    else if fraction.isEmpty then (.number (wholeNumber negative whole) none, bs)
    else (.number (realNumber negative whole fraction [] true) none, bs)
  | [] =>
    if fraction.isEmpty then (.number (wholeNumber negative whole) none, [])
    else (.number (realNumber negative whole fraction [] true) none, [])

/-- A number whose digits before the point are known. -/
def scanFraction (negative : Bool) (whole : List UInt8) (bs : List UInt8) : Doc × List UInt8 :=
  match bs with
  | 46 :: rest =>
    let ds := rest.takeWhile isDigit
    let after := rest.dropWhile isDigit
    if ds.isEmpty then (brokenNumber after, []) else scanExponent negative whole ds after
  | _ => scanExponent negative whole [] bs

/-- A number after its sign. No digit may follow a leading zero. -/
def scanDigits (negative : Bool) (bs : List UInt8) : Doc × List UInt8 :=
  let ds := bs.takeWhile isDigit
  let after := bs.dropWhile isDigit
  match ds with
  | [] => (brokenNumber after, [])
  -- a leading zero with more digits after it
  | 48 :: _ :: _ => (.number (.error .invalidNumber) (some .invalidNumber), [])
  | _ => scanFraction negative ds after

/-- The number at the start of the bytes, and the bytes after it. -/
def scanNumber (bs : List UInt8) : Doc × List UInt8 :=
  match bs with
  | 45 :: rest => scanDigits true rest
  | _ => scanDigits false bs

/-! ## Words -/

/-- Matches the rest of a word against its expected letters. -/
def scanWord (result : Doc) : (letters : List Char) → List UInt8 → Doc × List UInt8
  | [], bs => (result, bs)
  | _ :: _, [] => (.broken .endInValue, [])
  | c :: cs, b :: bs =>
    if b.toNat = c.toNat then scanWord result cs bs else (.broken .expectedWord, [])

/-! ## The whole text -/

theorem length_dropWhile_le (p : UInt8 → Bool) (bs : List UInt8) :
    (bs.dropWhile p).length ≤ bs.length :=
  (List.dropWhile_suffix p).length_le

theorem length_splitExponent (bs : List UInt8) : (splitExponent bs).2.2.length ≤ bs.length := by
  unfold splitExponent
  split
  · exact Nat.le_succ_of_le (length_dropWhile_le ..)
  · exact Nat.le_succ_of_le (length_dropWhile_le ..)
  · exact length_dropWhile_le ..

theorem length_scanExponent (negative : Bool) (whole fraction bs : List UInt8) :
    (scanExponent negative whole fraction bs).2.length ≤ bs.length := by
  unfold scanExponent
  split
  · next b rest =>
    split
    · dsimp only
      split
      · simp
      · exact Nat.le_succ_of_le (length_splitExponent rest)
    · split <;> simp
  · split <;> simp

theorem length_scanFraction (negative : Bool) (whole bs : List UInt8) :
    (scanFraction negative whole bs).2.length ≤ bs.length := by
  unfold scanFraction
  split
  · next rest =>
    dsimp only
    split
    · simp
    · exact Nat.le_succ_of_le
        (Nat.le_trans (length_scanExponent ..) (length_dropWhile_le isDigit rest))
  · exact length_scanExponent ..

theorem length_scanDigits_lt (negative : Bool) (b : UInt8) (bs : List UInt8) :
    (scanDigits negative (b :: bs)).2.length ≤ bs.length := by
  unfold scanDigits
  dsimp only
  split
  · simp
  · simp
  · next hne _ =>
    refine Nat.le_trans (length_scanFraction ..) ?_
    by_cases h : isDigit b = true
    · simpa [List.dropWhile_cons, h] using length_dropWhile_le isDigit bs
    · exact absurd (by simp [h]) hne

theorem length_scanDigits (negative : Bool) (bs : List UInt8) :
    (scanDigits negative bs).2.length ≤ bs.length := by
  cases bs with
  | nil => simp [scanDigits]
  | cons b bs => exact Nat.le_succ_of_le (length_scanDigits_lt negative b bs)

theorem length_scanNumber (b : UInt8) (bs : List UInt8) :
    (scanNumber (b :: bs)).2.length ≤ bs.length := by
  unfold scanNumber
  split
  · next rest h =>
    injection h with h₁ h₂
    subst h₂
    exact length_scanDigits true bs
  · exact length_scanDigits_lt false b bs

theorem length_scanWord (result : Doc) (letters : List Char) (bs : List UInt8) :
    (scanWord result letters bs).2.length ≤ bs.length := by
  fun_induction scanWord result letters bs with
  | case1 => exact Nat.le_refl _
  | case2 => exact Nat.le_refl _
  | case3 _ _ _ _ _ ih => exact Nat.le_succ_of_le ih
  | case4 => exact Nat.zero_le _

/-- The token that starts with a byte, and the bytes after it. -/
def scanToken (b : UInt8) (bs : List UInt8) : Token × List UInt8 :=
  match Char.ofNat b.toNat with
  | '[' => (.openBracket, bs)
  | ']' => (.closeBracket, bs)
  | '\x7b' => (.openBrace, bs)
  | '\x7d' => (.closeBrace, bs)
  | ',' => (.comma, bs)
  | ':' => (.colon, bs)
  | '"' => let r := scanString bs; (.leaf r.1, r.2)
  | 'n' => let r := scanWord .null "ull".toList bs; (.leaf r.1, r.2)
  | 't' => let r := scanWord (.bool true) "rue".toList bs; (.leaf r.1, r.2)
  | 'f' => let r := scanWord (.bool false) "alse".toList bs; (.leaf r.1, r.2)
  | c =>
    if c = '-' ∨ isDigit b then let r := scanNumber (b :: bs); (.leaf r.1, r.2)
    else (.leaf (.broken .expectedValue), [])

theorem length_scanToken (b : UInt8) (bs : List UInt8) :
    (scanToken b bs).2.length ≤ bs.length := by
  unfold scanToken
  split <;> try exact Nat.le_refl _
  · exact length_scanPieces bs
  · exact length_scanWord ..
  · exact length_scanWord ..
  · exact length_scanWord ..
  · split
    · exact length_scanNumber b bs
    · exact Nat.zero_le _

/-- Whether a byte is a blank between tokens. -/
def isBlank (b : UInt8) : Bool := b = 32 || b = 9 || b = 10 || b = 13

/-- The tokens of a text. -/
def tokens : List UInt8 → List Token
  | [] => []
  | b :: bs =>
    if isBlank b then tokens bs else (scanToken b bs).1 :: tokens (scanToken b bs).2
termination_by bs => bs.length
decreasing_by
  · exact Nat.lt_succ_self _
  · exact Nat.lt_succ_of_le (length_scanToken b bs)

end DatasetCatalog.Json
