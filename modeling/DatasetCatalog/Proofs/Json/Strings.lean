import DatasetCatalog.Json.Render
import DatasetCatalog.Json.Token
import DatasetCatalog.Proofs.Text.Utf8

/-!
# Strings survive their rendering

What `renderString` writes, `scanString` reads. Every character is written as a run of bytes that
the scanner takes as a run of pieces, whatever follows (`Takes`), and these pieces spell the bytes of
the character again (`Spells`). Both compose, so a string is read back because each of its characters
is (`exists_pieces_escapeChar`): a character that needs an escape as one piece, any other as one
piece for each of its bytes.
-/

namespace DatasetCatalog.Json

/-! ### Runs of bytes and of pieces -/

/-- The scanner takes these bytes as these pieces, whatever follows them. -/
def Takes (bs : List UInt8) (ps : List StringPiece) : Prop :=
  ∀ rest, scanPieces (bs ++ rest) = (ps ++ (scanPieces rest).1, (scanPieces rest).2)

/-- These pieces spell these bytes, whatever follows them. -/
def Spells (ps : List StringPiece) (bs : List UInt8) : Prop :=
  ∀ rest, spell none (ps ++ rest) = (spell none rest).map (bs ++ ·)

theorem Takes.nil : Takes [] [] := fun _ => rfl

theorem Takes.append {as bs : List UInt8} {ps qs : List StringPiece} (ha : Takes as ps)
    (hb : Takes bs qs) : Takes (as ++ bs) (ps ++ qs) := by
  intro rest
  rw [List.append_assoc, ha, hb, List.append_assoc]

theorem Spells.nil : Spells [] [] := by
  intro rest
  cases h : spell none rest <;> simp [h, Except.map]

theorem Spells.append {ps qs : List StringPiece} {as bs : List UInt8} (ha : Spells ps as)
    (hb : Spells qs bs) : Spells (ps ++ qs) (as ++ bs) := by
  intro rest
  rw [List.append_assoc, ha, hb]
  cases spell none rest <;> simp [Except.map]

/-! ### Single pieces -/

/-- A byte that stands for itself. -/
theorem takes_plain {b : UInt8} (quote : b ≠ 34) (backslash : b ≠ 92) (control : 32 ≤ b.toNat) :
    Takes [b] [.byte b false] := by
  intro rest
  rw [List.cons_append, List.nil_append, scanPieces, if_neg (Nat.not_lt.2 control)]
  · rfl
  · exact quote
  · exact fun _ _ _ _ _ h => absurd h backslash
  · exact fun h => absurd h backslash
  · exact fun _ _ h => absurd h backslash

/-- The escape of a single character. -/
theorem takes_short {e b : UInt8} (h : shortEscape? e = some b) : Takes [92, e] [.byte b true] := by
  have notUnit : e ≠ 117 := by
    rintro rfl
    cases h
  intro rest
  rw [List.cons_append, List.cons_append, List.nil_append, scanPieces, if_neg notUnit, h]
  · rfl
  · exact fun _ _ _ _ _ h => absurd h notUnit

/-- The escape of a unit. -/
theorem takes_unit {a b c d : UInt8} {u : Nat} (h : hexUnit? a b c d = some u) :
    Takes [92, 117, a, b, c, d] [.unit u] := by
  intro rest
  simp only [List.cons_append, List.nil_append]
  rw [scanPieces, h]

theorem spells_byte (b : UInt8) (escaped : Bool) : Spells [.byte b escaped] [b] := by
  intro rest
  rfl

/-- A unit that is no half of a pair spells its character. -/
theorem spells_unit {u : Nat} (h : u < 0xD800) :
    Spells [.unit u] (Utf8.encodeChar (Char.ofNat u)) := by
  have leading : isLeading u = false := by simp [isLeading]; omega
  have trailing : isTrailing u = false := by simp [isTrailing]; omega
  intro rest
  rw [List.cons_append, List.nil_append, spell.eq_def]
  simp only [leading, trailing, Bool.false_eq_true, if_false]

/-! ### Characters -/

/-- The four digits of a control character denote it. -/
theorem hexUnit?_fixed {n : Nat} (h : n < 32) :
    ∃ a b c d, Utf8.encodeChars (Hex.fixed 4 n) = [a, b, c, d] ∧ hexUnit? a b c d = some n := by
  interval_cases n <;> exact ⟨_, _, _, _, rfl, rfl⟩

/-- A character that stands for itself is taken byte by byte. -/
theorem exists_pieces_plain {bs : List UInt8}
    (h : ∀ b ∈ bs, b ≠ 34 ∧ b ≠ 92 ∧ 32 ≤ b.toNat) : ∃ ps, Takes bs ps ∧ Spells ps bs := by
  induction bs with
  | nil => exact ⟨[], .nil, .nil⟩
  | cons b bs ih =>
    obtain ⟨quote, backslash, control⟩ := h b List.mem_cons_self
    obtain ⟨ps, takes, spells⟩ := ih fun b hb => h b (List.mem_cons_of_mem _ hb)
    exact ⟨.byte b false :: ps, (takes_plain quote backslash control).append takes,
      (spells_byte b false).append spells⟩

/-- A character that is written as two. -/
theorem exists_pieces_short {c e : Char} {n : Nat} {b : UInt8} (character : c = Char.ofNat n)
    (written : Utf8.encodeChars ['\\', e] = [92, UInt8.ofNat e.toNat])
    (escape : shortEscape? (UInt8.ofNat e.toNat) = some b)
    (read : Utf8.encodeChar (Char.ofNat n) = [b]) :
    ∃ ps, Takes (Utf8.encodeChars ['\\', e]) ps ∧ Spells ps (Utf8.encodeChar c) := by
  subst character
  rw [written, read]
  exact ⟨_, takes_short escape, spells_byte b true⟩

/-- A control character is written as its number. -/
theorem exists_pieces_control {c : Char} (control : c.toNat < 32) :
    ∃ ps, Takes (Utf8.encodeChars (['\\', 'u'] ++ Hex.fixed 4 c.toNat)) ps ∧
      Spells ps (Utf8.encodeChar c) := by
  obtain ⟨a₁, a₂, a₃, a₄, digits, value⟩ := hexUnit?_fixed control
  have written : Utf8.encodeChars (['\\', 'u'] ++ Hex.fixed 4 c.toNat) =
      [92, 117, a₁, a₂, a₃, a₄] := by
    rw [Utf8.encodeChars_append, digits]
    rfl
  have spells := spells_unit (u := c.toNat) (by omega)
  rw [Char.ofNat_toNat c] at spells
  rw [written]
  exact ⟨_, takes_unit value, spells⟩

/-- No byte of another character ends a string or begins an escape. -/
theorem plain_of_mem_encodeChar {c : Char} (quote : c ≠ '"') (backslash : c ≠ '\\')
    (control : ¬ c.toNat < 32) {b : UInt8} (hb : b ∈ Utf8.encodeChar c) :
    b ≠ 34 ∧ b ≠ 92 ∧ 32 ≤ b.toNat := by
  have back : Char.ofNat c.toNat = c := Char.ofNat_toNat c
  by_cases ascii : c.toNat < 0x80
  · rw [Utf8.encodeChar_ascii ascii, List.mem_singleton] at hb
    have value : b.toNat = c.toNat := hb ▸ Utf8.toNat_byte (by omega)
    refine ⟨?_, ?_, by omega⟩
    · rintro rfl
      exact quote (back.symm.trans (congrArg Char.ofNat value.symm))
    · rintro rfl
      exact backslash (back.symm.trans (congrArg Char.ofNat value.symm))
  · have high := Utf8.encodeChar_high (Nat.not_lt.1 ascii) hb
    refine ⟨?_, ?_, by omega⟩
    · rintro rfl
      exact absurd high (by decide)
    · rintro rfl
      exact absurd high (by decide)

/-- What a character is written as is taken as pieces that spell it. -/
theorem exists_pieces_escapeChar (c : Char) :
    ∃ ps, Takes (Utf8.encodeChars (escapeChar c)) ps ∧ Spells ps (Utf8.encodeChar c) := by
  have back : Char.ofNat c.toNat = c := Char.ofNat_toNat c
  unfold escapeChar
  by_cases quote : c = '"'
  · rw [if_pos quote]
    exact exists_pieces_short (n := 34) quote rfl rfl rfl
  rw [if_neg quote]
  by_cases backslash : c = '\\'
  · rw [if_pos backslash]
    exact exists_pieces_short (n := 92) backslash rfl rfl rfl
  rw [if_neg backslash]
  by_cases backspace : c.toNat = 8
  · rw [if_pos backspace]
    exact exists_pieces_short (n := 8) (backspace ▸ back.symm) rfl rfl rfl
  rw [if_neg backspace]
  by_cases formFeed : c.toNat = 12
  · rw [if_pos formFeed]
    exact exists_pieces_short (n := 12) (formFeed ▸ back.symm) rfl rfl rfl
  rw [if_neg formFeed]
  by_cases lineFeed : c = '\n'
  · rw [if_pos lineFeed]
    exact exists_pieces_short (n := 10) lineFeed rfl rfl rfl
  rw [if_neg lineFeed]
  by_cases carriageReturn : c = '\r'
  · rw [if_pos carriageReturn]
    exact exists_pieces_short (n := 13) carriageReturn rfl rfl rfl
  rw [if_neg carriageReturn]
  by_cases tab : c = '\t'
  · rw [if_pos tab]
    exact exists_pieces_short (n := 9) tab rfl rfl rfl
  rw [if_neg tab]
  by_cases control : c.toNat < 32
  · rw [if_pos control]
    exact exists_pieces_control control
  · rw [if_neg control]
    have bytes : Utf8.encodeChars [c] = Utf8.encodeChar c := by simp
    rw [bytes]
    exact exists_pieces_plain fun b hb => plain_of_mem_encodeChar quote backslash control hb

/-! ### Strings -/

theorem exists_pieces (cs : List Char) : ∃ ps,
    Takes (Utf8.encodeChars (cs.flatMap escapeChar)) ps ∧ Spells ps (Utf8.encodeChars cs) := by
  induction cs with
  | nil => exact ⟨[], .nil, .nil⟩
  | cons c cs ih =>
    obtain ⟨ps, takes, spells⟩ := exists_pieces_escapeChar c
    obtain ⟨qs, takes', spells'⟩ := ih
    rw [List.flatMap_cons, Utf8.encodeChars_append, Utf8.encodeChars_cons]
    exact ⟨ps ++ qs, takes.append takes', spells.append spells'⟩

/-- After its opening quote, a rendered string is read up to its closing quote. -/
theorem scanString_render (s : String) (rest : List UInt8) :
    scanString (Utf8.encodeChars (s.toList.flatMap escapeChar ++ ['"']) ++ rest) =
      (.string (.ok s) none, rest) := by
  obtain ⟨ps, takes, spells⟩ := exists_pieces s.toList
  have closing : scanPieces (34 :: rest) = ([], none, rest) := by rw [scanPieces]
  have pieces : scanPieces (Utf8.encodeChars (s.toList.flatMap escapeChar ++ ['"']) ++ rest) =
      (ps, none, rest) := by
    have bytes : Utf8.encodeChars ['"'] = [34] := rfl
    rw [Utf8.encodeChars_append, bytes, List.append_assoc, takes, List.cons_append,
      List.nil_append, closing, List.append_nil]
  have spelled : spell none ps = pure (Utf8.encode s) := by
    have := spells []
    rw [List.append_nil] at this
    rw [this, spell]
    exact congrArg Except.ok (List.append_nil _)
  have text : spellText none ps = .ok s := by
    rw [spellText, spelled, pure_bind, Utf8.decode_encode]
  rw [scanString, pieces]
  exact congrArg (fun text => (Doc.string text none, rest)) text

end DatasetCatalog.Json
