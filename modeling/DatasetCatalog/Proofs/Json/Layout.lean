import DatasetCatalog.Proofs.Json.Strings

/-!
# Both layouts have the tokens of the value

`Value.tokens` lists the tokens of a value, without any text. The compact and the indented layout of
a value are texts with exactly these tokens (`lays_compact`, `lays_indented`): they differ in blanks,
and those are no tokens. `Lays` composes, so each layout is followed piece by piece as it is
written.

Values with numbers are left out. No record that is stored or sent has any.
-/

namespace DatasetCatalog.Json

namespace Value

mutual

/-- No number occurs in the value. -/
def Numberless : Value → Prop
  | .number _ => False
  | .array items => NumberlessItems items
  | .object members => NumberlessMembers members
  | _ => True

/-- `Numberless` on each item. -/
def NumberlessItems : List Value → Prop
  | [] => True
  | v :: rest => Numberless v ∧ NumberlessItems rest

/-- `Numberless` on each member. -/
def NumberlessMembers : List (String × Value) → Prop
  | [] => True
  | (_, v) :: rest => Numberless v ∧ NumberlessMembers rest

end

/-- The token of a string. -/
def stringToken (s : String) : Token := .leaf (.string (.ok s) none)

mutual

/-- The tokens of a value. -/
def tokens : Value → List Token
  | .array items => .openBracket :: (itemTokens items ++ [.closeBracket])
  | .object members => .openBrace :: (memberTokens members ++ [.closeBrace])
  | .string s => [stringToken s]
  | .bool b => [.leaf (.bool b)]
  | .null => [.leaf .null]
  | .number n => [.leaf (.number (.ok n) none)]

/-- The tokens of items with commas between them. -/
def itemTokens : List Value → List Token
  | [] => []
  | [v] => tokens v
  | v :: rest => tokens v ++ .comma :: itemTokens rest

/-- The tokens of members with commas between them. -/
def memberTokens : List (String × Value) → List Token
  | [] => []
  | [(k, v)] => stringToken k :: .colon :: tokens v
  | (k, v) :: rest => stringToken k :: .colon :: (tokens v ++ .comma :: memberTokens rest)

end

theorem itemTokens_cons (v : Value) {rest : List Value} (h : rest ≠ []) :
    itemTokens (v :: rest) = tokens v ++ .comma :: itemTokens rest := by
  cases rest with
  | nil => exact absurd rfl h
  | cons w rest => rfl

theorem memberTokens_cons (k : String) (v : Value) {rest : List (String × Value)} (h : rest ≠ []) :
    memberTokens ((k, v) :: rest) =
      stringToken k :: .colon :: (tokens v ++ .comma :: memberTokens rest) := by
  cases rest with
  | nil => exact absurd rfl h
  | cons m rest => rfl

end Value

/-! ### Texts and their tokens -/

/-- A text is cut into these tokens, whatever follows it. -/
def Lays (cs : List Char) (ts : List Token) : Prop :=
  ∀ rest, tokens (Utf8.encodeChars cs ++ rest) = ts ++ tokens rest

namespace Lays

theorem nil : Lays [] [] := fun _ => rfl

theorem append {cs ds : List Char} {ts us : List Token} (hc : Lays cs ts) (hd : Lays ds us) :
    Lays (cs ++ ds) (ts ++ us) := by
  intro rest
  rw [Utf8.encodeChars_append, List.append_assoc, hc, hd, List.append_assoc]

theorem cons {c : Char} {cs : List Char} {t : Token} {ts : List Token} (hc : Lays [c] [t])
    (hd : Lays cs ts) : Lays (c :: cs) (t :: ts) := hc.append hd

/-- A blank is no token. -/
theorem skip {c : Char} {cs : List Char} {ts : List Token} (hc : Lays [c] []) (hd : Lays cs ts) :
    Lays (c :: cs) ts := hc.append hd

end Lays

/-- A character whose byte is a token by itself. -/
theorem lays_of_scanToken {c : Char} {t : Token} (ascii : c.toNat < 0x80)
    (blank : isBlank (UInt8.ofNat c.toNat) = false)
    (scanned : ∀ rest, scanToken (UInt8.ofNat c.toNat) rest = (t, rest)) : Lays [c] [t] := by
  intro rest
  have bytes : Utf8.encodeChars [c] = [UInt8.ofNat c.toNat] := by
    rw [Utf8.encodeChars_cons, Utf8.encodeChar_ascii ascii]
    rfl
  rw [bytes, List.cons_append, List.nil_append, tokens, blank, scanned]
  rfl

theorem lays_blank {c : Char} (ascii : c.toNat < 0x80)
    (blank : isBlank (UInt8.ofNat c.toNat) = true) : Lays [c] [] := by
  intro rest
  have bytes : Utf8.encodeChars [c] = [UInt8.ofNat c.toNat] := by
    rw [Utf8.encodeChars_cons, Utf8.encodeChar_ascii ascii]
    rfl
  rw [bytes, List.cons_append, List.nil_append, tokens, blank]
  rfl

theorem lays_openBracket : Lays ['['] [.openBracket] :=
  lays_of_scanToken (by decide) rfl fun _ => rfl

theorem lays_closeBracket : Lays [']'] [.closeBracket] :=
  lays_of_scanToken (by decide) rfl fun _ => rfl

theorem lays_openBrace : Lays ['\x7b'] [.openBrace] :=
  lays_of_scanToken (by decide) rfl fun _ => rfl

theorem lays_closeBrace : Lays ['\x7d'] [.closeBrace] :=
  lays_of_scanToken (by decide) rfl fun _ => rfl

theorem lays_comma : Lays [','] [.comma] := lays_of_scanToken (by decide) rfl fun _ => rfl

theorem lays_colon : Lays [':'] [.colon] := lays_of_scanToken (by decide) rfl fun _ => rfl

theorem lays_space : Lays [' '] [] := lays_blank (by decide) rfl

theorem lays_newLine (level : Nat) : Lays (Value.newLine level) [] := by
  have spaces : ∀ n, Lays (List.replicate n ' ') [] := by
    intro n
    induction n with
    | zero => exact .nil
    | succ n ih => exact .skip lays_space ih
  exact .skip (lays_blank (by decide) rfl) (spaces _)

theorem lays_string (s : String) : Lays (renderString s) [Value.stringToken s] := by
  intro rest
  have quote : Utf8.encodeChar '"' = [34] := rfl
  rw [renderString, Utf8.encodeChars_cons, quote, List.cons_append, List.cons_append,
    List.nil_append, tokens]
  have scanned : scanToken 34 (Utf8.encodeChars (s.toList.flatMap escapeChar ++ ['"']) ++ rest) =
      (Value.stringToken s, rest) := by
    have := scanString_render s rest
    show (let r := scanString _; (Token.leaf r.1, r.2)) = _
    rw [this]
    rfl
  rw [scanned]
  rfl

/-- The rest of a word is matched letter by letter. -/
theorem scanWord_encode (d : Doc) (letters : List Char)
    (ascii : (letters.all fun c => c.toNat < 0x80) = true) (rest : List UInt8) :
    scanWord d letters (Utf8.encodeChars letters ++ rest) = (d, rest) := by
  induction letters with
  | nil => rfl
  | cons c cs ih =>
    obtain ⟨small, others⟩ : c.toNat < 0x80 ∧ (cs.all fun c => c.toNat < 0x80) = true := by
      simpa using ascii
    have value : (UInt8.ofNat c.toNat).toNat = c.toNat := Utf8.toNat_byte (by omega)
    rw [Utf8.encodeChars_cons, Utf8.encodeChar_ascii small, List.append_assoc, List.cons_append,
      List.nil_append, scanWord, if_pos value]
    exact ih others

/-- A word is the token that its first letter stands for. -/
theorem lays_word {first : Char} {letters : List Char} {d : Doc} (ascii : first.toNat < 0x80)
    (small : (letters.all fun c => c.toNat < 0x80) = true)
    (blank : isBlank (UInt8.ofNat first.toNat) = false)
    (scanned : ∀ bs, scanToken (UInt8.ofNat first.toNat) bs =
      (.leaf (scanWord d letters bs).1, (scanWord d letters bs).2)) :
    Lays (first :: letters) [.leaf d] := by
  intro rest
  rw [Utf8.encodeChars_cons, Utf8.encodeChar_ascii ascii, List.append_assoc, List.cons_append,
    List.nil_append, tokens, blank, scanned, scanWord_encode d letters small]
  rfl

/-! ### Values -/

/-- A value without parts. -/
theorem lays_scalar {v : Value} (h : v.Numberless) (array : ∀ items, v ≠ .array items)
    (object : ∀ members, v ≠ .object members) : Lays v.renderScalar v.tokens := by
  cases v with
  | null => exact lays_word (by decide) rfl rfl fun _ => rfl
  | bool b => cases b <;> exact lays_word (by decide) rfl rfl fun _ => rfl
  | number n => exact h.elim
  | string s => exact lays_string s
  | array items => exact absurd rfl (array items)
  | object members => exact absurd rfl (object members)

mutual

/-- The compact layout has the tokens of the value. -/
theorem lays_compact : (v : Value) → v.Numberless → Lays v.compactChars v.tokens
  | .null, h | .bool _, h | .number _, h | .string _, h => lays_scalar h nofun nofun
  | .array items, h => .cons lays_openBracket ((lays_compactItems items h).append lays_closeBracket)
  | .object members, h =>
    .cons lays_openBrace ((lays_compactMembers members h).append lays_closeBrace)

theorem lays_compactItems : (vs : List Value) → Value.NumberlessItems vs →
    Lays (Value.compactItems vs) (Value.itemTokens vs)
  | [], _ => .nil
  | [v], h => lays_compact v h.1
  | v :: w :: rest, h =>
    (lays_compact v h.1).append (.cons lays_comma (lays_compactItems (w :: rest) h.2))

theorem lays_compactMembers : (ms : List (String × Value)) → Value.NumberlessMembers ms →
    Lays (Value.compactMembers ms) (Value.memberTokens ms)
  | [], _ => .nil
  | [(k, v)], h => (lays_string k).append (.cons lays_colon (lays_compact v h.1))
  | (k, v) :: m :: rest, h =>
    (lays_string k).append (.cons lays_colon ((lays_compact v h.1).append
      (.cons lays_comma (lays_compactMembers (m :: rest) h.2))))

end

mutual

/-- The indented layout has the tokens of the value. -/
theorem lays_indented (level : Nat) : (v : Value) → v.Numberless →
    Lays (v.indentedChars level) v.tokens
  | .null, h | .bool _, h | .number _, h | .string _, h => lays_scalar h nofun nofun
  | .array [], _ => .cons lays_openBracket lays_closeBracket
  | .array (v :: rest), h =>
    have items := lays_indentedItems (level + 1) (v :: rest) h
    have body := (items.append (lays_newLine level)).append lays_closeBracket
    .cons lays_openBracket (by rwa [List.append_nil] at body)
  | .object [], _ => .cons lays_openBrace lays_closeBrace
  | .object (m :: rest), h =>
    have members := lays_indentedMembers (level + 1) (m :: rest) h
    have body := (members.append (lays_newLine level)).append lays_closeBrace
    .cons lays_openBrace (by rwa [List.append_nil] at body)

theorem lays_indentedItems (level : Nat) : (vs : List Value) → Value.NumberlessItems vs →
    Lays (Value.indentedItems level vs) (Value.itemTokens vs)
  | [], _ => .nil
  | [v], h => (lays_newLine level).append (lays_indented level v h.1)
  | v :: w :: rest, h =>
    ((lays_newLine level).append (lays_indented level v h.1)).append
      (.cons lays_comma (lays_indentedItems level (w :: rest) h.2))

theorem lays_indentedMembers (level : Nat) : (ms : List (String × Value)) →
    Value.NumberlessMembers ms → Lays (Value.indentedMembers level ms) (Value.memberTokens ms)
  | [], _ => .nil
  | [(k, v)], h =>
    ((lays_newLine level).append (lays_string k)).append
      (.cons lays_colon (.skip lays_space (lays_indented level v h.1)))
  | (k, v) :: m :: rest, h =>
    ((lays_newLine level).append (lays_string k)).append
      (.cons lays_colon (.skip lays_space ((lays_indented level v h.1).append
        (.cons lays_comma (lays_indentedMembers level (m :: rest) h.2)))))

end

end DatasetCatalog.Json
