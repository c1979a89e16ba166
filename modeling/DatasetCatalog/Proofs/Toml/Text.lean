import DatasetCatalog.Proofs.Text.Decimal
import DatasetCatalog.Toml.Text

/-!
# Strings survive their text

Whatever characters a string has, and whichever of the four forms is chosen for it, it is read back
(`readText_writeText`), provided that no quote follows it.
-/

namespace DatasetCatalog.Toml

variable {c : Char} {cs rest : List Char}

/-! ### Characters between double quotes -/

theorem scalar?_toNat (c : Char) : scalar? c.toNat = some c := by
  rw [scalar?, dif_pos (show c.toNat.isValidChar from c.valid)]
  rfl

theorem hexValue_control : ∀ n < 128,
    Hex.value? ['0', '0', upperDigit (n / 16), upperDigit (n % 16)] = some n := by decide

/-- A control character is named by the four digits of its code. -/
theorem hexChar?_control (h : isPlain c = false) :
    hexChar? ['0', '0', upperDigit (c.toNat / 16), upperDigit (c.toNat % 16)] = some c := by
  have small : c.toNat < 128 := by
    simp [isPlain] at h
    omega
  rw [hexChar?, hexValue_control _ small]
  exact scalar?_toNat c

/-- A character is written as an escape that stands for it, or as itself. -/
theorem writeChar_cases (overLines : Bool) (c : Char) :
    (∃ e, writeChar overLines c = '\\' :: e ∧ ∀ rest, escape? (e ++ rest) = some (c, rest)) ∨
      writeChar overLines c = [c] ∧ c ≠ '\\' ∧
        (isPlain c = true ∨ overLines = true ∧ c = '\n') := by
  unfold writeChar
  split
  · next h => exact .inl ⟨['b'], rfl, fun rest => by simp [escape?, h]⟩
  split
  · next h => exact .inl ⟨['t'], rfl, fun rest => by simp [escape?, h]⟩
  split
  · next h =>
    cases overLines with
    | true => exact .inr ⟨by simp [h], by simp [h], .inr ⟨rfl, h⟩⟩
    | false => exact .inl ⟨['n'], rfl, fun rest => by simp [escape?, h]⟩
  split
  · next h => exact .inl ⟨['f'], rfl, fun rest => by simp [escape?, h]⟩
  split
  · next h => exact .inl ⟨['r'], rfl, fun rest => by simp [escape?, h]⟩
  split
  · next h => exact .inl ⟨['\\'], rfl, fun rest => by simp [escape?, h]⟩
  split
  · next h plain => exact .inr ⟨rfl, h, .inl plain⟩
  · next plain =>
    have named := hexChar?_control (Bool.eq_false_iff.2 plain)
    exact .inl ⟨_, rfl, fun rest => by simp [escape?, named]⟩

theorem basicBody_quote : basicBody ('"' :: rest) = some ([], rest) := by
  rw [basicBody]

theorem basicBody_escape {e : List Char} (h : escape? e = some (c, rest)) :
    basicBody ('\\' :: e) = consText c (basicBody rest) := by
  rw [basicBody]
  split
  · next read =>
    cases h.symm.trans read
    rfl
  · next read => cases h.symm.trans read

theorem basicBody_plain (plain : isPlain c = true) (quote : c ≠ '"') (backslash : c ≠ '\\') :
    basicBody (c :: rest) = consText c (basicBody rest) := by
  rw [basicBody, if_pos plain]
  · simpa using quote
  · simpa using backslash

theorem writeChars_quote {overLines : Bool} {bare : Nat} (h : (overLines && bare < 2) = false) :
    writeChars overLines bare ('"' :: cs) = '\\' :: '"' :: writeChars overLines 0 cs := by
  rw [writeChars, if_pos rfl, h]
  exact if_neg Bool.false_ne_true

theorem writeChars_char {overLines : Bool} {bare : Nat} (h : c ≠ '"') :
    writeChars overLines bare (c :: cs) = writeChar overLines c ++ writeChars overLines 0 cs := by
  simp [writeChars, h]

/-- A basic string is read up to its closing quote. -/
theorem basicBody_writeChars (cs rest : List Char) :
    basicBody (writeChars false 0 cs ++ '"' :: rest) = some (cs, rest) := by
  induction cs with
  | nil => exact basicBody_quote
  | cons c cs ih =>
    have more : consText c (basicBody (writeChars false 0 cs ++ '"' :: rest)) =
        some (c :: cs, rest) := by rw [ih]; rfl
    by_cases quote : c = '"'
    · subst quote
      rw [writeChars_quote rfl, ← more]
      exact basicBody_escape rfl
    · rw [writeChars_char quote, List.append_assoc, ← more]
      rcases writeChar_cases false c with ⟨e, written, read⟩ | ⟨written, backslash, plain⟩
      · rw [written, List.cons_append]
        exact basicBody_escape (read _)
      · rw [written]
        exact basicBody_plain (by simpa using plain) quote backslash

/-- A literal string is read up to its closing quote. -/
theorem literalBody_text (plain : ∀ c ∈ cs, isPlain c = true) (quote : '\'' ∉ cs) :
    literalBody (cs ++ '\'' :: rest) = some (cs, rest) := by
  induction cs with
  | nil => rfl
  | cons c cs ih =>
    have other : c ≠ '\'' := fun same => quote (same ▸ List.mem_cons_self)
    have tail := ih (fun d hd => plain d (List.mem_cons_of_mem _ hd))
      fun h => quote (List.mem_cons_of_mem _ h)
    rw [List.cons_append, literalBody, if_pos (plain c List.mem_cons_self), tail]
    · rfl
    · simpa using other

/-! ### Strings over lines -/

/-- How many quotes a text starts with. -/
def quotesAhead (quote : Char) (cs : List Char) : Nat := (cs.takeWhile (· = quote)).length

theorem quotesAhead_other {quote : Char} (h : c ≠ quote) : quotesAhead quote (c :: cs) = 0 := by
  simp [quotesAhead, h]

theorem quotesAhead_quote (quote : Char) :
    quotesAhead quote (quote :: cs) = quotesAhead quote cs + 1 := by
  simp [quotesAhead]

/-- Less than three quotes do not end a string over lines. -/
theorem closing?_eq_none {quote : Char} (h : quotesAhead quote cs < 3) :
    closing? quote cs = none := by
  rw [closing?]
  exact if_neg (Nat.not_le.2 h)

/-- Up to two quotes in front of the closing ones belong to the string. -/
theorem closing?_replicate {quote : Char} {k : Nat} (h : k ≤ 2)
    (ends : Ends (fun c => decide (c = quote)) rest) :
    closing? quote (List.replicate k quote ++ (quote :: quote :: quote :: rest)) =
      some (List.replicate k quote, rest) := by
  have shape : List.replicate k quote ++ (quote :: quote :: quote :: rest) =
      List.replicate (k + 3) quote ++ rest := by
    rw [← List.replicate_append_replicate, List.append_assoc]
    rfl
  have run : (List.replicate (k + 3) quote ++ rest).takeWhile (fun c => decide (c = quote)) =
      List.replicate (k + 3) quote := takeWhile_run (by simp) ends
  have extra : min (k + 3 - 3) 2 = k := by omega
  have drop : (List.replicate (k + 3) quote ++ rest).drop (3 + k) = rest := by
    have length : 3 + k = (List.replicate (k + 3) quote).length := by
      rw [List.length_replicate, Nat.add_comm]
    rw [length, List.drop_left]
  rw [shape, closing?, run, List.length_replicate, extra, drop]
  exact if_pos (Nat.le_add_left 3 k)

section
variable (ends : Ends (fun c => decide (c = '"')) rest)

/-- What is written of a string over lines never has three quotes side by side, unless only quotes
are left of it and they stand before the closing ones. -/
theorem quotesAhead_writeChars {bare : Nat} (few : bare ≤ 2) (cs rest : List Char) :
    (∃ k, cs = List.replicate k '"' ∧ writeChars true bare cs = cs ∧ bare + k ≤ 2) ∨
      quotesAhead '"' (writeChars true bare cs ++ ('"' :: '"' :: '"' :: rest)) + bare ≤ 2 := by
  -- on the text; `bare` counts the quotes that were written directly before it
  induction cs generalizing bare with
  | nil => exact .inl ⟨0, rfl, rfl, few⟩
  | cons c cs ih =>
    by_cases quote : c = '"'
    · subst quote
      by_cases more : bare < 2
      · have written : writeChars true bare ('"' :: cs) = '"' :: writeChars true (bare + 1) cs := by
          simp [writeChars, more]
        rw [written]
        rcases ih (show bare + 1 ≤ 2 from more) with ⟨k, rfl, same, small⟩ | small
        · exact .inl ⟨k + 1, rfl, by rw [same], by omega⟩
        · refine .inr ?_
          rw [List.cons_append, quotesAhead_quote]
          omega
      · rw [writeChars_quote (by simp [more])]
        refine .inr ?_
        rw [List.cons_append, quotesAhead_other (by decide)]
        omega
    · rw [writeChars_char quote]
      refine .inr ?_
      rcases writeChar_cases true c with ⟨e, written, -⟩ | ⟨written, -⟩
      · rw [written, List.cons_append, List.cons_append, quotesAhead_other (by decide)]
        omega
      · rw [written, List.append_assoc, List.cons_append, quotesAhead_other quote]
        omega

theorem basicLines_escape {e : List Char} (h : escape? e = some (c, rest)) :
    basicLines ('\\' :: e) = consText c (basicLines rest) := by
  rw [basicLines, closing?_eq_none (by rw [quotesAhead_other (by decide)]; decide)]
  dsimp only
  split
  · next read =>
    cases h.symm.trans read
    rfl
  · next read => cases h.symm.trans read

theorem basicLines_plain (few : quotesAhead '"' (c :: rest) < 3) (backslash : c ≠ '\\')
    (plain : c = '\n' ∨ isPlain c = true) :
    basicLines (c :: rest) = consText c (basicLines rest) := by
  have return_ : c ≠ '\r' := by
    intro same
    simp [same, isPlain] at plain
  rw [basicLines, closing?_eq_none few]
  · simp [plain]
  · exact backslash
  · exact fun _ same => absurd same return_

theorem basicLines_closing {ending : List Char × List Char} (h : closing? '"' cs = some ending) :
    basicLines cs = some ending := by
  rw [basicLines.eq_def, h]

include ends in
/-- A basic string over lines is read up to its closing quotes. -/
theorem basicLines_writeChars {bare : Nat} (few : bare ≤ 2) (cs : List Char) :
    basicLines (writeChars true bare cs ++ ('"' :: '"' :: '"' :: rest)) = some (cs, rest) := by
  induction cs generalizing bare with
  | nil => exact basicLines_closing (closing?_replicate (k := 0) (Nat.zero_le 2) ends)
  | cons c cs ih =>
    rcases quotesAhead_writeChars few (c :: cs) rest with ⟨k, all, same, small⟩ | small
    -- if only quotes are left, they make one run with the closing ones
    · rw [same, all]
      exact basicLines_closing (closing?_replicate (by omega) ends)
    have more {bare : Nat} (few : bare ≤ 2) : consText c (basicLines
        (writeChars true bare cs ++ ('"' :: '"' :: '"' :: rest))) = some (c :: cs, rest) := by
      rw [ih few]
      rfl
    by_cases quote : c = '"'
    · subst quote
      by_cases another : bare < 2
      · have written : writeChars true bare ('"' :: cs) = '"' :: writeChars true (bare + 1) cs := by
          simp [writeChars, another]
        rw [written, List.cons_append] at small ⊢
        rw [← more another]
        exact basicLines_plain (by omega) (by decide) (.inr rfl)
      · rw [writeChars_quote (by simp [another]), ← more (Nat.zero_le 2)]
        exact basicLines_escape rfl
    · rw [writeChars_char quote, List.append_assoc] at small ⊢
      rw [← more (Nat.zero_le 2)]
      rcases writeChar_cases true c with ⟨e, written, read⟩ | ⟨written, backslash, plain⟩
      · rw [written, List.cons_append]
        exact basicLines_escape (read _)
      · rw [written, List.cons_append, List.nil_append] at small ⊢
        have shown : c = '\n' ∨ isPlain c = true := by simpa using plain.symm
        exact basicLines_plain (by omega) backslash shown

end

/-- A text whose longest run of quotes is short is either made of quotes or does not start with
three of them. -/
theorem quotesAhead_text (rest : List Char) {here : Nat}
    (short : longestRun '\'' here cs ≤ 2) :
    (∃ k, cs = List.replicate k '\'' ∧ here + k ≤ 2) ∨
      quotesAhead '\'' (cs ++ ('\'' :: '\'' :: '\'' :: rest)) + here ≤ 2 := by
  induction cs generalizing here with
  | nil => exact .inl ⟨0, rfl, short⟩
  | cons c cs ih =>
    rw [longestRun] at short
    by_cases quote : c = '\''
    · rw [if_pos quote] at short
      subst quote
      rcases ih short with ⟨k, rfl, small⟩ | small
      · exact .inl ⟨k + 1, rfl, by omega⟩
      · refine .inr ?_
        rw [List.cons_append, quotesAhead_quote]
        omega
    · rw [if_neg quote] at short
      refine .inr ?_
      rw [List.cons_append, quotesAhead_other quote]
      omega

theorem longestRun_mono (quote : Char) {here more : Nat} (h : here ≤ more) (cs : List Char) :
    longestRun quote here cs ≤ longestRun quote more cs := by
  induction cs generalizing here more with
  | nil => exact h
  | cons c cs ih =>
    rw [longestRun, longestRun]
    split
    · exact ih (Nat.succ_le_succ h)
    · omega

theorem longestRun_tail {quote : Char} {n : Nat} (h : longestRun quote 0 (c :: cs) ≤ n) :
    longestRun quote 0 cs ≤ n := by
  rw [longestRun] at h
  split at h
  · exact Nat.le_trans (longestRun_mono quote (Nat.zero_le _) cs) h
  · omega

/-- A literal string over lines is read up to its closing quotes. -/
theorem literalLines_text (ends : Ends (fun c => decide (c = '\'')) rest)
    (plain : ∀ c ∈ cs, c = '\n' ∨ isPlain c = true) (short : longestRun '\'' 0 cs ≤ 2) :
    literalLines (cs ++ ('\'' :: '\'' :: '\'' :: rest)) = some (cs, rest) := by
  induction cs with
  | nil =>
    have closed := closing?_replicate (k := 0) (Nat.zero_le 2) ends
    rw [List.replicate_zero, List.nil_append] at closed
    rw [List.nil_append, literalLines.eq_def, closed]
  | cons c cs ih =>
    rcases quotesAhead_text rest short with ⟨k, all, small⟩ | small
    · have closed := closing?_replicate (k := k) (by omega) ends
      rw [all, literalLines.eq_def, closed]
    have tail := ih (fun d hd => plain d (List.mem_cons_of_mem _ hd)) (longestRun_tail short)
    have here := plain c List.mem_cons_self
    have return_ : c ≠ '\r' := by
      intro same
      simp [same, isPlain] at here
    rw [List.cons_append] at small ⊢
    rw [literalLines, closing?_eq_none (by omega), tail]
    · simp [here, consText]
    · exact fun _ same => absurd same return_

/-! ### Strings of any form -/

/-- The form of a string is one that suits it, or one with escapes. -/
theorem style_cases (cs : List Char) : Style.suits cs (Style.of cs) = true ∨
    Style.of cs = .basic ∨ Style.of cs = .basicLines := by
  unfold Style.of
  split
  · next found => exact .inl (List.find?_some found)
  · refine .inr ?_
    split
    · exact .inr rfl
    · exact .inl rfl

theorem plain_of_unescaped (h : needsEscapes cs = false) : ∀ c ∈ cs, c = '\n' ∨ isPlain c = true := by
  simpa [needsEscapes, Decidable.or_iff_not_imp_left] using h

/-- What stands between the opening quotes and a text is dropped again. -/
theorem afterOpening_leadIn {body : List Char}
    (h : '\n' ∉ cs → body.head? ≠ some '\n' ∧ body.head? ≠ some '\r') :
    afterOpening (leadIn cs ++ body) = body := by
  rw [leadIn]
  by_cases line : '\n' ∈ cs
  · simp [line, afterOpening, lineBreak?]
  · obtain ⟨noLine, noReturn⟩ := h line
    have stays : lineBreak? body = none := by
      unfold lineBreak?
      split
      · exact absurd rfl noLine
      · exact absurd rfl noReturn
      · rfl
    simp [line, afterOpening, stays]

theorem readText_basic (ends : Ends (fun c => decide (c = '"')) rest) (cs : List Char) :
    readText (Style.basic.write cs ++ rest) = some (String.ofList cs, rest) := by
  have body := basicBody_writeChars cs rest
  have line : ∀ r, writeChars false 0 cs ++ '"' :: rest ≠ '"' :: '"' :: r := by
    intro r same
    cases cs with
    | nil =>
      cases same
      exact absurd (ends_cons.1 ends) (by decide)
    | cons c cs =>
      by_cases quote : c = '"'
      · rw [quote, writeChars_quote rfl] at same
        cases same
      · rw [writeChars_char quote, List.append_assoc] at same
        rcases writeChar_cases false c with ⟨e, written, -⟩ | ⟨written, -⟩
        · rw [written] at same
          cases same
        · rw [written] at same
          exact quote (List.cons.inj same).1
  have shape : Style.basic.write cs ++ rest = '"' :: (writeChars false 0 cs ++ '"' :: rest) := by
    simp [Style.write]
  rw [shape, readText]
  · rw [readLineText, body]
    rfl
  · exact fun r same => line r (List.cons.inj same).2
  · exact nofun

theorem readText_literal (ends : Ends (fun c => decide (c = '\'')) rest)
    (suits : Style.suits cs .literal = true) :
    readText (Style.literal.write cs ++ rest) = some (String.ofList cs, rest) := by
  obtain ⟨⟨unescaped, quote⟩, line⟩ : (needsEscapes cs = false ∧ '\'' ∉ cs) ∧ '\n' ∉ cs := by
    simpa [Style.suits] using suits
  have plain : ∀ c ∈ cs, isPlain c = true := by
    intro c hc
    rcases plain_of_unescaped unescaped c hc with rfl | plain
    · exact absurd hc line
    · exact plain
  have single : ∀ r, cs ++ '\'' :: rest ≠ '\'' :: '\'' :: r := by
    intro r same
    cases cs with
    | nil =>
      cases same
      exact absurd (ends_cons.1 ends) (by decide)
    | cons c cs => exact quote ((List.cons.inj same).1 ▸ List.mem_cons_self)
  have shape : Style.literal.write cs ++ rest = '\'' :: (cs ++ '\'' :: rest) := by
    simp [Style.write]
  rw [shape, readText]
  · rw [readLineText, literalBody_text plain quote]
    rfl
  · exact nofun
  · exact fun r same => single r (List.cons.inj same).2

theorem readText_basicLines (ends : Ends (fun c => decide (c = '"')) rest) (cs : List Char) :
    readText (Style.basicLines.write cs ++ rest) = some (String.ofList cs, rest) := by
  have body := basicLines_writeChars ends (Nat.zero_le 2) cs
  have shape : Style.basicLines.write cs ++ rest = '"' :: '"' :: '"' ::
      (leadIn cs ++ (writeChars true 0 cs ++ ('"' :: '"' :: '"' :: rest))) := by
    simp [Style.write]
  have opened : afterOpening (leadIn cs ++ (writeChars true 0 cs ++ ('"' :: '"' :: '"' :: rest))) =
      writeChars true 0 cs ++ ('"' :: '"' :: '"' :: rest) := by
    refine afterOpening_leadIn fun noLine => ?_
    cases cs with
    | nil => exact ⟨by simp [writeChars], by simp [writeChars]⟩
    | cons c cs =>
      have other : c ≠ '\n' := fun same => noLine (same ▸ List.mem_cons_self)
      by_cases quote : c = '"'
      · simp [writeChars, quote]
      · rw [writeChars_char quote]
        rcases writeChar_cases true c with ⟨e, written, -⟩ | ⟨written, -, plain⟩
        · simp [written]
        · have return_ : c ≠ '\r' := by
            intro same
            simp [same, isPlain] at plain
          simp [written, other, return_]
  rw [shape, readText, opened, body]
  rfl

theorem readText_literalLines (ends : Ends (fun c => decide (c = '\'')) rest)
    (suits : Style.suits cs .literalLines = true) :
    readText (Style.literalLines.write cs ++ rest) = some (String.ofList cs, rest) := by
  obtain ⟨unescaped, short⟩ : needsEscapes cs = false ∧ longestRun '\'' 0 cs ≤ 2 := by
    simpa [Style.suits] using suits
  have plain := plain_of_unescaped unescaped
  have body := literalLines_text ends plain short
  have shape : Style.literalLines.write cs ++ rest = '\'' :: '\'' :: '\'' ::
      (leadIn cs ++ (cs ++ ('\'' :: '\'' :: '\'' :: rest))) := by
    simp [Style.write]
  have opened : afterOpening (leadIn cs ++ (cs ++ ('\'' :: '\'' :: '\'' :: rest))) =
      cs ++ ('\'' :: '\'' :: '\'' :: rest) := by
    refine afterOpening_leadIn fun noLine => ?_
    cases cs with
    | nil => exact ⟨by simp, by simp⟩
    | cons c cs =>
      have other : c ≠ '\n' := fun same => noLine (same ▸ List.mem_cons_self)
      have here := plain c List.mem_cons_self
      have return_ : c ≠ '\r' := by
        intro same
        simp [same, isPlain] at here
      simp [other, return_]
  rw [shape, readText, opened, body]
  rfl

/-- **A string is read back as it was written,** in whatever form that was. -/
theorem readText_writeText (basic : Ends (fun c => decide (c = '"')) rest)
    (literal : Ends (fun c => decide (c = '\'')) rest) (s : String) :
    readText (writeText s ++ rest) = some (s, rest) := by
  have read : readText ((Style.of s.toList).write s.toList ++ rest) =
      some (String.ofList s.toList, rest) := by
    have cases_ := style_cases s.toList
    cases chosen : Style.of s.toList with
    | basic => exact readText_basic basic _
    | literal => exact readText_literal literal (by simpa [chosen] using cases_)
    | basicLines => exact readText_basicLines basic _
    | literalLines => exact readText_literalLines literal (by simpa [chosen] using cases_)
  rwa [String.ofList_toList] at read

/-- A written string starts with a quote. -/
theorem writeText_head (s : String) :
    (∃ cs, writeText s = '"' :: cs) ∨ ∃ cs, writeText s = '\'' :: cs := by
  rw [writeText]
  cases Style.of s.toList with
  | basic => exact .inl ⟨_, rfl⟩
  | literal => exact .inr ⟨_, rfl⟩
  | basicLines => exact .inl ⟨_, rfl⟩
  | literalLines => exact .inr ⟨_, rfl⟩

end DatasetCatalog.Toml
