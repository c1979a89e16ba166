import DatasetCatalog.Text.Decimal
import DatasetCatalog.Toml.Scan

/-!
# Strings

A string is written in one of four ways: basic, between double quotes and with escapes; literal,
between single quotes and without; and each of them between three quotes, where it may go on over
lines. A line end after the opening quotes does not count, and up to two quotes may stand directly
before the closing ones.

* `readText` reads all four forms;
* `Style.of` chooses the form that shows a text best: if there is one, a form without escapes; and
* `writeText` writes a text in that form.
-/

namespace DatasetCatalog.Toml

/-! ## Reading -/

/-- The character of a code point. -/
def scalar? (n : Nat) : Option Char := if h : n.isValidChar then some (Char.ofNatAux n h) else none

/-- The character that hexadecimal digits name. -/
def hexChar? (digits : List Char) : Option Char := (Hex.value? digits).bind scalar?

/-- The character that an escape stands for, without its backslash. -/
def escape? : Scan Char
  | 'b' :: rest => some ('\x08', rest)
  | 't' :: rest => some ('\t', rest)
  | 'n' :: rest => some ('\n', rest)
  | 'f' :: rest => some ('\x0c', rest)
  | 'r' :: rest => some ('\r', rest)
  | '"' :: rest => some ('"', rest)
  | '\\' :: rest => some ('\\', rest)
  | 'u' :: a :: b :: c :: d :: rest => (hexChar? [a, b, c, d]).map (·, rest)
  | 'U' :: a :: b :: c :: d :: e :: f :: g :: h :: rest =>
    (hexChar? [a, b, c, d, e, f, g, h]).map (·, rest)
  | _ => none

/-- What follows a backslash at the end of a line, if nothing but blanks comes before the end: the
string goes on with the next character that is neither a blank nor a line end. -/
def joinLines? (cs : List Char) : Option (List Char) := (lineBreak? (skipBlanks cs)).map skipSpace

/-- Puts a character in front of what is read on. -/
def consText (c : Char) : Option (List Char × List Char) → Option (List Char × List Char) :=
  Option.map fun r => (c :: r.1, r.2)

theorem length_escape? {cs : List Char} {c : Char} {rest : List Char}
    (h : escape? cs = some (c, rest)) : rest.length < cs.length := by
  unfold escape? at h
  split at h
  case h_8 =>
    obtain ⟨_, _, h⟩ := Option.map_eq_some_iff.1 h
    cases h
    simp
    omega
  case h_9 =>
    obtain ⟨_, _, h⟩ := Option.map_eq_some_iff.1 h
    cases h
    simp
    omega
  all_goals simp_all

theorem length_joinLines? {cs rest : List Char} (h : joinLines? cs = some rest) :
    rest.length < cs.length := by
  obtain ⟨r, hr, rfl⟩ := Option.map_eq_some_iff.1 h
  have h₁ := length_lineBreak? hr
  have h₂ := length_skipBlanks cs
  have h₃ := length_skipSpace r
  omega

/-- Reads a basic string on after its opening quote. -/
def basicBody (cs : List Char) : Option (List Char × List Char) :=
  match cs with
  | '"' :: rest => some ([], rest)
  | '\\' :: rest =>
    match _h : escape? rest with
    | some (c, rest) => consText c (basicBody rest)
    | none => none
  | c :: rest => if isPlain c then consText c (basicBody rest) else none
  | [] => none
termination_by cs.length
decreasing_by
  · have := length_escape? _h
    simp
    omega
  · simp

/-- Reads a literal string on after its opening quote. -/
def literalBody : List Char → Option (List Char × List Char)
  | '\'' :: rest => some ([], rest)
  | c :: rest => if isPlain c then consText c (literalBody rest) else none
  | [] => none

/-- The quotes that end a string over lines, with up to two more that belong to it. -/
def closing? (quote : Char) (cs : List Char) : Option (List Char × List Char) :=
  let quotes := cs.takeWhile (· = quote)
  let extra := min (quotes.length - 3) 2
  if 3 ≤ quotes.length then some (List.replicate extra quote, cs.drop (3 + extra)) else none

/-- Reads a basic string over lines on after its opening quotes. -/
def basicLines (cs : List Char) : Option (List Char × List Char) :=
  match closing? '"' cs with
  | some ending => some ending
  | none =>
    match cs with
    | '\\' :: rest =>
      match _h : escape? rest with
      | some (c, rest) => consText c (basicLines rest)
      | none =>
        match _j : joinLines? rest with
        | some rest => basicLines rest
        | none => none
    | '\r' :: '\n' :: rest => consText '\n' (basicLines rest)
    | c :: rest => if c = '\n' || isPlain c then consText c (basicLines rest) else none
    | [] => none
termination_by cs.length
decreasing_by
  · have := length_escape? _h
    simp
    omega
  · have := length_joinLines? _j
    simp
    omega
  · exact Nat.lt_succ_of_lt (Nat.lt_succ_self _)
  · exact Nat.lt_succ_self _

/-- Reads a literal string over lines on after its opening quotes. -/
def literalLines (cs : List Char) : Option (List Char × List Char) :=
  match closing? '\'' cs with
  | some ending => some ending
  | none =>
    match cs with
    | '\r' :: '\n' :: rest => consText '\n' (literalLines rest)
    | c :: rest => if c = '\n' || isPlain c then consText c (literalLines rest) else none
    | [] => none

/-- Drops a line end that directly follows the opening quotes. -/
def afterOpening (cs : List Char) : List Char := (lineBreak? cs).getD cs

/-- Reads a string on a single line. -/
def readLineText : Scan String
  | '"' :: rest => (basicBody rest).map fun r => (String.ofList r.1, r.2)
  | '\'' :: rest => (literalBody rest).map fun r => (String.ofList r.1, r.2)
  | _ => none

/-- Reads a string of any form. -/
def readText : Scan String
  | '"' :: '"' :: '"' :: rest =>
    (basicLines (afterOpening rest)).map fun r => (String.ofList r.1, r.2)
  | '\'' :: '\'' :: '\'' :: rest =>
    (literalLines (afterOpening rest)).map fun r => (String.ofList r.1, r.2)
  | cs => readLineText cs

/-! ## Writing -/

/-- How a string is written. -/
inductive Style
  | basic
  | literal
  | basicLines
  | literalLines
  deriving DecidableEq, Repr

/-- The longest run of a character, where a run of `here` stands before the text. -/
def longestRun (c : Char) : (here : Nat) → List Char → Nat
  | here, [] => here
  | here, d :: rest => if d = c then longestRun c (here + 1) rest else max here (longestRun c 0 rest)

/-- Whether a text has a character that no quotes can hold as itself. -/
def needsEscapes (cs : List Char) : Bool := cs.any fun c => !(c = '\n' || isPlain c)

/-- Whether a text can be written in a form without any escape that the form makes necessary. -/
def Style.suits (cs : List Char) : Style → Bool
  | basic =>
    !needsEscapes cs && !cs.contains '\\' && !cs.contains '"' && !cs.contains '\n'
  | literal => !needsEscapes cs && !cs.contains '\'' && !cs.contains '\n'
  | basicLines => !needsEscapes cs && !cs.contains '\\' && longestRun '"' 0 cs ≤ 2
  | literalLines => !needsEscapes cs && longestRun '\'' 0 cs ≤ 2

/-- The form that shows a text best: the first that suits it, or else one with escapes. -/
def Style.of (cs : List Char) : Style :=
  match [basic, literal, basicLines, literalLines].find? (Style.suits cs) with
  | some style => style
  | none => if cs.contains '\n' then basicLines else basic

/-- The hexadecimal digit of a number below sixteen, in upper case. -/
def upperDigit (d : Nat) : Char := if d < 10 then Char.ofNat (48 + d) else Char.ofNat (55 + d)

/-- A character within double quotes, itself no double quote. -/
def writeChar (overLines : Bool) (c : Char) : List Char :=
  if c = '\x08' then ['\\', 'b']
  else if c = '\t' then ['\\', 't']
  else if c = '\n' then (if overLines then ['\n'] else ['\\', 'n'])
  else if c = '\x0c' then ['\\', 'f']
  else if c = '\r' then ['\\', 'r']
  else if c = '\\' then ['\\', '\\']
  else if isPlain c then [c]
  else ['\\', 'u', '0', '0', upperDigit (c.toNat / 16), upperDigit (c.toNat % 16)]

/-- A text within double quotes, after `bare` double quotes without escape. Over lines two of them
may stand side by side. -/
def writeChars (overLines : Bool) : (bare : Nat) → List Char → List Char
  | _, [] => []
  | bare, c :: rest =>
    if c = '"' then
      if overLines && bare < 2 then c :: writeChars overLines (bare + 1) rest
      else '\\' :: c :: writeChars overLines 0 rest
    else writeChar overLines c ++ writeChars overLines 0 rest

/-- What stands between the opening quotes and a text: a line end, if the text has one too. -/
def leadIn (cs : List Char) : List Char := if cs.contains '\n' then ['\n'] else []

/-- A text in a form. -/
def Style.write (cs : List Char) : Style → List Char
  | basic => ['"'] ++ writeChars false 0 cs ++ ['"']
  | literal => ['\''] ++ cs ++ ['\'']
  | basicLines => ['"', '"', '"'] ++ leadIn cs ++ writeChars true 0 cs ++ ['"', '"', '"']
  | literalLines => ['\'', '\'', '\''] ++ leadIn cs ++ cs ++ ['\'', '\'', '\'']

/-- A string as it is written. -/
def writeText (s : String) : List Char := (Style.of s.toList).write s.toList

end DatasetCatalog.Toml
