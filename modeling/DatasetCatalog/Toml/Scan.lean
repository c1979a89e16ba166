/-!
# Reading a text from the left

The readers of the configuration format take the front off a text: a `Scan` gives what it has read
and the rest, or nothing if the text does not start the right way. No reader looks back, and none
needs to know why another one failed, because a text with any fault is refused as a whole.

This module has what stands between the meaningful parts of a text: blanks, comments and line ends.
-/

namespace DatasetCatalog.Toml

/-- A reader of the front of a text. -/
abbrev Scan (α : Type) := List Char → Option (α × List Char)

/-- Takes one given character off. -/
def expect (c : Char) : List Char → Option (List Char)
  | d :: rest => if d = c then some rest else none
  | [] => none

/-- Takes a given word off. -/
def expectWord : (word : List Char) → List Char → Option (List Char)
  | [], cs => some cs
  | c :: word, cs => (expect c cs).bind (expectWord word)

/-- Whether a character is a blank; line ends are none. -/
def isBlank (c : Char) : Bool := c = ' ' || c = '\t'

/-- Whether a character may stand as itself in a comment or within quotes, as far as the quotes
allow it: a tab, or anything but a control character of ASCII. -/
def isPlain (c : Char) : Bool := c = '\t' || (32 ≤ c.toNat && c.toNat ≠ 127)

/-- Drops blanks. -/
def skipBlanks (cs : List Char) : List Char := cs.dropWhile isBlank

/-- Takes the end of a line off. -/
def lineBreak? : List Char → Option (List Char)
  | '\n' :: rest => some rest
  | '\r' :: '\n' :: rest => some rest
  | _ => none

/-- Drops blanks and line ends. -/
def skipSpace : List Char → List Char
  | ' ' :: rest | '\t' :: rest | '\n' :: rest | '\r' :: '\n' :: rest => skipSpace rest
  | cs => cs

/-- Drops a comment, up to the end of its line. -/
def skipComment : List Char → List Char
  | '#' :: rest => rest.dropWhile isPlain
  | cs => cs

/-- Takes the rest of a line off in which nothing more is said. The last line needs no end. -/
def lineEnd (cs : List Char) : Option (List Char) :=
  match skipComment (skipBlanks cs) with
  | [] => some []
  | cs => lineBreak? cs

/-- Drops blanks, line ends and comments. A comment has to end with its line. -/
def skipLines : (inComment : Bool) → List Char → Option (List Char)
  | false, ' ' :: rest | false, '\t' :: rest => skipLines false rest
  | false, '#' :: rest => skipLines true rest
  | _, '\n' :: rest | _, '\r' :: '\n' :: rest => skipLines false rest
  | true, c :: rest => if isPlain c then skipLines true rest else none
  | true, [] => none
  | false, cs => some cs

theorem length_lineBreak? {cs rest : List Char} (h : lineBreak? cs = some rest) :
    rest.length < cs.length := by
  unfold lineBreak? at h
  split at h
  · obtain rfl := Option.some.inj h
    exact Nat.lt_succ_self _
  · obtain rfl := Option.some.inj h
    exact Nat.lt_succ_of_lt (Nat.lt_succ_self _)
  · cases h

theorem length_skipBlanks (cs : List Char) : (skipBlanks cs).length ≤ cs.length :=
  (cs.dropWhile_sublist isBlank).length_le

theorem length_skipSpace (cs : List Char) : (skipSpace cs).length ≤ cs.length := by
  fun_induction skipSpace cs <;> simp_all <;> omega

end DatasetCatalog.Toml
