/-!
# Patterns of text

The forms of names and principals are given by regular expressions. A `Pattern` has what these are
made of: classes of characters, repetition, sequence, optional parts, and groups whose text is
captured under a number.

`Pattern.ways` lists the ways in which a pattern can match the beginning of a text, the preferred
ones first: more characters before fewer, and an optional part before none. `Pattern.captures?` takes
the first one that leaves nothing over, as an expression between `^` and `$` does.
-/

namespace DatasetCatalog

/-- A class of characters, such as `[A-Za-z]`, or `[^/@]` if it is negated. -/
structure CharClass where
  ranges : List (Char × Char)
  negated : Bool := false
  deriving DecidableEq, Repr

namespace CharClass

/-- The class of given characters. -/
def of (cs : List Char) : CharClass where
  ranges := cs.map fun c => (c, c)

/-- The class of all other characters. -/
def noneOf (cs : List Char) : CharClass := { of cs with negated := true }

/-- Whether a character is in the class. -/
def contains (k : CharClass) (c : Char) : Bool :=
  k.ranges.any (fun r => decide (r.1 ≤ c) && decide (c ≤ r.2)) != k.negated

end CharClass

/-- A regular expression. -/
inductive Pattern
  /-- One character of a class. -/
  | one (k : CharClass)
  /-- Any number of characters of a class, also none. -/
  | many (k : CharClass)
  | seq (p q : Pattern)
  | optional (p : Pattern)
  /-- What the pattern matches is captured under a number. -/
  | group (n : Nat) (p : Pattern)
  deriving DecidableEq, Repr

/-- The texts of the groups that took part in a match. -/
abbrev Captures := List (Nat × List Char)

namespace Pattern

/-- At least one character of a class. -/
def oneOrMore (k : CharClass) : Pattern := seq (one k) (many k)

/-- One given character. -/
def char (c : Char) : Pattern := one (.of [c])

/-- A match of the beginning of a text. -/
structure Way where
  text : List Char
  /-- What is left of the text. -/
  rest : List Char
  groups : Captures
  deriving DecidableEq, Repr

/-- The ways to take characters of a class off a text, and what they leave, the longest first. -/
def takings (k : CharClass) : List Char → List (List Char × List Char)
  | [] => [([], [])]
  | c :: cs =>
    (if k.contains c then (takings k cs).map fun t => (c :: t.1, t.2) else []) ++ [([], c :: cs)]

/-- The ways in which a pattern matches the beginning of a text, the preferred ones first. -/
def ways : Pattern → List Char → List Way
  | one _, [] => []
  | one k, c :: cs => if k.contains c then [⟨[c], cs, []⟩] else []
  | many k, cs => (takings k cs).map fun t => ⟨t.1, t.2, []⟩
  | seq p q, cs =>
    (p.ways cs).flatMap fun w =>
      (q.ways w.rest).map fun v => ⟨w.text ++ v.text, v.rest, w.groups ++ v.groups⟩
  | optional p, cs => p.ways cs ++ [⟨[], cs, []⟩]
  | group n p, cs => (p.ways cs).map fun w => { w with groups := (n, w.text) :: w.groups }

/-- The groups of the preferred match of a whole text. -/
def captures? (p : Pattern) (cs : List Char) : Option Captures :=
  ((p.ways cs).find? (·.rest.isEmpty)).map Way.groups

/-- Whether a pattern matches a whole text. -/
def accepts (p : Pattern) (cs : List Char) : Bool := (p.captures? cs).isSome

end Pattern

end DatasetCatalog
