import DatasetCatalog.Proofs.Toml.Number
import DatasetCatalog.Proofs.Toml.Text
import DatasetCatalog.Toml.Section
import DatasetCatalog.Toml.Statement

/-!
# Sections survive their text

The text of sections is read as their statements, a header for each section and an assignment for
each setting (`Reads.sections`). What a section has to be like for that is said by
`Section.Readable`: names are written without quotes, no key is given twice, and numbers fit.

`Reads cs ss` says that a piece of a text stands for some statements, whatever comes behind it. The
pieces of a text are put together by `Reads.append`, a line is a piece by `Reads.line`, and a text is
read by `Reads.statements_eq`.
-/

namespace DatasetCatalog.Toml

variable {c : Char} {cs ds rest : List Char}

/-- Whether a name can be written without quotes. -/
def IsBare (name : String) : Prop := name.toList ≠ [] ∧ ∀ c ∈ name.toList, isBareKey c = true

instance (name : String) : Decidable (IsBare name) :=
  decidable_of_iff (name.toList ≠ [] ∧ name.toList.all isBareKey = true) (by simp [IsBare])

/-- Whether a setting can be read: numbers have an end. -/
def Setting.Fits : Setting → Prop
  | .number n => (n : Int) ≤ greatest
  | _ => True

@[simp] theorem Setting.fits_text (s : String) : Fits (.text s) := trivial

@[simp] theorem Setting.fits_switch (on : Bool) : Fits (.switch on) := trivial

@[simp] theorem Setting.fits_texts (ss : List String) : Fits (.texts ss) := trivial

@[simp] theorem Setting.fits_number {n : Nat} : Fits (.number n) ↔ (n : Int) ≤ greatest := Iff.rfl

/-- What a section has to be like for its text to be read. -/
structure Section.Readable (s : Section) : Prop where
  name : IsBare s.name
  keys : ∀ e ∈ s.settings, IsBare e.1
  distinct : (s.settings.map Prod.fst).Nodup
  fits : ∀ e ∈ s.settings, e.2.Fits

/-- The statements of a section. -/
def Section.statements (s : Section) : List Statement :=
  .openTable [s.name] :: s.settings.map fun e => .assign [e.1] e.2.value

/-! ### Values -/

/-- A string is a value, unless a quote follows it. -/
theorem readNested_text (levels : Nat) (basic : Ends (fun c => decide (c = '"')) rest)
    (literal : Ends (fun c => decide (c = '\'')) rest) (s : String) :
    readNested levels (writeText s ++ rest) = some (.string s, rest) := by
  have read := readText_writeText basic literal s
  rw [readNested.eq_def]
  rcases writeText_head s with ⟨cs, written⟩ | ⟨cs, written⟩
  · rw [written, List.cons_append] at read ⊢
    simp [read]
  · rw [written, List.cons_append] at read ⊢
    simp [read]

/-- A number that fits is a value at the end of its line. -/
theorem readNested_digits (levels : Nat) {n : Nat} (h : (n : Int) ≤ greatest) (rest : List Char) :
    readNested levels (Decimal.digits n ++ '\n' :: rest) =
      some (.integer n, '\n' :: rest) := by
  have read := readNumber_digits h rest
  rw [readNested.eq_def]
  dsimp only
  split
  all_goals first
    | exact read
    | next same => exact absurd same (digits_append_ne n rfl _ _)

theorem skipLines_text (s : String) (rest : List Char) :
    skipLines false (writeText s ++ rest) = some (writeText s ++ rest) := by
  rcases writeText_head s with ⟨cs, written⟩ | ⟨cs, written⟩
  · rw [written]
    rfl
  · rw [written]
    rfl

/-- A string on a line of its own, as an item of an array. -/
def writeLine (s : String) : List Char := "\n    ".toList ++ writeText s ++ [',']

theorem ne_bracket_of_text (s : String) (rest ds : List Char) : writeText s ++ rest ≠ ']' :: ds := by
  rcases writeText_head s with ⟨cs, written⟩ | ⟨cs, written⟩
  · rw [written]
    exact nofun
  · rw [written]
    exact nofun

/-- A string on a line of its own is the next item. -/
theorem arrayItems_line (levels fuel : Nat) (s : String) (rest : List Char) :
    arrayItems (readNested levels) (fuel + 1) (writeLine s ++ rest) =
      (arrayItems (readNested levels) fuel rest).bind fun r => some (.string s :: r.1, r.2) := by
  have indented : skipLines false (writeLine s ++ rest) = some (writeText s ++ ',' :: rest) := by
    have shape : writeLine s ++ rest = "\n    ".toList ++ writeText s ++ ',' :: rest :=
      List.append_assoc ("\n    ".toList ++ writeText s) [','] rest
    rw [shape]
    exact skipLines_text s (',' :: rest)
  have item : readNested levels (writeText s ++ ',' :: rest) = some (.string s, ',' :: rest) :=
    readNested_text levels (ends_cons.2 rfl) (ends_cons.2 rfl) s
  have comma : skipLines false (',' :: rest) = some (',' :: rest) := rfl
  have more := ne_bracket_of_text s (',' :: rest)
  rw [arrayItems, indented]
  simp [item, comma]

/-- Strings on lines of their own are read up to the bracket. -/
theorem arrayItems_lines (levels : Nat) {fuel : Nat} {ss : List String} (rest : List Char)
    (enough : (ss.flatMap writeLine ++ '\n' :: ']' :: rest).length < fuel) :
    arrayItems (readNested levels) fuel (ss.flatMap writeLine ++ '\n' :: ']' :: rest) =
      some (ss.map .string, rest) := by
  induction ss generalizing fuel with
  | nil =>
    obtain ⟨fuel, rfl⟩ := Nat.exists_eq_add_of_lt enough
    rfl
  | cons s ss ih =>
    -- an item takes one of the fuel, and its line at least one character
    obtain ⟨fuel, rfl⟩ := Nat.exists_eq_succ_of_ne_zero (Nat.ne_zero_of_lt enough)
    have shape : (s :: ss).flatMap writeLine ++ '\n' :: ']' :: rest =
        writeLine s ++ (ss.flatMap writeLine ++ '\n' :: ']' :: rest) := by
      rw [List.flatMap_cons, List.append_assoc]
    rw [shape] at enough ⊢
    have taken : 0 < (writeLine s).length :=
      List.length_pos_iff.2 (List.append_ne_nil_of_right_ne_nil _ (List.cons_ne_nil _ _))
    rw [arrayItems_line, ih (by rw [List.length_append] at enough; omega)]
    rfl

/-- A string alone is read up to the bracket behind it. -/
theorem arrayItems_text (levels fuel : Nat) (s : String) (rest : List Char) :
    arrayItems (readNested levels) (fuel + 1) (writeText s ++ ']' :: rest) =
      some ([.string s], rest) := by
  have item : readNested levels (writeText s ++ ']' :: rest) = some (.string s, ']' :: rest) :=
    readNested_text levels (ends_cons.2 rfl) (ends_cons.2 rfl) s
  have bracket : skipLines false (']' :: rest) = some (']' :: rest) := rfl
  have more := ne_bracket_of_text s (']' :: rest)
  rw [arrayItems, skipLines_text]
  simp [item, bracket]

/-- A setting is read back at the end of its line. -/
theorem readValue_write {s : Setting} (h : s.Fits) (rest : List Char) :
    readValue (s.write ++ '\n' :: rest) = some (s.value, '\n' :: rest) := by
  have array (cs : List Char) : readValue ('[' :: cs) =
      (arrayItems (readNested 78) (cs.length + 1) cs).map fun r => (.array r.1, r.2) := rfl
  cases s with
  | text s => exact readNested_text nestingLimit (ends_cons.2 rfl) (ends_cons.2 rfl) s
  | number n => exact readNested_digits nestingLimit h rest
  | switch on =>
    cases on with
    | true => rfl
    | false => rfl
  | texts ss =>
    rcases ss with - | ⟨s, - | ⟨t, ss⟩⟩
    · rfl
    · rw [Setting.write, List.append_assoc, List.append_assoc, List.singleton_append,
        List.singleton_append, array, arrayItems_text]
      rfl
    · have written : Setting.write (.texts (s :: t :: ss)) =
          '[' :: ((s :: t :: ss).flatMap writeLine ++ ['\n', ']']) := rfl
      rw [written, List.cons_append, List.append_assoc]
      exact (array _).trans (congrArg (Option.map _)
        (arrayItems_lines 78 ('\n' :: rest) (Nat.lt_succ_self _)))

/-! ### Names -/

theorem isBlank_of_kind {p : Char → Bool} (hc : p c = true) (space : p ' ' = false)
    (tab : p '\t' = false) : isBlank c = false := by
  simp [isBlank, ne_of_kind hc space, ne_of_kind hc tab]

theorem skipBlanks_cons (h : isBlank c = false) : skipBlanks (c :: cs) = c :: cs := by
  rw [skipBlanks, List.dropWhile_cons, h]
  rfl

theorem IsBare.exists_cons {name : String} (bare : IsBare name) :
    ∃ c cs, name.toList = c :: cs ∧ isBareKey c = true := by
  obtain ⟨nonempty, all⟩ := bare
  obtain ⟨c, cs, written⟩ := List.exists_cons_of_ne_nil nonempty
  exact ⟨c, cs, written, all c (written ▸ List.mem_cons_self)⟩

theorem IsBare.append_ne {name : String} (bare : IsBare name) (other : isBareKey c = false)
    (rest ds : List Char) : name.toList ++ rest ≠ c :: ds := by
  obtain ⟨d, front, written, first⟩ := bare.exists_cons
  rw [written]
  exact fun same => ne_of_kind first other (List.cons.inj same).1

/-- A name without quotes is the first part of a key. -/
theorem keyPart_bare {name : String} (bare : IsBare name) (ends : Ends isBareKey rest) :
    keyPart (name.toList ++ rest) = some (name, rest) := by
  have front := takeWhile_run bare.2 ends
  have behind := dropWhile_run bare.2 ends
  rw [keyPart]
  · simp [front, behind, bare.1]
  · exact bare.append_ne rfl rest
  · exact bare.append_ne rfl rest

/-- A name without quotes is a key by itself, unless a point follows it. -/
theorem readKey_bare {name : String} (bare : IsBare name) (ends : Ends isBareKey rest)
    (alone : Ends (fun c => decide (c = '.')) (skipBlanks rest)) :
    readKey (name.toList ++ rest) = some ([name], skipBlanks rest) := by
  obtain ⟨c, cs, written, first⟩ := bare.exists_cons
  have front : skipBlanks (name.toList ++ rest) = name.toList ++ rest := by
    rw [written]
    exact skipBlanks_cons (isBlank_of_kind first rfl rfl)
  have noPoint (ds : List Char) : skipBlanks rest ≠ '.' :: ds := by
    intro same
    rw [same] at alone
    exact absurd (ends_cons.1 alone) (by decide)
  rw [readKey, keyLimit, keyParts, front, keyPart_bare bare ends]
  simp

/-! ### Lines -/

/-- A value does not start with a blank. -/
theorem skipBlanks_write (s : Setting) (rest : List Char) :
    skipBlanks (s.write ++ rest) = s.write ++ rest := by
  cases s with
  | text s =>
    rcases writeText_head s with ⟨cs, written⟩ | ⟨cs, written⟩
    · rw [Setting.write, written]
      rfl
    · rw [Setting.write, written]
      rfl
  | number n =>
    obtain ⟨d, ds, written, digit⟩ := digits_cons n
    rw [Setting.write, written]
    exact skipBlanks_cons (isBlank_of_kind digit rfl rfl)
  | switch on =>
    cases on with
    | true => rfl
    | false => rfl
  | texts ss =>
    rcases ss with - | ⟨s, - | ⟨t, ss⟩⟩
    · rfl
    · rfl
    · rfl

/-- The line of a setting is an assignment. -/
theorem statement_writeSetting {e : String × Setting} (bare : IsBare e.1) (fits : e.2.Fits)
    (rest : List Char) :
    statement (writeSetting e ++ rest) = some (.assign [e.1] e.2.value, rest) := by
  have shape : writeSetting e ++ rest =
      e.1.toList ++ (' ' :: '=' :: ' ' :: (e.2.write ++ '\n' :: rest)) := by
    simp [writeSetting]
  have key : readKey (e.1.toList ++ (' ' :: '=' :: ' ' :: (e.2.write ++ '\n' :: rest))) =
      some ([e.1], '=' :: ' ' :: (e.2.write ++ '\n' :: rest)) :=
    readKey_bare bare (ends_cons.2 rfl) (ends_cons.2 rfl)
  have value := readValue_write fits rest
  have blank : skipBlanks (' ' :: (e.2.write ++ '\n' :: rest)) = e.2.write ++ '\n' :: rest :=
    skipBlanks_write e.2 ('\n' :: rest)
  have line : lineEnd ('\n' :: rest) = some rest := rfl
  rw [shape, statement]
  · simp [assignment, key, expect, blank, value, line]
  · exact bare.append_ne rfl _

/-- The first line of a section opens its table. -/
theorem statement_header {name : String} (bare : IsBare name) (rest : List Char) :
    statement ('[' :: (name.toList ++ ']' :: '\n' :: rest)) = some (.openTable [name], rest) := by
  have key : readKey (name.toList ++ ']' :: '\n' :: rest) = some ([name], ']' :: '\n' :: rest) :=
    readKey_bare bare (ends_cons.2 rfl) (ends_cons.2 rfl)
  have line : lineEnd ('\n' :: rest) = some rest := rfl
  have opened : header ('[' :: (name.toList ++ ']' :: '\n' :: rest)) =
      some (.openTable [name], '\n' :: rest) := by
    rw [header]
    · simp [key, expect]
    · exact bare.append_ne rfl _
  rw [statement]
  simp [opened, line]

/-! ### Texts -/

/-- A piece of a text stands for some statements, whatever comes behind it. -/
def Reads (cs : List Char) (ss : List Statement) : Prop :=
  ∃ k ≤ cs.length, ∀ fuel rest,
    statements (fuel + k) (cs ++ rest) = (statements fuel rest).map (ss ++ ·)

namespace Reads

theorem nil : Reads [] [] := by
  refine ⟨0, Nat.le_refl 0, fun fuel rest => ?_⟩
  simp

theorem append {ss ts : List Statement} (first : Reads cs ss) (second : Reads ds ts) :
    Reads (cs ++ ds) (ss ++ ts) := by
  obtain ⟨k, few, firstRead⟩ := first
  obtain ⟨l, fewer, secondRead⟩ := second
  refine ⟨l + k, by rw [List.length_append]; omega, fun fuel rest => ?_⟩
  rw [List.append_assoc, ← Nat.add_assoc, firstRead, secondRead, Option.map_map]
  simp [Function.comp_def]

theorem blankLine : Reads ['\n'] [] := by
  refine ⟨1, Nat.le_refl 1, fun fuel rest => ?_⟩
  have next : statements (fuel + 1) ('\n' :: rest) = statements fuel rest := rfl
  simp [next]

/-- A line with something in it. -/
theorem line {s : Statement} (start : c = '[' ∨ isBareKey c = true)
    (h : ∀ rest, statement (c :: (cs ++ rest)) = some (s, rest)) : Reads (c :: cs) [s] := by
  refine ⟨1, Nat.succ_le_succ (Nat.zero_le _), fun fuel rest => ?_⟩
  have noBlank : isBlank c = false := by
    rcases start with rfl | bare
    · rfl
    · exact isBlank_of_kind bare rfl rfl
  have other {d : Char} (bracket : '[' ≠ d) (notBare : isBareKey d = false) : c ≠ d := by
    rcases start with rfl | bare
    · exact bracket
    · exact ne_of_kind bare notBare
  rw [List.cons_append, statements, skipBlanks_cons noBlank]
  split
  · next same => cases same
  · next same => exact absurd (List.cons.inj same).1 (other (by decide) rfl)
  · next same => exact absurd (List.cons.inj same).1 (other (by decide) rfl)
  · next same => exact absurd (List.cons.inj same).1 (other (by decide) rfl)
  · cases read : statements fuel rest with
    | none => simp [h, read]
    | some ss => simp [h, read]

theorem settings {settings : List (String × Setting)} (bare : ∀ e ∈ settings, IsBare e.1)
    (fits : ∀ e ∈ settings, e.2.Fits) :
    Reads (settings.flatMap writeSetting) (settings.map fun e => .assign [e.1] e.2.value) := by
  induction settings with
  | nil => exact .nil
  | cons e settings ih =>
    have tail := ih (fun e he => bare e (List.mem_cons_of_mem _ he))
      (fun e he => fits e (List.mem_cons_of_mem _ he))
    have key := bare e List.mem_cons_self
    have read := statement_writeSetting key (fits e List.mem_cons_self)
    obtain ⟨c, cs, written, first⟩ := key.exists_cons
    have shape : writeSetting e = c :: (cs ++ [' ', '=', ' '] ++ e.2.write ++ ['\n']) := by
      rw [writeSetting, written]
      rfl
    rw [shape] at read
    rw [List.flatMap_cons, shape]
    exact append (line (.inr first) read) tail

/-- The lines of a section are its statements. -/
theorem ofSection {s : Section} (h : s.Readable) : Reads s.write s.statements := by
  have opened : Reads ('[' :: (s.name.toList ++ [']', '\n'])) [.openTable [s.name]] := by
    refine line (.inl rfl) fun rest => ?_
    rw [List.append_assoc]
    exact statement_header h.name rest
  have all := append opened (settings h.keys h.fits)
  simpa [Section.write, Section.statements] using all

/-- **The text of sections is read as their statements.** -/
theorem sections {ss : List Section} (h : ∀ s ∈ ss, s.Readable) :
    Reads (writeSections ss) (ss.flatMap Section.statements) := by
  fun_induction writeSections ss with
  | case1 => exact .nil
  | case2 s => simpa using ofSection (h s List.mem_cons_self)
  | case3 s rest _ ih =>
    have first := ofSection (h s List.mem_cons_self)
    have all := append (append first blankLine)
      (ih fun s hs => h s (List.mem_cons_of_mem _ hs))
    simpa using all

/-- A text that stands for statements by itself is read as them. -/
theorem statements_eq {ss : List Statement} (h : Reads cs ss) :
    statements (cs.length + 1) cs = some ss := by
  obtain ⟨k, few, read⟩ := h
  -- what is left of the fuel is enough to see that the text has ended
  obtain ⟨spare, length⟩ := Nat.exists_eq_add_of_le' few
  have all := read (spare + 1) []
  have done : statements (spare + 1) [] = some [] := rfl
  rw [List.append_nil, done] at all
  rw [length, Nat.add_right_comm, all]
  simp

end Reads

end DatasetCatalog.Toml
