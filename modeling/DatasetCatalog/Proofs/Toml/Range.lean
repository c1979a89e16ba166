import DatasetCatalog.Proofs.Toml.Number
import DatasetCatalog.Toml.Document
import DatasetCatalog.Toml.Record

/-!
# Numbers of a document

Every integer in a document that is read is in range (`inRange_of_parse?`), however deep it stands
and whatever form its table has. The readers of values give values in range, and the three ways to
add to a table keep it in range, each by the induction of its own definition.

A record is built of such values, so a property of records that no field can break holds of every
record that is read (`readRecord_keeps`, `takeEntries_keeps`).
-/

namespace DatasetCatalog.Toml

/-- All integers of a value are in range. -/
inductive Value.InRange : Value → Prop
  | string (s : String) : InRange (.string s)
  | integer {n : Int} (h : least ≤ n ∧ n ≤ greatest) : InRange (.integer n)
  | float : InRange .float
  | boolean (b : Bool) : InRange (.boolean b)
  | moment : InRange .moment
  | array {items : List Value} (h : ∀ v ∈ items, InRange v) : InRange (.array items)
  | table {origin : Origin} {entries : List (String × Value)} (h : ∀ e ∈ entries, InRange e.2) :
    InRange (.table origin entries)
  | tables {items : List (List (String × Value))} (h : ∀ es ∈ items, ∀ e ∈ es, InRange e.2) :
    InRange (.tables items)

/-- All integers of a table are in range. -/
def Entries.InRange (es : Entries) : Prop := ∀ e ∈ es, e.2.InRange

/-! ### Adding to tables -/

namespace Entries

variable {es es' : Entries} {k key : String} {v : Value}

theorem inRange_nil : InRange [] := nofun

theorem InRange.append (h : es.InRange) (hv : v.InRange) : (es.append key v).InRange := by
  intro e he
  rcases List.mem_append.1 he with old | new
  · exact h e old
  · obtain rfl := List.mem_singleton.1 new
    exact hv

theorem InRange.replace (h : es.InRange) (hv : v.InRange) : (es.replace key v).InRange := by
  intro e he
  obtain ⟨old, member, rfl⟩ := List.mem_map.1 he
  split
  · exact hv
  · exact h old member

theorem InRange.erase (h : es.InRange) : (es.erase key).InRange :=
  fun e he => h e (List.mem_filter.1 he).1

theorem InRange.of_value? (h : es.InRange) (found : es.value? key = some v) : v.InRange := by
  obtain ⟨before, after, rfl, -⟩ := List.lookup_eq_some_iff.1 found
  exact h (key, v) (by simp)

/-- Changing the last of several tables keeps them in range if the change does. -/
theorem inRange_onLast {f : Entries → Option Entries} {items items' : List Entries}
    (keeps : ∀ {es es'}, InRange es → f es = some es' → InRange es')
    (h : ∀ es ∈ items, InRange es) (changed : onLast f items = some items') :
    ∀ es ∈ items', InRange es := by
  rw [onLast] at changed
  split at changed
  · next last found =>
    obtain ⟨new, made, rfl⟩ := Option.map_eq_some_iff.1 changed
    intro es he
    rcases List.mem_append.1 he with old | added
    · exact h es (List.dropLast_subset _ old)
    · obtain rfl := List.mem_singleton.1 added
      exact keeps (h last (List.mem_of_getLast? found)) made
  · cases changed

theorem inRange_assign {made : Origin} {path : List String} (h : es.InRange) (hv : v.InRange)
    (assigned : es.assign made path key v = some es') : es'.InRange := by
  induction path generalizing es es' with
  | nil =>
    rw [assign] at assigned
    split at assigned
    · cases assigned
    · cases assigned
      exact h.append hv
  | cons k path ih =>
    rw [assign] at assigned
    split at assigned
    · obtain ⟨inner, inside, rfl⟩ := Option.map_eq_some_iff.1 assigned
      exact h.append (.table (ih inRange_nil inside))
    · next origin inner found =>
      cases h.of_value? found with
      | table old =>
        split at assigned
        · obtain ⟨inner, inside, rfl⟩ := Option.map_eq_some_iff.1 assigned
          exact h.replace (.table (ih old inside))
        · cases assigned
    · next items found =>
      cases h.of_value? found with
      | tables old =>
        split at assigned
        · cases assigned
        · obtain ⟨items, inside, rfl⟩ := Option.map_eq_some_iff.1 assigned
          exact h.replace (.tables (inRange_onLast ih old inside))
    · cases assigned

section
variable {f : Entries → Option Entries}
  (keeps : ∀ {es es'}, InRange es → f es = some es' → InRange es')

include keeps in
theorem inRange_within (h : es.InRange) (changed : within k f es = some es') : es'.InRange := by
  rw [within] at changed
  split at changed
  · obtain ⟨inner, inside, rfl⟩ := Option.map_eq_some_iff.1 changed
    exact h.append (.table (keeps inRange_nil inside))
  · next origin inner found =>
    cases h.of_value? found with
    | table old =>
      split at changed
      · cases changed
      · obtain ⟨inner, inside, rfl⟩ := Option.map_eq_some_iff.1 changed
        exact h.replace (.table (keeps old inside))
  · next items found =>
    cases h.of_value? found with
    | tables old =>
      obtain ⟨items, inside, rfl⟩ := Option.map_eq_some_iff.1 changed
      exact h.replace (.tables (inRange_onLast keeps old inside))
  · cases changed

include keeps in
theorem inRange_atPath {path : List String} (h : es.InRange)
    (changed : atPath f path es = some es') : es'.InRange := by
  induction path generalizing es es' with
  | nil => exact keeps h changed
  | cons k path ih => exact inRange_within ih h changed

end

theorem inRange_openTable (h : es.InRange) (opened : openTable key es = some es') :
    es'.InRange := by
  rw [openTable] at opened
  split at opened
  · cases opened
    exact h.append (.table inRange_nil)
  · next inner found =>
    cases opened
    cases h.of_value? found with
    | table old => exact h.erase.append (.table old)
  · cases opened

theorem inRange_openElement (h : es.InRange) (opened : openElement key es = some es') :
    es'.InRange := by
  have fresh : ∀ es ∈ [([] : Entries)], InRange es := by
    intro es he
    obtain rfl := List.mem_singleton.1 he
    exact inRange_nil
  rw [openElement] at opened
  split at opened
  · cases opened
    exact h.append (.tables fresh)
  · next items found =>
    cases opened
    cases h.of_value? found with
    | tables old =>
      refine h.replace (.tables fun es he => ?_)
      rcases List.mem_append.1 he with member | new
      · exact old es member
      · exact fresh es new
  · cases opened

end Entries

theorem inRange_assignAll {made : Origin} {start es : Entries}
    {assignments : List (List String × Value)} (h : start.InRange)
    (values : ∀ a ∈ assignments, a.2.InRange) (assigned : assignAll made start assignments = some es) :
    es.InRange := by
  induction assignments generalizing start with
  | nil =>
    cases assigned
    exact h
  | cons a assignments ih =>
    rw [assignAll, List.foldlM_cons] at assigned
    obtain ⟨next, one, assigned⟩ := Option.bind_eq_some_iff.1 assigned
    refine ih ?_ (fun b hb => values b (List.mem_cons_of_mem _ hb)) assigned
    split at one
    · exact Entries.inRange_assign h (values a List.mem_cons_self) one
    · cases one

/-! ### Reading values -/

section
variable {α : Type} {item : Scan α} {P : α → Prop} {cs rest : List Char}
  (read : ∀ {cs a rest}, item cs = some (a, rest) → P a)

include read in
/-- What is true of every item that is read is true of the items of an array. -/
theorem forall_arrayItems {fuel : Nat} {as : List α}
    (h : arrayItems item fuel cs = some (as, rest)) : ∀ a ∈ as, P a := by
  induction fuel generalizing cs as with
  | zero => cases h
  | succ fuel ih =>
    rw [arrayItems] at h
    obtain ⟨cs, -, h⟩ := Option.bind_eq_some_iff.1 h
    split at h
    · cases h
      exact nofun
    · obtain ⟨⟨a, after⟩, first, h⟩ := Option.bind_eq_some_iff.1 h
      obtain ⟨cs, -, h⟩ := Option.bind_eq_some_iff.1 h
      split at h
      · obtain ⟨⟨more, after⟩, others, h⟩ := Option.bind_eq_some_iff.1 h
        cases h
        exact List.forall_mem_cons.2 ⟨read first, ih others⟩
      · cases h
        exact List.forall_mem_cons.2 ⟨read first, nofun⟩
      · cases h

include read in
theorem of_assignment {a : List String × α} (h : assignment item cs = some (a, rest)) : P a.2 := by
  obtain ⟨⟨key, after⟩, -, h⟩ := Option.bind_eq_some_iff.1 h
  obtain ⟨cs, -, h⟩ := Option.bind_eq_some_iff.1 h
  obtain ⟨⟨a, after⟩, value, h⟩ := Option.bind_eq_some_iff.1 h
  cases h
  exact read value

include read in
/-- What is true of every value that is read is true of the values of an inline table. -/
theorem forall_inlineItems {fuel : Nat} {as : List (List String × α)}
    (h : inlineItems item fuel cs = some (as, rest)) : ∀ a ∈ as, P a.2 := by
  induction fuel generalizing cs as with
  | zero => cases h
  | succ fuel ih =>
    rw [inlineItems] at h
    obtain ⟨⟨a, after⟩, first, h⟩ := Option.bind_eq_some_iff.1 h
    have here := of_assignment read first
    dsimp only at h
    split at h
    · obtain ⟨⟨more, after⟩, others, h⟩ := Option.bind_eq_some_iff.1 h
      cases h
      exact List.forall_mem_cons.2 ⟨here, ih others⟩
    · cases h
      exact List.forall_mem_cons.2 ⟨here, nofun⟩
    · cases h

end

section
variable {cs rest : List Char} {v : Value}

theorem inRange_of_inlineTable {value : Scan Value}
    (read : ∀ {cs v rest}, value cs = some (v, rest) → v.InRange)
    (h : inlineTable value cs = some (v, rest)) : v.InRange := by
  rw [inlineTable] at h
  split at h
  · cases h
    exact .table Entries.inRange_nil
  · obtain ⟨⟨assignments, after⟩, items, h⟩ := Option.bind_eq_some_iff.1 h
    obtain ⟨es, all, h⟩ := Option.bind_eq_some_iff.1 h
    cases h
    exact .table (inRange_assignAll Entries.inRange_nil (forall_inlineItems read items) all)

theorem inRange_of_readNumber (h : readNumber cs = some (v, rest)) : v.InRange := by
  rw [readNumber] at h
  split at h
  · cases h
    exact .moment
  · split at h
    · cases h
      exact .float
    · obtain ⟨⟨n, after⟩, read, same⟩ := Option.map_eq_some_iff.1 h
      cases same
      exact .integer (inRange_of_readInteger read)

/-- What is read as a value. -/
theorem readNested_cases {levels : Nat} (h : readNested levels cs = some (v, rest)) :
    (∃ s, v = .string s) ∨ (∃ b, v = .boolean b) ∨ readNumber cs = some (v, rest) ∨
      ∃ lower inside, levels = lower + 1 ∧
        ((∃ items, v = .array items ∧
            arrayItems (readNested lower) (inside.length + 1) inside = some (items, rest)) ∨
          inlineTable (readNested lower) inside = some (v, rest)) := by
  rw [readNested.eq_def] at h
  dsimp only at h
  split at h
  · obtain ⟨⟨s, after⟩, -, same⟩ := Option.map_eq_some_iff.1 h
    cases same
    exact .inl ⟨s, rfl⟩
  · obtain ⟨⟨s, after⟩, -, same⟩ := Option.map_eq_some_iff.1 h
    cases same
    exact .inl ⟨s, rfl⟩
  · obtain ⟨after, -, same⟩ := Option.map_eq_some_iff.1 h
    cases same
    exact .inr (.inl ⟨true, rfl⟩)
  · obtain ⟨after, -, same⟩ := Option.map_eq_some_iff.1 h
    cases same
    exact .inr (.inl ⟨false, rfl⟩)
  · next inside =>
    cases levels with
    | zero => cases h
    | succ lower =>
      obtain ⟨⟨items, after⟩, read, same⟩ := Option.map_eq_some_iff.1 h
      cases same
      exact .inr (.inr (.inr ⟨lower, inside, rfl, .inl ⟨items, rfl, read⟩⟩))
  · next inside =>
    cases levels with
    | zero => cases h
    | succ lower => exact .inr (.inr (.inr ⟨lower, inside, rfl, .inr h⟩))
  · exact .inr (.inr (.inl h))

theorem inRange_of_readNested {levels : Nat} (h : readNested levels cs = some (v, rest)) :
    v.InRange := by
  -- on the levels that are left; arrays and inline tables have values of the level below
  induction levels using Nat.strongRecOn generalizing cs v rest with
  | ind levels ih =>
    rcases readNested_cases h with ⟨s, rfl⟩ | ⟨b, rfl⟩ | number | ⟨lower, inside, rfl, nested⟩
    · exact .string s
    · exact .boolean b
    · exact inRange_of_readNumber number
    · have below {cs rest : List Char} {v : Value} (h : readNested lower cs = some (v, rest)) :
          v.InRange := ih lower (Nat.lt_succ_self lower) h
      rcases nested with ⟨items, rfl, read⟩ | read
      · exact .array (forall_arrayItems below read)
      · exact inRange_of_inlineTable below read

end

/-! ### Statements and documents -/

/-- All integers of a statement are in range. -/
def Statement.InRange : Statement → Prop
  | .assign _ v => v.InRange
  | .openTable _ | .openElement _ => True

theorem inRange_of_header {cs rest : List Char} {s : Statement}
    (h : header cs = some (s, rest)) : s.InRange := by
  unfold header at h
  split at h
  · obtain ⟨⟨path, after⟩, -, h⟩ := Option.bind_eq_some_iff.1 h
    obtain ⟨after, -, h⟩ := Option.bind_eq_some_iff.1 h
    obtain ⟨after, -, h⟩ := Option.bind_eq_some_iff.1 h
    cases h
    trivial
  · obtain ⟨⟨path, after⟩, -, h⟩ := Option.bind_eq_some_iff.1 h
    obtain ⟨after, -, h⟩ := Option.bind_eq_some_iff.1 h
    cases h
    trivial
  · cases h

theorem inRange_of_statement {cs rest : List Char} {s : Statement}
    (h : statement cs = some (s, rest)) : s.InRange := by
  unfold statement at h
  dsimp only at h
  split at h
  · obtain ⟨⟨s, after⟩, read, h⟩ := Option.bind_eq_some_iff.1 h
    obtain ⟨after, -, h⟩ := Option.bind_eq_some_iff.1 h
    cases h
    exact inRange_of_header read
  · obtain ⟨⟨s, after⟩, read, h⟩ := Option.bind_eq_some_iff.1 h
    obtain ⟨after, -, h⟩ := Option.bind_eq_some_iff.1 h
    obtain ⟨⟨a, after⟩, assigned, same⟩ := Option.map_eq_some_iff.1 read
    cases same
    cases h
    exact of_assignment (fun value => inRange_of_readNested value) assigned

theorem inRange_of_statements {fuel : Nat} {cs : List Char} {ss : List Statement}
    (h : statements fuel cs = some ss) : ∀ s ∈ ss, s.InRange := by
  induction fuel generalizing cs ss with
  | zero => cases h
  | succ fuel ih =>
    rw [statements] at h
    split at h
    · cases h
      exact nofun
    · obtain ⟨after, -, h⟩ := Option.bind_eq_some_iff.1 h
      exact ih h
    · exact ih h
    · exact ih h
    · obtain ⟨⟨s, after⟩, read, h⟩ := Option.bind_eq_some_iff.1 h
      obtain ⟨more, others, h⟩ := Option.bind_eq_some_iff.1 h
      cases h
      exact List.forall_mem_cons.2 ⟨inRange_of_statement read, ih others⟩

theorem Draft.inRange_moveTo {d d' : Draft} {path : List String}
    {open? : String → Entries → Option Entries} (h : d.entries.InRange)
    (keeps : ∀ {key} {es es' : Entries}, es.InRange → open? key es = some es' → es'.InRange)
    (moved : d.moveTo path open? = some d') : d'.entries.InRange := by
  rw [moveTo] at moved
  split at moved
  · obtain ⟨es, opened, rfl⟩ := Option.map_eq_some_iff.1 moved
    exact Entries.inRange_atPath keeps h opened
  · cases moved

theorem Draft.inRange_add {d d' : Draft} {s : Statement} (h : d.entries.InRange) (hs : s.InRange)
    (added : d.add s = some d') : d'.entries.InRange := by
  cases s with
  | assign key v =>
    obtain ⟨es, assigned, rfl⟩ := Option.map_eq_some_iff.1 added
    refine Entries.inRange_atPath (fun old one => inRange_assignAll old ?_ one) h assigned
    intro a ha
    obtain rfl := List.mem_singleton.1 ha
    exact hs
  | openTable path => exact inRange_moveTo h Entries.inRange_openTable added
  | openElement path => exact inRange_moveTo h Entries.inRange_openElement added

theorem inRange_of_foldlM {d d' : Draft} {ss : List Statement} (h : d.entries.InRange)
    (all : ∀ s ∈ ss, s.InRange) (run : ss.foldlM Draft.add d = some d') : d'.entries.InRange := by
  induction ss generalizing d with
  | nil =>
    cases run
    exact h
  | cons s ss ih =>
    rw [List.foldlM_cons] at run
    obtain ⟨next, added, run⟩ := Option.bind_eq_some_iff.1 run
    exact ih (Draft.inRange_add h (all s List.mem_cons_self) added)
      (fun t ht => all t (List.mem_cons_of_mem _ ht)) run

/-- **All integers of a document are in range.** -/
theorem inRange_of_parse? {text : String} {es : Entries} (h : parse? text = some es) :
    es.InRange := by
  obtain ⟨ss, read, all⟩ := Option.bind_eq_some_iff.1 h
  obtain ⟨d, run, rfl⟩ := Option.map_eq_some_iff.1 all
  exact inRange_of_foldlM (d := {}) Entries.inRange_nil (inRange_of_statements read) run

/-! ### Records -/

section
variable {α : Type} {P : α → Prop} {fields : List (Field α)}

/-- A field keeps a property of records, whatever value in range it is given. -/
def Field.Keeps (P : α → Prop) (f : Field α) : Prop :=
  ∀ v a b, v.InRange → P a → f.set v a = some b → P b

theorem Field.Keeps.make {β : Type} {key : String} {read : Value → Option β} {set : β → α → α}
    (h : ∀ v b a, v.InRange → read v = some b → P a → P (set b a)) :
    (Field.make key read set).Keeps P := by
  intro v a b inRange ha changed
  obtain ⟨value, found, rfl⟩ := Option.map_eq_some_iff.1 changed
  exact h v value a inRange found ha

variable (keeps : ∀ f ∈ fields, f.Keeps P)

include keeps in
/-- A record that is read from a table has what no field can break. -/
theorem takeEntries_keeps {es : Entries} {a b : α} (h : es.InRange) (ha : P a)
    (read : takeEntries fields es a = some b) : P b := by
  induction es generalizing a with
  | nil =>
    cases read
    exact ha
  | cons e es ih =>
    obtain ⟨k, v⟩ := e
    obtain ⟨here, behind⟩ := List.forall_mem_cons.1 h
    rw [takeEntries] at read
    split at read
    · next f found =>
      obtain ⟨next, set, read⟩ := Option.bind_eq_some_iff.1 read
      exact ih behind (keeps f (List.mem_of_find?_eq_some found) v a next here ha set) read
    · exact ih behind ha read

include keeps in
theorem takeItems_keeps {items : List Value} {a b : α} (h : ∀ v ∈ items, v.InRange) (ha : P a)
    (read : takeItems fields items a = some b) : P b := by
  induction fields generalizing items a with
  | nil =>
    cases read
    exact ha
  | cons f fields ih =>
    cases items with
    | nil =>
      cases read
      exact ha
    | cons v items =>
      obtain ⟨here, behind⟩ := List.forall_mem_cons.1 h
      obtain ⟨next, set, read⟩ := Option.bind_eq_some_iff.1 read
      exact ih (fun g hg => keeps g (List.mem_cons_of_mem _ hg)) behind
        (keeps f List.mem_cons_self v a next here ha set) read

include keeps in
/-- A record that is read from a value has what no field can break. -/
theorem readRecord_keeps {v : Value} {a b : α} (h : v.InRange) (ha : P a)
    (read : readRecord fields a v = some b) : P b := by
  cases h with
  | table h => exact takeEntries_keeps keeps h ha read
  | array h => exact takeItems_keeps keeps h ha read
  | tables h =>
    refine takeItems_keeps keeps ?_ ha read
    intro v hv
    obtain ⟨es, member, rfl⟩ := List.mem_map.1 hv
    exact .table (h es member)
  | moment =>
    cases read
    exact ha
  | string | integer | float | boolean => cases read

end

end DatasetCatalog.Toml
