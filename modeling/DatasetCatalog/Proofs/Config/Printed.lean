import DatasetCatalog.Config.Document
import DatasetCatalog.Proofs.SocketAddress
import DatasetCatalog.Proofs.Toml.Document
import DatasetCatalog.Proofs.Toml.Range

/-!
# Printed configurations

A configuration that was read from some text is read back from the text that is written for it, with
or without an empty line at the end (`ofToml_toToml`).

Two facts carry this. Every configuration that was read can be written: its one number is within the
range of a document, because no reader finds a number outside of it (`writable_of_parse?`), and texts
can be written whatever they hold. And what is written names each table and each key once and without
quotes, so the document that is read has the tables that were written, and each setting is taken from
them again (`takeEntries_sections`). A setting that is not written is one that a configuration starts
with.
-/

namespace DatasetCatalog.Config

open Toml (Value Section Setting)

/-- Whether a configuration can be written as a document: numbers have an end there. -/
def Writable (c : Config) : Prop := (c.executor.limit : Int) ≤ Toml.greatest

instance (c : Config) : Decidable c.Writable :=
  inferInstanceAs (Decidable ((c.executor.limit : Int) ≤ Toml.greatest))

/-! ### Fields -/

theorem natural?_le {v : Value} {n : Nat} (h : v.InRange) (read : v.natural? = some n) :
    (n : Int) ≤ Toml.greatest := by
  unfold Value.natural? at read
  split at read
  · next m =>
    split at read
    · next positive =>
      cases read
      cases h with
      | integer bounds =>
        rw [Int.toNat_of_nonneg positive]
        exact bounds.2
    · cases read
  · cases read

/-- Whatever section a limit is read from, it can be written. -/
theorem executor_keeps :
    ∀ f ∈ executorFields, f.Keeps fun e : Executor => (e.limit : Int) ≤ Toml.greatest := by
  intro f hf
  simp only [executorFields, List.mem_cons, List.not_mem_nil, or_false] at hf
  rcases hf with rfl | rfl | rfl | rfl | rfl
  · exact .make fun _ _ _ _ _ fits => fits
  · exact .make fun _ _ _ inRange read _ => natural?_le inRange read
  · exact .make fun _ _ _ _ _ fits => fits
  · exact .make fun _ _ _ _ _ fits => fits
  · exact .make fun _ _ _ _ _ fits => fits

theorem fields_keep : ∀ f ∈ fields, f.Keeps Writable := by
  have default_ : ((300 : Nat) : Int) ≤ Toml.greatest := by decide
  intro f hf
  simp only [fields, List.mem_cons, List.not_mem_nil, or_false] at hf
  rcases hf with rfl | rfl | rfl | rfl | rfl
  · exact .make fun _ _ _ _ _ fits => fits
  · exact .make fun _ _ _ _ _ fits => fits
  · exact .make fun _ _ _ _ _ fits => fits
  · exact .make fun _ _ _ inRange read _ =>
      Toml.readRecord_keeps executor_keeps inRange default_ read
  · exact .make fun _ _ _ _ _ fits => fits

/-- A configuration that was read can be written. -/
theorem writable_of_parse? {text : String} {c : Config} (h : parse? text = some c) :
    c.Writable := by
  have default_ : ({} : Config).Writable := by decide
  obtain ⟨es, document, read⟩ := Option.bind_eq_some_iff.1 h
  exact Toml.takeEntries_keeps fields_keep (Toml.inRange_of_parse? document) default_ read

/-! ### Sections -/

/-- Every name is written without quotes, and none is given twice. -/
theorem names_of_sections (c : Config) :
    ∀ s ∈ c.sections.map fun s => (s.name, s.settings.map Prod.fst),
      Toml.IsBare s.1 ∧ (∀ key ∈ s.2, Toml.IsBare key) ∧ s.2.Nodup := by
  obtain ⟨_, _, ⟨_, directory, _⟩, ⟨_, _, _, command, _⟩, _⟩ := c
  cases directory <;> cases command <;>
    simp only [sections, optional, List.map_cons, List.map_nil, List.cons_append, List.nil_append] <;>
    decide

theorem fits_of_sections {c : Config} (h : c.Writable) :
    ∀ s ∈ c.sections, ∀ e ∈ s.settings, e.2.Fits := by
  obtain ⟨_, _, ⟨_, directory, _⟩, ⟨_, limit, _, command, _⟩, _⟩ := c
  have limit : (limit : Int) ≤ Toml.greatest := h
  cases directory <;> cases command <;>
    simp [sections, optional, -Prod.forall, limit]

theorem readable_sections {c : Config} (h : c.Writable) : ∀ s ∈ c.sections, s.Readable := by
  intro s hs
  obtain ⟨name, keys, distinct⟩ := names_of_sections c _ (List.mem_map_of_mem hs)
  exact ⟨name, List.forall_mem_map.1 keys, distinct, fits_of_sections h s hs⟩

/-! ### Values of settings -/

theorem address?_text (a : SocketAddress) : address? (.string a.text) = some a :=
  SocketAddress.parse?_text a

theorem choice?_formatName (f : LogFormat) :
    Value.choice? formats (.string (formatName f)) = some f := by
  cases f with
  | pretty => rfl
  | json => rfl

theorem choice?_modeName (m : ExecutorMode) :
    Value.choice? modes (.string (modeName m)) = some m := by
  cases m with
  | inProcess => rfl
  | subprocess => rfl

theorem strings?_texts (ss : List String) : Value.strings? (.array (ss.map .string)) = some ss := by
  induction ss with
  | nil => rfl
  | cons s ss ih =>
    rw [Value.strings?] at ih ⊢
    simp [ih, Value.string?]

/-- The tables of the sections are taken into the configuration that they were written for. A value
that is left out is one that the configuration starts with. -/
theorem takeEntries_sections (c : Config) :
    Toml.takeEntries fields (c.sections.map Section.entry) {} = some c := by
  obtain ⟨server, logging, ⟨_, directory, _⟩, ⟨_, _, _, command, _⟩, explore⟩ := c
  -- which settings there are depends on the two optional values only
  cases directory <;> cases command <;>
    simp [sections, optional, Section.entry, Setting.value, Toml.takeEntries, Toml.readRecord,
      Toml.Field.make, fields, serverFields, loggingFields, catalogFields, executorFields,
      exploreFields, address?_text, choice?_formatName, choice?_modeName, strings?_texts,
      Value.string?, Value.boolean?, Value.natural?]

/-! ### Texts -/

/-- A written configuration is read back, also with an empty line behind it. -/
theorem parse?_writeSections {c : Config} (h : c.Writable) {behind : List Char}
    (nothing : Toml.Reads behind []) :
    parse? (String.ofList (Toml.writeSections c.sections ++ behind)) = some c := by
  have readable := readable_sections h
  have reads := Toml.Reads.append (.sections readable) nothing
  rw [List.append_nil] at reads
  have names : (c.sections.map Section.name).Nodup := by
    simp [sections]
  have document := Toml.parse?_of_reads reads rfl names fun s hs => (readable s hs).distinct
  rw [parse?, document]
  exact takeEntries_sections c

theorem ofToml_eq_ok {text : String} {c : Config} :
    ofToml text = .ok c ↔ parse? text = some c ∧ c.validate = .ok () := by
  rw [ofToml]
  cases parse? text with
  | none => simp
  | some start =>
    change (start.validate.bind fun _ => .ok start) = _ ↔ _
    rw [Option.some.injEq]
    constructor
    · intro read
      cases valid : start.validate with
      | error e =>
        rw [valid] at read
        cases read
      | ok u =>
        rw [valid] at read
        cases read
        exact ⟨rfl, valid⟩
    · intro ⟨same, valid⟩
      rw [same, valid]
      rfl

/-- **A configuration that can be written and used is read back from its text.** -/
theorem ofToml_toToml {c : Config} (h : c.Writable) (valid : c.validate = .ok ()) :
    ofToml c.toToml = .ok c ∧ ofToml (c.toToml ++ "\n") = .ok c := by
  have whole := parse?_writeSections h .nil
  have line := parse?_writeSections h .blankLine
  rw [List.append_nil] at whole
  rw [String.ofList_append] at line
  exact ⟨ofToml_eq_ok.2 ⟨whole, valid⟩, ofToml_eq_ok.2 ⟨line, valid⟩⟩

end DatasetCatalog.Config

