import DatasetCatalog.Proofs.Toml.Statement
import DatasetCatalog.Toml.Document

/-!
# Documents survive their text

The document of the text of sections has a table for each of them, in their order
(`parse?_of_reads`), provided that no name is given twice. What a header does and what an
assignment adds below it is said by `add_openTable` and `add_assign`.
-/

namespace DatasetCatalog.Toml

variable {es inner : Entries} {name key : String} {v : Value}

/-- The table of a section. -/
def Section.entry (s : Section) : String × Value :=
  (s.name, .table .opened (s.settings.map fun e => (e.1, e.2.value)))

/-! ### Entries -/

namespace Entries

theorem value?_eq_none (h : key ∉ es.map Prod.fst) : es.value? key = none := by
  rw [value?, List.lookup_eq_none_iff]
  intro e he
  have other : key ≠ e.1 := fun same => h (same ▸ List.mem_map_of_mem he)
  simpa using other

/-- The value of the last entry, which has a name of its own. -/
theorem value?_append (h : key ∉ es.map Prod.fst) : (es.append key v).value? key = some v := by
  have before := value?_eq_none h
  rw [value?] at before
  rw [append, value?, List.lookup_append, before]
  simp

theorem replace_append {w : Value} (h : key ∉ es.map Prod.fst) :
    (es.append key v).replace key w = es.append key w := by
  have before : es.replace key w = es := by
    rw [replace]
    conv => rhs; rw [← List.map_id es]
    refine List.map_congr_left fun e he => ?_
    have other : e.1 ≠ key := fun same => h (same ▸ List.mem_map_of_mem he)
    exact if_neg other
  rw [replace] at before
  rw [append, replace, List.map_append, before]
  simp [append]

end Entries

/-! ### Statements -/

/-- A header with a new name opens an empty table at the end. -/
theorem add_openTable {current : List String} (h : name ∉ es.map Prod.fst) :
    Draft.add ⟨es, current⟩ (.openTable [name]) =
      some ⟨es.append name (.table .opened []), [name]⟩ := by
  simp [Draft.add, Draft.moveTo, Entries.atPath, Entries.openTable, Entries.value?_eq_none h]

/-- An assignment with a new key goes to the end of the table that is open. -/
theorem add_assign (h : name ∉ es.map Prod.fst) (new : key ∉ inner.map Prod.fst) :
    Draft.add ⟨es.append name (.table .opened inner), [name]⟩ (.assign [key] v) =
      some ⟨es.append name (.table .opened (inner.append key v)), [name]⟩ := by
  simp [Draft.add, Entries.atPath, Entries.within, Entries.value?_append h, Origin.isInline,
    assignAll, Entries.assign, Entries.value?_eq_none new, Entries.replace_append h]

/-- The settings of a section go into its table. -/
theorem foldlM_settings {settings : List (String × Setting)} (h : name ∉ es.map Prod.fst)
    (distinct : (inner.map Prod.fst ++ settings.map Prod.fst).Nodup) :
    (settings.map fun e => Statement.assign [e.1] e.2.value).foldlM Draft.add
        ⟨es.append name (.table .opened inner), [name]⟩ =
      some ⟨es.append name (.table .opened (inner ++ settings.map fun e => (e.1, e.2.value))),
        [name]⟩ := by
  -- on the settings; what is in the table already has other keys
  induction settings generalizing inner with
  | nil => simp
  | cons e settings ih =>
    have new : e.1 ∉ inner.map Prod.fst := by
      intro old
      exact (List.nodup_append.1 distinct).2.2 _ old _ List.mem_cons_self rfl
    have more : ((inner.append e.1 e.2.value).map Prod.fst ++ settings.map Prod.fst).Nodup := by
      simpa [Entries.append] using distinct
    have rest := ih more
    rw [List.map_cons, List.foldlM_cons, add_assign h new]
    simpa [Entries.append] using rest

/-- A section comes to one more table. -/
theorem foldlM_section {s : Section} {current : List String} (h : s.name ∉ es.map Prod.fst)
    (distinct : (s.settings.map Prod.fst).Nodup) :
    s.statements.foldlM Draft.add ⟨es, current⟩ = some ⟨es ++ [s.entry], [s.name]⟩ := by
  rw [Section.statements, List.foldlM_cons, add_openTable h]
  exact foldlM_settings h distinct

/-- Sections come to one table each. -/
theorem foldlM_sections {ss : List Section} (current : List String)
    (names : (es.map Prod.fst ++ ss.map Section.name).Nodup)
    (distinct : ∀ s ∈ ss, (s.settings.map Prod.fst).Nodup) :
    ((ss.flatMap Section.statements).foldlM Draft.add ⟨es, current⟩).map Draft.entries =
      some (es ++ ss.map Section.entry) := by
  induction ss generalizing es current with
  | nil => simp
  | cons s ss ih =>
    have new : s.name ∉ es.map Prod.fst := by
      intro old
      exact (List.nodup_append.1 names).2.2 _ old _ List.mem_cons_self rfl
    have more : ((es ++ [s.entry]).map Prod.fst ++ ss.map Section.name).Nodup := by
      simpa [Section.entry] using names
    have rest := ih [s.name] more fun s hs => distinct s (List.mem_cons_of_mem _ hs)
    rw [List.flatMap_cons, List.foldlM_append, foldlM_section new (distinct s List.mem_cons_self)]
    simpa using rest

/-- **The document of a written text** has a table for each section, with its settings in their
order. -/
theorem parse?_of_reads {cs : List Char} {ss : List Section}
    (h : Reads cs (ss.flatMap Section.statements)) (unmarked : dropMark cs = cs)
    (names : (ss.map Section.name).Nodup) (distinct : ∀ s ∈ ss, (s.settings.map Prod.fst).Nodup) :
    parse? (String.ofList cs) = some (ss.map Section.entry) := by
  have run : ((ss.flatMap Section.statements).foldlM Draft.add {}).map Draft.entries =
      some (ss.map Section.entry) := foldlM_sections [] names distinct
  rw [parse?, String.toList_ofList, unmarked, h.statements_eq]
  exact run

end DatasetCatalog.Toml
