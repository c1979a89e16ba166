import DatasetCatalog.Proofs.Specification
import DatasetCatalog.Storage.Definition

/-!
# What the code of the built-in types makes

Both built-in types make a specification of the name and the properties that they are given. It is in
order and nests little, so it survives its stored form; its parts have the name of the instance or one
derived from it; and made again from its own properties it is the same (`Makes.stable`).
-/

namespace DatasetCatalog.Definition

variable {typeName name : String} {ps : Properties} {d : Definition} {spec : Specification}

/-- The specification of a table. -/
def tableSpec (name : String) (ps : Properties) : Specification :=
  ⟨name, tableType, StringMap.insertAll ps StringMap.empty, []⟩

/-- The specification of a key/value table. -/
def keyValueSpec (name : String) (ps : Properties) : Specification :=
  ⟨name, keyValueTableType, StringMap.insertAll ps StringMap.empty,
    [(embeddedTable, tableSpec (name ++ "." ++ embeddedTable) ps)]⟩

/-- The specification that a built-in type makes of properties that it accepts. -/
inductive Makes : String → String → Properties → Specification → Prop
  | table {name : String} {ps : Properties} (accepted : checkTtl ps = .ok ()) :
      Makes tableType name ps (tableSpec name ps)
  | keyValueTable {name : String} {ps : Properties} (accepted : checkTtl ps = .ok ()) :
      Makes keyValueTableType name ps (keyValueSpec name ps)

theorem table_eq_ok : table name ps = .ok spec ↔
    checkTtl ps = .ok () ∧ spec = tableSpec name ps := by
  unfold table
  cases h : checkTtl ps with
  | error e =>
    constructor
    · intro hmade
      cases hmade
    · rintro ⟨hok, -⟩
      cases hok
  | ok u =>
    constructor
    · intro hmade
      cases hmade
      exact ⟨rfl, rfl⟩
    · rintro ⟨-, rfl⟩
      rfl

theorem keyValueTable_eq_ok : keyValueTable name ps = .ok spec ↔
    checkTtl ps = .ok () ∧ spec = keyValueSpec name ps := by
  unfold keyValueTable
  cases h : table (name ++ "." ++ embeddedTable) ps with
  | error e =>
    constructor
    · intro hmade
      cases hmade
    · rintro ⟨hok, -⟩
      cases h.symm.trans (table_eq_ok.2 ⟨hok, rfl⟩)
  | ok part =>
    obtain ⟨accepted, rfl⟩ := table_eq_ok.1 h
    constructor
    · intro hmade
      cases hmade
      exact ⟨accepted, rfl⟩
    · rintro ⟨-, rfl⟩
      rfl

/-- The code of the built-in types makes what it is said to. -/
theorem makes_iff : (∃ d, StringMap.find? typeName builtin = some d ∧ d name ps = .ok spec) ↔
    Makes typeName name ps spec := by
  have entries : builtin = [(keyValueTableType, keyValueTable), (tableType, table)] := rfl
  rw [entries]
  constructor
  · rintro ⟨d, found, made⟩
    rw [StringMap.find?] at found
    split at found
    · next heq =>
      cases found
      obtain ⟨accepted, rfl⟩ := keyValueTable_eq_ok.1 made
      exact heq ▸ .keyValueTable accepted
    · rw [StringMap.find?] at found
      split at found
      · next heq =>
        cases found
        obtain ⟨accepted, rfl⟩ := table_eq_ok.1 made
        exact heq ▸ .table accepted
      · cases found
  · intro made
    cases made with
    | table accepted => exact ⟨table, rfl, table_eq_ok.2 ⟨accepted, rfl⟩⟩
    | keyValueTable accepted => exact ⟨keyValueTable, rfl, keyValueTable_eq_ok.2 ⟨accepted, rfl⟩⟩

namespace Makes

theorem named (h : Makes typeName name ps spec) : spec.name = name ∧ spec.typeName = typeName := by
  cases h <;> exact ⟨rfl, rfl⟩

/-- The properties are those that were given, in order. -/
theorem properties (h : Makes typeName name ps spec) :
    spec.properties = StringMap.insertAll ps StringMap.empty := by
  cases h <;> rfl

theorem ordered (h : Makes typeName name ps spec) : spec.Ordered := by
  have sorted : StringMap.Sorted (StringMap.insertAll ps StringMap.empty) :=
    StringMap.sorted_ofList ps
  have single : ∀ e : String × Specification, StringMap.Sorted [e] := fun e =>
    List.pairwise_singleton _ e
  have nothing : StringMap.Sorted ([] : List (String × Specification)) := List.Pairwise.nil
  cases h with
  | table _ => exact ⟨sorted, nothing, trivial⟩
  | keyValueTable _ => exact ⟨sorted, single _, ⟨sorted, nothing, trivial⟩, trivial⟩

/-- The parts have the name of the instance or the one derived from it. -/
theorem parts (h : Makes typeName name ps spec) {part : Specification} (hpart : part ∈ spec.parts) :
    part.name = name ∨ part.name = name ++ "." ++ embeddedTable := by
  cases h with
  | table _ =>
    simp only [tableSpec, Specification.parts, Specification.embeddedParts,
      List.mem_singleton] at hpart
    exact .inl (hpart ▸ rfl)
  | keyValueTable _ =>
    simp only [keyValueSpec, tableSpec, Specification.parts, Specification.embeddedParts,
      List.append_nil, List.mem_cons, List.not_mem_nil, or_false] at hpart
    rcases hpart with rfl | rfl
    · exact .inl rfl
    · exact .inr rfl

end Makes

theorem depth_ofStringMap (m : StringMap String) : (Json.Value.ofStringMap m).depth = 1 := by
  have members : Json.Value.depthMembers (m.map fun e => (e.1, Json.Value.string e.2)) = 0 := by
    induction m with
    | nil => rfl
    | cons e rest ih =>
      rw [List.map_cons, Json.Value.depthMembers, ih]
      rfl
  rw [Json.Value.ofStringMap, Json.Value.depth, members]

/-- The deepest nesting is that of the properties of the embedded table. -/
theorem Makes.depth_le (h : Makes typeName name ps spec) : spec.toJson.depth ≤ 4 := by
  cases h with
  | table _ =>
    simp [tableSpec, Specification.toJson, Json.Value.depth, Json.Value.depthMembers,
      depth_ofStringMap]
  | keyValueTable _ =>
    simp [keyValueSpec, tableSpec, Specification.toJson, Specification.embeddedToJson,
      Json.Value.depth, Json.Value.depthMembers, depth_ofStringMap]

theorem Makes.depth (h : Makes typeName name ps spec) : spec.toJson.depth ≤ Json.depthLimit :=
  Nat.le_trans h.depth_le (by decide)

/-- What is stored of such a specification is read back. -/
theorem Makes.decode (h : Makes typeName name ps spec) :
    Json.decode Specification.reader (Utf8.encode spec.toJson.indented) = .ok spec :=
  Specification.decode_indented h.ordered h.depth

/-- What is made again from the properties of a specification is that specification. -/
theorem Makes.stable (h : Makes typeName name ps spec) {again : Specification}
    (hagain : Makes spec.typeName name spec.properties again) : again = spec := by
  have same : StringMap.insertAll (StringMap.insertAll ps StringMap.empty) StringMap.empty =
      StringMap.insertAll ps StringMap.empty :=
    StringMap.insertAll_self (StringMap.sorted_ofList ps)
  have distinct : tableType ≠ keyValueTableType := by decide
  rw [h.properties, h.named.2] at hagain
  cases h with
  | table _ =>
    generalize htype : tableType = t at hagain
    cases hagain with
    | table _ => rw [tableSpec, tableSpec, same]
    | keyValueTable _ => exact absurd htype distinct
  | keyValueTable _ =>
    generalize htype : keyValueTableType = t at hagain
    cases hagain with
    | table _ => exact absurd htype.symm distinct
    | keyValueTable _ => rw [keyValueSpec, keyValueSpec, tableSpec, tableSpec, same]

/-- Of properties in order the code makes a specification with these properties, from which it can be
made again. -/
theorem Makes.self (h : Makes typeName name ps spec) (sorted : StringMap.Sorted ps) :
    Makes spec.typeName name spec.properties spec := by
  rw [h.named.2, h.properties, StringMap.insertAll_self sorted]
  exact h

/-- The parts have different names. -/
theorem Makes.nodup_parts (h : Makes typeName name ps spec) :
    (spec.parts.map (·.name)).Nodup := by
  cases h with
  | table _ => simp [tableSpec, Specification.parts, Specification.embeddedParts]
  | keyValueTable _ =>
    have different : name ≠ name ++ "." ++ embeddedTable := by
      intro same
      have lengths := congrArg String.length same
      have point : ".".length = 1 := rfl
      rw [String.length_append, String.length_append, point] at lengths
      omega
    simp [keyValueSpec, tableSpec, Specification.parts, Specification.embeddedParts, different]

end DatasetCatalog.Definition
