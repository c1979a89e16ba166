import DatasetCatalog.Proofs.Json.Typed
import DatasetCatalog.Specification

/-!
# Specifications survive their stored form

A specification whose maps are in order is read back from its JSON form, if that form nests no more
containers than readers follow. By induction on the levels of embedding that the reader allows: each
level nests two containers, the object of the specification and the map of the embedded ones.
-/

namespace DatasetCatalog

namespace Json.Value

/-- A member nests less than its object. -/
theorem depth_lt_of_mem {members : List (String × Value)} {m : String × Value} (h : m ∈ members) :
    m.2.depth ≤ depthMembers members := by
  induction members with
  | nil => cases h
  | cons e rest ih =>
    rcases List.mem_cons.1 h with rfl | hrest
    · exact Nat.le_max_left _ _
    · exact Nat.le_trans (ih hrest) (Nat.le_max_right _ _)

theorem depthMembers_le {members : List (String × Value)} {n : Nat}
    (h : ∀ m ∈ members, m.2.depth ≤ n) : depthMembers members ≤ n := by
  induction members with
  | nil => exact Nat.zero_le n
  | cons m rest ih =>
    exact Nat.max_le.2 ⟨h m List.mem_cons_self, ih fun e he => h e (List.mem_cons_of_mem _ he)⟩

theorem numberlessMembers_of_forall {members : List (String × Value)}
    (h : ∀ m ∈ members, m.2.Numberless) : NumberlessMembers members := by
  induction members with
  | nil => exact trivial
  | cons e rest ih =>
    exact ⟨h e List.mem_cons_self, ih fun m hm => h m (List.mem_cons_of_mem _ hm)⟩

theorem numberless_ofStringMap (m : StringMap String) : (ofStringMap m).Numberless := by
  refine numberlessMembers_of_forall fun e he => ?_
  obtain ⟨_, -, rfl⟩ := List.mem_map.1 he
  exact trivial

end Json.Value

namespace Specification

open Json

theorem embeddedToJson_eq_map (ds : List (String × Specification)) :
    embeddedToJson ds = ds.map fun e => (e.1, e.2.toJson) := by
  induction ds with
  | nil => rfl
  | cons e rest ih => rw [embeddedToJson, ih, List.map_cons]

theorem ordered_of_mem {ds : List (String × Specification)} (h : EmbeddedOrdered ds)
    {e : String × Specification} (he : e ∈ ds) : e.2.Ordered := by
  induction ds with
  | nil => cases he
  | cons d rest ih =>
    rcases List.mem_cons.1 he with rfl | hrest
    · exact h.1
    · exact ih h.2 hrest

mutual

theorem numberless_toJson : (spec : Specification) → spec.toJson.Numberless
  | ⟨_, _, ps, []⟩ => ⟨trivial, trivial, Value.numberless_ofStringMap ps, trivial⟩
  | ⟨_, _, ps, d :: ds⟩ => ⟨trivial, trivial, Value.numberless_ofStringMap ps,
      numberless_embeddedToJson (d :: ds), trivial⟩

theorem numberless_embeddedToJson : (ds : List (String × Specification)) →
    Value.NumberlessMembers (embeddedToJson ds)
  | [] => trivial
  | (_, s) :: rest => ⟨numberless_toJson s, numberless_embeddedToJson rest⟩

end

/-! ### How deeply the stored form nests -/

theorem two_le_depth (spec : Specification) : 2 ≤ spec.toJson.depth := by
  obtain ⟨n, t, ps, ds⟩ := spec
  have properties : (Value.ofStringMap ps).depth ≤ Value.depthMembers
      ([("name", .string n), ("type", .string t), ("properties", .ofStringMap ps)] ++
        if ds.isEmpty then [] else [("datasets", .object (embeddedToJson ds))]) :=
    Value.depth_lt_of_mem (m := ("properties", .ofStringMap ps)) (by simp)
  have inner : 1 ≤ (Value.ofStringMap ps).depth := Nat.le_add_left _ _
  rw [toJson, Value.depth]
  omega

/-- An embedded specification nests two containers less. -/
theorem depth_embedded {spec : Specification} {e : String × Specification}
    (he : e ∈ spec.datasets) : e.2.toJson.depth + 2 ≤ spec.toJson.depth := by
  obtain ⟨n, t, ps, ds⟩ := spec
  have some_ : ds.isEmpty = false := by
    cases ds with
    | nil => cases he
    | cons d ds => rfl
  have members : e.2.toJson.depth ≤ Value.depthMembers (embeddedToJson ds) := by
    refine Value.depth_lt_of_mem (m := (e.1, e.2.toJson)) ?_
    rw [embeddedToJson_eq_map]
    exact List.mem_map_of_mem he
  have object : (Value.object (embeddedToJson ds)).depth ≤ Value.depthMembers
      ([("name", .string n), ("type", .string t), ("properties", .ofStringMap ps)] ++
        [("datasets", .object (embeddedToJson ds))]) :=
    Value.depth_lt_of_mem (m := ("datasets", .object (embeddedToJson ds))) (by simp)
  have outer : (Value.object (embeddedToJson ds)).depth =
      Value.depthMembers (embeddedToJson ds) + 1 := by rw [Value.depth]
  rw [toJson, some_, if_neg Bool.false_ne_true, Value.depth]
  omega

/-- A specification nests two containers more than what is embedded in it at most, and two if nothing
is. -/
theorem depth_le_of_embedded {spec : Specification} {n : Nat}
    (h : ∀ e ∈ spec.datasets, e.2.toJson.depth ≤ n) : spec.toJson.depth ≤ n + 2 := by
  obtain ⟨name, type, ps, ds⟩ := spec
  have properties : (Value.ofStringMap ps).depth ≤ n + 1 := by
    rw [Value.ofStringMap, Value.depth]
    refine Nat.succ_le_succ (Value.depthMembers_le fun m hm => ?_)
    obtain ⟨_, -, rfl⟩ := List.mem_map.1 hm
    exact Nat.zero_le _
  have datasets : (Value.object (embeddedToJson ds)).depth ≤ n + 1 := by
    rw [Value.depth]
    refine Nat.succ_le_succ (Value.depthMembers_le fun m hm => ?_)
    rw [embeddedToJson_eq_map] at hm
    obtain ⟨e, he, rfl⟩ := List.mem_map.1 hm
    exact h e he
  rw [toJson, Value.depth]
  refine Nat.succ_le_succ (Value.depthMembers_le fun m hm => ?_)
  rcases List.mem_append.1 hm with hm | hm
  · simp only [List.mem_cons, List.not_mem_nil, or_false] at hm
    rcases hm with rfl | rfl | rfl
    · exact Nat.zero_le _
    · exact Nat.zero_le _
    · exact properties
  · split at hm
    · cases hm
    · rw [List.mem_singleton.1 hm]
      exact datasets

/-! ### Reading -/

/-- A specification is read from its JSON form if the embedded ones are. -/
theorem record_toJson {inner : Reader Specification} {s : Stage} {depth : Nat}
    {spec : Specification} (enough : s.depth = depth + 2) (ordered : spec.Ordered)
    (embedded : ∀ e ∈ spec.datasets,
      inner ⟨depth, s.buffered⟩ (Doc.ofValue e.2.toJson) = .ok e.2) :
    (record inner).reader s (Doc.ofValue spec.toJson) = .ok spec := by
  obtain ⟨n, t, ps, ds⟩ := spec
  obtain ⟨sortedProperties, sortedDatasets, -⟩ := ordered
  let stage : Stage := ⟨depth + 1, s.buffered⟩
  have properties : Reader.stringMap .string stage (Doc.ofValue (.ofStringMap ps)) = .ok ps :=
    Reader.stringMap_ofValue rfl sortedProperties fun _ _ => rfl
  -- every member is the field of its key, seen for the first time
  have field (key : String) (v : Value) {f : Json.Field Specification}
      {set : Specification → Specification}
      (found : (record inner).fields.find? (fun f => f.key == key) = some f)
      (read : f.read stage (Doc.ofValue v) = .ok set) (seen : List String)
      (fresh : seen.contains key = false) (a : Specification) (rest : List (String × Value)) :
      (record inner).readMembers stage seen a (Doc.ofMembers ((key, v) :: rest)) =
        (record inner).readMembers stage (key :: seen) (set a) (Doc.ofMembers rest) :=
    Record.readMembers_field found fresh read
  have name := field "name" (.string n) rfl rfl
  have type := field "type" (.string t) rfl rfl
  have props := field "properties" (.ofStringMap ps) rfl
    (congrArg (Except.map _) properties)
  cases ds with
  | nil =>
    rw [toJson]
    refine Record.reader_ofValue ["properties", "type", "name"] enough ?_ rfl
    exact (name [] rfl _ _).trans ((type _ rfl _ _).trans (props _ rfl _ _))
  | cons d ds =>
    have datasets : Reader.stringMap inner stage
        (Doc.ofValue (.object (embeddedToJson (d :: ds)))) = .ok (d :: ds) := by
      rw [embeddedToJson_eq_map]
      exact Reader.stringMap_ofValue rfl sortedDatasets embedded
    have parts := field "datasets" (.object (embeddedToJson (d :: ds))) rfl
      (congrArg (Except.map _) datasets)
    rw [toJson]
    refine Record.reader_ofValue ["datasets", "properties", "type", "name"] enough ?_ rfl
    exact (name [] rfl _ _).trans ((type _ rfl _ _).trans ((props _ rfl _ _).trans
      (parts _ rfl _ _)))

/-- A reader that allows enough levels reads a specification back. -/
theorem readerUpTo_toJson (levels : Nat) {s : Stage} {spec : Specification}
    (ordered : spec.Ordered) (enough : spec.toJson.depth ≤ s.depth)
    (allowed : spec.toJson.depth ≤ levels + 2) :
    readerUpTo levels s (Doc.ofValue spec.toJson) = .ok spec := by
  induction levels generalizing s spec with
  | zero =>
    have least := two_le_depth spec
    obtain ⟨depth, hdepth⟩ := Nat.exists_eq_add_of_le' (Nat.le_trans least enough)
    refine record_toJson hdepth ordered fun e he => ?_
    have nested : e.2.toJson.depth + 2 ≤ spec.toJson.depth := depth_embedded he
    have inner := two_le_depth e.2
    omega
  | succ levels ih =>
    have least := two_le_depth spec
    obtain ⟨depth, hdepth⟩ := Nat.exists_eq_add_of_le' (Nat.le_trans least enough)
    refine record_toJson hdepth ordered fun e he => ?_
    have nested : e.2.toJson.depth + 2 ≤ spec.toJson.depth := depth_embedded he
    have orderedInner : e.2.Ordered := by
      obtain ⟨n, t, ps, ds⟩ := spec
      exact ordered_of_mem ordered.2.2 he
    refine ih orderedInner ?_ (by omega)
    show e.2.toJson.depth ≤ depth
    omega

/-- A specification is read back from its JSON form. -/
theorem reader_toJson {s : Stage} {spec : Specification} (ordered : spec.Ordered)
    (enough : spec.toJson.depth ≤ s.depth) : reader s (Doc.ofValue spec.toJson) = .ok spec :=
  readerUpTo_toJson s.depth ordered enough (by omega)

theorem depth_le_of_record {inner : Reader Specification} {s : Stage} {spec read : Specification}
    (h : (record inner).reader s (Doc.ofValue spec.toJson) = .ok read)
    (embedded : ∀ e ∈ spec.datasets, ∀ stage a,
      inner stage (Doc.ofValue e.2.toJson) = .ok a → e.2.toJson.depth ≤ stage.depth) :
    spec.toJson.depth ≤ s.depth := by
  have made {β : Type} {set : β → Specification → Specification} {r : Reader β} {stage : Stage}
      {d : Doc} {f : Specification → Specification} (hread : r.map set stage d = .ok f) :
      ∃ b, r stage d = .ok b := by
    cases hr : r stage d with
    | ok b => exact ⟨b, rfl⟩
    | error e =>
      rw [Reader.map, hr] at hread
      cases hread
  obtain ⟨n, t, ps, ds⟩ := spec
  rw [toJson] at h
  obtain ⟨depth, hdepth, reads⟩ := Record.reads_of_reader h
  obtain ⟨_, properties⟩ := reads ("properties", .ofStringMap ps) (by simp) _ rfl
  obtain ⟨_, properties⟩ := made properties
  obtain ⟨depth', rfl, -⟩ := Reader.reads_of_stringMap properties
  rw [hdepth]
  refine depth_le_of_embedded fun e he => ?_
  have listed : ds.isEmpty = false := by
    cases ds with
    | nil => cases he
    | cons d ds => rfl
  obtain ⟨_, datasets⟩ := reads ("datasets", .object (embeddedToJson ds)) (by simp [listed]) _ rfl
  obtain ⟨_, datasets⟩ := made datasets
  obtain ⟨_, hdepth', values⟩ := Reader.reads_of_stringMap datasets
  cases hdepth'
  have member : (e.1, e.2.toJson) ∈ embeddedToJson ds := by
    rw [embeddedToJson_eq_map]
    exact List.mem_map_of_mem he
  obtain ⟨a, read⟩ := values _ member
  exact embedded e he _ a read

/-- A specification that is read from its JSON form nests no more containers than the reader may
enter. -/
theorem depth_le_of_readerUpTo (levels : Nat) {s : Stage} {spec read : Specification}
    (h : readerUpTo levels s (Doc.ofValue spec.toJson) = .ok read) : spec.toJson.depth ≤ s.depth := by
  induction levels generalizing s spec read with
  | zero => exact depth_le_of_record h fun _ _ _ _ failed => nomatch failed
  | succ levels ih => exact depth_le_of_record h fun _ _ _ _ read => ih read

/-- A specification is read back from what is stored of it. -/
theorem decode_indented {spec : Specification} (ordered : spec.Ordered)
    (enough : spec.toJson.depth ≤ depthLimit) :
    decode reader (Utf8.encode spec.toJson.indented) = .ok spec :=
  Json.decode_indented (numberless_toJson spec) (reader_toJson ordered enough)

/-- What is stored of a specification that nests too many containers cannot be read. -/
theorem decode_indented_deep {spec : Specification} (deep : depthLimit < spec.toJson.depth) :
    ∃ e, decode reader (Utf8.encode spec.toJson.indented) = .error e := by
  cases read : reader ⟨depthLimit, false⟩ (Doc.ofValue spec.toJson) with
  | error e => exact ⟨e, decode_indented_error (numberless_toJson spec) read⟩
  | ok a => exact absurd (depth_le_of_readerUpTo _ read) (Nat.not_le.2 deep)

/-- A specification is read back from what is sent of it. -/
theorem decode_compact {spec : Specification} (ordered : spec.Ordered)
    (enough : spec.toJson.depth ≤ depthLimit) :
    decode reader (Utf8.encode spec.toJson.compact) = .ok spec :=
  Json.decode_compact (numberless_toJson spec) (reader_toJson ordered enough)

end Specification

end DatasetCatalog
