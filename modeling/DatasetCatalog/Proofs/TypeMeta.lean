import DatasetCatalog.Proofs.Json.Tagged
import DatasetCatalog.Proofs.Specification
import DatasetCatalog.TypeMeta

/-!
# Types survive their JSON form

A type is read back from its JSON form, with all its modules in their order. The members of a record
are read one by one; a location that is not there is left out on writing and missing on reading.
-/

namespace DatasetCatalog

open Json

namespace Json.Value

/-- An item nests no more than the items together. -/
theorem depth_le_of_mem_items {items : List Value} {v : Value} (h : v ∈ items) :
    v.depth ≤ depthItems items := by
  induction items with
  | nil => cases h
  | cons w rest ih =>
    rw [depthItems]
    rcases List.mem_cons.1 h with rfl | hrest
    · exact Nat.le_max_left _ _
    · exact Nat.le_trans (ih hrest) (Nat.le_max_right _ _)

theorem numberlessItems_of_forall {items : List Value} (h : ∀ v ∈ items, v.Numberless) :
    NumberlessItems items := by
  induction items with
  | nil => exact trivial
  | cons v rest ih =>
    exact ⟨h v List.mem_cons_self, ih fun w hw => h w (List.mem_cons_of_mem _ hw)⟩

theorem numberless_ofStrings (ss : List String) : (ofStrings ss).Numberless := by
  refine numberlessItems_of_forall fun v hv => ?_
  obtain ⟨_, -, rfl⟩ := List.mem_map.1 hv
  exact trivial

end Json.Value

namespace ModuleMeta

theorem numberless_toJson (m : ModuleMeta) : m.toJson.Numberless := by
  have modules := Value.numberless_ofStrings m.usesModules
  cases hlocation : m.artifactLocation with
  | none =>
    rw [toJson, hlocation]
    exact ⟨trivial, trivial, modules, trivial⟩
  | some location =>
    rw [toJson, hlocation]
    exact ⟨trivial, trivial, trivial, modules, trivial⟩

theorem two_le_depth (m : ModuleMeta) : 2 ≤ m.toJson.depth := by
  have modules : (Value.ofStrings m.usesModules).depth ≤ Value.depthMembers
      ([("name", .string m.name), ("className", .string m.className)] ++
        Value.optionalMember "artifactLocation" m.artifactLocation ++
        [("usesModules", .ofStrings m.usesModules)]) :=
    Value.depth_lt_of_mem (m := ("usesModules", .ofStrings m.usesModules)) (by simp)
  have inner : 1 ≤ (Value.ofStrings m.usesModules).depth := Nat.le_add_left _ _
  rw [toJson, Value.depth]
  omega

/-- A module is read back from its JSON form. -/
theorem reader_toJson {s : Stage} {m : ModuleMeta} (enough : m.toJson.depth ≤ s.depth) :
    record.reader s (Doc.ofValue m.toJson) = .ok m := by
  obtain ⟨n, c, location, uses⟩ := m
  obtain ⟨depth, hdepth⟩ := Nat.exists_eq_add_of_le' (Nat.le_trans (two_le_depth _) enough)
  let stage : Stage := ⟨depth + 1, s.buffered⟩
  have modules : Reader.list .string stage (Doc.ofValue (.ofStrings uses)) = .ok uses :=
    Reader.list_ofValue rfl fun _ _ => rfl
  -- every member is the field of its key, seen for the first time
  have field (key : String) (v : Value) {f : Json.Field ModuleMeta} {set : ModuleMeta → ModuleMeta}
      (found : record.fields.find? (fun f => f.key == key) = some f)
      (read : f.read stage (Doc.ofValue v) = .ok set) (seen : List String)
      (fresh : seen.contains key = false) (a : ModuleMeta) (rest : List (String × Value)) :
      record.readMembers stage seen a (Doc.ofMembers ((key, v) :: rest)) =
        record.readMembers stage (key :: seen) (set a) (Doc.ofMembers rest) :=
    Record.readMembers_field found fresh read
  have name := field "name" (.string n) rfl rfl
  have className := field "className" (.string c) rfl rfl
  have usesModules := field "usesModules" (.ofStrings uses) rfl (congrArg (Except.map _) modules)
  cases location with
  | none =>
    refine Record.reader_ofValue ["usesModules", "className", "name"] hdepth ?_ rfl
    exact (name [] rfl _ _).trans ((className _ rfl _ _).trans (usesModules _ rfl _ _))
  | some location =>
    have artifact := field "artifactLocation" (.string location) rfl rfl
    refine Record.reader_ofValue ["usesModules", "artifactLocation", "className", "name"] hdepth ?_
      rfl
    exact (name [] rfl _ _).trans ((className _ rfl _ _).trans ((artifact _ rfl _ _).trans
      (usesModules _ rfl _ _)))

end ModuleMeta

namespace TypeMeta

theorem numberless_toJson (t : TypeMeta) : t.toJson.Numberless := by
  refine ⟨trivial, Value.numberlessItems_of_forall fun v hv => ?_, trivial⟩
  obtain ⟨m, -, rfl⟩ := List.mem_map.1 hv
  exact m.numberless_toJson

/-- What nests least is a type without modules, and every module nests two containers less than its
type. -/
theorem depth_bounds (t : TypeMeta) :
    2 ≤ t.toJson.depth ∧ ∀ m ∈ t.modules, m.toJson.depth + 2 ≤ t.toJson.depth := by
  have modules : (Value.array (t.modules.map ModuleMeta.toJson)).depth ≤ Value.depthMembers
      [("name", .string t.name), ("modules", .array (t.modules.map ModuleMeta.toJson))] :=
    Value.depth_lt_of_mem (m := ("modules", .array (t.modules.map ModuleMeta.toJson))) (by simp)
  have outer : t.toJson.depth = Value.depthMembers
      [("name", .string t.name), ("modules", .array (t.modules.map ModuleMeta.toJson))] + 1 := by
    rw [toJson, Value.depth]
  have inner : (Value.array (t.modules.map ModuleMeta.toJson)).depth =
      Value.depthItems (t.modules.map ModuleMeta.toJson) + 1 := by rw [Value.depth]
  refine ⟨by omega, fun m hm => ?_⟩
  have item := Value.depth_le_of_mem_items (List.mem_map_of_mem (f := ModuleMeta.toJson) hm)
  omega

/-- A type is read back from its JSON form. -/
theorem reader_toJson {s : Stage} {t : TypeMeta} (enough : t.toJson.depth ≤ s.depth) :
    record.reader s (Doc.ofValue t.toJson) = .ok t := by
  obtain ⟨least, nested⟩ := depth_bounds t
  obtain ⟨n, ms⟩ := t
  obtain ⟨depth, hdepth⟩ := Nat.exists_eq_add_of_le' (Nat.le_trans least enough)
  let stage : Stage := ⟨depth + 1, s.buffered⟩
  have items : Reader.list ModuleMeta.record.reader stage
      (Doc.ofValue (.array (ms.map ModuleMeta.toJson))) = .ok ms := by
    refine Reader.list_ofValue rfl fun m hm => ModuleMeta.reader_toJson ?_
    have inner := nested m hm
    change m.toJson.depth ≤ depth
    omega
  have name : record.readMembers stage [] record.blank (Doc.ofMembers (("name", .string n) ::
      [("modules", .array (ms.map ModuleMeta.toJson))])) = _ :=
    Record.readMembers_field (f := record.fields[0]) rfl rfl rfl
  have modules : record.readMembers stage ["name"] ⟨n, []⟩ (Doc.ofMembers
      [("modules", .array (ms.map ModuleMeta.toJson))]) = _ :=
    Record.readMembers_field (f := record.fields[1]) rfl rfl (congrArg (Except.map _) items)
  exact Record.reader_ofValue ["modules", "name"] hdepth (name.trans modules) rfl

end TypeMeta

end DatasetCatalog
