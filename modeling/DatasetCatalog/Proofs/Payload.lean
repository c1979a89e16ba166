import DatasetCatalog.Payload
import DatasetCatalog.Proofs.TypeMeta

/-!
# Entries of a listing are told apart

An entry is written without anything that names its shape: as what is known about an instance, or as
a bare specification. Both shapes have a member `type`, and it tells them apart. In the larger shape
it is the description of a type or null, in a specification the name of the type; no reader of a
description takes a text. So the larger shape, which is tried first, never fits a bare specification
(`InstanceMeta.reader_specification`), and what is written in either shape is read back in it.
-/

namespace DatasetCatalog

open Json

namespace Json.Reader

variable {α : Type} {name : String} {first second : Reader α} {s : Stage} {v : Value} {a : α}

/-- A choice takes the value in before it looks at the shapes. -/
theorem lift_ofValue (shallow : v.depth ≤ s.depth) :
    Reader.lift ((Doc.ofValue v).value s.depth) = pure v := by
  rw [Doc.value_ofValue v shallow]
  rfl

/-- A choice is read as its first shape if that one fits. -/
theorem either_first (shallow : v.depth ≤ s.depth)
    (read : first ⟨s.depth, true⟩ (Doc.ofValue v) = .ok a) :
    Reader.either name first second s (Doc.ofValue v) = .ok a := by
  rw [Reader.either, lift_ofValue shallow, pure_bind, read]
  rfl

/-- A choice is read as its second shape if only that one fits. -/
theorem either_second {e : Error} (shallow : v.depth ≤ s.depth)
    (unfit : first ⟨s.depth, true⟩ (Doc.ofValue v) = .error e)
    (read : second ⟨s.depth, true⟩ (Doc.ofValue v) = .ok a) :
    Reader.either name first second s (Doc.ofValue v) = .ok a := by
  rw [Reader.either, lift_ofValue shallow, pure_bind, unfit]
  dsimp only
  rw [read]
  rfl

end Json.Reader

/-- A member that is there only if it has a value is read as if the field kept its default. -/
theorem Json.Record.readMembers_optional {α : Type} {r : Record α} {s : Stage} {seen : List String}
    {a : α} {f : Json.Field α} {set : String → α → α} {key : String} (o : Option String)
    (rest : List (String × Value)) (found : r.fields.find? (fun f => f.key == key) = some f)
    (fresh : seen.contains key = false)
    (read : ∀ text, f.read s (Doc.ofValue (.string text)) = .ok (set text)) :
    r.readMembers s seen a (Doc.ofMembers (Value.optionalMember key o ++ rest)) =
      r.readMembers s (o.elim seen fun _ => key :: seen) (o.elim a fun text => set text a)
        (Doc.ofMembers rest) := by
  cases o with
  | none => rfl
  | some text => exact readMembers_field found fresh (read text)

/-! ### What is known about an instance -/

namespace InstanceMeta

theorem numberless_toJson (m : InstanceMeta) : m.toJson.Numberless := by
  have type : (m.typeMeta.elim .null TypeMeta.toJson).Numberless := by
    cases m.typeMeta with
    | none => trivial
    | some t => exact t.numberless_toJson
  refine Value.numberlessMembers_of_forall fun member h => ?_
  simp only [List.append_assoc, List.mem_append, List.mem_cons, List.not_mem_nil, or_false] at h
  rcases h with (rfl | rfl) | h | h
  · exact m.spec.numberless_toJson
  · exact type
  all_goals
    unfold Value.optionalMember at h
    split at h
    · obtain rfl := List.mem_singleton.1 h
      trivial
    · cases h

/-- The specification and the description of the type nest less than the whole. -/
theorem depth_bounds (m : InstanceMeta) : m.spec.toJson.depth + 1 ≤ m.toJson.depth ∧
    ∀ t, m.typeMeta = some t → t.toJson.depth + 1 ≤ m.toJson.depth := by
  have whole : m.toJson.depth = Value.depthMembers
      ([("spec", m.spec.toJson), ("type", m.typeMeta.elim .null TypeMeta.toJson)] ++
        Value.optionalMember "exploreTableName" m.exploreTableName ++
        Value.optionalMember "ownerPrincipal" m.ownerPrincipal) + 1 := by
    rw [toJson, Value.depth]
  rw [whole]
  constructor
  · exact Nat.succ_le_succ (Value.depth_lt_of_mem (m := ("spec", m.spec.toJson)) (by simp))
  · intro t described
    exact Nat.succ_le_succ (Value.depth_lt_of_mem (m := ("type", t.toJson)) (by simp [described]))

/-- What is known about an instance is read back from its JSON form. -/
theorem reader_toJson {s : Stage} {m : InstanceMeta} (ordered : m.spec.Ordered)
    (enough : m.toJson.depth ≤ s.depth) : record.reader s (Doc.ofValue m.toJson) = .ok m := by
  obtain ⟨specNests, typeNests⟩ := depth_bounds m
  obtain ⟨depth, hdepth⟩ := Nat.exists_eq_add_of_le' (by omega : 1 ≤ s.depth)
  let stage : Stage := ⟨depth, s.buffered⟩
  have specRead : Specification.reader stage (Doc.ofValue m.spec.toJson) = .ok m.spec := by
    refine Specification.reader_toJson ordered ?_
    show m.spec.toJson.depth ≤ depth
    omega
  have typeRead : Reader.optional TypeMeta.record.reader stage
      (Doc.ofValue (m.typeMeta.elim .null TypeMeta.toJson)) = .ok m.typeMeta := by
    cases described : m.typeMeta with
    | none => rfl
    | some t =>
      have nests := typeNests t described
      have inner : t.toJson.depth ≤ stage.depth := by
        show t.toJson.depth ≤ depth
        omega
      exact congrArg (Except.map some) (TypeMeta.reader_toJson inner)
  have members : m.toJson = .object (("spec", m.spec.toJson) ::
      ("type", m.typeMeta.elim .null TypeMeta.toJson) ::
        (Value.optionalMember "exploreTableName" m.exploreTableName ++
          (Value.optionalMember "ownerPrincipal" m.ownerPrincipal ++ []))) := by
    simp [toJson]
  let seen := m.exploreTableName.elim ["type", "spec"] fun _ => ["exploreTableName", "type", "spec"]
  have fresh : seen.contains "ownerPrincipal" = false := by
    cases hseen : m.exploreTableName <;> simp [seen, hseen]
  rw [members]
  refine Record.reader_ofValue (m.ownerPrincipal.elim seen fun _ => "ownerPrincipal" :: seen) hdepth
    ?_ ?_
  · rw [Record.readMembers_field (f := record.fields[0]) rfl rfl (congrArg (Except.map _) specRead),
      Record.readMembers_field (f := record.fields[1]) rfl rfl (congrArg (Except.map _) typeRead),
      Record.readMembers_optional (f := record.fields[2]) _ _ rfl rfl fun _ => rfl,
      Record.readMembers_optional (f := record.fields[3]) _ _ rfl fresh fun _ => rfl]
    obtain ⟨sp, type, table, owner⟩ := m
    cases table <;> cases owner <;> rfl
  · cases m.ownerPrincipal <;> cases hseen : m.exploreTableName <;> simp [seen, hseen] <;> rfl

/-- No specification is read as what is known about an instance: its member `type` is a text. -/
theorem reader_specification (s : Stage) (spec : Specification) :
    ∃ e, record.reader s (Doc.ofValue spec.toJson) = .error e := by
  cases read : record.reader s (Doc.ofValue spec.toJson) with
  | error e => exact ⟨e, rfl⟩
  | ok m =>
    obtain ⟨name, typeName, ps, ds⟩ := spec
    rw [Specification.toJson] at read
    obtain ⟨depth, -, reads⟩ := Record.reads_of_reader read
    obtain ⟨set, typeRead⟩ := reads ("type", .string typeName) (by simp) _ rfl
    cases typeRead

end InstanceMeta

/-! ### Entries -/

namespace Listing

/-- The maps in the specification are in order. -/
def Ordered (l : Listing) : Prop := l.spec.Ordered

theorem numberless_toJson : (l : Listing) → l.toJson.Numberless
  | withMeta m => m.numberless_toJson
  | bare spec => spec.numberless_toJson

/-- An entry is read back from its JSON form, in its shape. -/
theorem reader_toJson {s : Stage} {l : Listing} (ordered : l.Ordered)
    (enough : l.toJson.depth ≤ s.depth) : reader s (Doc.ofValue l.toJson) = .ok l := by
  cases l with
  | withMeta m =>
    have read := InstanceMeta.reader_toJson (s := ⟨s.depth, true⟩) ordered enough
    exact Reader.either_first enough (congrArg (Except.map withMeta) read)
  | bare spec =>
    obtain ⟨e, unfit⟩ := InstanceMeta.reader_specification ⟨s.depth, true⟩ spec
    have read := Specification.reader_toJson (s := ⟨s.depth, true⟩) ordered enough
    exact Reader.either_second enough (congrArg (Except.map withMeta) unfit)
      (congrArg (Except.map bare) read)

/-- **Entries of a listing decode unambiguously.** An entry of either shape is read back, in the same
shape, from its compact and from its indented form, if it nests no deeper than readers follow. And no
text of a bare specification, whatever is in it and however deep it nests, is ever read as what is
known about an instance. -/
theorem decode_unambiguously :
    (∀ l : Listing, l.Ordered → l.toJson.depth ≤ depthLimit →
        decode reader (Utf8.encode l.toJson.compact) = .ok l ∧
          decode reader (Utf8.encode l.toJson.indented) = .ok l) ∧
      ∀ (spec : Specification) (m : InstanceMeta),
        decode InstanceMeta.record.reader (Utf8.encode spec.toJson.compact) ≠ .ok m ∧
          decode InstanceMeta.record.reader (Utf8.encode spec.toJson.indented) ≠ .ok m := by
  constructor
  · intro l ordered shallow
    have read : reader ⟨depthLimit, false⟩ (Doc.ofValue l.toJson) = .ok l :=
      reader_toJson ordered shallow
    exact ⟨decode_compact l.numberless_toJson read, decode_indented l.numberless_toJson read⟩
  · intro spec m
    have numberless := spec.numberless_toJson
    obtain ⟨e, unfit⟩ := InstanceMeta.reader_specification ⟨depthLimit, false⟩ spec
    simp [decode, parse_compact numberless, parse_indented numberless, unfit]

/-- A specification that looks like an entry with everything known about it, as far as names go. -/
def disguised : Specification where
  name := "orders"
  typeName := "null"
  properties := [("ownerPrincipal", "alice"), ("spec", "\x7b\x7d"), ("type", "null")]
  datasets := [("spec", ⟨"orders.spec", "table", [], []⟩)]

/-- It is read as a bare specification where it is one, and within an entry where it stands there. -/
theorem disguised_entries_are_told_apart :
    disguised.Ordered ∧
      decode reader (Utf8.encode (bare disguised).toJson.compact) = .ok (bare disguised) ∧
      decode reader (Utf8.encode (withMeta ⟨disguised, none, some "orders", none⟩).toJson.indented) =
        .ok (withMeta ⟨disguised, none, some "orders", none⟩) := by
  have sorted : StringMap.Sorted disguised.properties := by
    unfold StringMap.Sorted disguised
    decide
  have ordered : disguised.Ordered :=
    ⟨sorted, List.pairwise_singleton _ _,
      ⟨List.Pairwise.nil, List.Pairwise.nil, trivial⟩, trivial⟩
  obtain ⟨entries, -⟩ := decode_unambiguously
  exact ⟨ordered, (entries (bare disguised) ordered (by decide)).1,
    (entries (withMeta ⟨disguised, none, some "orders", none⟩) ordered (by decide)).2⟩

end Listing

end DatasetCatalog
