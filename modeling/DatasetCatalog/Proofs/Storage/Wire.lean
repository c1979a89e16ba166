import DatasetCatalog.Proofs.TypeMeta
import DatasetCatalog.Storage.Response

/-!
# Requests and answers survive the wire

A request to a worker is read back as it was sent, with all it carries: the type with its modules,
the properties, and for a drop the whole specification with everything embedded in it. So is an
answer. Requests may nest as deeply as readers follow; the choice between the operations takes one
container of that, and gives it back when the record that was chosen is read.
-/

namespace DatasetCatalog.Storage

open Json

variable {s : Stage}

/-! ### Requests -/

namespace Request

/-- The maps in a request are in order, as those of every request are. -/
def Ordered : Request → Prop
  | create c => StringMap.Sorted c.properties
  | drop removal => removal.spec.Ordered
  | truncate _ | upgrade _ | probe _ => True

theorem numberless_toJson : (r : Request) → r.toJson.Numberless
  | create c => ⟨trivial, trivial, c.typeMeta.numberless_toJson,
      Value.numberless_ofStringMap c.properties, trivial⟩
  | drop removal => ⟨trivial, removal.spec.numberless_toJson, removal.typeMeta.numberless_toJson,
      trivial⟩
  | truncate _ | upgrade _ | probe _ => ⟨trivial, trivial, trivial⟩

/-- Every member of a request nests less than the request. -/
theorem depth_member {r : Request} {m : String × Value} (h : m ∈ r.members) :
    m.2.depth + 1 ≤ r.toJson.depth := by
  have member : m.2.depth ≤ Value.depthMembers (("op", .string r.operation) :: r.members) :=
    Value.depth_lt_of_mem (List.mem_cons_of_mem _ h)
  rw [toJson, Value.depth]
  omega

/-- No other member takes the place of the one that names the operation. -/
theorem ne_op_of_mem {r : Request} {m : String × Value} (h : m ∈ r.members) : m.1 ≠ "op" := by
  have others : "op" ∉ r.members.map Prod.fst := by
    cases r <;> simp [members]
  intro same
  exact others (List.mem_map.2 ⟨m, h, same⟩)

/-- A request is read as the record of its operation. -/
theorem reader_variant {r : Request} {depth : Nat} {variant : Reader Request}
    (enough : s.depth = depth + 1) (shallow : r.toJson.depth ≤ s.depth)
    (found : StringMap.find? r.operation [
      ("create", .map create creation.reader),
      ("drop", .map drop removal.reader),
      ("truncate", .map truncate (named "Truncate").reader),
      ("upgrade", .map upgrade (named "Upgrade").reader),
      ("exists", .map probe (named "Exists").reader)] = some variant) :
    reader s (Doc.ofValue r.toJson) =
      variant ⟨depth + 1, true⟩ (Doc.ofValue (.object r.members)) := by
  refine Tagged.reader_ofValue enough found (fun m hm => ne_op_of_mem hm) ?_
  have inner : Value.depthMembers r.members + 1 ≤ r.toJson.depth := by
    rw [toJson, Value.depth, Value.depthMembers]
    exact Nat.succ_le_succ (Nat.le_max_right _ _)
  omega

theorem creation_reader {c : Creation} {depth : Nat} (h : s.depth = depth + 1)
    (sorted : StringMap.Sorted c.properties) (typeMeta : c.typeMeta.toJson.depth ≤ depth)
    (properties : (Value.ofStringMap c.properties).depth ≤ depth) :
    creation.reader s (Doc.ofValue (.object (create c).members)) = .ok c := by
  obtain ⟨n, t, ps⟩ := c
  let stage : Stage := ⟨depth, s.buffered⟩
  obtain ⟨inner, hinner⟩ := Nat.exists_eq_add_of_le' (Nat.le_trans (Nat.le_add_left 1 _) properties)
  have type : TypeMeta.record.reader stage (Doc.ofValue t.toJson) = .ok t :=
    TypeMeta.reader_toJson typeMeta
  have props : Reader.stringMap .string stage (Doc.ofValue (.ofStringMap ps)) = .ok ps :=
    Reader.stringMap_ofValue hinner sorted fun _ _ => rfl
  have first : creation.readMembers stage [] creation.blank
      (Doc.ofMembers (create ⟨n, t, ps⟩).members) = _ :=
    Record.readMembers_field (f := creation.fields[0]) rfl rfl rfl
  have second : creation.readMembers stage ["name"] ⟨n, ⟨"", []⟩, []⟩
      (Doc.ofMembers [("typeMeta", t.toJson), ("properties", .ofStringMap ps)]) = _ :=
    Record.readMembers_field (f := creation.fields[1]) rfl rfl (congrArg (Except.map _) type)
  have third : creation.readMembers stage ["typeMeta", "name"] ⟨n, t, []⟩
      (Doc.ofMembers [("properties", .ofStringMap ps)]) = _ :=
    Record.readMembers_field (f := creation.fields[2]) rfl rfl (congrArg (Except.map _) props)
  exact Record.reader_ofValue ["properties", "typeMeta", "name"] h
    (first.trans (second.trans third)) rfl

theorem removal_reader {removed : Removal} {depth : Nat} (h : s.depth = depth + 1)
    (ordered : removed.spec.Ordered) (spec : removed.spec.toJson.depth ≤ depth)
    (typeMeta : removed.typeMeta.toJson.depth ≤ depth) :
    removal.reader s (Doc.ofValue (.object (drop removed).members)) = .ok removed := by
  obtain ⟨sp, t⟩ := removed
  let stage : Stage := ⟨depth, s.buffered⟩
  have specification : Specification.reader stage (Doc.ofValue sp.toJson) = .ok sp :=
    Specification.reader_toJson ordered spec
  have type : TypeMeta.record.reader stage (Doc.ofValue t.toJson) = .ok t :=
    TypeMeta.reader_toJson typeMeta
  have first : removal.readMembers stage [] removal.blank
      (Doc.ofMembers (drop ⟨sp, t⟩).members) = _ :=
    Record.readMembers_field (f := removal.fields[0]) rfl rfl (congrArg (Except.map _) specification)
  have second : removal.readMembers stage ["spec"] ⟨sp, ⟨"", []⟩⟩
      (Doc.ofMembers [("typeMeta", t.toJson)]) = _ :=
    Record.readMembers_field (f := removal.fields[1]) rfl rfl (congrArg (Except.map _) type)
  exact Record.reader_ofValue ["typeMeta", "spec"] h (first.trans second) rfl

theorem named_reader (variant name : String) {depth : Nat} (h : s.depth = depth + 1) :
    (named variant).reader s (Doc.ofValue (.object [("name", .string name)])) = .ok name := by
  have only : (named variant).readMembers ⟨depth, s.buffered⟩ [] (named variant).blank
      (Doc.ofMembers [("name", .string name)]) = _ :=
    Record.readMembers_field (f := .make "name" .required .string fun v _ => v) rfl rfl rfl
  exact Record.reader_ofValue ["name"] h only rfl

/-- A request is read back from its JSON form. -/
theorem reader_toJson {r : Request} (ordered : r.Ordered) (shallow : r.toJson.depth ≤ s.depth) :
    reader s (Doc.ofValue r.toJson) = .ok r := by
  have least : 1 ≤ r.toJson.depth := by
    rw [toJson, Value.depth]
    omega
  obtain ⟨depth, enough⟩ := Nat.exists_eq_add_of_le' (Nat.le_trans least shallow)
  have member {m : String × Value} (hm : m ∈ r.members) : m.2.depth ≤ depth := by
    have := depth_member hm
    omega
  cases r with
  | create c =>
    have read := creation_reader (s := ⟨depth + 1, true⟩) rfl ordered
      (member (m := ("typeMeta", c.typeMeta.toJson)) (by simp [members]))
      (member (m := ("properties", .ofStringMap c.properties)) (by simp [members]))
    rw [reader_variant enough shallow rfl, Reader.map, read]
    rfl
  | drop removed =>
    have read := removal_reader (s := ⟨depth + 1, true⟩) rfl ordered
      (member (m := ("spec", removed.spec.toJson)) (by simp [members]))
      (member (m := ("typeMeta", removed.typeMeta.toJson)) (by simp [members]))
    rw [reader_variant enough shallow rfl, Reader.map, read]
    rfl
  | truncate name =>
    rw [reader_variant enough shallow rfl, Reader.map]
    exact congrArg (Except.map truncate) (named_reader "Truncate" name rfl)
  | upgrade name =>
    rw [reader_variant enough shallow rfl, Reader.map]
    exact congrArg (Except.map upgrade) (named_reader "Upgrade" name rfl)
  | probe name =>
    rw [reader_variant enough shallow rfl, Reader.map]
    exact congrArg (Except.map probe) (named_reader "Exists" name rfl)

/-- A request is read back from the bytes that it is sent as. -/
theorem decode_compact {r : Request} (ordered : r.Ordered)
    (shallow : r.toJson.depth ≤ depthLimit) :
    decode reader (Utf8.encode r.toJson.compact) = .ok r :=
  Json.decode_compact r.numberless_toJson (reader_toJson ordered shallow)

end Request

/-! ### Answers -/

namespace Response

/-- The maps in an answer are in order. -/
def Ordered : Response → Prop
  | created spec => spec.Ordered
  | done | presence _ | notFound _ | alreadyExists _ | failed _ => True

theorem numberless_toJson : (r : Response) → r.toJson.Numberless
  | created spec => ⟨trivial, spec.numberless_toJson, trivial⟩
  | done => ⟨trivial, trivial⟩
  | presence _ | notFound _ | alreadyExists _ | failed _ => ⟨trivial, trivial, trivial⟩

/-- An answer with one field is read if the field is. -/
theorem single_reader {α : Type} {variant key : String} {inner : Reader α} {blank a : α}
    {v : Value} {depth : Nat} (h : s.depth = depth + 1)
    (read : inner ⟨depth, s.buffered⟩ (Doc.ofValue v) = .ok a) :
    (single variant key inner blank).reader s (Doc.ofValue (.object [(key, v)])) = .ok a := by
  let field : Json.Field α := .make key .required inner fun v _ => v
  have found : (single variant key inner blank).fields.find? (fun f => f.key == key) =
      some field := List.find?_cons_of_pos (beq_self_eq_true key)
  have stored : field.read ⟨depth, s.buffered⟩ (Doc.ofValue v) = .ok fun _ => a := by
    change (inner ⟨depth, s.buffered⟩ (Doc.ofValue v)).map (fun v _ => v) = _
    rw [read]
    rfl
  have only : (single variant key inner blank).readMembers ⟨depth, s.buffered⟩ [] blank
      (Doc.ofMembers [(key, v)]) = .ok ([key], a) :=
    Record.readMembers_field found rfl stored
  have complete : (single variant key inner blank).missing? [key] = none := by
    have nothing : [field].find? (fun f => f.presence == .required && !([key].contains f.key)) =
        none := List.find?_cons_of_neg (by simp [field, Field.make])
    exact congrArg (Option.map fun f : Json.Field α => f.key) nothing
  exact Record.reader_ofValue [key] h only complete

/-- An answer is read as the record that its name chooses. -/
theorem reader_variant {r : Response} {depth : Nat} {variant : Reader Response}
    (enough : s.depth = depth + 1) (shallow : r.toJson.depth ≤ s.depth)
    (found : StringMap.find? r.status [
      ("created", .map created (single "Created" "spec" Specification.reader default).reader),
      ("done", .map (fun _ => done) nothing.reader),
      ("exists", .map presence (single "Exists" "exists" .bool false).reader),
      ("notFound", .map notFound (single "NotFound" "name" .string "").reader),
      ("alreadyExists", .map alreadyExists (single "AlreadyExists" "name" .string "").reader),
      ("failed", .map failed (single "Failed" "message" .string "").reader)] = some variant) :
    reader s (Doc.ofValue r.toJson) =
      variant ⟨depth + 1, true⟩ (Doc.ofValue (.object r.members)) := by
  have others : "status" ∉ r.members.map Prod.fst := by
    cases r <;> simp [members]
  refine Tagged.reader_ofValue enough found (fun m hm same => ?_) ?_
  · exact others (List.mem_map.2 ⟨m, hm, same⟩)
  · have inner : Value.depthMembers r.members + 1 ≤ r.toJson.depth := by
      rw [toJson, Value.depth, Value.depthMembers]
      exact Nat.succ_le_succ (Nat.le_max_right _ _)
    omega

/-- An answer is read back from its JSON form. -/
theorem reader_toJson {r : Response} (ordered : r.Ordered) (shallow : r.toJson.depth ≤ s.depth) :
    reader s (Doc.ofValue r.toJson) = .ok r := by
  have least : 1 ≤ r.toJson.depth := by
    rw [toJson, Value.depth]
    omega
  obtain ⟨depth, enough⟩ := Nat.exists_eq_add_of_le' (Nat.le_trans least shallow)
  cases r with
  | created spec =>
    have inner : spec.toJson.depth ≤ depth := by
      have member : spec.toJson.depth ≤ Value.depthMembers
          [("status", .string "created"), ("spec", spec.toJson)] :=
        Value.depth_lt_of_mem (m := ("spec", spec.toJson)) (by simp)
      have outer : (created spec).toJson.depth = Value.depthMembers
          [("status", .string "created"), ("spec", spec.toJson)] + 1 := by
        rw [toJson, Value.depth, status, members]
      omega
    have read := Specification.reader_toJson (s := ⟨depth, true⟩) ordered inner
    rw [reader_variant enough shallow rfl, Reader.map]
    exact congrArg (Except.map created) (single_reader rfl read)
  | done =>
    rw [reader_variant enough shallow rfl]
    rfl
  | presence there =>
    rw [reader_variant enough shallow rfl, Reader.map]
    exact congrArg (Except.map presence) (single_reader rfl rfl)
  | notFound name =>
    rw [reader_variant enough shallow rfl, Reader.map]
    exact congrArg (Except.map notFound) (single_reader rfl rfl)
  | alreadyExists name =>
    rw [reader_variant enough shallow rfl, Reader.map]
    exact congrArg (Except.map alreadyExists) (single_reader rfl rfl)
  | failed message =>
    rw [reader_variant enough shallow rfl, Reader.map]
    exact congrArg (Except.map failed) (single_reader rfl rfl)

/-- An answer is read back from the bytes that it is sent as. -/
theorem decode_compact {r : Response} (ordered : r.Ordered)
    (shallow : r.toJson.depth ≤ depthLimit) :
    decode reader (Utf8.encode r.toJson.compact) = .ok r :=
  Json.decode_compact r.numberless_toJson (reader_toJson ordered shallow)

end Response

/-! ### Both directions -/

/-- **Messages survive the wire.** Whatever a request or an answer carries, it is read back from its
compact form as it was, if it nests no deeper than readers follow. -/
theorem messages_survive_the_wire :
    (∀ r : Request, r.Ordered → r.toJson.depth ≤ depthLimit →
        decode Request.reader (Utf8.encode r.toJson.compact) = .ok r) ∧
      ∀ r : Response, r.Ordered → r.toJson.depth ≤ depthLimit →
        decode Response.reader (Utf8.encode r.toJson.compact) = .ok r :=
  ⟨fun _ => Request.decode_compact, fun _ => Response.decode_compact⟩

/-- A specification that embeds another one, with names that have to be escaped. -/
def escaped : Specification where
  name := "say \"hi\"\n"
  typeName := "a\\b"
  properties := [("", "\x00"), ("ttl", "🚀")]
  datasets := [("inner", ⟨"\t", "ключ", [("é", "\x7f")], []⟩)]

/-- A type with a module that says where it lies, and another one that uses it. -/
def layered : TypeMeta :=
  ⟨"layered", [⟨"base", "Base", some "/opt/\"base\".jar", []⟩, ⟨"top", "Top", none, ["base"]⟩]⟩

theorem escaped_messages_survive :
    (Request.drop ⟨escaped, layered⟩).Ordered ∧
      (Request.drop ⟨escaped, layered⟩).toJson.depth ≤ depthLimit ∧
      (Response.created escaped).Ordered ∧ (Response.created escaped).toJson.depth ≤ depthLimit ∧
      decode Request.reader (Utf8.encode (Request.drop ⟨escaped, layered⟩).toJson.compact) =
        .ok (.drop ⟨escaped, layered⟩) ∧
      decode Response.reader (Utf8.encode (Response.created escaped).toJson.compact) =
        .ok (.created escaped) := by
  have ordered : escaped.Ordered :=
    ⟨List.pairwise_pair.2 (by decide), List.pairwise_singleton _ _,
      ⟨List.pairwise_singleton _ _, List.Pairwise.nil, trivial⟩, trivial⟩
  have request : (Request.drop ⟨escaped, layered⟩).toJson.depth ≤ depthLimit := by decide
  have response : (Response.created escaped).toJson.depth ≤ depthLimit := by decide
  obtain ⟨requests, responses⟩ := messages_survive_the_wire
  exact ⟨ordered, request, ordered, response, requests _ ordered request,
    responses _ ordered response⟩

end DatasetCatalog.Storage
