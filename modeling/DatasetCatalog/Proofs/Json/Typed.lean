import DatasetCatalog.Json.Reader
import DatasetCatalog.Proofs.Json.Reading
import DatasetCatalog.Proofs.StringMap

/-!
# Reading what was written

The documents of written values have no faults, so readers go straight through them. The lemmas here
say what each reader makes of such a document: texts, maps whose values can be read, and records
field by field. `decode_compact` and `decode_indented` start from the bytes.
-/

namespace DatasetCatalog.Json

variable {α : Type}

/-- A value in the compact layout is decoded as its document is read. -/
theorem decode_compact {v : Value} (h : v.Numberless) {r : Reader α} {a : α}
    (read : r ⟨depthLimit, false⟩ (Doc.ofValue v) = .ok a) :
    decode r (Utf8.encode v.compact) = .ok a := by
  rw [decode, parse_compact h]
  dsimp only
  rw [read]
  rfl

/-- A value in the indented layout is decoded as its document is read. -/
theorem decode_indented {v : Value} (h : v.Numberless) {r : Reader α} {a : α}
    (read : r ⟨depthLimit, false⟩ (Doc.ofValue v) = .ok a) :
    decode r (Utf8.encode v.indented) = .ok a := by
  rw [decode, parse_indented h]
  dsimp only
  rw [read]
  rfl

/-- A reader that fails on the document of a written value fails to decode its text. -/
theorem decode_indented_error {v : Value} (h : v.Numberless) {r : Reader α} {e : Error}
    (read : r ⟨depthLimit, false⟩ (Doc.ofValue v) = .error e) :
    decode r (Utf8.encode v.indented) = .error e := by
  rw [decode, parse_indented h]
  dsimp only
  rw [read]

namespace Reader

theorem enter_succ {s : Stage} {depth : Nat} (h : s.depth = depth + 1)
    (next : Stage → Except Error α) : enter s next = next ⟨depth, s.buffered⟩ := by
  rw [enter, h]

/-- Members whose values can be read are stored in turn. -/
theorem membersInto_ofMembers {r : Reader α} {s : Stage} {write : α → Value} {m : StringMap α}
    (h : ∀ e ∈ m, r s (Doc.ofValue (write e.2)) = .ok e.2) (done : StringMap α) :
    membersInto r s done (Doc.ofMembers (m.map fun e => (e.1, write e.2))) =
      .ok (StringMap.insertAll m done) := by
  induction m generalizing done with
  | nil => rfl
  | cons e rest ih =>
    have here : r s (Doc.ofValue (write e.2)) = .ok e.2 := h e List.mem_cons_self
    rw [List.map_cons, Doc.ofMembers, membersInto, here]
    exact ih (fun e he => h e (List.mem_cons_of_mem _ he)) _

/-- A map in order is read back if its values are. -/
theorem stringMap_ofValue {r : Reader α} {s : Stage} {depth : Nat} {write : α → Value}
    {m : StringMap α} (enough : s.depth = depth + 1) (sorted : StringMap.Sorted m)
    (h : ∀ e ∈ m, r ⟨depth, s.buffered⟩ (Doc.ofValue (write e.2)) = .ok e.2) :
    Reader.stringMap r s (Doc.ofValue (.object (m.map fun e => (e.1, write e.2)))) = .ok m := by
  rw [Doc.ofValue, Reader.stringMap, enter_succ enough, membersInto_ofMembers h,
    StringMap.insertAll_self sorted]
  rfl

/-- Members that were read into a map could each be read. -/
theorem reads_of_membersInto {r : Reader α} {s : Stage} {members : List (String × Value)}
    {done m : StringMap α} (h : membersInto r s done (Doc.ofMembers members) = .ok m) :
    ∀ e ∈ members, ∃ a, r s (Doc.ofValue e.2) = .ok a := by
  induction members generalizing done with
  | nil => simp
  | cons e rest ih =>
    have name : Reader.lift (Doc.key (.string (.ok e.1) none)) = pure e.1 := rfl
    rw [Doc.ofMembers, membersInto, name, pure_bind] at h
    cases read : r s (Doc.ofValue e.2) with
    | error fault =>
      rw [read] at h
      cases h
    | ok a =>
      rw [read] at h
      exact List.forall_mem_cons.2 ⟨⟨a, read⟩, ih h⟩

/-- A map that was read stood where one more container could nest, and its values could be read. -/
theorem reads_of_stringMap {r : Reader α} {s : Stage} {members : List (String × Value)}
    {m : StringMap α} (h : Reader.stringMap r s (Doc.ofValue (.object members)) = .ok m) :
    ∃ depth, s.depth = depth + 1 ∧
      ∀ e ∈ members, ∃ a, r ⟨depth, s.buffered⟩ (Doc.ofValue e.2) = .ok a := by
  rw [Doc.ofValue, Reader.stringMap, enter] at h
  split at h
  · cases h
  · next depth hdepth =>
    refine ⟨depth, hdepth, ?_⟩
    cases read : membersInto r ⟨depth, s.buffered⟩ StringMap.empty (Doc.ofMembers members) with
    | error fault =>
      rw [read] at h
      cases h
    | ok m' => exact reads_of_membersInto read

end Reader

namespace Record

variable {r : Record α} {s : Stage} {seen : List String} {a b : α}

/-- The member of a field is read into the record. -/
theorem readMembers_field {f : Field α} {set : α → α} {key : String} {v : Value}
    {rest : List (String × Value)} (found : r.fields.find? (fun f => f.key == key) = some f)
    (fresh : seen.contains key = false) (read : f.read s (Doc.ofValue v) = .ok set) :
    r.readMembers s seen a (Doc.ofMembers ((key, v) :: rest)) =
      r.readMembers s (key :: seen) (set a) (Doc.ofMembers rest) := by
  have name : Reader.lift (Doc.key (.string (.ok key) none)) = pure key := rfl
  rw [Doc.ofMembers, readMembers, name, pure_bind, found]
  dsimp only
  rw [fresh, if_neg Bool.false_ne_true, read]
  rfl

/-- A record is read from an object whose members fill all the fields that must be there. -/
theorem reader_ofValue {depth : Nat} {members : List (String × Value)} (seen : List String)
    (enough : s.depth = depth + 1)
    (read : r.readMembers ⟨depth, s.buffered⟩ [] r.blank (Doc.ofMembers members) = .ok (seen, b))
    (complete : r.missing? seen = none) : r.reader s (Doc.ofValue (.object members)) = .ok b := by
  have read : r.readMembers ⟨depth, s.buffered⟩ [] r.blank (Doc.ofMembers members) =
      pure (seen, b) := read
  have ended : Reader.check Ending.closed.objectFault = pure () := rfl
  rw [Doc.ofValue, reader, Reader.enter_succ enough, ofMembers, read, pure_bind]
  dsimp only
  rw [ended, pure_bind, complete]

/-- An object that a record was read from stood where one more container could nest, and the member
of every field could be read. -/
theorem reads_of_reader {members : List (String × Value)}
    (h : r.reader s (Doc.ofValue (.object members)) = .ok a) :
    ∃ depth, s.depth = depth + 1 ∧ ∀ m ∈ members, ∀ f,
      r.fields.find? (fun f => f.key == m.1) = some f →
        ∃ set, f.read ⟨depth, s.buffered⟩ (Doc.ofValue m.2) = .ok set := by
  rw [Doc.ofValue, reader, Reader.enter] at h
  split at h
  · cases h
  · next depth hdepth =>
    refine ⟨depth, hdepth, ?_⟩
    cases read : r.readMembers ⟨depth, s.buffered⟩ [] r.blank (Doc.ofMembers members) with
    | error fault =>
      rw [ofMembers, read] at h
      cases h
    | ok result =>
      clear h
      generalize ([] : List String) = seen at read
      generalize r.blank = b at read
      induction members generalizing seen b with
      | nil => simp
      | cons m rest ih =>
        have name : Reader.lift (Doc.key (.string (.ok m.1) none)) = pure m.1 := rfl
        rw [Doc.ofMembers, readMembers, name, pure_bind] at read
        refine List.forall_mem_cons.2 ⟨fun f found => ?_, ?_⟩
        · rw [found] at read
          dsimp only at read
          split at read
          · cases read
          · cases taken : f.read ⟨depth, s.buffered⟩ (Doc.ofValue m.2) with
            | ok set => exact ⟨set, rfl⟩
            | error fault =>
              rw [taken] at read
              cases read
        · cases known : r.fields.find? fun f => f.key == m.1 with
          | some f =>
            rw [known] at read
            dsimp only at read
            split at read
            · cases read
            · cases taken : f.read ⟨depth, s.buffered⟩ (Doc.ofValue m.2) with
              | ok set =>
                rw [taken] at read
                exact ih _ _ read
              | error fault =>
                rw [taken] at read
                cases read
          | none =>
            rw [known] at read
            dsimp only at read
            cases skipped : (Doc.ofValue m.2).skip with
            | ok u =>
              rw [skipped] at read
              exact ih _ _ read
            | error fault =>
              rw [skipped] at read
              cases read

end Record

end DatasetCatalog.Json
