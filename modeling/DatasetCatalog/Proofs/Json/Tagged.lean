import DatasetCatalog.Proofs.Json.Typed

/-!
# Reading written lists and choices

Requests to a worker and its answers are choices between records that one member names. The rest of
their members are taken in whole before the record is read from them, so first of all a value is
taken in as it is (`Doc.value_ofValue`), provided it nests no more than is allowed. Then reading a
written choice is reading the record that its name chooses (`Tagged.reader_ofValue`).
-/

namespace DatasetCatalog.Json

variable {α : Type}

namespace Doc

mutual

/-- A written value is taken in as it is. -/
theorem value_ofValue : (v : Value) → {depth : Nat} → v.depth ≤ depth →
    (ofValue v).value depth = .ok v
  | .null, _, _ => rfl
  | .bool _, _, _ => rfl
  | .number _, _, _ => rfl
  | .string _, _, _ => rfl
  | .array items, 0, h => by simp [Value.depth] at h
  | .array items, depth + 1, h => by
    have inner : Value.depthItems items ≤ depth := by simpa [Value.depth] using h
    rw [ofValue, value, values_ofItems items inner]
    rfl
  | .object members, 0, h => by simp [Value.depth] at h
  | .object members, depth + 1, h => by
    have inner : Value.depthMembers members ≤ depth := by simpa [Value.depth] using h
    rw [ofValue, value, memberValues_ofMembers members inner]
    rfl

theorem values_ofItems : (items : List Value) → {depth : Nat} → Value.depthItems items ≤ depth →
    values depth (ofItems items) = .ok items
  | [], _, _ => rfl
  | v :: rest, depth, h => by
    rw [Value.depthItems] at h
    rw [ofItems, values, value_ofValue v (Nat.le_trans (Nat.le_max_left _ _) h),
      values_ofItems rest (Nat.le_trans (Nat.le_max_right _ _) h)]
    rfl

theorem memberValues_ofMembers : (members : List (String × Value)) → {depth : Nat} →
    Value.depthMembers members ≤ depth → memberValues depth (ofMembers members) = .ok members
  | [], _, _ => rfl
  | (k, v) :: rest, depth, h => by
    rw [Value.depthMembers] at h
    rw [ofMembers, memberValues, key, value_ofValue v (Nat.le_trans (Nat.le_max_left _ _) h),
      memberValues_ofMembers rest (Nat.le_trans (Nat.le_max_right _ _) h)]
    rfl

end

end Doc

namespace Reader

theorem itemsFrom_ofItems {r : Reader α} {s : Stage} {write : α → Value} {as : List α}
    (h : ∀ a ∈ as, r s (Doc.ofValue (write a)) = .ok a) (i : Nat) :
    itemsFrom r s i (Doc.ofItems (as.map write)) = .ok as := by
  induction as generalizing i with
  | nil => rfl
  | cons a rest ih =>
    have tail := ih (fun b hb => h b (List.mem_cons_of_mem _ hb)) (i + 1)
    rw [List.map_cons, Doc.ofItems, itemsFrom, h a List.mem_cons_self, tail]
    rfl

/-- A list is read back if its items are. -/
theorem list_ofValue {r : Reader α} {s : Stage} {depth : Nat} {write : α → Value} {as : List α}
    (enough : s.depth = depth + 1)
    (h : ∀ a ∈ as, r ⟨depth, s.buffered⟩ (Doc.ofValue (write a)) = .ok a) :
    Reader.list r s (Doc.ofValue (.array (as.map write))) = .ok as := by
  rw [Doc.ofValue, Reader.list, enter_succ enough, itemsFrom_ofItems h 0]
  rfl

end Reader

namespace Tagged

variable {t : Tagged α} {r : Reader α}

/-- Members other than the one that chooses are taken in as they are. -/
theorem takeMembers_ofMembers {depth : Nat} {members : List (String × Value)}
    (others : ∀ m ∈ members, m.1 ≠ t.tag) (shallow : Value.depthMembers members ≤ depth)
    (chosen : Option (Reader α)) :
    t.takeMembers depth chosen (Doc.ofMembers members) = .ok (chosen, members) := by
  induction members with
  | nil => rfl
  | cons m rest ih =>
    obtain ⟨k, v⟩ := m
    rw [Value.depthMembers] at shallow
    have tail := ih (fun m hm => others m (List.mem_cons_of_mem _ hm))
      (Nat.le_trans (Nat.le_max_right _ _) shallow)
    have other : k ≠ t.tag := others (k, v) List.mem_cons_self
    have name : Reader.lift (Doc.key (.string (.ok k) none)) = .ok k := rfl
    rw [Doc.ofMembers, takeMembers, name]
    change (if k = t.tag then _ else _) = _
    rw [if_neg other, Doc.value_ofValue v (Nat.le_trans (Nat.le_max_left _ _) shallow), tail]
    rfl

/-- A written choice is read as the record that its name chooses. -/
theorem reader_ofValue {s : Stage} {depth : Nat} {name : String} {members : List (String × Value)}
    (enough : s.depth = depth + 1) (found : StringMap.find? name t.variants = some r)
    (others : ∀ m ∈ members, m.1 ≠ t.tag) (shallow : Value.depthMembers members ≤ depth) :
    t.reader s (Doc.ofValue (.object ((t.tag, .string name) :: members))) =
      r ⟨depth + 1, true⟩ (Doc.ofValue (.object members)) := by
  have chosen : t.takeMembers depth none
      (Doc.ofMembers ((t.tag, .string name) :: members)) = .ok (some r, members) := by
    have key : Reader.lift (Doc.key (.string (.ok t.tag) none)) = .ok t.tag := rfl
    rw [Doc.ofMembers, takeMembers, key]
    change (if t.tag = t.tag then _ else _) = _
    have choose : t.choose (Doc.ofValue (.string name)) = .ok r := by
      rw [Doc.ofValue, Tagged.choose, found]
    rw [if_pos rfl, choose]
    exact takeMembers_ofMembers others shallow (some r)
  rw [Doc.ofValue, reader, Reader.enter_succ enough, chosen]
  rfl

end Tagged

end DatasetCatalog.Json
