import DatasetCatalog.StringMap

/-!
# Maps in order

A map that is in order is rebuilt by storing its entries one after the other, because each new key
is greater than those before it and its entry goes to the end. Entries of a map in order are what
looking up their keys finds.
-/

namespace DatasetCatalog.StringMap

variable {α : Type}

/-- An entry with the greatest key goes to the end. -/
theorem insert_of_lt {key : String} {value : α} {m : StringMap α} (h : ∀ e ∈ m, e.1 < key) :
    insert key value m = m ++ [(key, value)] := by
  induction m with
  | nil => rfl
  | cons e rest ih =>
    obtain ⟨k, v⟩ := e
    have smaller : k < key := h (k, v) List.mem_cons_self
    have notBefore : ¬ key < k := fun hlt => String.lt_irrefl _ (String.lt_trans smaller hlt)
    have different : key ≠ k := by
      rintro rfl
      exact String.lt_irrefl _ smaller
    rw [insert, if_neg notBefore, if_neg different,
      ih fun e he => h e (List.mem_cons_of_mem _ he), List.cons_append]

/-- Storing the entries of a map in order after smaller ones puts them behind these. -/
theorem insertAll_of_sorted {m done : StringMap α} (h : Sorted (done ++ m)) :
    insertAll m done = done ++ m := by
  induction m generalizing done with
  | nil => rw [List.append_nil]; rfl
  | cons e rest ih =>
    have smaller : ∀ d ∈ done, d.1 < e.1 := fun d hd =>
      (List.pairwise_append.1 h).2.2 d hd e List.mem_cons_self
    have next : insertAll (e :: rest) done = insertAll rest (insert e.1 e.2 done) := rfl
    have shape : done ++ e :: rest = (done ++ [e]) ++ rest := by simp
    rw [next, insert_of_lt smaller, shape]
    rw [shape] at h
    exact ih h

/-- A map in order is rebuilt from its entries. -/
theorem insertAll_self {m : StringMap α} (h : Sorted m) : insertAll m empty = m :=
  insertAll_of_sorted h

/-! ### Looking up entries -/

theorem mem_of_find? {key : String} {value : α} {m : StringMap α} (h : find? key m = some value) :
    (key, value) ∈ m := by
  induction m with
  | nil => cases h
  | cons e rest ih =>
    obtain ⟨k, v⟩ := e
    rw [find?] at h
    by_cases here : k = key
    · rw [if_pos here] at h
      cases h
      exact here ▸ List.mem_cons_self
    · rw [if_neg here] at h
      exact List.mem_cons_of_mem _ (ih h)

theorem find?_cons_eq_none {key k : String} {v : α} {rest : StringMap α} :
    find? key ((k, v) :: rest) = none ↔ k ≠ key ∧ find? key rest = none := by
  by_cases here : k = key <;> simp [find?, here]

/-- In a map in order every entry is found. -/
theorem find?_of_mem {key : String} {value : α} {m : StringMap α} (sorted : Sorted m)
    (h : (key, value) ∈ m) : find? key m = some value := by
  induction m with
  | nil => cases h
  | cons e rest ih =>
    obtain ⟨k, v⟩ := e
    obtain ⟨greater, sortedRest⟩ := List.pairwise_cons.1 sorted
    rw [find?]
    rcases List.mem_cons.1 h with heq | hin
    · cases heq
      exact if_pos rfl
    · have before : k < key := greater _ hin
      have different : k ≠ key := by
        rintro rfl
        exact String.lt_irrefl _ before
      rw [if_neg different]
      exact ih sortedRest hin

theorem contains_iff_mem_keys {key : String} {m : StringMap α} :
    contains key m = true ↔ key ∈ keys m := by
  induction m with
  | nil => simp [contains, find?, keys]
  | cons e rest ih =>
    obtain ⟨k, v⟩ := e
    by_cases here : k = key
    · simp [contains, find?, keys, here]
    · simpa [contains, find?, keys, here, Ne.symm here] using ih

/-- The keys of a map in order are all different. -/
theorem nodup_keys {m : StringMap α} (sorted : Sorted m) : (keys m).Nodup := by
  refine List.pairwise_map.2 (sorted.imp fun {a b} before same => ?_)
  rw [same] at before
  exact String.lt_irrefl _ before

/-- Maps in order that find the same are the same. -/
theorem eq_of_find? {m m' : StringMap α} (h : Sorted m) (h' : Sorted m')
    (same : ∀ key, find? key m = find? key m') : m = m' := by
  have nodup {m : StringMap α} (h : Sorted m) : m.Nodup := by
    refine List.Pairwise.imp (fun {a b} before => ?_) h
    rintro rfl
    exact String.lt_irrefl _ before
  have perm : m.Perm m' := by
    refine (List.perm_ext_iff_of_nodup (nodup h) (nodup h')).2 fun e => ⟨fun he => ?_, fun he => ?_⟩
    · exact mem_of_find? ((same e.1).symm.trans (find?_of_mem h he))
    · exact mem_of_find? ((same e.1).trans (find?_of_mem h' he))
  exact List.Perm.eq_of_pairwise (fun a b _ _ hab hba => absurd hba (String.lt_asymm hab)) h h' perm

theorem erase_eq_filter (key : String) (m : StringMap α) :
    erase key m = m.filter fun e => e.1 ≠ key := by
  induction m with
  | nil => rfl
  | cons e rest ih =>
    obtain ⟨k, v⟩ := e
    rw [erase, ih]
    by_cases here : k = key <;> simp [here]

/-! ### How many entries there are -/

/-- What is inserted under a free key comes to what was there. -/
theorem mem_insert_of_free {key : String} {value : α} {m : StringMap α} (h : find? key m = none)
    {e : String × α} : e ∈ insert key value m ↔ e = (key, value) ∨ e ∈ m := by
  induction m with
  | nil => simp [insert]
  | cons first rest ih =>
    obtain ⟨k, v⟩ := first
    obtain ⟨other, free⟩ := find?_cons_eq_none.1 h
    rw [insert, if_neg (Ne.symm other)]
    split
    · simp
    · simp [ih free, or_left_comm]

/-- An entry with a new key is one more. -/
theorem length_insert_of_free {key : String} {m : StringMap α} (h : find? key m = none)
    (value : α) : (insert key value m).length = m.length + 1 := by
  induction m with
  | nil => rfl
  | cons e rest ih =>
    obtain ⟨k, v⟩ := e
    obtain ⟨other, free⟩ := find?_cons_eq_none.1 h
    rw [insert]
    split
    · rfl
    · rw [if_neg (Ne.symm other), List.length_cons, ih free, List.length_cons]

/-- Removing what is not there removes nothing. -/
theorem erase_of_free {key : String} {m : StringMap α} (h : find? key m = none) :
    erase key m = m := by
  induction m with
  | nil => rfl
  | cons e rest ih =>
    obtain ⟨k, v⟩ := e
    obtain ⟨other, free⟩ := find?_cons_eq_none.1 h
    rw [erase, if_neg other, ih free]

/-- Removing the entry of a key from a map in order leaves one less. -/
theorem length_erase_of_found {key : String} {value : α} {m : StringMap α} (sorted : Sorted m)
    (h : find? key m = some value) : (erase key m).length + 1 = m.length := by
  induction m with
  | nil => cases h
  | cons e rest ih =>
    obtain ⟨k, v⟩ := e
    obtain ⟨greater, sortedRest⟩ := List.pairwise_cons.1 sorted
    rw [erase]
    by_cases here : k = key
    · -- the keys after it are greater, so there is no second entry of it
      have free : find? key rest = none := by
        cases hrest : find? key rest with
        | none => rfl
        | some w =>
          have before := greater _ (mem_of_find? hrest)
          rw [here] at before
          exact absurd before (String.lt_irrefl _)
      rw [if_pos here, erase_of_free free, List.length_cons]
    · rw [find?, if_neg here] at h
      rw [if_neg here, List.length_cons, ih sortedRest h, List.length_cons]

end DatasetCatalog.StringMap
