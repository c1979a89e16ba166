/-!
# Maps keyed by text

A `StringMap` is a list of entries in strictly increasing order of their keys, so that whatever is
printed or listed from it comes out in one stable order. The order is that of the code points,
which is also the byte order of the keys' UTF-8 form.

The operations are given on plain lists of entries; `Sorted` is the invariant that they keep. A
specification embeds further specifications in such a map, which a type with a proof field would
not allow.
-/

namespace DatasetCatalog

/-- Entries in increasing order of their keys. -/
abbrev StringMap (α : Type) := List (String × α)

namespace StringMap

variable {α β : Type}

/-- The map without entries. -/
def empty : StringMap α := []

/-- The keys increase strictly from entry to entry. -/
def Sorted (m : StringMap α) : Prop := m.Pairwise (fun a b => a.1 < b.1)

/-- The value stored under `key`. -/
def find? (key : String) : StringMap α → Option α
  | [] => none
  | (k, v) :: rest => if k = key then some v else find? key rest

/-- Whether a value is stored under `key`. -/
def contains (key : String) (m : StringMap α) : Bool := (find? key m).isSome

/-- Stores `value` under `key`, replacing an earlier value. -/
def insert (key : String) (value : α) : StringMap α → StringMap α
  | [] => [(key, value)]
  | (k, v) :: rest =>
    if key < k then (key, value) :: (k, v) :: rest
    else if key = k then (key, value) :: rest
    else (k, v) :: insert key value rest

/-- Removes the entry of `key`, if there is one. -/
def erase (key : String) : StringMap α → StringMap α
  | [] => []
  | (k, v) :: rest => if k = key then erase key rest else (k, v) :: erase key rest

/-- Stores all `entries` in turn, so the last one of a key stays. -/
def insertAll (entries : List (String × α)) (m : StringMap α) : StringMap α :=
  entries.foldl (fun m e => insert e.1 e.2 m) m

/-- The map of a list of entries; of entries with one key the last counts. -/
def ofList (entries : List (String × α)) : StringMap α := insertAll entries empty

/-- The keys in order. -/
def keys (m : StringMap α) : List String := m.map Prod.fst

/-- The values in the order of their keys. -/
def values (m : StringMap α) : List α := m.map Prod.snd

@[simp] theorem find?_empty (key : String) : find? key (empty : StringMap α) = none := rfl

theorem find?_insert (key : String) (value : α) (m : StringMap α) (k : String) :
    find? k (insert key value m) = if key = k then some value else find? k m := by
  induction m with
  | nil => simp [insert, find?]
  | cons e rest ih =>
    obtain ⟨k', v⟩ := e
    simp only [insert]
    by_cases h₁ : key < k'
    · simp [h₁, find?]
    · by_cases h₂ : key = k'
      · subst h₂
        by_cases hk : key = k <;> simp [find?, hk]
      · simp only [h₁, h₂, if_false, find?, ih]
        by_cases hk : k' = k
        · subst hk
          simp [h₂]
        · simp [hk]

theorem find?_erase (key : String) (m : StringMap α) (k : String) :
    find? k (erase key m) = if key = k then none else find? k m := by
  induction m with
  | nil => simp [erase, find?]
  | cons e rest ih =>
    obtain ⟨k', v⟩ := e
    simp only [erase]
    by_cases h : k' = key
    · subst h
      rw [if_pos rfl, ih]
      by_cases hk : k' = k <;> simp [hk, find?]
    · by_cases hk : k' = k
      · subst hk
        simp [h, find?, Ne.symm h]
      · simp [h, find?, ih, hk]

theorem erase_sublist (key : String) (m : StringMap α) : (erase key m).Sublist m := by
  induction m with
  | nil => exact List.Sublist.slnil
  | cons e rest ih =>
    obtain ⟨k, v⟩ := e
    simp only [erase]
    split
    · exact ih.cons _
    · exact ih.cons_cons _

theorem mem_keys_insert {key k : String} {value : α} {m : StringMap α} :
    k ∈ keys (insert key value m) ↔ k = key ∨ k ∈ keys m := by
  induction m with
  | nil => simp [insert, keys]
  | cons e rest ih =>
    obtain ⟨k', v⟩ := e
    simp only [keys, insert] at ih ⊢
    split
    · simp
    · split
      · next h => subst h; simp
      · simp only [List.map_cons, List.mem_cons, ih]
        constructor
        · rintro (h | h | h) <;> simp [h]
        · rintro (h | h | h) <;> simp [h]

/-- Storing a value keeps the order of the keys. -/
theorem Sorted.insert {m : StringMap α} (h : Sorted m) (key : String) (value : α) :
    Sorted (StringMap.insert key value m) := by
  induction m with
  | nil => simp [Sorted, StringMap.insert]
  | cons e rest ih =>
    obtain ⟨k, v⟩ := e
    obtain ⟨hk, hr⟩ := List.pairwise_cons.1 h
    simp only [StringMap.insert]
    split
    · next hlt =>
      refine List.pairwise_cons.2 ⟨fun e he => ?_, h⟩
      rcases List.mem_cons.1 he with rfl | he
      · exact hlt
      · exact String.lt_trans hlt (hk e he)
    · split
      · next heq =>
        subst heq
        exact List.pairwise_cons.2 ⟨hk, hr⟩
      · next hlt hne =>
        refine List.pairwise_cons.2 ⟨fun e he => ?_, ih hr⟩
        have hmem : e.1 ∈ keys (StringMap.insert key value rest) := List.mem_map_of_mem he
        rcases mem_keys_insert.1 hmem with heq | hin
        · rw [heq]
          exact String.not_le.1 (fun hle => hne (String.le_antisymm (String.not_lt.1 hlt) hle).symm)
        · obtain ⟨e', he', heq⟩ := List.mem_map.1 hin
          rw [← heq]
          exact hk e' he'

/-- Removing an entry keeps the order of the keys. -/
theorem Sorted.erase {m : StringMap α} (h : Sorted m) (key : String) :
    Sorted (StringMap.erase key m) :=
  List.Pairwise.sublist (erase_sublist key m) h

/-- Storing several entries keeps the order of the keys. -/
theorem Sorted.insertAll (entries : List (String × α)) :
    ∀ {m : StringMap α}, Sorted m → Sorted (StringMap.insertAll entries m) := by
  induction entries with
  | nil => exact fun h => h
  | cons e rest ih => exact fun h => ih (h.insert e.1 e.2)

theorem sorted_ofList (entries : List (String × α)) : Sorted (ofList entries) :=
  Sorted.insertAll entries List.Pairwise.nil

end StringMap

end DatasetCatalog
