import DatasetCatalog.Disk.Path
import DatasetCatalog.InstanceName
import DatasetCatalog.Proofs.Text.Casing
import DatasetCatalog.Proofs.Text.Pattern

/-!
# What an instance name can be used as

The characters that the pattern of instance names allows are ASCII, and none of them means anything in a
path. So a valid name is a safe file name (`isSafeName_of_isValid`), and the name of its table is in
lower case (`lower_table`).
-/

namespace DatasetCatalog.InstanceName

variable {name : String} {c : Char}

theorem rest_of_start (h : start.contains c = true) : rest.contains c = true := by
  obtain ⟨r, hr, within⟩ := (CharClass.contains_iff rfl).1 h
  exact (CharClass.contains_iff rfl).2 ⟨r, List.mem_append_left _ hr, within⟩

/-- A name starts with one character, and goes on with any number of others. -/
theorem isValid_iff : isValid name = true ↔ ∃ first others, name.toList = first :: others ∧
    start.contains first = true ∧ ∀ c ∈ others, rest.contains c = true := by
  simp only [isValid, pattern, Pattern.accepts_iff, Pattern.matches_seq, Pattern.matches_one,
    Pattern.matches_many]
  constructor
  · rintro ⟨_, _, others, _, _, ⟨first, starts, rfl, rfl⟩, ⟨goesOn, rfl⟩, written, -⟩
    exact ⟨first, others, written, starts, goesOn⟩
  · rintro ⟨first, others, written, starts, goesOn⟩
    exact ⟨[], [first], others, [], [], ⟨first, starts, rfl, rfl⟩, ⟨goesOn, rfl⟩, written, rfl⟩

theorem rest_of_isValid (h : isValid name = true) (hc : c ∈ name.toList) :
    rest.contains c = true := by
  obtain ⟨first, others, written, starts, goesOn⟩ := isValid_iff.1 h
  rw [written] at hc
  rcases List.mem_cons.1 hc with rfl | hc
  · exact rest_of_start starts
  · exact goesOn c hc

theorem ascii_of_rest (h : rest.contains c = true) : c.toNat < 128 := by
  obtain ⟨r, hr, -, below⟩ := (CharClass.contains_iff rfl).1 h
  have last : ∀ r ∈ rest.ranges, r.2.toNat < 128 := by decide
  exact Nat.lt_of_le_of_lt below (last r hr)

/-- A character of a name is none of those that paths are made of. -/
theorem plain_of_rest (h : rest.contains c = true) : c ≠ '/' ∧ c ≠ '\\' ∧ c.toNat ≠ 0 := by
  refine ⟨?_, ?_, fun zero => ?_⟩
  · rintro rfl
    exact absurd h (by decide)
  · rintro rfl
    exact absurd h (by decide)
  · obtain rfl : c = Char.ofNat 0 := by rw [← zero, Char.ofNat_toNat]
    exact absurd h (by decide)

/-- A valid name is a safe one. -/
theorem isSafeName_of_isValid (valid : isValid name = true) : Disk.isSafeName name = true := by
  obtain ⟨first, others, written, starts, -⟩ := isValid_iff.1 valid
  have visible : first ≠ '.' := by
    rintro rfl
    exact absurd starts (by decide)
  have plain : ∀ c ∈ first :: others, rest.contains c = true :=
    fun c hc => rest_of_isValid valid (written ▸ hc)
  simp only [Disk.isSafeName, written, Bool.and_eq_true, List.all_eq_true, decide_eq_true_eq]
  refine ⟨⟨rfl, by simpa using visible⟩, fun c hc => ?_⟩
  obtain ⟨noSlash, noBackslash, noNul⟩ := plain_of_rest (plain c hc)
  exact ⟨⟨noSlash, noBackslash⟩, noNul⟩

/-- The table of an instance is named in lower case. -/
theorem lower_table (h : isValid name = true) : Casing.lower (table name) = table name := by
  refine Casing.lower_lower fun c hc => ?_
  rw [String.toList_ofList] at hc
  obtain ⟨d, hd, rfl⟩ := List.mem_map.1 hc
  split
  · decide
  · exact ascii_of_rest (rest_of_isValid h hd)

end DatasetCatalog.InstanceName
