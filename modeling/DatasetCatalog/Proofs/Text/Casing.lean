import DatasetCatalog.Text.Casing

/-!
# The case of ASCII text

Lower case is a matter of one character at a time in ASCII text, where there is no sigma, and text that
is in lower case stays as it is.
-/

namespace DatasetCatalog.Casing

/-- An ASCII character that is no capital letter. -/
def IsLow (c : Char) : Prop := c.toNat < 128 ∧ ¬ (65 ≤ c.toNat ∧ c.toNat ≤ 90)

instance (c : Char) : Decidable (IsLow c) := inferInstanceAs (Decidable (_ ∧ _))

theorem lowerChar_of_low {c : Char} (h : IsLow c) : lowerChar c = [c] := by
  have capital : ¬ (65 ≤ c.toNat && c.toNat ≤ 90) = true := by simpa using h.2
  rw [lowerChar, if_pos h.1, if_neg capital]

theorem low_of_mem_lowerChar {c d : Char} (h : c.toNat < 128) (hd : d ∈ lowerChar c) : IsLow d := by
  rw [lowerChar, if_pos h] at hd
  split at hd
  · next capital =>
    obtain ⟨least, most⟩ : 65 ≤ c.toNat ∧ c.toNat ≤ 90 := by simpa using capital
    obtain rfl := List.mem_singleton.1 hd
    have code : (Char.ofNat (c.toNat + 32)).toNat = c.toNat + 32 := by
      have valid : (c.toNat + 32).isValidChar := .inl (by omega)
      rw [Char.ofNat, dif_pos valid]
      rfl
    rw [IsLow, code]
    omega
  · next lower =>
    obtain rfl := List.mem_singleton.1 hd
    exact ⟨h, by simpa using lower⟩

/-- ASCII text has no sigma, whose lower case depends on what stands around it. -/
theorem lowerAfter_cons {c : Char} (h : c.toNat < 128) (before rest : List Char) :
    lowerAfter before (c :: rest) = lowerChar c ++ lowerAfter (c :: before) rest := by
  rw [lowerAfter, if_neg (by omega)]

theorem lowerAfter_of_low {cs : List Char} (h : ∀ c ∈ cs, IsLow c) (before : List Char) :
    lowerAfter before cs = cs := by
  induction cs generalizing before with
  | nil => rfl
  | cons c rest ih =>
    have low := h c List.mem_cons_self
    rw [lowerAfter_cons low.1, lowerChar_of_low low, ih fun d hd => h d (List.mem_cons_of_mem _ hd)]
    rfl

/-- Text in lower case stays as it is. -/
theorem lower_of_low {s : String} (h : ∀ c ∈ s.toList, IsLow c) : lower s = s := by
  rw [lower, lowerAfter_of_low h, String.ofList_toList]

theorem low_of_mem_lowerAfter {cs : List Char} (h : ∀ c ∈ cs, c.toNat < 128) {before : List Char}
    {d : Char} (hd : d ∈ lowerAfter before cs) : IsLow d := by
  induction cs generalizing before with
  | nil => cases hd
  | cons c rest ih =>
    rw [lowerAfter_cons (h c List.mem_cons_self)] at hd
    obtain here | later := List.mem_append.1 hd
    · exact low_of_mem_lowerChar (h c List.mem_cons_self) here
    · exact ih (fun d hd => h d (List.mem_cons_of_mem _ hd)) later

/-- Lower case of ASCII text is in lower case. -/
theorem lower_lower {s : String} (h : ∀ c ∈ s.toList, c.toNat < 128) : lower (lower s) = lower s := by
  refine lower_of_low fun c hc => ?_
  rw [lower, String.toList_ofList] at hc
  exact low_of_mem_lowerAfter h hc

end DatasetCatalog.Casing
