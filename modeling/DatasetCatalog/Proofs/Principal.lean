import DatasetCatalog.Principal
import DatasetCatalog.Proofs.Text.Pattern

/-!
# Principals are parsed exactly

`Spells` is the grammar of principals, one rule for each of the four forms. What the pattern captures
are the components that the grammar has for a text, and nothing else (`partsOf?_eq_some_iff`). So a
text has at most one decomposition, and it is accepted exactly if it has one.

The decomposition is unique because no component contains a separator: the first at sign of a text is
the one in front of the realm, and the first slash before it is the one in front of the instance.
-/

namespace DatasetCatalog.Principal

/-- What stands between separators: at least one character, and no separator. -/
def Component (cs : List Char) : Prop := cs ≠ [] ∧ '/' ∉ cs ∧ '@' ∉ cs

/-- The four forms of a principal, with the components of each. -/
inductive Spells : List Char → Parts → Prop
  | name {n : List Char} (hn : Component n) : Spells n ⟨n, none, none⟩
  | withInstance {n i : List Char} (hn : Component n) (hi : Component i) :
      Spells (n ++ '/' :: i) ⟨n, some i, none⟩
  | withRealm {n r : List Char} (hn : Component n) (hr : Component r) :
      Spells (n ++ '@' :: r) ⟨n, none, some r⟩
  | full {n i r : List Char} (hn : Component n) (hi : Component i) (hr : Component r) :
      Spells (n ++ '/' :: i ++ '@' :: r) ⟨n, some i, some r⟩

variable {cs : List Char} {ps : Parts}

/-! ### Splitting at a separator -/

/-- The end of a text that a separator introduces, if there is one. -/
def behind (c : Char) : Option (List Char) → List Char
  | none => []
  | some tail => c :: tail

theorem split_text {c : Char} {front : List Char} (h : c ∉ front) (tail : Option (List Char)) :
    (front ++ behind c tail).takeWhile (· ≠ c) = front ∧
      (front ++ behind c tail).dropWhile (· ≠ c) = behind c tail := by
  have stays : ∀ d ∈ front, decide (d ≠ c) = true := by
    intro d hd
    exact decide_eq_true fun same => h (same ▸ hd)
  rw [List.takeWhile_append_of_pos stays, List.dropWhile_append_of_pos stays]
  cases tail <;> simp [behind]

/-- A text has one front before the first separator, and one tail behind it. -/
theorem split_unique {c : Char} {front front' : List Char} {tail tail' : Option (List Char)}
    (h : c ∉ front) (h' : c ∉ front') (same : front ++ behind c tail = front' ++ behind c tail') :
    front = front' ∧ tail = tail' := by
  obtain ⟨before, after⟩ := split_text h tail
  obtain ⟨before', after'⟩ := split_text h' tail'
  refine ⟨by rw [← before, same, before'], ?_⟩
  have ends : behind c tail = behind c tail' := by rw [← after, same, after']
  cases tail <;> cases tail' <;> simp_all [behind]

/-! ### Taking a text apart -/

theorem spells_iff {n : List Char} {i r : Option (List Char)} :
    Spells cs ⟨n, i, r⟩ ↔
      Component n ∧ (∀ x ∈ i, Component x) ∧ (∀ x ∈ r, Component x) ∧
        cs = n ++ behind '/' i ++ behind '@' r := by
  constructor
  · intro h
    cases h <;> simp_all [behind]
  · rintro ⟨hn, hi, hr, rfl⟩
    cases i <;> cases r <;> simp only [behind, List.append_nil]
    · exact .name hn
    · exact .withRealm hn (hr _ rfl)
    · exact .withInstance hn (hi _ rfl)
    · exact .full hn (hi _ rfl) (hr _ rfl)

/-- A text has one decomposition at most. -/
theorem Spells.unique {qs : Parts} (h : Spells cs ps) (h' : Spells cs qs) : ps = qs := by
  obtain ⟨n, i, r⟩ := ps
  obtain ⟨n', i', r'⟩ := qs
  obtain ⟨hn, hi, -, written⟩ := spells_iff.1 h
  obtain ⟨hn', hi', -, written'⟩ := spells_iff.1 h'
  -- no at sign stands before the realm
  have front {n : List Char} {i : Option (List Char)} (hn : Component n)
      (hi : ∀ x ∈ i, Component x) : '@' ∉ n ++ behind '/' i := by
    cases i with
    | none => simpa [behind] using hn.2.2
    | some x => simpa [behind, hn.2.2] using (hi x rfl).2.2
  obtain ⟨same, rfl⟩ := split_unique (front hn hi) (front hn' hi') (written.symm.trans written')
  obtain ⟨rfl, rfl⟩ := split_unique hn.2.1 hn'.2.1 same
  rfl

/-! ### The pattern -/

/-- The groups that capture components. -/
def Parts.groups (p : Parts) : Captures :=
  (1, p.shortName) :: ((p.instanceName.map (2, ·)).toList ++ (p.realm.map (3, ·)).toList)

theorem Parts.ofGroups_groups (ps : Parts) : ofGroups ps.groups = ps := by
  obtain ⟨n, i, r⟩ := ps
  cases i <;> cases r <;> rfl

theorem matches_component {gs : Captures} :
    component.Matches cs gs ↔ Component cs ∧ gs = [] := by
  have plain : (∀ c ∈ cs, c ∉ ['/', '@']) ↔ '/' ∉ cs ∧ '@' ∉ cs := by
    constructor
    · intro h
      exact ⟨fun hmem => h _ hmem (by simp), fun hmem => h _ hmem (by simp)⟩
    · rintro ⟨noSlash, noAt⟩ c hc
      simpa using ⟨fun same => noSlash (same ▸ hc), fun same => noAt (same ▸ hc)⟩
  simp only [component, Pattern.matches_oneOrMore, CharClass.contains_noneOf, plain, Component,
    and_assoc]

/-- An optional component behind a separator. -/
theorem matches_behind {c : Char} {n : Nat} {gs : Captures} :
    (Pattern.optional (.seq (.char c) (.group n component))).Matches cs gs ↔
      ∃ tail : Option (List Char), (∀ x ∈ tail, Component x) ∧ cs = behind c tail ∧
        gs = (tail.map (n, ·)).toList := by
  simp only [Pattern.matches_optional, Pattern.matches_seq, Pattern.matches_char,
    Pattern.matches_group, matches_component]
  constructor
  · rintro (⟨rfl, rfl⟩ | ⟨_, x, _, _, ⟨rfl, rfl⟩, ⟨_, ⟨hx, rfl⟩, rfl⟩, rfl, rfl⟩)
    · exact ⟨none, nofun, rfl, rfl⟩
    · refine ⟨some x, ?_, rfl, rfl⟩
      rintro _ ⟨⟩
      exact hx
  · rintro ⟨_ | x, components, rfl, rfl⟩
    · exact .inl ⟨rfl, rfl⟩
    · exact .inr ⟨[c], x, [], [(n, x)], ⟨rfl, rfl⟩, ⟨[], ⟨components x rfl, rfl⟩, rfl⟩, rfl, rfl⟩

/-- The pattern matches what the grammar spells, and captures its components. -/
theorem matches_pattern {gs : Captures} :
    pattern.Matches cs gs ↔ ∃ ps, Spells cs ps ∧ gs = ps.groups := by
  simp only [pattern, Pattern.matches_seq, Pattern.matches_group, matches_component, matches_behind]
  constructor
  · rintro ⟨n, _, _, _, ⟨_, ⟨hn, rfl⟩, rfl⟩, ⟨_, _, _, _, ⟨i, hi, rfl, rfl⟩, ⟨r, hr, rfl, rfl⟩, rfl, rfl⟩,
      rfl, rfl⟩
    exact ⟨⟨n, i, r⟩, spells_iff.2 ⟨hn, hi, hr, by rw [List.append_assoc]⟩, rfl⟩
  · rintro ⟨⟨n, i, r⟩, h, rfl⟩
    obtain ⟨hn, hi, hr, rfl⟩ := spells_iff.1 h
    exact ⟨n, _, _, _, ⟨[], ⟨hn, rfl⟩, rfl⟩,
      ⟨_, _, _, _, ⟨i, hi, rfl, rfl⟩, ⟨r, hr, rfl, rfl⟩, rfl, rfl⟩, List.append_assoc _ _ _, rfl⟩

/-- Taking a text apart gives exactly the components that the grammar has for it. -/
theorem partsOf?_eq_some_iff : partsOf? cs = some ps ↔ Spells cs ps := by
  have unique (gs hs : Captures) (h : pattern.Matches cs gs) (h' : pattern.Matches cs hs) :
      gs = hs := by
    obtain ⟨ps, spelled, rfl⟩ := matches_pattern.1 h
    obtain ⟨qs, spelled', rfl⟩ := matches_pattern.1 h'
    rw [spelled.unique spelled']
  simp only [partsOf?, Option.map_eq_some_iff, Pattern.captures?_eq_some_iff unique, matches_pattern]
  constructor
  · rintro ⟨_, ⟨qs, spelled, rfl⟩, rfl⟩
    rwa [Parts.ofGroups_groups]
  · intro spelled
    exact ⟨_, ⟨ps, spelled, rfl⟩, ps.ofGroups_groups⟩

/-- A text is matched exactly if it has parts. -/
theorem accepts_pattern : pattern.accepts cs = (partsOf? cs).isSome := by
  rw [partsOf?, Option.isSome_map, Pattern.accepts]

/-- The components with their separators are the text. -/
theorem Spells.text_eq (h : Spells cs ps) : ps.text = cs := by
  cases h <;> simp [Parts.text]

/-- The empty text is no principal. -/
theorem not_spells_nil : ¬ Spells [] ps := by
  intro h
  obtain ⟨⟨some, -⟩, -, -, written⟩ := spells_iff.1 h
  exact some (List.append_eq_nil_iff.1 (List.append_eq_nil_iff.1 written.symm).1).1

/-! ### Principals -/

variable {p : Principal}

theorem parts?_of_spells (h : Spells p.text.toList ps) : p.parts? = some ps :=
  partsOf?_eq_some_iff.2 h

theorem parts?_of_not_spells (h : ¬ ∃ ps, Spells p.text.toList ps) : p.parts? = none := by
  cases found : p.parts? with
  | none => rfl
  | some ps => exact absurd ⟨ps, partsOf?_eq_some_iff.1 found⟩ h

theorem validate_of_spells (h : Spells p.text.toList ps) : p.validate = .ok () := by
  have given : p.text.isEmpty = false := by
    rw [Bool.eq_false_iff]
    intro empty
    rw [String.isEmpty_iff.1 empty] at h
    exact not_spells_nil h
  have parts : partsOf? p.text.toList = some ps := parts?_of_spells h
  rw [validate, given, accepts_pattern, parts]
  rfl

/-- The empty text is refused as such, and every other text that is no principal with itself. -/
theorem validate_of_not_spells (h : ¬ ∃ ps, Spells p.text.toList ps) :
    p.validate = .error (if p.text = "" then .empty else .malformed p.text) := by
  have nothing : partsOf? p.text.toList = none := parts?_of_not_spells h
  rw [validate, accepts_pattern, nothing]
  by_cases empty : p.text = ""
  · simp [empty]
  · simp [empty, String.isEmpty_iff]

theorem validate_eq_ok_iff : p.validate = .ok () ↔ ∃ ps, Spells p.text.toList ps := by
  constructor
  · intro accepted
    by_cases h : ∃ ps, Spells p.text.toList ps
    · exact h
    · rw [validate_of_not_spells h] at accepted
      cases accepted
  · intro ⟨ps, h⟩
    exact validate_of_spells h

/-- **Principals are parsed exactly.** A principal is accepted if and only if it has one of the four
forms. Its decomposition is unique then, the three accessors give its components, and these make the
text up. Of a principal that is refused there are no components, and the error is that there is
nothing only if that is so, and otherwise quotes the text. -/
theorem parsed_exactly (p : Principal) :
    (p.validate = .ok () ↔ ∃ ps, Spells p.text.toList ps) ∧
      (∀ ps, Spells p.text.toList ps →
        (∀ qs, Spells p.text.toList qs → qs = ps) ∧
          p.shortName? = some (String.ofList ps.shortName) ∧
          p.instance? = ps.instanceName.map String.ofList ∧
          p.realm? = ps.realm.map String.ofList ∧
          String.ofList ps.text = p.text) ∧
      ((¬ ∃ ps, Spells p.text.toList ps) →
        p.shortName? = none ∧ p.instance? = none ∧ p.realm? = none ∧
          p.validate = .error (if p.text = "" then .empty else .malformed p.text)) := by
  refine ⟨validate_eq_ok_iff, fun ps h => ?_, fun h => ?_⟩
  · have parts := parts?_of_spells h
    refine ⟨fun qs h' => h'.unique h, ?_, ?_, ?_, ?_⟩
    · simp [shortName?, parts]
    · simp [instance?, parts]
    · simp [realm?, parts]
    · rw [h.text_eq, String.ofList_toList]
  · have parts := parts?_of_not_spells h
    refine ⟨?_, ?_, ?_, validate_of_not_spells h⟩
    · simp [shortName?, parts]
    · simp [instance?, parts]
    · simp [realm?, parts]

/-- A host principal, and one whose name goes on over a line. A second at sign is refused. -/
theorem host_principal_is_parsed :
    Spells "al\nice/ホスト@SOMEKDC.NET".toList
        ⟨"al\nice".toList, some "ホスト".toList, some "SOMEKDC.NET".toList⟩ ∧
      (Principal.mk "al\nice/ホスト@SOMEKDC.NET").validate = .ok () ∧
      (Principal.mk "al\nice/ホスト@SOMEKDC.NET").instance? = some "ホスト" ∧
      (¬ ∃ ps, Spells "b@ob@SOMEKDC.NET".toList ps) ∧
      (Principal.mk "b@ob@SOMEKDC.NET").realm? = none := by
  have spelled : Spells "al\nice/ホスト@SOMEKDC.NET".toList
      ⟨"al\nice".toList, some "ホスト".toList, some "SOMEKDC.NET".toList⟩ :=
    partsOf?_eq_some_iff.1 (by decide)
  have refused : ¬ ∃ ps, Spells "b@ob@SOMEKDC.NET".toList ps := by
    intro ⟨ps, h⟩
    have nothing : partsOf? "b@ob@SOMEKDC.NET".toList = none := by decide
    rw [partsOf?_eq_some_iff.2 h] at nothing
    cases nothing
  obtain ⟨accepted, components, -⟩ := parsed_exactly ⟨"al\nice/ホスト@SOMEKDC.NET"⟩
  obtain ⟨-, -, absent⟩ := parsed_exactly ⟨"b@ob@SOMEKDC.NET"⟩
  exact ⟨spelled, accepted.2 ⟨_, spelled⟩, (components _ spelled).2.2.1, refused,
    (absent refused).2.2.1⟩

end DatasetCatalog.Principal
