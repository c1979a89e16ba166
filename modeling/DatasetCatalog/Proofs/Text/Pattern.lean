import DatasetCatalog.Text.Pattern

/-!
# What patterns match

`Pattern.Matches` says which texts a pattern matches and what its groups capture, one rule for each
kind of pattern. It knows no preference. The ways that a pattern finds are exactly the matches of the
beginnings of a text (`mem_ways`), so a text is accepted if and only if it matches (`accepts_iff`),
and what is captured belongs to a match. Where a text has one match only, this determines what is
captured (`captures?_eq_some_iff`).

For a given pattern the relation is worked out with one equation for each kind of pattern.
-/

namespace DatasetCatalog

namespace CharClass

variable {k : CharClass} {c : Char}

theorem contains_iff (positive : k.negated = false) :
    k.contains c = true ↔ ∃ r ∈ k.ranges, r.1 ≤ c ∧ c ≤ r.2 := by
  simp only [contains, positive, Bool.bne_false, List.any_eq_true, Bool.and_eq_true,
    decide_eq_true_eq]

theorem contains_of {cs : List Char} : (of cs).contains c = true ↔ c ∈ cs := by
  rw [contains_iff rfl]
  simp only [of, List.mem_map]
  constructor
  · rintro ⟨_, ⟨d, hd, rfl⟩, le, ge⟩
    exact Char.le_antisymm le ge ▸ hd
  · intro hc
    exact ⟨_, ⟨c, hc, rfl⟩, Char.le_refl c, Char.le_refl c⟩

theorem contains_noneOf {cs : List Char} : (noneOf cs).contains c = true ↔ c ∉ cs := by
  have opposite : (noneOf cs).contains c = !(of cs).contains c := by
    simp [contains, noneOf, of]
  rw [opposite, Bool.not_eq_true', Bool.eq_false_iff, ne_eq, contains_of]

end CharClass

namespace Pattern

/-- The texts that a pattern matches, with what its groups capture. -/
inductive Matches : Pattern → List Char → Captures → Prop
  | one {k : CharClass} {c : Char} (hc : k.contains c = true) : Matches (one k) [c] []
  | many {k : CharClass} {cs : List Char} (all : ∀ c ∈ cs, k.contains c = true) :
      Matches (many k) cs []
  | seq {p q : Pattern} {cs ds : List Char} {gs hs : Captures} (first : Matches p cs gs)
      (second : Matches q ds hs) : Matches (seq p q) (cs ++ ds) (gs ++ hs)
  | absent {p : Pattern} : Matches (optional p) [] []
  | present {p : Pattern} {cs : List Char} {gs : Captures} (h : Matches p cs gs) :
      Matches (optional p) cs gs
  | group {n : Nat} {p : Pattern} {cs : List Char} {gs : Captures} (h : Matches p cs gs) :
      Matches (group n p) cs ((n, cs) :: gs)

variable {k : CharClass} {p q : Pattern} {n : Nat} {cs : List Char} {gs hs : Captures}

/-! ### One kind of pattern after the other -/

theorem matches_one : (one k).Matches cs gs ↔ ∃ c, k.contains c = true ∧ cs = [c] ∧ gs = [] := by
  constructor
  · intro h
    cases h with
    | one hc => exact ⟨_, hc, rfl, rfl⟩
  · rintro ⟨c, hc, rfl, rfl⟩
    exact .one hc

theorem matches_many : (many k).Matches cs gs ↔ (∀ c ∈ cs, k.contains c = true) ∧ gs = [] := by
  constructor
  · intro h
    cases h with
    | many all => exact ⟨all, rfl⟩
  · rintro ⟨all, rfl⟩
    exact .many all

theorem matches_seq : (seq p q).Matches cs gs ↔
    ∃ xs ys as bs, p.Matches xs as ∧ q.Matches ys bs ∧ cs = xs ++ ys ∧ gs = as ++ bs := by
  constructor
  · intro h
    cases h with
    | seq first second => exact ⟨_, _, _, _, first, second, rfl, rfl⟩
  · rintro ⟨xs, ys, as, bs, first, second, rfl, rfl⟩
    exact .seq first second

theorem matches_optional :
    (optional p).Matches cs gs ↔ cs = [] ∧ gs = [] ∨ p.Matches cs gs := by
  constructor
  · intro h
    cases h with
    | absent => exact .inl ⟨rfl, rfl⟩
    | present h => exact .inr h
  · rintro (⟨rfl, rfl⟩ | h)
    · exact .absent
    · exact .present h

theorem matches_group :
    (group n p).Matches cs gs ↔ ∃ as, p.Matches cs as ∧ gs = (n, cs) :: as := by
  constructor
  · intro h
    cases h with
    | group h => exact ⟨_, h, rfl⟩
  · rintro ⟨as, h, rfl⟩
    exact .group h

theorem matches_oneOrMore :
    (oneOrMore k).Matches cs gs ↔ cs ≠ [] ∧ (∀ c ∈ cs, k.contains c = true) ∧ gs = [] := by
  simp only [oneOrMore, matches_seq, matches_one, matches_many]
  constructor
  · rintro ⟨_, ys, _, _, ⟨c, hc, rfl, rfl⟩, ⟨all, rfl⟩, rfl, rfl⟩
    refine ⟨by simp, fun d hd => ?_, rfl⟩
    rcases List.mem_cons.1 hd with rfl | hd
    · exact hc
    · exact all d hd
  · rintro ⟨some, all, rfl⟩
    obtain ⟨c, ys, rfl⟩ := List.exists_cons_of_ne_nil some
    exact ⟨[c], ys, [], [], ⟨c, all c List.mem_cons_self, rfl, rfl⟩,
      ⟨fun d hd => all d (List.mem_cons_of_mem c hd), rfl⟩, rfl, rfl⟩

theorem matches_char {c : Char} : (char c).Matches cs gs ↔ cs = [c] ∧ gs = [] := by
  simp [char, matches_one, CharClass.contains_of]

/-! ### The ways that are found -/

theorem of_mem_takings {t : List Char × List Char} (h : t ∈ takings k cs) :
    (∀ c ∈ t.1, k.contains c = true) ∧ cs = t.1 ++ t.2 := by
  induction cs generalizing t with
  | nil =>
    obtain rfl := List.mem_singleton.1 h
    exact ⟨nofun, rfl⟩
  | cons c cs ih =>
    rcases List.mem_append.1 h with taken | left
    · split at taken
      · next hc =>
        obtain ⟨u, hu, rfl⟩ := List.mem_map.1 taken
        obtain ⟨all, rfl⟩ := ih hu
        exact ⟨List.forall_mem_cons.2 ⟨hc, all⟩, rfl⟩
      · cases taken
    · obtain rfl := List.mem_singleton.1 left
      exact ⟨nofun, rfl⟩

theorem mem_takings (all : ∀ c ∈ cs, k.contains c = true) (rest : List Char) :
    (cs, rest) ∈ takings k (cs ++ rest) := by
  induction cs with
  | nil => cases rest <;> simp [takings]
  | cons c cs ih =>
    obtain ⟨hc, others⟩ := List.forall_mem_cons.1 all
    rw [List.cons_append, takings, if_pos hc]
    exact List.mem_append_left _ (List.mem_map.2 ⟨_, ih others, rfl⟩)

/-- Every way that is found is a match of the beginning of the text. -/
theorem matches_of_mem_ways {w : Way} (h : w ∈ p.ways cs) :
    p.Matches w.text w.groups ∧ cs = w.text ++ w.rest := by
  induction p generalizing cs w with
  | one k =>
    cases cs with
    | nil => cases h
    | cons c cs =>
      rw [ways] at h
      split at h
      · next hc =>
        obtain rfl := List.mem_singleton.1 h
        exact ⟨.one hc, rfl⟩
      · cases h
  | many k =>
    obtain ⟨t, ht, rfl⟩ := List.mem_map.1 h
    obtain ⟨all, rfl⟩ := of_mem_takings ht
    exact ⟨.many all, rfl⟩
  | seq p q ihp ihq =>
    obtain ⟨u, hu, h⟩ := List.mem_flatMap.1 h
    obtain ⟨v, hv, rfl⟩ := List.mem_map.1 h
    obtain ⟨first, rfl⟩ := ihp hu
    obtain ⟨second, rest⟩ := ihq hv
    exact ⟨.seq first second, by rw [rest, List.append_assoc]⟩
  | optional p ih =>
    rcases List.mem_append.1 h with present | absent
    · obtain ⟨found, rfl⟩ := ih present
      exact ⟨.present found, rfl⟩
    · obtain rfl := List.mem_singleton.1 absent
      exact ⟨.absent, rfl⟩
  | group n p ih =>
    obtain ⟨v, hv, rfl⟩ := List.mem_map.1 h
    obtain ⟨found, rfl⟩ := ih hv
    exact ⟨.group found, rfl⟩

/-- Every match of the beginning of a text is found. -/
theorem mem_ways (h : p.Matches cs gs) (rest : List Char) :
    ⟨cs, rest, gs⟩ ∈ p.ways (cs ++ rest) := by
  induction h generalizing rest with
  | one hc => simp [ways, hc]
  | many all => exact List.mem_map.2 ⟨_, mem_takings all rest, rfl⟩
  | seq _ _ ihp ihq =>
    rw [List.append_assoc]
    exact List.mem_flatMap.2 ⟨_, ihp _, List.mem_map.2 ⟨_, ihq rest, rfl⟩⟩
  | absent => exact List.mem_append_right _ List.mem_cons_self
  | present _ ih => exact List.mem_append_left _ (ih rest)
  | group _ ih => exact List.mem_map.2 ⟨_, ih rest, rfl⟩

/-- What is captured belongs to a match of the whole text. -/
theorem matches_of_captures? (h : p.captures? cs = some gs) : p.Matches cs gs := by
  obtain ⟨w, found, rfl⟩ := Option.map_eq_some_iff.1 h
  obtain ⟨whole, rfl⟩ := matches_of_mem_ways (List.mem_of_find?_eq_some found)
  have ended := List.find?_some found
  rwa [List.isEmpty_iff.1 ended, List.append_nil]

/-- A text is accepted if and only if the pattern matches it. -/
theorem accepts_iff : p.accepts cs = true ↔ ∃ gs, p.Matches cs gs := by
  constructor
  · intro h
    obtain ⟨gs, captured⟩ := Option.isSome_iff_exists.1 h
    exact ⟨gs, matches_of_captures? captured⟩
  · rintro ⟨gs, h⟩
    have way : ⟨cs, [], gs⟩ ∈ p.ways cs := by
      simpa only [List.append_nil] using mem_ways h []
    rw [accepts, captures?, Option.isSome_map, List.find?_isSome]
    exact ⟨_, way, rfl⟩

/-- Where a text has one match only, its groups are captured. -/
theorem captures?_eq_some_iff (unique : ∀ gs hs, p.Matches cs gs → p.Matches cs hs → gs = hs) :
    p.captures? cs = some gs ↔ p.Matches cs gs := by
  refine ⟨matches_of_captures?, fun h => ?_⟩
  obtain ⟨hs, captured⟩ := Option.isSome_iff_exists.1 (accepts_iff.2 ⟨gs, h⟩)
  rw [captured, unique hs gs (matches_of_captures? captured) h]

end Pattern

end DatasetCatalog
