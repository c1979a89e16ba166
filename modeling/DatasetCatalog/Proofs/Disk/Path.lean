import DatasetCatalog.Disk.Path

/-!
# Joining paths

A `Component` is a text that is a single name in a path. Joining one to a path adds one name at the
end and changes nothing else, however the path is written (`Path.names_join`). Safe names are
components, and so are the names of the files that the stores themselves use.
-/

namespace DatasetCatalog.Disk

/-- A text that is one name of a path, and neither `.` nor `..`. -/
structure Component (name : String) : Prop where
  nonempty : name.toList ≠ []
  noSlash : '/' ∉ name.toList
  notHere : name.toList ≠ ['.']
  notUp : name ≠ ".."

instance (name : String) : Decidable (Component name) :=
  decidable_of_iff (name.toList ≠ [] ∧ '/' ∉ name.toList ∧ name.toList ≠ ['.'] ∧ name ≠ "..")
    ⟨fun ⟨h₁, h₂, h₃, h₄⟩ => ⟨h₁, h₂, h₃, h₄⟩, fun ⟨h₁, h₂, h₃, h₄⟩ => ⟨h₁, h₂, h₃, h₄⟩⟩

/-- A safe name is a component. -/
theorem component_of_isSafeName {name : String} (h : isSafeName name = true) : Component name := by
  simp only [isSafeName, Bool.and_eq_true, List.all_eq_true, decide_eq_true_eq,
    Bool.not_eq_true', List.isEmpty_eq_false_iff, ne_eq] at h
  obtain ⟨⟨nonempty, visible⟩, characters⟩ := h
  have notDot : ∀ cs, name.toList ≠ '.' :: cs := by
    intro cs heq
    rw [heq] at visible
    exact visible rfl
  refine ⟨nonempty, ?_, notDot [], ?_⟩
  · intro hslash
    exact (characters '/' hslash).1.1 rfl
  · rintro rfl
    exact notDot ['.'] rfl

/-- A safe name stays safe with an ending. -/
theorem isSafeName_append {name ending : String} (h : isSafeName name = true)
    (hending : (ending.toList.all fun c => c ≠ '/' && c ≠ '\\' && c.toNat ≠ 0) = true) :
    isSafeName (name ++ ending) = true := by
  simp only [isSafeName, Bool.and_eq_true, List.all_eq_true, decide_eq_true_eq, Bool.not_eq_true',
    List.isEmpty_eq_false_iff, ne_eq] at h hending ⊢
  obtain ⟨⟨nonempty, visible⟩, characters⟩ := h
  rw [String.toList_append]
  refine ⟨⟨by simp [nonempty], ?_⟩, fun c hc => ?_⟩
  · obtain ⟨first, rest, hname⟩ := List.exists_cons_of_ne_nil nonempty
    rw [hname] at visible ⊢
    exact visible
  · rcases List.mem_append.1 hc with hname | hend
    · exact characters c hname
    · exact hending c hend

theorem Component.head_ne {name : String} (h : Component name) : name.toList.head? ≠ some '/' := by
  intro hhead
  exact h.noSlash (List.mem_of_mem_head? hhead)

/-! ### The names of a path -/

theorem splitSlashes_ne_nil (cs : List Char) : splitSlashes cs ≠ [] := by
  cases cs with
  | nil => simp [splitSlashes]
  | cons c cs =>
    rw [splitSlashes]
    split
    · exact List.cons_ne_nil _ _
    · split <;> exact List.cons_ne_nil _ _

/-- Before and after a slash the names are found independently. -/
theorem splitSlashes_append (as bs : List Char) :
    splitSlashes (as ++ '/' :: bs) = splitSlashes as ++ splitSlashes bs := by
  induction as with
  | nil => rfl
  | cons c as ih =>
    rw [List.cons_append, splitSlashes, splitSlashes]
    by_cases slash : c = '/'
    · rw [if_pos slash, if_pos slash, ih, List.cons_append]
    · rw [if_neg slash, if_neg slash, ih]
      cases hsplit : splitSlashes as with
      | nil => exact absurd hsplit (splitSlashes_ne_nil as)
      | cons s rest => rfl

theorem splitSlashes_of_not_mem {cs : List Char} (h : '/' ∉ cs) : splitSlashes cs = [cs] := by
  induction cs with
  | nil => rfl
  | cons c cs ih =>
    have hc : c ≠ '/' := by
      rintro rfl
      exact h List.mem_cons_self
    rw [splitSlashes, if_neg hc, ih fun hin => h (List.mem_cons_of_mem _ hin)]

namespace Path

/-- Whether a piece between slashes is a name. -/
abbrev isName (s : List Char) : Bool := s ≠ [] && s ≠ ['.']

theorem names_of_component {name : String} (h : Component name) : (Path.mk name).names = [name] := by
  have keep : isName name.toList = true := by simp [isName, h.nonempty, h.notHere]
  rw [names, splitSlashes_of_not_mem h.noSlash, List.filter_cons_of_pos keep]
  exact congrArg (fun n => [n]) String.ofList_toList

/-- The text of a joined path, up to a slash that the path may end with already. -/
theorem join_text {name : String} (h : Component name) (p : Path) :
    (p.join name).text.toList = name.toList ∧ p.text.toList = [] ∨
      (∃ before, p.text.toList = before ++ ['/'] ∧
        (p.join name).text.toList = before ++ '/' :: name.toList) ∨
      (p.join name).text.toList = p.text.toList ++ '/' :: name.toList ∧ p.text.toList ≠ [] := by
  rw [join, if_neg h.head_ne]
  by_cases nothing : p.text.toList = []
  · rw [if_pos (.inl nothing)]
    refine .inl ⟨?_, nothing⟩
    rw [String.toList_append, nothing, List.nil_append]
  · by_cases slash : p.text.toList.getLast? = some '/'
    · rw [if_pos (.inr slash)]
      obtain ⟨before, heq⟩ := List.getLast?_eq_some_iff.1 slash
      refine .inr (.inl ⟨before, heq, ?_⟩)
      rw [String.toList_append, heq, List.append_assoc]
      rfl
    · rw [if_neg (by rintro (h | h) <;> contradiction)]
      refine .inr (.inr ⟨?_, nothing⟩)
      rw [String.toList_append, String.toList_append, List.append_assoc]
      rfl

/-- Joining a component adds it to the names. -/
theorem names_join {name : String} (h : Component name) (p : Path) :
    (p.join name).names = p.names ++ [name] := by
  have last : ((splitSlashes name.toList).filter isName).map String.ofList = [name] :=
    names_of_component h
  rcases join_text h p with ⟨text, nothing⟩ | ⟨before, heq, text⟩ | ⟨text, -⟩
  · rw [names, names, text, nothing]
    exact last
  · rw [names, names, text, heq, splitSlashes_append, splitSlashes_append, List.filter_append,
      List.filter_append, List.map_append, List.map_append, last]
    have nothing : ((splitSlashes []).filter isName).map String.ofList = [] := rfl
    rw [nothing, List.append_nil]
  · rw [names, names, text, splitSlashes_append, List.filter_append, List.map_append, last]

theorem isAbsolute_join {name : String} (h : Component name) (p : Path) :
    (p.join name).isAbsolute = p.isAbsolute := by
  rcases join_text h p with ⟨text, nothing⟩ | ⟨before, heq, text⟩ | ⟨text, something⟩
  · have head := h.head_ne
    rw [isAbsolute, isAbsolute, text, nothing]
    simp [head]
  · rw [isAbsolute, isAbsolute, text, heq]
    cases before <;> rfl
  · rw [isAbsolute, isAbsolute, text]
    cases hp : p.text.toList with
    | nil => exact absurd hp something
    | cons c cs => rfl

/-- A joined path ends in the component, and so not in `.`. -/
theorem endsHere_join {name : String} (h : Component name) (p : Path) :
    (p.join name).endsHere = false := by
  have last (before : List (List Char)) :
      ((before ++ [name.toList]).filter (· ≠ [])).getLast? = some name.toList := by
    simp [List.filter_append, h.nonempty]
  have notHere : (some name.toList == some ['.']) = false := by simp [h.notHere]
  have alone := splitSlashes_of_not_mem h.noSlash
  rcases join_text h p with ⟨text, -⟩ | ⟨before, -, text⟩ | ⟨text, -⟩
  · rw [endsHere, text, alone, ← List.nil_append [name.toList], last, notHere]
  · rw [endsHere, text, splitSlashes_append, alone, last, notHere]
  · rw [endsHere, text, splitSlashes_append, alone, last, notHere]

/-- Whether a path holds the character that ends paths. -/
abbrev hasNul (p : Path) : Bool := p.text.toList.any fun c => c.toNat = 0

end Path

end DatasetCatalog.Disk
