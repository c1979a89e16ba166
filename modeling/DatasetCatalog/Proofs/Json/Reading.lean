import DatasetCatalog.Json.Parser
import DatasetCatalog.Proofs.Json.Layout

/-!
# The document of a written value

The machine that takes the tokens of a value ends with the document of the value: by induction on
the value, whatever containers are open around it. With the layouts this gives the two main results:
a value that was written, in either layout, is parsed to its document, and nothing follows it
(`parse_compact`, `parse_indented`).
-/

namespace DatasetCatalog.Json

namespace Token

/-- Whether a value can start with the token. -/
def Starts : Token → Prop
  | leaf _ | openBracket | openBrace => True
  | _ => False

end Token

namespace Machine

variable {frames : List Frame} {t : Token}

theorem step_firstItem {before : List Doc} (h : t.Starts) :
    step ⟨.firstItem, .items before :: frames⟩ t = beginValue (.items before :: frames) t := by
  cases t <;> first | rfl | exact h.elim

theorem step_nextItem {before : List Doc} (h : t.Starts) :
    step ⟨.nextItem, .items before :: frames⟩ t = beginValue (.items before :: frames) t := by
  cases t <;> first | rfl | exact h.elim

/-- Tokens that make up a value take the machine from where a value may come to after it. -/
structure Reads (ts : List Token) (d : Doc) : Prop where
  fromValue : ∀ frames, ts.foldl step ⟨.value, frames⟩ = ⟨.after d, frames⟩
  fromFirst : ∀ before frames, ts.foldl step ⟨.firstItem, .items before :: frames⟩ =
    ⟨.after d, .items before :: frames⟩
  fromNext : ∀ before frames, ts.foldl step ⟨.nextItem, .items before :: frames⟩ =
    ⟨.after d, .items before :: frames⟩

theorem Reads.of_cons {t : Token} {ts : List Token} {d : Doc} (h : t.Starts)
    (rest : ∀ frames, ts.foldl step (beginValue frames t) = ⟨.after d, frames⟩) :
    Reads (t :: ts) d := by
  constructor
  · intro frames
    exact rest frames
  · intro before frames
    rw [List.foldl_cons, step_firstItem h, rest]
  · intro before frames
    rw [List.foldl_cons, step_nextItem h, rest]

theorem Reads.leaf (d : Doc) : Reads [.leaf d] d := .of_cons trivial fun _ => rfl

/-! ### Containers -/

/-- Whether another part of a container may come in this state, or its first one. -/
inductive AtItem : State → Prop
  | first : AtItem .firstItem
  | next : AtItem .nextItem

inductive AtKey : State → Prop
  | first : AtKey .firstKey
  | next : AtKey .nextKey

theorem Reads.atItem {ts : List Token} {d : Doc} (h : Reads ts d) {state : State} (at_ : AtItem state)
    (before : List Doc) (frames : List Frame) :
    ts.foldl step ⟨state, .items before :: frames⟩ = ⟨.after d, .items before :: frames⟩ := by
  cases at_ with
  | first => exact h.fromFirst before frames
  | next => exact h.fromNext before frames

/-- A key and its colon. -/
theorem step_key {state : State} (at_ : AtKey state) (before : List (Doc × Doc)) (key d : Doc)
    (frames : List Frame) :
    step (step ⟨state, .members before key :: frames⟩ (.leaf d)) .colon =
      ⟨.value, .members before d :: frames⟩ := by
  cases at_ <;> rfl

end Machine

open Machine

mutual

/-- The tokens of a value make up its document. -/
theorem reads_tokens : (v : Value) → Reads v.tokens (Doc.ofValue v)
  | .null => .leaf _
  | .bool _ => .leaf _
  | .number _ => .leaf _
  | .string _ => .leaf _
  | .array [] => .of_cons trivial fun _ => rfl
  | .array (v :: rest) => .of_cons trivial fun frames => by
    rw [beginValue, foldl_items (v :: rest) (List.cons_ne_nil _ _) .first [] frames]
    rfl
  | .object [] => .of_cons trivial fun _ => rfl
  | .object (m :: rest) => .of_cons trivial fun frames => by
    rw [beginValue, foldl_members (m :: rest) (List.cons_ne_nil _ _) .first [] .null frames]
    rfl

/-- Items and the bracket after them close the list. -/
theorem foldl_items : (vs : List Value) → vs ≠ [] → {state : State} → AtItem state →
    (before : List Doc) → (frames : List Frame) →
    (Value.itemTokens vs ++ [Token.closeBracket]).foldl step ⟨state, .items before :: frames⟩ =
      ⟨.after (.array (before.reverse ++ Doc.ofItems vs) .closed), frames⟩
  | [], h, _, _, _, _ => absurd rfl h
  | [v], _, _, at_, before, frames => by
    rw [Value.itemTokens, List.foldl_append, (reads_tokens v).atItem at_]
    show Machine.mk (.after (.array (Doc.ofValue v :: before).reverse .closed)) frames = _
    rw [List.reverse_cons]
    rfl
  | v :: w :: rest, _, _, at_, before, frames => by
    have more : w :: rest ≠ [] := List.cons_ne_nil _ _
    have tail := foldl_items (w :: rest) more .next (Doc.ofValue v :: before) frames
    rw [Value.itemTokens_cons v more, List.append_assoc, List.foldl_append,
      (reads_tokens v).atItem at_]
    refine tail.trans ?_
    rw [List.reverse_cons, List.append_assoc]
    rfl

/-- Members and the brace after them close the object. -/
theorem foldl_members : (ms : List (String × Value)) → ms ≠ [] → {state : State} → AtKey state →
    (before : List (Doc × Doc)) → (key : Doc) → (frames : List Frame) →
    (Value.memberTokens ms ++ [Token.closeBrace]).foldl step
        ⟨state, .members before key :: frames⟩ =
      ⟨.after (.object (before.reverse ++ Doc.ofMembers ms) .closed), frames⟩
  | [], h, _, _, _, _, _ => absurd rfl h
  | [(k, v)], _, _, at_, before, key, frames => by
    rw [Value.memberTokens, List.cons_append, List.cons_append, List.foldl_cons, List.foldl_cons,
      Value.stringToken, step_key at_, List.foldl_append, (reads_tokens v).fromValue]
    show Machine.mk (.after (.object ((_, Doc.ofValue v) :: before).reverse .closed)) frames = _
    rw [List.reverse_cons]
    rfl
  | (k, v) :: m :: rest, _, _, at_, before, key, frames => by
    have more : m :: rest ≠ [] := List.cons_ne_nil _ _
    have tail := foldl_members (m :: rest) more .next
      ((.string (.ok k) none, Doc.ofValue v) :: before) (.string (.ok k) none) frames
    rw [Value.memberTokens_cons k v more, List.cons_append, List.cons_append, List.append_assoc,
      List.foldl_cons, List.foldl_cons, Value.stringToken, step_key at_, List.foldl_append,
      (reads_tokens v).fromValue]
    refine tail.trans ?_
    rw [List.reverse_cons, List.append_assoc]
    rfl

end

/-! ### Texts -/

/-- A text with the tokens of a value is parsed to the document of the value. -/
theorem parse_of_lays {cs : List Char} {v : Value} (h : Lays cs v.tokens) :
    parse (Utf8.encodeChars cs) = ⟨Doc.ofValue v, false⟩ := by
  have cut : tokens (Utf8.encodeChars cs) = v.tokens := by
    have := h []
    rw [List.append_nil, tokens, List.append_nil] at this
    exact this
  rw [parse, cut, start, (reads_tokens v).fromValue]
  rfl

/-- A value in the compact layout is parsed to its document. -/
theorem parse_compact {v : Value} (h : v.Numberless) :
    parse (Utf8.encode v.compact) = ⟨Doc.ofValue v, false⟩ := by
  rw [Utf8.encode, Value.compact, String.toList_ofList]
  exact parse_of_lays (lays_compact v h)

/-- A value in the indented layout is parsed to its document. -/
theorem parse_indented {v : Value} (h : v.Numberless) :
    parse (Utf8.encode v.indented) = ⟨Doc.ofValue v, false⟩ := by
  rw [Utf8.encode, Value.indented, String.toList_ofList]
  exact parse_of_lays (lays_indented 0 v h)

end DatasetCatalog.Json
