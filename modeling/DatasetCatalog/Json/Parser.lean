import DatasetCatalog.Json.Token

/-!
# From tokens to documents

The tokens of a text are taken one at a time by a machine whose state says what may come next and
whose stack holds the containers that are still open. Nothing is ever rejected: a token that must
not stand where it stands becomes part of the document as a fault, and the end of the tokens closes
every open container with the fault that its state calls for.

`parse` is the whole way from bytes to a `Text`: the document, and whether anything follows it.
-/

namespace DatasetCatalog.Json

/-- A container that is still open, with its parts so far in reverse order. -/
inductive Frame
  | items (before : List Doc)
  /-- An object, and the key of the member that is being read. -/
  | members (before : List (Doc × Doc)) (key : Doc)

/-- What may come next. -/
inductive State
  /-- A value. -/
  | value
  /-- The first item of a list or its end. -/
  | firstItem
  /-- Another item of a list. -/
  | nextItem
  /-- The first key of an object or its end. -/
  | firstKey
  /-- Another key of an object. -/
  | nextKey
  /-- The colon after a key. -/
  | colon
  /-- Whatever may follow a complete value. -/
  | after (d : Doc)
  /-- Nothing: the text is complete and more tokens followed. -/
  | trailing (d : Doc)

/-- A state and the open containers, innermost first. -/
structure Machine where
  state : State
  frames : List Frame

namespace Machine

/-- The machine before the first token. -/
def start : Machine := ⟨.value, []⟩

/-- Takes the token that starts a value. -/
def beginValue (frames : List Frame) : Token → Machine
  | .leaf d => ⟨.after d, frames⟩
  | .openBracket => ⟨.firstItem, .items [] :: frames⟩
  | .openBrace => ⟨.firstKey, .members [] .null :: frames⟩
  | _ => ⟨.after (.broken .expectedValue), frames⟩

/-- The document that a token is where a key is wanted. -/
def keyDoc : Token → Doc
  | .leaf d => d
  | .openBracket => .array [] .ended
  | .openBrace => .object [] .ended
  | _ => .broken .expectedValue

/-- Takes the token that is the key of a member. -/
def beginKey (before : List (Doc × Doc)) (frames : List Frame) (t : Token) : Machine :=
  ⟨.colon, .members before (keyDoc t) :: frames⟩

/-- Closes the innermost container of a machine whose value `d` is complete. -/
def closeAfter (d : Doc) (ending : Ending) : Frame → Doc
  | .items before => .array (d :: before).reverse ending
  | .members before key => .object ((key, d) :: before).reverse ending

/-- Closes a container in which no value is being read. -/
def closeEmpty (ending : Ending) : Frame → Doc
  | .items before => .array before.reverse ending
  | .members before _ => .object before.reverse ending

/-- Whether a token is the bracket that closes a container. -/
def closes : Frame → Token → Bool
  | .items _, .closeBracket => true
  | .members .., .closeBrace => true
  | _, _ => false

/-- Takes the token after a complete value. -/
def stepAfter (d : Doc) (t : Token) : List Frame → Machine
  | [] => ⟨.trailing d, []⟩
  | f :: frames =>
    if closes f t then ⟨.after (closeAfter d .closed f), frames⟩
    else
      match t, f with
      | .comma, .items before => ⟨.nextItem, .items (d :: before) :: frames⟩
      | .comma, .members before key => ⟨.nextKey, .members ((key, d) :: before) key :: frames⟩
      | _, _ => ⟨.after (closeAfter d .unseparated f), frames⟩

/-- Takes one token. -/
def step (m : Machine) (t : Token) : Machine :=
  match m.state, m.frames with
  | .value, frames => beginValue frames t
  | .firstItem, f :: frames =>
    if closes f t then ⟨.after (closeEmpty .closed f), frames⟩ else beginValue (f :: frames) t
  | .nextItem, f :: frames =>
    if closes f t then ⟨.after (closeEmpty .commaThenClose f), frames⟩
    else beginValue (f :: frames) t
  | .firstKey, .members before key :: frames =>
    if closes (.members before key) t then
      ⟨.after (closeEmpty .closed (.members before key)), frames⟩
    else beginKey before frames t
  | .nextKey, .members before key :: frames =>
    if closes (.members before key) t then
      ⟨.after (closeEmpty .commaThenClose (.members before key)), frames⟩
    else beginKey before frames t
  | .colon, f :: frames =>
    match t with
    | .colon => ⟨.value, f :: frames⟩
    | _ => ⟨.after (.broken .expectedColon), f :: frames⟩
  | .after d, frames => stepAfter d t frames
  -- a complete text, as the other states do not occur outside of containers
  | _, _ => m

/-- Closes all open containers around a document at the end of the tokens. -/
def wind (d : Doc) : List Frame → Doc
  | [] => d
  | f :: frames => wind (closeAfter d .ended f) frames

/-- The document at the end of the tokens. -/
def finish (m : Machine) : Doc :=
  match m.state, m.frames with
  | .after d, frames => wind d frames
  | .trailing d, _ => d
  | .firstItem, f :: frames | .firstKey, f :: frames => wind (closeEmpty .ended f) frames
  | .nextItem, f :: frames | .nextKey, f :: frames => wind (closeEmpty .commaThenEnd f) frames
  | .colon, frames => wind (.broken .endInObject) frames
  -- a value was expected
  | _, frames => wind .missing frames

/-- Whether tokens followed the complete document. -/
def hasTrailing (m : Machine) : Bool :=
  match m.state with
  | .trailing _ => true
  | _ => false

end Machine

/-- A document, and whether anything follows it in its text. -/
structure Text where
  doc : Doc
  trailing : Bool

/-- The document of a text. -/
def parse (bytes : List UInt8) : Text :=
  let m := (tokens bytes).foldl Machine.step .start
  ⟨m.finish, m.hasTrailing⟩

end DatasetCatalog.Json
