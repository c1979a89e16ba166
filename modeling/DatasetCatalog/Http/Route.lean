import DatasetCatalog.Http.Message

/-!
# Routes

A route is what a path addresses. Paths match literally, segment by segment; a name or a method
takes one segment, which must not be empty and may be percent-encoded. The two collections can be
addressed with and without a slash at the end.
-/

namespace DatasetCatalog.Http

/-- A target taken apart. A fragment is no part of it. -/
structure Target where
  path : List Char
  query : List Char
  deriving DecidableEq, Repr

/-- Takes a target apart. -/
def Target.ofText (text : String) : Target :=
  let cs := text.toList.takeWhile (· ≠ '#')
  let (path, query) := cut '?' cs
  ⟨path, query⟩

/-- What a path addresses. Segments are still encoded. -/
inductive Route
  | datasets
  | dataset (name : List Char)
  /-- An admin operation on an instance. -/
  | admin (name method : List Char)
  /-- A data operation on an instance. -/
  | data (name method : List Char)
  /-- All instances, to be dropped. -/
  | reset
  | health
  | metrics
  deriving DecidableEq, Repr

namespace Route

/-- The segments of a path, which has to start with a slash. -/
def segments? (path : List Char) : Option (List (List Char)) :=
  match path with
  | '/' :: rest => some (splitOn '/' rest)
  | _ => none

/-- The route of segments. -/
def ofSegments? (segments : List (List Char)) : Option Route :=
  match segments.map String.ofList, segments with
  | ["health"], _ => some health
  | ["metrics"], _ => some metrics
  | ["data", "datasets"], _ | ["data", "datasets", ""], _ => some datasets
  | ["data", "unrecoverable", "datasets"], _ | ["data", "unrecoverable", "datasets", ""], _ =>
    some reset
  | ["data", "datasets", _], [_, _, name] => some (dataset name)
  | ["data", "datasets", _, "admin", _], [_, _, name, _, method] =>
    if name = [] ∨ method = [] then none else some (admin name method)
  | ["data", "datasets", _, "data", _], [_, _, name, _, method] =>
    if name = [] ∨ method = [] then none else some (data name method)
  | _, _ => none

/-- The route of a path. -/
def ofPath? (path : List Char) : Option Route := (segments? path).bind ofSegments?

/-- The methods that a route answers to. Whatever can be got can be asked for its head. -/
def methods : Route → List String
  | datasets | health | metrics => ["GET", "HEAD"]
  | dataset _ => ["GET", "HEAD", "PUT", "DELETE"]
  | admin .. | data .. => ["POST"]
  | reset => ["DELETE"]

end Route

/-- The text of a segment; `key` names it in the refusal. -/
def segmentText (key : String) (segment : List Char) : Except Response String :=
  match Utf8.decode? (percentDecode (Utf8.encodeChars segment)) with
  | some text => .ok text
  | none => .error (.plain 400 ("Invalid URL: Invalid UTF-8 in `" ++ key ++ "`"))

end DatasetCatalog.Http
