import DatasetCatalog.Storage.Request

/-!
# Answers of a storage worker

A worker answers a request with one `Response`. `Response.ofResult` puts the result of an operation
into it: missing and already present storage have answers of their own, every other error is passed
on as text. `Response.result` takes the result out again on the other side, where an answer that
does not belong to the request is an error.
-/

namespace DatasetCatalog.Storage

/-- The answer of a worker. -/
inductive Response
  | created (spec : Specification)
  | done
  | presence (there : Bool)
  | notFound (name : String)
  | alreadyExists (name : String)
  | failed (message : String)

namespace Response

/-- The name of an answer. -/
def status : Response → String
  | created _ => "created"
  | done => "done"
  | presence _ => "exists"
  | notFound _ => "notFound"
  | alreadyExists _ => "alreadyExists"
  | failed _ => "failed"

/-- The members of an answer beside its name. -/
def members : Response → List (String × Json.Value)
  | created spec => [("spec", spec.toJson)]
  | done => []
  | presence there => [("exists", .bool there)]
  | notFound name | alreadyExists name => [("name", .string name)]
  | failed message => [("message", .string message)]

/-- The answer as JSON. -/
def toJson (r : Response) : Json.Value := .object (("status", .string r.status) :: r.members)

/-- An answer with one field. -/
def single {α : Type} (variant key : String) (inner : Json.Reader α) (blank : α) :
    Json.Record α where
  name := "struct variant OpResponse::" ++ variant
  fields := [.make key .required inner fun v _ => v]
  blank := blank

/-- The answer that has nothing to say. -/
def nothing : Json.Record Unit where
  name := "unit variant OpResponse::Done"
  fields := []
  blank := ()

/-- Reads an answer. -/
def reader : Json.Reader Response :=
  Json.Tagged.reader {
    name := "internally tagged enum OpResponse"
    tag := "status"
    variants := [
      ("created", .map created (single "Created" "spec" Specification.reader default).reader),
      ("done", .map (fun _ => done) nothing.reader),
      ("exists", .map presence (single "Exists" "exists" .bool false).reader),
      ("notFound", .map notFound (single "NotFound" "name" .string "").reader),
      ("alreadyExists", .map alreadyExists (single "AlreadyExists" "name" .string "").reader),
      ("failed", .map failed (single "Failed" "message" .string "").reader)] }

/-- The answer in a message about an answer that should not be there. -/
def describe : Response → String
  | created spec => "Created \x7b spec: " ++ spec.describe ++ " \x7d"
  | done => "Done"
  | presence there => "Exists \x7b exists: " ++ (if there then "true" else "false") ++ " \x7d"
  | notFound name => "NotFound \x7b name: " ++ Quoted.quote name ++ " \x7d"
  | alreadyExists name => "AlreadyExists \x7b name: " ++ Quoted.quote name ++ " \x7d"
  | failed message => "Failed \x7b message: " ++ Quoted.quote message ++ " \x7d"

/-- The answer that carries a successful result. -/
def ofAnswer : (r : Request) → r.Answer → Response
  | .create _, spec => created spec
  | .probe _, there => presence there
  | .drop _, _ | .truncate _, _ | .upgrade _, _ => done

/-- The answer that carries a result. -/
def ofResult (r : Request) : Result r → Response
  | .ok a => ofAnswer r a
  | .error (.notFound name) => notFound name
  | .error (.alreadyExists name) => alreadyExists name
  | .error e => failed e.message

/-- The successful result that an answer carries for a request, if it belongs to it. -/
def answer? : (r : Request) → Response → Option r.Answer
  | .create _, created spec => some spec
  | .probe _, presence there => some there
  | .drop _, done | .truncate _, done | .upgrade _, done => some ()
  | _, _ => none

/-- The result that an answer carries for a request. -/
def result (r : Request) : Response → Result r
  | failed message => .error (.execution r.operation r.target message)
  | notFound name => .error (.notFound name)
  | alreadyExists name => .error (.alreadyExists name)
  | other =>
    match answer? r other with
    | some a => .ok a
    | none =>
      .error (.protocol ("Unexpected response to " ++ r.operation ++ ": " ++ other.describe))

end Response

end DatasetCatalog.Storage
