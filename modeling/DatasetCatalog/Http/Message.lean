import DatasetCatalog.Http.Encoding
import DatasetCatalog.Http.MediaType
import DatasetCatalog.Json.Render
import DatasetCatalog.Lifecycle.Error
import DatasetCatalog.Payload

/-!
# Requests and responses

What the service takes in and gives out over HTTP, and the form that errors have there: the status
follows from the group of the error, and the body holds its code and its words.
-/

namespace DatasetCatalog.Http

/-- A request. -/
structure Request where
  method : String
  /-- The target with path and query, as it stands in the request line. -/
  target : String
  contentType : Option String := none
  body : List UInt8 := []
  deriving Repr

/-- A response. -/
structure Response where
  status : Nat
  contentType : Option String := none
  body : List UInt8 := []
  deriving DecidableEq, Repr

namespace Response

/-- A response without body. -/
def empty (status : Nat) : Response := ⟨status, none, []⟩

/-- A response with a JSON body. -/
def json (status : Nat) (v : Json.Value) : Response :=
  ⟨status, some "application/json", Utf8.encode v.compact⟩

/-- A response with a text for people. -/
def plain (status : Nat) (text : String) : Response :=
  ⟨status, some "text/plain; charset=utf-8", Utf8.encode text⟩

/-- The response to a request that only asks for the head. -/
def withoutBody (r : Response) : Response := { r with body := [] }

end Response

/-- An error that a client gets to see. -/
inductive ApiError
  | catalog (e : CatalogError)
  | notFound (name : String)
  | badRequest (reason : String)
  | notImplemented (reason : String)
  deriving DecidableEq, Repr

namespace ApiError

/-- The status of a group of errors. -/
def statusOf : ErrorKind → Nat
  | .validation => 400
  | .conflict => 409
  | .notFound => 404
  | .forbidden => 403
  | .isolationExecution | .bestEffort | .partialFailure | .internal => 500

/-- The status of an error. -/
def status : ApiError → Nat
  | catalog e => statusOf e.kind
  | notFound _ => 404
  | badRequest _ => 400
  | notImplemented _ => 501

/-- The code of an error. -/
def code : ApiError → String
  | catalog e => e.code
  | notFound _ => "INSTANCE_NOT_FOUND"
  | badRequest _ => "BAD_REQUEST"
  | notImplemented _ => "NOT_SUPPORTED"

/-- The error in words. -/
def message : ApiError → String
  | catalog e => e.message
  | notFound name => (CatalogError.instanceNotFound name).message
  | badRequest reason | notImplemented reason => reason

/-- The response that tells a client about an error. -/
def response (e : ApiError) : Response :=
  .json e.status (ErrorBody.toJson ⟨e.code, e.message⟩)

end ApiError

end DatasetCatalog.Http
