import DatasetCatalog.Http.Route
import DatasetCatalog.Lifecycle.Admin
import DatasetCatalog.Lifecycle.Create
import DatasetCatalog.Lifecycle.Drop
import DatasetCatalog.Lifecycle.Inquiry

/-!
# The HTTP service

`Service.handle` is the program that a request runs. What a path does not address is not found, and
a method that the route does not know is refused; then the names are decoded, then the body is read,
and only then the catalog is called.
-/

namespace DatasetCatalog.Http

/-- The service: its settings, and the text of the metrics if they are shown. -/
structure Service where
  settings : Settings
  metrics : Option String := none

namespace Service

/-- The values of a name in a query. -/
def valuesOf (pairs : List (String × String)) (name : String) : List String :=
  pairs.filterMap fun p => if p.1 = name then some p.2 else none

/-- What a query asks a listing to show. A name may be repeated, and `true` wins. -/
def listOptions (pairs : List (String × String)) : Lifecycle.ListOptions :=
  let explore := valuesOf pairs "exploreEnabled"
  { withMeta := (valuesOf pairs "meta").contains "true"
    explorable :=
      if explore.contains "true" then some true
      else if explore.contains "false" then some false
      else none }

/-- The response to a call of the catalog. -/
def respond {α : Type} (step : Lifecycle.Step α) (ok : α → Response) : Program Response := do
  match ← step.run with
  | .ok a => return ok a
  | .error e => return (ApiError.catalog e).response

/-- Whether a request says that its body is JSON. -/
def hasJsonBody (r : Request) : Bool :=
  match r.contentType.bind MediaType.parse? with
  | some m => m.isJson
  | none => false

/-- The bytes that a body may have. -/
def bodyLimit : Nat := 2097152

/-- What the body of a create asks for, or why it cannot be understood. A body is taken in whole
before it is decoded, and one that is too long is not taken in. -/
def configuration (r : Request) : Except String InstanceConfiguration :=
  if hasJsonBody r then
    if bodyLimit < r.body.length then
      .error "Failed to buffer the request body: length limit exceeded"
    else
      match Json.decode InstanceConfiguration.record.reader r.body with
      | .ok c => .ok c
      | .error e =>
        match e.fault.kind with
        | .content =>
          .error ("Failed to deserialize the JSON body into the target type: " ++ e.locatedMessage)
        | _ => .error ("Failed to parse the request body as JSON: " ++ e.locatedMessage)
  else .error "Expected request with `Content-Type: application/json`"

/-- Lists instances. -/
def listDatasets (query : List Char) : Program Response :=
  respond (Lifecycle.list (listOptions (formPairs query))) fun entries =>
    .json 200 (.array (entries.map Listing.toJson))

/-- Shows an instance. -/
def getDataset (s : Service) (name : String) : Program Response :=
  respond (Lifecycle.get s.settings name) fun
    | some m => .json 200 m.toJson
    | none => (ApiError.notFound name).response

/-- Creates an instance. -/
def createDataset (s : Service) (name : String) (r : Request) : Program Response :=
  match configuration r with
  | .ok c => respond (Lifecycle.create s.settings name c) fun spec => .json 200 spec.toJson
  | .error reason =>
    return (ApiError.badRequest ("Invalid creation properties for dataset '" ++ name ++ "': " ++
      reason)).response

/-- Drops an instance. -/
def dropDataset (s : Service) (name : String) : Program Response :=
  respond (Lifecycle.dropInstance s.settings name) fun _ => .empty 200

/-- Drops all instances. -/
def dropAllDatasets (s : Service) : Program Response :=
  respond (Lifecycle.dropAll s.settings) fun report => .json 200 report.toJson

/-- Runs an admin operation. -/
def adminOperation (s : Service) (name method : String) : Program Response :=
  respond (Lifecycle.admin s.settings name method) fun answer => .json 200 answer.toJson

/-- Refuses a data operation; there are none. -/
def dataOperation (name method : String) : Response :=
  (ApiError.notImplemented ("Data operation '" ++ method ++ "' on dataset '" ++ name ++
    "' is not supported")).response

/-- Says that the service is running. -/
def health : Response := .json 200 (.object [("status", .string "ok")])

/-- Shows the metrics. -/
def showMetrics (s : Service) : Response :=
  match s.metrics with
  | some text => .plain 200 text
  | none => .empty 404

/-- Goes on with a decoded name. -/
def withName (name : List Char) (next : String → Program Response) : Program Response :=
  match segmentText "name" name with
  | .ok name => next name
  | .error response => return response

/-- Goes on with a decoded name and a decoded method. -/
def withNameAndMethod (name method : List Char) (next : String → String → Program Response) :
    Program Response :=
  withName name fun name =>
    match segmentText "method" method with
    | .ok method => next name method
    | .error response => return response

/-- Answers a request to a route that knows its method. -/
def serve (s : Service) (r : Request) (query : List Char) : Route → Program Response
  | .datasets => listDatasets query
  | .dataset name =>
    withName name fun name =>
      if r.method = "PUT" then s.createDataset name r
      else if r.method = "DELETE" then s.dropDataset name
      else s.getDataset name
  | .admin name method => withNameAndMethod name method s.adminOperation
  | .data name method =>
    withNameAndMethod name method fun name method => return dataOperation name method
  | .reset => s.dropAllDatasets
  | .health => return health
  | .metrics => return s.showMetrics

/-- Answers a request. -/
def handle (s : Service) (r : Request) : Program Response := do
  let target := Target.ofText r.target
  match Route.ofPath? target.path with
  | none => return .empty 404
  | some route =>
    if route.methods.contains r.method then
      let response ← s.serve r target.query route
      return if r.method = "HEAD" then response.withoutBody else response
    else return .empty 405

end Service

end DatasetCatalog.Http
