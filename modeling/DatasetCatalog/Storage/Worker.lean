import DatasetCatalog.Storage.Local
import DatasetCatalog.Storage.Response
import DatasetCatalog.Text.Blank

/-!
# Storage behind a worker process

Untrusted code can be kept in a process of its own: one request goes to its input, one answer comes
from its output, and the process ends. This module has both ends of it.

* `Worker.serve` is what the process does with its input: it carries the request out on a data
  directory and writes the answer.
* `Worker.result` is what the caller makes of a process that has ended. A process that fails or
  writes something else fails its own request and nothing more.
-/

namespace DatasetCatalog.Storage.Worker

/-- The bytes that a request is sent as. -/
def input (r : Request) : List UInt8 := Utf8.encode r.toJson.compact

/-- The bytes that an answer is sent as. -/
def output (r : Response) : List UInt8 := Utf8.encode r.toJson.compact

/-- Carries out the request that stands in the input and answers it. An input that is no request is
refused before anything is done. -/
def serve (s : Local) (bytes : List UInt8) (d : Disk) : Except Json.Error (List UInt8) × Disk :=
  match Json.decode Request.reader bytes with
  | .error e => (.error e, d)
  | .ok r =>
    let (result, d) := s.run r d
    (.ok (output (Response.ofResult r result)), d)

/-- How a process ended. -/
inductive Exit
  | code (n : Nat)
  /-- The system ended it. -/
  | signal (n : Nat) (name : String)
  deriving DecidableEq, Repr

/-- The end of a process in words. -/
def Exit.text : Exit → String
  | code n => "exit status: " ++ Decimal.text n
  | signal n name => "signal: " ++ Decimal.text n ++ " (" ++ name ++ ")"

/-- A process that has ended, or that could not be started or spoken to. -/
inductive Outcome
  | notStarted (e : FileError)
  | ended (exit : Exit) (stdout stderr : List UInt8)
  deriving DecidableEq, Repr

/-- The result of a request in view of what became of its process. -/
def result (r : Request) : Outcome → Result r
  | .notStarted e => .error (.ofFile e)
  | .ended exit stdout stderr =>
    if exit = .code 0 then
      match Json.decode Response.reader stdout with
      | .ok response => response.result r
      | .error e =>
        .error (.protocol ("Malformed " ++ r.operation ++ " response for dataset '" ++ r.target ++
          "': " ++ e.fault.message))
    else
      .error (.execution r.operation r.target ("worker exited with " ++ exit.text ++ ": " ++
        Blank.trim (Utf8.decodeLossy stderr)))

end DatasetCatalog.Storage.Worker
