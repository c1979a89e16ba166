import DatasetCatalog.CommandLine.Arguments
import DatasetCatalog.Storage.Worker

/-!
# The worker command

The worker carries out the one request that stands in its input, on the data directory that its
arguments name, and prints the answer. It fails only if its input is no request.
-/

namespace DatasetCatalog.CommandLine.OpWorker

/-- The arguments of the command. -/
def usage : Usage where
  command := "datafabric-op-worker"
  version := "0.5.1"
  summary := "Executes one dataset operation read from stdin"
  arguments := [
    { name := "data-dir", kind := .path, placeholder := some "DATA_DIR",
      environmentName := some "DATAFABRIC_DATA_DIR", required := true,
      summary := "Directory holding dataset storage" },
    { name := "log-level", kind := .text, placeholder := some "LOG_LEVEL",
      summary := "Log level for stderr output", fallback := some "warn" }]

/-- The data directory that a command line names. -/
def dataDirectory (line : List String) (environment : StringMap String) :
    Except Halt Disk.Path := do
  let vs ← usage.read line environment
  return ⟨(StringMap.find? "data-dir" vs).getD ""⟩

/-- Runs the command. -/
def run (line : List String) (environment : StringMap String) (input : List UInt8) (d : Disk) :
    Outcome × Disk :=
  match dataDirectory line environment with
  | .error h => (.ofHalt usage environment h, d)
  | .ok root =>
    match Storage.Worker.serve { root } input d with
    | (.ok bytes, d) => (.success (Utf8.decodeLossy bytes), d)
    | (.error e, d) => (.failure "Failed to decode op request" [e.fault.message], d)

/-- Runs the command as a process of its own. -/
def process (line : List String) (environment : StringMap String) (input : List UInt8) (d : Disk) :
    Storage.Worker.Outcome × Disk :=
  let (outcome, d) := run line environment input d
  (.ended (.code outcome.code) (Utf8.encode outcome.output) (Utf8.encode outcome.report), d)

end DatasetCatalog.CommandLine.OpWorker
