import DatasetCatalog.Storage.Scripted
import DatasetCatalog.Storage.Worker

/-!
# Where storage is

A deployment has its storage in memory, in a data directory that it works on itself, or behind a
worker command that is started for every request. `Backend.perform` carries a request out at once;
a script that lets requests in memory wait is not followed here.

Which programs there are to start, and what they do, is a matter of the `Host`. A worker command can
name any of them.
-/

namespace DatasetCatalog.Storage

/-- What a program makes of its arguments, its environment, its input and the disk: how it ends, and what
it leaves of the disk. -/
abbrev Executable :=
  List String → StringMap String → List UInt8 → Disk → Worker.Outcome × Disk

/-- The system that a service runs on. -/
structure Host where
  /-- What starting a program by a name or a path comes to. By default there is none. -/
  programs : String → Executable := fun _ _ _ _ d => (.notStarted .notFound, d)
  /-- The environment of the service. The programs that it starts inherit it. -/
  environment : StringMap String := StringMap.empty

/-- A command that serves a request. -/
structure WorkerCommand where
  program : String
  arguments : List String
  deriving DecidableEq, Repr

namespace WorkerCommand

/-- Starts the command for a request and waits for its end. -/
def start (c : WorkerCommand) (host : Host) (r : Request) (d : Disk) : Worker.Outcome × Disk :=
  host.programs c.program c.arguments host.environment (Worker.input r) d

/-- Carries a request out. -/
def run (c : WorkerCommand) (host : Host) (r : Request) (d : Disk) : Result r × Disk :=
  let (outcome, d) := c.start host r d
  (Worker.result r outcome, d)

end WorkerCommand

/-- Where storage is. -/
inductive Backend
  | memory (s : Scripted)
  | directory (l : Local)
  | process (host : Host) (c : WorkerCommand)

namespace Backend

/-- Storage and the disk it may use. -/
abbrev Site := Backend × Disk

/-- Carries a request out at once. -/
def perform (r : Request) : Site → Result r × Site
  | (memory s, d) =>
    match s.enter r with
    | (.error e, s) => (.error e, memory s, d)
    | (.ok _, s) =>
      let (result, s) := s.finish r
      (result, memory s, d)
  | (directory l, d) =>
    let (result, d) := l.run r d
    (result, directory l, d)
  | (process host c, d) =>
    let (result, d) := c.run host r d
    (result, process host c, d)

end Backend

end DatasetCatalog.Storage
