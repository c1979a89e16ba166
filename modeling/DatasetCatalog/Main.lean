import DatasetCatalog.CommandLine.OpWorker
import DatasetCatalog.CommandLine.Server

/-!
# The program

The first argument names the command, `op-worker` or `server`, and the others are the command's own.
Everything that a command does is a function on the disk as a value. So this module only takes the
part of the disk in that the command works on, and brings what the command changed back.

Connections are not served here: a server that could start says that it has nothing to listen on.
-/

namespace DatasetCatalog.Main

open CommandLine

/-- A place as the system writes it. -/
def placeText (p : Disk.Place) : String := "/" ++ "/".intercalate p

/-- The names in a path. -/
def namesOf (text : String) : Disk.Place := (Disk.Path.mk text).names

/-- The place of a path. -/
def placeOf (workingDirectory : Disk.Place) (path : Disk.Path) : Disk.Place :=
  if path.isAbsolute then path.names else workingDirectory ++ path.names

/-! ## The disk -/

/-- Takes in what stands at a place; of a directory everything in it, if `whole` is set. -/
partial def takeIn (whole : Bool) (p : Disk.Place) (d : Disk) : IO Disk := do
  let path := (← IO.currentDir) / placeText p
  if ← path.isDir then
    let d := d.put p .directory
    if whole then
      (← path.readDir).foldlM (fun d entry => takeIn whole (p ++ [entry.fileName]) d) d
    else return d
  else if ← path.pathExists then return d.put p (.file (← IO.FS.readBinFile path).toList)
  else return d

/-- Takes in a place and the directories that lead to it. -/
def takeInPath (path : Disk.Path) (d : Disk) : IO Disk := do
  let p := placeOf d.workingDirectory path
  let above := (List.range p.length).tail.map p.take
  takeIn true p (← above.foldlM (fun d p => takeIn false p d) d)

/-- Brings a node that is new or has changed to the disk. -/
def bringBack (e : Disk.Place × Disk.Node) : IO Unit :=
  match e.2 with
  | .directory => IO.FS.createDirAll (placeText e.1)
  | .file bytes => IO.FS.writeBinFile (placeText e.1) ⟨bytes.toArray⟩

/-- Removes a node that is gone. What stood below it is gone as well. -/
def takeAway (e : Disk.Place × Disk.Node) : IO Unit :=
  match e.2 with
  | .directory => IO.FS.removeDirAll (placeText e.1)
  | .file _ => IO.FS.removeFile (placeText e.1)

/-- The nodes of a disk that another disk does not have at their place. -/
def changed (d other : Disk) : List (Disk.Place × Disk.Node) :=
  (d.nodes.filter fun e => other.node? e.1 ≠ some e.2).mergeSort fun a b =>
    decide (a.1.length ≤ b.1.length)

/-- Brings the changes from one disk to another one to the disk of the system. Directories come
before what they hold, and go after it. -/
def bringChanges (before after : Disk) : IO Unit := do
  (changed before after).reverse.forM takeAway
  (changed after before).forM bringBack

/-- The disk before anything is taken in. -/
def blankDisk : IO Disk := return ⟨[], namesOf (← IO.currentDir).toString⟩

/-! ## Commands -/

/-- What the environment has for the arguments of a command. -/
def environment (u : Usage) : IO (StringMap String) := do
  let names := u.arguments.filterMap Argument.environmentName
  names.foldlM (fun m name => do
    match ← IO.getEnv name with
    | some value => return StringMap.insert name value m
    | none => return m) StringMap.empty

/-- Reads a stream to its end. -/
partial def readAll (input : IO.FS.Stream) (bytes : ByteArray) : IO ByteArray := do
  let more ← input.read 65536
  if more.isEmpty then return bytes else readAll input (bytes ++ more)

/-- Tells the user what came of a command. -/
def tell (o : Outcome) : IO UInt32 := do
  IO.print o.output
  IO.eprint o.report
  return UInt32.ofNat o.code

/-- Runs the worker command. -/
def opWorker (line : List String) : IO UInt32 := do
  let env ← environment OpWorker.usage
  let before ← match OpWorker.dataDirectory line env with
    | .ok root => takeInPath root (← blankDisk)
    | .error _ => blankDisk
  let input ← readAll (← IO.getStdin) ByteArray.empty
  let (outcome, after) := OpWorker.run line env input.toList before
  bringChanges before after
  tell outcome

/-- The paths that a configuration names. -/
def pathsOf (c : Config) : List Disk.Path :=
  c.catalog.directory.toList.map Disk.Path.mk ++ [⟨c.executor.dataDirectory⟩]

/-- What came of starting the server. -/
def outcomeOf : Server.Course → Outcome
  | .ended outcome => outcome
  | .serving c _ =>
    .failure ("Failed to bind " ++ c.server.bind.text) ["no connections can be served"]

/-- Runs the server command. -/
def server (line : List String) : IO UInt32 := do
  let env ← environment Server.usage
  let options := (Server.options line env).toOption
  let files := (options.bind Server.Options.file).toList
  let withFile ← files.foldlM (fun d path => takeInPath path d) (← blankDisk)
  let config := options.bind fun o => (o.config withFile).toOption
  let paths := (config.map pathsOf).getD []
  let before ← paths.foldlM (fun d path => takeInPath path d) withFile
  let (course, after) := Server.run line { environment := env } before
  bringChanges before after
  tell (outcomeOf course)

end DatasetCatalog.Main

/-- Runs the command that the first argument names. -/
def main : List String → IO UInt32
  | "op-worker" :: line => DatasetCatalog.Main.opWorker line
  | "server" :: line => DatasetCatalog.Main.server line
  | _ => do
    IO.eprintln "usage: dataset-catalog (op-worker | server) [ARGUMENTS]"
    return 2
