import DatasetCatalog.CommandLine.OpWorker
import DatasetCatalog.Proofs.Storage.Local
import DatasetCatalog.Proofs.Storage.Wire
import DatasetCatalog.Storage.Backend

/-!
# Storage behind a worker is storage in a directory

Whether a deployment works on its data directory itself or starts a worker command on it for every
request makes no difference to the directory, and none to the result but that an error other than
missing and already present storage is passed on as text (`WorkerCommand.run_eq_local`). This takes
for granted that the program of the command is there and is the worker; any other program can do as
it likes.

The request is encoded, decoded by the worker, carried out on the directory, and the result folded
into an answer that is encoded and decoded again. Each of these steps is undone by the next one:
requests and answers survive the wire, and the answer to a request carries its result back
(`result_ofResult`).
-/

namespace DatasetCatalog.Storage

open Disk

variable {r : Request}

/-- What becomes of an error on its way from a worker to the caller. -/
def relay (r : Request) : StorageError → StorageError
  | .notFound name => .notFound name
  | .alreadyExists name => .alreadyExists name
  | e => .execution r.operation r.target e.message

namespace Response

/-- The answer to a request carries its result back. -/
theorem result_ofResult (a : Result r) : result r (ofResult r a) = a.mapError (relay r) := by
  cases a with
  | ok a => cases r <;> rfl
  | error e => cases e <;> rfl

/-- An answer that carries no specification fits on the wire. -/
theorem depth_le_one {response : Response} (h : ∀ spec, response ≠ created spec) :
    response.toJson.depth ≤ 1 := by
  cases response with
  | created spec => exact absurd rfl (h spec)
  | _ => exact Nat.le_refl 1

theorem depth_created (spec : Specification) :
    (created spec).toJson.depth = spec.toJson.depth + 1 := by
  simp [toJson, members, Json.Value.depth, Json.Value.depthMembers]

end Response

namespace Local

variable {l : Local} {d : Disk}

/-- What is answered to a request can be sent: the only specification in it is one that the code of
a built-in type has made. -/
theorem sendable (builtin : l.definitions = Definition.builtin) (r : Request) (d : Disk) :
    (Response.ofResult r (l.run r d).1).Ordered ∧
      (Response.ofResult r (l.run r d).1).toJson.depth ≤ Json.depthLimit := by
  have small {response : Response} (ordered : response.Ordered)
      (h : ∀ spec, response ≠ .created spec) :
      response.Ordered ∧ response.toJson.depth ≤ Json.depthLimit :=
    ⟨ordered, Nat.le_trans (Response.depth_le_one h) (by decide)⟩
  rcases hrun : l.run r d with ⟨a, d'⟩
  cases a with
  | error e => cases e <;> exact small trivial nofun
  | ok a =>
    cases r with
    | create c =>
      rcases create_inv builtin rfl hrun with ⟨⟨e, herror⟩, -⟩ | ⟨spec, hok, made, -⟩
      · cases herror
      · rw [Except.ok.inj hok]
        have shallow := made.depth_le
        refine ⟨made.ordered, ?_⟩
        change (Response.created spec).toJson.depth ≤ _
        rw [Response.depth_created, Json.depthLimit]
        omega
    | _ => exact small trivial nofun

end Local

/-- The worker carries out the request that it is sent, and sends the result back. -/
theorem Worker.serve_input {l : Local} (ordered : r.Ordered)
    (shallow : r.toJson.depth ≤ Json.depthLimit) (d : Disk) :
    serve l (input r) d =
      (.ok (output (Response.ofResult r (l.run r d).1)), (l.run r d).2) := by
  rw [serve, input, Request.decode_compact ordered shallow]

/-- Where starting a command runs the worker, storage behind it does what storage in the directory does
that the worker is told to work on, by its arguments or by the environment that it inherits. The disk
is left the same, and so is the result, with errors as they are relayed. -/
theorem WorkerCommand.run_eq_local {c : WorkerCommand} {host : Host} {l : Local}
    (worker : host.programs c.program = CommandLine.OpWorker.process)
    (directory : CommandLine.OpWorker.dataDirectory c.arguments host.environment = .ok l.root)
    (builtin : l.definitions = Definition.builtin) (ordered : r.Ordered)
    (shallow : r.toJson.depth ≤ Json.depthLimit) (d : Disk) :
    (c.run host r d).2 = (l.run r d).2 ∧
      (c.run host r d).1 = (l.run r d).1.mapError (relay r) := by
  obtain ⟨answerOrdered, answerShallow⟩ := Local.sendable builtin r d
  obtain ⟨root, definitions⟩ := l
  dsimp only at builtin directory
  subst builtin
  -- the worker prints the answer and ends well
  have ended : c.start host r d = (.ended (.code 0)
      (Worker.output (Response.ofResult r (Local.run ⟨root, Definition.builtin⟩ r d).1))
      (Utf8.encode ""), (Local.run ⟨root, Definition.builtin⟩ r d).2) := by
    rw [start, worker, CommandLine.OpWorker.process, CommandLine.OpWorker.run, directory]
    dsimp only
    rw [Worker.serve_input ordered shallow d]
    dsimp only [CommandLine.Outcome.code, CommandLine.Outcome.output, CommandLine.Outcome.report]
    rw [Worker.output, Utf8.decodeLossy_encode]
  rw [run, ended]
  refine ⟨rfl, ?_⟩
  dsimp only
  rw [Worker.result, if_pos rfl, Worker.output, Response.decode_compact answerOrdered answerShallow]
  exact Response.result_ofResult _

/-- A type that the worker does not know is reported as a failure of the create, in the words of the
worker. The directory among its arguments goes before the one in the environment. -/
theorem WorkerCommand.unknown_type_is_relayed :
    let host : Host := {
      programs := fun program =>
        if program = "op-worker" then CommandLine.OpWorker.process
        else fun _ _ _ d => (.notStarted .notFound, d)
      environment := [("DATAFABRIC_DATA_DIR", "elsewhere")] }
    let c : WorkerCommand := ⟨"op-worker", ["--data-dir", "data"]⟩
    let l : Local := ⟨⟨"data"⟩, Definition.builtin⟩
    let create : Request := .create ⟨"orders", ⟨"stream", []⟩, [("ttl", "60")]⟩
    let message := "No definition is available for dataset type 'stream'"
    host.programs c.program = CommandLine.OpWorker.process ∧
      CommandLine.OpWorker.dataDirectory c.arguments host.environment = .ok l.root ∧
      (create.Ordered ∧ create.toJson.depth ≤ Json.depthLimit) ∧
      (c.run host create ⟨[], []⟩).1 = .error (.execution "create" "orders" message) ∧
      (c.run host create ⟨[], []⟩).2 = (l.run create ⟨[], []⟩).2 := by
  intro host c l create message
  have worker : host.programs c.program = CommandLine.OpWorker.process := rfl
  have directory : CommandLine.OpWorker.dataDirectory c.arguments host.environment =
      .ok l.root := by decide +kernel
  have created : create.Ordered ∧ create.toJson.depth ≤ Json.depthLimit :=
    ⟨List.pairwise_singleton _ _, by decide⟩
  obtain ⟨disk, refused⟩ := run_eq_local worker directory rfl created.1 created.2 ⟨[], []⟩
  have unknown : (l.run create ⟨[], []⟩).1 = .error (.unknownType "stream") := rfl
  rw [unknown] at refused
  exact ⟨worker, directory, created, refused, disk⟩

end DatasetCatalog.Storage
