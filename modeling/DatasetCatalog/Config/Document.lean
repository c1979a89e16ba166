import DatasetCatalog.Config.Basic
import DatasetCatalog.Disk.Operations
import DatasetCatalog.Toml.Document
import DatasetCatalog.Toml.Record
import DatasetCatalog.Toml.Section

/-!
# Configuration files

A configuration is kept as a TOML document. What a document leaves out has its default, and what a
configuration does not know is ignored. `Config.ofToml` reads and validates a text, `Config.load`
a file, and `Config.toToml` writes everything that a configuration says.
-/

namespace DatasetCatalog.Config

/-- The formats by their names. -/
def formats : List (String × LogFormat) := [("pretty", .pretty), ("json", .json)]

/-- The modes by their names. -/
def modes : List (String × ExecutorMode) :=
  [("in-process", .inProcess), ("subprocess", .subprocess)]

/-- The name of a format. -/
def formatName : LogFormat → String
  | .pretty => "pretty"
  | .json => "json"

/-- The name of a mode. -/
def modeName : ExecutorMode → String
  | .inProcess => "in-process"
  | .subprocess => "subprocess"

open Toml (Value Section Setting)

/-! ## Reading -/

/-- The address that a value names. -/
def address? (v : Value) : Option SocketAddress := v.string?.bind SocketAddress.parse?

def serverFields : List (Toml.Field Server) :=
  [.make "bind" address? fun v s => { s with bind := v }]

def loggingFields : List (Toml.Field Logging) := [
  .make "level" Value.string? fun v s => { s with level := v },
  .make "format" (Value.choice? formats) fun v s => { s with format := v }]

def catalogFields : List (Toml.Field Catalog) := [
  .make "namespace" Value.string? fun v s => { s with «namespace» := v },
  .make "catalog_dir" Value.string? fun v s => { s with directory := some v },
  .make "unrecoverable_reset" Value.boolean? fun v s => { s with unrecoverableReset := v }]

def executorFields : List (Toml.Field Executor) := [
  .make "mode" (Value.choice? modes) fun v s => { s with mode := v },
  .make "op_timeout_secs" Value.natural? fun v s => { s with limit := v },
  .make "data_dir" Value.string? fun v s => { s with dataDirectory := v },
  .make "worker_command" Value.string? fun v s => { s with workerCommand := some v },
  .make "worker_args" Value.strings? fun v s => { s with workerArguments := v }]

def exploreFields : List (Toml.Field Explore) :=
  [.make "enabled" Value.boolean? fun v s => { s with enabled := v }]

def fields : List (Toml.Field Config) := [
  .make "server" (Toml.readRecord serverFields {}) fun v c => { c with server := v },
  .make "logging" (Toml.readRecord loggingFields {}) fun v c => { c with logging := v },
  .make "catalog" (Toml.readRecord catalogFields {}) fun v c => { c with catalog := v },
  .make "executor" (Toml.readRecord executorFields {}) fun v c => { c with executor := v },
  .make "explore" (Toml.readRecord exploreFields {}) fun v c => { c with explore := v }]

/-- The configuration that a text describes, whether or not it can be run. -/
def parse? (text : String) : Option Config :=
  (Toml.parse? text).bind fun entries => Toml.takeEntries fields entries {}

/-- The configuration that a text describes. -/
def ofToml (text : String) : Except ConfigError Config :=
  match parse? text with
  | none => .error .malformed
  | some c => do
    c.validate
    return c

/-- The configuration in a file. -/
def load (path : Disk.Path) (d : Disk) : Except ConfigError Config :=
  match d.content path with
  | .error e => .error (.unreadable path.text e.message)
  | .ok bytes =>
    match Utf8.decode? bytes with
    | some text => ofToml text
    | none => .error (.unreadable path.text "stream did not contain valid UTF-8")

/-! ## Writing -/

/-- A setting that is written only if it has a value. -/
def optional (key : String) : Option String → List (String × Setting)
  | some s => [(key, .text s)]
  | none => []

/-- The sections of a configuration. -/
def sections (c : Config) : List Section := [
  ⟨"server", [("bind", .text c.server.bind.text)]⟩,
  ⟨"logging", [("level", .text c.logging.level), ("format", .text (formatName c.logging.format))]⟩,
  ⟨"catalog", [("namespace", .text c.catalog.namespace)] ++
    optional "catalog_dir" c.catalog.directory ++
    [("unrecoverable_reset", .switch c.catalog.unrecoverableReset)]⟩,
  ⟨"executor", [("mode", .text (modeName c.executor.mode)),
      ("op_timeout_secs", .number c.executor.limit), ("data_dir", .text c.executor.dataDirectory)] ++
    optional "worker_command" c.executor.workerCommand ++
    [("worker_args", .texts c.executor.workerArguments)]⟩,
  ⟨"explore", [("enabled", .switch c.explore.enabled)]⟩]

/-- The text that describes a configuration. -/
def toToml (c : Config) : String := String.ofList (Toml.writeSections c.sections)

end DatasetCatalog.Config
