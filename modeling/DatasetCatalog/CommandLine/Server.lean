import DatasetCatalog.CommandLine.Arguments
import DatasetCatalog.Config.Deployment
import DatasetCatalog.Config.Document

/-!
# The server command

The server reads a configuration file, if one is named, and lets the command line and the
environment overrule it. The file has to be valid by itself, and the outcome has to be valid too.
Then the server either prints the configuration, or makes the deployment and serves it.

* `Server.Options.config` — the configuration that is in effect; and
* `Server.run` — what the command does up to the moment at which it starts to serve.
-/

namespace DatasetCatalog.CommandLine.Server

/-- The arguments of the command. -/
def usage : Usage where
  command := "datafabric-server"
  version := "0.5.1"
  summary := "Datafabric - dataset catalog and lifecycle service"
  arguments := [
    { name := "config", letter := some 'c', kind := .path,
      placeholder := some "CONFIG", environmentName := some "DATAFABRIC_CONFIG",
      summary := "Configuration file (TOML); built-in defaults apply when omitted" },
    { name := "bind", kind := .address, placeholder := some "BIND",
      environmentName := some "DATAFABRIC_BIND",
      summary := "Address to listen on, overriding server.bind" },
    { name := "log-level", kind := .text, placeholder := some "LOG_LEVEL",
      environmentName := some "DATAFABRIC_LOG_LEVEL",
      summary := "Log level, overriding logging.level" },
    { name := "json-logs", summary := "Emit logs as JSON" },
    { name := "unrecoverable-reset", environmentName := some "DATAFABRIC_UNRECOVERABLE_RESET",
      summary := "Allow DELETE /data/unrecoverable/datasets" },
    { name := "print-config", summary := "Print the effective configuration and exit" }]

/-- What a command line asks for. -/
structure Options where
  file : Option Disk.Path := none
  bind : Option SocketAddress := none
  level : Option String := none
  jsonLogs : Bool := false
  unrecoverableReset : Bool := false
  printConfig : Bool := false
  deriving DecidableEq, Repr

/-- Reads a command line. -/
def options (line : List String) (environment : StringMap String) : Except Halt Options := do
  let vs ← usage.read line environment
  return {
    file := (StringMap.find? "config" vs).map Disk.Path.mk
    bind := (StringMap.find? "bind" vs).bind SocketAddress.parse?
    level := StringMap.find? "log-level" vs
    jsonLogs := Usage.isPresent "json-logs" vs
    unrecoverableReset := Usage.isPresent "unrecoverable-reset" vs
    printConfig := Usage.isPresent "print-config" vs }

namespace Options

/-- What the options change in a configuration. -/
def override (o : Options) (c : Config) : Config where
  server := { c.server with bind := o.bind.getD c.server.bind }
  logging := {
    level := o.level.getD c.logging.level
    format := if o.jsonLogs then .json else c.logging.format }
  catalog := { c.catalog with
    unrecoverableReset := o.unrecoverableReset || c.catalog.unrecoverableReset }
  executor := c.executor
  explore := c.explore

/-- The configuration that the options start from. -/
def base (o : Options) (d : Disk) : Except Outcome Config :=
  match o.file with
  | none => .ok {}
  | some path =>
    (Config.load path d).mapError fun e =>
      .failure ("Failed to load configuration from " ++ path.text) [e.message]

/-- The configuration that is in effect. -/
def config (o : Options) (d : Disk) : Except Outcome Config := do
  let c := o.override (← o.base d)
  c.validate.mapError fun e => .failure "Invalid configuration" [e.message]
  return c

end Options

/-- The causes of a deployment that could not be made, from the last to the first. -/
def causes : DeploymentError → List String
  | .config e => [e.message]
  | .registry e => [(DeploymentError.registry e).message, e.message]
  | .ownerStore e => [(DeploymentError.ownerStore e).message, e.message]
  | .dataDirectory e => [(DeploymentError.dataDirectory e).message, e.message]

/-- What a command line comes to. -/
inductive Course
  | ended (o : Outcome)
  /-- The service can start with these stores. -/
  | serving (c : Config) (s : Stores)

/-- Makes the deployment of a configuration. -/
def start (c : Config) (host : Storage.Host) (d : Disk) : Course × Disk :=
  match c.deploy host d with
  | (.ok stores, d) => (.serving c { stores with metrics := stores.metrics.describe }, d)
  | (.error e, d) => (.ended (.failure "Failed to initialize dataset service" (causes e)), d)

/-- Runs the command up to the moment at which it starts to serve. -/
def run (line : List String) (host : Storage.Host) (d : Disk) : Course × Disk :=
  match options line host.environment with
  | .error h => (.ended (.ofHalt usage host.environment h), d)
  | .ok o =>
    match o.config d with
    | .error outcome => (.ended outcome, d)
    | .ok c => if o.printConfig then (.ended (.success (c.toToml ++ "\n")), d) else start c host d

end DatasetCatalog.CommandLine.Server
