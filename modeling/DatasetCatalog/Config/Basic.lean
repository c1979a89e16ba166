import DatasetCatalog.Lifecycle.Settings
import DatasetCatalog.SocketAddress
import DatasetCatalog.Text.Casing

/-!
# Configuration

What an operator decides about a deployment, in five sections. Everything has a default, so nothing
has to be decided. `Config.validate` refuses what cannot be run.
-/

namespace DatasetCatalog

/-- How log lines look. -/
inductive LogFormat
  | pretty
  | json
  deriving DecidableEq, Repr

/-- Where the code of the types runs. -/
inductive ExecutorMode
  /-- In the process of the service. -/
  | inProcess
  /-- In a worker process for each operation. -/
  | subprocess
  deriving DecidableEq, Repr

namespace Config

/-- The HTTP server. -/
structure Server where
  bind : SocketAddress := ⟨.octets 127 0 0 1, 8080⟩
  deriving DecidableEq, Repr

structure Logging where
  level : String := "info"
  format : LogFormat := .pretty
  deriving DecidableEq, Repr

/-- The catalog service. -/
structure Catalog where
  «namespace» : String := defaultNamespace
  /-- Where instances and owners are kept; without it they are in memory. -/
  directory : Option String := none
  unrecoverableReset : Bool := false
  deriving DecidableEq, Repr

/-- The storage of instances. -/
structure Executor where
  mode : ExecutorMode := .inProcess
  /-- How long an operation may take, in seconds. -/
  limit : Nat := 300
  dataDirectory : String := "./datafabric-data"
  workerCommand : Option String := none
  /-- Arguments that come before the data directory. -/
  workerArguments : List String := []
  deriving DecidableEq, Repr

/-- The query engine. -/
structure Explore where
  enabled : Bool := true
  deriving DecidableEq, Repr

end Config

/-- The configuration of a deployment. -/
structure Config where
  server : Config.Server := {}
  logging : Config.Logging := {}
  catalog : Config.Catalog := {}
  executor : Config.Executor := {}
  explore : Config.Explore := {}
  deriving DecidableEq, Repr

/-- Why a configuration cannot be used. -/
inductive ConfigError
  | unreadable (path reason : String)
  /-- The text does not say what a configuration can say. -/
  | malformed
  | invalidLevel (level : String)
  | invalidLimit (seconds : Nat)
  | missingWorker
  deriving DecidableEq, Repr

namespace Config

/-- The levels of log lines. Case does not matter where one is named. -/
def levels : List String := ["error", "warn", "info", "debug", "trace"]

/-- Refuses a configuration that cannot be run. -/
def validate (c : Config) : Except ConfigError Unit :=
  if !levels.contains (Casing.lower c.logging.level) then .error (.invalidLevel c.logging.level)
  else if c.executor.limit = 0 then .error (.invalidLimit c.executor.limit)
  else if c.executor.mode = .subprocess ∧ c.executor.workerCommand = none then
    .error .missingWorker
  else .ok ()

/-- The settings of the catalog service. -/
def settings (c : Config) : Settings where
  «namespace» := c.catalog.namespace
  unrecoverableReset := c.catalog.unrecoverableReset
  operationLimit := .ofSeconds c.executor.limit

end Config

/-- The error in words. -/
def ConfigError.message : ConfigError → String
  | unreadable path reason => "Failed to read configuration file " ++ path ++ ": " ++ reason
  | malformed => "Failed to parse TOML configuration: TOML parse error"
  | invalidLevel level =>
    "Invalid log level: " ++ level ++ " (must be one of: " ++ ", ".intercalate Config.levels ++ ")"
  | invalidLimit seconds =>
    "Invalid op timeout: " ++ Decimal.text seconds ++ " (must be positive)"
  | missingWorker => "Executor mode 'subprocess' requires executor.worker_command"

end DatasetCatalog
