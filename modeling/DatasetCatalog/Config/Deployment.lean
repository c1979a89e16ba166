import DatasetCatalog.Config.Basic
import DatasetCatalog.Lifecycle.Stores

/-!
# Deployments

`Config.deploy` makes the stores that a configuration asks for. The directories are made in a fixed
order, so the first one that cannot be made decides the error; what was made before stays.

The storage of a deployment always runs in isolation, under the same limit as the coordinator's
calls. Where it is behind a worker command, the programs are those of the host.
-/

namespace DatasetCatalog

/-- Why a deployment cannot be made. -/
inductive DeploymentError
  | config (e : ConfigError)
  | registry (e : RegistryError)
  | ownerStore (e : OwnerError)
  | dataDirectory (e : FileError)
  deriving DecidableEq, Repr

/-- The error in words. -/
def DeploymentError.message : DeploymentError → String
  | config e => e.message
  | registry e => "Failed to open instance catalog: " ++ e.message
  | ownerStore e => "Failed to open owner store: " ++ e.message
  | dataDirectory e => "Failed to prepare data directory: " ++ e.message

namespace Config

/-- An operation on the disk that fails as a deployment. -/
abbrev Deploying (α : Type) := ExceptT DeploymentError (StateM Disk) α

/-- Where the instances are kept in the directory of a catalog. -/
def instancesDirectory (directory : String) : Disk.Path := Disk.Path.join ⟨directory⟩ "instances"

/-- Where the owners are kept in the directory of a catalog. -/
def ownersDirectory (directory : String) : Disk.Path := Disk.Path.join ⟨directory⟩ "owners"

/-- The catalog of a deployment. -/
def openCatalog (c : Catalog) : Deploying (InstanceRegistry × OwnerStore) :=
  match c.directory with
  | none => return (.memory [], .memory [])
  | some directory => do
    ExceptT.adapt .registry (Registry.Files.openAt (instancesDirectory directory))
    ExceptT.adapt .ownerStore (Owner.Files.openAt (ownersDirectory directory))
    return (.files (instancesDirectory directory), .files (ownersDirectory directory))

/-- The storage of a deployment. -/
def storage (host : Storage.Host) (e : Executor) : Deploying Storage.Backend :=
  match e.mode with
  | .inProcess => return .directory { root := ⟨e.dataDirectory⟩ }
  | .subprocess =>
    match e.workerCommand with
    | some program =>
      return .process host ⟨program, e.workerArguments ++ ["--data-dir", e.dataDirectory]⟩
    | none => throw (.config .missingWorker)

/-- The query engine of a deployment. -/
def gateway (e : Explore) : Gateway := if e.enabled then {} else .disabled

/-- Makes the stores of a deployment, apart from the disk. -/
def prepare (c : Config) (host : Storage.Host) : Deploying Stores := do
  ExceptT.mk (pure (c.validate.mapError .config))
  let (instances, owners) ← openCatalog c.catalog
  ExceptT.adapt .dataDirectory (Disk.makeDirectories ⟨c.executor.dataDirectory⟩)
  return { instances, owners, storage := ← storage host c.executor, gateway := gateway c.explore }

/-- Makes the stores of a deployment on a disk of a host. -/
def deploy (c : Config) (host : Storage.Host) (d : Disk) : Except DeploymentError Stores × Disk :=
  let (result, d) := (prepare c host).run.run d
  (result.map fun stores => { stores with disk := d }, d)

end Config

end DatasetCatalog
