import DatasetCatalog.Audit
import DatasetCatalog.CommandLine.Arguments
import DatasetCatalog.CommandLine.OpWorker
import DatasetCatalog.CommandLine.Server
import DatasetCatalog.Config.Basic
import DatasetCatalog.Config.Deployment
import DatasetCatalog.Config.Document
import DatasetCatalog.Disk.Basic
import DatasetCatalog.Disk.Operations
import DatasetCatalog.Disk.Path
import DatasetCatalog.Duration
import DatasetCatalog.Entity
import DatasetCatalog.Explore
import DatasetCatalog.Http.Encoding
import DatasetCatalog.Http.MediaType
import DatasetCatalog.Http.Message
import DatasetCatalog.Http.Route
import DatasetCatalog.Http.Service
import DatasetCatalog.InstanceName
import DatasetCatalog.Json.Document
import DatasetCatalog.Json.Fault
import DatasetCatalog.Json.Parser
import DatasetCatalog.Json.Reader
import DatasetCatalog.Json.Render
import DatasetCatalog.Json.Token
import DatasetCatalog.Json.Value
import DatasetCatalog.Lifecycle.Admin
import DatasetCatalog.Lifecycle.Create
import DatasetCatalog.Lifecycle.Drop
import DatasetCatalog.Lifecycle.Error
import DatasetCatalog.Lifecycle.Inquiry
import DatasetCatalog.Lifecycle.Program
import DatasetCatalog.Lifecycle.Settings
import DatasetCatalog.Lifecycle.Step
import DatasetCatalog.Lifecycle.Stores
import DatasetCatalog.Main
import DatasetCatalog.Metrics
import DatasetCatalog.Number.Binary64
import DatasetCatalog.Owner.Basic
import DatasetCatalog.Owner.Files
import DatasetCatalog.Owner.Memory
import DatasetCatalog.Owner.Store
import DatasetCatalog.Payload
import DatasetCatalog.Principal
import DatasetCatalog.Proofs.CommandLine.Server
import DatasetCatalog.Proofs.Config.Absent
import DatasetCatalog.Proofs.Config.Deployment
import DatasetCatalog.Proofs.Config.Listed
import DatasetCatalog.Proofs.Config.Nested
import DatasetCatalog.Proofs.Config.Printed
import DatasetCatalog.Proofs.Config.Restart
import DatasetCatalog.Proofs.Config.Usable
import DatasetCatalog.Proofs.Disk.Change
import DatasetCatalog.Proofs.Disk.Confine
import DatasetCatalog.Proofs.Disk.Files
import DatasetCatalog.Proofs.Disk.Making
import DatasetCatalog.Proofs.Disk.Path
import DatasetCatalog.Proofs.Disk.Reach
import DatasetCatalog.Proofs.Disk.Tree
import DatasetCatalog.Proofs.Disk.Walk
import DatasetCatalog.Proofs.Http.Rejected
import DatasetCatalog.Proofs.Json.Layout
import DatasetCatalog.Proofs.Json.Reading
import DatasetCatalog.Proofs.Json.Strings
import DatasetCatalog.Proofs.Json.Tagged
import DatasetCatalog.Proofs.Json.Typed
import DatasetCatalog.Proofs.Lifecycle.Abandoned
import DatasetCatalog.Proofs.Lifecycle.Accounts
import DatasetCatalog.Proofs.Lifecycle.Agreement
import DatasetCatalog.Proofs.Lifecycle.AllOrNothing
import DatasetCatalog.Proofs.Lifecycle.Aside
import DatasetCatalog.Proofs.Lifecycle.Claimants
import DatasetCatalog.Proofs.Lifecycle.Concern
import DatasetCatalog.Proofs.Lifecycle.Conflicts
import DatasetCatalog.Proofs.Lifecycle.Consistent
import DatasetCatalog.Proofs.Lifecycle.Coordinators
import DatasetCatalog.Proofs.Lifecycle.Errand
import DatasetCatalog.Proofs.Lifecycle.Estate
import DatasetCatalog.Proofs.Lifecycle.Exploration
import DatasetCatalog.Proofs.Lifecycle.Filed
import DatasetCatalog.Proofs.Lifecycle.Grounds
import DatasetCatalog.Proofs.Lifecycle.Housed
import DatasetCatalog.Proofs.Lifecycle.InStep
import DatasetCatalog.Proofs.Lifecycle.Inventory
import DatasetCatalog.Proofs.Lifecycle.Ledger
import DatasetCatalog.Proofs.Lifecycle.Lockstep
import DatasetCatalog.Proofs.Lifecycle.Memory
import DatasetCatalog.Proofs.Lifecycle.Neighbours
import DatasetCatalog.Proofs.Lifecycle.OneWinner
import DatasetCatalog.Proofs.Lifecycle.Phases
import DatasetCatalog.Proofs.Lifecycle.Protection
import DatasetCatalog.Proofs.Lifecycle.Recovery
import DatasetCatalog.Proofs.Lifecycle.Refusals
import DatasetCatalog.Proofs.Lifecycle.Removals
import DatasetCatalog.Proofs.Lifecycle.Replies
import DatasetCatalog.Proofs.Lifecycle.Reserved
import DatasetCatalog.Proofs.Lifecycle.Reset
import DatasetCatalog.Proofs.Lifecycle.Rivals
import DatasetCatalog.Proofs.Lifecycle.Served
import DatasetCatalog.Proofs.Lifecycle.Stages
import DatasetCatalog.Proofs.Lifecycle.Stakes
import DatasetCatalog.Proofs.Lifecycle.Unvouched
import DatasetCatalog.Proofs.Owner.Files
import DatasetCatalog.Proofs.Owner.Frame
import DatasetCatalog.Proofs.Owner.Memory
import DatasetCatalog.Proofs.Owner.Refinement
import DatasetCatalog.Proofs.Owner.Register
import DatasetCatalog.Proofs.Payload
import DatasetCatalog.Proofs.Principal
import DatasetCatalog.Proofs.Program.Interleaving
import DatasetCatalog.Proofs.Program.Reliance
import DatasetCatalog.Proofs.Program.Replay
import DatasetCatalog.Proofs.Program.Runs
import DatasetCatalog.Proofs.Program.Tracking
import DatasetCatalog.Proofs.Registry.Files
import DatasetCatalog.Proofs.Registry.Frame
import DatasetCatalog.Proofs.Registry.Memory
import DatasetCatalog.Proofs.Registry.Refinement
import DatasetCatalog.Proofs.SocketAddress
import DatasetCatalog.Proofs.Specification
import DatasetCatalog.Proofs.Storage.Confined
import DatasetCatalog.Proofs.Storage.Definition
import DatasetCatalog.Proofs.Storage.Effect
import DatasetCatalog.Proofs.Storage.Fresh
import DatasetCatalog.Proofs.Storage.Late
import DatasetCatalog.Proofs.Storage.Local
import DatasetCatalog.Proofs.Storage.Process
import DatasetCatalog.Proofs.Storage.Shelf
import DatasetCatalog.Proofs.Storage.Site
import DatasetCatalog.Proofs.Storage.TimeToLive
import DatasetCatalog.Proofs.Storage.Upkeep
import DatasetCatalog.Proofs.Storage.Weathered
import DatasetCatalog.Proofs.Storage.Wire
import DatasetCatalog.Proofs.StringMap
import DatasetCatalog.Proofs.Text.Casing
import DatasetCatalog.Proofs.Text.Decimal
import DatasetCatalog.Proofs.Text.Order
import DatasetCatalog.Proofs.Text.Utf8
import DatasetCatalog.Proofs.Toml.Document
import DatasetCatalog.Proofs.Toml.Number
import DatasetCatalog.Proofs.Toml.Range
import DatasetCatalog.Proofs.Toml.Statement
import DatasetCatalog.Proofs.Toml.Text
import DatasetCatalog.Proofs.TypeMeta
import DatasetCatalog.Registry.Basic
import DatasetCatalog.Registry.Files
import DatasetCatalog.Registry.Instances
import DatasetCatalog.Registry.Memory
import DatasetCatalog.Simulation.Fault
import DatasetCatalog.Simulation.Rehearsal
import DatasetCatalog.Simulation.Schedule
import DatasetCatalog.Simulation.Script
import DatasetCatalog.Simulation.World
import DatasetCatalog.SocketAddress
import DatasetCatalog.Specification
import DatasetCatalog.Storage.Backend
import DatasetCatalog.Storage.Definition
import DatasetCatalog.Storage.Error
import DatasetCatalog.Storage.Local
import DatasetCatalog.Storage.Request
import DatasetCatalog.Storage.Response
import DatasetCatalog.Storage.Scripted
import DatasetCatalog.Storage.Worker
import DatasetCatalog.StringMap
import DatasetCatalog.Text.Blank
import DatasetCatalog.Text.Casing
import DatasetCatalog.Text.Casing.Table
import DatasetCatalog.Text.Decimal
import DatasetCatalog.Text.Quoted
import DatasetCatalog.Text.Utf8
import DatasetCatalog.Text.Visible.Table
import DatasetCatalog.Toml.Document
import DatasetCatalog.Toml.Moment
import DatasetCatalog.Toml.Number
import DatasetCatalog.Toml.Record
import DatasetCatalog.Toml.Scan
import DatasetCatalog.Toml.Section
import DatasetCatalog.Toml.Statement
import DatasetCatalog.Toml.Text
import DatasetCatalog.Toml.Value
import DatasetCatalog.TypeMeta
