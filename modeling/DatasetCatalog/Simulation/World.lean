import DatasetCatalog.CommandLine.OpWorker
import DatasetCatalog.Lifecycle.Stores
import DatasetCatalog.Simulation.Fault

/-!
# A rehearsed deployment

A `World` is one coordinator with its stores, on a clock that only moves when everything waits, and
with the faults that are planned for it. Storage operations can take time in it, and can run in
isolation: then one that is given up goes on by itself, as a `Leftover`, and takes effect when it
is due.

A storage operation goes through up to three stages. It begins by taking its planned fault, which
may be a delay; then it enters the storage, whose script may let it wait; and then it has its
effect.
-/

namespace DatasetCatalog.Simulation

/-- How far a storage operation has come. -/
inductive Stage
  | begun
  /-- It waits for a planned delay before it enters the storage. -/
  | delayed (due : Nat)
  /-- It waits in the storage before it has its effect. -/
  | entered (due : Nat)
  deriving DecidableEq, Repr

/-- When a stage ends by itself. -/
def Stage.due? : Stage → Option Nat
  | begun => none
  | delayed due | entered due => some due

/-- A storage operation that nobody waits for any more. -/
structure Leftover where
  request : Storage.Request
  stage : Stage

/-- Where the worker command is installed. -/
def workerPath : String := "/usr/local/bin/datafabric-op-worker"

/-- A system with the worker command and no other program. -/
def host (environment : StringMap String) : Storage.Host where
  programs program line environment input d :=
    if program = workerPath then CommandLine.OpWorker.process line environment input d
    else
      match d.status ⟨program⟩ with
      | .ok _ => (.notStarted (if program.toList.contains '/' then .permissionDenied else .notFound), d)
      | .error e => (.notStarted e, d)
  environment

/-- A coordinator with everything around it. -/
structure World where
  settings : Settings := {}
  reserved : Reservations := []
  stores : Stores := {}
  /-- How long a storage operation may take in isolation, if it runs so. -/
  isolation : Option Duration := none
  plans : Plans := []
  /-- The time in milliseconds. -/
  clock : Nat := 0
  leftovers : List Leftover := []
  /-- A storage script that is not in use. -/
  spareStorage : Storage.Scripted := {}
  /-- A query engine that is not in use, if it is the one that rehearsals act on. -/
  spareGateway : Option Gateway := none

instance : Inhabited World := ⟨{}⟩

/-- A storage operation that waits or has come to its end. -/
inductive Progress (r : Storage.Request)
  | waiting (stage : Stage)
  | settled (result : Storage.Result r)

namespace World

/-! ## What rehearsals act on -/

/-- The storage script. -/
def scripted (w : World) : Storage.Scripted :=
  match w.stores.storage with
  | .memory s => s
  | _ => w.spareStorage

/-- Replaces the storage script. -/
def withScripted (w : World) (s : Storage.Scripted) : World :=
  match w.stores.storage with
  | .memory _ => { w with stores := { w.stores with storage := .memory s } }
  | _ => { w with spareStorage := s }

/-- The query engine that can be rehearsed with. -/
def gateway (w : World) : Gateway := w.spareGateway.getD w.stores.gateway

/-- Replaces the query engine that can be rehearsed with. -/
def withGateway (w : World) (g : Gateway) : World :=
  match w.spareGateway with
  | some _ => { w with spareGateway := some g }
  | none => { w with stores := { w.stores with gateway := g } }

/-! ## Calls -/

/-- Takes the next planned fault of a target. -/
def takeFault (target : Target) (w : World) : Fault × World :=
  let (fault, plans) := w.plans.take target
  (fault, { w with plans })

/-- The fault that is planned for a call. -/
def faultFor (c : Call) (w : World) : Fault × World :=
  match Target.ofCall? c with
  | some target => w.takeFault target
  | none => (.pass, w)

/-- The answer to a call without any fault. -/
def ordinary (c : Call) (w : World) : c.Answer × World :=
  let (a, reserved, stores) := Stores.answer c (w.reserved, w.stores)
  (a, { w with reserved, stores })

/-- The answer to a call that takes no time. -/
def answer (c : Call) (w : World) : c.Answer × World :=
  let (fault, w) := w.faultFor c
  match fault.answer? c with
  | some a => (a, w)
  | none =>
    if fault = .preempt then
      -- somebody else removes the entry just before the caller does
      match c with
      | .removeInstance name => ((w.ordinary (.removeInstance name)).2).ordinary (.removeInstance name)
      | c => w.ordinary c
    else w.ordinary c

/-! ## Storage operations -/

/-- The effect of a storage operation that has entered the storage. -/
def finish (r : Storage.Request) (w : World) : Progress r × World :=
  match w.stores.storage with
  | .memory s =>
    let (result, s) := s.finish r
    (.settled result, w.withScripted s)
  | _ =>
    let (result, stores) := w.stores.perform r
    (.settled result, { w with stores })

/-- Lets a storage operation enter the storage. -/
def enter (r : Storage.Request) (w : World) : Progress r × World :=
  match w.stores.storage with
  | .memory s =>
    match s.enter r with
    | (.error e, s) => (.settled (.error e), w.withScripted s)
    | (.ok none, s) => (w.withScripted s).finish r
    | (.ok (some wait), s) =>
      if wait = 0 then (w.withScripted s).finish r
      else (.waiting (.entered (w.clock + wait)), w.withScripted s)
  | _ => w.finish r

/-- Lets a storage operation begin. -/
def begin (r : Storage.Request) (w : World) : Progress r × World :=
  let (fault, w) := w.takeFault (.storage r.operation)
  match fault with
  | .delay wait =>
    if wait = 0 then w.enter r else (.waiting (.delayed (w.clock + wait)), w)
  | fault =>
    match fault.result? r with
    | some result => (.settled result, w)
    | none => w.enter r

/-- Lets a storage operation go on as far as it can at this time. -/
def advance (r : Storage.Request) (stage : Stage) (w : World) : Progress r × World :=
  match stage with
  | .begun => w.begin r
  | .delayed due => if due ≤ w.clock then w.enter r else (.waiting stage, w)
  | .entered due => if due ≤ w.clock then w.finish r else (.waiting stage, w)

/-- Gives a storage operation up; it goes on by itself. -/
def leave (r : Storage.Request) (stage : Stage) (w : World) : World :=
  { w with leftovers := w.leftovers ++ [⟨r, stage⟩] }

/-- Lets leftovers go on; those that come to their end are gone. -/
def advanceEach : List Leftover → World → List Leftover × World
  | [], w => ([], w)
  | l :: rest, w =>
    match w.advance l.request l.stage with
    | (.waiting stage, w) =>
      let (rest, w) := advanceEach rest w
      (⟨l.request, stage⟩ :: rest, w)
    | (.settled _, w) => advanceEach rest w

/-- Lets all leftovers go on. -/
def advanceLeftovers (w : World) : World :=
  let (leftovers, w) := advanceEach w.leftovers w
  { w with leftovers }

/-! ## Looking on from outside -/

/-- Whether a name is in the catalog. -/
def isRegistered (w : World) (name : String) : Bool :=
  match (w.stores.onInstances (InstanceRegistry.get name)).1 with
  | .ok (some _) => true
  | _ => false

/-- Whether the dataset of a name has an owner. -/
def isOwned (w : World) (name : String) : Bool :=
  match (OwnerStore.isRecorded (w.settings.entity name) (w.stores.owners, w.stores.disk)).1 with
  | .ok there => there
  | .error _ => false

/-- Whether a name has storage. -/
def hasStorage (w : World) (name : String) : Bool :=
  match w.stores.storage with
  | .memory s => s.contains name
  | _ =>
    match (w.stores.perform (.probe name)).1 with
    | .ok there => there
    | .error _ => false

/-- Whether a name is shown by the query engine that can be rehearsed with. -/
def isExposed (w : World) (name : String) : Bool := w.gateway.isExposed name

/-- The events since an earlier time. -/
def eventsSince (earlier w : World) : List Audit.Event :=
  (w.stores.audit.take (w.stores.audit.length - earlier.stores.audit.length)).reverse

/-- The storage calls in memory since an earlier time. -/
def callsSince (earlier w : World) : List Storage.Call :=
  (w.scripted.history.take (w.scripted.history.length - earlier.scripted.history.length)).reverse

end World

end DatasetCatalog.Simulation
