import DatasetCatalog.Simulation.World

/-!
# Running several things at a time

Threads run in the order of a list, each until it has to wait. Only sleeping and storage operations
wait. When nothing can go on, the clock moves to the next time at which something is due.

A storage operation has deadlines. One that is ready is taken before its deadlines are looked at.
Without isolation an operation is carried out by its thread, so giving it up means that nothing more
happens; in isolation it is carried out between the turns of the threads, and giving it up leaves it
over.
-/

namespace DatasetCatalog.Simulation

/-- A time at which a storage operation is given up, and the limit that was set for it. -/
structure Deadline where
  due : Nat
  limit : Duration
  deriving DecidableEq, Repr

/-- Something that runs. -/
inductive Thread (α : Type)
  | finished (a : α)
  | ready (p : Program α)
  /-- Acts on the world without the coordinator. -/
  | acting (f : World → α × World)
  | sleeping (due : Nat) (a : α)
  /-- A storage operation without the coordinator: neither faults nor limits apply, and only the
  storage lets it wait. -/
  | bare (r : Storage.Request) (stage : Stage) (next : Storage.Result r → α)
  /-- Waits for a storage operation. -/
  | performing (r : Storage.Request) (progress : Progress r) (deadlines : List Deadline)
      (next : Storage.Result r → Program α)

variable {α : Type}

/-- The deadlines of a storage operation that begins now, the inner one first. -/
def World.deadlines (w : World) (limit : Duration) : List Deadline :=
  let deadline (d : Duration) : Deadline := ⟨w.clock + d.ceilMilliseconds, d⟩
  match w.isolation with
  | some inner => [deadline inner, deadline limit]
  | none => [deadline limit]

/-- The first deadline that has passed. -/
def World.expired? (w : World) (ds : List Deadline) : Option Deadline :=
  ds.find? fun d => decide (d.due ≤ w.clock)

/-- What a storage operation that was given up is answered with. -/
def timedOut (r : Storage.Request) (d : Deadline) : Storage.Result r :=
  .error (.timeout r.operation r.target d.limit)

/-- Lets a storage operation begin, and says how it stands: in isolation it is only set off. -/
def World.launch (r : Storage.Request) (w : World) : Progress r × World :=
  if w.isolation.isSome then (.waiting .begun, w) else w.begin r

/-- Gives a storage operation up. -/
def World.giveUp (r : Storage.Request) (stage : Stage) (w : World) : World :=
  if w.isolation.isSome then w.leave r stage else w

/-- Runs a program until it has to wait. -/
def resume : Program α → World → Thread α × World
  | .done a, w => (.finished a, w)
  | .call (.perform r limit) next, w =>
    let deadlines := w.deadlines limit
    match w.launch r with
    | (.settled result, w) => resume (next result) w
    | (.waiting stage, w) =>
      match w.expired? deadlines with
      | some d => resume (next (timedOut r d)) (w.giveUp r stage)
      | none => (.performing r (.waiting stage) deadlines next, w)
  | .call c next, w =>
    let (a, w) := w.answer c
    resume (next a) w

/-- How a storage operation stands when its thread has its turn. -/
def World.attend (r : Storage.Request) (stage : Stage) (w : World) : Progress r × World :=
  if w.isolation.isSome then (.waiting stage, w) else w.advance r stage

/-- Carries a storage operation on to which no faults apply. -/
def World.carryOn (r : Storage.Request) (stage : Stage) (w : World) : Progress r × World :=
  match stage with
  | .begun => w.enter r
  | stage => w.advance r stage

/-- Gives a thread its turn. -/
def Thread.turn : Thread α → World → Thread α × World
  | .finished a, w => (.finished a, w)
  | .ready p, w => resume p w
  | .acting f, w =>
    let (a, w) := f w
    (.finished a, w)
  | .sleeping due a, w => (if due ≤ w.clock then .finished a else .sleeping due a, w)
  | .bare r stage next, w =>
    match w.carryOn r stage with
    | (.settled result, w) => (.finished (next result), w)
    | (.waiting stage, w) => (.bare r stage next, w)
  | .performing _ (.settled result) _ next, w => resume (next result) w
  | .performing r (.waiting stage) deadlines next, w =>
    match w.attend r stage with
    -- a result counts even if the deadline has passed with it
    | (.settled result, w) => resume (next result) w
    | (.waiting stage, w) =>
      match w.expired? deadlines with
      | some d => resume (next (timedOut r d)) (w.giveUp r stage)
      | none => (.performing r (.waiting stage) deadlines next, w)

/-- Carries an isolated storage operation on between the turns. -/
def Thread.between : Thread α → World → Thread α × World
  | .performing r (.waiting stage) deadlines next, w =>
    if w.isolation.isSome then
      let (progress, w) := w.advance r stage
      (.performing r progress deadlines next, w)
    else (.performing r (.waiting stage) deadlines next, w)
  | t, w => (t, w)

/-- Does something with every thread in order. -/
def eachThread (f : Thread α → World → Thread α × World) :
    List (Thread α) → World → List (Thread α) × World
  | [], w => ([], w)
  | t :: rest, w =>
    let (t, w) := f t w
    let (rest, w) := eachThread f rest w
    (t :: rest, w)

/-- The value of a finished thread. -/
def Thread.value? : Thread α → Option α
  | .finished a => some a
  | _ => none

/-- Whether a thread can go on at once. -/
def Thread.isReady : Thread α → Bool
  | .ready _ | .acting _ | .performing _ (.settled _) _ _ => true
  | _ => false

/-- The times at which a thread is due. -/
def Thread.dues : Thread α → List Nat
  | .sleeping due _ => [due]
  | .bare _ stage _ => stage.due?.toList
  | .performing _ (.waiting stage) deadlines _ =>
    stage.due?.toList ++ deadlines.map Deadline.due
  | _ => []

/-- The next time at which something is due. -/
def nextDue? (threads : List (Thread α)) (w : World) : Option Nat :=
  let dues := threads.flatMap Thread.dues ++ w.leftovers.flatMap fun l => l.stage.due?.toList
  dues.min?

/-- Runs threads to their end, in at most `fuel` rounds. -/
def run : (fuel : Nat) → List (Thread α) → World → Option (List α × World)
  | 0, _, _ => none
  | fuel + 1, threads, w =>
    let (threads, w) := eachThread Thread.turn threads w
    match threads.mapM Thread.value? with
    | some as => some (as, w)
    | none =>
      let (threads, w) := eachThread Thread.between threads w.advanceLeftovers
      if threads.any Thread.isReady then run fuel threads w
      else
        -- nobody can go on, so the clock does
        match nextDue? threads w with
        | some due => run fuel threads { w with clock := Nat.max w.clock due }
        | none => none

end DatasetCatalog.Simulation
