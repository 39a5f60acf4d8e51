import EventIndexer.Backfill
import EventIndexer.Tracker

/-! The engine: it checks its configuration and the contract, fills the gap up to the head, and then
hands over to the live tracker. -/

namespace EventIndexer

def Settings.check (settings : Settings) : Routine Unit := do
  Routine.done settings.validate
  let deployed ← Routine.request (.hasCode settings.address)
  if deployed then return () else Routine.fail (Cause.notDeployed settings.address)

inductive Engine.Stage
  | backfilling (routine : Routine Backfill.Report)
  /-- The cursors of the watchers are brought up to where the backfill ended. -/
  | seeding (routine : Routine (List (Watcher × Nat)))
  | tracking (tracker : Tracker)
  | ended (result : Except Failure Unit)

structure Engine where
  settings : Settings
  database : Database
  cancelled : Bool := false
  stage : Engine.Stage

namespace Engine

def start (settings : Settings) (database : Database) : Engine :=
  { settings, database, stage := .backfilling (Backfill.run settings) }

/-- The engine whose backfill ended at a height. -/
def startTracker (settings : Settings) (handoff : Nat) (database : Database) : Engine :=
  { settings, database, stage := .seeding (Tracker.seed handoff settings.watchers) }

inductive Step
  | cancel
  /-- The node or the clock replies to the backfill. -/
  | reply (answer : (request : Request) → request.Reply)
  /-- The database performs the request of the backfill or the seeding, unless it fails. -/
  | perform (fault : Option Failure)
  /-- What is running has ended, and the next begins. -/
  | advance
  /-- The backfill finds the token fired, and is dropped. -/
  | interrupt
  | track (step : Tracker.Step)

/-- The reply to a request made of the database, or the fault that it fails with. -/
def performed (database : Database) (fault : Option Failure) (request : Request) :
    Option (request.Reply × Database) :=
  (database.answer request).map fun answered =>
    match fault with
    | some failure => (.error failure, database)
    | none => answered

def afterBackfill (engine : Engine) : Except Failure Backfill.Report → Stage
  | .ok report => .seeding (Tracker.seed report.cursor engine.settings.watchers)
  | .error failure =>
    if engine.cancelled && failure.isCancellation then .ended (.ok ())
    else .ended (.error failure)

/-- The engine after a step; none where the step cannot be taken. -/
def step (engine : Engine) (step : Step) : Option Engine :=
  match step, engine.stage with
  | .cancel, _ => some { engine with cancelled := true }
  | .reply answer, .backfilling (.ask request next) =>
    let interrupted := match answer request with
      | .error failure => failure.isCancellation
      | .ok _ => false
    if (engine.database.answer request).isSome || interrupted && !engine.cancelled then none
    else some { engine with stage := .backfilling (next (answer request)) }
  | .perform fault, .backfilling (.ask request next) => do
    let (reply, database) ← performed engine.database fault request
    return { engine with database, stage := .backfilling (next reply) }
  | .perform fault, .seeding (.ask request next) => do
    let (reply, database) ← performed engine.database fault request
    return { engine with database, stage := .seeding (next reply) }
  | .interrupt, .backfilling _ =>
    if engine.cancelled then some { engine with stage := .ended (.ok ()) } else none
  | .advance, .backfilling (.done result) =>
    some { engine with stage := engine.afterBackfill result }
  | .advance, .seeding (.done (.ok starts)) =>
    some { engine with stage := .tracking { waiting := starts } }
  | .advance, .seeding (.done (.error failure)) =>
    some { engine with stage := .ended (.error failure) }
  | .advance, .tracking tracker => do
    return { engine with stage := .ended (← tracker.result?) }
  | .track step, .tracking tracker => do
    let (database, tracker) ←
      tracker.step engine.settings engine.cancelled engine.database step
    return { engine with database, stage := .tracking tracker }
  | _, _ => none

end Engine

end EventIndexer
