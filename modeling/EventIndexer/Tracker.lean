import EventIndexer.Channel
import EventIndexer.Delivery
import EventIndexer.Feed
import EventIndexer.Store.Database

/-! The live tracker: a producer and a consumer for each watcher, under one token.  The first
failure cancels all of them, and the tracker returns once every task has ended.  Its steps are those
of its tasks, one request at a time, in any order. -/

namespace EventIndexer

structure WatcherTasks where
  watcher : Watcher
  feed : Feed
  channel : Channel Message
  /-- None until the stream is open. -/
  producer : Option (Producer.Phase (Routine (Message × Feed)) Message)
  consumer : Consumer.Phase (Routine Unit) := .ready
  producerJoined : Bool := false
  consumerJoined : Bool := false

structure Tracker where
  /-- The watchers without tasks yet, with their cursors. -/
  waiting : List (Watcher × Nat)
  tasks : List WatcherTasks := []
  /-- Whether a task, or the tracker itself, has cancelled the group. -/
  fired : Bool := false
  /-- Whether a consumer is moving the shared cursor. -/
  locked : Bool := false
  /-- Why a watcher could not be started. -/
  startFailure : Option Failure := none
  /-- The first failure of a task. -/
  failure : Option Failure := none

namespace Tracker

/-- How many messages a watcher's channel holds. -/
def channelSize : LiveMode → Nat
  | .poll => 16
  | .subscribe => 1024

/-- Brings the cursor of every watcher up to the height that the backfill reached. -/
def seed (handoff : Nat) : List Watcher → Routine (List (Watcher × Nat))
  | [] => return []
  | watcher :: rest => do
    let stored ← Cursor.loadOrSeed watcher.key handoff
    if stored < handoff then Cursor.checkpoint watcher.key handoff
    let starts ← seed handoff rest
    return (watcher, max stored handoff) :: starts

end Tracker

/-! ### The steps of a task -/

inductive ProducerMove
  | call
  /-- Is given the reply to its request. -/
  | reply (answer : (request : Request) → request.Reply)
  | finish
  /-- Finds the token fired. -/
  | stop
  | send

inductive ConsumerMove
  | take
  /-- Has its request performed by the database, unless it fails. -/
  | perform (fault : Option Failure)
  | finish
  /-- Finds the token fired. -/
  | stop
  /-- Finds the channel empty and without a sender. -/
  | drained

namespace WatcherTasks

def withLink (tasks : WatcherTasks) (link : Link Message) : WatcherTasks :=
  { tasks with channel := link.channel }

/-- A move of the producer, given whether the token has fired; a failure fires it.  A wait tells of
an interruption only when the token has fired. -/
def produce (settings : Settings) (cancelled : Bool) (tasks : WatcherTasks) (move : ProducerMove) :
    Option (Bool × WatcherTasks) := do
  let phase ← tasks.producer
  let link : Link Message := { cancelled, channel := tasks.channel }
  let take (step : Producer.Step (Routine (Message × Feed)) Message) (feed : Feed) := do
    let (link, phase) ← Producer.step link phase step
    return (link.cancelled, { tasks.withLink link with producer := some phase, feed })
  match move, phase with
  | .call, _ => take (.call (tasks.feed.next settings tasks.watcher.kinds)) tasks.feed
  | .reply answer, .calling (.ask request next) =>
    match answer request with
    | .error failure =>
      if failure.isCancellation && !cancelled then none
      else take (.work (next (.error failure))) tasks.feed
    | .ok value => take (.work (next (.ok value))) tasks.feed
  | .finish, .calling (.done (.ok (message, feed))) => take (.finish (.ok message)) feed
  | .finish, .calling (.done (.error failure)) => take (.finish (.error failure)) tasks.feed
  | .stop, _ => take .stop tasks.feed
  | .send, _ => take .send tasks.feed
  | _, _ => none

structure Shared where
  database : Database
  locked : Bool

/-- The reply to a request of a consumer.  The lock is waited for; a fault leaves everything as it
was. -/
def Shared.answer (shared : Shared) (fault : Option Failure) (request : Request) :
    Option (request.Reply × Shared) :=
  match request, fault with
  | .lock, _ => if shared.locked then none else some (.ok (), { shared with locked := true })
  | .unlock, _ => some (.ok (), { shared with locked := false })
  | _, some failure => some (.error failure, shared)
  | request, none =>
    (shared.database.answer request).map fun (reply, database) =>
      (reply, { shared with database })

/-- A move of the consumer, given whether the token has fired; a failure fires it. -/
def consume (shared : Shared) (cancelled : Bool) (tasks : WatcherTasks) (move : ConsumerMove) :
    Option (Shared × Bool × WatcherTasks) := do
  let link : Link Message := { cancelled, channel := tasks.channel }
  let take (shared : Shared) (step : Consumer.Step (Routine Unit)) := do
    let (link, consumer) ← Consumer.step (deliver tasks.watcher) link tasks.consumer step
    return (shared, link.cancelled, { tasks.withLink link with consumer })
  match move, tasks.consumer with
  | .take, _ => take shared .take
  | .perform fault, .handling (.ask request next) =>
    let (reply, shared) ← shared.answer fault request
    take shared (.work (next reply))
  | .finish, .handling (.done result) => take shared (.finish result)
  | .stop, _ => take shared .stop
  | .drained, _ => take shared .drained
  | _, _ => none

def joined (tasks : WatcherTasks) : Bool := tasks.producerJoined && tasks.consumerJoined

end WatcherTasks

/-! ### The steps of the tracker -/

namespace Tracker

inductive Step
  /-- Starts the next watcher: its consumer, and, where it polls, its producer. -/
  | spawn
  /-- The stream of the last watcher is open, or is not. -/
  | opened (reply : Except Failure Unit)
  | produce (watcher : Nat) (move : ProducerMove)
  | consume (watcher : Nat) (move : ConsumerMove)
  | joinProducer (watcher : Nat)
  | joinConsumer (watcher : Nat)

/-- Whether a watcher is waiting for its stream. -/
def opening (tracker : Tracker) : Bool := tracker.tasks.any (·.producer.isNone)

/-- Whether every watcher has its tasks, or no more of them are started. -/
def started (tracker : Tracker) : Bool := tracker.waiting.isEmpty && !tracker.opening

def firstTasks (settings : Settings) (watcher : Watcher) (cursor : Nat) : WatcherTasks :=
  { watcher
    feed := Feed.after cursor
    channel := { capacity := channelSize settings.liveMode }
    producer := if settings.liveMode = .poll then some .ready else none }

/-- A watcher whose stream was opened, or could not be. -/
def afterOpening (reply : Except Failure Unit) (tasks : WatcherTasks) : WatcherTasks :=
  match tasks.producer, reply with
  | some _, _ => tasks
  | none, .ok () => { tasks with producer := some .ready }
  | none, .error _ =>
    { tasks with
      producer := some (.ended (.ok ()))
      producerJoined := true
      channel := { tasks.channel with senderGone := true } }

/-- Notices the end of a task.  A failure cancels the group, and the first is kept, unless it only
says that the caller's token fired. -/
def notice (tracker : Tracker) (cancelled : Bool) : Except Failure Unit → Tracker
  | .ok () => tracker
  | .error failure =>
    if tracker.startFailure.isSome then tracker
    else if cancelled && failure.isCancellation then { tracker with fired := true }
    else { tracker with fired := true, failure := tracker.failure <|> some failure }

/-- The database and the tracker after a step, given whether the caller's token has fired; none
where the step cannot be taken. -/
def step (settings : Settings) (cancelled : Bool) (database : Database) (tracker : Tracker) :
    Step → Option (Database × Tracker)
  | .spawn =>
    match tracker.waiting with
    | [] => none
    | (watcher, cursor) :: rest =>
      if tracker.opening then none
      else some (database,
        { tracker with
          waiting := rest, tasks := tracker.tasks ++ [firstTasks settings watcher cursor] })
  | .opened reply =>
    if !tracker.opening then none
    else
      let tasks := tracker.tasks.map (afterOpening reply)
      match reply with
      | .ok () => some (database, { tracker with tasks })
      | .error failure =>
        some (database,
          { tracker with waiting := [], tasks, fired := true, startFailure := some failure })
  | .produce i move => do
    let tasks ← tracker.tasks[i]?
    let (fired, tasks) ← tasks.produce settings (cancelled || tracker.fired) move
    return (database,
      { tracker with
        tasks := tracker.tasks.set i tasks, fired := tracker.fired || fired && !cancelled })
  | .consume i move => do
    let tasks ← tracker.tasks[i]?
    let shared : WatcherTasks.Shared := { database, locked := tracker.locked }
    let (shared, fired, tasks) ← tasks.consume shared (cancelled || tracker.fired) move
    return (shared.database,
      { tracker with
        tasks := tracker.tasks.set i tasks
        fired := tracker.fired || fired && !cancelled
        locked := shared.locked })
  | .joinProducer i => do
    let tasks ← tracker.tasks[i]?
    match tasks.producer with
    | some (.ended result) =>
      if tracker.started && !tasks.producerJoined then
        return (database,
          { tracker.notice cancelled result with
            tasks := tracker.tasks.set i { tasks with producerJoined := true } })
      else none
    | _ => none
  | .joinConsumer i => do
    let tasks ← tracker.tasks[i]?
    match tasks.consumer with
    | .ended result =>
      if tracker.started && !tasks.consumerJoined then
        return (database,
          { tracker.notice cancelled result with
            tasks := tracker.tasks.set i { tasks with consumerJoined := true } })
      else none
    | _ => none

def result? (tracker : Tracker) : Option (Except Failure Unit) :=
  if tracker.started && tracker.tasks.all (·.joined) then
    match tracker.startFailure <|> tracker.failure with
    | some failure => some (.error failure)
    | none => some (.ok ())
  else none

end Tracker

end EventIndexer
