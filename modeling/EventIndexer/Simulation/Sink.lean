import EventIndexer.Delivery
import EventIndexer.Channel
import EventIndexer.Simulation.Bench

/-! A sink that keeps a record of what is stored through it and fails on some events, and whole
routines run over it, a script and a database. -/

namespace EventIndexer.Simulation

/-- The events that a sink fails on: those of a kind and those at a height. -/
structure SinkRule where
  kind : Option Kind := none
  height : Option Nat := none
  text : String
  deriving DecidableEq, Repr

def SinkRule.matches? (rule : SinkRule) (event : Event) : Bool :=
  rule.kind.any (· == event.kind) || rule.height.any (· == event.height)

inductive SinkCall
  | one (kind : Kind) (height : Nat)
  | batch (size : Nat)
  deriving DecidableEq, Repr

structure Sink where
  rule : Option SinkRule := none
  calls : List SinkCall := []
  deriving DecidableEq, Repr

namespace Sink

/-- The failure of a call with some events, if one of them matches the rule. -/
def fault (sink : Sink) (events : List Event) : Option Failure :=
  match sink.rule with
  | none => none
  | some rule =>
    if events.any rule.matches? then some (Cause.other rule.text) else none

/-- Records a request, and gives the failure it meets. -/
def receive (sink : Sink) : Request → Option Failure × Sink
  | .storeOne event =>
    (sink.fault [event], { sink with calls := sink.calls ++ [.one event.kind event.height] })
  | .storeBatch events =>
    (sink.fault events, { sink with calls := sink.calls ++ [.batch events.length] })
  | _ => (none, sink)

end Sink

/-- What a routine that runs alone is run over. -/
structure World where
  database : Database
  sink : Sink := {}
  script : Script := {}
  tape : Tape := {}
  /-- Whether the token fired beforehand. -/
  cancelled : Bool := false

namespace World

/-- Answers a request by the database, through the sink, or else by the script. -/
def answer (request : Request) (world : World) : request.Reply × World :=
  match world.sink.receive request with
  | (some failure, sink) => (.error failure, { world with sink })
  | (none, sink) =>
    match world.database.answer request with
    | some (reply, database) => (reply, { world with database, sink })
    | none =>
      let answered :=
        world.script.answer (if world.cancelled then some 0 else none) world.tape request
      (answered.reply, { world with tape := answered.tape })

def run (world : World) (routine : Routine α) : Except Failure α × World :=
  routine.run answer world

end World

/-! ### A consumer alone -/

/-- A watcher's consumer over a channel to which nothing more is sent. -/
structure ConsumerRun where
  link : Link Message
  phase : Consumer.Phase (Routine Unit) := .ready
  world : World

namespace ConsumerRun

def take (watcher : Watcher) (run : ConsumerRun) (step : Consumer.Step (Routine Unit)) :
    Option ConsumerRun :=
  (Consumer.step (deliver watcher) run.link run.phase step).map fun (link, phase) =>
    { run with link, phase }

def next (watcher : Watcher) (run : ConsumerRun) : Option ConsumerRun :=
  match run.phase with
  | .ready =>
    if run.link.cancelled then run.take watcher .stop
    else run.take watcher .take <|> run.take watcher .drained
  | .handling (.ask request next) =>
    let (reply, world) := run.world.answer request
    { run with world }.take watcher (.work (next reply))
  | .handling (.done result) => run.take watcher (.finish result)
  | .ended _ => none

/-- Consumes messages until none is left or one fails. -/
def drain (watcher : Watcher) (messages : List Message) (world : World) : ConsumerRun :=
  let channel : Channel Message :=
    { capacity := messages.length, queue := messages, senderGone := true }
  steps (next watcher) stepLimit { link := { cancelled := world.cancelled, channel }, world }

end ConsumerRun

end EventIndexer.Simulation
