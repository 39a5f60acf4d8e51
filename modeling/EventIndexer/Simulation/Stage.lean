import EventIndexer.Simulation.Play

/-! An engine on a stage: the head, the logs and the faults change from act to act, and in each act
the engine runs until nothing is left to do. -/

namespace EventIndexer.Simulation

/-- A fault, for the queries of one kind or of any. -/
structure KindFault where
  kind : Option Kind := none
  fault : Fault

/-- Whether the fault is met by a query of some kinds. -/
def KindFault.meets (fault : KindFault) (kinds : List Kind) : Bool := fault.kind.all kinds.contains

/-- What changes from one act to the next: a head stays where it was unless it is set, logs are
added, and faults are set or cleared.  The stream's logs come once everything else is done. -/
structure Act where
  head : Option Nat := none
  logs : List Log := []
  headFault : Option Fault := none
  chunkFault : Option KindFault := none
  stream : List Log := []

/-- The source as the engine sees it, and the record of what it was asked. -/
structure Stage where
  deployed : Bool := true
  codeFault : Option Fault := none
  head : Nat := 0
  logs : List Log := []
  headFault : Option Fault := none
  chunkFault : Option KindFault := none
  streamFault : Option KindFault := none
  chunks : List ChunkFilter := []
  streams : List StreamFilter := []

namespace Stage

def enter (stage : Stage) (act : Act) : Stage :=
  { stage with
    head := act.head.getD stage.head
    logs := stage.logs ++ act.logs
    headFault := act.headFault
    chunkFault := act.chunkFault }

/-- The failure of a head that is asked for until the deadline. -/
def headFailure (fault : Fault) (deadline interval : Nat) : Failure :=
  let attempt (_ : Nat) : Attempt Nat := { after := 0, ending := some (.error (fault.failure 0 0)) }
  match Retry.run deadline (max interval 1) attempt none (deadline + 2) with
  | some { result := .error failure, .. } => failure
  | _ => Cause.deadlineExceeded 1 0 (fault.failure 0 0).line

/-- The reply to a request; `heard` is the stream's next log. -/
def reply (stage : Stage) (heard : Option Log) : (request : Request) → request.Reply
  | .hasCode _ =>
    match stage.codeFault with
    | some fault => .error (fault.failure 0 0)
    | none => .ok stage.deployed
  | .head deadline interval =>
    match stage.headFault with
    | some fault => .error (headFailure fault deadline interval)
    | none => .ok stage.head
  | .chunk filter =>
    match stage.chunkFault.filter (·.meets filter.kinds) with
    | some { fault, .. } => .error (fault.failure filter.first filter.last)
    | none => .ok (logsWithin stage.logs filter)
  | .openStream filter =>
    match stage.streamFault.filter (·.meets filter.kinds) with
    | some { fault, .. } => .error (fault.failure filter.first filter.first)
    | none => .ok ()
  | .nextLog => .ok heard
  | .pause _ => .ok ()
  | .lock => .ok ()
  | .unlock => .ok ()
  | .readCursor _ => .error unscripted
  | .writeCursor .. => .error unscripted
  | .storeOne _ => .error unscripted
  | .storeBatch _ => .error unscripted

def record (stage : Stage) : Request → Stage
  | .chunk filter => { stage with chunks := stage.chunks ++ [filter] }
  | .openStream filter => { stage with streams := stage.streams ++ [filter] }
  | _ => stage

/-- What the engine finds before it starts. -/
def check (stage : Stage) (settings : Settings) : Except Failure Unit :=
  (settings.check.run (fun request stage => (stage.reply none request, stage)) stage).1

/-- Whether a producer's request is answered without waiting for something to happen. -/
def answersAtOnce : Request → Bool
  | .nextLog | .pause _ => false
  | _ => true

end Stage

instance : Source Stage where
  answer request stage := (stage.reply none request, stage.record request)
  answersAtOnce request _ := Stage.answersAtOnce request

/-! ### Plays of several acts -/

namespace Play

def tasks (play : Play Stage) : List (WatcherTasks × Nat) :=
  match play.engine.stage with
  | .tracking tracker => tracker.tasks.zipIdx
  | _ => []

/-- Lets a watcher that waits go on: its pause is over, or a log of its stream has come, or its
stream has ended. -/
def release (play : Play Stage) (heard : Option Log) (i : Nat) : Play Stage :=
  ((play.track (.produce i (.reply (play.source.reply heard)))).getD play).settle

/-- The watchers whose request satisfies a condition, in their order. -/
def waitingFor (play : Play Stage) (condition : Request → List Kind → Bool) : List Nat :=
  play.tasks.filterMap fun (tasks, i) =>
    match tasks.producer with
    | some (.calling (.ask request _)) =>
      if condition request tasks.watcher.kinds then some i else none
    | _ => none

def wake (play : Play Stage) : Play Stage :=
  (play.waitingFor fun request _ => request matches .pause _).foldl (release · none) play

/-- Brings a log to the streams of the watchers that want it. -/
def push (play : Play Stage) (log : Log) : Play Stage :=
  (play.waitingFor fun request kinds => request matches .nextLog && wanted kinds log).foldl
    (release · (some log)) play

def act (play : Play Stage) (act : Act) : Play Stage :=
  act.stream.foldl push { play with source := play.source.enter act }.wake.settle

def endStreams (play : Play Stage) : Play Stage :=
  (play.waitingFor fun request _ => request matches .nextLog).foldl (release · none) play

/-- Plays acts until the engine ends, with the database at the end of each act that it survives. -/
def acts : List Act → Play Stage → List Database × Play Stage
  | [], play => ([], play)
  | first :: rest, play =>
    let play := play.act first
    if play.result?.isSome then ([], play)
    else
      let (databases, last) := acts rest play
      (play.engine.database :: databases, last)

/-- The way a play is brought to its end. -/
inductive Ending
  | cancel
  | endStream
  deriving DecidableEq, Repr

/-- Plays acts and then brings the engine to its end. -/
def run (acts : List Act) (ending : Ending) (play : Play Stage) : List Database × Play Stage :=
  let (databases, play) := play.acts acts
  (databases, match ending with
    | .cancel => play.cancel
    | .endStream => play.endStreams.cancel)

end Play

end EventIndexer.Simulation
