import EventIndexer.Engine
import EventIndexer.Simulation.Sink

/-! A whole engine over a source, in one fixed order of its steps: what is received is consumed
first, streams are opened before anything is queried, and each watcher comes as far as it can before
the next one starts.  It runs until nothing is left to do. -/

namespace EventIndexer.Simulation

class Source (σ : Type) where
  answer : (request : Request) → σ → request.Reply × σ
  /-- Whether a request is answered without waiting for something to happen. -/
  answersAtOnce : Request → σ → Bool

/-- An engine over a source and through a sink. -/
structure Play (σ : Type) where
  engine : Engine
  source : σ
  sink : Sink := {}

namespace Play

variable {σ : Type}

def take (play : Play σ) (step : Engine.Step) : Option (Play σ) :=
  (play.engine.step step).map fun engine => { play with engine }

def track (play : Play σ) (step : Tracker.Step) : Option (Play σ) := play.take (.track step)

/-- Has the database perform a request, through the sink. -/
def perform (play : Play σ) (request : Request) (step : Option Failure → Engine.Step) :
    Option (Play σ) :=
  let (fault, sink) := play.sink.receive request
  { play with sink }.take (step fault)

def ask [Source σ] (play : Play σ) (request : Request)
    (step : ((request : Request) → request.Reply) → Engine.Step) : Option (Play σ) :=
  { play with source := (Source.answer request play.source).2 }.take
    (step fun request => (Source.answer request play.source).1)

def consumerStep (play : Play σ) (fired : Bool) (i : Nat) (tasks : WatcherTasks) :
    Option (Play σ) :=
  match tasks.consumer with
  | .handling (.ask request _) =>
    play.perform request fun fault => .track (.consume i (.perform fault))
  | .handling (.done _) => play.track (.consume i .finish)
  | .ready =>
    if fired then play.track (.consume i .stop)
    else play.track (.consume i .take) <|> play.track (.consume i .drained)
  | .ended _ => play.track (.joinConsumer i)

/-- What the producer of a watcher does next, unless it waits for something to happen. -/
def producerStep [Source σ] (play : Play σ) (fired : Bool) (i : Nat) (tasks : WatcherTasks) :
    Option (Play σ) :=
  match tasks.producer with
  | none => none
  | some .ready => play.track (.produce i (if fired then .stop else .call))
  | some (.calling (.done _)) => play.track (.produce i .finish)
  | some (.calling (.ask request _)) =>
    if fired then play.track (.produce i .stop)
    else if Source.answersAtOnce request play.source then
      play.ask request fun answer => .track (.produce i (.reply answer))
    else none
  | some (.sending _) => play.track (.produce i .send)
  | some (.ended _) => play.track (.joinProducer i)

/-- Starts the next watcher, or opens the stream of the last one. -/
def startStep [Source σ] (play : Play σ) (tracker : Tracker) : Option (Play σ) :=
  match tracker.tasks.getLast? with
  | some { producer := none, watcher, feed, .. } =>
    let request := Request.openStream (feed.stream play.engine.settings watcher.kinds)
    play.ask request fun answer => .track (.opened (answer request))
  | _ => play.track .spawn

/-- The first step that some task of the tracker can take. -/
def trackerStep [Source σ] (play : Play σ) (tracker : Tracker) : Option (Play σ) :=
  let fired := play.engine.cancelled || tracker.fired
  let tasks := tracker.tasks.zipIdx
  (tasks.findSome? fun (tasks, i) => play.consumerStep fired i tasks) <|>
    play.startStep tracker <|>
    (tasks.findSome? fun (tasks, i) => play.producerStep fired i tasks)

/-- The next step of the play; none when the engine waits for something to happen. -/
def next [Source σ] (play : Play σ) : Option (Play σ) :=
  match play.engine.stage with
  | .backfilling routine =>
    if play.engine.cancelled then play.take .interrupt
    else match routine with
      | .done _ => play.take .advance
      | .ask request _ =>
        play.perform request .perform <|>
          if Source.answersAtOnce request play.source then play.ask request .reply else none
  | .seeding (.done _) => play.take .advance
  | .seeding (.ask request _) => play.perform request .perform
  | .tracking tracker => play.take .advance <|> play.trackerStep tracker
  | .ended _ => none

/-- Runs until the engine waits for something to happen. -/
def settle [Source σ] (play : Play σ) : Play σ := steps next stepLimit play

def result? (play : Play σ) : Option (Except Failure Unit) :=
  match play.engine.stage with
  | .ended result => some result
  | _ => none

def cancel [Source σ] (play : Play σ) : Play σ :=
  if play.result?.isSome then play else ((play.take .cancel).getD play).settle

end Play

end EventIndexer.Simulation
