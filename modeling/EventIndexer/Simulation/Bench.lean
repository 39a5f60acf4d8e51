import EventIndexer.Channel
import EventIndexer.Simulation.Script

/-! The two loops of a channel on a clock of their own.  At each instant the task at the other end
of the channel runs until it has to wait, then the loop does, and so on until both wait; only then
does the clock move to the next instant at which something ends. -/

namespace EventIndexer.Simulation

/-- The earlier of two instants, where there are any. -/
def sooner : Option Nat → Option Nat → Option Nat
  | none, b => b
  | a, none => a
  | some a, some b => some (min a b)

/-- An instant that is still to come. -/
def toCome (now : Nat) (time : Option Nat) : Option Nat := time.filter (now < ·)

/-- Takes steps until none can be taken, at most `limit`. -/
def steps (step : σ → Option σ) : (limit : Nat) → σ → σ
  | 0, state => state
  | limit + 1, state =>
    match step state with
    | none => state
    | some next => steps step limit next

/-- More steps than any run that is meant to end takes. -/
def stepLimit : Nat := 1000000000

/-! ### A producer and someone who receives -/

/-- A producer whose calls change a world `σ`, and a receiver that takes some messages and then
drops its end. -/
structure ProducerBench (σ μ : Type) where
  now : Nat := 0
  cancelAt : Option Nat
  link : Link μ
  phase : Producer.Phase (Call σ μ) μ := .ready
  world : σ
  received : List (Nat × μ) := []
  /-- How many more messages are taken; none for all that come. -/
  wanted : Option Nat
  /-- How long the receiver sleeps after each. -/
  pause : Nat := 0
  wakesAt : Nat := 0
  receiving : Bool := true

namespace ProducerBench

variable {σ μ : Type}

def receive (bench : ProducerBench σ μ) : Option (ProducerBench σ μ) :=
  if !bench.receiving || bench.now < bench.wakesAt then none
  else if bench.wanted = some 0 then
    some { bench with receiving := false, link := bench.link.withoutReceiver }
  else match bench.link.channel.take? with
    | some (message, channel) =>
      some
        { bench with
          link := { bench.link with channel }
          received := bench.received ++ [(bench.now, message)]
          wanted := bench.wanted.map (· - 1)
          wakesAt := bench.now + bench.pause }
    | none =>
      if bench.link.channel.senderGone then
        some { bench with receiving := false, link := bench.link.withoutReceiver }
      else none

def take (bench : ProducerBench σ μ) (step : Producer.Step (Call σ μ) μ) :
    Option (ProducerBench σ μ) :=
  (Producer.step bench.link bench.phase step).map fun (link, phase) =>
    { bench with link, phase }

/-- What the producer does next at this instant; `call` is its callback. -/
def produce (call : (now : Nat) → (cancelAt : Option Nat) → σ → Call σ μ)
    (bench : ProducerBench σ μ) : Option (ProducerBench σ μ) :=
  match bench.phase with
  | .ready =>
    if bench.link.cancelled then bench.take .stop
    else bench.take (.call (call bench.now bench.cancelAt bench.world))
  | .calling running =>
    let bench := { bench with world := running.world, cancelAt := running.cancelAt }
    if running.ends = some bench.now then bench.take (.finish running.result)
    else if running.cancelAt.any (· ≤ bench.now) then
      { bench with link := { bench.link with cancelled := true } }.take .stop
    else none
  | .sending _ => bench.take .send
  | .ended _ => none

def next (bench : ProducerBench σ μ) : Option Nat :=
  let called := match bench.phase with
    | .calling running => sooner (toCome bench.now running.ends) (toCome bench.now running.cancelAt)
    | _ => none
  let resting := if bench.receiving then toCome bench.now (some bench.wakesAt) else none
  sooner (toCome bench.now bench.cancelAt) (sooner called resting)

/-- The clock moved on, with the token fired if it is time. -/
def tick (bench : ProducerBench σ μ) : Option (ProducerBench σ μ) :=
  let ended := match bench.phase with
    | .ended _ => true
    | _ => false
  if ended && !bench.receiving then none
  else bench.next.map fun now => { bench with now }

/-- The token as the clock stands. -/
def observe (bench : ProducerBench σ μ) : ProducerBench σ μ :=
  { bench with
    link := { bench.link with
      cancelled := bench.link.cancelled || bench.cancelAt.any (· ≤ bench.now) } }

/-- One turn: the receiver runs until it waits, then the producer does; if neither can do anything,
the clock moves. -/
def turn (call : (now : Nat) → (cancelAt : Option Nat) → σ → Call σ μ)
    (bench : ProducerBench σ μ) : Option (ProducerBench σ μ) :=
  let bench := bench.observe
  match bench.receive with
  | some next => some (steps receive stepLimit next)
  | none =>
    match bench.produce call with
    | some next => some (steps (produce call) stepLimit next)
    | none => bench.tick

def run (call : (now : Nat) → (cancelAt : Option Nat) → σ → Call σ μ)
    (bench : ProducerBench σ μ) : ProducerBench σ μ :=
  steps (turn call) stepLimit bench

end ProducerBench

/-- A callback whose calls go as some attempts do; the world counts them. -/
def attemptCall (attempts : List (Attempt α)) (now : Nat) (cancelAt : Option Nat)
    (calls : Nat) : Call Nat α :=
  let attempt := attemptAt attempts calls
  match attempt.ending with
  | none => { ends := none, result := unseen, world := calls + 1, cancelAt }
  | some result =>
    if attempt.after ≠ 0 && cancelAt.any (· ≤ now + attempt.after) then
      { ends := none, result := unseen, world := calls + 1, cancelAt }
    else { ends := some (now + attempt.after), result, world := calls + 1, cancelAt }

/-- The callback of a watcher's producer over a script; the world is what it keeps and the script's
tape. -/
def Script.callback (script : Script) (settings : Settings) (kinds : List Kind) (now : Nat)
    (cancelAt : Option Nat) (world : Feed × Tape) : Call (Feed × Tape) Message :=
  let call := script.call (world.1.next settings kinds) now cancelAt world.2
  match call.result with
  | .ok (message, feed) =>
    { ends := call.ends
      result := .ok message
      world := (if call.ends.isSome then feed else world.1, call.world)
      cancelAt := call.cancelAt }
  | .error failure =>
    { ends := call.ends
      result := .error failure
      world := (world.1, call.world)
      cancelAt := call.cancelAt }

/-- A watcher's producer over a script, from a cursor; where its stream cannot be opened, it is
refused and nothing runs. -/
structure FeedRun extends ProducerBench (Feed × Tape) Message where
  refused : Option Failure := none

/-- Runs the producer of a watcher over a script, into a channel of which some messages are
received. -/
def runFeed (script : Script) (settings : Settings) (cursor capacity : Nat) (wanted : Option Nat)
    (cancelAt : Option Nat) : FeedRun :=
  let feed := Feed.after cursor
  let bench (tape : Tape) : ProducerBench (Feed × Tape) Message :=
    { cancelAt, link := { channel := { capacity } }, world := (feed, tape), wanted }
  let run (tape : Tape) : FeedRun :=
    { (bench tape).run (script.callback settings settings.events) with }
  match settings.liveMode with
  | .poll => run {}
  | .subscribe =>
    let opened := script.answer cancelAt {} (.openStream (feed.stream settings settings.events))
    match opened.reply with
    | .ok () => run opened.tape
    | .error failure => { bench opened.tape with refused := some failure }

/-! ### A consumer and someone who sends -/

/-- A call of the consumer: its message, and when it begins and ends. -/
structure Handling where
  message : Int
  begun : Nat
  ends : Nat
  deriving Repr

/-- A consumer that works for a while on each message, and a sender that waits before each. -/
structure ConsumerBench where
  now : Nat := 0
  cancelAt : Option Nat
  link : Link Int
  phase : Consumer.Phase Handling := .ready
  work : Nat
  failing : List Int
  /-- The messages to send, each with the time before it. -/
  toSend : List (Nat × Int)
  sentAt : Nat := 0
  /-- Whether the channel stays open after the last message. -/
  keepOpen : Bool
  consumed : List Handling := []
  endedAt : Option Nat := none

namespace ConsumerBench

def send (bench : ConsumerBench) : Option ConsumerBench :=
  match bench.toSend with
  | [] =>
    if bench.keepOpen || bench.link.channel.senderGone then none
    else some { bench with link := bench.link.withoutSender }
  | (time, message) :: rest =>
    if bench.now < bench.sentAt + time then none
    else if bench.link.channel.receiverGone then some { bench with toSend := [], keepOpen := false }
    else if bench.link.channel.hasRoom then
      let channel := { bench.link.channel with queue := bench.link.channel.queue ++ [message] }
      some
        { bench with link := { bench.link with channel }, toSend := rest, sentAt := bench.now }
    else none

def take (bench : ConsumerBench) (step : Consumer.Step Handling) : Option ConsumerBench :=
  let start message : Handling :=
    { message, begun := bench.now, ends := bench.now + bench.work }
  (Consumer.step start bench.link bench.phase step).map fun (link, phase) =>
    match phase with
    | .ended _ => { bench with link, phase, endedAt := some bench.now }
    | _ => { bench with link, phase }

def consume (bench : ConsumerBench) : Option ConsumerBench :=
  match bench.phase with
  | .ready =>
    if bench.link.cancelled then bench.take .stop
    else bench.take .take <|> bench.take .drained
  | .handling call =>
    if bench.now < call.ends then none
    else
      let bench := { bench with consumed := bench.consumed ++ [call] }
      if bench.failing.contains call.message then
        bench.take (.finish (.error (Cause.other s!"cannot consume {call.message}")))
      else bench.take (.finish (.ok ()))
  | .ended _ => none

def next (bench : ConsumerBench) : Option Nat :=
  let handled := match bench.phase with
    | .handling call => toCome bench.now (some call.ends)
    | _ => none
  let sent := bench.toSend.head?.bind fun (time, _) => toCome bench.now (some (bench.sentAt + time))
  sooner (toCome bench.now bench.cancelAt) (sooner handled sent)

/-- One turn: the sender runs until it waits, then the consumer does; if neither can do anything,
the clock moves. -/
def turn (bench : ConsumerBench) : Option ConsumerBench :=
  let bench := { bench with
    link := { bench.link with
      cancelled := bench.link.cancelled || bench.cancelAt.any (· ≤ bench.now) } }
  match bench.phase with
  | .ended _ => none
  | _ =>
    match bench.send with
    | some next => some (steps send stepLimit next)
    | none =>
      match bench.consume with
      | some next => some (steps consume stepLimit next)
      | none => bench.next.map fun now => { bench with now }

def run (bench : ConsumerBench) : ConsumerBench := steps turn stepLimit bench

end ConsumerBench

end EventIndexer.Simulation
