import EventIndexer.Backfill
import EventIndexer.Feed
import EventIndexer.Retry
import EventIndexer.Store.Database

/-! A source that answers from a script: heads that come, fail or never come, logs to be found by
range, faults, and a stream.  Every request takes a time that is known beforehand, so whole runs can
be computed on a clock of their own. -/

namespace EventIndexer.Simulation

/-- What a fault looks like to the caller. -/
inductive FaultForm
  | network
  | subscription
  | range
  | other
  deriving DecidableEq, Repr

structure Fault where
  text : String
  form : FaultForm := .other
  deriving DecidableEq, Repr

def Fault.failure (fault : Fault) (first last : Nat) : Failure :=
  match fault.form with
  | .network => Cause.network fault.text
  | .subscription => Cause.subscription fault.text
  | .range => Cause.rangeTooLarge first last fault.text
  | .other => Cause.other fault.text

/-- Whether a log is given to someone who asks for some kinds: its kind is one of them, or it has no
known kind. -/
def wanted (kinds : List Kind) (log : Log) : Bool :=
  match log.topics with
  | [] => true
  | signature :: _ => (Kind.ofSignature? signature).all kinds.contains

/-- The logs of a range among some, in their order. -/
def logsWithin (logs : List Log) (filter : ChunkFilter) : List Log :=
  logs.filter fun log =>
    log.block.any (fun block => filter.first ≤ block && block ≤ filter.last) &&
      wanted filter.kinds log

structure Script where
  /-- The head queries in order; the last one repeats for ever. -/
  heads : List (Attempt Nat) := []
  logs : List Log := []
  chunkTime : Nat := 0
  /-- The range queries that fail, by their number. -/
  chunkFaults : List (Nat × Fault) := []
  /-- The range query during which the token fires. -/
  cancelOnChunk : Option Nat := none
  /-- The logs of the stream, each with the time it lets wait. -/
  stream : List (Nat × Log) := []
  streamEnds : Bool := false
  streamFault : Option Fault := none

structure Tape where
  headCalls : Nat := 0
  chunks : List ChunkFilter := []
  streams : List StreamFilter := []
  heard : Nat := 0
  deriving Repr

/-- The attempt of a number among some of which the last repeats; with none, it never ends. -/
def attemptAt (attempts : List (Attempt α)) (i : Nat) : Attempt α :=
  attempts.getD (min i (attempts.length - 1)) { after := 0, ending := none }

/-- How a request goes: the time it takes, if it ends at all, and its reply then. -/
structure Answered (request : Request) where
  time : Option Nat
  reply : request.Reply
  tape : Tape
  /-- Whether the token fires as the reply comes. -/
  fires : Bool := false

/-- The reply of a request that the script has nothing for. -/
def unscripted : Failure := Cause.other "not scripted"

/-- Answers a request; a token that fires does so at `cancelAt`, counted from now. -/
def Script.answer (script : Script) (cancelAt : Option Nat) (tape : Tape) :
    (request : Request) → Answered request
  | .head deadline interval =>
    let attempts i := attemptAt script.heads (tape.headCalls + i)
    match Retry.run deadline interval attempts cancelAt (deadline + script.heads.length + 2) with
    | none => { time := none, reply := .error unscripted, tape }
    | some outcome =>
      { time := some outcome.elapsed
        reply := outcome.result
        tape := { tape with headCalls := tape.headCalls + outcome.begun } }
  | .chunk filter =>
    let call := tape.chunks.length
    { time := some script.chunkTime
      reply := match script.chunkFaults.lookup call with
        | some fault => .error (fault.failure filter.first filter.last)
        | none => .ok (logsWithin script.logs filter)
      tape := { tape with chunks := tape.chunks ++ [filter] }
      fires := script.cancelOnChunk == some call }
  | .openStream filter =>
    { time := some 0
      reply := match script.streamFault with
        | some fault => .error (fault.failure filter.first filter.first)
        | none => .ok ()
      tape := { tape with streams := tape.streams ++ [filter] } }
  | .nextLog =>
    match script.stream[tape.heard]? with
    | some (time, log) =>
      { time := some time, reply := .ok (some log), tape := { tape with heard := tape.heard + 1 } }
    | none => { time := if script.streamEnds then some 0 else none, reply := .ok none, tape }
  | .pause time => { time := some time, reply := .ok (), tape }
  | .lock => { time := some 0, reply := .ok (), tape }
  | .unlock => { time := some 0, reply := .ok (), tape }
  | .hasCode _ => { time := some 0, reply := .ok true, tape }
  | .readCursor _ => { time := some 0, reply := .error unscripted, tape }
  | .writeCursor .. => { time := some 0, reply := .error unscripted, tape }
  | .storeOne _ => { time := some 0, reply := .error unscripted, tape }
  | .storeBatch _ => { time := some 0, reply := .error unscripted, tape }

/-- A call on the clock: when it ends, if it does, and with what; and what is known of the token and
the world after it. -/
structure Call (σ μ : Type) where
  ends : Option Nat
  result : Except Failure μ
  world : σ
  cancelAt : Option Nat

/-- The result of a call that is never seen. -/
def unseen : Except Failure α := .error Cause.cancelled

/-- Runs a routine from a time on, until it ends or a wait is cut off by the token. -/
def Script.call (script : Script) :
    Routine α → (now : Nat) → (cancelAt : Option Nat) → Tape → Call Tape α
  | .done result, now, cancelAt, tape => { ends := some now, result, world := tape, cancelAt }
  | .ask request next, now, cancelAt, tape =>
    let answered := script.answer (cancelAt.map (· - now)) tape request
    let dropped : Call Tape α :=
      { ends := none, result := unseen, world := answered.tape, cancelAt }
    match answered.time, answered.reply with
    | none, _ => dropped
    | some time, reply =>
      let interrupted := match reply with
        | .error failure => failure.isCancellation
        | .ok _ => false
      if interrupted || time ≠ 0 && cancelAt.any (· ≤ now + time) then dropped
      else
        let fired := now + time
        let cancelAt := if answered.fires then some (cancelAt.elim fired (min fired)) else cancelAt
        script.call (next reply) fired cancelAt answered.tape

end EventIndexer.Simulation
