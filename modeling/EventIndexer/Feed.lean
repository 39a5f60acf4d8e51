import EventIndexer.Progress
import EventIndexer.Routine
import EventIndexer.Settings

/-! What the producer of a watcher does in one call: it queries the next range below the head, or,
once it has caught up, waits for blocks to come or for the stream's next log. -/

namespace EventIndexer

structure Feed where
  progress : Progress
  /-- Whether the ranges below the head are behind it; only a stream makes use of it. -/
  caughtUp : Bool := false
  deriving DecidableEq, Repr

namespace Feed

def after (cursor : Nat) : Feed := { progress := Progress.after cursor }

variable (settings : Settings) (kinds : List Kind) (feed : Feed)

/-- Queries the next range up to the current head; none when there is no block left. -/
def catchUp : Routine (Option (Message × Feed)) := do
  let head ← Routine.request (.head settings.retryDeadline settings.retryInterval)
  match feed.progress.nextRange head settings.maxRangeWidth with
  | none => return none
  | some (first, last) =>
    let logs ← Routine.request (.chunk { address := settings.address, kinds, first, last })
    let (message, progress) := feed.progress.onChunk last logs
    return some (message, { feed with progress })

/-- One call of a producer that polls: a range, or a pause and an empty message. -/
def poll : Routine (Message × Feed) := do
  match ← catchUp settings kinds feed with
  | some ahead => return ahead
  | none =>
    Routine.request (.pause settings.pollInterval)
    return ([], feed)

/-- The next log of the stream.  Its end is a failure. -/
def listen : Routine (Message × Feed) := do
  match ← Routine.request .nextLog with
  | none => Routine.fail Cause.streamEnded
  | some log =>
    let (message, progress) := feed.progress.onLog log
    return (message, { progress, caughtUp := true })

/-- One call of a producer that subscribed.  A stream only tells of blocks that came after it was
opened, so the blocks up to the head are queried before its first log is taken. -/
def follow : Routine (Message × Feed) := do
  if feed.caughtUp then listen feed
  else match ← catchUp settings kinds feed with
    | some ahead => return ahead
    | none => listen feed

def next : Routine (Message × Feed) :=
  match settings.liveMode with
  | .poll => poll settings kinds feed
  | .subscribe => follow settings kinds feed

/-- The stream that a producer opens before its first call. -/
def stream : StreamFilter :=
  { address := settings.address
    kinds
    first := feed.progress.next
    pollInterval := settings.pollInterval }

end Feed

end EventIndexer
