import EventIndexer.Cursor
import EventIndexer.Progress

/-! What the consumer of a watcher does with a message: its works in order, so that a checkpoint is
recorded only after the events it covers are stored. -/

namespace EventIndexer

/-- One piece of work.  After a checkpoint of its own the watcher refreshes the shared cursor, if
there is one. -/
def Work.deliver (watcher : Watcher) : Work → Routine Unit
  | .skip => return ()
  | .checkpoint height => do
    Cursor.checkpoint watcher.key height
    match watcher.watermark with
    | none => return ()
    | some watermark =>
      let _ ← watermark.refresh
      return ()
  | .element event => Routine.request (.storeOne event)
  | .many [] => return ()
  | .many events => Routine.request (.storeBatch events)

/-- All works of a message, up to the first that fails. -/
def deliver (watcher : Watcher) : Message → Routine Unit
  | [] => return ()
  | work :: rest => do
    work.deliver watcher
    deliver watcher rest

end EventIndexer
