import EventIndexer.Cursor
import EventIndexer.Progress

/-! The backfill: every log between the cursor and the head, stored range by range.  The head is
read once, and the cursor follows each range only after its events are stored, so a failure leaves
it at the last height that is fully stored. -/

namespace EventIndexer.Backfill

structure Report where
  batches : Nat := 0
  persisted : Nat := 0
  skipped : Nat := 0
  /-- The cursor at the end, from which the watchers go on. -/
  cursor : Nat
  head : Nat
  deriving DecidableEq, Repr

/-- One range: its logs are queried, decoded and stored, and the cursor moves to its end.  The
numbers of events stored and of logs skipped are returned. -/
def batch (settings : Settings) (first last : Nat) : Routine (Nat × Nat) := do
  let logs ← (Routine.request (.chunk
    { address := settings.address, kinds := settings.events, first, last })).within
      s!"Backfill failed to query blocks [{first}, {last}]"
  let (events, skipped) := decodeAll logs
  unless events.isEmpty do
    (Routine.request (.storeBatch events)).within
      s!"Backfill failed to persist blocks [{first}, {last}]"
  Cursor.checkpoint settings.cursorKey last
  return (events.length, skipped)

/-- The ranges from a block up to the head, at most `limit` of them. -/
def sweep (settings : Settings) (head : Nat) : (limit next : Nat) → Report → Routine Report
  | 0, _, report => return report
  | limit + 1, next, report =>
    match batchRange next head settings.maxRangeWidth with
    | none => return report
    | some (first, last) => do
      let (persisted, skipped) ← batch settings first last
      let report :=
        { report with
          batches := report.batches + 1
          persisted := report.persisted + persisted
          skipped := report.skipped + skipped
          cursor := last }
      if last = head then return report else sweep settings head limit (last + 1) report

/-- The whole backfill; a range holds a block or more, so there are no more ranges than blocks. -/
def run (settings : Settings) : Routine Report := do
  Routine.done settings.validate
  let cursor ← Cursor.loadOrSeed settings.cursorKey settings.cursorSeed
  let head ← Routine.request (.head settings.retryDeadline settings.retryInterval)
  let report : Report := { cursor, head }
  if head ≤ cursor then return report
  else sweep settings head (head - cursor) (cursor + 1) report

end EventIndexer.Backfill
