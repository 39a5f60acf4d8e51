import EventIndexer.Decode
import EventIndexer.Range

/-! How far a live watcher has come, and the work that each input of it makes. -/

namespace EventIndexer

/-- A piece of work handed from the producer of a watcher to its consumer. -/
inductive Work
  | skip
  | element (event : Event)
  /-- The events of a range, to store together. -/
  | many (events : List Event)
  /-- Every event up to this height has been handed over. -/
  | checkpoint (height : Nat)
  deriving DecidableEq, Repr

/-- What one call of a producer hands over. -/
abbrev Message := List Work

/-- The progress of a watcher: the next block it looks at, and the last height it declared
complete. -/
structure Progress where
  next : Nat
  checkpoint : Nat
  deriving DecidableEq, Repr

namespace Progress

/-- The progress right after a height that is known to be stored. -/
def after (cursor : Nat) : Progress := { next := min (cursor + 1) maxHeight, checkpoint := cursor }

/-- The next range to query below a head. -/
def nextRange (progress : Progress) (head width : Nat) : Option (Nat × Nat) :=
  batchRange progress.next head width

/-- All logs from the next block up to `last` were fetched. -/
def onChunk (_ : Progress) (last : Nat) (logs : List Log) : Message × Progress :=
  ([.many (decodeAll logs).1, .checkpoint last], { next := last + 1, checkpoint := last })

/-- One log was pushed by the stream.  Logs come in the order of their blocks, so a log of a block
shows that every block below is complete; a log of a block passed before, or of none, is skipped. -/
def onLog (progress : Progress) (log : Log) : Message × Progress :=
  match log.block with
  | none => ([.skip], progress)
  | some block =>
    if block < progress.next then ([.skip], progress)
    else
      let work := match log.event? with
        | some event => .element event
        | none => .skip
      if progress.checkpoint < block - 1 then
        ([work, .checkpoint (block - 1)], { next := block, checkpoint := block - 1 })
      else ([work], { progress with next := block })

end Progress

end EventIndexer
