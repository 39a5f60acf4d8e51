import EventIndexer.Failure
import EventIndexer.Kind

/-! The configuration of the engine. -/

namespace EventIndexer

/-- How the watchers learn about new blocks once the backfill is done. -/
inductive LiveMode
  /-- Ask for the head, and query each new range. -/
  | poll
  /-- Follow the node's stream of logs. -/
  | subscribe
  deriving DecidableEq, Repr

/-- The cursor that the backfill and a single watcher share, unless another key is set. -/
def defaultCursorKey : String := "block"

/-- What the engine is told at its start; times are in milliseconds. -/
structure Settings where
  address : Address
  events : List Kind := Kind.all
  cursorKey : String := defaultCursorKey
  /-- The cursor to begin with when none is stored: the first block looked at is the next one. -/
  cursorSeed : Nat := 0
  maxRangeWidth : Nat := 1000
  pollInterval : Nat := 500
  retryDeadline : Nat := 32000
  retryInterval : Nat := 32
  liveMode : LiveMode := .poll
  watcherPerEvent : Bool := false
  deriving DecidableEq, Repr

/-- The first rule that a configuration breaks, if it breaks one. -/
def Settings.validate (settings : Settings) : Except Failure Unit :=
  if settings.maxRangeWidth = 0 then
    .error (Cause.configuration "max range width must be at least 1")
  else if settings.events = [] then
    .error (Cause.configuration "at least one event kind must be tracked")
  else if settings.retryInterval = 0 then
    .error (Cause.configuration "retry interval must be positive")
  else if settings.cursorKey = "" then
    .error (Cause.configuration "cursor key must not be empty")
  else .ok ()

end EventIndexer
