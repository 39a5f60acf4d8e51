import EventIndexer.Routine
import EventIndexer.Watcher

/-! Cursors that only move forward, and a shared cursor that follows the slowest of several. -/

namespace EventIndexer

namespace Cursor

def read (key : String) : Routine (Option Nat) := .request (.readCursor key)

def write (key : String) (height : Nat) : Routine Unit := .request (.writeCursor key height)

/-- The stored height; where none is stored, the seed is stored first. -/
def loadOrSeed (key : String) (seed : Nat) : Routine Nat := do
  match ← read key with
  | some height => return height
  | none =>
    write key seed
    return seed

/-- Records a height as fully stored; a height that is not past the stored one is ignored. -/
def checkpoint (key : String) (height : Nat) : Routine Unit := do
  match ← read key with
  | some current => if height ≤ current then return () else write key height
  | none => write key height

end Cursor

namespace Watermark

/-- The lowest height of some members and of those read before, or none as soon as a member has
none. -/
def lowest : List String → (low : Option Nat) → Routine (Option Nat)
  | [], low => return low
  | key :: rest, low => do
    match ← Cursor.read key with
    | none => return none
    | some height => lowest rest (some (low.elim height (min · height)))

/-- Moves the shared cursor up to the lowest member, once every member has a height. -/
def refresh (watermark : Watermark) : Routine (Option Nat) := do
  Routine.request .lock
  Routine.ending .unlock do
    let low ← lowest watermark.members none
    match low with
    | none => return none
    | some height =>
      Cursor.checkpoint watermark.shared height
      return some height

end Watermark

end EventIndexer
