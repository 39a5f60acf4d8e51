import EventIndexer.Decode
import EventIndexer.Routine

/-! The database: one table of events a kind, and a table of cursors.  A statement can be refused by
a trigger, and everything fails once the database is closed. -/

namespace EventIndexer

/-- A rule by which a write is refused, with the text of the refusal. -/
inductive Trigger
  | event (kind : Kind) (height : Int) (text : String)
  | cursor (key : String) (least : Int) (text : String)
  deriving DecidableEq, Repr

/-- The text under which a trigger refuses an event, if it does. -/
def Trigger.refusesEvent (event : Event) : Trigger → Option String
  | .event kind height text =>
    if event.kind = kind ∧ event.position.height = height then some text else none
  | .cursor .. => none

/-- The text under which a trigger refuses a height of a cursor, if it does. -/
def Trigger.refusesCursor (key : String) (height : Int) : Trigger → Option String
  | .cursor refused least text => if refused = key ∧ least ≤ height then some text else none
  | .event .. => none

structure Database where
  /-- The events of all tables in the order of insertion. -/
  events : List Event := []
  /-- The height of each key, keys in no particular order. -/
  cursors : List (String × Int) := []
  triggers : List Trigger := []
  closed : Bool := false
  deriving DecidableEq, Repr

namespace Database

/-- The code under which a trigger refuses a statement. -/
def triggerCode : Nat := 1811

def open? (database : Database) : Except Failure Unit :=
  if database.closed then .error Cause.databaseClosed else .ok ()

def column (height : Nat) : Except Failure Int :=
  if columnBound ≤ height then .error Cause.heightTooLarge else .ok height

/-! ### Events -/

/-- The events with one more, unless it is stored already or refused; and the rows it adds. -/
def insert (database : Database) (event : Event) : Except Failure (Database × Nat) :=
  match database.triggers.findSome? (Trigger.refusesEvent event) with
  | some text => .error (Cause.database triggerCode text)
  | none =>
    if database.events.any event.sameRow then .ok (database, 0)
    else .ok ({ database with events := database.events ++ [event] }, 1)

def insertAll (database : Database) : List Event → Except Failure (Database × Nat)
  | [] => .ok (database, 0)
  | event :: rest => do
    let (database, rows) ← database.insert event
    let (database, more) ← database.insertAll rest
    return (database, rows + more)

/-- Stores events in one transaction: if one cannot be inserted, none is.  The number of new rows is
returned. -/
def append (database : Database) (events : List Event) : Except Failure Nat × Database :=
  match (do database.open?; database.insertAll events) with
  | .ok (changed, rows) => (.ok rows, changed)
  | .error failure => (.error failure, database)

/-- Whether a row comes before another in a listing, or at the same place. -/
def notAfter (a b : Event) : Bool :=
  a.position.height < b.position.height ||
    a.position.height == b.position.height && a.position.index ≤ b.position.index

/-- Puts a row into a listing, before those at the same place. -/
def insertRow (row : Event) : List Event → List Event
  | [] => [row]
  | next :: rest => if notAfter row next then row :: next :: rest else next :: insertRow row rest

def table (database : Database) (kind : Kind) : List Event :=
  database.events.filter (·.kind == kind)

/-- The events of a kind from a height on, by height and index, and by insertion where those are
equal. -/
def list (database : Database) (kind : Kind) (first : Nat) : Except Failure (List Event) := do
  let least ← column first
  database.open?
  return ((database.table kind).filter (least ≤ ·.position.height)).foldr insertRow []

def count (database : Database) (kind : Kind) : Except Failure Nat := do
  database.open?
  return (database.table kind).length

/-! ### Cursors -/

/-- The stored height of a cursor, as it is stored. -/
def cursorRow (database : Database) (key : String) : Except Failure (Option Int) := do
  database.open?
  return database.cursors.lookup key

def cursor (database : Database) (key : String) : Except Failure (Option Nat) := do
  match ← database.cursorRow key with
  | none => return none
  | some height => if height < 0 then .error Cause.heightNegative else return some height.toNat

/-- Cursors with one of them set to a height. -/
def setRow (key : String) (height : Int) : List (String × Int) → List (String × Int)
  | [] => [(key, height)]
  | row :: rest => if row.1 = key then (key, height) :: rest else row :: setRow key height rest

@[simp] theorem lookup_setRow_self (key : String) (height : Int) (rows : List (String × Int)) :
    (setRow key height rows).lookup key = some height := by
  induction rows with
  | nil => simp [setRow]
  | cons row rest ih =>
    obtain ⟨other, old⟩ := row
    rw [setRow]
    split
    · simp
    · next h => simp [List.lookup_cons, ih, beq_false_of_ne (Ne.symm h)]

/-- Setting one cursor leaves every other one as it is. -/
theorem lookup_setRow_of_ne {key other : String} (h : other ≠ key) (height : Int)
    (rows : List (String × Int)) : (setRow key height rows).lookup other = rows.lookup other := by
  induction rows with
  | nil => simp [setRow, List.lookup_cons, beq_false_of_ne h]
  | cons row rest ih =>
    obtain ⟨found, old⟩ := row
    rw [setRow]
    split
    · next hfound => simp_all [List.lookup_cons, beq_false_of_ne h]
    · simp [List.lookup_cons, ih]

/-- Sets a cursor to any height that a column holds. -/
def setColumn (database : Database) (key : String) (height : Int) :
    Except Failure Unit × Database :=
  if database.closed then (.error Cause.databaseClosed, database)
  else match database.triggers.findSome? (Trigger.refusesCursor key height) with
    | some text => (.error (Cause.database triggerCode text), database)
    | none => (.ok (), { database with cursors := setRow key height database.cursors })

/-- Sets a cursor.  A height that does not fit is found before the database is used. -/
def setCursor (database : Database) (key : String) (height : Nat) :
    Except Failure Unit × Database :=
  match column height with
  | .error failure => (.error failure, database)
  | .ok height => database.setColumn key height

/-- Puts a row into a list of cursors ordered by key. -/
def insertCursor (row : String × Int) : List (String × Int) → List (String × Int)
  | [] => [row]
  | next :: rest =>
    if row.1 ≤ next.1 then row :: next :: rest else next :: insertCursor row rest

def listCursors (database : Database) : Except Failure (List (String × Int)) := do
  database.open?
  return database.cursors.foldr insertCursor []

/-! ### Triggers -/

def addTrigger (database : Database) (trigger : Trigger) : Except Failure Unit × Database :=
  if database.closed then (.error Cause.databaseClosed, database)
  else (.ok (), { database with triggers := database.triggers ++ [trigger] })

def dropTriggers (database : Database) : Except Failure Unit × Database :=
  if database.closed then (.error Cause.databaseClosed, database)
  else (.ok (), { database with triggers := [] })

/-! ### Requests -/

/-- The reply to a request made of the database; none for a request made of something else. -/
def answer (database : Database) : (request : Request) → Option (request.Reply × Database)
  | .readCursor key => some (database.cursor key, database)
  | .writeCursor key height => some (database.setCursor key height)
  | .storeOne event =>
    let (result, database) := database.append [event]
    some (result.map fun _ => (), database)
  | .storeBatch events =>
    let (result, database) := database.append events
    some (result.map fun _ => (), database)
  | _ => none

end Database

end EventIndexer
