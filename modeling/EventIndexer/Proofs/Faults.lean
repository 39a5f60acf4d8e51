import EventIndexer.Proofs.Undisturbed

/-! Routines that run alone, among faults.  Any request may fail by itself, any insertion of a
transaction may, and the database refuses what its triggers or the bound of a column forbid.  A
transaction that fails leaves every row as it was. -/

namespace EventIndexer

theorem Routine.run_within {σ α : Type} {answer : (request : Request) → σ → request.Reply × σ}
    (context : String) (routine : Routine α) (world : σ) :
    (routine.within context).run answer world =
      ((routine.run answer world).1.mapError (·.within context),
        (routine.run answer world).2) := by
  induction routine generalizing world with
  | done result => cases result <;> rfl
  | ask request next ih => exact ih _ _

/-- The reply to what fails with a failure, if with any. -/
def outcome {α : Type} (value : α) : Option Failure → Except Failure α
  | none => .ok value
  | some failure => .error failure

/-! ### Transactions that may break -/

/-- Rows with one more event, unless there is one of its kind at its place. -/
def keep (rows : List Event) (event : Event) : List Event :=
  if rows.any event.sameRow then rows else rows ++ [event]

/-- Rows with some more events: of those of a kind at a place the first stays. -/
def keepAll (rows events : List Event) : List Event := events.foldl keep rows

theorem keepAll_append (rows first second : List Event) :
    keepAll rows (first ++ second) = keepAll (keepAll rows first) second :=
  List.foldl_append

namespace Database

/-- The failure of a statement that a trigger refuses. -/
def refused (text : String) : Failure := Cause.database triggerCode text

/-- Why an insertion fails at a place of its batch, if it does. -/
def refusal? (broken : Nat → Option Failure) (triggers : List Trigger) (event : Event)
    (place : Nat) : Option Failure :=
  broken place <|>
    (triggers.findSome? (Trigger.refusesEvent event)).map refused

/-- Why the first insertion that fails does, if one of a batch does. -/
def batchRefusal? (broken : Nat → Option Failure) (triggers : List Trigger) (place : Nat)
    (events : List Event) : Option Failure :=
  (events.zipIdx place).findSome? fun (event, place) => refusal? broken triggers event place

/-- Why the database refuses to set a cursor, if it does. -/
def cursorRefusal? (triggers : List Trigger) (key : String) (height : Nat) : Option Failure :=
  if columnBound ≤ height then some Cause.heightTooLarge
  else (triggers.findSome? (Trigger.refusesCursor key height)).map refused

/-- Inserts events one after another, where an insertion fails that stands at a broken place. -/
def insertFrom (broken : Nat → Option Failure) (database : Database) :
    (place : Nat) → List Event → Except Failure Database
  | _, [] => .ok database
  | place, event :: rest =>
    match broken place with
    | some failure => .error failure
    | none => do
      let (database, _) ← database.insert event
      insertFrom broken database (place + 1) rest

/-- Stores events in one transaction, in which an insertion may break. -/
def transact (broken : Nat → Option Failure) (database : Database) (events : List Event) :
    Except Failure Unit × Database :=
  match (do database.open?; database.insertFrom broken 0 events) with
  | .ok changed => (.ok (), changed)
  | .error failure => (.error failure, database)

variable {database : Database} {broken : Nat → Option Failure}

theorem insert_eq (database : Database) (event : Event) :
    database.insert event =
      match database.triggers.findSome? (Trigger.refusesEvent event) with
      | some text => .error (refused text)
      | none => .ok ({ database with events := keep database.events event },
          if database.events.any event.sameRow then 0 else 1) := by
  unfold insert keep
  cases database.triggers.findSome? (Trigger.refusesEvent event) with
  | some text => rfl
  | none => cases database.events.any event.sameRow <;> simp

theorem insertFrom_eq (database : Database) (place : Nat) (events : List Event) :
    database.insertFrom broken place events =
      outcome { database with events := keepAll database.events events }
        (batchRefusal? broken database.triggers place events) := by
  induction events generalizing database place with
  | nil => rfl
  | cons event rest ih =>
    rw [insertFrom, batchRefusal?, List.zipIdx_cons, List.findSome?_cons]
    cases hbroken : broken place with
    | some failure => simp [refusal?, hbroken, outcome]
    | none =>
      dsimp only
      rw [insert_eq]
      cases htrigger : database.triggers.findSome? (Trigger.refusesEvent event) with
      | some text => simp [refusal?, hbroken, htrigger, outcome, bind, Except.bind]
      | none =>
        simp only [refusal?, hbroken, htrigger, bind, Except.bind]
        exact ih _ _

/-- A transaction stores all of its events, or it fails as its first refused insertion does and
stores none. -/
theorem transact_eq (hopened : database.closed = false) (events : List Event) :
    database.transact broken events =
      match batchRefusal? broken database.triggers 0 events with
      | some failure => (.error failure, database)
      | none => (.ok (), { database with events := keepAll database.events events }) := by
  have hall : database.insertFrom broken 0 events = _ := insertFrom_eq database 0 events
  unfold transact open?
  cases hrefused : batchRefusal? broken database.triggers 0 events <;>
    simp [hopened, hall, hrefused, outcome, bind, Except.bind]

/-- A transaction in which nothing breaks is that of the database. -/
theorem transact_unbroken (database : Database) (events : List Event) :
    database.transact (fun _ => none) events =
      ((database.append events).1.map fun _ => (), (database.append events).2) := by
  have hall : ∀ (database : Database) place,
      database.insertFrom (fun _ => none) place events =
        (database.insertAll events).map Prod.fst := by
    induction events with
    | nil => exact fun _ _ => rfl
    | cons event rest ih =>
      intro database place
      rw [insertFrom, insertAll]
      cases database.insert event with
      | error failure => rfl
      | ok inserted =>
        simp only [bind, Except.bind, ih]
        cases inserted.1.insertAll rest <;> rfl
  unfold transact append
  rw [hall]
  cases database.open? with
  | error failure => rfl
  | ok _ => cases database.insertAll events <;> rfl

theorem setCursor_eq (hopened : database.closed = false) (key : String) (height : Nat) :
    database.setCursor key height =
      match cursorRefusal? database.triggers key height with
      | some failure => (.error failure, database)
      | none => (.ok (), { database with cursors := setRow key height database.cursors }) := by
  unfold setCursor column cursorRefusal? setColumn
  by_cases hbound : columnBound ≤ height
  · simp [hbound]
  · simp only [hbound, if_false, hopened]
    cases database.triggers.findSome? (Trigger.refusesCursor key height) <;> rfl

end Database

/-! ### Surroundings -/

/-- What is around a routine that runs alone: what its node tells it, and what goes wrong.  Rounds
begin with the ranges that are asked for, and all that comes before the first is round zero. -/
structure Surroundings where
  head : Nat
  /-- The logs of a range, in the order in which the node has them. -/
  logs : ChunkFilter → List Log
  /-- Why a request fails by itself. -/
  fault : (round : Nat) → Request → Option Failure := fun _ _ => none
  /-- Why an insertion fails by itself, at a place of the batch of a round. -/
  broken : (round place : Nat) → Option Failure := fun _ _ => none

/-- A database, and the ranges that were asked for, in order. -/
structure Scene where
  database : Database
  asked : List ChunkFilter := []

namespace Surroundings

variable (around : Surroundings)

/-- The reply to a request that does not fail by itself. -/
def perform (round : Nat) (request : Request) (database : Database) : request.Reply × Database :=
  match request with
  | .chunk filter => (.ok (around.logs filter), database)
  | .storeBatch events => database.transact (around.broken round) events
  | request => Chain.serve [] around.head request database

def answer (request : Request) (scene : Scene) : request.Reply × Scene :=
  let asked := scene.asked ++ match request with
    | .chunk filter => [filter]
    | _ => []
  match around.fault asked.length request with
  | some failure => (.error failure, { scene with asked })
  | none =>
    let (reply, database) := around.perform asked.length request scene.database
    (reply, { database, asked })

/-- Where nothing goes wrong, requests are performed as on a chain. -/
theorem perform_calm (chain : Chain) (head round : Nat) (request : Request)
    (database : Database) :
    ({ head, logs := chain.wanted } : Surroundings).perform round request database =
      chain.serve head request database := by
  cases request with
  | storeBatch events => exact Database.transact_unbroken database events
  | _ => rfl

variable {around : Surroundings} {scene : Scene} {round : Nat} {key : String} {height : Nat}

theorem run_chunk (filter : ChunkFilter) (hround : scene.asked.length + 1 = round) :
    (Routine.request (.chunk filter)).run around.answer scene =
      (outcome (around.logs filter) (around.fault round (.chunk filter)),
        { scene with asked := scene.asked ++ [filter] }) := by
  have hlength : (scene.asked ++ [filter]).length = round := by simpa using hround
  simp only [Routine.request, Routine.run, answer, hlength]
  cases around.fault round (.chunk filter) <;> rfl

theorem run_storeBatch (hopened : scene.database.closed = false) (events : List Event)
    (hround : scene.asked.length = round) :
    (Routine.request (.storeBatch events)).run around.answer scene =
      match around.fault round (.storeBatch events) <|>
        Database.batchRefusal? (around.broken round) scene.database.triggers 0 events with
      | some failure => (.error failure, scene)
      | none => (.ok (), { scene with
          database := { scene.database with
            events := keepAll scene.database.events events } }) := by
  simp only [Routine.request, Routine.run, answer, List.append_nil, hround]
  cases around.fault round (.storeBatch events) with
  | some failure => rfl
  | none =>
    simp only [perform, Database.transact_eq hopened]
    cases Database.batchRefusal? (around.broken round) scene.database.triggers 0 events <;> rfl

theorem run_read (hopened : scene.database.closed = false) (found : Option Nat)
    (hrow : scene.database.row key = found.map Int.ofNat) (hround : scene.asked.length = round) :
    (Cursor.read key).run around.answer scene =
      (outcome found (around.fault round (.readCursor key)), scene) := by
  simp only [Cursor.read, Routine.request, Routine.run, answer, List.append_nil, hround]
  cases around.fault round (.readCursor key) with
  | some failure => rfl
  | none =>
    simp only [perform, Chain.serve, Database.answer, Option.getD_some,
      Database.cursor_eq hopened hrow]
    rfl

theorem run_write (hopened : scene.database.closed = false)
    (hround : scene.asked.length = round) :
    (Cursor.write key height).run around.answer scene =
      match around.fault round (.writeCursor key height) <|>
        Database.cursorRefusal? scene.database.triggers key height with
      | some failure => (.error failure, scene)
      | none => (.ok (), { scene with
          database := { scene.database with
            cursors := Database.setRow key height scene.database.cursors } }) := by
  simp only [Cursor.write, Routine.request, Routine.run, answer, List.append_nil, hround]
  cases around.fault round (.writeCursor key height) with
  | some failure => rfl
  | none =>
    simp only [perform, Chain.serve, Database.answer, Option.getD_some,
      Database.setCursor_eq hopened]
    cases Database.cursorRefusal? scene.database.triggers key height <;> rfl

end Surroundings

end EventIndexer
