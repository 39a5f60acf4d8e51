import EventIndexer.Event
import EventIndexer.Failure

/-! Operations as trees of requests.  A routine asks for one thing at a time and goes on with the
answer, so one definition serves both to be run from beginning to end and to be interleaved with
others request by request. -/

namespace EventIndexer

/-- A query of logs over an inclusive range of blocks. -/
structure ChunkFilter where
  address : Address
  kinds : List Kind
  first : Nat
  last : Nat
  deriving DecidableEq, Repr

/-- A stream of logs from a block on. -/
structure StreamFilter where
  address : Address
  kinds : List Kind
  first : Nat
  pollInterval : Nat
  deriving DecidableEq, Repr

/-- One thing asked of the database, the node or the clock. -/
inductive Request
  /-- The height that a cursor is stored at, if it is stored. -/
  | readCursor (key : String)
  /-- Stores a cursor, whatever its height was. -/
  | writeCursor (key : String) (height : Nat)
  | storeOne (event : Event)
  /-- Stores all of some events, or none. -/
  | storeBatch (events : List Event)
  /-- Waits until no one else moves the shared cursor. -/
  | lock
  | unlock
  | hasCode (address : Address)
  /-- The head's height, asked for again and again up to a deadline. -/
  | head (deadline interval : Nat)
  | chunk (filter : ChunkFilter)
  | openStream (filter : StreamFilter)
  /-- The next log of the stream, or none at its end. -/
  | nextLog
  /-- Waits for some milliseconds. -/
  | pause (time : Nat)
  deriving DecidableEq, Repr

/-- What a request is answered with when it succeeds. -/
@[reducible] def Request.Answer : Request → Type
  | readCursor _ => Option Nat
  | writeCursor .. | storeOne _ | storeBatch _ | lock | unlock | openStream _ | pause _ => Unit
  | hasCode _ => Bool
  | head .. => Nat
  | chunk _ => List Log
  | nextLog => Option Log

abbrev Request.Reply (request : Request) : Type := Except Failure request.Answer

/-- An operation: its result, or a request and what follows each reply to it. -/
inductive Routine (α : Type) : Type
  | done (result : Except Failure α)
  | ask (request : Request) (next : request.Reply → Routine α)

namespace Routine

variable {α β γ : Type}

def bind : Routine α → (α → Routine β) → Routine β
  | done (.ok value), next => next value
  | done (.error failure), _ => done (.error failure)
  | ask request rest, next => ask request fun reply => (rest reply).bind next

instance : Monad Routine where
  pure value := done (.ok value)
  bind := bind

@[simp] theorem done_ok_bind (value : α) (next : α → Routine β) :
    (done (.ok value) : Routine α) >>= next = next value := rfl

@[simp] theorem done_error_bind (failure : Failure) (next : α → Routine β) :
    (done (.error failure) : Routine α) >>= next = done (.error failure) := rfl

@[simp] theorem ask_bind (request : Request) (rest : request.Reply → Routine α)
    (next : α → Routine β) :
    ask request rest >>= next = ask request fun reply => rest reply >>= next := rfl

theorem bind_assoc (routine : Routine α) (f : α → Routine β) (g : β → Routine γ) :
    (routine >>= f) >>= g = routine >>= fun value => f value >>= g := by
  induction routine with
  | done result => cases result <;> rfl
  | ask request rest ih => simp only [ask_bind, ih]

theorem bind_pure (routine : Routine α) : routine >>= pure = routine := by
  induction routine with
  | done result => cases result <;> rfl
  | ask request rest ih => simp only [ask_bind, ih]

instance : LawfulMonad Routine :=
  LawfulMonad.mk' Routine bind_pure (fun _ _ => rfl) bind_assoc

def fail (failure : Failure) : Routine α := done (.error failure)

def request (request : Request) : Routine request.Answer := ask request done

/-- The routine that says more about its failure. -/
def within (context : String) : Routine α → Routine α
  | done (.ok value) => done (.ok value)
  | done (.error failure) => done (.error (failure.within context))
  | ask request next => ask request fun reply => (next reply).within context

/-- The routine that ends with a request, whether it succeeds or fails. -/
def ending (last : Request) : Routine α → Routine α
  | done result => ask last fun _ => done result
  | ask request next => ask request fun reply => (next reply).ending last

/-- Runs a routine to its end, with every request answered at once. -/
def run {σ : Type} (answer : (request : Request) → σ → request.Reply × σ) :
    Routine α → σ → Except Failure α × σ
  | done result, world => (result, world)
  | ask request next, world =>
    let (reply, world) := answer request world
    (next reply).run answer world

/-- If the first of two routines succeeds, the second begins in the world that it leaves. -/
theorem run_bind {σ : Type} (answer : (request : Request) → σ → request.Reply × σ)
    (routine : Routine α) (next : α → Routine β) (world : σ) :
    (routine >>= next).run answer world =
      match routine.run answer world with
      | (.ok value, world) => (next value).run answer world
      | (.error failure, world) => (.error failure, world) := by
  induction routine generalizing world with
  | done result => cases result <;> rfl
  | ask request rest ih => simp only [ask_bind, run, ih]

end Routine

end EventIndexer
