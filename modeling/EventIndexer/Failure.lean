import EventIndexer.Duration
import EventIndexer.Word

/-! Everything that can go wrong, with the texts it is reported under. -/

namespace EventIndexer

inductive Cause
  | configuration (reason : String)
  | notDeployed (address : Address)
  /-- A call kept failing until its deadline passed; the time is in nanoseconds. -/
  | deadlineExceeded (attempts elapsed : Nat) (last : String)
  /-- A wait was interrupted. -/
  | cancelled
  | streamEnded
  /-- The node cannot be reached, or answers with an error; asking again may help. -/
  | network (reason : String)
  /-- The node refuses a range of blocks for its size. -/
  | rangeTooLarge (first last : Nat) (reason : String)
  | subscription (reason : String)
  | heightTooLarge
  | heightNegative
  /-- The database refuses a statement, with its code. -/
  | database (code : Nat) (text : String)
  /-- The database is asked for a setting it does not have. -/
  | databaseSetting (reason : String)
  /-- A path cannot be handed to the system. -/
  | unusablePath (reason : String)
  | databaseClosed
  | other (text : String)
  deriving DecidableEq, Repr

/-- The text of a cause, followed by the texts of what caused it in turn. -/
def Cause.texts : Cause → List String
  | configuration reason => ["invalid configuration: " ++ reason]
  | notDeployed address => ["no contract code deployed at " ++ address.checksum]
  | deadlineExceeded attempts elapsed last =>
    ["deadline exceeded after " ++ toString attempts ++ " attempts in " ++ Duration.text elapsed ++
      ": " ++ last]
  | cancelled => ["operation cancelled"]
  | streamEnded => ["log stream ended"]
  | network reason => ["network error: " ++ reason]
  | rangeTooLarge first last reason =>
    ["block range [" ++ toString first ++ ", " ++ toString last ++ "] rejected by provider: " ++
      reason]
  | subscription reason => ["subscription error: " ++ reason]
  | heightTooLarge =>
    ["error occurred while encoding a value: number too large to fit in target type",
      "number too large to fit in target type"]
  | heightNegative =>
    ["error occurred while decoding: number too small to fit in target type",
      "number too small to fit in target type"]
  | database code text =>
    let statement := "(code: " ++ toString code ++ ") " ++ text
    ["error returned from database: " ++ statement, statement]
  | databaseSetting reason => ["error with configuration: " ++ reason, reason]
  | unusablePath reason => ["error communicating with database: " ++ reason, reason]
  | databaseClosed => ["attempted to acquire a connection on a closed pool"]
  | other text => [text]

/-- A cause behind the messages of the operations it made fail, outermost first. -/
structure Failure where
  cause : Cause
  contexts : List String := []
  deriving DecidableEq, Repr

namespace Failure

def texts (failure : Failure) : List String := failure.contexts ++ failure.cause.texts

def message (failure : Failure) : String := failure.texts.headD ""

/-- The texts behind the outermost one. -/
def chain (failure : Failure) : List String := failure.texts.tail

/-- All texts on one line. -/
def line (failure : Failure) : String := String.intercalate ": " failure.texts

/-- The failure seen through one more operation. -/
def within (failure : Failure) (context : String) : Failure :=
  { failure with contexts := context :: failure.contexts }

/-- Whether a failure only says that a wait was interrupted. -/
def isCancellation (failure : Failure) : Bool := failure.cause == .cancelled

/-- Whether asking the node again may help. -/
def isTransient (failure : Failure) : Bool := failure.cause matches .network _

end Failure

instance : Coe Cause Failure := ⟨fun cause => { cause }⟩

end EventIndexer
