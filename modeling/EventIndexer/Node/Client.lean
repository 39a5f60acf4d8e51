import EventIndexer.Json.Raw
import EventIndexer.Node.Error
import EventIndexer.Routine

/-! What is asked of a node over JSON-RPC, and how its answers are read. -/

namespace EventIndexer.Node

structure Call where
  method : String
  params : Option Json := none
  deriving Repr

structure Answer where
  status : Nat := 200
  body : String
  deriving Repr

/-! ### Calls -/

/-- The signatures of some kinds in increasing order, each once. -/
def insertSignature (signature : Word) : List Word → List Word
  | [] => [signature]
  | next :: rest =>
    if signature < next then signature :: next :: rest
    else if signature = next then next :: rest
    else next :: insertSignature signature rest

/-- The condition on the first topic: one signature alone, several as alternatives, none at all. -/
def topics (kinds : List Kind) : Json :=
  match (kinds.map Kind.signature).foldr insertSignature [] with
  | [] => .array []
  | [signature] => .array [.string signature.text]
  | signatures => .array [.array (signatures.map fun signature => .string signature.text)]

def headCall : Call := { method := "eth_blockNumber" }

def codeCall (address : Address) : Call :=
  { method := "eth_getCode", params := some (.array [.string address.text, .string "latest"]) }

def chunkCall (filter : ChunkFilter) : Call :=
  { method := "eth_getLogs"
    params := some (.array [.object
      [("address", .string filter.address.text),
        ("fromBlock", .string (Hex.quantity filter.first)),
        ("toBlock", .string (Hex.quantity filter.last)),
        ("topics", topics filter.kinds)]]) }

def streamCall (filter : StreamFilter) : Call :=
  { method := "eth_newFilter"
    params := some (.array [.object
      [("address", .string filter.address.text),
        ("fromBlock", .string (Hex.quantity filter.first)),
        ("topics", topics filter.kinds)]]) }

/-- Asks for what has come to a filter since it was last asked. -/
def changesCall (filter : Nat) : Call :=
  { method := "eth_getFilterChanges", params := some (.array [.string (Hex.quantity filter)]) }

/-! ### Answers -/

/-- Reads a value that may stand once or be missing; none if it stands twice or cannot be read. -/
def once? (read : String → Option α) : List String → Option (Option α)
  | [] => some none
  | [value] => (read value).map some
  | _ => none

/-- The integer that a JSON text stands for, if it has 64 bits with its sign. -/
def code? (text : String) : Option Int := do
  let .integer code ← Json.parse? text | none
  guard (code < 0x8000000000000000)
  return code

/-- The string that a JSON text stands for. -/
def message? (text : String) : Option String := do
  let .string message ← Json.parse? text | none
  return message

/-- The error that the text of an answer's error stands for: it has a code. -/
def responseError? (text : String) : Option CallError := do
  let members ← Json.rawMembers? text
  let code ← once? code? (Json.valuesOf "code" members)
  let message ← once? message? (Json.valuesOf "message" members)
  let data ← once? some (Json.valuesOf "data" members)
  return .response (← code) (message.getD "") (data.filter (· ≠ "null"))

/-- Whether a JSON text can be the number of a call. -/
def isId (text : String) : Bool :=
  match Json.parse? text with
  | some .null | some (.string _) => true
  | some (.integer value) => 0 ≤ value
  | _ => false

/-- The text of a call's result: an answer holds either one result or one error. -/
def result (answer : Answer) : Except CallError String :=
  if answer.status < 200 || 300 ≤ answer.status then .error (.http answer.status answer.body)
  else match Json.rawMembers? answer.body with
    | none => .error .unreadable
    | some members =>
      if (once? some (Json.valuesOf "id" members)).any (·.all isId) then
        match Json.valuesOf "result" members, Json.valuesOf "error" members with
        | [result], [] => .ok result
        | [], [error] => .error ((responseError? error).getD .unreadable)
        | _, _ => .error .unreadable
      else .error .unreadable

/-- A number below a bound, as a number or as text. -/
def quantity? (bound : Nat) : Json → Option Nat
  | .integer value => if value < 0 then none else (some value.toNat).filter (· < bound)
  | .string text => (Amount.parse? text).filter (· < bound)
  | _ => none

/-- Bytes, as digits or one by one. -/
def bytes? : Json → Option (List UInt8)
  | .string text => Hex.bytes? (Hex.unprefixed text.toList)
  | .array items => items.mapM fun
    | .integer value => if 0 ≤ value ∧ value < 256 then some (UInt8.ofNat value.toNat) else none
    | _ => none
  | _ => none

/-- Exactly so many bytes. -/
def fixedBytes? (length : Nat) (value : Json) : Option (List UInt8) :=
  (bytes? value).filter (·.length = length)

def word? (value : Json) : Option Word := (fixedBytes? 32 value).map Word.ofBytes

def address? (value : Json) : Option Address :=
  (fixedBytes? 20 value).map fun bytes => BitVec.ofNat 160 (bigEndian bytes)

/-- A value that may be null; none if it cannot be read. -/
def nullable? (read : Json → Option α) : Json → Option (Option α)
  | .null => some none
  | value => (read value).map some

/-- A value that may be null or missing; none if it cannot be read. -/
def optional? (read : Json → Option α) (value : Option Json) : Option (Option α) :=
  nullable? read (value.getD .null)

/-- The bound of quantities: they have 64 bits. -/
def quantityBound : Nat := 0x10000000000000000

/-- The fields of a log that are read; none may stand twice. -/
def logFields : List String :=
  ["address", "topics", "data", "blockHash", "blockNumber", "blockTimestamp", "transactionHash",
    "transactionIndex", "logIndex", "removed"]

/-- A log as a node reports it: a log that is pending has null where its block would be. -/
def log? (value : Json) : Option Log := do
  let .object fields := value | none
  guard (logFields.all fun name => (Json.valuesOf name fields).length ≤ 1)
  let address ← address? (← Json.field? "address" value)
  let .array topics ← Json.field? "topics" value | none
  let topics ← topics.mapM word?
  let data ← bytes? (← Json.field? "data" value)
  let _ ← optional? word? (Json.field? "blockHash" value)
  let block ← nullable? (quantity? quantityBound) (← Json.field? "blockNumber" value)
  let _ ← optional? (quantity? quantityBound) (Json.field? "blockTimestamp" value)
  let transaction ← optional? word? (Json.field? "transactionHash" value)
  let _ ← nullable? (quantity? quantityBound) (← Json.field? "transactionIndex" value)
  let index ← nullable? (quantity? quantityBound) (← Json.field? "logIndex" value)
  let removed ← match Json.field? "removed" value with
    | none => some false
    | some (.bool removed) => some removed
    | some _ => none
  return { block, index, transaction, topics, data, address, removed }

def logs? : Json → Option (List Log)
  | .array items => items.mapM log?
  | _ => none

def readAs (read : Json → Option α) (answer : Answer) : Except CallError α := do
  match (Json.parse? (← result answer)).bind read with
  | none => .error .unreadable
  | some value => return value

def orFail (cause : CallError → Cause) : Except CallError α → Except Failure α
  | .ok value => .ok value
  | .error error => .error (cause error)

/-- The logs that are mined: one that is pending is reported again once it is. -/
def mined (logs : List Log) : List Log := logs.filter (·.block.isSome)

def readHead (answer : Answer) : Except Failure Nat :=
  orFail CallError.cause (readAs (quantity? quantityBound) answer)

def readCode (answer : Answer) : Except Failure Bool :=
  orFail CallError.cause ((readAs bytes? answer).map (!·.isEmpty))

def readChunk (filter : ChunkFilter) (answer : Answer) : Except Failure (List Log) :=
  orFail (·.rangedCause filter.first filter.last) ((readAs logs? answer).map mined)

def readFilter (answer : Answer) : Except Failure Nat :=
  orFail CallError.streamCause (readAs (quantity? Amount.bound) answer)

/-- What has come to a filter: logs, or its end, once the node has dropped it.  Any other error is
passed over, and the filter is asked again. -/
def readChanges (answer : Answer) : Option (List Log) :=
  match readAs logs? answer with
  | .ok logs => some (mined logs)
  | .error (.response _ message _) =>
    if occurs "filter not found".toList message.toList then none else some []
  | .error _ => some []

end EventIndexer.Node
