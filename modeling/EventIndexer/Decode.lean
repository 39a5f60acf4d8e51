import EventIndexer.Event

/-! From logs to events.  The checks are made in a fixed order and the first that fails is the
reason given; a log that fails is skipped, never fatal. -/

namespace EventIndexer

/-- Why the topics and the data of a log do not fit its kind. -/
inductive LayoutError
  | topicCount
  | shortData
  deriving DecidableEq, Repr

inductive DecodeError
  | anonymous
  | unknownSignature (word : Word)
  | missingBlock
  | missingIndex
  | missingTransaction
  | blockOutOfRange
  | indexOutOfRange
  | layout (kind : Kind) (reason : LayoutError)
  deriving DecidableEq, Repr

def LayoutError.text : LayoutError → String
  | topicCount => "topic list length mismatch"
  | shortData => "ABI decoding failed: buffer overrun while deserializing"

def DecodeError.text : DecodeError → String
  | anonymous => "log carries no topics"
  | unknownSignature word => "unknown event signature " ++ word.text
  | missingBlock => "log is missing block_number"
  | missingIndex => "log is missing log_index"
  | missingTransaction => "log is missing transaction_hash"
  | blockOutOfRange => "log block_number does not fit the stored column"
  | indexOutOfRange => "log log_index does not fit the stored column"
  | layout kind reason => "failed to decode " ++ kind.name ++ " log: " ++ reason.text

/-- Stored columns are signed: heights and indices stay below this bound. -/
def columnBound : Nat := 0x8000000000000000

/-- The position of a mined log. -/
def Log.position (log : Log) : Except DecodeError Position :=
  match log.block, log.index, log.transaction with
  | none, _, _ => .error .missingBlock
  | some _, none, _ => .error .missingIndex
  | some block, some index, transaction =>
    if columnBound ≤ block then .error .blockOutOfRange
    else match transaction with
      | none => .error .missingTransaction
      | some transaction =>
        if columnBound ≤ index then .error .indexOutOfRange
        else .ok { height := block, transaction := transaction.text, index := index }

/-- The kind that the first topic of a log announces. -/
def Log.kind (log : Log) : Except DecodeError Kind :=
  match log.topics with
  | [] => .error .anonymous
  | signature :: _ =>
    match Kind.ofSignature? signature with
    | none => .error (.unknownSignature signature)
    | some kind => .ok kind

def Log.topic (log : Log) (i : Nat) : Word := log.topics.getD i 0

def Log.firstWord (log : Log) : Word := Word.ofBytes (log.data.take 32)

/-- The arguments of a log that is laid out as its kind demands; data past the words read is
ignored. -/
def Log.arguments (log : Log) : Kind → Details
  | .transfer =>
    .transfer (log.topic 1).address.checksum (log.topic 2).address.checksum
      (toString log.firstWord.toNat)
  | .stake => .stake (log.topic 1).address.checksum (toString log.firstWord.toNat)
  | .unstake => .unstake (log.topic 1).address.checksum (toString log.firstWord.toNat)
  | .register => .register (log.topic 1).address.checksum log.firstWord.address.checksum
  | .rewardReferral =>
    .rewardReferral (log.topic 1).address.checksum (log.topic 2).address.checksum
      (log.topic 3).lastByte (toString log.firstWord.toNat)
  | .rewardStakers => .rewardStakers (log.topic 1).address.checksum (toString log.firstWord.toNat)
  | .ownershipTransferred =>
    .ownershipTransferred (log.topic 1).address.checksum (log.topic 2).address.checksum

/-- The arguments of a log of a kind, once its topics are counted and its data measured. -/
def Log.details (log : Log) (kind : Kind) : Except DecodeError Details :=
  if log.topics.length ≠ kind.topicCount then .error (.layout kind .topicCount)
  else if log.data.length < 32 * kind.dataWords then .error (.layout kind .shortData)
  else .ok (log.arguments kind)

/-- The event that a log stands for. -/
def Log.decode (log : Log) : Except DecodeError Event := do
  let kind ← log.kind
  let position ← log.position
  let details ← log.details kind
  return { position, details }

def Log.event? (log : Log) : Option Event := log.decode.toOption

/-- The events of the logs that decode, in order, and the number of logs that do not. -/
def decodeAll : List Log → List Event × Nat
  | [] => ([], 0)
  | log :: rest =>
    let (events, skipped) := decodeAll rest
    match log.event? with
    | some event => (event :: events, skipped)
    | none => (events, skipped + 1)

end EventIndexer
