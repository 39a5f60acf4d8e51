import EventIndexer.CommandLine.Grammar
import EventIndexer.Query
import EventIndexer.Quote
import EventIndexer.Settings
import EventIndexer.Url

/-! The two commands: one runs the engine, the other queries what it has stored. -/

namespace EventIndexer

def Kind.word : Kind → String
  | transfer => "transfer"
  | stake => "stake"
  | unstake => "unstake"
  | register => "register"
  | rewardReferral => "reward-referral"
  | rewardStakers => "reward-stakers"
  | ownershipTransferred => "ownership-transferred"

def Entity.word : Entity → String
  | record kind => kind.word
  | cursor => "cursor"
  | rewardsSum => "rewards-sum"

def Entity.all : List Entity := Kind.all.map record ++ [cursor, rewardsSum]

def LiveMode.word : LiveMode → String
  | poll => "poll"
  | subscribe => "subscribe"

namespace CommandLine

/-- Puts a kind before those that come later in `Kind.all`. -/
def insertKind (kind : Kind) : List Kind → List Kind
  | [] => [kind]
  | next :: rest =>
    if kind.rank ≤ next.rank then kind :: next :: rest else next :: insertKind kind rest

/-- Drops each kind that is equal to the one before it. -/
def dropRepeats : List Kind → List Kind
  | [] => []
  | [kind] => [kind]
  | first :: second :: rest =>
    if first = second then dropRepeats (second :: rest) else first :: dropRepeats (second :: rest)

/-- The kinds of a selection in the order of `Kind.all`, each once; all if none is selected. -/
def eventKinds (selected : List Kind) : List Kind :=
  if selected.isEmpty then Kind.all else dropRepeats (selected.foldr insertKind [])

/-! ### The signing key -/

/-- The order of the group in which keys live. -/
def groupOrder : Nat := 0xfffffffffffffffffffffffffffffffebaaedce6af48a03bbfd25e8cd0364141

/-- Why a text is not a private key, if it is not: a key is 32 bytes, not zero and below the order
of the group. -/
def keyProblem (text : String) : Option String :=
  let bytes := (Hex.unprefixed text.toList).flatMap String.utf8EncodeChar
  let digits := bytes.map fun byte => Char.ofNat byte.toNat
  if digits.length % 2 = 1 then some "odd number of digits"
  else if digits.length ≠ 64 then some "invalid string length"
  else match digits.zipIdx.find? fun (c, _) => (Hex.digit? c).isNone with
    | some (c, i) => some ("invalid character " ++ Quote.single c ++ " at position " ++ toString i)
    | none =>
      match Hex.number? digits 0 with
      | some key => if 0 < key ∧ key < groupOrder then none else some "signature error"
      | none => some "signature error"

/-- Whether a node can be used with a signing key. -/
def checkSigner (signer : Option String) : Except Failure Unit :=
  match signer.bind keyProblem with
  | none => .ok ()
  | some problem => .error ((Cause.other problem : Failure).within "Invalid signer private key")

/-! ### Options -/

def isNumber (text : String) : Bool := (parseNumber? text).isSome

def isAddress (text : String) : Bool := (Address.parse? text).isSome

def isFromBlock (text : String) : Bool := (FromBlock.parse text).toOption.isSome

def numberOption (name envVar : String) : OptionSpec :=
  { name, envVar := some envVar, value := .text isNumber }

def engineOptions : List OptionSpec :=
  [{ name := "rpc-url", short := some 'r', envVar := some "RPC_URL", value := .text Url.isValid,
     required := true },
   { name := "db-url", short := some 'd', envVar := some "DB_URL", value := .text fun _ => true,
     required := true },
   { name := "signer-pk", short := some 's', envVar := some "SIGNER_PK",
     value := .text fun _ => true },
   { name := "contract-address", short := some 'a', envVar := some "CONTRACT_ADDRESS",
     value := .text isAddress, required := true },
   { name := "events", short := some 'e', envVar := some "EVENTS", arity := .many,
     value := .word (Kind.all.map Kind.word) },
   { name := "cursor-key", envVar := some "CURSOR_KEY", value := .text fun _ => true },
   numberOption "cursor-seed" "CURSOR_SEED",
   numberOption "max-range-width" "MAX_RANGE_WIDTH",
   numberOption "poll-interval" "POLL_INTERVAL_MS",
   numberOption "retry-deadline" "RETRY_DEADLINE_MS",
   numberOption "retry-interval" "RETRY_INTERVAL_MS",
   { name := "live-mode", envVar := some "LIVE_MODE",
     value := .word [LiveMode.poll.word, LiveMode.subscribe.word] },
   { name := "watcher-per-event", envVar := some "WATCHER_PER_EVENT", arity := .flag,
     value := .word ["true", "false"] }]

def selectOptions : List OptionSpec :=
  [{ name := "db-url", short := some 'd', envVar := some "DB_URL", value := .text fun _ => true,
     required := true },
   { name := "entity", short := some 'e', value := .word (Entity.all.map Entity.word),
     required := true },
   { name := "from-block", value := .text isFromBlock },
   { name := "referral", value := .text isAddress }]

def readSettings (given : Given) : Settings :=
  let basic : Settings :=
    { address := ((given.value? "contract-address").bind Address.parse?).getD 0 }
  let number (name : String) (default : Nat) : Nat :=
    ((given.value? name).bind parseNumber?).getD default
  { basic with
    events := eventKinds ((given.values "events").filterMap fun word =>
      Kind.all.find? (·.word == word))
    cursorKey := (given.value? "cursor-key").getD basic.cursorKey
    cursorSeed := number "cursor-seed" basic.cursorSeed
    maxRangeWidth := number "max-range-width" basic.maxRangeWidth
    pollInterval := number "poll-interval" basic.pollInterval
    retryDeadline := number "retry-deadline" basic.retryDeadline
    retryInterval := number "retry-interval" basic.retryInterval
    liveMode :=
      if given.value? "live-mode" = some LiveMode.subscribe.word then .subscribe else .poll
    watcherPerEvent := given.value? "watcher-per-event" = some "true" }

def readQuery (given : Given) : Query :=
  { databaseUrl := (given.value? "db-url").getD ""
    entity := ((given.value? "entity").bind fun word =>
      Entity.all.find? (·.word == word)).getD .cursor
    fromBlock := ((given.value? "from-block").bind fun text =>
      (FromBlock.parse text).toOption).getD (.number 0)
    referral := (given.value? "referral").bind Address.parse? }

structure EngineCommand where
  nodeUrl : String
  databaseUrl : String
  /-- A private key; the engine itself only reads. -/
  signer : Option String
  settings : Settings
  deriving Repr

inductive Command
  | engine (command : EngineCommand)
  | select (query : Query)
  deriving Repr

/-- The variables of the environment that can stand in for options. -/
def variableNames : List String := (engineOptions ++ selectOptions).filterMap (·.envVar)

def commandWords : List String := ["engine", "select", "help"]

/-- Help on a command, if it is one. -/
def readHelp : List String → Refusal
  | [] => .help
  | [word] => if commandWords.contains word then .help else .invalidSubcommand
  | _ => .invalidSubcommand

/-- Why a command line that does not begin with a command is refused. -/
def refuseFirst (text : String) : Refusal :=
  match text.toList with
  | '-' :: '-' :: rest =>
    let (name, value) := Split.first '=' rest
    if name = "help".toList then (if value.isSome then .tooManyValues else .help)
    else .unknownArgument
  | '-' :: c :: _ => if c = 'h' then .help else .unknownArgument
  | _ => .invalidSubcommand

/-- Reads a command line, without the program's name. -/
def parse (arguments : List String) (environment : String → Option String) :
    Except Refusal Command :=
  match arguments with
  | [] => .error .nothingGiven
  | "engine" :: rest => do
    let given ← readOptions engineOptions environment rest
    return .engine
      { nodeUrl := (given.value? "rpc-url").getD ""
        databaseUrl := (given.value? "db-url").getD ""
        signer := given.value? "signer-pk"
        settings := readSettings given }
  | "select" :: rest => do return .select (readQuery (← readOptions selectOptions environment rest))
  | "help" :: rest => .error (readHelp rest)
  | ["--"] => .error .nothingGiven
  | "--" :: word :: _ =>
    .error (if commandWords.contains word then .unknownArgument else .invalidSubcommand)
  | text :: _ => .error (refuseFirst text)

end CommandLine

end EventIndexer
