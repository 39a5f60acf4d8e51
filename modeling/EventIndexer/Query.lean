import EventIndexer.Json
import EventIndexer.Range
import EventIndexer.Settings
import EventIndexer.Store.Rewards

/-! Queries of what is stored, answered in JSON. -/

namespace EventIndexer

inductive Entity
  | record (kind : Kind)
  | cursor
  | rewardsSum
  deriving DecidableEq, Repr

/-- The first height that is included. -/
inductive FromBlock
  | number (height : Nat)
  | last
  deriving DecidableEq, Repr

structure Query where
  databaseUrl : String
  entity : Entity
  fromBlock : FromBlock := .number 0
  /-- The only recipient whose rewards are added. -/
  referral : Option Address := none
  deriving DecidableEq, Repr

/-- The number below `2 ^ 64` that decimal digits stand for, after a plus sign if there is one. -/
def parseNumber? (text : String) : Option Nat :=
  let digits := match text.toList with
    | '+' :: rest => rest
    | digits => digits
  if digits.isEmpty || !digits.all Char.isDigit then none
  else
    let value := digits.foldl (fun n c => 10 * n + (c.toNat - 48)) 0
    if value ≤ maxHeight then some value else none

/-- A height, or `last` in any letter case. -/
def FromBlock.parse (text : String) : Except String FromBlock :=
  if text.toList.map Char.toLower = "last".toList then .ok .last
  else match parseNumber? text with
    | some height => .ok (.number height)
    | none => .error ("`" ++ text ++ "` is not a valid block number or `last`")

/-! ### Rows -/

def Position.fields (position : Position) : List (String × Json) :=
  [("block_height", .integer position.height), ("transaction_hash", .string position.transaction),
    ("log_index", .integer position.index)]

def Details.fields : Details → List (String × Json)
  | transfer sender recipient value =>
    [("from_address", .string sender), ("to_address", .string recipient), ("value", .string value)]
  | stake staker amount => [("staker", .string staker), ("amount", .string amount)]
  | unstake staker amount => [("staker", .string staker), ("amount", .string amount)]
  | register referral trader => [("referral", .string referral), ("trader", .string trader)]
  | rewardReferral trader referral level amount =>
    [("trader", .string trader), ("referral", .string referral), ("level", .integer level),
      ("amount", .string amount)]
  | rewardStakers trader amount => [("trader", .string trader), ("amount", .string amount)]
  | ownershipTransferred previousOwner newOwner =>
    [("previous_owner", .string previousOwner), ("new_owner", .string newOwner)]

/-- The fields of a stored event, without the time at which it was stored. -/
def Event.fields (event : Event) : List (String × Json) :=
  event.position.fields ++ event.details.fields

def RewardSum.fields (sum : RewardSum) : List (String × Json) :=
  [("referral", .string sum.referral), ("level", .integer sum.level),
    ("total", .string (toString sum.total))]

namespace Query

/-- The fields of a stored event, with the time at which it was stored. -/
def eventRow (time : String) (event : Event) : Json :=
  .object (event.fields ++ [("created_at", .string time)])

/-- The fields of a cursor, with the time at which it was moved. -/
def cursorRow (time : String) (row : String × Int) : Json :=
  .object [("key", .string row.1), ("last_height", .integer row.2), ("updated_at", .string time)]

/-- The first height of a query, where it has one: the default cursor may not be stored. -/
def firstHeight (database : Database) (query : Query) : Except Failure (Option Nat) :=
  match query.fromBlock with
  | .number height => .ok (some height)
  | .last => database.cursor defaultCursorKey

/-- The rows of a query.  Without the default cursor there is no last height, which only matters
where events are asked for. -/
def rows (database : Database) (time : String) (query : Query) : Except Failure (List Json) := do
  let first ← query.firstHeight database
  match query.entity with
  | .record kind =>
    match first with
    | none => .error (Cause.other "Cursor Not Found")
    | some first => return (← database.list kind first).map (eventRow time)
  | .cursor => return (← database.listCursors).map (cursorRow time)
  | .rewardsSum =>
    let sums ← database.rewardSums (query.referral.map Address.checksum)
    return sums.map fun sum => .object sum.fields

/-- What a query prints; the times of rows are shown as `time`. -/
def output (database : Database) (time : String) (query : Query) : Except Failure String := do
  return (Json.array (← query.rows database time)).pretty 0 ++ "\n"

end Query

end EventIndexer
