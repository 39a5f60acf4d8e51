import EventIndexer.Quote
import EventIndexer.Store.Database

/-! Referral rewards added up by recipient and level.  Amounts have 256 bits, so they are kept as
text and added exactly; a sum past the largest amount is a failure. -/

namespace EventIndexer

structure RewardSum where
  referral : String
  level : Int
  total : Nat
  deriving DecidableEq, Repr

namespace Rewards

/-- A position as it is named in a message. -/
def showPosition (position : Position) : String :=
  "LogMeta \x7b block_height: " ++ toString position.height ++ ", transaction_hash: " ++
    Quote.text position.transaction ++ ", log_index: " ++ toString position.index ++ " \x7d"

/-- Whether a recipient and a level come before others. -/
def before (referral : String) (level : Int) (sum : RewardSum) : Bool :=
  referral < sum.referral || referral == sum.referral && level < sum.level

/-- Adds an amount to the sum of a recipient and a level; sums are kept by recipient and level. -/
def add (referral : String) (level : Int) (amount : Nat) : List RewardSum → List RewardSum
  | [] => [{ referral, level, total := amount }]
  | sum :: rest =>
    if referral = sum.referral ∧ level = sum.level then
      { sum with total := sum.total + amount } :: rest
    else if before referral level sum then { referral, level, total := amount } :: sum :: rest
    else sum :: add referral level amount rest

def total (referral : String) (level : Int) (sums : List RewardSum) : Nat :=
  ((sums.find? fun sum => referral == sum.referral && level == sum.level).map (·.total)).getD 0

/-- Adds an event, if it is a reward. -/
def addEvent (sums : List RewardSum) (event : Event) : Except Failure (List RewardSum) :=
  match event.details with
  | .rewardReferral _ referral level text =>
    match Amount.parse? text with
    | none =>
      .error (Cause.other
        ("invalid stored amount " ++ Quote.text text ++ " at " ++ showPosition event.position))
    | some amount =>
      if Amount.bound ≤ total referral level sums + amount then
        .error (Cause.other s!"reward total of {referral} at level {level} overflows")
      else .ok (add referral level amount sums)
  | _ => .ok sums

/-- Whether a reward goes to a recipient; where none is given, all do. -/
def goesTo (recipient : Option String) (event : Event) : Bool :=
  match event.details, recipient with
  | .rewardReferral _ referral _ _, some recipient => referral == recipient
  | .rewardReferral .., none => true
  | _, _ => false

end Rewards

/-- The sums of all stored rewards, or of those of one recipient, by recipient and level. -/
def Database.rewardSums (database : Database) (recipient : Option String) :
    Except Failure (List RewardSum) := do
  database.open?
  (database.events.filter (Rewards.goesTo recipient)).foldlM Rewards.addEvent []

end EventIndexer
