import EventIndexer.Kind

/-! Logs as a node reports them, and the events they stand for. -/

namespace EventIndexer

/-- A log of the contract.  A log that is not mined yet has no position. -/
structure Log where
  block : Option Nat
  index : Option Nat
  transaction : Option Word
  topics : List Word
  data : List UInt8
  address : Address
  removed : Bool
  deriving DecidableEq, Repr

/-- Where an event stands on the chain, as it is stored: the transaction and the index within the
block's logs identify it. -/
structure Position where
  height : Int
  transaction : String
  index : Int
  deriving DecidableEq, Repr

/-- What an event says, by kind; every address and amount is kept as text. -/
inductive Details
  | transfer (sender recipient value : String)
  | stake (staker amount : String)
  | unstake (staker amount : String)
  | register (referral trader : String)
  | rewardReferral (trader referral : String) (level : Int) (amount : String)
  | rewardStakers (trader amount : String)
  | ownershipTransferred (previousOwner newOwner : String)
  deriving DecidableEq, Repr

structure Event where
  position : Position
  details : Details
  deriving DecidableEq, Repr

def Details.kind : Details → Kind
  | transfer .. => .transfer
  | stake .. => .stake
  | unstake .. => .unstake
  | register .. => .register
  | rewardReferral .. => .rewardReferral
  | rewardStakers .. => .rewardStakers
  | ownershipTransferred .. => .ownershipTransferred

namespace Event

def kind (event : Event) : Kind := event.details.kind

/-- The block of an event; a stored height below zero reads as a number of 64 bits. -/
def height (event : Event) : Nat := (event.position.height % 0x10000000000000000).toNat

/-- Whether two events are of one kind and stand at one place: only the first is ever stored. -/
def sameRow (a b : Event) : Bool :=
  a.kind == b.kind && a.position.transaction == b.position.transaction &&
    a.position.index == b.position.index

end Event

end EventIndexer
