import EventIndexer.Word

/-! The seven kinds of event that the contract emits. -/

namespace EventIndexer

/-- The kind of an event, named as in the contract. -/
inductive Kind
  | transfer
  | stake
  | unstake
  | register
  | rewardReferral
  | rewardStakers
  | ownershipTransferred
  deriving DecidableEq, Repr

namespace Kind

/-- Every kind, in the order in which kinds are declared and sorted. -/
def all : List Kind :=
  [transfer, stake, unstake, register, rewardReferral, rewardStakers, ownershipTransferred]

def rank : Kind → Nat
  | transfer => 0
  | stake => 1
  | unstake => 2
  | register => 3
  | rewardReferral => 4
  | rewardStakers => 5
  | ownershipTransferred => 6

def name : Kind → String
  | transfer => "Transfer"
  | stake => "Stake"
  | unstake => "Unstake"
  | register => "Register"
  | rewardReferral => "RewardReferral"
  | rewardStakers => "RewardStakers"
  | ownershipTransferred => "OwnershipTransferred"

def named? (text : String) : Option Kind := all.find? (·.name == text)

def table : Kind → String
  | transfer => "transfers"
  | stake => "stakes"
  | unstake => "unstakes"
  | register => "registers"
  | rewardReferral => "reward_referrals"
  | rewardStakers => "reward_stakers"
  | ownershipTransferred => "ownership_transfers"

/-- The declaration whose digest is the signature of a kind. -/
def declaration : Kind → String
  | transfer => "Transfer(address,address,uint256)"
  | stake => "Stake(address,uint256)"
  | unstake => "Unstake(address,uint256)"
  | register => "Register(address,address)"
  | rewardReferral => "RewardReferral(address,address,uint8,uint256)"
  | rewardStakers => "RewardStakers(address,uint256)"
  | ownershipTransferred => "OwnershipTransferred(address,address)"

/-- The first topic of every log of a kind. -/
def signature : Kind → Word
  | transfer => 0xddf252ad1be2c89b69c2b068fc378daa952ba7f163c4a11628f55a4df523b3ef
  | stake => 0xebedb8b3c678666e7f36970bc8f57abf6d8fa2e828c0da91ea5b75bf68ed101a
  | unstake => 0x85082129d87b2fe11527cb1b3b7a520aeb5aa6913f88a3d8757fe40d1db02fdd
  | register => 0x98ada70a1cb506dc4591465e1ee9be3fd7a2b6c73ecf3b949009718c9a351519
  | rewardReferral => 0x465e6d39f39851c67c8c607ade83d797e24fb74952d23e916b51472d756a5fc7
  | rewardStakers => 0xa1710d49c174fe37d3ab453bf039e0b530c5d2b4be719b29c9d9250dc3ad73b3
  | ownershipTransferred => 0x8be0079c531659141344cd1fd0a4f28419497f9722a3daafe3b4186f6b6457e0

/-- The kind that a first topic announces. -/
def ofSignature? (word : Word) : Option Kind := all.find? (·.signature == word)

/-- The number of topics of a log of a kind: the signature and the indexed arguments. -/
def topicCount : Kind → Nat
  | transfer => 3
  | stake => 2
  | unstake => 2
  | register => 2
  | rewardReferral => 4
  | rewardStakers => 2
  | ownershipTransferred => 3

/-- The number of data words of a log of a kind: one, unless every argument is indexed. -/
def dataWords : Kind → Nat
  | ownershipTransferred => 0
  | _ => 1

end Kind

end EventIndexer
