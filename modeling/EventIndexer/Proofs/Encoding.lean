import EventIndexer.Proofs.Readback
import EventIndexer.Proofs.Source

/-! The logs that the contract writes, and the events read from them.  An event is written with its
indexed arguments as topics and the others as words of data.  Decoding loses nothing of it: its
texts read back as its arguments and its place, and what any accepted log decodes to is written as
the same log, with the bytes that are not used cleared and the data cut. -/

namespace EventIndexer

/-! ### Events as the contract writes them -/

/-- The arguments of an event, as numbers. -/
inductive Arguments
  | transfer (sender recipient : Address) (value : Word)
  | stake (staker : Address) (amount : Word)
  | unstake (staker : Address) (amount : Word)
  | register (referral trader : Address)
  | rewardReferral (trader referral : Address) (level : BitVec 8) (amount : Word)
  | rewardStakers (trader : Address) (amount : Word)
  | ownershipTransferred (previousOwner newOwner : Address)
  deriving DecidableEq, Repr

namespace Arguments

def kind : Arguments → Kind
  | transfer .. => .transfer
  | stake .. => .stake
  | unstake .. => .unstake
  | register .. => .register
  | rewardReferral .. => .rewardReferral
  | rewardStakers .. => .rewardStakers
  | ownershipTransferred .. => .ownershipTransferred

/-- The indexed arguments, each padded on the left to a word. -/
def indexed : Arguments → List Word
  | transfer sender recipient _ => [sender.setWidth 256, recipient.setWidth 256]
  | stake staker _ => [staker.setWidth 256]
  | unstake staker _ => [staker.setWidth 256]
  | register referral _ => [referral.setWidth 256]
  | rewardReferral trader referral level _ =>
    [trader.setWidth 256, referral.setWidth 256, level.setWidth 256]
  | rewardStakers trader _ => [trader.setWidth 256]
  | ownershipTransferred previousOwner newOwner =>
    [previousOwner.setWidth 256, newOwner.setWidth 256]

/-- The arguments that are not indexed, each padded on the left to a word. -/
def unindexed : Arguments → List Word
  | transfer _ _ value => [value]
  | stake _ amount => [amount]
  | unstake _ amount => [amount]
  | register _ trader => [trader.setWidth 256]
  | rewardReferral _ _ _ amount => [amount]
  | rewardStakers _ amount => [amount]
  | ownershipTransferred _ _ => []

/-- The arguments as texts. -/
def details : Arguments → Details
  | transfer sender recipient value =>
    .transfer sender.checksum recipient.checksum (toString value.toNat)
  | stake staker amount => .stake staker.checksum (toString amount.toNat)
  | unstake staker amount => .unstake staker.checksum (toString amount.toNat)
  | register referral trader => .register referral.checksum trader.checksum
  | rewardReferral trader referral level amount =>
    .rewardReferral trader.checksum referral.checksum level.toNat (toString amount.toNat)
  | rewardStakers trader amount => .rewardStakers trader.checksum (toString amount.toNat)
  | ownershipTransferred previousOwner newOwner =>
    .ownershipTransferred previousOwner.checksum newOwner.checksum

end Arguments

/-- An event and its place on the chain, as numbers that fit the stored columns. -/
structure Occurrence where
  block : Fin columnBound
  index : Fin columnBound
  transaction : Word
  arguments : Arguments
  deriving DecidableEq, Repr

/-- The log that a contract writes for an event. -/
def Occurrence.encode (occurrence : Occurrence) (address : Address) : Log where
  block := some occurrence.block
  index := some occurrence.index
  transaction := some occurrence.transaction
  topics := occurrence.arguments.kind.signature :: occurrence.arguments.indexed
  data := occurrence.arguments.unindexed.flatMap Word.bytes
  address
  removed := false

/-! ### Texts read back -/

def Amount.word? (text : String) : Option Word := (Amount.parse? text).map (BitVec.ofNat 256)

/-- The natural number below a bound that an integer is. -/
def below? (bound : Nat) (value : Int) : Option (Fin bound) :=
  if h : 0 ≤ value ∧ value.toNat < bound then some ⟨value.toNat, h.2⟩ else none

/-- The arguments that texts stand for. -/
def Details.read? : Details → Option Arguments
  | .transfer sender recipient value => do
    return .transfer (← Address.parse? sender) (← Address.parse? recipient) (← Amount.word? value)
  | .stake staker amount => return .stake (← Address.parse? staker) (← Amount.word? amount)
  | .unstake staker amount => return .unstake (← Address.parse? staker) (← Amount.word? amount)
  | .register referral trader =>
    return .register (← Address.parse? referral) (← Address.parse? trader)
  | .rewardReferral trader referral level amount => do
    return .rewardReferral (← Address.parse? trader) (← Address.parse? referral)
      (.ofFin (← below? 256 level)) (← Amount.word? amount)
  | .rewardStakers trader amount =>
    return .rewardStakers (← Address.parse? trader) (← Amount.word? amount)
  | .ownershipTransferred previousOwner newOwner =>
    return .ownershipTransferred (← Address.parse? previousOwner) (← Address.parse? newOwner)

/-- The numbers that an event stands for. -/
def Event.read? (event : Event) : Option Occurrence := do
  return {
    block := ← below? columnBound event.position.height
    index := ← below? columnBound event.position.index
    transaction := ← Word.parse? event.position.transaction
    arguments := ← event.details.read? }

theorem Amount.word?_toString (word : Word) : Amount.word? (toString word.toNat) = some word := by
  rw [Amount.word?, Amount.parse?_toString word.isLt]
  simp

theorem below?_natCast {bound value : Nat} (h : value < bound) :
    below? bound (value : Int) = some ⟨value, h⟩ := by
  simp [below?, h]

theorem Details.read?_details (arguments : Arguments) :
    arguments.details.read? = some arguments := by
  have hlevel : ∀ level : BitVec 8, below? 256 (level.toNat : Int) = some level.toFin :=
    fun level => below?_natCast level.isLt
  cases arguments <;>
    simp only [Arguments.details, Details.read?, Address.parse?_checksum, Amount.word?_toString,
      hlevel, bind, Option.bind_some] <;> rfl

/-! ### Encoding and decoding -/

/-- The arguments of a log of a kind, as numbers. -/
def Log.values (log : Log) : Kind → Arguments
  | .transfer => .transfer (log.topic 1).address (log.topic 2).address log.firstWord
  | .stake => .stake (log.topic 1).address log.firstWord
  | .unstake => .unstake (log.topic 1).address log.firstWord
  | .register => .register (log.topic 1).address log.firstWord.address
  | .rewardReferral =>
    .rewardReferral (log.topic 1).address (log.topic 2).address ((log.topic 3).setWidth 8)
      log.firstWord
  | .rewardStakers => .rewardStakers (log.topic 1).address log.firstWord
  | .ownershipTransferred => .ownershipTransferred (log.topic 1).address (log.topic 2).address

theorem Log.kind_values (log : Log) (kind : Kind) : (log.values kind).kind = kind := by
  cases kind <;> rfl

theorem Log.arguments_eq (log : Log) (kind : Kind) :
    log.arguments kind = (log.values kind).details := by
  cases kind <;> simp [Log.arguments, Log.values, Arguments.details, Word.lastByte]

namespace Arguments

variable (arguments : Arguments)

theorem length_indexed : arguments.indexed.length + 1 = arguments.kind.topicCount := by
  cases arguments <;> rfl

theorem length_unindexed : arguments.unindexed.length = arguments.kind.dataWords := by
  cases arguments <;> rfl

end Arguments

theorem Word.length_flatMap_bytes (words : List Word) :
    (words.flatMap Word.bytes).length = 32 * words.length := by
  simp [List.length_flatMap, List.map_const', Nat.mul_comm]

theorem Kind.ofSignature?_signature (kind : Kind) :
    Kind.ofSignature? kind.signature = some kind := by
  cases kind <;> decide

/-- The values read from the log of an event are the event's arguments. -/
theorem Occurrence.values_encode (occurrence : Occurrence) (address : Address) :
    (occurrence.encode address).values occurrence.arguments.kind = occurrence.arguments := by
  obtain ⟨block, index, transaction, arguments⟩ := occurrence
  cases arguments <;>
    simp [Occurrence.encode, Arguments.kind, Arguments.indexed, Arguments.unindexed, Log.values,
      Log.topic, Log.firstWord, Word.address, List.take_of_length_le]

namespace Occurrence

variable (occurrence : Occurrence) (address : Address)

/-- The event of an occurrence, its numbers written as texts. -/
def event : Event where
  position :=
    { height := (occurrence.block : Nat)
      transaction := occurrence.transaction.text
      index := (occurrence.index : Nat) }
  details := occurrence.arguments.details

theorem read?_event : occurrence.event.read? = some occurrence := by
  simp only [Event.read?, event, below?_natCast occurrence.block.isLt,
    below?_natCast occurrence.index.isLt, Word.parse?_text, Details.read?_details, bind,
    Option.bind_some]
  rfl

theorem position_encode : (occurrence.encode address).position = .ok occurrence.event.position := by
  simp only [Log.position, encode, if_neg (Nat.not_le.mpr occurrence.block.isLt),
    if_neg (Nat.not_le.mpr occurrence.index.isLt)]
  rfl

theorem kind_encode : (occurrence.encode address).kind = .ok occurrence.arguments.kind := by
  simp only [Log.kind, encode, Kind.ofSignature?_signature]

theorem details_encode : (occurrence.encode address).details occurrence.arguments.kind =
    .ok occurrence.arguments.details := by
  have htopics : (occurrence.encode address).topics.length = occurrence.arguments.kind.topicCount :=
    occurrence.arguments.length_indexed
  have hdata : (occurrence.encode address).data.length =
      32 * occurrence.arguments.kind.dataWords := by
    rw [← Arguments.length_unindexed]
    exact Word.length_flatMap_bytes _
  rw [Log.details, if_neg (not_not_intro htopics), if_neg (by omega), Log.arguments_eq,
    values_encode]

theorem decode_encode : (occurrence.encode address).decode = .ok occurrence.event := by
  simp only [Log.decode, kind_encode, position_encode, details_encode, bind, Except.bind]
  rfl

end Occurrence

/-! ### Canonical logs -/

/-- A word with all but its last `width` bytes cleared. -/
def Word.cleared (width : Nat) (word : Word) : Word := BitVec.ofNat 256 (word.toNat % 256 ^ width)

/-- Bytes taken 32 at a time, each time with all but the last `width` of them cleared, and cut after
as many words as there are widths. -/
def clearedData : (widths : List Nat) → List UInt8 → List UInt8
  | [], _ => []
  | width :: widths, data =>
    List.replicate (32 - width) 0 ++ (data.take 32).drop (32 - width) ++
      clearedData widths (data.drop 32)

example : clearedData [1] (List.replicate 32 7 ++ [9]) = List.replicate 31 0 ++ [7] := by decide

namespace Kind

/-- The bytes in use of each indexed argument. -/
def indexedWidths : Kind → List Nat
  | transfer => [20, 20]
  | stake => [20]
  | unstake => [20]
  | register => [20]
  | rewardReferral => [20, 20, 1]
  | rewardStakers => [20]
  | ownershipTransferred => [20, 20]

/-- The bytes in use of each argument that is not indexed. -/
def unindexedWidths : Kind → List Nat
  | register => [20]
  | ownershipTransferred => []
  | _ => [32]

end Kind

/-- The log with the bytes that an event of a kind does not use cleared, and its data cut after the
words used. -/
def Log.canonical (log : Log) (kind : Kind) : Log :=
  { log with
    topics := log.topics.take 1 ++ List.zipWith Word.cleared kind.indexedWidths (log.topics.drop 1)
    data := clearedData kind.unindexedWidths log.data
    removed := false }

namespace Word

theorem mod_pow_lt {width : Nat} (hwidth : width ≤ 32) (value : Nat) :
    value % 256 ^ width < 256 ^ 32 := by
  have hle : 256 ^ width ≤ 256 ^ 32 := Nat.pow_le_pow_right (by decide) hwidth
  exact Nat.lt_of_lt_of_le (Nat.mod_lt _ (Nat.pow_pos (by decide))) hle

theorem toNat_cleared {width : Nat} (hwidth : width ≤ 32) (word : Word) :
    (word.cleared width).toNat = word.toNat % 256 ^ width := by
  rw [cleared, BitVec.toNat_ofNat]
  exact Nat.mod_eq_of_lt (mod_pow_lt hwidth _)

/-- The low bytes of a word, padded again. -/
theorem setWidth_setWidth_eq_cleared {width : Nat} (hwidth : width ≤ 32) (word : Word) :
    (word.setWidth (8 * width)).setWidth 256 = word.cleared width := by
  apply BitVec.eq_of_toNat_eq
  rw [BitVec.toNat_setWidth, BitVec.toNat_setWidth, toNat_cleared hwidth, Nat.pow_mul]
  exact Nat.mod_eq_of_lt (mod_pow_lt hwidth _)

theorem setWidth_address (word : Word) : word.address.setWidth 256 = word.cleared 20 :=
  setWidth_setWidth_eq_cleared (show 20 ≤ 32 by decide) word

theorem setWidth_level (word : Word) :
    (word.setWidth 8).setWidth 256 = word.cleared 1 :=
  setWidth_setWidth_eq_cleared (show 1 ≤ 32 by decide) word

theorem cleared_all (word : Word) : word.cleared 32 = word := by
  apply BitVec.eq_of_toNat_eq
  rw [toNat_cleared (Nat.le_refl 32)]
  exact Nat.mod_eq_of_lt word.isLt

theorem bytes_cleared {width : Nat} (hwidth : width ≤ 32) (bytes : List UInt8)
    (h : bytes.length = 32) : ((ofBytes bytes).cleared width).bytes =
      List.replicate (32 - width) 0 ++ bytes.drop (32 - width) := by
  have hsplit : 32 - width + width = 32 := by omega
  have hlow := bytesOf_low (32 - width) width bytes (by omega)
  rw [hsplit] at hlow
  rw [bytes_eq, toNat_cleared hwidth, toNat_ofBytes _ h, hlow]

end Word

theorem Kind.length_indexedWidths (kind : Kind) :
    kind.indexedWidths.length + 1 = kind.topicCount := by
  cases kind <;> rfl

namespace Log

variable {log : Log} {kind : Kind}

/-- The topics behind the first, one for each width. -/
theorem zipWith_cleared_topics {widths : List Nat} (h : log.topics.length = widths.length + 1) :
    List.zipWith Word.cleared widths (log.topics.drop 1) =
      widths.mapIdx fun i width => (log.topic (i + 1)).cleared width := by
  refine List.ext_getElem (by simp [h]) fun i hi _ => ?_
  have hlt : 1 + i < log.topics.length := by simp at hi; omega
  simp [topic, hlt, Nat.add_comm i 1]

/-- The topics behind the first, read as arguments and written again. -/
theorem indexed_values (h : log.topics.length = kind.topicCount) :
    (log.values kind).indexed =
      List.zipWith Word.cleared kind.indexedWidths (log.topics.drop 1) := by
  rw [zipWith_cleared_topics (h.trans kind.length_indexedWidths.symm)]
  cases kind <;>
    simp [values, Arguments.indexed, Kind.indexedWidths, Word.setWidth_address, Word.setWidth_level]

/-- The data of a log, read as arguments and written again. -/
theorem unindexed_values (h : 32 * kind.dataWords ≤ log.data.length) :
    (log.values kind).unindexed.flatMap Word.bytes =
      clearedData kind.unindexedWidths log.data := by
  -- A kind reads one word of data at most: all of it, or the address in it.
  have hword : ∀ width ≤ 32, 32 ≤ log.data.length →
      [log.firstWord.cleared width].flatMap Word.bytes = clearedData [width] log.data := by
    intro width hwidth hdata
    rw [List.flatMap_singleton, firstWord, Word.bytes_cleared hwidth _ (by simp [hdata])]
    simp [clearedData]
  have hfull (hdata : 32 ≤ log.data.length) :
      [log.firstWord].flatMap Word.bytes = clearedData [32] log.data := by
    rw [← hword 32 (Nat.le_refl 32) hdata, Word.cleared_all]
  have haddress (hdata : 32 ≤ log.data.length) :
      [log.firstWord.address.setWidth 256].flatMap Word.bytes = clearedData [20] log.data := by
    rw [Word.setWidth_address, hword 20 (by decide) hdata]
  cases kind
  case register => exact haddress h
  case ownershipTransferred => rfl
  all_goals exact hfull h

theorem details_eq_ok {details : Details} (h : log.details kind = .ok details) :
    log.topics.length = kind.topicCount ∧ 32 * kind.dataWords ≤ log.data.length ∧
      details = (log.values kind).details := by
  unfold Log.details at h
  split at h
  · cases h
  · next htopics =>
    split at h
    · cases h
    · next hdata =>
      cases h
      exact ⟨not_not.mp htopics, Nat.le_of_not_lt hdata, log.arguments_eq kind⟩

/-- A log that decodes stands for an occurrence of the values read from it. -/
theorem exists_event_of_decode {event : Event} (h : log.decode = .ok event) :
    ∃ occurrence : Occurrence, occurrence.event = event ∧
      occurrence.encode log.address = log.canonical event.kind := by
  have hevent : log.event? = some event := by
    rw [Log.event?, h]
    rfl
  obtain ⟨hkind, hposition, hdetails⟩ := Log.event?_eq_some hevent
  obtain ⟨block, index, transaction, hblock, hindex, htransaction, hbound, hindexBound, hplace⟩ :=
    Log.position_eq_ok hposition
  obtain ⟨htopics, hdata, htexts⟩ := details_eq_ok hdetails
  have hhead : log.topics.take 1 = [event.kind.signature] := by
    rw [List.take_one, Log.kind_eq_ok hkind]
    rfl
  refine ⟨⟨⟨block, hbound⟩, ⟨index, hindexBound⟩, transaction, log.values event.kind⟩, ?_, ?_⟩
  · rw [Occurrence.event, ← hplace, ← htexts]
  · simp only [Occurrence.encode, canonical, hblock, hindex, htransaction, hhead, kind_values,
      indexed_values htopics, unindexed_values hdata, List.singleton_append]

end Log

/-! ### What decoding keeps -/

/-- Decoding loses nothing.  Every log that is written for an event decodes, and the texts read back
as the event's arguments and its place, so two such logs that decode alike are one.  Every log that
decodes stands for an event, which is written as the same log with the unused bytes cleared and the
data cut. -/
theorem decode_loses_nothing (address : Address) :
    (∀ occurrence : Occurrence, ∃ event, (occurrence.encode address).decode = .ok event ∧
      event.read? = some occurrence) ∧
    (∀ first second : Occurrence,
      (first.encode address).decode = (second.encode address).decode →
        first.encode address = second.encode address) ∧
    (∀ (log : Log) (event : Event), log.decode = .ok event →
      ∃ occurrence : Occurrence, event.read? = some occurrence ∧
        occurrence.encode log.address = log.canonical event.kind) := by
  refine ⟨fun occurrence => ⟨occurrence.event, occurrence.decode_encode address,
    occurrence.read?_event⟩, fun first second h => ?_, fun log event h => ?_⟩
  · rw [first.decode_encode, second.decode_encode] at h
    have hread : some first = some second := by
      rw [← first.read?_event, ← second.read?_event, Except.ok.inj h]
    rw [Option.some.inj hread]
  · obtain ⟨occurrence, hevent, hcanonical⟩ := Log.exists_event_of_decode h
    exact ⟨occurrence, hevent ▸ occurrence.read?_event, hcanonical⟩

end EventIndexer
