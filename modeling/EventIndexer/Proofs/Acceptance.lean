import EventIndexer.Proofs.Encoding

/-! The logs that are accepted.  A log stands for an event exactly if it is well formed, and then
each argument is read from where the declaration of its kind puts it.  Of a log that is not, the
first check that fails is the one reported, whatever else is wrong with it. -/

namespace EventIndexer

/-! ### Declared parameters -/

namespace Parameter

inductive Form
  | address
  | uint8
  | uint256
  deriving DecidableEq, Repr

namespace Form

def name : Form → String
  | address => "address"
  | uint8 => "uint8"
  | uint256 => "uint256"

end Form

end Parameter

/-- A parameter of an event: an indexed one is a topic, another a word of the data. -/
structure Parameter where
  form : Parameter.Form
  indexed : Bool
  deriving DecidableEq, Repr

/-- An argument as it is stored. -/
inductive Value
  | text (text : String)
  | number (number : Int)
  deriving DecidableEq, Repr

/-- The argument that 32 bytes hold; the bytes above an address or a small number are dropped. -/
def Parameter.Form.read (bytes : List UInt8) : Parameter.Form → Value
  | address => .text (Address.checksum (BitVec.ofNat 160 (bigEndian (bytes.drop 12))))
  | uint8 => .number (bigEndian (bytes.drop 31))
  | uint256 => .text (toString (bigEndian bytes))

namespace Kind

/-- The parameters of a kind, as they are declared. -/
def parameters : Kind → List Parameter
  | transfer => [⟨.address, true⟩, ⟨.address, true⟩, ⟨.uint256, false⟩]
  | stake => [⟨.address, true⟩, ⟨.uint256, false⟩]
  | unstake => [⟨.address, true⟩, ⟨.uint256, false⟩]
  | register => [⟨.address, true⟩, ⟨.address, false⟩]
  | rewardReferral => [⟨.address, true⟩, ⟨.address, true⟩, ⟨.uint8, true⟩, ⟨.uint256, false⟩]
  | rewardStakers => [⟨.address, true⟩, ⟨.uint256, false⟩]
  | ownershipTransferred => [⟨.address, true⟩, ⟨.address, true⟩]

theorem declaration_eq (kind : Kind) :
    kind.declaration =
      kind.name ++ "(" ++ ",".intercalate (kind.parameters.map (·.form.name)) ++ ")" := by
  cases kind <;> decide

/-- The first topic of a kind is the digest of its declaration. -/
theorem signature_eq (kind : Kind) :
    kind.signature = Word.ofBytes (Keccak.hashText kind.declaration) := by
  cases kind <;> decide +kernel

theorem topicCount_eq (kind : Kind) :
    kind.topicCount = 1 + kind.parameters.countP (·.indexed) := by
  cases kind <;> rfl

theorem dataWords_eq (kind : Kind) :
    kind.dataWords = kind.parameters.countP (!·.indexed) := by
  cases kind <;> rfl

end Kind

/-- The arguments of an event, in the order of their declaration. -/
def Details.values : Details → List Value
  | transfer sender recipient value => [.text sender, .text recipient, .text value]
  | stake staker amount => [.text staker, .text amount]
  | unstake staker amount => [.text staker, .text amount]
  | register referral trader => [.text referral, .text trader]
  | rewardReferral trader referral level amount =>
    [.text trader, .text referral, .number level, .text amount]
  | rewardStakers trader amount => [.text trader, .text amount]
  | ownershipTransferred previousOwner newOwner => [.text previousOwner, .text newOwner]

/-- The arguments that topics and data hold: indexed ones are topics, and the others follow each
other in the data. -/
def readAll : List Parameter → (topics : List Word) → (data : List UInt8) → List Value
  | ⟨form, true⟩ :: rest, topic :: topics, data => form.read topic.bytes :: readAll rest topics data
  | ⟨form, false⟩ :: rest, topics, data =>
    form.read (data.take 32) :: readAll rest topics (data.drop 32)
  | _, _, _ => []

/-! ### Reading words -/

namespace Parameter.Form

theorem bigEndian_drop_bytes (word : Word) {high low : Nat} (h : high + low = 32) :
    bigEndian (word.bytes.drop high) = word.toNat % 256 ^ low := by
  rw [word.bytes_eq, ← h, bytesOf_add, List.drop_left' (length_bytesOf _ _), bigEndian_bytesOf]

theorem read_address (word : Word) :
    address.read word.bytes = .text word.address.checksum := by
  have hlow : BitVec.ofNat 160 (bigEndian (word.bytes.drop 12)) = word.address := by
    apply BitVec.eq_of_toNat_eq
    rw [bigEndian_drop_bytes word (show 12 + 20 = 32 from rfl), BitVec.toNat_ofNat, Word.address,
      BitVec.toNat_setWidth]
    exact Nat.mod_mod _ _
  rw [read, hlow]

theorem read_uint8 (word : Word) : uint8.read word.bytes = .number word.lastByte := by
  rw [read, bigEndian_drop_bytes word (show 31 + 1 = 32 from rfl)]
  rfl

theorem read_uint256 (word : Word) :
    uint256.read word.bytes = .text (toString word.toNat) := by
  rw [read, ← Word.toNat_ofBytes _ word.length_bytes, Word.ofBytes_bytes]

end Parameter.Form

theorem Word.bytes_ofBytes {bytes : List UInt8} (h : bytes.length = 32) :
    (Word.ofBytes bytes).bytes = bytes := by
  rw [Word.bytes_eq, Word.toNat_ofBytes _ h, ← h, bytesOf_bigEndian]

theorem readAll_topic (log : Log) {i : Nat} (h : i < log.topics.length) (form : Parameter.Form)
    (rest : List Parameter) (data : List UInt8) :
    readAll (⟨form, true⟩ :: rest) (log.topics.drop i) data =
      form.read (log.topic i).bytes :: readAll rest (log.topics.drop (i + 1)) data := by
  have htopic : log.topic i = log.topics[i] := by simp [Log.topic, h]
  rw [List.drop_eq_getElem_cons h, readAll, htopic]

theorem readAll_word (log : Log) (h : 32 ≤ log.data.length) (form : Parameter.Form)
    (topics : List Word) :
    readAll [⟨form, false⟩] topics log.data = [form.read log.firstWord.bytes] := by
  have hword : log.firstWord.bytes = log.data.take 32 := Word.bytes_ofBytes (by simp [h])
  rw [hword]
  rfl

/-- The arguments of a log that is laid out as its kind demands are those that its topics and its
data hold. -/
theorem Log.values_arguments (log : Log) (kind : Kind)
    (htopics : log.topics.length = kind.topicCount)
    (hdata : 32 * kind.dataWords ≤ log.data.length) :
    (log.arguments kind).values = readAll kind.parameters (log.topics.drop 1) log.data := by
  have hnil (topics : List Word) (data : List UInt8) : readAll [] topics data = [] := rfl
  cases kind <;> simp only [Kind.topicCount, Kind.dataWords] at htopics hdata <;>
    simp (disch := omega) only [Kind.parameters, readAll_topic, readAll_word, hnil,
      Parameter.Form.read_address, Parameter.Form.read_uint8, Parameter.Form.read_uint256] <;> rfl

/-! ### Checks -/

/-- Whether a log has all that a log of a kind needs. -/
structure Log.WellFormed (log : Log) (kind : Kind) : Prop where
  signature : log.topics.head? = some kind.signature
  block : ∃ block, log.block = some block ∧ block < columnBound
  index : ∃ index, log.index = some index ∧ index < columnBound
  transaction : ∃ transaction, log.transaction = some transaction
  topics : log.topics.length = kind.topicCount
  data : 32 * kind.dataWords ≤ log.data.length

/-- Whether the check fails that an error reports, whatever becomes of the other checks. -/
def Log.Fails (log : Log) : DecodeError → Prop
  | .anonymous => log.topics = []
  | .unknownSignature word => log.topics.head? = some word ∧ ∀ kind : Kind, kind.signature ≠ word
  | .missingBlock => log.block = none
  | .missingIndex => log.index = none
  | .blockOutOfRange => ∃ block, log.block = some block ∧ columnBound ≤ block
  | .missingTransaction => log.transaction = none
  | .indexOutOfRange => ∃ index, log.index = some index ∧ columnBound ≤ index
  | .layout kind .topicCount =>
    log.topics.head? = some kind.signature ∧ log.topics.length ≠ kind.topicCount
  | .layout kind .shortData =>
    log.topics.head? = some kind.signature ∧ log.data.length < 32 * kind.dataWords

/-- The place of the check that an error reports, among all checks. -/
def DecodeError.rank : DecodeError → Nat
  | anonymous => 0
  | unknownSignature _ => 1
  | missingBlock => 2
  | missingIndex => 3
  | blockOutOfRange => 4
  | missingTransaction => 5
  | indexOutOfRange => 6
  | layout _ .topicCount => 7
  | layout _ .shortData => 8

/-- Whether an error says nothing of the log but that its check fails. -/
def DecodeError.plain : DecodeError → Bool
  | unknownSignature _ => false
  | layout .. => false
  | _ => true

theorem DecodeError.eq_of_rank {error other : DecodeError} (hplain : error.plain = true)
    (hrank : other.rank = error.rank) : other = error := by
  cases error with
  | unknownSignature | layout => cases hplain
  | _ =>
    cases other with
    | layout _ reason => cases reason <;> cases hrank
    | _ => first | rfl | cases hrank

namespace Log

variable {log : Log} {kind : Kind} {event : Event} {error other : DecodeError}

/-- No check fails of a log that is well formed. -/
theorem WellFormed.not_fails (h : log.WellFormed kind) (error : DecodeError) :
    ¬log.Fails error := by
  obtain ⟨hsignature, ⟨block, hblock, hbound⟩, ⟨index, hindex, hindexBound⟩,
    ⟨transaction, htransaction⟩, htopics, hdata⟩ := h
  have hkind : ∀ {other : Kind}, log.topics.head? = some other.signature → other = kind :=
    fun hother => Kind.signature_injective (Option.some.inj (hother.symm.trans hsignature))
  intro hfails
  cases error with
  | anonymous =>
    rw [show log.topics = [] from hfails] at hsignature
    cases hsignature
  | unknownSignature word =>
    exact hfails.2 kind (Option.some.inj (hsignature.symm.trans hfails.1))
  | missingBlock => cases hblock.symm.trans hfails
  | missingIndex => cases hindex.symm.trans hfails
  | blockOutOfRange =>
    obtain ⟨found, hfound, hle⟩ := hfails
    cases hblock.symm.trans hfound
    omega
  | missingTransaction => cases htransaction.symm.trans hfails
  | indexOutOfRange =>
    obtain ⟨found, hfound, hle⟩ := hfails
    cases hindex.symm.trans hfound
    omega
  | layout other reason =>
    cases reason with
    | topicCount =>
      obtain ⟨hother, hne⟩ := hfails
      exact hne (hkind hother ▸ htopics)
    | shortData =>
      obtain ⟨hother, hlt⟩ := hfails
      rw [hkind hother] at hlt
      omega

theorem head_unique {first second : Word} (h : log.topics.head? = some first)
    (h' : log.topics.head? = some second) : first = second :=
  Option.some.inj (h.symm.trans h')

/-- Two errors of one place are one. -/
theorem Fails.unique (h : log.Fails error) (hother : log.Fails other)
    (hrank : other.rank = error.rank) : other = error := by
  cases error with
  | unknownSignature word =>
    cases other with
    | unknownSignature word' => rw [head_unique h.1 hother.1]
    | layout _ reason => cases reason <;> cases hrank
    | _ => cases hrank
  | layout kind reason =>
    cases other with
    | layout kind' reason' =>
      obtain rfl : kind = kind' := by
        cases reason <;> cases reason' <;>
          exact Kind.signature_injective (head_unique h.1 hother.1)
      cases reason <;> cases reason' <;> first | rfl | cases hrank
    | _ => cases reason <;> cases hrank
  | _ => exact DecodeError.eq_of_rank rfl hrank

variable (log) in
/-- Whether all checks before a place succeed. -/
def Passes (rank : Nat) : Prop := ∀ error, log.Fails error → rank ≤ error.rank

namespace Passes

theorem zero : log.Passes 0 := fun _ _ => Nat.zero_le _

/-- One more check succeeds. -/
theorem succ {rank : Nat} (h : log.Passes rank)
    (hnext : ∀ error, error.rank = rank → ¬log.Fails error) : log.Passes (rank + 1) :=
  fun error hfails =>
    Nat.lt_of_le_of_ne (h error hfails) fun hrank => hnext error hrank.symm hfails

theorem succ_plain (error : DecodeError) (h : log.Passes error.rank) (hplain : error.plain = true)
    (hpasses : ¬log.Fails error) : log.Passes (error.rank + 1) :=
  h.succ fun _ hrank => DecodeError.eq_of_rank hplain hrank ▸ hpasses

theorem announced {first : Word} (h : log.topics.head? = some first) : log.Passes 1 := by
  refine succ_plain .anonymous zero rfl fun hnil => ?_
  rw [show log.topics = [] from hnil] at h
  cases h

theorem known (h : log.topics.head? = some kind.signature) : log.Passes 2 := by
  refine (announced h).succ fun error hrank hfails => ?_
  cases error with
  | unknownSignature word => exact hfails.2 kind (head_unique h hfails.1)
  | layout _ reason => cases reason <;> cases hrank
  | _ => cases hrank

theorem block {block : Nat} (h : log.Passes 2) (hblock : log.block = some block) :
    log.Passes 3 :=
  succ_plain .missingBlock h rfl fun hnone => nomatch hblock.symm.trans hnone

theorem index {index : Nat} (h : log.Passes 3) (hindex : log.index = some index) :
    log.Passes 4 :=
  succ_plain .missingIndex h rfl fun hnone => nomatch hindex.symm.trans hnone

theorem blockBound {block : Nat} (h : log.Passes 4) (hblock : log.block = some block)
    (hbound : block < columnBound) : log.Passes 5 := by
  refine succ_plain .blockOutOfRange h rfl ?_
  rintro ⟨found, hfound, hle⟩
  cases hblock.symm.trans hfound
  omega

theorem transaction {transaction : Word} (h : log.Passes 5)
    (htransaction : log.transaction = some transaction) : log.Passes 6 :=
  succ_plain .missingTransaction h rfl fun hnone => nomatch htransaction.symm.trans hnone

theorem indexBound {index : Nat} (h : log.Passes 6) (hindex : log.index = some index)
    (hbound : index < columnBound) : log.Passes 7 := by
  refine succ_plain .indexOutOfRange h rfl ?_
  rintro ⟨found, hfound, hle⟩
  cases hindex.symm.trans hfound
  omega

theorem topicCount (h : log.Passes 7) (hhead : log.topics.head? = some kind.signature)
    (htopics : log.topics.length = kind.topicCount) : log.Passes 8 := by
  refine h.succ fun error hrank hfails => ?_
  cases error with
  | layout other reason =>
    cases reason with
    | topicCount =>
      obtain ⟨hother, hne⟩ := hfails
      exact hne (Kind.signature_injective (head_unique hother hhead) ▸ htopics)
    | shortData => cases hrank
  | _ => cases hrank

end Passes

theorem kind_error (h : log.kind = .error error) : log.Fails error ∧ log.Passes error.rank := by
  unfold kind at h
  split at h
  · next htopics =>
    cases h
    exact ⟨htopics, .zero⟩
  · next signature rest htopics =>
    have hhead : log.topics.head? = some signature := by rw [htopics]; rfl
    split at h
    · next hnone =>
      cases h
      refine ⟨⟨hhead, ?_⟩, .announced hhead⟩
      rintro kind rfl
      cases hnone.symm.trans kind.ofSignature?_signature
    · cases h

theorem position_error (h : log.position = .error error) (hpasses : log.Passes 2) :
    log.Fails error ∧ log.Passes error.rank := by
  unfold position at h
  split at h
  · next hblock =>
    cases h
    exact ⟨hblock, hpasses⟩
  · next block hblock hindex =>
    cases h
    exact ⟨hindex, hpasses.block hblock⟩
  · next block index hblock hindex =>
    have hpasses := (hpasses.block hblock).index hindex
    split at h
    · next hbound =>
      cases h
      exact ⟨⟨block, hblock, hbound⟩, hpasses⟩
    · next hbound =>
      have hpasses := hpasses.blockBound hblock (Nat.lt_of_not_le hbound)
      split at h
      · next htransaction =>
        cases h
        exact ⟨htransaction, hpasses⟩
      · next transaction htransaction =>
        split at h
        · next hbound =>
          cases h
          exact ⟨⟨index, hindex, hbound⟩, hpasses.transaction htransaction⟩
        · cases h

theorem passes_position {position : Position} (h : log.position = .ok position)
    (hpasses : log.Passes 2) : log.Passes 7 := by
  obtain ⟨block, index, transaction, hblock, hindex, htransaction, hbound, hindexBound, -⟩ :=
    position_eq_ok h
  have hplace := ((hpasses.block hblock).index hindex).blockBound hblock hbound
  exact (hplace.transaction htransaction).indexBound hindex hindexBound

theorem details_error (h : log.details kind = .error error)
    (hhead : log.topics.head? = some kind.signature) (hpasses : log.Passes 7) :
    log.Fails error ∧ log.Passes error.rank := by
  unfold details at h
  split at h
  · next htopics =>
    cases h
    exact ⟨⟨hhead, htopics⟩, hpasses⟩
  · next htopics =>
    split at h
    · next hdata =>
      cases h
      exact ⟨⟨hhead, hdata⟩, hpasses.topicCount hhead (not_not.mp htopics)⟩
    · cases h

/-- The error of a log that does not decode is that of its first check that fails. -/
theorem decode_error (h : log.decode = .error error) :
    log.Fails error ∧ log.Passes error.rank := by
  unfold decode at h
  cases hkind : log.kind with
  | error reason =>
    rw [hkind] at h
    cases h
    exact kind_error hkind
  | ok kind =>
    have hhead := kind_eq_ok hkind
    cases hposition : log.position with
    | error reason =>
      rw [hkind, hposition] at h
      cases h
      exact position_error hposition (.known hhead)
    | ok position =>
      cases hdetails : log.details kind with
      | error reason =>
        simp only [hkind, hposition, hdetails, bind, Except.bind] at h
        cases h
        exact details_error hdetails hhead (passes_position hposition (.known hhead))
      | ok details =>
        simp only [hkind, hposition, hdetails, bind, Except.bind] at h
        cases h

theorem event?_of_decode (h : log.decode = .ok event) : log.event? = some event := by
  rw [event?, h]
  rfl

theorem wellFormed_of_decode (h : log.decode = .ok event) : log.WellFormed event.kind := by
  obtain ⟨hkind, hposition, hdetails⟩ := event?_eq_some (event?_of_decode h)
  obtain ⟨block, index, transaction, hblock, hindex, htransaction, hbound, hindexBound, -⟩ :=
    position_eq_ok hposition
  obtain ⟨htopics, hdata, -⟩ := details_eq_ok hdetails
  exact ⟨kind_eq_ok hkind, ⟨block, hblock, hbound⟩, ⟨index, hindex, hindexBound⟩,
    ⟨transaction, htransaction⟩, htopics, hdata⟩

/-- A log that is well formed decodes. -/
theorem WellFormed.decodes (h : log.WellFormed kind) : ∃ event, log.decode = .ok event := by
  cases hdecode : log.decode with
  | ok event => exact ⟨event, rfl⟩
  | error error => exact absurd (decode_error hdecode).1 (h.not_fails error)

/-- Data behind the words that are read is ignored. -/
theorem details_extra (hdata : 32 * kind.dataWords ≤ log.data.length) (extra : List UInt8) :
    ({ log with data := log.data ++ extra } : Log).details kind = log.details kind := by
  let longer : Log := { log with data := log.data ++ extra }
  have hword (hdata : 32 ≤ log.data.length) : longer.firstWord = log.firstWord := by
    rw [firstWord, firstWord, List.take_append_of_le_length hdata]
  have harguments : longer.arguments kind = log.arguments kind := by
    cases kind with
    | ownershipTransferred => rfl
    | _ =>
      rw [arguments, hword hdata]
      rfl
  -- The longer data is no shorter than the words that are read.
  have hlonger : ¬longer.data.length < 32 * kind.dataWords := by
    rw [List.length_append]
    omega
  show longer.details kind = _
  rw [details, details, if_neg hlonger, if_neg (Nat.not_lt.mpr hdata), harguments]

theorem decode_extra (h : log.decode = .ok event) (extra : List UInt8) :
    ({ log with data := log.data ++ extra } : Log).decode = .ok event := by
  obtain ⟨hkind, hposition, hdetails⟩ := event?_eq_some (event?_of_decode h)
  have hsame := details_extra (wellFormed_of_decode h).data extra
  have hkind' : ({ log with data := log.data ++ extra } : Log).kind = .ok event.kind := hkind
  have hposition' : ({ log with data := log.data ++ extra } : Log).position =
      .ok event.position := hposition
  rw [decode, hkind', hposition']
  simp only [bind, Except.bind, hsame, hdetails]
  rfl

end Log

/-- A log decodes exactly if it is well formed.  Then the event is of the kind that the first topic
announces, every argument is the one that its topic or its word of data holds, the position is the
log's own, and more data changes nothing.  A log that does not decode is refused for the first of
the checks that fail. -/
theorem decode_accepts_wellFormed (log : Log) :
    ((∃ event, log.decode = .ok event) ↔ ∃ kind, log.WellFormed kind) ∧
    (∀ event, log.decode = .ok event →
      log.topics.head? = some event.kind.signature ∧
      event.details.values = readAll event.kind.parameters (log.topics.drop 1) log.data ∧
      log.block = some event.height ∧
      (∃ index transaction, log.index = some index ∧ log.transaction = some transaction ∧
        event.position =
          { height := event.height, transaction := transaction.text, index }) ∧
      ∀ extra, ({ log with data := log.data ++ extra } : Log).decode = .ok event) ∧
    ∀ error, log.decode = .error error ↔
      log.Fails error ∧ ∀ other, log.Fails other → error.rank ≤ other.rank := by
  refine ⟨⟨fun ⟨event, h⟩ => ⟨event.kind, Log.wellFormed_of_decode h⟩, fun ⟨kind, h⟩ => h.decodes⟩,
    fun event h => ?_, fun error => ⟨Log.decode_error, fun ⟨hfails, hfirst⟩ => ?_⟩⟩
  · have hevent := Log.event?_of_decode h
    have hwell := Log.wellFormed_of_decode h
    obtain ⟨-, hposition, hdetails⟩ := Log.event?_eq_some hevent
    obtain ⟨block, index, transaction, -, hindex, htransaction, hbound, -, hplace⟩ :=
      Log.position_eq_ok hposition
    have hheight : event.height = block :=
      Event.height_of_position hbound (congrArg Position.height hplace)
    refine ⟨hwell.signature, ?_, Log.block_of_event? hevent,
      ⟨index, transaction, hindex, htransaction, hheight ▸ hplace⟩, Log.decode_extra h⟩
    rw [← Log.values_arguments log event.kind hwell.topics hwell.data]
    rw [Log.details, if_neg (not_not_intro hwell.topics), if_neg (Nat.not_lt.mpr hwell.data)]
      at hdetails
    rw [Except.ok.inj hdetails]
  · cases hdecode : log.decode with
    | ok event => exact absurd hfails ((Log.wellFormed_of_decode hdecode).not_fails error)
    | error found =>
      -- Neither error comes before the other, and a log has one error at most of each place.
      obtain ⟨hfound, hpasses⟩ := Log.decode_error hdecode
      have hrank : found.rank = error.rank := Nat.le_antisymm (hpasses error hfails)
        (hfirst found hfound)
      rw [hfails.unique hfound hrank]

end EventIndexer
