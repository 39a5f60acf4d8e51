import EventIndexer.Decode
import EventIndexer.Routine
import EventIndexer.Range

/-! What a tracker may rely on when it asks a node.  The chain is a list of mined logs.  A query of
a range is answered with the wanted logs of the range, and a stream that was opened at a height
pushes every wanted log above that height, in the order of blocks.  Every request may fail. -/

namespace EventIndexer

/-! ### Events of logs -/

theorem decodeAll_events (logs : List Log) : (decodeAll logs).1 = logs.filterMap Log.event? := by
  induction logs with
  | nil => rfl
  | cons log rest ih =>
    rw [decodeAll, List.filterMap_cons, ← ih]
    cases log.event? <;> rfl

theorem Kind.ofSignature?_eq_some {word : Word} {kind : Kind}
    (h : Kind.ofSignature? word = some kind) : kind.signature = word := by
  simpa using List.find?_some h

theorem Log.kind_of_details {log : Log} {kind : Kind} {details : Details}
    (h : log.details kind = .ok details) : details.kind = kind := by
  unfold Log.details at h
  split at h
  · cases h
  · split at h
    · cases h
    · cases h
      cases kind <;> rfl

theorem Log.kind_eq_ok {log : Log} {kind : Kind} (h : log.kind = .ok kind) :
    log.topics.head? = some kind.signature := by
  unfold Log.kind at h
  split at h
  · cases h
  · next signature rest htopics =>
    split at h
    · cases h
    · next found hfound =>
      cases h
      rw [htopics, Kind.ofSignature?_eq_some hfound]
      rfl

theorem Log.position_eq_ok {log : Log} {position : Position} (h : log.position = .ok position) :
    ∃ block index transaction, log.block = some block ∧ log.index = some index ∧
      log.transaction = some transaction ∧ block < columnBound ∧ index < columnBound ∧
        position = { height := block, transaction := transaction.text, index } := by
  unfold Log.position at h
  split at h
  · cases h
  · cases h
  · next block index hblock hindex =>
    split at h
    · cases h
    · next hbound =>
      split at h
      · cases h
      · next transaction htransaction =>
        split at h
        · cases h
        · next hindexBound =>
          cases h
          exact ⟨block, index, transaction, hblock, hindex, htransaction,
            Nat.lt_of_not_le hbound, Nat.lt_of_not_le hindexBound, rfl⟩

theorem Log.event?_eq_some {log : Log} {event : Event} (h : log.event? = some event) :
    log.kind = .ok event.kind ∧ log.position = .ok event.position ∧
      log.details event.kind = .ok event.details := by
  unfold Log.event? Log.decode at h
  cases hkind : log.kind with
  | error e => simp [hkind, bind, Except.bind, Except.toOption] at h
  | ok kind =>
    cases hposition : log.position with
    | error e => simp [hkind, hposition, bind, Except.bind, Except.toOption] at h
    | ok position =>
      cases hdetails : log.details kind with
      | error e => simp [hkind, hposition, hdetails, bind, Except.bind, Except.toOption] at h
      | ok details =>
        simp only [hkind, hposition, hdetails, bind, Except.bind, pure, Except.pure,
          Except.toOption, Option.some.injEq] at h
        subst h
        have hsame : details.kind = kind := Log.kind_of_details hdetails
        exact ⟨congrArg Except.ok hsame.symm, rfl, by rwa [Event.kind, hsame]⟩

theorem Log.topic_of_event? {log : Log} {event : Event} (h : log.event? = some event) :
    log.topics.head? = some event.kind.signature :=
  Log.kind_eq_ok (Log.event?_eq_some h).1

theorem Event.height_of_position {event : Event} {block : Nat} (hbound : block < columnBound)
    (h : event.position.height = block) : event.height = block := by
  unfold Event.height
  rw [h]
  unfold columnBound at hbound
  omega

theorem Log.block_of_event? {log : Log} {event : Event} (h : log.event? = some event) :
    log.block = some event.height := by
  obtain ⟨block, index, transaction, hblock, -, -, hbound, -, hposition⟩ :=
    Log.position_eq_ok (Log.event?_eq_some h).2.1
  rw [hblock, Event.height_of_position hbound (by rw [hposition])]

theorem Log.height_lt_of_event? {log : Log} {event : Event} (h : log.event? = some event) :
    event.height < columnBound := by
  obtain ⟨block, index, transaction, -, -, -, hbound, -, hposition⟩ :=
    Log.position_eq_ok (Log.event?_eq_some h).2.1
  rwa [Event.height_of_position hbound (by rw [hposition])]

/-! ### Chains -/

/-- The elements with one of two properties that exclude each other. -/
theorem filter_split {α : Type} {p q r : α → Bool} (l : List α)
    (hor : ∀ a ∈ l, p a = (q a || r a)) (hne : ∀ a ∈ l, ¬(q a = true ∧ r a = true)) :
    (l.filter p).Perm (l.filter q ++ l.filter r) := by
  induction l with
  | nil => exact .refl _
  | cons a l ih =>
    have ih := ih (fun b hb => hor b (List.mem_cons_of_mem a hb))
      fun b hb => hne b (List.mem_cons_of_mem a hb)
    have ha := hor a List.mem_cons_self
    have hna := hne a List.mem_cons_self
    cases hq : q a with
    | true =>
      have hr : r a = false := by simpa [hq] using hna
      simpa [ha, hq, hr] using ih
    | false =>
      cases hr : r a with
      | true => simpa [ha, hq, hr] using (ih.cons a).trans List.perm_middle.symm
      | false => simpa [ha, hq, hr] using ih

/-- Whether a log is of a contract and announces one of some kinds. -/
def Log.wantedBy (log : Log) (address : Address) (kinds : List Kind) : Bool :=
  log.address == address &&
    log.topics.head?.any fun topic => kinds.any fun kind => kind.signature == topic

def Log.within (log : Log) (first last : Nat) : Bool :=
  log.block.any fun block => first ≤ block && block ≤ last

theorem Log.within_split (log : Log) {low mid high : Nat} (hlow : low ≤ mid) (hhigh : mid ≤ high) :
    log.within (low + 1) high = (log.within (low + 1) mid || log.within (mid + 1) high) := by
  rw [Bool.eq_iff_iff]
  cases hblock : log.block with
  | none => simp [Log.within, hblock]
  | some block =>
    simp [Log.within, hblock]
    omega

def Log.above (log : Log) (height : Nat) : Bool := log.block.any (height < ·)

theorem Log.above_iff {log : Log} {height : Nat} :
    log.above height = true ↔ ∃ block, log.block = some block ∧ height < block := by
  unfold Log.above
  cases log.block <;> simp

/-- The mined logs, whose content is final. -/
abbrev Chain := List Log

namespace Chain

def wanted (chain : Chain) (filter : ChunkFilter) : List Log :=
  chain.filter fun log =>
    log.wantedBy filter.address filter.kinds && log.within filter.first filter.last

/-- The events of the wanted logs that decode, above one height and up to another. -/
def due (chain : Chain) (address : Address) (kinds : List Kind) (low high : Nat) : List Event :=
  (decodeAll (chain.wanted { address, kinds, first := low + 1, last := high })).1

end Chain

theorem Kind.signature_injective {a b : Kind} (h : a.signature = b.signature) : a = b := by
  cases a <;> cases b <;> first | rfl | exact absurd h (by decide)

theorem Log.wantedBy_of_event? {log : Log} {event : Event} (h : log.event? = some event)
    (address : Address) (kinds : List Kind) :
    log.wantedBy address kinds = true ↔ log.address = address ∧ event.kind ∈ kinds := by
  simp only [Log.wantedBy, Log.topic_of_event? h, Option.any_some, Bool.and_eq_true, beq_iff_eq,
    List.any_eq_true]
  constructor
  · rintro ⟨haddress, kind, hmem, hsignature⟩
    rw [Kind.signature_injective hsignature] at hmem
    exact ⟨haddress, hmem⟩
  · rintro ⟨haddress, hmem⟩
    exact ⟨haddress, event.kind, hmem, rfl⟩

theorem Log.within_of_event? {log : Log} {event : Event} (h : log.event? = some event)
    (first last : Nat) :
    log.within first last = true ↔ first ≤ event.height ∧ event.height ≤ last := by
  simp [Log.within, Log.block_of_event? h]

namespace Chain

variable {chain : Chain} {address : Address} {kinds : List Kind} {low mid high : Nat}
  {event : Event}

theorem due_eq (chain : Chain) (address : Address) (kinds : List Kind) (low high : Nat) :
    chain.due address kinds low high =
      (chain.wanted { address, kinds, first := low + 1, last := high }).filterMap Log.event? := by
  rw [due, decodeAll_events]

/-- The events of the logs of a range are those due in it. -/
theorem mem_events {logs : List Log}
    (h : logs.Perm (chain.wanted { address, kinds, first := low + 1, last := high })) :
    event ∈ (decodeAll logs).1 ↔ event ∈ chain.due address kinds low high := by
  rw [decodeAll_events, (h.filterMap _).mem_iff, ← due_eq]

/-- The events due are those of the contract's logs of the kinds and heights asked for. -/
theorem mem_due : event ∈ chain.due address kinds low high ↔
    ∃ log ∈ chain, log.address = address ∧ log.event? = some event ∧ event.kind ∈ kinds ∧
      low < event.height ∧ event.height ≤ high := by
  rw [due_eq, List.mem_filterMap]
  simp only [wanted, List.mem_filter, Bool.and_eq_true]
  constructor
  · rintro ⟨log, ⟨hmem, hwanted, hwithin⟩, hevent⟩
    obtain ⟨haddress, hkind⟩ := (Log.wantedBy_of_event? hevent address kinds).mp hwanted
    obtain ⟨hlow, hhigh⟩ := (Log.within_of_event? hevent (low + 1) high).mp hwithin
    exact ⟨log, hmem, haddress, hevent, hkind, hlow, hhigh⟩
  · rintro ⟨log, hmem, haddress, hevent, hkind, hlow, hhigh⟩
    exact ⟨log, ⟨hmem, (Log.wantedBy_of_event? hevent address kinds).mpr ⟨haddress, hkind⟩,
      (Log.within_of_event? hevent (low + 1) high).mpr ⟨hlow, hhigh⟩⟩, hevent⟩

theorem bounds_of_mem_due (h : event ∈ chain.due address kinds low high) :
    event.kind ∈ kinds ∧ low < event.height ∧ event.height ≤ high := by
  obtain ⟨-, -, -, -, hbounds⟩ := mem_due.mp h
  exact hbounds

/-- An event that is due is due wherever its kind and its height are asked for. -/
theorem mem_due_of_bounds {wider : List Kind} {bottom top : Nat}
    (h : event ∈ chain.due address kinds low high) (hkind : event.kind ∈ wider)
    (hbottom : bottom < event.height) (htop : event.height ≤ top) :
    event ∈ chain.due address wider bottom top := by
  obtain ⟨log, hlog, haddress, hevent, -⟩ := mem_due.mp h
  exact mem_due.mpr ⟨log, hlog, haddress, hevent, hkind, hbottom, htop⟩

theorem mem_due_of_kind {kind : Kind} (hkind : kind ∈ kinds)
    (h : event ∈ chain.due address [kind] low high) : event ∈ chain.due address kinds low high := by
  obtain ⟨hsame, hlow, hhigh⟩ := bounds_of_mem_due h
  rw [← List.mem_singleton.mp hsame] at hkind
  exact mem_due_of_bounds h hkind hlow hhigh

/-- The events of logs asked for by blocks are the events due, where the blocks and the heights
agree below the bound of a column. -/
theorem events_wanted {first last : Nat}
    (h : ∀ block < columnBound, first ≤ block ↔ low < block) :
    (chain.wanted { address, kinds, first, last }).filterMap Log.event? =
      chain.due address kinds low last := by
  -- The two queries differ in logs that do not decode, so they are compared log by log.
  rw [due_eq, wanted, wanted]
  induction chain with
  | nil => rfl
  | cons log rest ih =>
    cases hevent : log.event? with
    | none =>
      rw [List.filter_cons, List.filter_cons]
      split <;> split <;> simp [hevent, ih]
    | some event =>
      have hsame : log.within first last = log.within (low + 1) last := by
        rw [Bool.eq_iff_iff, Log.within_of_event? hevent, Log.within_of_event? hevent,
          h _ (Log.height_lt_of_event? hevent)]
        rfl
      rw [List.filter_cons, List.filter_cons]
      dsimp only
      rw [hsame]
      split <;> simp [hevent, ih]

/-- What is due up to a height is due up to a lower one, or above that one. -/
theorem due_append (hlow : low ≤ mid) (hhigh : mid ≤ high) :
    (chain.due address kinds low high).Perm
      (chain.due address kinds low mid ++ chain.due address kinds mid high) := by
  simp only [due_eq, wanted]
  rw [← List.filterMap_append]
  refine List.Perm.filterMap _ (filter_split _ (fun log _ => ?_) fun log _ => ?_)
  · rw [← Bool.and_or_distrib_left, Log.within_split log hlow hhigh]
  · cases hblock : log.block <;> simp [Log.within, hblock]
    omega

theorem due_self (chain : Chain) (address : Address) (kinds : List Kind) {low high : Nat}
    (h : high ≤ low) : chain.due address kinds low high = [] := by
  refine List.eq_nil_iff_forall_not_mem.mpr fun event hmem => ?_
  obtain ⟨-, hlow, hhigh⟩ := bounds_of_mem_due hmem
  omega

end Chain

/-! ### Streams -/

/-- A stream of logs that was opened at a height: what it has pushed, and what it will push. -/
structure Subscription where
  height : Nat := 0
  seen : List Log := []
  coming : List Log := []

namespace Subscription

def pushed (stream : Subscription) : List Log := stream.seen ++ stream.coming

/-- A stream pushes every wanted log above the height at which it was opened, in the order of
blocks.  It may push pending logs and logs of lower blocks as well. -/
structure Follows (stream : Subscription) (chain : Chain) (address : Address)
    (kinds : List Kind) : Prop where
  complete : (stream.pushed.filter (·.above stream.height)).Perm
    (chain.filter fun log => log.wantedBy address kinds && log.above stream.height)
  ordered : stream.pushed.Pairwise fun earlier later =>
    ∀ a ∈ earlier.block, ∀ b ∈ later.block, a ≤ b

def push (stream : Subscription) (log : Log) (rest : List Log) : Subscription :=
  { stream with seen := stream.seen ++ [log], coming := rest }

variable {stream : Subscription} {chain : Chain} {address : Address} {kinds : List Kind}
  {log : Log} {rest : List Log}

theorem pushed_push (h : stream.coming = log :: rest) :
    (stream.push log rest).pushed = stream.pushed := by
  simp [pushed, push, h]

theorem Follows.push (hfollows : stream.Follows chain address kinds)
    (h : stream.coming = log :: rest) : (stream.push log rest).Follows chain address kinds where
  complete := by
    rw [pushed_push h]
    exact hfollows.complete
  ordered := by
    rw [pushed_push h]
    exact hfollows.ordered

/-- When a stream is about to push a log of a block, the logs it has pushed account for all that is
due between its height and that block. -/
theorem Follows.events_within (hfollows : stream.Follows chain address kinds)
    (h : stream.coming = log :: rest) {block low high : Nat} (hblock : log.block = some block)
    (hlow : stream.height ≤ low) (hhigh : high < block) :
    ((stream.seen.filter (·.within (low + 1) high)).filterMap Log.event?).Perm
      (chain.due address kinds low high) := by
  -- Logs come in the order of blocks, so those still to come lie at `block` or above.
  have hlater : ∀ other ∈ log :: rest, other.within (low + 1) high = false := by
    intro other hmem
    cases hother : other.block with
    | none => simp [Log.within, hother]
    | some above =>
      have hle : block ≤ above := by
        rcases List.mem_cons.mp hmem with rfl | hmem
        · rw [hblock] at hother
          cases hother
          exact Nat.le_refl _
        · have hordered := hfollows.ordered
          rw [pushed, h, List.pairwise_append, List.pairwise_cons] at hordered
          exact hordered.2.1.1 other hmem block hblock above hother
      simp [Log.within, hother]
      omega
  have hwithin : ∀ log : Log, (log.within (low + 1) high && log.above stream.height) =
      log.within (low + 1) high := by
    intro log
    cases hb : log.block <;> simp [Log.within, Log.above, hb]
    omega
  have hseen : stream.seen.filter (·.within (low + 1) high) =
      (stream.pushed.filter (·.above stream.height)).filter (·.within (low + 1) high) := by
    simp only [List.filter_filter, hwithin, pushed, h, List.filter_append]
    rw [List.filter_eq_nil_iff (l := log :: rest).mpr fun other hmem => by simp [hlater other hmem],
      List.append_nil]
  have hwanted : (chain.filter fun log =>
      log.wantedBy address kinds && log.above stream.height).filter (·.within (low + 1) high) =
        chain.wanted { address, kinds, first := low + 1, last := high } := by
    rw [List.filter_filter, Chain.wanted]
    congr 1
    funext log
    rw [Bool.and_left_comm, hwithin log]
  rw [hseen, Chain.due_eq, ← hwanted]
  exact (hfollows.complete.filter _).filterMap _

end Subscription

/-! ### Replies -/

/-- How the node may reply to a request, and what becomes of the stream that the request is made
over.  A head is never below the height at which the stream was opened. -/
inductive Chain.Replies (chain : Chain) :
    (request : Request) → Subscription → request.Reply → Subscription → Prop
  | failed {request : Request} {stream : Subscription} (failure : Failure) :
    Replies chain request stream (.error failure) stream
  | head {stream : Subscription} {deadline interval height : Nat} :
    stream.height ≤ height → height ≤ maxHeight →
      Replies chain (.head deadline interval) stream (.ok height) stream
  | chunk {stream : Subscription} {filter : ChunkFilter} {logs : List Log} :
    logs.Perm (chain.wanted filter) → Replies chain (.chunk filter) stream (.ok logs) stream
  | pause {stream : Subscription} {time : Nat} :
    Replies chain (.pause time) stream (.ok ()) stream
  | log {stream : Subscription} {log : Log} {rest : List Log} :
    stream.coming = log :: rest →
      Replies chain .nextLog stream (.ok (some log)) (stream.push log rest)
  | ended {stream : Subscription} : Replies chain .nextLog stream (.ok none) stream

end EventIndexer
