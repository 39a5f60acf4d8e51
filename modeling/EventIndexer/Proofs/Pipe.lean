import EventIndexer.Channel

/-! A producer and a consumer at the two ends of a channel, which take their steps in any order.  A
message that the consumer has not been handed waits to be sent or is queued, so what is handed over
is what was produced, in the same order, and there is room for little in between. -/

namespace EventIndexer

namespace Producer

variable {κ μ : Type}

/-- How many more messages may be produced before one is sent. -/
def Phase.room : Phase κ μ → Nat
  | .ready | .calling _ => 1
  | .sending _ | .ended _ => 0

/-- The message that waits to be sent. -/
def Phase.pending : Phase κ μ → List μ
  | .sending message => [message]
  | .ready | .calling _ | .ended _ => []

/-- The message that a step obtains from a call. -/
def Step.produced : Step κ μ → List μ
  | .finish (.ok message) => [message]
  | _ => []

/-- A step of a producer, read backwards. -/
inductive Takes (link : Link μ) : Phase κ μ → Step κ μ → Link μ → Phase κ μ → Prop
  | call {call : κ} : link.cancelled = false → Takes link .ready (.call call) link (.calling call)
  | work {before call : κ} : Takes link (.calling before) (.work call) link (.calling call)
  | finish {call : κ} {message : μ} :
    Takes link (.calling call) (.finish (.ok message)) link (.sending message)
  | fail {call : κ} {failure : Failure} :
    Takes link (.calling call) (.finish (.error failure))
      { link with cancelled := true }.withoutSender (.ended (.error failure))
  | stop {phase : Phase κ μ} : link.cancelled = true → phase.pending = [] →
    Takes link phase .stop link.withoutSender (.ended (.ok ()))
  | send {message : μ} : link.channel.receiverGone = false → link.channel.hasRoom = true →
    Takes link (.sending message) .send
      { link with channel := { link.channel with queue := link.channel.queue ++ [message] } } .ready
  /-- The receiver is gone, and the message with it. -/
  | lose {message : μ} : link.channel.receiverGone = true →
    Takes link (.sending message) .send link.withoutSender (.ended (.ok ()))

theorem takes_of_step {link after : Link μ} {phase next : Phase κ μ} {move : Step κ μ}
    (h : step link phase move = some (after, next)) : Takes link phase move after next := by
  unfold step at h
  split at h
  · split at h
    · cases h
    · next hlive =>
      cases h
      exact .call (by simpa using hlive)
  · cases h
    exact .work
  · cases h
    exact .finish
  · cases h
    exact .fail
  · split at h
    · next hfired =>
      cases h
      exact .stop hfired rfl
    · cases h
  · split at h
    · next hfired =>
      cases h
      exact .stop hfired rfl
    · cases h
  · split at h
    · next hgone =>
      cases h
      exact .lose hgone
    · next hgone =>
      split at h
      · next hroom =>
        cases h
        exact .send (by simpa using hgone) hroom
      · cases h
  · cases h

namespace Takes

variable {link after : Link μ} {phase next : Phase κ μ} {move : Step κ μ}

theorem capacity (h : Takes link phase move after next) :
    after.channel.capacity = link.channel.capacity := by
  cases h <;> rfl

theorem receiverGone (h : Takes link phase move after next) :
    after.channel.receiverGone = link.channel.receiverGone := by
  cases h <;> rfl

theorem fits (h : Takes link phase move after next)
    (hfits : link.channel.queue.length ≤ link.channel.capacity) :
    after.channel.queue.length ≤ after.channel.capacity := by
  cases h with
  | send _ hroom =>
    have hlt : link.channel.queue.length < link.channel.capacity := by
      simpa [Channel.hasRoom] using hroom
    rw [List.length_append]
    exact hlt
  | _ => exact hfits

/-- A message that a call returns waits behind all others, and none is lost while there is a
receiver. -/
theorem queued (h : Takes link phase move after next) (hlives : link.channel.receiverGone = false) :
    after.channel.queue ++ next.pending =
      link.channel.queue ++ phase.pending ++ move.produced := by
  cases h with
  | send => simp [Phase.pending, Step.produced]
  | stop _ hpending =>
    rw [hpending]
    simp [Phase.pending, Step.produced, Link.withoutSender]
  | lose hgone => simp [hgone] at hlives
  | _ => simp [Phase.pending, Step.produced, Link.withoutSender]

/-- Without a receiver, one more call at most returns a message. -/
theorem room_le (h : Takes link phase move after next) (hgone : link.channel.receiverGone = true) :
    move.produced.length + next.room ≤ phase.room := by
  cases h with
  | send hlives => simp [hgone] at hlives
  | _ => simp [Phase.room, Step.produced]

end Takes

theorem Phase.pending_add_room_le (phase : Phase κ μ) : phase.pending.length + phase.room ≤ 1 := by
  cases phase <;> simp [Phase.pending, Phase.room]

end Producer

namespace Consumer

variable {ν μ : Type}

/-- How many messages a consumer was handed without having handled them. -/
def Phase.unhandled : Phase ν → Nat
  | .handling _ | .ended (.error _) => 1
  | .ready | .ended (.ok ()) => 0

/-- The message that a step hands to a call. -/
def Step.handed (channel : Channel μ) : Step ν → List μ
  | .take => channel.queue.take 1
  | _ => []

def Step.handled : Step ν → Nat
  | .finish (.ok ()) => 1
  | _ => 0

/-- A step of a consumer, read backwards. -/
inductive Takes (start : μ → ν) (link : Link μ) : Phase ν → Step ν → Link μ → Phase ν → Prop
  | take {message : μ} {rest : List μ} :
    link.cancelled = false → link.channel.queue = message :: rest →
      Takes start link .ready .take { link with channel := { link.channel with queue := rest } }
        (.handling (start message))
  | work {before call : ν} : Takes start link (.handling before) (.work call) link (.handling call)
  | finish {call : ν} : Takes start link (.handling call) (.finish (.ok ())) link .ready
  | fail {call : ν} {failure : Failure} :
    Takes start link (.handling call) (.finish (.error failure))
      { link with cancelled := true }.withoutReceiver (.ended (.error failure))
  | stop : link.cancelled = true →
    Takes start link .ready .stop link.withoutReceiver (.ended (.ok ()))
  | drained : link.channel.queue = [] → link.channel.senderGone = true →
    Takes start link .ready .drained link.withoutReceiver (.ended (.ok ()))

theorem takes_of_step {start : μ → ν} {link after : Link μ} {phase next : Phase ν} {move : Step ν}
    (h : step start link phase move = some (after, next)) :
    Takes start link phase move after next := by
  unfold step at h
  split at h
  · split at h
    · cases h
    · next hlive =>
      rw [Option.map_eq_some_iff] at h
      obtain ⟨⟨message, channel⟩, htake, h⟩ := h
      unfold Channel.take? at htake
      split at htake
      · cases htake
      · next hqueue =>
        cases htake
        cases h
        exact .take (by simpa using hlive) hqueue
  · cases h
    exact .work
  · cases h
    exact .finish
  · cases h
    exact .fail
  · split at h
    · next hfired =>
      cases h
      exact .stop hfired
    · cases h
  · split at h
    · next hdrained =>
      rw [Bool.and_eq_true, List.isEmpty_iff] at hdrained
      cases h
      exact .drained hdrained.1 hdrained.2
    · cases h
  · cases h

namespace Takes

variable {start : μ → ν} {link after : Link μ} {phase next : Phase ν} {move : Step ν}

theorem capacity (h : Takes start link phase move after next) :
    after.channel.capacity = link.channel.capacity := by
  cases h <;> rfl

theorem running (h : Takes start link phase move after next) (result : Except Failure Unit) :
    phase ≠ .ended result := by
  cases h <;> nofun

/-- The receiver goes when the consumer ends. -/
theorem receiverGone (h : Takes start link phase move after next)
    (hlives : link.channel.receiverGone = false) :
    after.channel.receiverGone = true ↔ ∃ result, next = .ended result := by
  cases h <;> simp [hlives, Link.withoutReceiver]

/-- What is handed over is the first message of those in the channel. -/
theorem queued (h : Takes start link phase move after next) :
    move.handed link.channel ++ after.channel.queue = link.channel.queue := by
  cases h with
  | take _ hqueue => simp [Step.handed, hqueue]
  | _ => rfl

theorem fits (h : Takes start link phase move after next)
    (hfits : link.channel.queue.length ≤ link.channel.capacity) :
    after.channel.queue.length ≤ after.channel.capacity := by
  rw [h.capacity]
  refine Nat.le_trans ?_ hfits
  rw [← h.queued, List.length_append]
  omega

theorem handled (h : Takes start link phase move after next) :
    (move.handed link.channel).length + phase.unhandled = move.handled + next.unhandled := by
  cases h with
  | take _ hqueue => simp [Step.handed, Step.handled, Phase.unhandled, hqueue]
  | _ => rfl

end Takes

theorem Phase.unhandled_le (phase : Phase ν) : phase.unhandled ≤ 1 := by
  cases phase with
  | ended result => cases result <;> simp [Phase.unhandled]
  | _ => simp [Phase.unhandled]

end Consumer

/-- A producer and a consumer with their channel, and what has passed through it. -/
structure Pipe (κ ν μ : Type) where
  link : Link μ
  producer : Producer.Phase κ μ := .ready
  consumer : Consumer.Phase ν := .ready
  /-- What the calls of the producer have returned. -/
  produced : List μ := []
  /-- What the calls of the consumer were begun with. -/
  handed : List μ := []
  /-- How many calls of the consumer have succeeded. -/
  consumed : Nat := 0

namespace Pipe

variable {κ ν μ : Type}

/-- What happens next.  A loop that has looked at the token before it fired does not see that it has
fired. -/
inductive Move (κ ν μ : Type)
  | cancel
  | produce (sees : Bool) (step : Producer.Step κ μ)
  | consume (sees : Bool) (step : Consumer.Step ν)

/-- Two loops that have just been started. -/
def opened (capacity : Nat) : Pipe κ ν μ := { link := { channel := { capacity } } }

/-- The link as it is to a loop that sees the token, or has looked before it fired. -/
def seen (pipe : Pipe κ ν μ) (sees : Bool) : Link μ :=
  { pipe.link with cancelled := sees && pipe.link.cancelled }

/-- The pipe after a move; none where it cannot be made.  The token stays fired. -/
def step (start : μ → ν) (pipe : Pipe κ ν μ) : Move κ ν μ → Option (Pipe κ ν μ)
  | .cancel => some { pipe with link := { pipe.link with cancelled := true } }
  | .produce sees step => do
    let (link, producer) ← Producer.step (pipe.seen sees) pipe.producer step
    return { pipe with
      link := { link with cancelled := link.cancelled || pipe.link.cancelled }
      producer, produced := pipe.produced ++ step.produced }
  | .consume sees step => do
    let (link, consumer) ← Consumer.step start (pipe.seen sees) pipe.consumer step
    return { pipe with
      link := { link with cancelled := link.cancelled || pipe.link.cancelled }
      consumer
      handed := pipe.handed ++ step.handed pipe.link.channel
      consumed := pipe.consumed + step.handled }

/-- The pipes that a pipe becomes, move by move. -/
inductive Becomes (start : μ → ν) (pipe : Pipe κ ν μ) : Pipe κ ν μ → Prop
  | refl : Becomes start pipe pipe
  | step {before after : Pipe κ ν μ} : Becomes start pipe before → ∀ move,
    before.step start move = some after → Becomes start pipe after

variable {start : μ → ν} {pipe after later : Pipe κ ν μ} {capacity : Nat}

/-- A move, read backwards. -/
inductive Moves (start : μ → ν) (pipe : Pipe κ ν μ) : Move κ ν μ → Pipe κ ν μ → Prop
  | cancel : Moves start pipe .cancel { pipe with link := { pipe.link with cancelled := true } }
  | produce {sees : Bool} {step : Producer.Step κ μ} {link : Link μ}
      {producer : Producer.Phase κ μ} :
    Producer.Takes (pipe.seen sees) pipe.producer step link producer →
      Moves start pipe (.produce sees step) { pipe with
        link := { link with cancelled := link.cancelled || pipe.link.cancelled }
        producer, produced := pipe.produced ++ step.produced }
  | consume {sees : Bool} {step : Consumer.Step ν} {link : Link μ} {consumer : Consumer.Phase ν} :
    Consumer.Takes start (pipe.seen sees) pipe.consumer step link consumer →
      Moves start pipe (.consume sees step) { pipe with
        link := { link with cancelled := link.cancelled || pipe.link.cancelled }
        consumer
        handed := pipe.handed ++ step.handed pipe.link.channel
        consumed := pipe.consumed + step.handled }

theorem moves_of_step {move : Move κ ν μ} (h : pipe.step start move = some after) :
    pipe.Moves start move after := by
  cases move with
  | cancel =>
    cases h
    exact .cancel
  | produce sees step =>
    simp only [Pipe.step, Option.bind_eq_bind, Option.bind_eq_some_iff] at h
    obtain ⟨⟨link, producer⟩, hstep, h⟩ := h
    cases h
    exact .produce (Producer.takes_of_step hstep)
  | consume sees step =>
    simp only [Pipe.step, Option.bind_eq_bind, Option.bind_eq_some_iff] at h
    obtain ⟨⟨link, consumer⟩, hstep, h⟩ := h
    cases h
    exact .consume (Consumer.takes_of_step hstep)

/-- Where the messages are.  While the receiver lives, each of them is in one of three places; once
it is gone, nothing more is sent and at most one more message is produced. -/
structure Ordered (capacity : Nat) (pipe : Pipe κ ν μ) : Prop where
  size : pipe.link.channel.capacity = capacity
  fits : pipe.link.channel.queue.length ≤ pipe.link.channel.capacity
  gone : pipe.link.channel.receiverGone = true ↔ ∃ result, pipe.consumer = .ended result
  places : pipe.link.channel.receiverGone = false →
    pipe.produced = pipe.handed ++ pipe.link.channel.queue ++ pipe.producer.pending
  order : pipe.handed <+: pipe.produced
  handled : pipe.handed.length = pipe.consumed + pipe.consumer.unhandled
  bounded : pipe.produced.length + pipe.producer.room ≤ pipe.consumed + capacity + 2

theorem ordered_opened : (opened capacity : Pipe κ ν μ).Ordered capacity where
  size := rfl
  fits := Nat.zero_le _
  gone := by simp [opened]
  places := fun _ => rfl
  order := List.prefix_rfl
  handled := rfl
  bounded := by simp [opened, Producer.Phase.room]

/-- The three places hold a message in a call, a full channel, and a message on its way to it. -/
theorem bounded_of_places (hfits : pipe.link.channel.queue.length ≤ capacity)
    (hplaces : pipe.produced = pipe.handed ++ pipe.link.channel.queue ++ pipe.producer.pending)
    (hhandled : pipe.handed.length = pipe.consumed + pipe.consumer.unhandled) :
    pipe.produced.length + pipe.producer.room ≤ pipe.consumed + capacity + 2 := by
  have hcall := pipe.consumer.unhandled_le
  have hpending := pipe.producer.pending_add_room_le
  rw [hplaces, List.length_append, List.length_append]
  omega

theorem Ordered.produce {sees : Bool} {step : Producer.Step κ μ} {link : Link μ}
    {producer : Producer.Phase κ μ} (inv : pipe.Ordered capacity)
    (h : Producer.Takes (pipe.seen sees) pipe.producer step link producer) :
    ({ pipe with
        link := { link with cancelled := link.cancelled || pipe.link.cancelled }
        producer, produced := pipe.produced ++ step.produced } : Pipe κ ν μ).Ordered capacity := by
  have hsize : link.channel.capacity = capacity := h.capacity.trans inv.size
  have hgone : link.channel.receiverGone = pipe.link.channel.receiverGone := h.receiverGone
  have hfits := h.fits inv.fits
  have horder : pipe.handed <+: pipe.produced ++ step.produced :=
    inv.order.trans (List.prefix_append _ _)
  have hplaces (hlives : link.channel.receiverGone = false) :
      pipe.produced ++ step.produced =
        pipe.handed ++ link.channel.queue ++ producer.pending := by
    rw [hgone] at hlives
    have hqueued : link.channel.queue ++ producer.pending =
      pipe.link.channel.queue ++ pipe.producer.pending ++ step.produced := h.queued hlives
    rw [List.append_assoc, hqueued, inv.places hlives]
    simp only [List.append_assoc]
  refine ⟨hsize, hfits, hgone ▸ inv.gone, hplaces, horder, inv.handled, ?_⟩
  cases hreceiver : link.channel.receiverGone with
  | false => exact bounded_of_places (hsize ▸ hfits) (hplaces hreceiver) inv.handled
  | true =>
    have hroom := h.room_le (hgone.symm.trans hreceiver)
    have hbounded := inv.bounded
    show (pipe.produced ++ step.produced).length + producer.room ≤ pipe.consumed + capacity + 2
    rw [List.length_append]
    omega

theorem Ordered.consume {sees : Bool} {step : Consumer.Step ν} {link : Link μ}
    {consumer : Consumer.Phase ν} (inv : pipe.Ordered capacity)
    (h : Consumer.Takes start (pipe.seen sees) pipe.consumer step link consumer) :
    ({ pipe with
        link := { link with cancelled := link.cancelled || pipe.link.cancelled }
        consumer
        handed := pipe.handed ++ step.handed pipe.link.channel
        consumed := pipe.consumed + step.handled } : Pipe κ ν μ).Ordered capacity := by
  have hlives : pipe.link.channel.receiverGone = false := by
    cases hreceiver : pipe.link.channel.receiverGone with
    | false => rfl
    | true =>
      obtain ⟨result, hended⟩ := inv.gone.mp hreceiver
      exact absurd hended (h.running result)
  have hsize : link.channel.capacity = capacity := h.capacity.trans inv.size
  have hfits := h.fits inv.fits
  have hhanded : (step.handed pipe.link.channel).length + pipe.consumer.unhandled =
    step.handled + consumer.unhandled := h.handled
  have hqueued : step.handed pipe.link.channel ++ link.channel.queue = pipe.link.channel.queue :=
    h.queued
  have hplaces : pipe.produced = pipe.handed ++ step.handed pipe.link.channel ++
      link.channel.queue ++ pipe.producer.pending := by
    rw [inv.places hlives, ← hqueued]
    simp only [List.append_assoc]
  have hhandled : (pipe.handed ++ step.handed pipe.link.channel).length =
      pipe.consumed + step.handled + consumer.unhandled := by
    have := inv.handled
    rw [List.length_append]
    omega
  refine ⟨hsize, hfits, h.receiverGone hlives, fun _ => hplaces, ?_, hhandled, ?_⟩
  · exact ⟨link.channel.queue ++ pipe.producer.pending, by simp only [hplaces, List.append_assoc]⟩
  · have := inv.bounded
    show pipe.produced.length + pipe.producer.room ≤ pipe.consumed + step.handled + capacity + 2
    omega

theorem Ordered.move {move : Move κ ν μ} (inv : pipe.Ordered capacity)
    (h : pipe.Moves start move after) : after.Ordered capacity := by
  cases h with
  | cancel => exact ⟨inv.size, inv.fits, inv.gone, inv.places, inv.order, inv.handled, inv.bounded⟩
  | produce htakes => exact inv.produce htakes
  | consume htakes => exact inv.consume htakes

theorem ordered_of_becomes (h : (opened capacity).Becomes start pipe) : pipe.Ordered capacity := by
  induction h with
  | refl => exact ordered_opened
  | step _ move hstep ih => exact ih.move (moves_of_step hstep)

/-- A consumer that has ended is handed nothing more. -/
theorem handed_of_ended (h : pipe.Becomes start later) {result : Except Failure Unit}
    (hended : pipe.consumer = .ended result) :
    later.consumer = .ended result ∧ later.handed = pipe.handed := by
  induction h with
  | refl => exact ⟨hended, rfl⟩
  | step _ move hstep ih =>
    obtain ⟨hconsumer, hhanded⟩ := ih
    cases moves_of_step hstep with
    | cancel | produce => exact ⟨hconsumer, hhanded⟩
    | consume htakes => exact absurd hconsumer (htakes.running result)

/-- A call that fails and a token that is seen to have fired are the last of a consumer. -/
theorem ended_of_consume {sees : Bool} {move : Consumer.Step ν}
    (h : pipe.step start (.consume sees move) = some after)
    (hlast : (∃ failure, move = .finish (.error failure)) ∨ move = .stop) :
    (∃ result, after.consumer = .ended result) ∧ after.handed = pipe.handed := by
  cases moves_of_step h with
  | consume htakes =>
    generalize pipe.consumer = phase at htakes
    rcases hlast with ⟨failure, rfl⟩ | rfl
    · cases htakes
      exact ⟨⟨_, rfl⟩, List.append_nil _⟩
    · cases htakes
      exact ⟨⟨_, rfl⟩, List.append_nil _⟩

/-- What counts as handed over is what the consumer's call is begun with. -/
theorem handling_of_take {sees : Bool} (h : pipe.step start (.consume sees .take) = some after) :
    ∃ message, after.handed = pipe.handed ++ [message] ∧
      after.consumer = .handling (start message) := by
  cases moves_of_step h with
  | consume htakes =>
    generalize pipe.consumer = phase at htakes
    cases htakes with
    | @take message rest _ hqueue =>
      have hqueue : pipe.link.channel.queue = message :: rest := hqueue
      exact ⟨message, by simp [Consumer.Step.handed, hqueue], rfl⟩

/-- Whatever the calls do and in whichever order the loops move, the consumer is handed what was
produced, in that order and each message once.  None is lost while there is a receiver, at most two
more than the channel holds are unfinished, and a consumer that has failed or has seen its token
fired is handed nothing more. -/
theorem handed_in_order (h : (opened capacity).Becomes start pipe) :
    pipe.handed <+: pipe.produced ∧
      (pipe.link.channel.receiverGone = false →
        pipe.produced = pipe.handed ++ pipe.link.channel.queue ++ pipe.producer.pending) ∧
      (pipe.consumed ≤ pipe.handed.length ∧ pipe.handed.length ≤ pipe.consumed + 1) ∧
      pipe.produced.length ≤ pipe.consumed + (capacity + 2) ∧
      ∀ sees move after later, pipe.step start (.consume sees move) = some after →
        (∃ failure, move = .finish (.error failure)) ∨ move = .stop →
          after.Becomes start later → later.handed = pipe.handed := by
  have inv := ordered_of_becomes h
  have hunhandled := pipe.consumer.unhandled_le
  have hhandled := inv.handled
  have hbounded := inv.bounded
  refine ⟨inv.order, inv.places, ⟨by omega, by omega⟩, by omega, ?_⟩
  intro sees move after later hstep hlast hlater
  obtain ⟨⟨result, hended⟩, hhanded⟩ := ended_of_consume hstep hlast
  exact (handed_of_ended hlater hended).2.trans hhanded

/-- A channel of one message with every place taken: one message is handled, one is queued, and one
waits to be sent.  The consumer then fails, and is not handed the second. -/
theorem handed_in_order_full : ∃ full failed : Pipe Unit Nat Nat,
    (opened 1).Becomes id full ∧ full.produced = [1, 2, 3] ∧ full.handed = [1] ∧
      full.produced.length ≤ full.consumed + (1 + 2) ∧
      full.step id (.consume true (.finish (.error { cause := .streamEnded }))) = some failed ∧
      ∀ later, failed.Becomes id later → later.handed = [1] := by
  have hfirst := (((.refl : (opened 1 : Pipe Unit Nat Nat).Becomes id _).step
    (.produce true (.call ())) rfl).step (.produce true (.finish (.ok 1))) rfl).step
    (.produce true .send) rfl
  have hsecond := (((hfirst.step (.consume true .take) rfl).step
    (.produce true (.call ())) rfl).step (.produce true (.finish (.ok 2))) rfl).step
    (.produce true .send) rfl
  have hthird := (hsecond.step (.produce true (.call ())) rfl).step
    (.produce true (.finish (.ok 3))) rfl
  obtain ⟨-, -, -, hbounded, hlast⟩ := handed_in_order hthird
  exact ⟨_, _, hthird, rfl, rfl, hbounded, rfl,
    fun later hlater => hlast true _ _ later rfl (.inl ⟨_, rfl⟩) hlater⟩

end Pipe

end EventIndexer
