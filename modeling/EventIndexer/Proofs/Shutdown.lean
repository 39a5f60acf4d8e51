import EventIndexer.Proofs.Pipe

/-! How a producer and a consumer come to their end.  Once the token has fired, each loop stops
where it next looks at it; a loop that has looked before acts once more on what it saw.  Sending
does not look at the token: a producer that waits for room ends because the consumer does, and
takes the receiver with it. -/

namespace EventIndexer

namespace Producer

variable {κ μ : Type} {link after : Link μ} {phase next : Phase κ μ} {move : Step κ μ} {lags : Bool}

/-- Whether a step is taken only where the token was found unfired. -/
def Step.presumes : Step κ μ → Bool
  | .call _ | .work _ | .finish _ => true
  | .stop | .send => false

def Step.begins : Step κ μ → Bool
  | .call _ => true
  | .work _ | .finish _ | .stop | .send => false

/-- How many steps are left at most, once the token has fired; `lags` says whether the loop has
looked before. -/
def Phase.rank (lags : Bool) : Phase κ μ → Nat
  | .ready => if lags then 4 else 1
  | .calling _ => if lags then 3 else 1
  | .sending _ => 2
  | .ended _ => 0

/-- How many calls may still be begun. -/
def Phase.calls (lags : Bool) : Phase κ μ → Nat
  | .ready => lags.toNat
  | .calling _ | .sending _ | .ended _ => 0

/-- How many messages may still enter the channel. -/
def Phase.sends (lags : Bool) : Phase κ μ → Nat
  | .ready | .calling _ => lags.toNat
  | .sending _ => 1
  | .ended _ => 0

theorem Phase.calls_le (lags : Bool) (phase : Phase κ μ) : phase.calls lags ≤ lags.toNat := by
  cases phase <;> simp [Phase.calls]

theorem Phase.sends_le (lags : Bool) (phase : Phase κ μ) : phase.sends lags ≤ 1 := by
  cases phase <;> simp [Phase.sends, Bool.toNat_le]

theorem running_of_step (h : step link phase move = some (after, next))
    (result : Except Failure Unit) : phase ≠ .ended result := by
  rintro rfl
  simp [step] at h

theorem rank_lt_of_step (h : step link phase move = some (after, next))
    (hlags : move.presumes = true → lags = true) :
    next.rank (lags && move.begins) < phase.rank lags := by
  have hrunning := running_of_step h
  cases takes_of_step h with
  | call => simp [Phase.rank, Step.begins, hlags rfl]
  | work | finish | fail => simp [Phase.rank, Step.begins, hlags rfl]
  | send | lose => simp [Phase.rank, Step.begins]
  | stop _ hpending =>
    cases phase with
    | ended result => exact absurd rfl (hrunning result)
    | sending message => cases hpending
    | ready | calling =>
      simp only [Phase.rank]
      split <;> omega

namespace Takes

theorem calls_le (h : Takes link phase move after next)
    (hlags : move.presumes = true → lags = true) :
    move.begins.toNat + next.calls (lags && move.begins) ≤ phase.calls lags := by
  cases h with
  | call => simp [Phase.calls, Step.begins, hlags rfl]
  | _ => simp [Phase.calls, Step.begins]

/-- What enters the channel is the message that waits to be sent; where the loop has not looked
before, it waits already. -/
theorem enters (h : Takes link phase move after next)
    (hlags : move.presumes = true → lags = true) :
    ∃ sent, after.channel.queue = link.channel.queue ++ sent ∧
      sent.length + next.sends (lags && move.begins) ≤ phase.sends lags ∧
      (lags = false → sent ++ next.pending <+: phase.pending) := by
  cases h with
  | call | work | finish | fail =>
    obtain rfl := hlags rfl
    exact ⟨[], (List.append_nil _).symm, by simp [Phase.sends, Step.begins], nofun⟩
  | stop | lose =>
    exact ⟨[], (List.append_nil _).symm, Nat.zero_le _, fun _ => List.nil_prefix⟩
  | @send message =>
    exact ⟨[message], rfl, by simp [Phase.sends, Step.begins], fun _ => List.prefix_rfl⟩

/-- A call that fails is what makes a producer end with a failure. -/
theorem failed_iff (h : Takes link phase move after next) (failure : Failure) :
    next = .ended (.error failure) ↔ move = .finish (.error failure) := by
  cases h <;> simp

end Takes

end Producer

namespace Consumer

variable {ν μ : Type} {start : μ → ν} {link after : Link μ} {phase next : Phase ν} {move : Step ν}
  {lags : Bool}

/-- Whether a step is taken only where the token was found unfired. -/
def Step.presumes : Step ν → Bool
  | .take => true
  | .work _ | .finish _ | .stop | .drained => false

/-- How many steps are left at most, once the token has fired, those of a call apart. -/
def Phase.rank (lags : Bool) : Phase ν → Nat
  | .ready => if lags then 3 else 1
  | .handling _ => 2
  | .ended _ => 0

namespace Takes

theorem rank_lt (h : Takes start link phase move after next)
    (hlags : move.presumes = true → lags = true) :
    next.rank false < phase.rank lags ∨
      ∃ call working, phase = .handling call ∧ move = .work working ∧ next = .handling working := by
  cases h with
  | take => exact .inl (by simp [Phase.rank, hlags rfl])
  | work => exact .inr ⟨_, _, rfl, rfl, rfl⟩
  | finish | fail => exact .inl (by simp [Phase.rank])
  | stop | drained =>
    left
    simp only [Phase.rank]
    split <;> omega

/-- A call that fails is what makes a consumer end with a failure. -/
theorem failed_iff (h : Takes start link phase move after next) (failure : Failure) :
    next = .ended (.error failure) ↔ move = .finish (.error failure) := by
  cases h <;> simp

/-- A call goes on until it returns. -/
theorem handling_or_finish (h : Takes start link phase move after next)
    (hhandling : ∃ call, phase = .handling call) :
    (∃ call, next = .handling call) ∨ ∃ result, move = .finish result := by
  obtain ⟨call, rfl⟩ := hhandling
  cases h with
  | work => exact .inl ⟨_, rfl⟩
  | finish | fail => exact .inr ⟨_, rfl⟩

end Takes

end Consumer

/-- What a call of the consumer can do: go on to its next wait, or return. -/
structure Handler (ν : Type) where
  works : ν → ν → Prop
  returns : ν → Except Failure Unit → Prop

namespace Handler

variable {ν : Type}

/-- Whether every call returns, however it goes on. -/
structure Returns (handler : Handler ν) : Prop where
  finite : WellFounded fun next call => handler.works call next
  alive : ∀ call, (∃ next, handler.works call next) ∨ ∃ result, handler.returns call result

def Permits (handler : Handler ν) : Consumer.Phase ν → Consumer.Step ν → Prop
  | .handling call, .work next => handler.works call next
  | .handling call, .finish result => handler.returns call result
  | _, _ => True

end Handler

namespace Pipe

variable {κ ν μ : Type}

/-- The loops that looked at the token before it fired, and have yet to act on what they saw. -/
structure Lag where
  producer : Bool := false
  consumer : Bool := false

namespace Move

/-- Whether the producer begins a call. -/
def calls : Move κ ν μ → Bool
  | .produce _ step => step.begins
  | .cancel | .consume .. => false

/-- Whether the consumer begins a call. -/
def takes : Move κ ν μ → Bool
  | .consume _ .take => true
  | _ => false

end Move

/-- The pipes that a pipe becomes, with the moves that were made. -/
inductive Runs (start : μ → ν) (pipe : Pipe κ ν μ) : List (Move κ ν μ) → Pipe κ ν μ → Prop
  | refl : Runs start pipe [] pipe
  | step {moves : List (Move κ ν μ)} {before after : Pipe κ ν μ} : Runs start pipe moves before →
    ∀ move, before.step start move = some after → Runs start pipe (moves ++ [move]) after

/-- A move once the token has fired.  A loop that lags may take one step that presumes otherwise; a
producer that begins a call with it may carry that call on. -/
inductive Follows (start : μ → ν) (handler : Handler ν) (pipe : Pipe κ ν μ) (lag : Lag) :
    Move κ ν μ → Pipe κ ν μ → Lag → Prop
  | produce {step : Producer.Step κ μ} {after : Pipe κ ν μ} :
    (step.presumes = true → lag.producer = true) →
      pipe.step start (.produce (!step.presumes) step) = some after →
        Follows start handler pipe lag (.produce (!step.presumes) step) after
          { lag with producer := lag.producer && step.begins }
  | consume {step : Consumer.Step ν} {after : Pipe κ ν μ} :
    (step.presumes = true → lag.consumer = true) → handler.Permits pipe.consumer step →
      pipe.step start (.consume (!step.presumes) step) = some after →
        Follows start handler pipe lag (.consume (!step.presumes) step) after
          { lag with consumer := false }

/-- The pipes that a pipe becomes once the token has fired, with the moves that were made. -/
inductive Closes (start : μ → ν) (handler : Handler ν) (pipe : Pipe κ ν μ) (lag : Lag) :
    List (Move κ ν μ) → Pipe κ ν μ → Lag → Prop
  | refl : Closes start handler pipe lag [] pipe lag
  | step {moves : List (Move κ ν μ)} {move : Move κ ν μ} {before after : Pipe κ ν μ}
      {middle left : Lag} :
    Closes start handler pipe lag moves before middle →
      Follows start handler before middle move after left →
        Closes start handler pipe lag (moves ++ [move]) after left

variable {start : μ → ν} {handler : Handler ν} {pipe after later : Pipe κ ν μ} {lag left : Lag}
  {move : Move κ ν μ} {moves : List (Move κ ν μ)} {capacity : Nat}

/-! ### What made the loops fail -/

theorem Runs.becomes (h : pipe.Runs start moves later) : pipe.Becomes start later := by
  induction h with
  | refl => exact .refl
  | step _ move hstep ih => exact ih.step move hstep

theorem cancelled_of_moves (h : pipe.Moves start move after)
    (hfired : pipe.link.cancelled = true) : after.link.cancelled = true := by
  cases h with
  | cancel => rfl
  | produce | consume => simp [hfired]

theorem Runs.producer_failed_iff (h : (opened capacity).Runs start moves pipe) (failure : Failure) :
    pipe.producer = .ended (.error failure) ↔
      ∃ sees, .produce sees (.finish (.error failure)) ∈ moves := by
  induction h with
  | refl => simp [opened]
  | @step moves before after hrun move hstep ih =>
    simp only [List.mem_append, List.mem_singleton, exists_or, ← ih]
    cases move with
    | cancel =>
      cases hstep
      simp
    | consume sees step =>
      cases moves_of_step hstep
      simp
    | produce sees step =>
      -- The loop was running, so that none of its calls had failed before.
      have hrunning : before.producer ≠ .ended (.error failure) := by
        simp only [Pipe.step, Option.bind_eq_bind, Option.bind_eq_some_iff] at hstep
        obtain ⟨_, hstep, -⟩ := hstep
        exact Producer.running_of_step hstep _
      cases moves_of_step hstep with
      | produce htakes => simp [hrunning, htakes.failed_iff, eq_comm]

theorem Runs.consumer_failed_iff (h : (opened capacity).Runs start moves pipe) (failure : Failure) :
    pipe.consumer = .ended (.error failure) ↔
      ∃ sees, .consume sees (.finish (.error failure)) ∈ moves := by
  induction h with
  | refl => simp [opened]
  | @step moves before after hrun move hstep ih =>
    simp only [List.mem_append, List.mem_singleton, exists_or, ← ih]
    cases moves_of_step hstep with
    | cancel | produce => simp
    | consume htakes => simp [htakes.running, htakes.failed_iff, eq_comm]

/-- A call that fails leaves the token fired. -/
theorem Runs.cancelled_of_failed (h : (opened capacity).Runs start moves pipe) {failure : Failure}
    (hfailed : pipe.producer = .ended (.error failure) ∨
      pipe.consumer = .ended (.error failure)) : pipe.link.cancelled = true := by
  induction h with
  | refl => simp [opened] at hfailed
  | step hrun move hstep ih =>
    cases moves_of_step hstep with
    | cancel => rfl
    | produce htakes =>
      rcases hfailed with hfailed | hfailed
      · obtain rfl := (htakes.failed_iff failure).mp hfailed
        generalize Pipe.producer _ = phase at htakes
        cases htakes
        rfl
      · exact cancelled_of_moves (moves_of_step hstep) (ih (.inr hfailed))
    | consume htakes =>
      rcases hfailed with hfailed | hfailed
      · exact cancelled_of_moves (moves_of_step hstep) (ih (.inl hfailed))
      · obtain rfl := (htakes.failed_iff failure).mp hfailed
        generalize Pipe.consumer _ = phase at htakes
        cases htakes
        rfl

/-! ### The end is reached -/

theorem Follows.step (h : pipe.Follows start handler lag move after left) :
    pipe.step start move = some after := by
  cases h with
  | produce _ hstep => exact hstep
  | consume _ _ hstep => exact hstep

/-- Whether both loops have ended. -/
def Ended (pipe : Pipe κ ν μ) : Prop :=
  (∃ result, pipe.producer = .ended result) ∧ ∃ result, pipe.consumer = .ended result

def rank (pipe : Pipe κ ν μ) (lag : Lag) : Nat :=
  pipe.producer.rank lag.producer + pipe.consumer.rank lag.consumer

/-- A move brings the loops nearer to their end, or the call of the consumer nearer to its own. -/
theorem Follows.rank_lt (h : pipe.Follows start handler lag move after left) :
    after.rank left < pipe.rank lag ∨ after.rank left ≤ pipe.rank lag ∧
      ∃ call next, pipe.consumer = .handling call ∧ handler.works call next ∧
        after.consumer = .handling next := by
  cases h with
  | produce hlags hstep =>
    simp only [Pipe.step, Option.bind_eq_bind, Option.bind_eq_some_iff] at hstep
    obtain ⟨⟨link, producer⟩, hstep, hafter⟩ := hstep
    cases hafter
    exact .inl (Nat.add_lt_add_right (Producer.rank_lt_of_step hstep hlags) _)
  | consume hlags hpermits hstep =>
    have hmoves := moves_of_step hstep
    cases hmoves with
    | consume htakes =>
      rcases htakes.rank_lt hlags with hlt | ⟨call, next, hcall, rfl, rfl⟩
      · exact .inl (Nat.add_lt_add_left hlt _)
      · rw [hcall] at hpermits
        exact .inr ⟨by simp [rank, Consumer.Phase.rank, hcall], call, next, hcall, hpermits, rfl⟩

/-- No pipe whose token has fired moves for ever. -/
theorem acc_follows (hreturns : handler.Returns) (pipe : Pipe κ ν μ) (lag : Lag) :
    Acc (fun after before : Pipe κ ν μ × Lag =>
      ∃ move, before.1.Follows start handler before.2 move after.1 after.2) (pipe, lag) := by
  induction hrank : pipe.rank lag using Nat.strongRecOn generalizing pipe lag with
  | ind bound ih =>
    -- Within one rank only the consumer's call goes on, which is finite by itself.
    have hhandling : ∀ call (pipe : Pipe κ ν μ) lag, pipe.rank lag ≤ bound →
        pipe.consumer = .handling call →
          Acc (fun after before : Pipe κ ν μ × Lag =>
            ∃ move, before.1.Follows start handler before.2 move after.1 after.2) (pipe, lag) := by
      intro call
      induction call using hreturns.finite.induction with
      | h call ihcall =>
        intro pipe lag hle hcall
        refine ⟨_, fun ⟨after, left⟩ ⟨move, hfollows⟩ => ?_⟩
        rcases hfollows.rank_lt with hlt | ⟨hle', found, next, hfound, hworks, hnext⟩
        · exact ih _ (Nat.lt_of_lt_of_le hlt hle) after left rfl
        · cases hcall.symm.trans hfound
          exact ihcall next hworks after left (Nat.le_trans hle' hle) hnext
    refine ⟨_, fun ⟨after, left⟩ ⟨move, hfollows⟩ => ?_⟩
    rcases hfollows.rank_lt with hlt | ⟨hle, call, next, -, -, hnext⟩
    · exact ih _ (hrank ▸ hlt) after left rfl
    · exact hhandling next after left (hrank ▸ hle) hnext

variable (start) in
theorem exists_produce {sees : Bool} {step : Producer.Step κ μ}
    (h : (Producer.step (pipe.seen sees) pipe.producer step).isSome) :
    ∃ after, pipe.step start (.produce sees step) = some after := by
  obtain ⟨stepped, hstep⟩ := Option.isSome_iff_exists.mp h
  exact ⟨_, by simp only [Pipe.step, hstep]; rfl⟩

theorem exists_consume {sees : Bool} {step : Consumer.Step ν}
    (h : (Consumer.step start (pipe.seen sees) pipe.consumer step).isSome) :
    ∃ after, pipe.step start (.consume sees step) = some after := by
  obtain ⟨stepped, hstep⟩ := Option.isSome_iff_exists.mp h
  exact ⟨_, by simp only [Pipe.step, hstep]; rfl⟩

/-- Where the token has fired, a move is left until both loops have ended.  A producer that waits
for room in a full channel finds the receiver gone, once the consumer has ended. -/
theorem exists_follows (hreturns : handler.Returns) (inv : pipe.Ordered capacity)
    (hfired : pipe.link.cancelled = true) (lag : Lag)
    (hrunning : ¬pipe.Ended) :
    ∃ move after left, pipe.Follows start handler lag move after left := by
  have hconsume (step : Consumer.Step ν) (hpresumes : step.presumes = false)
      (hpermits : handler.Permits pipe.consumer step)
      (hstep : (Consumer.step start (pipe.seen true) pipe.consumer step).isSome) :
      ∃ move after left, pipe.Follows start handler lag move after left := by
    obtain ⟨after, hafter⟩ := exists_consume hstep
    exact ⟨_, after, _, .consume (by simp [hpresumes]) hpermits (by simpa [hpresumes])⟩
  have hproduce (step : Producer.Step κ μ) (hpresumes : step.presumes = false)
      (hstep : (Producer.step (pipe.seen true) pipe.producer step).isSome) :
      ∃ move after left, pipe.Follows start handler lag move after left := by
    obtain ⟨after, hafter⟩ := exists_produce start hstep
    have hlag : step.presumes = true → lag.producer = true := by simp [hpresumes]
    exact ⟨_, after, _, .produce hlag (by simpa [hpresumes])⟩
  cases hconsumer : pipe.consumer with
  | ready =>
    exact hconsume .stop rfl (by rw [hconsumer]; trivial)
      (by simp [Consumer.step, seen, hconsumer, hfired])
  | handling call =>
    rcases hreturns.alive call with ⟨next, hworks⟩ | ⟨result, hreturn⟩
    · exact hconsume (.work next) rfl (by rw [hconsumer]; exact hworks)
        (by simp [Consumer.step, hconsumer])
    · refine hconsume (.finish result) rfl (by rw [hconsumer]; exact hreturn) ?_
      cases result <;> simp [Consumer.step, hconsumer]
  | ended result =>
    have hgone : pipe.link.channel.receiverGone = true := inv.gone.mpr ⟨result, hconsumer⟩
    cases hproducer : pipe.producer with
    | ready | calling =>
      exact hproduce .stop rfl (by simp [Producer.step, seen, hproducer, hfired])
    | sending message =>
      exact hproduce .send rfl (by simp [Producer.step, seen, hproducer, hgone])
    | ended other => exact absurd ⟨⟨other, hproducer⟩, result, hconsumer⟩ hrunning

/-! ### What happens until then -/

/-- The messages that have entered the channel. -/
def entered (pipe : Pipe κ ν μ) : List μ := pipe.handed ++ pipe.link.channel.queue

/-- What is known of the moves after the token has fired. -/
structure Closing (pipe : Pipe κ ν μ) (lag : Lag) (moves : List (Move κ ν μ)) (later : Pipe κ ν μ)
    (left : Lag) : Prop where
  calls : moves.countP Move.calls + later.producer.calls left.producer ≤
    pipe.producer.calls lag.producer
  takes : moves.countP Move.takes + left.consumer.toNat ≤ lag.consumer.toNat
  enters : ∃ sent, later.entered = pipe.entered ++ sent ∧
    sent.length + later.producer.sends left.producer ≤ pipe.producer.sends lag.producer ∧
    (lag.producer = false →
      left.producer = false ∧ sent ++ later.producer.pending <+: pipe.producer.pending)
  finishes : (∃ call, pipe.consumer = .handling call) →
    (∃ call, later.consumer = .handling call) ∨
      ∃ sees result, .consume sees (.finish result) ∈ moves

theorem closing_refl (pipe : Pipe κ ν μ) (lag : Lag) : pipe.Closing lag [] pipe lag where
  calls := by simp
  takes := by simp
  enters := ⟨[], by simp, by simp, fun hlag => ⟨hlag, List.prefix_rfl⟩⟩
  finishes := .inl

theorem Closing.produce {before : Pipe κ ν μ} {middle : Lag} {sees : Bool}
    {step : Producer.Step κ μ} {link : Link μ} {producer : Producer.Phase κ μ}
    (h : pipe.Closing lag moves before middle)
    (hlags : step.presumes = true → middle.producer = true)
    (htakes : Producer.Takes (before.seen sees) before.producer step link producer)
    (hafter : after.link.channel = link.channel ∧ after.producer = producer ∧
      after.consumer = before.consumer ∧ after.handed = before.handed) :
    pipe.Closing lag (moves ++ [.produce sees step]) after
      { middle with producer := middle.producer && step.begins } := by
  obtain ⟨hchannel, rfl, hconsumer, hhanded⟩ := hafter
  obtain ⟨sent, hentered, hsends, hlag⟩ := h.enters
  obtain ⟨more, hqueue, hmore, hwaits⟩ := htakes.enters hlags
  refine ⟨?_, ?_, ⟨sent ++ more, ?_, ?_, fun hfresh => ?_⟩, fun hhandling => ?_⟩
  · have hcalls := htakes.calls_le hlags
    have hsingle : [Move.produce sees step].countP (Move.calls : Move κ ν μ → Bool) =
        step.begins.toNat := by
      cases hbegins : step.begins <;> simp [Move.calls, hbegins]
    have hbefore := h.calls
    rw [List.countP_append, hsingle]
    dsimp only
    omega
  · rw [List.countP_append]
    exact h.takes
  · rw [entered, hhanded, hchannel, hqueue, ← List.append_assoc, ← List.append_assoc, ← hentered]
    rfl
  · rw [List.length_append]
    dsimp only
    omega
  · obtain ⟨hnone, hprefix⟩ := hlag hfresh
    refine ⟨by simp [hnone], ?_⟩
    rw [List.append_assoc]
    exact ((List.prefix_append_right_inj sent).mpr (hwaits hnone)).trans hprefix
  · rcases h.finishes hhandling with hcall | ⟨seen, result, hmem⟩
    · exact .inl (hconsumer ▸ hcall)
    · exact .inr ⟨seen, result, List.mem_append_left _ hmem⟩

theorem Closing.consume {before : Pipe κ ν μ} {middle : Lag} {sees : Bool}
    {step : Consumer.Step ν} {link : Link μ} {consumer : Consumer.Phase ν}
    (h : pipe.Closing lag moves before middle)
    (hlags : step.presumes = true → middle.consumer = true)
    (htakes : Consumer.Takes start (before.seen sees) before.consumer step link consumer)
    (hafter : after.link.channel = link.channel ∧ after.producer = before.producer ∧
      after.consumer = consumer ∧
        after.handed = before.handed ++ step.handed before.link.channel) :
    pipe.Closing lag (moves ++ [.consume sees step]) after { middle with consumer := false } := by
  obtain ⟨hchannel, hproducer, rfl, hhanded⟩ := hafter
  obtain ⟨sent, hentered, hsends, hlag⟩ := h.enters
  have hqueued : step.handed before.link.channel ++ link.channel.queue =
    before.link.channel.queue := htakes.queued
  refine ⟨?_, ?_, ⟨sent, ?_, ?_, ?_⟩, fun hhandling => ?_⟩
  · rw [List.countP_append, hproducer]
    exact h.calls
  · have hsingle : [Move.consume sees step].countP (Move.takes : Move κ ν μ → Bool) =
        step.presumes.toNat := by
      cases step <;> rfl
    have hbefore := h.takes
    have hspent : step.presumes.toNat ≤ middle.consumer.toNat := by
      cases hpresumes : step.presumes with
      | false => exact Nat.zero_le _
      | true => exact Nat.le_of_eq (congrArg Bool.toNat (hlags hpresumes)).symm
    rw [List.countP_append, hsingle]
    show _ + 0 ≤ _
    omega
  · rw [← hentered, entered, entered, hhanded, hchannel, List.append_assoc, hqueued]
  · rwa [hproducer]
  · rwa [hproducer]
  · rcases h.finishes hhandling with hcall | ⟨seen, result, hmem⟩
    · rcases htakes.handling_or_finish hcall with hcall | ⟨result, rfl⟩
      · exact .inl hcall
      · exact .inr ⟨sees, result, List.mem_append_right _ List.mem_cons_self⟩
    · exact .inr ⟨seen, result, List.mem_append_left _ hmem⟩

theorem Closing.follows {before : Pipe κ ν μ} {middle : Lag}
    (h : pipe.Closing lag moves before middle)
    (hfollows : before.Follows start handler middle move after left) :
    pipe.Closing lag (moves ++ [move]) after left := by
  cases hfollows with
  | produce hlags hstep =>
    cases moves_of_step hstep with
    | produce htakes => exact h.produce hlags htakes ⟨rfl, rfl, rfl, rfl⟩
  | consume hlags _ hstep =>
    cases moves_of_step hstep with
    | consume htakes => exact h.consume hlags htakes ⟨rfl, rfl, rfl, rfl⟩

theorem Closes.closing (h : pipe.Closes start handler lag moves later left) :
    pipe.Closing lag moves later left := by
  induction h with
  | refl => exact closing_refl pipe lag
  | step _ hfollows ih => exact ih.follows hfollows

/-- What holds of a pipe whose token has fired goes on to hold. -/
theorem Closes.keeps (h : pipe.Closes start handler lag moves later left)
    (inv : pipe.Ordered capacity) (hfired : pipe.link.cancelled = true) :
    later.Ordered capacity ∧ later.link.cancelled = true := by
  induction h with
  | refl => exact ⟨inv, hfired⟩
  | step _ hfollows ih =>
    have hmoves := moves_of_step hfollows.step
    exact ⟨ih.1.move hmoves, cancelled_of_moves hmoves ih.2⟩

/-- Where every call of the consumer returns, whatever the calls of the producer do, and in
whichever order the loops move: a loop ends with a failure just if a call of its own has failed with
it, and then the token has fired.  Once it has, there is no endless way on, and every way ends only
where both loops have ended.  On it the producer begins no call and the consumer none but the one it
is in, which it finishes, unless they looked at the token before it fired; and at most one more
message enters the channel, which is the one being sent. -/
theorem shuts_down (hreturns : handler.Returns) (h : (opened capacity).Runs start moves pipe) :
    (∀ failure, (pipe.producer = .ended (.error failure) ↔
        ∃ sees, .produce sees (.finish (.error failure)) ∈ moves) ∧
      (pipe.consumer = .ended (.error failure) ↔
        ∃ sees, .consume sees (.finish (.error failure)) ∈ moves) ∧
      (pipe.producer = .ended (.error failure) ∨ pipe.consumer = .ended (.error failure) →
        pipe.link.cancelled = true)) ∧
    (pipe.link.cancelled = true → ∀ lag,
      Acc (fun after before : Pipe κ ν μ × Lag =>
        ∃ move, before.1.Follows start handler before.2 move after.1 after.2) (pipe, lag) ∧
      ∀ rest later left, pipe.Closes start handler lag rest later left →
        ((¬∃ move after last, later.Follows start handler left move after last) →
          later.Ended ∧ ((∃ call, pipe.consumer = .handling call) →
            ∃ sees result, .consume sees (.finish result) ∈ rest)) ∧
        rest.countP Move.calls ≤ lag.producer.toNat ∧
        rest.countP Move.takes ≤ lag.consumer.toNat ∧
        ∃ sent, later.entered = pipe.entered ++ sent ∧ sent.length ≤ 1 ∧
          (lag.producer = false → sent <+: pipe.producer.pending)) := by
  have inv := ordered_of_becomes h.becomes
  refine ⟨fun failure => ⟨h.producer_failed_iff failure, h.consumer_failed_iff failure,
    h.cancelled_of_failed⟩, fun hfired lag => ⟨acc_follows hreturns pipe lag, ?_⟩⟩
  intro rest later left hcloses
  obtain ⟨hinv, hlater⟩ := hcloses.keeps inv hfired
  have hclosing := hcloses.closing
  obtain ⟨sent, hentered, hsends, hlag⟩ := hclosing.enters
  refine ⟨fun hstuck => ?_, ?_, ?_, sent, hentered, ?_, fun hfresh => ?_⟩
  · have hended : later.Ended := Classical.not_not.mp fun hrunning =>
      hstuck (exists_follows hreturns hinv hlater left hrunning)
    refine ⟨hended, fun hhandling => ?_⟩
    obtain ⟨-, result, hconsumer⟩ := hended
    rcases hclosing.finishes hhandling with ⟨call, hcall⟩ | hfinished
    · rw [hconsumer] at hcall
      cases hcall
    · exact hfinished
  · have := hclosing.calls
    have := Producer.Phase.calls_le lag.producer pipe.producer
    omega
  · have := hclosing.takes
    omega
  · have := Producer.Phase.sends_le lag.producer pipe.producer
    omega
  · exact (List.prefix_append _ _).trans (hlag hfresh).2

/-- A call that counts down from its message, and returns at zero. -/
def countdown : Handler Nat where
  works call next := call = next + 1
  returns call _ := call = 0

theorem countdown_returns : countdown.Returns where
  finite := Subrelation.wf (fun h => h ▸ Nat.lt_succ_self _) Nat.lt_wfRel.wf
  alive
    | 0 => .inr ⟨.ok (), rfl⟩
    | call + 1 => .inl ⟨call, rfl⟩

/-- The token fires while a message is handled, the channel is full, and a producer waits for
room. -/
theorem shuts_down_full : ∃ (moves : List (Move Unit Nat Nat)) (full : Pipe Unit Nat Nat),
    (opened 1).Runs id moves full ∧ full.link.cancelled = true ∧ full.producer = .sending 3 ∧
      full.link.channel.hasRoom = false ∧ full.consumer = .handling 1 ∧
      Acc (fun after before : Pipe Unit Nat Nat × Lag =>
        ∃ move, before.1.Follows id countdown before.2 move after.1 after.2) (full, {}) ∧
      ∀ rest later left, full.Closes id countdown {} rest later left →
        (¬∃ move after last, later.Follows id countdown left move after last) →
          later.Ended ∧ rest.countP Move.takes = 0 := by
  have hfirst := (((.refl : (opened 1 : Pipe Unit Nat Nat).Runs id [] _).step
    (.produce true (.call ())) rfl).step (.produce true (.finish (.ok 1))) rfl).step
    (.produce true .send) rfl
  have hsecond := (((hfirst.step (.consume true .take) rfl).step
    (.produce true (.call ())) rfl).step (.produce true (.finish (.ok 2))) rfl).step
    (.produce true .send) rfl
  have hthird := ((hsecond.step (.produce true (.call ())) rfl).step
    (.produce true (.finish (.ok 3))) rfl).step .cancel rfl
  obtain ⟨hacc, hcloses⟩ := (shuts_down countdown_returns hthird).2 rfl {}
  refine ⟨_, _, hthird, rfl, rfl, rfl, rfl, hacc, fun rest later left hrest hstuck => ?_⟩
  obtain ⟨hended, -, htakes, -⟩ := hcloses rest later left hrest
  exact ⟨(hended hstuck).1, Nat.le_zero.mp htakes⟩

end Pipe

end EventIndexer
