import EventIndexer.Proofs.Halting
import EventIndexer.Proofs.Moves

/-! How the consumer of a watcher stops.  Its messages are works, done one after another, and the
first that fails is the last that is begun: what is stored then is what the works before it stored,
and of the work itself at most the watcher's checkpoint. -/

namespace EventIndexer

open WatcherTasks (Shared)

/-- A consumer, the token of its group, and the database that it works on. -/
structure Desk where
  shared : Shared
  fired : Bool := false
  tasks : WatcherTasks

namespace Desk

def step (desk : Desk) (move : ConsumerMove) : Option Desk :=
  (desk.tasks.consume desk.shared desk.fired move).map fun (shared, fired, tasks) =>
    { shared, fired, tasks }

/-- What a consumer comes to, move by move. -/
inductive Becomes (desk : Desk) : Desk → Prop
  | refl : Becomes desk desk
  | step {before after : Desk} : Becomes desk before → ∀ move,
    before.step move = some after → Becomes desk after

/-- Whether a consumer begins on some messages. -/
structure Opened (watcher : Watcher) (messages : List Message) (desk : Desk) : Prop where
  watcher : desk.tasks.watcher = watcher
  consumer : desk.tasks.consumer = .ready
  queue : desk.tasks.channel.queue = messages
  unlocked : desk.shared.locked = false
  unfired : desk.fired = false

/-- Whether the request that a consumer is at fails, by itself or by a fault. -/
def Fails (desk : Desk) (fault : Option Failure) (failure : Failure) : Prop :=
  ∃ request next later, desk.tasks.consumer = .handling (.ask request next) ∧
    desk.shared.answer fault request = some (.error failure, later)

/-- How a consumer stands to which nothing has failed yet. -/
def Doing (watcher : Watcher) (database : Database) (works : List Work) (desk : Desk) : Prop :=
  desk.tasks.watcher = watcher ∧ desk.fired = false ∧ ∃ done,
    works = done ++ desk.tasks.channel.queue.flatten ∧
    match desk.tasks.consumer with
    | .ready => desk.shared.locked = false ∧ Settled watcher database done desk.shared.database
    | .handling routine => routine.Halts true
        (Stops watcher database works desk.tasks.channel.queue.flatten)
        (fun _ later => later.locked = false ∧ Settled watcher database done later.database)
        desk.shared
    | .ended result => result = .ok ()

/-- How one stands that met a failure: it only has to leave, and to say so. -/
def Stopped (failure : Failure) (database : Database) (desk : Desk) : Prop :=
  desk.shared.database = database ∧
    match desk.tasks.consumer with
    | .ready => False
    | .handling routine => routine = leave desk.shared.locked failure
    | .ended result => result = .error failure ∧ desk.fired = true ∧ desk.shared.locked = false

variable {desk before after : Desk} {watcher : Watcher} {messages : List Message}
  {works : List Work} {database : Database} {failure : Failure} {move : ConsumerMove}

theorem consumes_of_step (h : desk.step move = some after) :
    desk.tasks.Consumes desk.shared desk.fired move after.shared after.fired after.tasks := by
  unfold step at h
  rw [Option.map_eq_some_iff] at h
  obtain ⟨⟨shared, fired, tasks⟩, hconsume, rfl⟩ := h
  exact WatcherTasks.consumes_of_consume hconsume

theorem Opened.doing (h : desk.Opened watcher messages) :
    desk.Doing watcher desk.shared.database messages.flatten := by
  refine ⟨h.watcher, h.unfired, [], by rw [h.queue]; rfl, ?_⟩
  rw [h.consumer]
  exact ⟨h.unlocked, .nil watcher _⟩

/-- A request that fails does so where the works may stop, and stops them. -/
theorem Doing.stops (h : desk.Doing watcher database works) {fault : Option Failure}
    (hfails : desk.Fails fault failure) (hstep : desk.step (.perform fault) = some after) :
    (∃ rest, desk.tasks.consumer = .handling rest ∧
      Stops watcher database works desk.tasks.channel.queue.flatten rest desk.shared) ∧
    after.Stopped failure desk.shared.database := by
  obtain ⟨-, -, done, -, hphase⟩ := h
  obtain ⟨request, next, later, hhandling, hanswer⟩ := hfails
  rw [hhandling] at hphase
  obtain ⟨hstops, hleave⟩ := hphase.1 fault failure later hanswer
  obtain ⟨shared, fired, tasks⟩ := after
  have hconsumes := consumes_of_step hstep
  dsimp only at hconsumes
  refine ⟨⟨_, hhandling, hstops⟩, ?_⟩
  cases hconsumes with
  | perform hsame hagain =>
    rw [hhandling] at hsame
    cases hsame
    rw [hanswer] at hagain
    cases hagain
    obtain rfl := Shared.eq_of_answer_error hanswer
    exact ⟨rfl, hleave⟩

/-- A move goes on with the works, or stops them. -/
theorem Doing.step (h : desk.Doing watcher database works)
    (happart : ∀ watermark ∈ watcher.watermark, watermark.shared ≠ watcher.key)
    (hstep : desk.step move = some after) :
    after.Doing watcher database works ∨
      ∃ failure, after.Stopped failure desk.shared.database := by
  have hdoing := h
  obtain ⟨hwatcher, hunfired, done, hworks, hphase⟩ := h
  have hconsumes := consumes_of_step hstep
  obtain ⟨shared, fired, tasks⟩ := after
  dsimp only at hconsumes
  cases hconsumes with
  | @take message rest hready hqueue =>
    rw [hready] at hphase
    rw [hqueue] at hworks
    have hhalts := halts_deliver happart hworks hphase.1 hphase.2
    refine .inl ⟨hwatcher, hunfired, done ++ message, by simp [hworks], ?_⟩
    rw [hwatcher]
    exact hhalts
  | @perform fault request next reply later hhandling hanswer =>
    rw [hhandling] at hphase
    cases reply with
    | ok value => exact .inl ⟨hwatcher, hunfired, done, hworks, hphase.2 fault value _ hanswer⟩
    | error failure =>
      have hfails : desk.Fails fault failure := ⟨request, next, _, hhandling, hanswer⟩
      exact .inr ⟨failure, (hdoing.stops hfails hstep).2⟩
  | finish hhandling =>
    rw [hhandling] at hphase
    exact .inl ⟨hwatcher, hunfired, done, hworks, hphase⟩
  | fail hhandling =>
    rw [hhandling] at hphase
    exact absurd hphase id
  | stop _ hfired =>
    rw [hunfired] at hfired
    cases hfired
  | drained hready => exact .inl ⟨hwatcher, hunfired, done, hworks, rfl⟩

/-- How many moves a consumer has left that met a failure. -/
def left (desk : Desk) : Nat :=
  match desk.tasks.consumer with
  | .handling _ => if desk.shared.locked then 2 else 1
  | _ => 0

/-- What has met a failure meets no other, and leaves the database as it is. -/
theorem Stopped.step (h : desk.Stopped failure database) (hstep : desk.step move = some after) :
    after.Stopped failure database ∧ after.left < desk.left := by
  obtain ⟨hdatabase, hphase⟩ := h
  obtain ⟨shared, fired, tasks⟩ := after
  have hconsumes := consumes_of_step hstep
  dsimp only at hconsumes
  unfold left
  cases hconsumes with
  | take hready | stop hready | drained hready =>
    rw [hready] at hphase
    exact absurd hphase id
  | @perform fault request next reply later hhandling hanswer =>
    rw [hhandling] at hphase ⊢
    cases hlocked : desk.shared.locked with
    | false =>
      rw [hlocked] at hphase
      cases hphase
    | true =>
      rw [hlocked] at hphase
      cases hphase
      cases hanswer
      exact ⟨⟨hdatabase, rfl⟩, Nat.lt_succ_self 1⟩
  | finish hhandling =>
    rw [hhandling] at hphase
    cases hlocked : desk.shared.locked <;> rw [hlocked] at hphase <;> cases hphase
  | fail hhandling =>
    rw [hhandling] at hphase ⊢
    cases hlocked : desk.shared.locked with
    | false =>
      rw [hlocked] at hphase
      cases hphase
      exact ⟨⟨hdatabase, rfl, rfl, hlocked⟩, Nat.zero_lt_one⟩
    | true =>
      rw [hlocked] at hphase
      cases hphase

theorem Stopped.not_fails (h : desk.Stopped failure database) (fault : Option Failure)
    (other : Failure) : ¬desk.Fails fault other := by
  rintro ⟨request, next, later, hhandling, hanswer⟩
  have hphase := h.2
  rw [hhandling] at hphase
  cases hlocked : desk.shared.locked with
  | false =>
    rw [hlocked] at hphase
    cases hphase
  | true =>
    rw [hlocked] at hphase
    cases hphase
    cases hanswer

theorem Stopped.becomes (h : desk.Stopped failure database) (hbecomes : desk.Becomes after) :
    after.Stopped failure database := by
  induction hbecomes with
  | refl => exact h
  | step _ _ hstep ih => exact (ih.step hstep).1

/-- Whatever a consumer comes to, it is doing its works or has met a failure. -/
theorem doing_or_stopped (hopened : desk.Opened watcher messages)
    (happart : ∀ watermark ∈ watcher.watermark, watermark.shared ≠ watcher.key)
    (hbecomes : desk.Becomes after) :
    after.Doing watcher desk.shared.database messages.flatten ∨
      ∃ failure database, after.Stopped failure database := by
  induction hbecomes with
  | refl => exact .inl hopened.doing
  | step _ _ hstep ih =>
    rcases ih with hdoing | ⟨failure, database, hstopped⟩
    · rcases hdoing.step happart hstep with hnext | ⟨failure, hstopped⟩
      · exact .inl hnext
      · exact .inr ⟨failure, _, hstopped⟩
    · exact .inr ⟨failure, database, (hstopped.step hstep).1⟩

theorem step_finish (h : desk.tasks.consumer = .handling (.done (.error failure))) :
    ∃ next, desk.step .finish = some next := by
  simp [step, WatcherTasks.consume, h, Consumer.step]

theorem step_unlock {next : Except Failure Unit → Routine Unit}
    (h : desk.tasks.consumer = .handling (.ask .unlock next)) :
    ∃ after, desk.step (.perform none) = some after := by
  simp [step, WatcherTasks.consume, h, Consumer.step, Shared.answer]

/-- A consumer that met a failure can go on until it has ended with it, fired the token, and let go
of the lock. -/
theorem Stopped.ended_or_step (h : desk.Stopped failure database) :
    (desk.tasks.consumer = .ended (.error failure) ∧ desk.fired = true ∧
      desk.shared.locked = false) ∨ ∃ move next, desk.step move = some next := by
  obtain ⟨-, hphase⟩ := h
  cases hconsumer : desk.tasks.consumer with
  | ready =>
    rw [hconsumer] at hphase
    exact absurd hphase id
  | handling routine =>
    rw [hconsumer] at hphase
    dsimp only at hphase
    subst hphase
    refine .inr ?_
    cases hlocked : desk.shared.locked with
    | false =>
      rw [hlocked] at hconsumer
      exact ⟨.finish, step_finish hconsumer⟩
    | true =>
      rw [hlocked] at hconsumer
      exact ⟨.perform none, step_unlock hconsumer⟩
  | ended result =>
    rw [hconsumer] at hphase
    obtain ⟨rfl, hfired, hfree⟩ := hphase
    exact .inl ⟨rfl, hfired, hfree⟩

theorem Becomes.trans (h : desk.Becomes before) (hmore : before.Becomes after) :
    desk.Becomes after := by
  induction hmore with
  | refl => exact h
  | step _ move hstep ih => exact ih.step move hstep

theorem Stopped.ends (h : desk.Stopped failure database) : ∃ last, desk.Becomes last ∧
    last.tasks.consumer = .ended (.error failure) ∧ last.fired = true ∧
      last.shared.locked = false := by
  -- Each move of what met a failure leaves it one move less.
  induction hleft : desk.left using Nat.strong_induction_on generalizing desk with
  | _ left ih =>
    rcases h.ended_or_step with hended | ⟨move, next, hstep⟩
    · exact ⟨desk, .refl, hended⟩
    · obtain ⟨hnext, hlt⟩ := h.step hstep
      obtain ⟨last, hlast, hended⟩ := ih next.left (hleft ▸ hlt) hnext rfl
      exact ⟨last, (Becomes.refl.step move hstep).trans hlast, hended⟩

/-- A height that does not fit its column is never stored. -/
theorem fails_of_column {key : String} {height : Nat} {next : Except Failure Unit → Routine Unit}
    (hconsumer : desk.tasks.consumer = .handling (.ask (.writeCursor key height) next))
    (hbound : columnBound ≤ height) (fault : Option Failure) :
    ∃ failure, desk.Fails fault failure := by
  cases fault with
  | some failure => exact ⟨failure, _, _, _, hconsumer, rfl⟩
  | none =>
    cases hset : desk.shared.database.setCursor key height with
    | mk result after =>
      cases result with
      | ok _ => exact absurd (Database.setCursor_ok hset).1 (Nat.not_lt.mpr hbound)
      | error failure =>
        refine ⟨failure, _, _, { desk.shared with database := after }, hconsumer, ?_⟩
        simp [Shared.answer, Database.answer, hset]

/-- A consumer, whose own cursor is never the shared one (`Settings.shared_ne_key`), stops exactly
at the first failure.  Whatever messages it is handed, and at whichever work a request of it fails,
what is stored then is what the works before that one left: the events that were there and those of
the works before, and the watcher's cursor at the highest of where it was and the checkpoints
before.  The works that are left of the message and of the messages after it are those that come
after the work.  Only where the watcher's checkpoint was recorded and the shared cursor could not
follow is that checkpoint there as well, and nothing else.  No later work has any effect, nor can a
further request fail; the consumer ends with the failure, its token fired and the lock free.  A
checkpoint at a height that does not fit its column is one that fails. -/
theorem stops_at_first_failure
    (happart : ∀ watermark ∈ watcher.watermark, watermark.shared ≠ watcher.key)
    (hopened : desk.Opened watcher messages) (hbefore : desk.Becomes before)
    {fault : Option Failure} (hfails : before.Fails fault failure)
    (hstep : before.step (.perform fault) = some after) :
    (∃ earlier work more rest settled,
      messages.flatten = earlier ++ work :: (more ++ before.tasks.channel.queue.flatten) ∧
      (work.deliver watcher).Reaches rest ∧
      before.tasks.consumer = .handling (rest >>= fun _ => deliver watcher more) ∧
      (deliver watcher earlier).run (Chain.serve [] 0) desk.shared.database = (.ok (), settled) ∧
      settled.events = keepAll desk.shared.database.events (eventsOf earlier) ∧
      settled.row watcher.key = highest (desk.shared.database.row watcher.key) earlier ∧
      ((before.shared.locked = false ∧ after.shared.database = settled) ∨
        (before.shared.locked = true ∧ (∃ height, work = .checkpoint height) ∧
          after.shared.database.events = settled.events ∧
          after.shared.database.row watcher.key =
            highest (desk.shared.database.row watcher.key) (earlier ++ [work]) ∧
          ∀ key, key ≠ watcher.key → after.shared.database.row key = settled.row key))) ∧
    (∀ last, after.Becomes last → last.shared.database = after.shared.database ∧
      (∀ fault other, ¬last.Fails fault other) ∧
      ((∀ move, last.step move = none) →
        last.tasks.consumer = .ended (.error failure) ∧ last.fired = true)) ∧
    (∃ last, after.Becomes last ∧ last.tasks.consumer = .ended (.error failure) ∧
      last.fired = true ∧ last.shared.locked = false) ∧
    ∀ (now : Desk) key height next fault,
      now.tasks.consumer = .handling (.ask (.writeCursor key height) next) →
        columnBound ≤ height → ∃ failure, now.Fails fault failure := by
  have hdoing : before.Doing watcher desk.shared.database messages.flatten := by
    rcases doing_or_stopped hopened happart hbefore with hdoing | ⟨_, _, hstopped⟩
    · exact hdoing
    · exact absurd hfails (hstopped.not_fails fault failure)
  obtain ⟨⟨_, hhandling, earlier, work, more, rest, settled, hworks, hreaches, rfl, hsettled, hat⟩,
    hstopped⟩ := hdoing.stops hfails hstep
  refine ⟨⟨earlier, work, more, rest, settled, hworks, hreaches, hhandling, hsettled.run,
      hsettled.events, hsettled.row, ?_⟩,
    fun last hlast => ?_, hstopped.ends,
    fun _ _ _ _ fault hconsumer hbound => fails_of_column hconsumer hbound fault⟩
  · rw [hstopped.1]
    rcases hat with hfree | ⟨hlocked, height, rfl, hraises⟩
    · exact .inl hfree
    · refine .inr ⟨hlocked, ⟨height, rfl⟩, hraises.events, ?_, hraises.others⟩
      rw [highest_append, ← hsettled.row, highest_checkpoint]
      exact hraises.row
  · have hlast_stopped := hstopped.becomes hlast
    refine ⟨hlast_stopped.1.trans hstopped.1.symm, hlast_stopped.not_fails, fun hstuck => ?_⟩
    rcases hlast_stopped.ended_or_step with ⟨hended, hfired, -⟩ | ⟨move, next, hmove⟩
    · exact ⟨hended, hfired⟩
    · rw [hstuck move] at hmove
      cases hmove

/-- The watcher of stakes, which shares the main cursor with that of unstakes. -/
def stakeWatcher : Watcher :=
  { kinds := [.stake], key := "block:Stake"
    watermark := some { shared := "block", members := ["block:Stake", "block:Unstake"] } }

def stakeAt (height : Nat) : Event :=
  { position := { height, transaction := "", index := 0 }, details := .stake "" "1" }

def stakeMessages : List Message :=
  [[.element (stakeAt 3), .checkpoint 3, .element (stakeAt 4)], [.checkpoint 9]]

def stakeDesk : Desk :=
  { shared :=
      { database := { cursors := [("block", 1), ("block:Stake", 1), ("block:Unstake", 2)] }
        locked := false }
    tasks :=
      { watcher := stakeWatcher, feed := Feed.after 1, producer := none
        channel := { capacity := 16, queue := stakeMessages } } }

/-- The cursor of unstakes cannot be read when the main cursor is to follow the first checkpoint. -/
theorem stops_at_first_failure_stakes : ∃ before after last,
    stakeDesk.Opened stakeWatcher stakeMessages ∧ stakeDesk.Becomes before ∧
    before.Fails (some Cause.databaseClosed) Cause.databaseClosed ∧
    before.step (.perform (some Cause.databaseClosed)) = some after ∧ after.Becomes last ∧
    last.tasks.consumer = .ended (.error Cause.databaseClosed) ∧ last.fired = true ∧
    last.shared.database.events = [stakeAt 3] ∧
    last.shared.database.cursors = [("block", 1), ("block:Stake", 3), ("block:Unstake", 2)] := by
  have happart : ∀ watermark ∈ stakeWatcher.watermark, watermark.shared ≠ stakeWatcher.key := by
    rintro _ ⟨⟩
    decide
  have hopened : stakeDesk.Opened stakeWatcher stakeMessages := ⟨rfl, rfl, rfl, rfl, rfl⟩
  have hstored := ((.refl : stakeDesk.Becomes _).step .take rfl).step (.perform none) rfl
  have hraised := (hstored.step (.perform none) rfl).step (.perform none) rfl
  have hbefore := (hraised.step (.perform none) rfl).step (.perform none) rfl
  have hstops := fun hfails : Fails _ (some Cause.databaseClosed) Cause.databaseClosed =>
    stops_at_first_failure happart hopened hbefore hfails rfl
  obtain ⟨-, hlater, ⟨last, hlast, hended, hfired, -⟩, -⟩ :=
    hstops ⟨.readCursor "block:Unstake", _, _, rfl, rfl⟩
  have hsame := (hlater last hlast).1
  exact ⟨_, _, last, hopened, hbefore, ⟨.readCursor "block:Unstake", _, _, rfl, rfl⟩, rfl, hlast,
    hended, hfired, congrArg Database.events hsame, congrArg Database.cursors hsame⟩

end Desk

end EventIndexer
