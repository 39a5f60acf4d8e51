import EventIndexer.Proofs.Settling
import EventIndexer.Proofs.Undisturbed

/-! Watchers that nothing disturbs come to rest.  Where the node stays at a head, each call of the
producer hands over a range, which the consumer stores and records, until there is none left below
the head. -/

namespace EventIndexer

variable {chain : Chain} {settings : Settings} {database between after : Database}
  {head cursor : Nat} {node : (request : Request) → request.Reply → Prop}

/-- A node at a head replies as it may wherever its head is that one or a later. -/
theorem Chain.answers_reply (chain : Chain) {top : Nat} (hle : head ≤ top) (request : Request) :
    chain.Answers top request (chain.reply head request) := by
  cases request with
  | head => exact hle
  | chunk filter => exact .refl _
  | _ => trivial

theorem Chain.reply_ok (chain : Chain) (head : Nat) (request : Request) :
    ∃ value, chain.reply head request = .ok value := by
  cases request <;> exact ⟨_, rfl⟩

namespace Engine.Runs

variable {engine middle last : Engine}

theorem trans (h : engine.Runs node middle) (h' : middle.Runs node last) :
    engine.Runs node last := by
  induction h' with
  | refl => exact h
  | step _ step htold hstep ih => exact .step ih step htold hstep

theorem cons (step : Engine.Step) (htold : step.Told node) (hstep : engine.step step = some middle)
    (h : middle.Runs node last) : engine.Runs node last :=
  trans (.step .refl step htold hstep) h

end Engine.Runs

/-- The engine after steps that are taken one after another. -/
theorem Engine.runs_of_foldlM {engine last : Engine} {steps : List Engine.Step}
    (htold : ∀ step ∈ steps, step.Told node) (h : steps.foldlM Engine.step engine = some last) :
    engine.Runs node last :=
  preserved_by_foldlM (engine.Runs node)
    (fun _ _ step hmem hbefore hstep => .step hbefore step (htold step hmem) hstep) .refl h

theorem Engine.told_fetch {i : Nat} {answer : (request : Request) → request.Reply} :
    (∀ step ∈ fetch i answer, step.Told node) ↔ ∀ request, node request (answer request) := by
  simp [fetch, Step.Told, Tracker.Step.Told]

/-! ### Before the tracker -/

/-- Whether a routine asks for nothing but what the database replies to. -/
def Routine.Stores {α : Type} : Routine α → Prop
  | done _ => True
  | ask request next =>
    (∀ database : Database, ∃ answered, database.answer request = some answered) ∧
      ∀ reply, (next reply).Stores

namespace Routine.Stores

variable {α β : Type}

theorem bind {first : Routine β} {next : β → Routine α} (h : first.Stores)
    (hnext : ∀ value, (next value).Stores) : (first >>= next).Stores := by
  induction first with
  | done result =>
    cases result with
    | ok value => exact hnext value
    | error failure => trivial
  | ask request rest ih => exact ⟨h.1, fun reply => ih reply (h.2 reply)⟩

theorem read (key : String) : (Cursor.read key).Stores := ⟨fun _ => ⟨_, rfl⟩, fun _ => trivial⟩

theorem write (key : String) (height : Nat) : (Cursor.write key height).Stores :=
  ⟨fun _ => ⟨_, rfl⟩, fun _ => trivial⟩

theorem checkpoint (key : String) (height : Nat) : (Cursor.checkpoint key height).Stores := by
  refine (read key).bind fun found => ?_
  cases found with
  | none => exact write key height
  | some current =>
    dsimp only
    split
    · trivial
    · exact write key height

theorem seed (handoff : Nat) (watchers : List Watcher) :
    (Tracker.seed handoff watchers).Stores := by
  induction watchers with
  | nil => trivial
  | cons watcher rest ih =>
    have hload : (Cursor.loadOrSeed watcher.key handoff).Stores := by
      refine (read watcher.key).bind fun found => ?_
      cases found with
      | none => exact (write watcher.key handoff).bind fun _ => trivial
      | some height => trivial
    refine hload.bind fun stored => ?_
    have hrest : ∀ height : Nat, (do
        let starts ← Tracker.seed handoff rest
        return (watcher, height) :: starts).Stores := fun height => ih.bind fun _ => trivial
    by_cases hlow : stored < handoff
    · simp only [hlow, if_true]
      exact (checkpoint watcher.key handoff).bind fun _ => hrest _
    · simp only [hlow, if_false]
      exact hrest _

theorem many (events : List Event) (watcher : Watcher) :
    ((Work.many events).deliver watcher).Stores := by
  cases events with
  | nil => trivial
  | cons event rest => exact ⟨fun _ => ⟨_, rfl⟩, fun _ => trivial⟩

end Routine.Stores

namespace Engine

/-- A backfill that nothing disturbs is carried to its end. -/
theorem runs_backfilling {routine : Routine Backfill.Report}
    {result : Except Failure Backfill.Report}
    (hrun : routine.run (chain.serve head) database = (result, after)) :
    Engine.Runs (chain.Answers head) { settings, database, stage := .backfilling routine }
      { settings, database := after, stage := .backfilling (.done result) } := by
  induction routine generalizing database with
  | done found =>
    cases hrun
    exact .refl
  | ask request next ih =>
    rw [Routine.run, Chain.serve] at hrun
    cases hanswer : database.answer request with
    | none =>
      rw [hanswer] at hrun
      have hanswers := chain.answers_reply (Nat.le_refl head)
      refine .cons (.reply (chain.reply head)) hanswers ?_ (ih _ hrun)
      obtain ⟨value, hvalue⟩ := chain.reply_ok head request
      simp [Engine.step, hanswer, hvalue]
    | some answered =>
      rw [hanswer] at hrun
      refine .cons (.perform none) trivial ?_ (ih _ hrun)
      simp [Engine.step, performed, hanswer]

theorem runs_seeding {routine : Routine (List (Watcher × Nat))}
    {result : Except Failure (List (Watcher × Nat))} (hstores : routine.Stores)
    (hrun : routine.run (chain.serve head) database = (result, after)) :
    Engine.Runs node { settings, database, stage := .seeding routine }
      { settings, database := after, stage := .seeding (.done result) } := by
  induction routine generalizing database with
  | done found =>
    cases hrun
    exact .refl
  | ask request next ih =>
    obtain ⟨⟨reply, middle⟩, hanswer⟩ := hstores.1 database
    rw [Routine.run, Chain.serve, hanswer] at hrun
    refine .cons (.perform none) trivial ?_ (ih reply (hstores.2 reply) hrun)
    simp [Engine.step, performed, hanswer]

/-! ### One watcher -/

/-- An engine that tracks with the tasks of one watcher. -/
def tracking (settings : Settings) (database : Database) (tasks : WatcherTasks) : Engine :=
  { settings, database, stage := .tracking { waiting := [], tasks := [tasks] } }

variable {tasks moved : WatcherTasks}

theorem step_produce {move : ProducerMove}
    (h : tasks.produce settings false move = some (false, moved)) :
    (tracking settings database tasks).step (.track (.produce 0 move)) =
      some (tracking settings database moved) := by
  simp [tracking, Engine.step, Tracker.step, h]

theorem step_consume {move : ConsumerMove}
    (h : tasks.consume { database, locked := false } false move =
      some ({ database := after, locked := false }, false, moved)) :
    (tracking settings database tasks).step (.track (.consume 0 move)) =
      some (tracking settings after moved) := by
  simp [tracking, Engine.step, Tracker.step, h]

/-- A call of the producer that nothing disturbs is carried to its end. -/
theorem runs_calling {routine : Routine (Message × Feed)} {result : Except Failure (Message × Feed)}
    (hproducer : tasks.producer = some (.calling routine))
    (hrun : routine.run (fun request (_ : Unit) => (chain.reply head request, ())) () =
      (result, ())) :
    (tracking settings database tasks).Runs (chain.Answers head)
      (tracking settings database { tasks with producer := some (.calling (.done result)) }) := by
  induction routine generalizing tasks with
  | done found =>
    cases hrun
    rw [← hproducer]
    exact .refl
  | ask request next ih =>
    have hreply : tasks.produce settings false (.reply (chain.reply head)) = some (false,
        { tasks with producer := some (.calling (next (chain.reply head request))) }) := by
      obtain ⟨value, hvalue⟩ := chain.reply_ok head request
      simp [WatcherTasks.produce, hproducer, hvalue, Producer.step, WatcherTasks.withLink]
    have hanswers := chain.answers_reply (Nat.le_refl head)
    exact .cons (.track (.produce 0 (.reply (chain.reply head)))) hanswers (step_produce hreply)
      (ih _ rfl hrun)

/-- A call of the consumer that nothing disturbs is carried to its end. -/
theorem runs_handling {routine : Routine Unit} {result : Except Failure Unit}
    (hconsumer : tasks.consumer = .handling routine) (hstores : routine.Stores)
    (hrun : routine.run (chain.serve head) database = (result, after)) :
    (tracking settings database tasks).Runs node
      (tracking settings after { tasks with consumer := .handling (.done result) }) := by
  induction routine generalizing tasks database with
  | done found =>
    cases hrun
    rw [← hconsumer]
    exact .refl
  | ask request next ih =>
    obtain ⟨⟨reply, middle⟩, hanswer⟩ := hstores.1 database
    rw [Routine.run, Chain.serve, hanswer] at hrun
    have hshared : WatcherTasks.Shared.answer { database, locked := false } none request =
        some (reply, { database := middle, locked := false }) := by
      cases request with
      | lock | unlock => cases hanswer
      | _ => simp [WatcherTasks.Shared.answer, hanswer]
    have hperform : tasks.consume { database, locked := false } false (.perform none) =
        some ({ database := middle, locked := false }, false,
          { tasks with consumer := .handling (next reply) }) := by
      simp [WatcherTasks.consume, hconsumer, hshared, Consumer.step, WatcherTasks.withLink]
    exact .cons (.track (.consume 0 (.perform none))) trivial (step_consume hperform)
      (ih _ rfl (hstores.2 reply) hrun)

end Engine

/-- Below the head there is a range right above a cursor. -/
theorem Feed.exists_range {width : Nat} (hwidth : 0 < width) (hhead : head ≤ maxHeight)
    (hlt : cursor < head) : ∃ last, cursor < last ∧ last ≤ head ∧
      (Feed.after cursor).progress.nextRange head width = some (cursor + 1, last) := by
  have hnext : (Feed.after cursor).progress.next = cursor + 1 := Nat.min_eq_left (by omega)
  unfold Progress.nextRange
  rw [hnext]
  cases hrange : batchRange (cursor + 1) head width with
  | none =>
    have hnone := batchRange_eq_none.mp hrange
    omega
  | some range =>
    obtain ⟨first, last⟩ := range
    obtain ⟨rfl, hfirst, hlast⟩ := batchRange_some (by omega) hrange
    exact ⟨last, hfirst, hlast, rfl⟩

/-- A call that nothing disturbs hands over the next range. -/
theorem Feed.run_next (chain : Chain) (kinds : List Kind) (hmode : settings.liveMode = .poll)
    {feed : Feed} {first last : Nat}
    (hrange : feed.progress.nextRange head settings.maxRangeWidth = some (first, last)) :
    ∃ events, (feed.next settings kinds).run
        (fun request (_ : Unit) => (chain.reply head request, ())) () =
      (.ok ([.many events, .checkpoint last],
        { feed with progress := { next := last + 1, checkpoint := last } }), ()) := by
  refine ⟨(decodeAll (chain.wanted { address := settings.address, kinds, first, last })).1, ?_⟩
  simp [Feed.next, hmode, Feed.poll, Feed.catchUp, Routine.request, Routine.run, Chain.reply,
    hrange, Progress.onChunk, pure]

/-- The range right above a watcher's cursor is stored and recorded. -/
theorem Chain.Completes.range {watcher : Watcher} {last : Nat} (h : database.Willing)
    (hnone : watcher.watermark = none) (hrow : database.row watcher.key = some (cursor : Int))
    (hlt : cursor < last) (hbound : last < columnBound) (events : List Event) :
    chain.Completes head (deliver watcher [.many events, .checkpoint last]) database
      fun _ after => after.Willing ∧ after.row watcher.key = some (last : Int) := by
  have hshare : watcher.share = Routine.done (.ok ()) := by
    rw [Watcher.share, hnone]
    rfl
  have hmany : chain.Completes head ((Work.many events).deliver watcher) database fun _ after =>
      after.Willing ∧ after.row watcher.key = some (cursor : Int) := by
    cases events with
    | nil => exact .pure ⟨h, hrow⟩
    | cons event rest =>
      refine (store h (event :: rest)).mono fun _ after hstored => ?_
      obtain ⟨⟨rows, happend⟩, hwilling⟩ := hstored
      exact ⟨hwilling, (Database.row_of_append happend watcher.key).trans hrow⟩
  rw [deliver_range, hshare]
  refine (hmany.bind fun _ _ hstored => ?_).bind fun _ after hends => .pure hends
  refine (checkpoint hstored.1 hstored.2 hlt hbound).mono fun _ after hset => ?_
  exact ⟨hset.2, (Database.setCursor_ok hset.1).2.2.1⟩

theorem Tracker.firstTasks_of_poll (hmode : settings.liveMode = .poll) (watcher : Watcher)
    (cursor : Nat) : firstTasks settings watcher cursor =
      { watcher, feed := Feed.after cursor, channel := { capacity := 16 },
        producer := some .ready } := by
  simp [firstTasks, hmode, channelSize]

/-- A watcher that begins at the head or past it has nothing to do. -/
theorem Tracker.quiet_firstTasks {watcher : Watcher} (hmode : settings.liveMode = .poll)
    (hle : head ≤ cursor) (hbound : cursor < columnBound) :
    (firstTasks settings watcher cursor).Quiet settings head := by
  have hcolumn : columnBound ≤ maxHeight := by decide
  rw [firstTasks_of_poll hmode]
  refine ⟨rfl, rfl, rfl, batchRange_eq_none.mpr (.inr ?_)⟩
  show head < min (cursor + 1) maxHeight
  omega

namespace Engine

/-- One range goes from the node through the channel into the database. -/
theorem runs_range (chain : Chain) {watcher : Watcher} (hmode : settings.liveMode = .poll)
    (hnone : watcher.watermark = none) (hwidth : 0 < settings.maxRangeWidth)
    (hbound : head < columnBound) (h : database.Willing)
    (hrow : database.row watcher.key = some (cursor : Int)) (hlt : cursor < head) :
    ∃ last after, cursor < last ∧ last ≤ head ∧ after.Willing ∧
      after.row watcher.key = some (last : Int) ∧
      (tracking settings database (Tracker.firstTasks settings watcher cursor)).Runs
        (chain.Answers head)
        (tracking settings after (Tracker.firstTasks settings watcher last)) := by
  have hcolumn : columnBound ≤ maxHeight := by decide
  obtain ⟨last, hfirst, hlast, hrange⟩ := Feed.exists_range hwidth (by omega) hlt
  obtain ⟨events, hcalled⟩ := Feed.run_next chain watcher.kinds hmode hrange
  obtain ⟨_, after, hhandled, hwilling, hset⟩ : chain.Completes head
      (deliver watcher [.many events, .checkpoint last]) database fun _ after =>
        after.Willing ∧ after.row watcher.key = some (last : Int) :=
    .range h hnone hrow hfirst (by omega) events
  refine ⟨last, after, hfirst, hlast, hwilling, hset, ?_⟩
  have hstores : (deliver watcher [.many events, .checkpoint last]).Stores := by
    rw [deliver_range, Watcher.share, hnone]
    have hmany := Routine.Stores.many events watcher
    exact (hmany.bind fun _ => .checkpoint _ _).bind fun _ => trivial
  have hfeed : Feed.after last = { progress := { next := last + 1, checkpoint := last } } := by
    unfold Feed.after Progress.after
    rw [Nat.min_eq_left (by omega)]
  rw [Tracker.firstTasks_of_poll hmode, Tracker.firstTasks_of_poll hmode, hfeed]
  refine .cons (.track (.produce 0 .call)) trivial (step_produce rfl) ?_
  refine (runs_calling rfl hcalled).trans ?_
  refine .cons (.track (.produce 0 .finish)) trivial (step_produce rfl) ?_
  refine .cons (.track (.produce 0 .send)) trivial (step_produce rfl) ?_
  refine .cons (.track (.consume 0 .take)) trivial (step_consume rfl) ?_
  refine (runs_handling rfl hstores hhandled).trans ?_
  exact .cons (.track (.consume 0 .finish)) trivial (step_consume rfl) .refl

/-- Range by range, a watcher comes to rest. -/
theorem runs_tracking (chain : Chain) {watcher : Watcher} (hmode : settings.liveMode = .poll)
    (hwatchers : settings.watchers = [watcher]) (hnone : watcher.watermark = none)
    (hwidth : 0 < settings.maxRangeWidth) (hbound : max cursor head < columnBound)
    (h : database.Willing) (hrow : database.row watcher.key = some (cursor : Int)) :
    ∃ after, (tracking settings database (Tracker.firstTasks settings watcher cursor)).Runs
      (chain.Answers head) after ∧ after.Quiet head := by
  -- Each range raises the cursor by one at least, and none goes past the head.
  induction hleft : head - cursor using Nat.strongRecOn generalizing database cursor with
  | ind left ih =>
    by_cases hlt : cursor < head
    · obtain ⟨last, between, hfirst, hlast, hwilling, hset, hruns⟩ :=
        runs_range chain hmode hnone hwidth (by omega) h hrow hlt
      obtain ⟨after, hrest, hquiet⟩ := ih (head - last) (by omega) (by omega) hwilling hset rfl
      exact ⟨after, hruns.trans hrest, hquiet⟩
    · refine ⟨_, .refl, _, rfl, hwatchers.symm, fun tasks hmem => ?_⟩
      rw [List.mem_singleton.mp hmem]
      exact Tracker.quiet_firstTasks hmode (by omega) (by omega)

/-- An engine with a single watcher comes to rest once its backfill has ended. -/
theorem runs_startTracker (chain : Chain) (head : Nat) (hmode : settings.liveMode = .poll)
    (hsingle : settings.watcherPerEvent = false) (hwidth : 0 < settings.maxRangeWidth)
    (hbound : max cursor head < columnBound) (h : database.Willing)
    (hrow : database.row settings.cursorKey = some (cursor : Int)) :
    ∃ after, (startTracker settings cursor database).Runs (chain.Answers head) after ∧
      after.Quiet head := by
  let watcher : Watcher :=
    { kinds := settings.events, key := settings.cursorKey, watermark := none }
  have hwatchers : settings.watchers = [watcher] := by
    rw [Settings.watchers, hsingle]
    rfl
  have hread : database.cursor settings.cursorKey = .ok (some cursor) := by
    exact h.cursor hrow
  have hseeded : (Tracker.seed cursor settings.watchers).run (chain.serve head) database =
      (.ok [(watcher, cursor)], database) := by
    simp [hwatchers, watcher, Tracker.seed, Cursor.loadOrSeed, Cursor.read, Routine.request,
      Routine.run, Chain.serve, Database.answer, hread, pure]
  obtain ⟨after, hruns, hquiet⟩ :=
    runs_tracking chain hmode hwatchers rfl hwidth hbound h hrow
  refine ⟨after, (runs_seeding (.seed _ _) hseeded).trans ?_, hquiet⟩
  refine .cons .advance trivial rfl ?_
  exact .cons (.track .spawn) trivial rfl hruns

end Engine

/-! ### All watchers -/

/-- Whether the cursors of some watchers are not past a height. -/
def Database.Below (database : Database) (watchers : List Watcher) (handoff : Nat) : Prop :=
  ∀ watcher ∈ watchers, ∀ stored, database.row watcher.key = some stored →
    ∃ height : Nat, stored = height ∧ height ≤ handoff

theorem Database.Below.setCursor {watchers : List Watcher} {handoff : Nat} {key : String}
    (h : database.Below watchers handoff)
    (hset : database.setCursor key handoff = (.ok (), after)) : after.Below watchers handoff := by
  obtain ⟨-, -, hrow, hother⟩ := Database.setCursor_ok hset
  intro watcher hwatcher stored hstored
  by_cases hkey : watcher.key = key
  · rw [hkey, hrow] at hstored
    exact ⟨handoff, (Option.some.inj hstored).symm, Nat.le_refl _⟩
  · rw [hother _ hkey] at hstored
    exact h watcher hwatcher stored hstored

/-- Cursors that are not past a height are all brought up to it. -/
theorem Chain.Completes.seed {handoff : Nat} (hbound : handoff < columnBound)
    (watchers : List Watcher) (h : database.Willing) (hbelow : database.Below watchers handoff) :
    chain.Completes head (Tracker.seed handoff watchers) database fun starts after =>
      starts = watchers.map (·, handoff) ∧ after.Willing := by
  induction watchers generalizing database with
  | nil => exact .pure ⟨rfl, h⟩
  | cons watcher rest ih =>
    have hrest : ∀ (stored : Nat) (now : Database), max stored handoff = handoff → now.Willing →
        now.Below (watcher :: rest) handoff → chain.Completes head (do
          let starts ← Tracker.seed handoff rest
          return (watcher, max stored handoff) :: starts) now fun starts after =>
            starts = (watcher :: rest).map (·, handoff) ∧ after.Willing := by
      intro stored now hmax hwilling hnow
      have hothers := ih hwilling fun other hmem => hnow other (List.mem_cons_of_mem _ hmem)
      refine hothers.bind fun starts after hends => .pure ⟨?_, hends.2⟩
      rw [hmax, hends.1]
      rfl
    unfold Tracker.seed
    cases hrow : database.row watcher.key with
    | none =>
      have hload : chain.Completes head (Cursor.loadOrSeed watcher.key handoff) database
          fun stored after => stored = handoff ∧ after.Willing ∧
            after.Below (watcher :: rest) handoff := by
        refine (read h none hrow).bind fun found between hread => ?_
        obtain ⟨rfl, rfl⟩ := hread
        refine (write h hbound).bind fun _ after hset => .pure ⟨rfl, hset.2, ?_⟩
        exact hbelow.setCursor hset.1
      refine hload.bind fun stored now hloaded => ?_
      obtain ⟨rfl, hwilling, hnow⟩ := hloaded
      simp only [Nat.lt_irrefl, if_false]
      exact hrest stored now (Nat.max_self _) hwilling hnow
    | some found =>
      obtain ⟨stored, rfl, hle⟩ := hbelow watcher List.mem_cons_self found hrow
      have hload : chain.Completes head (Cursor.loadOrSeed watcher.key handoff) database
          fun value after => value = stored ∧ after = database := by
        refine (read h (some stored) hrow).bind fun found between hread => ?_
        obtain ⟨rfl, rfl⟩ := hread
        exact .pure ⟨rfl, rfl⟩
      refine hload.bind fun value now hloaded => ?_
      obtain ⟨rfl, rfl⟩ := hloaded
      by_cases hlow : value < handoff
      · simp only [hlow, if_true]
        refine (checkpoint h hrow hlow hbound).bind fun _ after hset => ?_
        exact hrest value after (Nat.max_eq_right hle) hset.2 (hbelow.setCursor hset.1)
      · simp only [hlow, if_false]
        exact hrest value now (Nat.max_eq_right hle) h hbelow

variable {scope : Scope} {base : List Event} {top : Nat}

/-- A backfill that nothing disturbs brings the main cursor to the head, unless it began past it. -/
theorem Scope.completes_filling (hfollows : scope.Follows settings)
    (hbound : max scope.seed top < columnBound) (hle : head ≤ top) (hwilling : database.Willing)
    (hfilling : scope.Filling settings base top database)
    (hstored : database.row settings.cursorKey = some (scope.seed : Int) ∨
      database.row settings.cursorKey = none ∧ settings.cursorSeed = scope.seed) :
    scope.chain.Completes head (Backfill.run settings) database fun report after =>
      scope.Filling settings base top after ∧ after.Willing ∧
        report.cursor = max scope.seed head ∧
          after.row settings.cursorKey = some (report.cursor : Int) := by
  have hcompletes := Chain.Completes.backfill (fillable_of_follows hfollows hbound) hfollows.valid
    hle (fun _ => .refl _) (by omega) hwilling hfilling
    (hstored.imp_right fun hseed => ⟨hseed.1, hseed.2, by omega⟩)
  refine hcompletes.mono fun report after hends => ?_
  obtain ⟨hfilled, hafter, hrow, hcursor, -⟩ := hends
  exact ⟨hfilled, hafter, hcursor, hcursor ▸ hrow⟩

namespace Engine

theorem runs_spawning (database : Database) (cursor : Nat) (hmode : settings.liveMode = .poll)
    (watchers : List Watcher) (tasks : List WatcherTasks)
    (hopened : ∀ started ∈ tasks, started.producer ≠ none) :
    Engine.Runs node
      { settings, database
        stage := .tracking { waiting := watchers.map (·, cursor), tasks } }
      { settings, database
        stage := .tracking
          { waiting := []
            tasks := tasks ++ watchers.map (Tracker.firstTasks settings · cursor) } } := by
  induction watchers generalizing tasks with
  | nil =>
    rw [List.map_nil, List.map_nil, List.append_nil]
    exact .refl
  | cons watcher rest ih =>
    have hnext := ih (tasks ++ [Tracker.firstTasks settings watcher cursor]) fun started hmem => ?_
    · rw [List.append_assoc] at hnext
      refine .cons (.track .spawn) trivial ?_ hnext
      have hopening : tasks.any (·.producer.isNone) = false := by
        simpa [Option.isNone_eq_false_iff, Option.isSome_iff_ne_none] using hopened
      simp [Engine.step, Tracker.step, Tracker.opening, hopening]
    · rcases List.mem_append.mp hmem with hmem | hmem
      · exact hopened started hmem
      · rw [List.mem_singleton.mp hmem, Tracker.firstTasks_of_poll hmode]
        exact Option.some_ne_none _

/-- An engine whose backfill is told of the last head at once comes to rest as it starts its
watchers. -/
theorem runs_start (hfollows : scope.Follows settings)
    (hbound : max scope.seed top < columnBound) (hmode : settings.liveMode = .poll)
    (hwilling : database.Willing) (hfilling : scope.Filling settings base top database)
    (hstored : database.row settings.cursorKey = some (scope.seed : Int) ∨
      database.row settings.cursorKey = none ∧ settings.cursorSeed = scope.seed) :
    ∃ after, (start settings database).Runs (scope.chain.Answers top) after ∧
      after.Quiet top := by
  obtain ⟨report, between, hrun, hfilled, hbetween, hcursor, -⟩ :=
    Scope.completes_filling hfollows hbound (Nat.le_refl top) hwilling hfilling hstored
  have hbelow : between.Below settings.watchers report.cursor := by
    intro watcher hwatcher stored hrow
    obtain ⟨kind, hkind⟩ := hfollows.exists_watched hwatcher
    obtain ⟨height, hheight, hcap, -⟩ := hfilled.filled.cursors watcher.key kind
      (.inr ⟨watcher, hwatcher, rfl⟩) ((hfollows.mem_kinds hwatcher).mp hkind) stored hrow
    exact ⟨height, hheight, by omega⟩
  obtain ⟨starts, after, hseed, rfl, -⟩ : scope.chain.Completes top
      (Tracker.seed report.cursor settings.watchers) between fun starts after =>
        starts = settings.watchers.map (·, report.cursor) ∧ after.Willing :=
    .seed (by omega) settings.watchers hbetween hbelow
  have hseeded : (startTracker settings report.cursor between).Runs (scope.chain.Answers top) _ :=
    (runs_seeding (.seed _ _) hseed).trans (.cons .advance trivial rfl
      (runs_spawning after report.cursor hmode settings.watchers [] fun _ hmem =>
        absurd hmem List.not_mem_nil))
  refine ⟨_, (runs_backfilling hrun).trans (.cons .advance trivial rfl hseeded), _, rfl, ?_,
    fun tasks hmem => ?_⟩
  · simp [Function.comp_def, Tracker.firstTasks]
  · obtain ⟨watcher, -, rfl⟩ := List.mem_map.mp hmem
    exact Tracker.quiet_firstTasks hmode (by omega) (by omega)

end Engine

end EventIndexer
