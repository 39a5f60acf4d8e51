import EventIndexer.Proofs.Flow
import EventIndexer.Proofs.Undisturbed
import Mathlib.Logic.Function.Basic

/-! A history of engines on one database.  Each engine may be left at any moment, and the next one,
in another live mode and with other watchers, begins with the rows that it left.  The node replies
as it may throughout. -/

namespace EventIndexer

/-- An engine at work, and the streams that its watchers follow. -/
structure Session where
  engine : Engine
  streams : Nat → Subscription := fun _ => {}

/-- A step of an engine to which the node replies as it may. -/
inductive Session.Step (chain : Chain) (before : Session) : Session → Prop
  | told (answer : (request : Request) → request.Reply) {request : Request}
      {next : request.Reply → Routine Backfill.Report} {ended : Subscription} {after : Engine} :
    before.engine.stage = .backfilling (.ask request next) →
      chain.Replies request {} (answer request) ended →
        before.engine.step (.reply answer) = some after →
          Step chain before { before with engine := after }
  | spawn {tracker : Tracker} {after : Engine} : before.engine.stage = .tracking tracker →
    before.engine.step (.track .spawn) = some after →
      Step chain before
        { engine := after, streams := Function.update before.streams tracker.tasks.length {} }
  | move {tracker : Tracker} {i : Nat} {tasks : WatcherTasks} {step : Tracker.Step}
      {stream : Subscription} {after : Engine} :
    before.engine.stage = .tracking tracker → tracker.tasks[i]? = some tasks →
      step.mover tracker.tasks.length = some i →
        chain.Tells before.engine.settings.address i tasks step (before.streams i) stream →
          before.engine.step (.track step) = some after →
            Step chain before
              { engine := after, streams := Function.update before.streams i stream }
  | other (step : Engine.Step) {after : Engine} : (∀ answer, step ≠ .reply answer) →
    (∀ move, step ≠ .track move) → before.engine.step step = some after →
      Step chain before { before with engine := after }

/-- The sessions that a session becomes, step by step. -/
inductive Session.Becomes (chain : Chain) (session : Session) : Session → Prop
  | refl : Becomes chain session session
  | step {before after : Session} : Becomes chain session before →
    Session.Step chain before after → Becomes chain session after

/-- Whether a step needs no word of the node and starts no watcher. -/
def Engine.Step.silent : Engine.Step → Bool
  | .reply _ | .track .spawn | .track (.opened _) | .track (.produce _ (.reply _)) => false
  | _ => true

/-- The moments of a history that begins on an empty database. -/
inductive Scope.History (scope : Scope) : Session → Prop
  | first {settings : Settings} {database : Database} : settings.Serves scope →
    database.events = [] → database.cursors = [] →
      History scope { engine := .start settings database }
  | again {before : Session} {settings : Settings} {database : Database} :
    History scope before → settings.Serves scope →
      database.events = before.engine.database.events →
        database.cursors = before.engine.database.cursors →
          History scope { engine := .start settings database }
  | step {before after : Session} : History scope before → Session.Step scope.chain before after →
    History scope after

/-- A step of the tracker that needs no word of the node is one of a watcher's tasks. -/
theorem Tracker.mover_of_silent {settings : Settings} {cancelled : Bool}
    {database later : Database} {tracker after : Tracker} {move : Tracker.Step}
    (hsilent : (Engine.Step.track move).silent = true)
    (hstep : tracker.step settings cancelled database move = some (later, after)) :
    ∃ i tasks, move.mover tracker.tasks.length = some i ∧ tracker.tasks[i]? = some tasks := by
  cases move with
  | spawn | opened => cases hsilent
  | produce | consume | joinProducer | joinConsumer =>
    rw [Tracker.step, Option.bind_eq_bind, Option.bind_eq_some_iff] at hstep
    obtain ⟨tasks, htasks, -⟩ := hstep
    exact ⟨_, tasks, rfl, htasks⟩

namespace Session

variable {chain : Chain} {session : Session} {after : Engine}

theorem step_of_silent {step : Engine.Step} (hsilent : step.silent = true)
    (hstep : session.engine.step step = some after) :
    Session.Step chain session { session with engine := after } := by
  cases step with
  | reply answer => cases hsilent
  | cancel => exact .other .cancel nofun nofun hstep
  | perform fault => exact .other (.perform fault) nofun nofun hstep
  | advance => exact .other .advance nofun nofun hstep
  | interrupt => exact .other .interrupt nofun nofun hstep
  | track move =>
    cases hstage : session.engine.stage with
    | tracking tracker =>
      have hmove := hstep
      simp only [Engine.step, hstage, Option.bind_eq_bind, Option.bind_eq_some_iff] at hmove
      obtain ⟨_, htrack, -⟩ := hmove
      obtain ⟨i, tasks, hmover, htasks⟩ := Tracker.mover_of_silent hsilent htrack
      have htells : chain.Tells session.engine.settings.address i tasks move (session.streams i)
          (session.streams i) :=
        .still (fun answer hreply => by subst hreply; cases hsilent)
          fun hopened => by subst hopened; cases hsilent
      -- The watcher's stream is set to what it is, so no stream changes.
      have hsame := Session.Step.move hstage htasks hmover htells hstep
      rwa [Function.update_eq_self] at hsame
    | backfilling | seeding | ended => simp [Engine.step, hstage] at hstep

/-- The node replies to a producer, and its stream stays as it is. -/
theorem Becomes.producerTold {before : Session} {tracker : Tracker} {tasks : WatcherTasks}
    {request : Request} {next : request.Reply → Routine (Message × Feed)}
    (h : Becomes chain session before) (i : Nat) (answer : (request : Request) → request.Reply)
    (hstage : before.engine.stage = .tracking tracker) (htasks : tracker.tasks[i]? = some tasks)
    (hasks : tasks.producer = some (.calling (.ask request next)))
    (hreplies : chain.Replies request (before.streams i) (answer request) (before.streams i))
    (hstep : before.engine.step (.track (.produce i (.reply answer))) = some after) :
    Becomes chain session { before with engine := after } := by
  have hsame := h.step (.move hstage htasks rfl (.replied hasks hreplies) hstep)
  rwa [Function.update_eq_self] at hsame

/-- Steps that need no word of the node may be taken one after another. -/
theorem Becomes.silent {before : Session} (steps : List Engine.Step)
    (h : Becomes chain session before) (hsilent : steps.all (·.silent) = true)
    (hsteps : steps.foldlM Engine.step before.engine = some after) :
    Becomes chain session { before with engine := after } :=
  preserved_by_foldlM (fun engine => Becomes chain session { before with engine })
    (fun _ _ step hmem hnow hstep =>
      hnow.step (step_of_silent (List.all_eq_true.mp hsilent step hmem) hstep)) h hsteps

end Session

namespace Scope

variable {scope : Scope} {settings : Settings} {session after : Session}

/-- What is known at every moment of a history. -/
structure Sound (hserves : settings.Serves scope) (session : Session) : Prop where
  same : session.engine.settings = settings
  consistent : scope.Consistent session.engine.database
  plan : (plan hserves).Kept session.engine
  tracker : ∀ tracker, session.engine.stage = .tracking tracker → ∃ world : World,
    world.database = session.engine.database ∧
      tracker.Attended settings scope.Tracked scope.Begins (scope.Tends settings session.streams)
        world

namespace Sound

variable {hserves : settings.Serves scope}

theorem start {database : Database} (hserves : settings.Serves scope)
    (hconsistent : scope.Consistent database) :
    Sound hserves { engine := .start settings database } :=
  ⟨rfl, hconsistent, Engine.Plan.kept_start hconsistent, fun _ hstage => nomatch hstage⟩

/-- A step that is none of the tracker's. -/
theorem step_engine (h : Sound hserves session) {step : Engine.Step} {engine : Engine}
    (hstep : session.engine.step step = some engine) (hmove : ∀ move, step ≠ .track move)
    (hnode : ∀ answer request next, step = .reply answer →
      session.engine.stage = .backfilling (.ask request next) →
        scope.node request (answer request)) :
    Sound hserves { session with engine } := by
  have hmoves := Engine.moves_of_step hstep
  have hsame := hmoves.settings.trans h.same
  by_cases htracker : ∃ tracker, session.engine.stage = .tracking tracker
  · obtain ⟨tracker, hstage⟩ := htracker
    rcases hmoves.of_tracking hstage with
      ⟨-, rfl⟩ | ⟨result, -, rfl⟩ | ⟨move, database, next, htrack, -, -⟩
    · exact ⟨hsame, h.consistent, h.plan, h.tracker⟩
    · exact ⟨hsame, h.consistent, trivial, fun _ hstage => nomatch hstage⟩
    · exact absurd htrack (hmove move)
  · have hnot : ∀ tracker, session.engine.stage ≠ .tracking tracker := fun tracker hstage =>
      htracker ⟨tracker, hstage⟩
    obtain ⟨-, hplan⟩ := Engine.Plan.step h.plan h.same hmoves hnode hnot
    refine ⟨hsame, ?_, hplan, fun tracker hstage => ?_⟩
    -- Only the database's replies change it; the plan says what they leave.
    · cases hmoves with
      | filled => exact hplan.1
      | seeding => exact hplan.choose_spec.1.tracked.consistent
      | track hstage => exact absurd hstage (hnot _)
      | cancel | told | backfilled | seeded | tracked | broken => exact h.consistent
    · obtain ⟨starts, hseeded, rfl, hdatabase⟩ := hmoves.to_tracking hnot hstage
      obtain ⟨handoff, hhanded, hwatchers, hstarts⟩ := Engine.Plan.seeded h.plan hseeded
      dsimp only
      rw [hdatabase]
      refine ⟨{ database := session.engine.database }, rfl,
        .start hhanded.tracked hwatchers fun start hmem => ?_⟩
      obtain ⟨hle, hrow⟩ := hstarts start hmem
      exact hhanded.begins hserves (hwatchers ▸ List.mem_map_of_mem hmem) hle hrow

/-- A step of the tracker, by what becomes of the streams. -/
theorem step_tracker (h : Sound hserves session) (hnodup : settings.events.Nodup)
    {tracker : Tracker} (hstage : session.engine.stage = .tracking tracker) {step : Tracker.Step}
    {engine : Engine} {streams : Nat → Subscription}
    (hstep : session.engine.step (.track step) = some engine)
    (hspawn : step = .spawn → (streams tracker.tasks.length).seen = [])
    (hmover : ∀ i tasks, step.mover tracker.tasks.length = some i →
      tracker.tasks[i]? = some tasks →
        scope.chain.Tells settings.address i tasks step (session.streams i) (streams i))
    (hothers : ∀ i, i < tracker.tasks.length → step.mover tracker.tasks.length ≠ some i →
      streams i = session.streams i) :
    Sound hserves { engine, streams } := by
  have hmoves := Engine.moves_of_step hstep
  have hsame := hmoves.settings.trans h.same
  obtain ⟨world, hworld, hattended⟩ := h.tracker tracker hstage
  rcases hmoves.of_tracking hstage with
    ⟨hcancel, -⟩ | ⟨_, hadvance, -⟩ | ⟨move, database, next, htrack, hnext, rfl⟩
  · cases hcancel
  · cases hadvance
  · cases htrack
    rw [h.same, ← hworld] at hnext
    have hkept : ∃ later : World, later.database = database ∧
        world.database.Grows later.database ∧
          next.Attended settings scope.Tracked scope.Begins (scope.Tends settings streams)
            later := by
      refine hattended.step hnext (Settings.watchers_apart fun _ => hnodup)
        (fun _ _ _ _ hgrows hbegins => hbegins.of_grows hgrows)
        (fun hstep watcher cursor hbegins hfree => ⟨cursor, [], [], [],
          .start hbegins hfree (hspawn hstep)⟩)
        (fun i tasks moved later hwatcher hi htasks htends hmove => ?_)
        fun i tasks later hi htasks htends hrely => ?_
      · obtain ⟨cursor, sent, delivered, current, hwatched⟩ := htends
        obtain ⟨hown, hnext⟩ := hwatched.moves hserves (List.mem_of_getElem? hwatcher) hmove
          (hmover i tasks hi htasks)
        exact ⟨hown, cursor, hnext⟩
      · obtain ⟨cursor, sent, delivered, current, hwatched⟩ := htends
        refine ⟨cursor, sent, delivered, current, ?_⟩
        rw [hothers i (List.getElem?_eq_some_iff.mp htasks).1 hi]
        exact hwatched.of_others hrely
    obtain ⟨later, hlater, -, hafter⟩ := hkept
    refine ⟨hsame, ?_, trivial, fun other hother => ?_⟩
    · show scope.Consistent database
      rw [← hlater]
      exact hafter.sound.consistent
    · cases hother
      exact ⟨later, hlater, hafter⟩

theorem step (h : Sound hserves session) (hnodup : settings.events.Nodup)
    (hstep : Session.Step scope.chain session after) : Sound hserves after := by
  cases hstep with
  | @told answer request next ended engine hstage hreplies hstep =>
    refine h.step_engine hstep nofun fun other asked rest hsame hasked => ?_
    cases hsame
    rw [hstage] at hasked
    cases hasked
    exact ⟨ended, hreplies⟩
  | @spawn tracker engine hstage hstep =>
    refine h.step_tracker hnodup hstage hstep (fun _ => ?_) (fun i tasks hi => nomatch hi)
      fun i hlt _ => ?_
    · rw [Function.update_self]
    · exact Function.update_of_ne (Nat.ne_of_lt hlt) _ _
  | @move tracker i tasks step stream engine hstage htasks hi htells hstep =>
    refine h.step_tracker hnodup hstage hstep (fun hspawn => ?_) (fun j other hj hother => ?_)
      fun j _ hj => ?_
    · rw [hspawn] at hi
      cases hi
    · rw [hi] at hj
      cases hj
      rw [htasks] at hother
      cases hother
      rw [Function.update_self, ← h.same]
      exact htells
    · rw [hi] at hj
      exact Function.update_of_ne (fun hsame => hj (congrArg some hsame.symm)) _ _
  | other step hreply hmove hstep =>
    exact h.step_engine hstep hmove fun answer _ _ hsame _ => absurd hsame (hreply answer)

end Sound

theorem History.becomes (h : scope.History session)
    (hbecomes : Session.Becomes scope.chain session after) : scope.History after := by
  induction hbecomes with
  | refl => exact h
  | step _ hstep ih => exact ih.step hstep

theorem History.sound (h : scope.History session) (hnodup : scope.kinds.Nodup) :
    ∃ (settings : Settings) (hserves : settings.Serves scope), Sound hserves session := by
  induction h with
  | first hserves hevents hcursors =>
    exact ⟨_, hserves, .start hserves (.of_empty hevents hcursors)⟩
  | again _ hserves hevents hcursors ih =>
    obtain ⟨_, _, hsound⟩ := ih
    exact ⟨_, hserves, .start hserves (hsound.consistent.congr hevents hcursors)⟩
  | step _ hstep ih =>
    obtain ⟨settings, hserves, hsound⟩ := ih
    exact ⟨settings, hserves, hsound.step (hserves.events.nodup_iff.mpr hnodup) hstep⟩

/-- Whenever the main cursor is stored at a height, every event of the tracked kinds between the
seed and that height is held, and whenever the cursor of a kind is, so is every event of that kind;
however often the engine was left and started anew, in whatever modes.  Where no two logs of a kind
stand at one place, an event that is due and held is stored itself. -/
theorem History.cursors_skip_nothing (hnodup : scope.kinds.Nodup) (h : scope.History session) :
    (∀ stored, session.engine.database.row scope.key = some stored →
      ∃ height : Nat, stored = height ∧
        ∀ event ∈ scope.chain.due scope.address scope.kinds scope.seed height,
          session.engine.database.Holds event) ∧
    (∀ kind ∈ scope.kinds, ∀ stored,
      session.engine.database.row (watcherKey scope.key kind) = some stored →
        ∃ height : Nat, stored = height ∧
          ∀ event ∈ scope.chain.due scope.address [kind] scope.seed height,
            session.engine.database.Holds event) ∧
    (scope.chain.Separate → ∀ height,
      ∀ event ∈ scope.chain.due scope.address scope.kinds scope.seed height,
        session.engine.database.Holds event → event ∈ session.engine.database.events) := by
  obtain ⟨settings, hserves, hsound⟩ := h.sound hnodup
  have hconsistent := hsound.consistent
  refine ⟨fun stored hrow => ?_, fun kind hkind stored hrow => ?_,
    fun hseparate height event hdue hheld => hconsistent.mem_events hseparate hdue hheld⟩
  · obtain ⟨kind, hkind⟩ := hserves.exists_kind
    obtain ⟨height, hheight, -⟩ :=
      hconsistent.complete scope.key kind ⟨hkind, .inl rfl⟩ stored hrow
    exact ⟨height, hheight, fun event hmem => hconsistent.holds_due (hheight ▸ hrow) hmem⟩
  · obtain ⟨height, hheight, -, hreached⟩ :=
      hconsistent.complete _ kind ⟨hkind, .inr rfl⟩ stored hrow
    exact ⟨height, hheight, hreached.2⟩

/-! ### An engine left between its events and its cursor -/

/-- A stake and two unstakes, in a block each. -/
def stakeScope : Scope :=
  { chain := [Feed.stakeLog 1, Feed.unstakeLog 2, Feed.unstakeLog 3]
    address := 0, kinds := [.stake, .unstake], key := "block", seed := 0 }

def stakeFollower : Settings :=
  { address := 0, events := [.stake, .unstake], liveMode := .subscribe }

def stakeWatchers : Settings :=
  { address := 0, events := [.unstake, .stake], maxRangeWidth := 1, watcherPerEvent := true }

/-- The rows of an engine that was left after it stored two events, before it moved the cursor. -/
def stakesAppended : Database :=
  { cursors := [("block", 0)]
    events := [Feed.stakeLog 1, Feed.unstakeLog 2].filterMap Log.event? }

theorem separate_stakes : stakeScope.chain.Separate := Chain.separate_of_places (by decide)

theorem serves_follower : stakeFollower.Serves stakeScope := ⟨rfl, .refl _, rfl, rfl, rfl⟩

theorem history_appended : ∃ session, stakeScope.History session ∧
    session.engine.database = stakesAppended := by
  have hstart : stakeScope.History { engine := .start stakeFollower {} } :=
    .first serves_follower rfl rfl
  have hseeded : Session.Becomes stakeScope.chain { engine := .start stakeFollower {} } _ :=
    Session.Becomes.refl.silent (List.replicate 2 (.perform none)) rfl rfl
  have hhead := hseeded.step
    (.told (stakeScope.chain.reply 2) rfl (.head (by decide) (by decide)) rfl)
  have hlogs := hhead.step (.told (stakeScope.chain.reply 2) rfl (.chunk (.refl _)) rfl)
  have hleft := hlogs.silent (List.replicate 2 (.perform none)) rfl rfl
  exact ⟨_, hstart.becomes hleft, rfl⟩

/-- The engine after it, in ranges of a block, has come to the same head. -/
def stakesResumed : Engine :=
  { settings := stakeWatchers
    database := { stakesAppended with cursors := [("block", 2)] }
    stage := .backfilling (.done (.ok { batches := 2, persisted := 2, cursor := 2, head := 2 })) }

theorem history_resumed : stakeScope.History { engine := stakesResumed } := by
  obtain ⟨left, hleft, hrows⟩ := history_appended
  have hserves : stakeWatchers.Serves stakeScope := ⟨rfl, .swap _ _ _, rfl, rfl, rfl⟩
  have hstart : stakeScope.History { engine := .start stakeWatchers stakesAppended } :=
    hleft.again hserves (hrows ▸ rfl) (hrows ▸ rfl)
  have hread : Session.Becomes stakeScope.chain
      { engine := .start stakeWatchers stakesAppended } _ :=
    Session.Becomes.refl.silent [.perform none] rfl rfl
  have hhead := hread.step
    (.told (stakeScope.chain.reply 2) rfl (.head (by decide) (by decide)) rfl)
  have hfirst := hhead.step (.told (stakeScope.chain.reply 2) rfl (.chunk (.refl _)) rfl)
  have hmoved := hfirst.silent (List.replicate 3 (.perform none)) rfl rfl
  have hsecond := hmoved.step (.told (stakeScope.chain.reply 2) rfl (.chunk (.refl _)) rfl)
  have hended := hsecond.silent (List.replicate 3 (.perform none)) rfl rfl
  exact hstart.becomes hended

/-- Once the watchers are at work, that of the unstakes comes to the third block before the main
cursor does. -/
theorem cursors_skip_nothing_stakes : stakeScope.kinds.Nodup ∧ stakeScope.chain.Separate ∧
    ∃ session, stakeScope.History session ∧
      session.engine.database.row "block" = some 2 ∧
      session.engine.database.row "block:Unstake" = some 3 ∧
      (∀ event ∈ stakeScope.chain.due 0 [.stake, .unstake] 0 2,
        session.engine.database.Holds event) ∧
      ∀ event ∈ stakeScope.chain.due 0 [.unstake] 0 3,
        event ∈ session.engine.database.events := by
  have hnodup : stakeScope.kinds.Nodup := by decide
  have hseeded : Session.Becomes stakeScope.chain { engine := stakesResumed } _ :=
    Session.Becomes.refl.silent
      (.advance :: List.replicate 4 (.perform none) ++ [.advance]) rfl rfl
  have hfirst := hseeded.step (.spawn rfl rfl)
  have hsecond := hfirst.step (.spawn rfl rfl)
  have hcalled := hsecond.silent [.track (.produce 0 .call)] rfl rfl
  have hhead := hcalled.producerTold 0 (stakeScope.chain.reply 3) rfl rfl rfl
    (.head (Nat.zero_le 3) (by decide)) rfl
  have hlogs := hhead.producerTold 0 (stakeScope.chain.reply 3) rfl rfl rfl (.chunk (.refl _)) rfl
  have hmoved := hlogs.silent
    ([.track (.produce 0 .finish), .track (.produce 0 .send), Engine.take 0] ++
      List.replicate 3 (Engine.perform 0)) rfl rfl
  have hhistory := history_resumed.becomes hmoved
  obtain ⟨hmain, hkinds, hstored⟩ := hhistory.cursors_skip_nothing hnodup
  obtain ⟨height, hheight, hheld⟩ := hmain 2 rfl
  obtain rfl : height = 2 := by omega
  have hunstake : Kind.unstake ∈ stakeScope.kinds := by decide
  obtain ⟨height, hheight, hheld'⟩ := hkinds .unstake hunstake 3 rfl
  obtain rfl : height = 3 := by omega
  exact ⟨hnodup, separate_stakes, _, hhistory, rfl, rfl, hheld, fun event hdue =>
    hstored separate_stakes 3 event (Chain.mem_due_of_kind hunstake hdue) (hheld' event hdue)⟩

end Scope

end EventIndexer
