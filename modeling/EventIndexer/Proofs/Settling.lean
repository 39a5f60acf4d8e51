import EventIndexer.Proofs.Polling

/-! Where the watchers of an engine that polls come to rest.  Each time a watcher's cursor moves,
its consumer is about to refresh the main cursor; the last one to reach a height finds all others
there, so the main cursor is not left behind, in whatever order the watchers take turns. -/

namespace EventIndexer

/-- Whether an engine's steps are given replies as a node may give them. -/
def Engine.Step.Told (node : (request : Request) → request.Reply → Prop) : Engine.Step → Prop
  | .reply answer => ∀ request, node request (answer request)
  | .track step => step.Told node
  | _ => True

/-- The engines that an engine becomes while a node replies as it may. -/
inductive Engine.Runs (node : (request : Request) → request.Reply → Prop) (engine : Engine) :
    Engine → Prop
  | refl : Runs node engine engine
  | step {before after : Engine} : Runs node engine before → ∀ step : Engine.Step,
    step.Told node → before.step step = some after → Runs node engine after

/-- Whether a watcher has nothing left to query up to a height, and all it handed over is done. -/
def WatcherTasks.Quiet (settings : Settings) (top : Nat) (tasks : WatcherTasks) : Prop :=
  tasks.consumer = .ready ∧ tasks.channel.queue = [] ∧ pending tasks.producer = [] ∧
    tasks.feed.progress.nextRange top settings.maxRangeWidth = none

/-- Whether all watchers of an engine are at work and have nothing left to do up to a height. -/
def Engine.Quiet (top : Nat) (engine : Engine) : Prop :=
  ∃ tracker, engine.stage = .tracking tracker ∧
    tracker.tasks.map (·.watcher) = engine.settings.watchers ∧
      ∀ tasks ∈ tracker.tasks, tasks.Quiet engine.settings top

/-! ### The main cursor -/

/-- Whether a consumer has failed, or will have raised the main cursor to a height. -/
def WatcherTasks.Vouches (inv : Database → Prop) (key : String) (height index : Nat)
    (tasks : WatcherTasks) (world : World) : Prop :=
  (∃ result, tasks.consumer = .ended result) ∨
    ∃ routine, tasks.consumer = .handling routine ∧ ∃ start : World,
      routine.Safe ((Actor.ofWatcher index tasks.watcher).rules inv Actor.unasked)
        ((Actor.ofWatcher index tasks.watcher).Ends inv start fun _ later =>
          later.database.Reaches key height) world

/-- Whether the main cursor follows once every watcher's cursor has reached a height. -/
def Tracker.Settles (settings : Settings) (inv : Database → Prop) (height : Nat)
    (tracker : Tracker) (world : World) : Prop :=
  (∀ watcher ∈ settings.watchers, world.database.Reaches watcher.key height) →
    world.database.Reaches settings.cursorKey height ∨
      ∃ (i : Nat) (tasks : WatcherTasks), tracker.tasks[i]? = some tasks ∧
        tasks.Vouches inv settings.cursorKey height i world

variable {scope : Scope} {settings : Settings} {base : List Event} {top height : Nat}
  {inv : Database → Prop} {begins : Watcher → Nat → Database → Prop} {key : String} {index : Nat}
  {tasks moved : WatcherTasks} {world later : World}

theorem WatcherTasks.Vouches.of_others (h : tasks.Vouches inv key height index world)
    (hothers : (Actor.ofWatcher index tasks.watcher).Others inv world later) :
    tasks.Vouches inv key height index later := by
  rcases h with hended | ⟨routine, hconsumer, start, hsafe⟩
  · exact .inl hended
  · exact .inr ⟨routine, hconsumer, start, hsafe.of_others hothers⟩

theorem WatcherTasks.Vouches.congr (h : tasks.Vouches inv key height index world)
    (hwatcher : moved.watcher = tasks.watcher) (hconsumer : moved.consumer = tasks.consumer) :
    moved.Vouches inv key height index world := by
  unfold Vouches at h ⊢
  rwa [hwatcher, hconsumer]

/-- A consumer keeps its word, or has kept it. -/
theorem WatcherTasks.Vouches.moves {step : Tracker.Step}
    (h : tasks.Vouches inv key height index world)
    (hmove : tasks.Moves settings index world step moved later) :
    moved.Vouches inv key height index later ∨ later.database.Reaches key height := by
  cases hmove with
  | opened reply =>
    refine .inl (h.congr ?_ ?_)
    all_goals
      unfold Tracker.afterOpening
      split <;> rfl
  | call | reply | handOver | send | leave | join => exact .inl (h.congr rfl rfl)
  | take hready =>
    rcases h with ⟨result, hended⟩ | ⟨routine, hconsumer, -⟩
    · rw [hready] at hended
      cases hended
    · rw [hready] at hconsumer
      cases hconsumer
  | perform hconsumer hreplied =>
    rcases h with ⟨result, hended⟩ | ⟨routine, hhandling, start, hsafe⟩
    · rw [hconsumer] at hended
      cases hended
    · rw [hconsumer] at hhandling
      cases hhandling
      obtain ⟨-, hnext⟩ := hsafe world (Actor.Others.refl world) _ later hreplied
      exact .inl (.inr ⟨_, rfl, start, hnext⟩)
  | finish hconsumer =>
    rcases h with ⟨result, hended⟩ | ⟨routine, hhandling, start, hsafe⟩
    · rw [hconsumer] at hended
      cases hended
    · rw [hconsumer] at hhandling
      cases hhandling
      exact .inr hsafe.ends_now.2
  | quit => exact .inl (.inl ⟨_, rfl⟩)

/-- A consumer that raises a watcher's cursor, and thereby the last one to a height, vouches for the
main cursor, unless that is the one it has raised. -/
theorem Scope.Polled.vouches {step : Tracker.Step}
    (h : scope.Polled settings base top index tasks world) (hfollows : scope.Follows settings)
    (hwatcher : tasks.watcher ∈ settings.watchers)
    (hmove : tasks.Moves settings index world step moved later)
    (hreached : ∀ watcher ∈ settings.watchers, later.database.Reaches watcher.key height)
    (hraised : later.database.row tasks.watcher.key ≠ world.database.row tasks.watcher.key) :
    later.database.Reaches settings.cursorKey height ∨
      moved.Vouches (scope.Following settings base top) settings.cursorKey height index later := by
  cases hmove with
  | perform hconsumer hreplied =>
    obtain ⟨-, -, ⟨low, hstoring⟩ | hsame⟩ := h.perform hfollows hwatcher hconsumer hreplied
    · have hallowed : ∀ watermark ∈ tasks.watcher.watermark,
          watermark.Allowed (scope.Following settings base top) :=
        allowed_following hfollows hwatcher
      rcases Settings.mem_watchers hwatcher with ⟨-, hsingle⟩ | ⟨hper, own, hown, hmember⟩
      · have hkey : tasks.watcher.key = settings.cursorKey := by rw [hsingle]
        exact .inl (hkey ▸ hreached _ hwatcher)
      · have hsome : settings.events.map (watcherKey settings.cursorKey) ≠ [] :=
          List.ne_nil_of_mem (List.mem_map_of_mem hown)
        refine .inr (.inr ⟨_, rfl, hstoring.vouches hallowed (by rw [hmember]) hsome
          fun member hmem => ?_⟩)
        obtain ⟨kind, hkind, rfl⟩ := List.mem_map.mp hmem
        obtain ⟨watcher, hmem, hkey⟩ := Settings.exists_watcher hper hkind
        exact hkey ▸ hreached watcher hmem
    · exact absurd hsame hraised
  | _ => exact absurd rfl hraised

namespace Tracker

variable {tracker after : Tracker}

theorem Settles.spawn (h : tracker.Settles settings inv height world) {new : WatcherTasks}
    (htasks : after.tasks = tracker.tasks ++ [new]) :
    after.Settles settings inv height world := by
  intro hreached
  rcases h hreached with hmain | ⟨i, tasks, hi, hvouches⟩
  · exact .inl hmain
  · refine .inr ⟨i, tasks, ?_, hvouches⟩
    rw [htasks, List.getElem?_append_left (List.getElem?_eq_some_iff.mp hi).1]
    exact hi

/-- Whichever consumer moves, the main cursor will follow. -/
theorem Settles.move {step : Step} {i : Nat}
    (h : tracker.Settles settings (scope.Following settings base top) height world)
    (hfollows : scope.Follows settings)
    (hattended : tracker.Attended settings (scope.Following settings base top) begins
      (scope.Polled settings base top) world)
    (hapart : ∀ i j a b, settings.watchers[i]? = some a → settings.watchers[j]? = some b → i ≠ j →
      (Actor.ofWatcher i a).Apart (Actor.ofWatcher j b))
    (hi : tracker.tasks[i]? = some tasks)
    (hmove : tasks.Moves settings i world step moved later)
    (hown : (Actor.ofWatcher i tasks.watcher).Own (scope.Following settings base top) world later)
    (htasks : after.tasks = tracker.tasks.set i moved) :
    after.Settles settings (scope.Following settings base top) height later := by
  intro hreached
  have hwatcher := hattended.watcher hi
  have hmem := List.mem_of_getElem? hwatcher
  have hself : after.tasks[i]? = some moved := by
    rw [htasks, List.getElem?_set_self (List.getElem?_eq_some_iff.mp hi).1]
  by_cases hbefore : ∀ watcher ∈ settings.watchers, world.database.Reaches watcher.key height
  · rcases h hbefore with hmain | ⟨j, other, hj, hvouches⟩
    · exact .inl (hown.grows.reaches hmain)
    · by_cases hsame : i = j
      · subst hsame
        rw [hi] at hj
        cases hj
        exact (hvouches.moves hmove).symm.imp_right fun hvouches => ⟨i, moved, hself, hvouches⟩
      · have happart := hapart i j _ _ hwatcher (hattended.watcher hj) hsame
        refine .inr ⟨j, other, ?_, hvouches.of_others (hown.others happart)⟩
        rw [htasks, List.getElem?_set_ne hsame, hj]
  · have hraised : later.database.row tasks.watcher.key ≠ world.database.row tasks.watcher.key := by
      intro hrow
      refine hbefore fun watcher hother => ?_
      obtain ⟨high, hhigh, hle⟩ := hreached watcher hother
      refine ⟨high, ?_, hle⟩
      by_cases hkey : watcher.key = tasks.watcher.key
      · rw [hkey] at hhigh ⊢
        rw [← hrow, hhigh]
      · rw [← hown.rows watcher.key ?_, hhigh]
        rintro (hmine | ⟨-, hshared⟩)
        · exact hkey (List.mem_singleton.mp hmine)
        · exact Settings.shared_ne_key hmem hother hshared
    have hpolled := hattended.tasks i tasks hi
    exact (hpolled.vouches hfollows hmem hmove hreached hraised).imp_right
      fun hvouches => ⟨i, moved, hself, hvouches⟩

end Tracker

/-! ### Engines -/

namespace Scope

variable {hfollows : scope.Follows settings} {hbound : max scope.seed top < columnBound}
  {engine after : Engine} {database : Database}

/-- What is known of a watcher that begins at a cursor. -/
def Starts (scope : Scope) (watcher : Watcher) (cursor : Nat) (database : Database) : Prop :=
  scope.seed ≤ cursor ∧ cursor < columnBound ∧ database.Reaches watcher.key cursor

/-- What is known of an engine that polls, at every moment. -/
structure Steady (hfollows : scope.Follows settings) (base : List Event)
    (hbound : max scope.seed top < columnBound) (engine : Engine) : Prop where
  same : engine.settings = settings
  plan : (fillingPlan hfollows base hbound).Kept engine
  tracker : ∀ tracker, engine.stage = .tracking tracker → ∃ world : World,
    world.database = engine.database ∧
      tracker.Attended settings (scope.Following settings base top) scope.Starts
        (scope.Polled settings base top) world ∧
      tracker.Settles settings (scope.Following settings base top) top world

namespace Steady

theorem start (h : scope.Filling settings base top database) :
    Steady hfollows base hbound (.start settings database) :=
  ⟨rfl, Engine.Plan.kept_start h, fun _ hstage => nomatch hstage⟩

theorem startTracker {handoff : Nat} (h : scope.Aligning settings base top handoff database) :
    Steady hfollows base hbound (.startTracker settings handoff database) :=
  ⟨rfl, Engine.Plan.kept_startTracker h, fun _ hstage => nomatch hstage⟩

/-- The tracker begins where the seeding has ended. -/
theorem seeded (h : Steady hfollows base hbound engine) {starts : List (Watcher × Nat)}
    (hstage : engine.stage = .seeding (.done (.ok starts))) :
    Tracker.Attended settings (scope.Following settings base top) scope.Starts
        (scope.Polled settings base top) { waiting := starts } { database := engine.database } ∧
      Tracker.Settles settings (scope.Following settings base top) top { waiting := starts }
        { database := engine.database } := by
  obtain ⟨handoff, haligned, hwatchers, hstarts⟩ := Engine.Plan.seeded h.plan hstage
  obtain ⟨hfilled, hseed, hmain, hmembers⟩ : scope.Aligning settings base top handoff
    engine.database := haligned
  obtain ⟨main, hrow, -⟩ := id hmain
  refine ⟨.start ⟨hfilled, main, hrow⟩ hwatchers fun start hmem => ?_, fun hreached => .inl ?_⟩
  · obtain ⟨hle, hreaches⟩ := hstarts start hmem
    have hwatcher : start.1 ∈ settings.watchers := hwatchers ▸ List.mem_map_of_mem hmem
    obtain ⟨kind, hkind⟩ := hfollows.exists_watched hwatcher
    have hcounts := (hfollows.mem_kinds hwatcher).mp hkind
    obtain ⟨-, hcap⟩ := hfilled.reached_of_reaches (.inr ⟨_, hwatcher, rfl⟩) hcounts hreaches
      (by omega)
    exact ⟨by omega, by omega, hreaches⟩
  · -- No watcher's cursor lies above the main one before the tracker starts.
    obtain ⟨watcher, hwatcher⟩ := List.exists_mem_of_ne_nil _
      (Settings.watchers_ne_nil hfollows.events_ne_nil)
    obtain ⟨high, hhigh, hle⟩ := hreached watcher hwatcher
    have hhandoff := hmembers watcher hwatcher high hhigh
    exact hmain.of_le (by omega)

theorem step_tracker (h : Steady hfollows base hbound engine)
    (hnodup : settings.watcherPerEvent = true → settings.events.Nodup)
    (hmode : settings.liveMode = .poll) {tracker next : Tracker} {step : Tracker.Step}
    (hstage : engine.stage = .tracking tracker) (htold : step.Told (scope.chain.Answers top))
    (hstep : tracker.step settings engine.cancelled engine.database step = some (database, next)) :
    ∃ world : World, world.database = database ∧
      next.Attended settings (scope.Following settings base top) scope.Starts
        (scope.Polled settings base top) world ∧
      next.Settles settings (scope.Following settings base top) top world := by
  have hcolumn : columnBound ≤ maxHeight := by decide
  have hapart := Settings.watchers_apart hnodup
  obtain ⟨world, hworld, hattended, hsettles⟩ := h.tracker tracker hstage
  rw [← hworld] at hstep
  rcases Tracker.step_cases hattended.last hattended.lock hstep with
    ⟨-, hdatabase, hopening, start, rest, hwaiting, hlocked, hrest, htasks⟩ |
    ⟨i, tasks, moved, later, -, hi, hmove, hdatabase, hlocked, htasks, hwaiting⟩
  · have hfree : world.holder ≠ some tracker.tasks.length := fun hholder =>
      Nat.lt_irrefl _ (hattended.held _ hholder)
    obtain ⟨hseed, hcursor, hreaches⟩ := hattended.waiting start (hwaiting ▸ List.mem_cons_self)
    have hnew : scope.Polled settings base top tracker.tasks.length
        (Tracker.firstTasks settings start.1 start.2) world :=
      .start hmode (Nat.lt_of_lt_of_le hcursor hcolumn) hseed hreaches hfree
    exact ⟨world, hdatabase.symm, hattended.spawn hopening hwaiting hlocked hrest htasks hnew
      fun _ _ _ htends => htends, hsettles.spawn htasks⟩
  · have hwatcher := hattended.watcher hi
    obtain ⟨hown, hmoved⟩ := (hattended.tasks i tasks hi).moves hfollows hmode (by omega)
      (List.mem_of_getElem? hwatcher) hattended.sound hmove htold
    refine ⟨later, hdatabase.symm, hattended.move hi hmove hlocked htasks hwaiting hown hmoved
      (fun start hmem => ?_) fun j other hne hj htends => ?_,
      hsettles.move hfollows hattended hapart hi hmove hown htasks⟩
    · obtain ⟨hseed, hcursor, hreaches⟩ := hattended.waiting start hmem
      exact ⟨hseed, hcursor, hown.grows.reaches hreaches⟩
    · have happart := hapart i j _ _ hwatcher (hattended.watcher hj) hne
      exact htends.of_others (hown.others happart)

theorem step {step : Engine.Step} (h : Steady hfollows base hbound engine)
    (hnodup : settings.watcherPerEvent = true → settings.events.Nodup)
    (hmode : settings.liveMode = .poll) (htold : step.Told (scope.chain.Answers top))
    (hstep : engine.step step = some after) : Steady hfollows base hbound after := by
  have hmove := Engine.moves_of_step hstep
  have hsame := hmove.settings.trans h.same
  by_cases htracker : ∃ tracker, engine.stage = .tracking tracker
  · obtain ⟨tracker, hstage⟩ := htracker
    rcases hmove.of_tracking hstage with
      ⟨-, rfl⟩ | ⟨result, -, rfl⟩ | ⟨move, database, next, rfl, htrack, rfl⟩
    · exact ⟨hsame, h.plan, h.tracker⟩
    · exact ⟨hsame, trivial, fun _ hstage => nomatch hstage⟩
    · rw [h.same] at htrack
      refine ⟨hsame, trivial, fun other hother => ?_⟩
      cases hother
      exact h.step_tracker hnodup hmode hstage htold htrack
  · have hnot : ∀ tracker, engine.stage ≠ .tracking tracker := fun tracker hstage =>
      htracker ⟨tracker, hstage⟩
    obtain ⟨-, hplan⟩ := Engine.Plan.step h.plan h.same hmove
      (fun answer request next hreply _ => by subst hreply; exact htold request) hnot
    refine ⟨hsame, hplan, fun tracker hstage => ?_⟩
    obtain ⟨starts, hseeded, rfl, hdatabase⟩ := hmove.to_tracking hnot hstage
    obtain ⟨hattended, hsettles⟩ := h.seeded hseeded
    exact ⟨{ database := engine.database }, hdatabase.symm, hattended, hsettles⟩

theorem runs (h : Steady hfollows base hbound engine)
    (hnodup : settings.watcherPerEvent = true → settings.events.Nodup)
    (hmode : settings.liveMode = .poll) (hruns : engine.Runs (scope.chain.Answers top) after) :
    Steady hfollows base hbound after := by
  induction hruns with
  | refl => exact h
  | step _ _ htold hstep ih => exact ih.step hnodup hmode htold hstep

/-- Where the watchers have come to rest, the main cursor is at the end, and every event that is due
is held. -/
theorem quiet (h : Steady hfollows base hbound engine) (hquiet : engine.Quiet top) :
    scope.Filled settings base top engine.database ∧
      engine.database.row scope.key = some ((max scope.seed top : Nat) : Int) := by
  obtain ⟨tracker, hstage, hwatchers, hall⟩ := hquiet
  obtain ⟨world, hworld, hattended, hsettles⟩ := h.tracker tracker hstage
  rw [h.same] at hwatchers hall
  have hreached : ∀ watcher ∈ settings.watchers, world.database.Reaches watcher.key top := by
    intro watcher hwatcher
    rw [← hwatchers] at hwatcher
    obtain ⟨tasks, htasks, rfl⟩ := List.mem_map.mp hwatcher
    obtain ⟨i, hi⟩ := List.mem_iff_getElem?.mp htasks
    obtain ⟨hready, hqueue, hpending, hnone⟩ := hall tasks htasks
    have hpolled := hattended.tasks i tasks hi
    obtain ⟨-, low, -, hranges, hpursues⟩ := hpolled.flowing_of_alive (by simp [hready])
    unfold WatcherTasks.Pursues at hpursues
    rw [hready] at hpursues
    rw [hqueue, hpending] at hranges
    have hpast := Feed.nextRange_none (Settings.width_of_validate hfollows.valid) hnone
    have hnext := hpolled.next
    cases hranges with
    | done => exact hpursues.2.of_le (by omega)
  have hmain : world.database.Reaches settings.cursorKey top := by
    rcases hsettles hreached with hmain | ⟨i, tasks, hi, hvouches⟩
    · exact hmain
    · -- A consumer that vouches is at work or has failed, and none of them is.
      obtain ⟨hready, -⟩ := hall tasks (List.mem_of_getElem? hi)
      rcases hvouches with ⟨result, hended⟩ | ⟨routine, hconsumer, -⟩
      · rw [hready] at hended
        cases hended
      · rw [hready] at hconsumer
        cases hconsumer
  rw [← hworld]
  have hkey : settings.cursorKey = scope.key := hfollows.cursorKey
  obtain ⟨kind, hkind⟩ := hfollows.exists_kind
  obtain ⟨high, hhigh, hle⟩ := hmain
  obtain ⟨found, rfl, hcap, hseed, -⟩ := hattended.sound.filled.cursors settings.cursorKey kind
    (.inl rfl) ⟨hkind, .inl hkey⟩ high hhigh
  obtain rfl : found = max scope.seed top := by omega
  exact ⟨hattended.sound.filled, hkey ▸ hhigh⟩

end Steady

end Scope

end EventIndexer
