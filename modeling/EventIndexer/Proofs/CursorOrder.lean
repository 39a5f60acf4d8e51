import EventIndexer.Proofs.Runs
import EventIndexer.Proofs.Undisturbed

/-! Cursors only move forward, and the shared cursor never overtakes a member.  Nothing is asked of
the node here: both follow from who moves which cursor, from the lock, and from the order in which
the cursors are seeded. -/

namespace EventIndexer

variable {settings : Settings}

namespace Database

variable {database after : Database} {events : List Event} {rows : Nat}

/-- Whether the stored heights fit their column. -/
def Fits (database : Database) : Prop :=
  ∀ key height, database.row key = some height → height < columnBound

theorem storable_fits (events : List Event) : Storable Fits events := by
  intro database after rows hfits happend key height hrow
  rw [row_of_append happend key] at hrow
  exact hfits key height hrow

theorem Fits.setCursor {key : String} {height : Nat} (h : database.Fits)
    (hset : database.setCursor key height = (.ok (), after)) : after.Fits := by
  intro other found hfound
  obtain ⟨hbound, -, hrow, hother⟩ := setCursor_ok hset
  by_cases hkey : other = key
  · subst hkey
    rw [hrow] at hfound
    cases hfound
    omega
  · rw [hother other hkey] at hfound
    exact h other found hfound

theorem allows_fits (key : String) (height : Nat) (database : Database) :
    Allows Fits key height database :=
  fun _ _ _ hfits _ hset => hfits.setCursor hset

/-- Whether the main cursor is at a height that the cursor of every kind has reached. -/
def Trails (settings : Settings) (database : Database) : Prop :=
  ∃ low : Int, database.row settings.cursorKey = some low ∧ ∀ kind ∈ settings.events,
    ∃ high, database.row (watcherKey settings.cursorKey kind) = some high ∧ low ≤ high

def AtMost (settings : Settings) (handoff : Nat) (database : Database) : Prop :=
  ∃ low : Int, database.row settings.cursorKey = some low ∧ low ≤ handoff

end Database

namespace Settings

theorem key_ne_of_perEvent (hper : settings.watcherPerEvent = true) {watcher : Watcher}
    (hwatcher : watcher ∈ settings.watchers) : watcher.key ≠ settings.cursorKey := by
  rcases mem_watchers hwatcher with ⟨hnot, -⟩ | ⟨-, kind, -, rfl⟩
  · rw [hper] at hnot
    cases hnot
  · exact watcherKey_ne _ _

/-- What holds while the watchers' cursors are brought up to a height. -/
def Lifting (settings : Settings) (handoff : Nat) (database : Database) : Prop :=
  settings.watcherPerEvent = true → database.AtMost settings handoff

/-- What holds once they are. -/
def Ordered (settings : Settings) (database : Database) : Prop :=
  settings.watcherPerEvent = true → database.Trails settings

theorem allows_lifting {watcher : Watcher} (hwatcher : watcher ∈ settings.watchers)
    (handoff height : Nat) (database : Database) :
    Allows (settings.Lifting handoff) watcher.key height database := by
  intro later after _ hlifting _ hset hper
  obtain ⟨low, hrow, hle⟩ := hlifting hper
  obtain ⟨-, -, -, hother⟩ := Database.setCursor_ok hset
  refine ⟨low, ?_, hle⟩
  rw [hother _ (key_ne_of_perEvent hper hwatcher).symm, hrow]

theorem storable_ordered (events : List Event) : Storable settings.Ordered events := by
  intro database after rows hordered happend hper
  obtain ⟨low, hlow, hmembers⟩ := hordered hper
  refine ⟨low, (Database.row_of_append happend _).trans hlow, fun kind hkind => ?_⟩
  obtain ⟨high, hhigh, hle⟩ := hmembers kind hkind
  exact ⟨high, (Database.row_of_append happend _).trans hhigh, hle⟩

theorem allows_ordered {watcher : Watcher} (hwatcher : watcher ∈ settings.watchers) (height : Nat)
    (database : Database) : Allows settings.Ordered watcher.key height database := by
  intro later after _ hordered hbelow hset hper
  obtain ⟨low, hlow, hmembers⟩ := hordered hper
  have hgrows : later.Grows after := Database.grows_of_setCursor hset hbelow
  obtain ⟨-, -, -, hother⟩ := Database.setCursor_ok hset
  refine ⟨low, ?_, fun kind hkind => ?_⟩
  · rw [hother _ (key_ne_of_perEvent hper hwatcher).symm, hlow]
  · obtain ⟨high, hhigh, hle⟩ := hmembers kind hkind
    obtain ⟨higher, hhigher, hle'⟩ := hgrows.rows _ high hhigh
    exact ⟨higher, hhigher, Int.le_trans hle hle'⟩

/-- Every message may be delivered, as far as the order of cursors goes. -/
theorem deliverable_ordered {watcher : Watcher} (hwatcher : watcher ∈ settings.watchers)
    (known : List Event) (message : Message) :
    Deliverable settings.Ordered watcher.key known message := by
  induction message generalizing known with
  | nil => trivial
  | cons work rest ih =>
    exact ⟨storable_ordered _, fun height _ database _ => allows_ordered hwatcher height database,
      ih _⟩

/-- The main cursor may follow its members. -/
theorem allowed_ordered {watcher : Watcher} (hwatcher : watcher ∈ settings.watchers) :
    ∀ watermark ∈ watcher.watermark, watermark.Allowed settings.Ordered := by
  intro watermark hwatermark database height hreached later after hgrows _ _ hset _
  rcases mem_watchers hwatcher with ⟨-, rfl⟩ | ⟨-, kind, -, rfl⟩
  · cases hwatermark
  · cases hwatermark
    obtain ⟨-, -, hrow, hother⟩ := Database.setCursor_ok hset
    refine ⟨height, hrow, fun kind hkind => ?_⟩
    obtain ⟨high, hhigh, hle⟩ := hgrows.reaches (hreached _ (List.mem_map_of_mem hkind))
    exact ⟨high, (hother _ (watcherKey_ne _ _)).trans hhigh, hle⟩

end Settings

namespace Engine

variable {database : Database}

/-- The plan of cursors that fit their column, whatever the node replies. -/
def cursorPlan (settings : Settings) : Plan settings where
  filling := Database.Fits
  seeding := settings.Lifting
  node := fun _ _ => True
  fillable :=
    { bounded := fun _ hfits _ hrow => hfits _ _ hrow
      seeded := fun _ _ _ => Database.allows_fits _ _ _
      storable := fun _ _ _ _ _ _ _ _ _ _ => Database.storable_fits _
      allowed := fun _ _ _ _ _ _ _ _ _ _ _ _ => Database.allows_fits _ _ _ }
  handed := fun _ cursor _ hrow _ => ⟨cursor, hrow, Int.le_refl _⟩
  seedable := fun _ hwatcher handoff database _ =>
    Settings.allows_lifting hwatcher handoff handoff database

/-- What the consumer of a watcher keeps to, as far as cursors go. -/
def Tends (settings : Settings) (index : Nat) (tasks : WatcherTasks) (world : World) : Prop :=
  ∃ promise, tasks.Attends settings.Ordered index promise world

/-- What is known of an engine at every moment. -/
structure Orderly (settings : Settings) (engine : Engine) : Prop where
  same : engine.settings = settings
  plan : (cursorPlan settings).Kept engine
  tracker : ∀ tracker, engine.stage = .tracking tracker → ∃ world : World,
    world.database = engine.database ∧
      tracker.Attended settings settings.Ordered (fun _ _ _ => True) (Tends settings) world

theorem Tends.moves {index : Nat} {tasks moved : WatcherTasks} {world later : World}
    {step : Tracker.Step} (h : Tends settings index tasks world)
    (hwatcher : settings.watchers[index]? = some tasks.watcher)
    (hmove : tasks.Moves settings index world step moved later) :
    (Actor.ofWatcher index tasks.watcher).Own settings.Ordered world later ∧
      Tends settings index moved later := by
  obtain ⟨promise, hattends⟩ := h
  have hmem : tasks.watcher ∈ settings.watchers := List.mem_of_getElem? hwatcher
  cases hmove with
  | opened reply =>
    refine ⟨.refl _, promise, hattends.congr ?_ ?_⟩
    all_goals
      unfold Tracker.afterOpening
      split <;> rfl
  | call | reply | handOver | send | leave | join =>
    exact ⟨.refl _, promise, hattends.congr rfl rfl⟩
  | @take message rest hready hqueue =>
    have hknown : ∀ event ∈ ([] : List Event), world.database.Holds event :=
      fun _ h => absurd h List.not_mem_nil
    exact ⟨.refl _, _, WatcherTasks.Attends.take (hattends.free hready) hknown
      (Settings.deliverable_ordered hmem [] message) (Settings.allowed_ordered hmem) rfl rfl⟩
  | perform hconsumer hreplied =>
    obtain ⟨hown, hnext⟩ := hattends.perform hconsumer hreplied
    exact ⟨hown, promise, hnext⟩
  | finish hconsumer => exact ⟨.refl _, [], .of_ready rfl (hattends.finish hconsumer).1⟩
  | quit => exact ⟨.refl _, [], trivial⟩

theorem ordered_of_seeded {engine : Engine} (h : (cursorPlan settings).Kept engine)
    {starts : List (Watcher × Nat)} (hstage : engine.stage = .seeding (.done (.ok starts))) :
    settings.Ordered engine.database := by
  intro hper
  obtain ⟨handoff, hlifting, hwatchers, hstarts⟩ := Plan.seeded h hstage
  obtain ⟨low, hlow, hle⟩ := hlifting hper
  refine ⟨low, hlow, fun kind hkind => ?_⟩
  obtain ⟨watcher, hwatcher, hkey⟩ := Settings.exists_watcher hper hkind
  rw [← hwatchers] at hwatcher
  obtain ⟨start, hstart, rfl⟩ := List.mem_map.mp hwatcher
  obtain ⟨hhandoff, high, hhigh, hreached⟩ := hstarts start hstart
  rw [hkey] at hhigh
  exact ⟨high, hhigh, by omega⟩

theorem Orderly.start (hfits : database.Fits) : Orderly settings (start settings database) :=
  ⟨rfl, Plan.kept_start hfits, fun _ hstage => nomatch hstage⟩

theorem Orderly.step {engine after : Engine} {step : Step} (h : Orderly settings engine)
    (hnodup : settings.watcherPerEvent = true → settings.events.Nodup)
    (hstep : engine.step step = some after) :
    engine.database.Grows after.database ∧ Orderly settings after := by
  have hmove := moves_of_step hstep
  have hsame := hmove.settings.trans h.same
  -- Before the tracker starts the plan is kept; from then on, the tracker's own invariant.
  by_cases htracker : ∃ tracker, engine.stage = .tracking tracker
  · obtain ⟨tracker, hstage⟩ := htracker
    obtain ⟨world, hworld, hattended⟩ := h.tracker tracker hstage
    rcases hmove.of_tracking hstage with
      ⟨-, rfl⟩ | ⟨result, -, rfl⟩ | ⟨move, database, next, -, htrack, rfl⟩
    · exact ⟨.refl _, hsame, h.plan, h.tracker⟩
    · exact ⟨.refl _, hsame, trivial, fun tracker hstage => nomatch hstage⟩
    · rw [h.same, ← hworld] at htrack
      obtain ⟨later, hlater, hgrows, hnext⟩ := hattended.step htrack
        (Settings.watchers_apart hnodup) (fun _ _ _ _ _ h => h)
        (fun _ _ _ _ hfree => ⟨[], .of_ready rfl hfree⟩)
        (fun i tasks moved later hwatcher _ _ htends hmoves => htends.moves hwatcher hmoves)
        fun i tasks later _ _ htends hothers => ⟨_, htends.choose_spec.of_others hothers⟩
      rw [hworld, hlater] at hgrows
      refine ⟨hgrows, hsame, trivial, fun tracker hstage => ?_⟩
      cases hstage
      exact ⟨later, hlater, hnext⟩
  · have hnot : ∀ tracker, engine.stage ≠ .tracking tracker := fun tracker hstage =>
      htracker ⟨tracker, hstage⟩
    obtain ⟨hgrows, hplan⟩ := Plan.step h.plan h.same hmove (fun _ _ _ _ _ => trivial) hnot
    refine ⟨hgrows, hsame, hplan, fun tracker hstage => ?_⟩
    obtain ⟨starts, hseeded, rfl, hdatabase⟩ := hmove.to_tracking hnot hstage
    obtain ⟨handoff, hlifting, hwatchers, hstarts⟩ := Plan.seeded h.plan hseeded
    rw [hdatabase]
    exact ⟨{ database := engine.database }, rfl,
      .start (ordered_of_seeded h.plan hseeded) hwatchers fun _ _ => trivial⟩

theorem Orderly.becomes {engine after : Engine} (h : Orderly settings engine)
    (hnodup : settings.watcherPerEvent = true → settings.events.Nodup)
    (hbecomes : engine.Becomes after) :
    Orderly settings after := by
  induction hbecomes with
  | refl => exact h
  | step _ _ hstep ih => exact (ih.step hnodup hstep).2

/-- Whether the watchers' cursors are seeded, and the main cursor has stayed below them. -/
def Seeded (settings : Settings) (engine : Engine) : Prop :=
  match engine.stage with
  | .backfilling _ => False
  | .seeding (.done (.ok _)) | .tracking _ => True
  | .seeding _ => False
  | .ended _ => settings.Ordered engine.database

theorem Seeded.ordered {engine : Engine} (h : Seeded settings engine)
    (horderly : Orderly settings engine) : settings.Ordered engine.database := by
  unfold Seeded at h
  split at h
  · cases h
  · next hstage => exact ordered_of_seeded horderly.plan hstage
  · next tracker hstage =>
    obtain ⟨world, hworld, hattended⟩ := horderly.tracker tracker hstage
    exact hworld ▸ hattended.sound
  · cases h
  · exact h

theorem Seeded.step {engine after : Engine} {step : Step} (h : Seeded settings engine)
    (horderly : Orderly settings engine) (hstep : engine.step step = some after) :
    Seeded settings after := by
  have hordered := h.ordered horderly
  cases moves_of_step hstep with
  | cancel => exact h
  | seeded | track => trivial
  | tracked => exact hordered
  | broken => exact hordered
  | told hstage | filled hstage | backfilled hstage | seeding hstage =>
    unfold Seeded at h
    rw [hstage] at h
    cases h

/-- No step of an engine lowers a cursor, whatever the node replies and in whatever order the tasks
of the watchers take their requests.  With a watcher a kind, the main cursor is at or below every
watcher's cursor from the moment on at which these are seeded, also once the engine has ended. -/
theorem cursors_only_advance (hnodup : settings.events.Nodup) (hfits : database.Fits) :
    (∀ before after step, (start settings database).Becomes before →
      before.step step = some after → ∀ key low, before.database.row key = some low →
        ∃ high, after.database.row key = some high ∧ low ≤ high) ∧
    (settings.watcherPerEvent = true → ∀ seeded starts later,
      (start settings database).Becomes seeded → seeded.stage = .seeding (.done (.ok starts)) →
        seeded.Becomes later → later.database.Trails settings) := by
  have hstart : Orderly settings (start settings database) := .start hfits
  refine ⟨fun before after step hbefore hstep => ?_,
    fun hper seeded starts later hseeded hstage hlater => ?_⟩
  · have horderly := hstart.becomes (fun _ => hnodup) hbefore
    exact (horderly.step (fun _ => hnodup) hstep).1.rows
  · have horderly := hstart.becomes (fun _ => hnodup) hseeded
    have hinitial : Seeded settings seeded := by
      unfold Seeded
      rw [hstage]
      trivial
    -- The order lasts beyond the tracker, so it is carried along with what is known of it.
    have hboth : Orderly settings later ∧ Seeded settings later := by
      induction hlater with
      | refl => exact ⟨horderly, hinitial⟩
      | step _ _ hstep ih => exact ⟨(ih.1.step (fun _ => hnodup) hstep).2, ih.2.step ih.1 hstep⟩
    exact hboth.2.ordered hboth.1 hper

/-- Two watchers that begin at the third block. -/
def stakeWatchers : Settings :=
  { address := 0, events := [.stake, .unstake], cursorSeed := 3, watcherPerEvent := true }

/-- The cursors of both watchers are brought up to the third block. -/
def seedingSteps : List Step :=
  [.perform none, .perform none, .reply (Chain.reply [] 3), .advance] ++
    List.replicate 4 (.perform none)

def stakesSeeded : Engine :=
  { settings := stakeWatchers
    database := { cursors := [("block", 3), ("block:Stake", 3), ("block:Unstake", 3)] }
    stage := .seeding (.done (.ok (stakeWatchers.watchers.map (·, 3)))) }

/-- Both watchers are told of the head 5.  The second one's checkpoint comes after the first has
read its cursor for a refresh, which therefore leaves the main cursor where it is; the refresh of
the second is about to write it. -/
def refreshingSteps : List Step :=
  [.advance, .track .spawn, .track .spawn] ++ fetch 0 (Chain.reply [] 5) ++
    fetch 1 (Chain.reply [] 5) ++ take 0 :: List.replicate 5 (perform 0) ++
    take 1 :: List.replicate 2 (perform 1) ++ List.replicate 2 (perform 0) ++
    List.replicate 4 (perform 1)

/-- The second refresh moves the main cursor up to both watchers. -/
theorem cursors_only_advance_stakes : ({} : Database).Fits ∧ stakeWatchers.events.Nodup ∧
    (start stakeWatchers {}).Becomes stakesSeeded ∧ ∃ before after,
      stakesSeeded.Becomes before ∧
      before.step (perform 1) = some after ∧ before.database.row "block" = some 3 ∧
      before.database.row "block:Stake" = some 5 ∧ before.database.row "block:Unstake" = some 5 ∧
      before.database.Trails stakeWatchers ∧
      (∀ key low, before.database.row key = some low →
        ∃ high, after.database.row key = some high ∧ low ≤ high) ∧
      after.database.row "block" = some 5 ∧ after.database.Trails stakeWatchers := by
  have hfits : ({} : Database).Fits := fun _ _ h => nomatch h
  have hnodup : stakeWatchers.events.Nodup := by decide
  have hseeded : (start stakeWatchers {}).Becomes stakesSeeded :=
    becomes_of_foldlM (show seedingSteps.foldlM Engine.step _ = _ from rfl)
  have hbefore : stakesSeeded.Becomes _ :=
    becomes_of_foldlM (show refreshingSteps.foldlM Engine.step _ = _ from rfl)
  obtain ⟨hadvance, htrails⟩ := cursors_only_advance hnodup hfits
  have hafter := hbefore.step (perform 1) rfl
  exact ⟨hfits, hnodup, hseeded, _, _, hbefore, rfl, rfl, rfl, rfl,
    htrails rfl _ _ _ hseeded rfl hbefore,
    hadvance _ _ (perform 1) (hseeded.trans hbefore) rfl, rfl,
    htrails rfl _ _ _ hseeded rfl hafter⟩

end Engine

end EventIndexer
