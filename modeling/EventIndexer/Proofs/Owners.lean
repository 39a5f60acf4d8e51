import EventIndexer.Proofs.CursorOrder
import EventIndexer.Proofs.Undisturbed
import Mathlib.Data.List.Nodup

/-! Which watcher moves which cursor.  The watchers of a configuration share no cursor and no kind
exactly when no kind is followed twice.  Then each cursor of a watcher is moved by one consumer
only, as a checkpoint needs that reads a height before it writes one; where a kind is followed
twice, two consumers share a cursor, and it can move back. -/

namespace EventIndexer

namespace Settings

variable (settings : Settings)

/-- Whether no kind has two watchers. -/
def KindsApart : Prop := settings.watcherPerEvent = true → settings.events.Nodup

theorem keys_of_perEvent (hper : settings.watcherPerEvent = true) :
    settings.watchers.map (·.key) = settings.events.map (watcherKey settings.cursorKey) := by
  unfold watchers
  rw [if_pos hper, List.map_map]
  rfl

theorem nodup_keys_iff : (settings.watchers.map (·.key)).Nodup ↔ settings.KindsApart := by
  unfold KindsApart
  cases hper : settings.watcherPerEvent with
  | false => simp [watchers, hper]
  | true =>
    rw [settings.keys_of_perEvent hper]
    have hinjective : Function.Injective (watcherKey settings.cursorKey) :=
      fun _ _ => watcherKey_injective
    exact (List.nodup_map_iff hinjective).trans (by simp)

theorem disjoint_kinds_iff :
    settings.watchers.Pairwise (fun a b => a.kinds.Disjoint b.kinds) ↔ settings.KindsApart := by
  unfold watchers KindsApart
  cases settings.watcherPerEvent with
  | false => simp
  | true =>
    have hsingletons : ∀ a b : Kind, [a].Disjoint [b] ↔ a ≠ b := by simp [eq_comm]
    rw [if_pos rfl, List.pairwise_map]
    simp only [hsingletons, List.Nodup, forall_const]

theorem flatMap_kinds : settings.watchers.flatMap (·.kinds) = settings.events := by
  unfold watchers
  cases settings.watcherPerEvent with
  | false => simp
  | true => simp [List.flatMap_map]

/-- Watchers of single kinds share the main cursor, which is the own one of none of them. -/
theorem watermark_of_perEvent (hper : settings.watcherPerEvent = true) {watcher : Watcher}
    (hwatcher : watcher ∈ settings.watchers) :
    watcher.key ≠ settings.cursorKey ∧ watcher.watermark = some
      { shared := settings.cursorKey, members := settings.watchers.map (·.key) } := by
  refine ⟨key_ne_of_perEvent hper hwatcher, ?_⟩
  rw [settings.keys_of_perEvent hper]
  rcases mem_watchers hwatcher with ⟨hnot, -⟩ | ⟨-, kind, -, rfl⟩
  · rw [hper] at hnot
    cases hnot
  · rfl

end Settings

variable {settings : Settings}

/-- A step of a tracker that changes the cursor of a watcher is one of the watcher's consumer. -/
theorem Tracker.consume_of_row_ne {tracker after : Tracker} {world : World} {database : Database}
    {cancelled : Bool} {step : Tracker.Step} {begins : Watcher → Nat → Database → Prop}
    (hattended : tracker.Attended settings settings.Ordered begins (Engine.Tends settings) world)
    (happart : settings.KindsApart)
    (hstep : tracker.step settings cancelled world.database step = some (database, after))
    {i : Nat} {watcher : Watcher} (hwatcher : settings.watchers[i]? = some watcher)
    (hrow : database.row watcher.key ≠ world.database.row watcher.key) :
    ∃ move tasks, step = .consume i move ∧ tracker.tasks[i]? = some tasks ∧
      tasks.watcher = watcher := by
  rcases Tracker.step_cases hattended.last hattended.lock hstep with
    ⟨-, rfl, -⟩ | ⟨j, tasks, moved, later, -, htasks, hmoves, rfl, -⟩
  · exact absurd rfl hrow
  · have hother := hattended.watcher htasks
    have hown := (Engine.Tends.moves (hattended.tasks j tasks htasks) hother hmoves).1
    have howns : (Actor.ofWatcher j tasks.watcher).Owns world watcher.key := by
      by_contra hnot
      exact hrow (hown.rows watcher.key hnot)
    -- The shared cursor is no watcher's own, so the row is the mover's own.
    have hkey : watcher.key = tasks.watcher.key := by
      rcases howns with hmem | ⟨-, hshared⟩
      · exact List.mem_singleton.mp hmem
      · exact absurd hshared (Settings.shared_ne_key (List.mem_of_getElem? hother)
          (List.mem_of_getElem? hwatcher))
    have hsame : j = i := by
      by_contra hne
      refine (Settings.watchers_apart happart j i _ _ hother hwatcher hne).keys _
        List.mem_cons_self ?_
      rw [← hkey]
      exact List.mem_cons_self
    subst hsame
    rw [hother] at hwatcher
    cases hmoves with
    | perform => exact ⟨_, tasks, rfl, htasks, Option.some.inj hwatcher⟩
    | _ => exact absurd rfl hrow

namespace Engine

/-- While an engine tracks, a watcher's cursor is moved by the watcher's consumer, and up. -/
theorem raised_by_consumer {database : Database} (hfits : database.Fits)
    (happart : settings.KindsApart) {before after : Engine} {step : Step} {tracker : Tracker}
    (hbefore : (start settings database).Becomes before) (hstage : before.stage = .tracking tracker)
    (hstep : before.step step = some after) {i : Nat} {watcher : Watcher}
    (hwatcher : settings.watchers[i]? = some watcher)
    (hrow : after.database.row watcher.key ≠ before.database.row watcher.key) :
    (∃ move tasks, step = .track (.consume i move) ∧ tracker.tasks[i]? = some tasks ∧
        tasks.watcher = watcher) ∧
      ∀ low, before.database.row watcher.key = some low →
        ∃ high, after.database.row watcher.key = some high ∧ low < high := by
  have horderly : Orderly settings before := (Orderly.start hfits).becomes happart hbefore
  refine ⟨?_, fun low hlow => ?_⟩
  · obtain ⟨world, hworld, hattended⟩ := horderly.tracker tracker hstage
    rcases (moves_of_step hstep).of_tracking hstage with
      ⟨-, rfl⟩ | ⟨result, -, rfl⟩ | ⟨move, database, next, rfl, htrack, rfl⟩
    · exact absurd rfl hrow
    · exact absurd rfl hrow
    · rw [horderly.same, ← hworld] at htrack
      rw [← hworld] at hrow
      obtain ⟨move, tasks, rfl, htasks⟩ :=
        Tracker.consume_of_row_ne hattended happart htrack hwatcher hrow
      exact ⟨move, tasks, rfl, htasks⟩
  · obtain ⟨high, hhigh, hle⟩ := (horderly.step happart hstep).1.rows _ low hlow
    refine ⟨high, hhigh, Int.lt_iff_le_and_ne.mpr ⟨hle, fun hsame => hrow ?_⟩⟩
    rw [hhigh, hlow, hsame]

/-- Watchers share no cursor and no kind exactly when no kind is followed by two of them, and
together they follow the kinds of the configuration.  The main cursor is not one of a watcher of a
single kind; all of these hold one watermark, from their cursors to the main one.  Where no kind is
followed twice, the cursor of a watcher is moved by the watcher's own consumer only, and up. -/
theorem watchers_own_cursors (settings : Settings) :
    ((settings.watchers.map (·.key)).Nodup ↔ settings.KindsApart) ∧
    (settings.watchers.Pairwise (fun a b => a.kinds.Disjoint b.kinds) ↔ settings.KindsApart) ∧
    settings.watchers.flatMap (·.kinds) = settings.events ∧
    (settings.watcherPerEvent = true → ∀ watcher ∈ settings.watchers,
      watcher.key ≠ settings.cursorKey ∧ watcher.watermark = some
        { shared := settings.cursorKey, members := settings.watchers.map (·.key) }) ∧
    ∀ database : Database, database.Fits → settings.KindsApart → ∀ before after step tracker,
      (start settings database).Becomes before → before.stage = .tracking tracker →
      before.step step = some after → ∀ i watcher, settings.watchers[i]? = some watcher →
        after.database.row watcher.key ≠ before.database.row watcher.key →
          (∃ move tasks, step = .track (.consume i move) ∧ tracker.tasks[i]? = some tasks ∧
            tasks.watcher = watcher) ∧
          ∀ low, before.database.row watcher.key = some low →
            ∃ high, after.database.row watcher.key = some high ∧ low < high :=
  ⟨settings.nodup_keys_iff, settings.disjoint_kinds_iff, settings.flatMap_kinds,
    fun hper _ hwatcher => settings.watermark_of_perEvent hper hwatcher,
    fun _ hfits happart _ _ _ _ hbefore hstage hstep _ _ hwatcher hrow =>
      raised_by_consumer hfits happart hbefore hstage hstep hwatcher hrow⟩

/-- A stake and an unstake watcher, begun on an empty database at the head 0, and told of the head
2. -/
def unstakeSteps : List Step :=
  [.perform none, .perform none, .reply (Chain.reply [] 0), .advance] ++
    List.replicate 4 (.perform none) ++ [.advance, .track .spawn, .track .spawn] ++
    fetch 1 (Chain.reply [] 2) ++ [take 1, perform 1]

def unstakeSettings : Settings :=
  { address := 0, events := [.stake, .unstake], watcherPerEvent := true }

theorem watchers_own_cursors_unstake :
    ({} : Database).Fits ∧ unstakeSettings.KindsApart ∧ ∃ before after tracker watcher,
      (start unstakeSettings {}).Becomes before ∧ before.stage = .tracking tracker ∧
      before.step (perform 1) = some after ∧ unstakeSettings.watchers[1]? = some watcher ∧
      ∃ high, after.database.row watcher.key = some high ∧ 0 < high := by
  have hfits : ({} : Database).Fits := fun _ _ h => nomatch h
  have happart : unstakeSettings.KindsApart := fun _ => by decide
  have hbefore : (start unstakeSettings {}).Becomes _ :=
    becomes_of_foldlM (show unstakeSteps.foldlM Engine.step _ = _ from rfl)
  have howns := (watchers_own_cursors unstakeSettings).2.2.2.2 {} hfits happart _ _ (perform 1) _
    hbefore rfl rfl 1 _ rfl (by decide)
  exact ⟨hfits, happart, _, _, _, _, hbefore, rfl, rfl, rfl, howns.2 0 rfl⟩

/-- One kind, followed twice. -/
def twinSettings : Settings :=
  { address := 0, events := [.stake, .stake], watcherPerEvent := true }

/-- The twins are told of the heads 1 and 2.  The first reads the cursor, and the second goes
through with its checkpoint before the first writes. -/
def twinSteps : List Step :=
  [.perform none, .perform none, .reply (Chain.reply [] 0), .advance] ++
    List.replicate 3 (.perform none) ++ [.advance, .track .spawn, .track .spawn] ++
    fetch 0 (Chain.reply [] 1) ++ fetch 1 (Chain.reply [] 2) ++
    [take 0, perform 0, take 1, perform 1, perform 1]

/-- A configuration that follows a kind twice passes the check.  Its two watchers have one cursor,
and this can move back. -/
theorem twins_move_cursor_back : twinSettings.validate = .ok () ∧
    twinSettings.watchers.map (·.key) = ["block:Stake", "block:Stake"] ∧
    ∃ before after, (start twinSettings {}).Becomes before ∧
      before.step (perform 0) = some after ∧ before.database.row "block:Stake" = some 2 ∧
      after.database.row "block:Stake" = some 1 := by
  have hbefore : (start twinSettings {}).Becomes _ :=
    becomes_of_foldlM (show twinSteps.foldlM Engine.step _ = _ from rfl)
  exact ⟨rfl, by decide, _, _, hbefore, rfl, rfl, rfl⟩

end Engine

end EventIndexer
