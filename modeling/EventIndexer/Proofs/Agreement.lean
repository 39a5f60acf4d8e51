import EventIndexer.Proofs.Resting

/-! However the work is cut, the same is stored.  A backfill in ranges of one width, one in ranges
of another that is followed by a watcher, and watchers of one kind each all leave the same rows and
the same main cursor once they have come to the same head. -/

namespace EventIndexer

variable {settings : Settings} {chain : Chain} {seed top : Nat}

/-- What an engine stores of a chain that begins above a height. -/
def Settings.scope (settings : Settings) (chain : Chain) (seed : Nat) : Scope :=
  { chain, address := settings.address, kinds := settings.events, key := settings.cursorKey, seed }

theorem Settings.follows_scope (settings : Settings) (hvalid : settings.validate = .ok ()) :
    (settings.scope chain seed).Follows settings :=
  ⟨rfl, .refl _, rfl, rfl, hvalid⟩

theorem Settings.validate_width (hvalid : settings.validate = .ok ()) {width : Nat}
    (hwidth : 0 < width) : ({ settings with maxRangeWidth := width }).validate = .ok () := by
  have hpositive := width_of_validate hvalid
  unfold validate at hvalid ⊢
  rw [if_neg (by omega)] at hvalid
  rw [if_neg (by simpa using Nat.pos_iff_ne_zero.mp hwidth)]
  exact hvalid

/-- Two stakes of the contract at the address zero, and an unstake. -/
def stakes : Chain := [Feed.stakeLog 1, Feed.stakeLog 2, Feed.unstakeLog 2]

def stakePolling : Settings := { address := 0, events := [.stake, .unstake] }

theorem separate_stakes : stakes.Separate := Chain.separate_of_places (by decide)

namespace Engine

/-- An engine with a watcher a kind and one with a single watcher, both started on an empty
database, leave the same rows and the same main cursor wherever their watchers have come to rest,
whatever heads they were told of on the way and in whatever order their tasks took their turns.
Both can come to rest. -/
theorem watcher_per_event_eq_single (hvalid : settings.validate = .ok ())
    (hmode : settings.liveMode = .poll) (hnodup : settings.events.Nodup)
    (hseparate : chain.Separate) (hseed : settings.cursorSeed < columnBound)
    (htop : top < columnBound) :
    let starts (watcherPerEvent : Bool) : Engine := start { settings with watcherPerEvent } {}
    (∀ perEvent, ∃ after, (starts perEvent).Runs (chain.Answers top) after ∧ after.Quiet top) ∧
      ∀ one many, (starts false).Runs (chain.Answers top) one → one.Quiet top →
        (starts true).Runs (chain.Answers top) many → many.Quiet top →
          many.database.events.Perm one.database.events ∧
          many.database.row settings.cursorKey = one.database.row settings.cursorKey ∧
          many.database.row settings.cursorKey =
            some ((max settings.cursorSeed top : Nat) : Int) := by
  intro starts
  let scope := settings.scope chain settings.cursorSeed
  have hbound : max scope.seed top < columnBound := by
    show max settings.cursorSeed top < columnBound
    omega
  have hfollows : ∀ per, scope.Follows { settings with watcherPerEvent := per } :=
    fun per => Settings.follows_scope { settings with watcherPerEvent := per } hvalid
  have hdistinct : ({} : Database).Distinct := List.Pairwise.nil
  have hfilling : ∀ per, scope.Filling { settings with watcherPerEvent := per } [] top {} :=
    fun _ => .first hdistinct (.inr ⟨rfl, rfl⟩) fun _ _ _ => rfl
  have hends : ∀ per after, (starts per).Runs (chain.Answers top) after → after.Quiet top →
      scope.Filled { settings with watcherPerEvent := per } [] top after.database ∧
        after.database.row settings.cursorKey =
          some ((max settings.cursorSeed top : Nat) : Int) := by
    intro per after hruns hquiet
    have hstart : Scope.Steady (hfollows per) [] hbound (starts per) := .start (hfilling per)
    exact (hstart.runs (fun _ => hnodup) hmode hruns).quiet hquiet
  refine ⟨fun per => ?_, fun one many hone hone_quiet hmany hmany_quiet => ?_⟩
  · exact runs_start (hfollows per) hbound hmode ⟨rfl, rfl⟩ (hfilling per) (.inr ⟨rfl, rfl⟩)
  · obtain ⟨hfilled, hrow⟩ := hends false one hone hone_quiet
    obtain ⟨hfilled', hrow'⟩ := hends true many hmany hmany_quiet
    refine ⟨?_, hrow'.trans hrow.symm, hrow'⟩
    exact hfilled'.perm hfilled hseparate rfl rfl ⟨_, hrow', Int.le_refl _⟩
      ⟨_, hrow, Int.le_refl _⟩

/-- The backfill is told of the head 1, and stores the first stake. -/
def fillingSteps : List Step :=
  [.perform none, .perform none, .reply (stakes.reply 1), .reply (stakes.reply 1)] ++
    List.replicate 3 (.perform none) ++ [.advance]

/-- The engine whose backfill has stored the first stake. -/
def stakeHanded (watcherPerEvent : Bool) : Engine :=
  startTracker { stakePolling with watcherPerEvent } 1
    { cursors := [("block", 1)], events := (Feed.stakeLog 1).event?.toList }

/-- The single watcher is told of the head 2. -/
def singleSteps : List Step :=
  [.perform none, .advance, .track .spawn] ++ fetch 0 (stakes.reply 2) ++ [take 0] ++
    List.replicate 3 (perform 0) ++ [.track (.consume 0 .finish)]

/-- Both watchers are told of the head 2.  The second one's cursor moves after the first has read it
for a refresh, so it is the refresh of the second that moves the main cursor. -/
def racingSteps : List Step :=
  List.replicate 4 (.perform none) ++ [.advance, .track .spawn, .track .spawn] ++
    fetch 0 (stakes.reply 2) ++ fetch 1 (stakes.reply 2) ++ [take 0] ++
    List.replicate 6 (perform 0) ++ [take 1] ++ List.replicate 3 (perform 1) ++
    List.replicate 2 (perform 0) ++ [.track (.consume 0 .finish)] ++
    List.replicate 6 (perform 1) ++ [.track (.consume 1 .finish)]

/-- Both engines start their watchers at the first block, and come to rest at the second. -/
theorem watcher_per_event_eq_single_stakes : ∃ one many,
    (∀ perEvent, (start { stakePolling with watcherPerEvent := perEvent } {}).Runs
      (stakes.Answers 2) (stakeHanded perEvent)) ∧
    (stakeHanded false).Runs (stakes.Answers 2) one ∧ one.Quiet 2 ∧
    (stakeHanded true).Runs (stakes.Answers 2) many ∧ many.Quiet 2 ∧
    many.database.events.Perm one.database.events ∧ many.database.row "block" = some 2 := by
  have hfirst := stakes.answers_reply (show 1 ≤ 2 by decide)
  have hsecond := stakes.answers_reply (Nat.le_refl 2)
  have hfilling : ∀ step ∈ fillingSteps, step.Told (stakes.Answers 2) := by
    simp [fillingSteps, Step.Told, hfirst]
  have hsingle : ∀ step ∈ singleSteps, step.Told (stakes.Answers 2) := by
    simp only [singleSteps, List.forall_mem_append, told_fetch]
    simp [take, perform, Step.Told, Tracker.Step.Told, hsecond]
  have hracing : ∀ step ∈ racingSteps, step.Told (stakes.Answers 2) := by
    simp only [racingSteps, List.forall_mem_append, told_fetch]
    simp [take, perform, Step.Told, Tracker.Step.Told, hsecond]
  have hfilled : ∀ perEvent, (start { stakePolling with watcherPerEvent := perEvent } {}).Runs
      (stakes.Answers 2) (stakeHanded perEvent) := fun perEvent => by
    cases perEvent <;> exact runs_of_foldlM hfilling rfl
  obtain ⟨one, hone, hone_quiet⟩ : ∃ one,
      (stakeHanded false).Runs (stakes.Answers 2) one ∧ one.Quiet 2 :=
    ⟨_, runs_of_foldlM hsingle (show singleSteps.foldlM step _ = _ from rfl), _, rfl, rfl,
      List.forall_mem_singleton.mpr ⟨rfl, rfl, rfl, rfl⟩⟩
  obtain ⟨many, hmany, hmany_quiet⟩ : ∃ many,
      (stakeHanded true).Runs (stakes.Answers 2) many ∧ many.Quiet 2 :=
    ⟨_, runs_of_foldlM hracing (show racingSteps.foldlM step _ = _ from rfl), _, rfl, rfl,
      List.forall_mem_cons.mpr ⟨⟨rfl, rfl, rfl, rfl⟩,
        List.forall_mem_singleton.mpr ⟨rfl, rfl, rfl, rfl⟩⟩⟩
  obtain ⟨-, hagree⟩ := @watcher_per_event_eq_single stakePolling stakes 2 rfl rfl (by decide)
    separate_stakes (by decide) (by decide)
  obtain ⟨hevents, -, hrow⟩ := hagree one many ((hfilled false).trans hone) hone_quiet
    ((hfilled true).trans hmany) hmany_quiet
  exact ⟨one, many, hfilled, hone, hone_quiet, hmany, hmany_quiet, hevents, hrow⟩

variable {database : Database} {cursor head first second third : Nat}

/-- A backfill up to a head, followed by a single watcher that comes to rest at a later one, leaves
the same rows and the same main cursor as one backfill up to the later head, whatever the widths of
their ranges are. -/
theorem backfill_then_poll_eq_backfill (hvalid : settings.validate = .ok ())
    (hmode : settings.liveMode = .poll) (hsingle : settings.watcherPerEvent = false)
    (hseparate : chain.Separate) (hfirst : 0 < first) (hsecond : 0 < second) (hthird : 0 < third)
    (hle : head ≤ top) (hcursor : cursor < columnBound) (htop : top < columnBound)
    (hwilling : database.Willing) (hdistinct : database.Distinct)
    (hstored : database.row settings.cursorKey = some (cursor : Int) ∨
      database.row settings.cursorKey = none ∧ settings.cursorSeed = cursor) :
    ∃ report between whole final,
      (Backfill.run { settings with maxRangeWidth := first }).run (chain.serve head) database =
        (.ok report, between) ∧
      (Backfill.run { settings with maxRangeWidth := third }).run (chain.serve top) database =
        (.ok whole, final) ∧
      final.row settings.cursorKey = some ((max cursor top : Nat) : Int) ∧
      let tracked := startTracker { settings with maxRangeWidth := second } report.cursor between
      (∃ after, tracked.Runs (chain.Answers top) after ∧ after.Quiet top) ∧
        ∀ after, tracked.Runs (chain.Answers top) after → after.Quiet top →
          after.database.events.Perm final.events ∧
          after.database.row settings.cursorKey = final.row settings.cursorKey := by
  let scope := settings.scope chain cursor
  let cut (width : Nat) : Settings := { settings with maxRangeWidth := width }
  have hbound : max scope.seed top < columnBound := by
    show max cursor top < columnBound
    omega
  have hfollows : ∀ width, 0 < width → scope.Follows (cut width) := fun width hwidth =>
    Settings.follows_scope (cut width) (Settings.validate_width hvalid hwidth)
  have hfilling : ∀ width, scope.Filling (cut width) database.events top database := by
    refine fun width => .first hdistinct hstored fun watcher hwatcher hne => ?_
    rcases Settings.mem_watchers hwatcher with ⟨-, rfl⟩ | ⟨hper, -⟩
    · exact absurd rfl hne
    · cases hsingle.symm.trans hper
  obtain ⟨report, between, hrun, hbetween, hbetween_willing, hreport, hrow⟩ :=
    Scope.completes_filling (hfollows first hfirst) hbound hle hwilling (hfilling first) hstored
  obtain ⟨whole, final, hrun', hfinal, -, hwhole, hrow'⟩ :=
    Scope.completes_filling (hfollows third hthird) hbound (Nat.le_refl top) hwilling
      (hfilling third) hstored
  rw [hwhole] at hrow'
  refine ⟨report, between, whole, final, hrun, hrun', hrow', ?_, fun after hruns hquiet => ?_⟩
  · refine runs_startTracker chain top hmode hsingle hsecond ?_ hbetween_willing hrow
    omega
  · have hhanded : scope.Filling (cut second) database.events top between :=
      hbetween.congr rfl rfl rfl
    have hsteady : Scope.Steady (hfollows second hsecond) database.events hbound
        (startTracker (cut second) report.cursor between) :=
      .startTracker ((Scope.fillingPlan (hfollows second hsecond) database.events hbound).handed
        between report.cursor hhanded hrow)
    have hnodup : (cut second).watcherPerEvent = true → (cut second).events.Nodup := fun hper => by
      cases hsingle.symm.trans hper
    obtain ⟨hfilled, hafter⟩ := (hsteady.runs hnodup hmode hruns).quiet hquiet
    refine ⟨?_, hafter.trans hrow'.symm⟩
    exact hfilled.perm hfinal.filled hseparate rfl rfl ⟨_, hafter, Int.le_refl _⟩
      ⟨_, hrow', Int.le_refl _⟩

theorem backfill_then_poll_eq_backfill_stakes : ∃ report between whole final after,
    (Backfill.run { stakePolling with maxRangeWidth := 1 }).run (stakes.serve 1) {} =
      (.ok report, between) ∧
    (Backfill.run { stakePolling with maxRangeWidth := 3 }).run (stakes.serve 2) {} =
      (.ok whole, final) ∧
    (startTracker { stakePolling with maxRangeWidth := 2 } report.cursor between).Runs
      (stakes.Answers 2) after ∧ after.Quiet 2 ∧
    after.database.events.Perm final.events ∧ after.database.row "block" = some 2 := by
  have hdistinct : ({} : Database).Distinct := List.Pairwise.nil
  obtain ⟨report, between, whole, final, hrun, hrun', hrow, ⟨after, hruns, hquiet⟩, hagree⟩ :=
    @backfill_then_poll_eq_backfill stakePolling stakes 2 {} 0 1 1 2 3 rfl rfl rfl separate_stakes
      (by decide) (by decide) (by decide) (by decide) (by decide) (by decide) ⟨rfl, rfl⟩ hdistinct
      (.inr ⟨rfl, rfl⟩)
  obtain ⟨hevents, hsame⟩ := hagree after hruns hquiet
  exact ⟨report, between, whole, final, after, hrun, hrun', hruns, hquiet, hevents,
    hsame.trans hrow⟩

end Engine

end EventIndexer
