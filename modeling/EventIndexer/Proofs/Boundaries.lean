import EventIndexer.Proofs.Faults
import EventIndexer.Proofs.Tiling

/-! The batches of a backfill.  Range after range is asked for, stored and recorded, and whatever
fails ends the backfill there: the cursor stays at the end of the last range that was recorded, and
no row of a range is seen unless all of it was stored.  Where nothing fails, the ranges fill the gap
between the cursor and the head. -/

namespace EventIndexer

theorem decodeAll_skipped (logs : List Log) :
    (decodeAll logs).2 = logs.countP (·.event?.isNone) := by
  induction logs with
  | nil => rfl
  | cons log rest ih =>
    rw [decodeAll, List.countP_cons, ← ih]
    cases log.event? <;> rfl

namespace Backfill

/-- What a backfill does with a range, in this order. -/
inductive Stage
  | query
  | append
  | record
  deriving DecidableEq, Repr

namespace Stage

def rank : Stage → Nat
  | query => 0
  | append => 1
  | record => 2

/-- What a backfill says of a failure of a range, before what the failure says of itself. -/
def contexts (first last : Nat) : Stage → List String
  | query => [s!"Backfill failed to query blocks [{first}, {last}]"]
  | append => [s!"Backfill failed to persist blocks [{first}, {last}]"]
  | record => []

def report (first last : Nat) (stage : Stage) (failure : Failure) : Failure :=
  { failure with contexts := stage.contexts first last ++ failure.contexts }

/-- How many ranges are stored once a stage of a range has failed. -/
def stored (k : Nat) : Stage → Nat
  | query => k
  | append => k
  | record => k + 1

end Stage

/-- A backfill that runs alone on a database, from a cursor on. -/
structure Job where
  settings : Settings
  around : Surroundings
  database : Database
  cursor : Nat

/-- The limit of a sweep is never what ends it, once there is room for every block. -/
theorem sweep_limit {settings : Settings} {head : Nat} (hmax : head ≤ maxHeight) (limit more : Nat)
    {next : Nat} (hroom : head < next + limit) (report : Report) :
    sweep settings head (limit + more) next report = sweep settings head limit next report := by
  induction limit generalizing next report with
  | zero =>
    have hnone : batchRange next head settings.maxRangeWidth = none :=
      batchRange_eq_none.mpr (.inr hroom)
    cases more with
    | zero => rfl
    | succ more => simp only [sweep, hnone]
  | succ limit ih =>
    rw [Nat.succ_add, sweep, sweep]
    cases hrange : batchRange next head settings.maxRangeWidth with
    | none => rfl
    | some range =>
      obtain ⟨first, last⟩ := range
      obtain ⟨-, hle, -, -⟩ := batchRange_bounds hmax hrange
      dsimp only
      refine congrArg (_ >>= ·) (funext fun counts => ?_)
      rw [ih (by omega)]

namespace Job

section

variable (job : Job)

def key : String := job.settings.cursorKey

/-- The height at which so many of the first ranges end. -/
def boundary (count : Nat) : Nat :=
  rangeEnd job.cursor job.around.head job.settings.maxRangeWidth count

def filterAt (i : Nat) : ChunkFilter :=
  { address := job.settings.address
    kinds := job.settings.events
    first := job.boundary i + 1
    last := job.boundary (i + 1) }

def logsAt (i : Nat) : List Log := job.around.logs (job.filterAt i)

def eventsAt (i : Nat) : List Event := (job.logsAt i).filterMap Log.event?

/-- The logs of so many of the first ranges. -/
def logsBefore (count : Nat) : List Log := (List.range count).flatMap job.logsAt

def eventsBefore (count : Nat) : List Event := (job.logsBefore count).filterMap Log.event?

/-- Why a stage of a range fails, if it does. -/
def failure? (i : Nat) : Stage → Option Failure
  | .query => job.around.fault (i + 1) (.chunk (job.filterAt i))
  | .append =>
    if (job.eventsAt i).isEmpty then none
    else job.around.fault (i + 1) (.storeBatch (job.eventsAt i)) <|>
      Database.batchRefusal? (job.around.broken (i + 1)) job.database.triggers 0 (job.eventsAt i)
  | .record =>
    job.around.fault (i + 1) (.readCursor job.key) <|>
      job.around.fault (i + 1) (.writeCursor job.key (job.boundary (i + 1))) <|>
        Database.cursorRefusal? job.database.triggers job.key (job.boundary (i + 1))

/-- What is reported after so many ranges. -/
def reportAt (count : Nat) : Report :=
  { batches := count
    persisted := (job.eventsBefore count).length
    skipped := (job.logsBefore count).countP (·.event?.isNone)
    cursor := job.boundary count
    head := job.around.head }

/-- Whether the first range is come to, with the cursor loaded or seeded. -/
structure Loads : Prop where
  valid : job.settings.validate = .ok ()
  opened : job.database.closed = false
  untroubled : ∀ request, job.around.fault 0 request = none
  stored : job.database.row job.key = some (job.cursor : Int) ∨
    job.database.row job.key = none ∧ job.settings.cursorSeed = job.cursor ∧
      Database.cursorRefusal? job.database.triggers job.key job.cursor = none

/-- How far the job has come: how many ranges were asked for, how many were stored, and at which
height the cursor is. -/
structure Stands (asked stored height : Nat) (scene : Scene) : Prop where
  asked : scene.asked = (List.range asked).map job.filterAt
  rows : scene.database.events = keepAll job.database.events (job.eventsBefore stored)
  cursor : scene.database.row job.key = some (height : Int)
  others : ∀ key, key ≠ job.key → scene.database.row key = job.database.row key
  triggers : scene.database.triggers = job.database.triggers
  opened : scene.database.closed = false

end

variable {job : Job} {asked stored height k : Nat} {scene : Scene} {failure : Failure}

theorem logsBefore_succ (k : Nat) :
    job.logsBefore (k + 1) = job.logsBefore k ++ job.logsAt k := by
  simp [logsBefore, List.range_succ]

theorem eventsBefore_succ (k : Nat) :
    job.eventsBefore (k + 1) = job.eventsBefore k ++ job.eventsAt k := by
  rw [eventsBefore, logsBefore_succ, List.filterMap_append]
  rfl

/-- The cursor is not set to a height that its column does not hold. -/
theorem record_fails_of_le {i : Nat} (h : columnBound ≤ job.boundary (i + 1)) :
    ∃ failure, job.failure? i .record = some failure := by
  refine Option.isSome_iff_exists.mp ?_
  simp [failure?, Database.cursorRefusal?, h]

/-! ### The stages of a range -/

/-- The events of a range are stored, if it has any. -/
def storing (first last : Nat) (events : List Event) : Routine Unit := do
  unless events.isEmpty do
    (Routine.request (.storeBatch events)).within
      s!"Backfill failed to persist blocks [{first}, {last}]"

/-- The routine of one range. -/
def batchAt (job : Job) (k : Nat) : Routine (Nat × Nat) :=
  batch job.settings (job.boundary k + 1) (job.boundary (k + 1))

theorem batchAt_eq (k : Nat) : job.batchAt k =
    (Routine.request (.chunk (job.filterAt k))).within
      s!"Backfill failed to query blocks [{job.boundary k + 1}, {job.boundary (k + 1)}]" >>=
        fun logs =>
          storing (job.boundary k + 1) (job.boundary (k + 1)) (decodeAll logs).1 >>= fun _ =>
            Cursor.checkpoint job.key (job.boundary (k + 1)) >>= fun _ =>
              pure ((decodeAll logs).1.length, (decodeAll logs).2) := by
  unfold batchAt batch storing
  refine congrArg (_ >>= ·) (funext fun logs => ?_)
  obtain ⟨events, skipped⟩ := decodeAll logs
  cases events <;> rfl

namespace Stands

theorem length_asked (h : job.Stands asked stored height scene) : scene.asked.length = asked := by
  simp [h.asked]

theorem ask (h : job.Stands k stored height scene) :
    job.Stands (k + 1) stored height
      { scene with asked := scene.asked ++ [job.filterAt k] } := by
  refine ⟨?_, h.rows, h.cursor, h.others, h.triggers, h.opened⟩
  simp [h.asked, List.range_succ]

theorem store (h : job.Stands asked k height scene) :
    job.Stands asked (k + 1) height { scene with
      database := { scene.database with
        events := keepAll scene.database.events (job.eventsAt k) } } := by
  refine ⟨h.asked, ?_, h.cursor, h.others, h.triggers, h.opened⟩
  rw [eventsBefore_succ, keepAll_append, ← h.rows]

theorem record (h : job.Stands asked stored height scene) (last : Nat) :
    job.Stands asked stored last { scene with
      database := { scene.database with
        cursors := Database.setRow job.key last scene.database.cursors } } :=
  ⟨h.asked, h.rows, Database.lookup_setRow_self _ _ _,
    fun key hne => (Database.lookup_setRow_of_ne hne _ _).trans (h.others key hne),
    h.triggers, h.opened⟩

theorem run_query (h : job.Stands k stored height scene) :
    (Routine.request (.chunk (job.filterAt k))).run job.around.answer scene =
      (outcome (job.logsAt k) (job.failure? k .query),
        { scene with asked := scene.asked ++ [job.filterAt k] }) :=
  Surroundings.run_chunk _ (by rw [h.length_asked])

theorem run_storing (h : job.Stands (k + 1) stored height scene) (first last : Nat) :
    (storing first last (job.eventsAt k)).run job.around.answer scene =
      match job.failure? k .append with
      | some failure => (.error (Stage.append.report first last failure), scene)
      | none => (.ok (), { scene with
          database := { scene.database with
            events := keepAll scene.database.events (job.eventsAt k) } }) := by
  unfold storing failure?
  cases hempty : (job.eventsAt k).isEmpty with
  | true =>
    rw [List.isEmpty_iff.mp hempty]
    rfl
  | false =>
    have hrun : (Routine.request (.storeBatch (job.eventsAt k))).run job.around.answer scene = _ :=
      Surroundings.run_storeBatch h.opened _ h.length_asked
    rw [h.triggers] at hrun
    simp only [Bool.false_eq_true, if_false, Routine.run_within, hrun]
    cases job.around.fault (k + 1) (.storeBatch (job.eventsAt k)) <|>
      Database.batchRefusal? (job.around.broken (k + 1)) job.database.triggers 0
        (job.eventsAt k) <;> rfl

theorem run_record (h : job.Stands (k + 1) stored height scene)
    (hlt : height < job.boundary (k + 1)) :
    (Cursor.checkpoint job.key (job.boundary (k + 1))).run job.around.answer scene =
      match job.failure? k .record with
      | some failure => (.error failure, scene)
      | none => (.ok (), { scene with
          database := { scene.database with
            cursors :=
              Database.setRow job.key (job.boundary (k + 1)) scene.database.cursors } }) := by
  have hread : (Cursor.read job.key).run job.around.answer scene = _ :=
    Surroundings.run_read h.opened (some height) h.cursor h.length_asked
  have hwrite : (Cursor.write job.key (job.boundary (k + 1))).run job.around.answer scene = _ :=
    Surroundings.run_write h.opened h.length_asked
  rw [h.triggers] at hwrite
  unfold Cursor.checkpoint failure?
  rw [Routine.run_bind, hread]
  cases job.around.fault (k + 1) (.readCursor job.key) with
  | some failure => rfl
  | none =>
    simp only [outcome, Nat.not_le.mpr hlt, if_false, hwrite]
    rfl

end Stands

/-! ### Ranges -/

/-- A range of which no stage fails is stored and recorded, and its logs are counted. -/
theorem run_batchAt_ok (h : job.Stands k k (job.boundary k) scene)
    (hlt : job.boundary k < job.boundary (k + 1)) (hnone : ∀ stage, job.failure? k stage = none) :
    ∃ after, job.Stands (k + 1) (k + 1) (job.boundary (k + 1)) after ∧
      (job.batchAt k).run job.around.answer scene =
        (.ok ((job.eventsAt k).length, (job.logsAt k).countP (·.event?.isNone)), after) := by
  have hquery := h.run_query
  have hstore := h.ask.run_storing (job.boundary k + 1) (job.boundary (k + 1))
  have hrecord := h.ask.store.run_record hlt
  rw [hnone] at hquery hstore hrecord
  have hevents : (decodeAll (job.logsAt k)).1 = job.eventsAt k := decodeAll_events _
  refine ⟨_, h.ask.store.record _, ?_⟩
  rw [batchAt_eq, Routine.run_bind, Routine.run_within, hquery]
  simp only [outcome, Except.mapError, hevents, decodeAll_skipped, Routine.run_bind, hstore,
    hrecord]
  rfl

/-- A range of which a stage fails ends with the failure, and what it did before stays. -/
theorem run_batchAt_error {stage : Stage} (h : job.Stands k k (job.boundary k) scene)
    (hlt : job.boundary k < job.boundary (k + 1)) (hfails : job.failure? k stage = some failure)
    (hfirst : ∀ other, other.rank < stage.rank → job.failure? k other = none) :
    ∃ after, job.Stands (k + 1) (stage.stored k) (job.boundary k) after ∧
      (job.batchAt k).run job.around.answer scene =
        (.error (stage.report (job.boundary k + 1) (job.boundary (k + 1)) failure), after) := by
  have hquery := h.run_query
  have hstore := h.ask.run_storing (job.boundary k + 1) (job.boundary (k + 1))
  have hrecord := h.ask.store.run_record hlt
  have hevents : (decodeAll (job.logsAt k)).1 = job.eventsAt k := decodeAll_events _
  rw [batchAt_eq, Routine.run_bind, Routine.run_within, hquery]
  cases stage with
  | query =>
    rw [hfails]
    exact ⟨_, h.ask, rfl⟩
  | append =>
    rw [hfirst .query (by decide)]
    rw [hfails] at hstore
    refine ⟨_, h.ask, ?_⟩
    simp only [outcome, Except.mapError, hevents, Routine.run_bind, hstore]
  | record =>
    rw [hfirst .query (by decide)]
    rw [hfirst .append (by decide)] at hstore
    rw [hfails] at hrecord
    refine ⟨_, h.ask.store, ?_⟩
    simp only [outcome, Except.mapError, hevents, Routine.run_bind, hstore, hrecord]
    rfl

/-- There is a range to follow the first ones as long as they do not end at the head. -/
theorem batchRange_boundary (hwidth : 0 < job.settings.maxRangeWidth)
    (hmax : job.around.head ≤ maxHeight)
    (hlt : job.cursor + k * job.settings.maxRangeWidth < job.around.head) :
    batchRange (job.boundary k + 1) job.around.head job.settings.maxRangeWidth =
      some (job.boundary k + 1, job.boundary (k + 1)) := by
  have hsucc : job.boundary (k + 1) =
      min (job.boundary k + job.settings.maxRangeWidth) job.around.head := rangeEnd_succ hlt
  have hbelow : job.boundary k = job.cursor + k * job.settings.maxRangeWidth := rangeEnd_of_lt hlt
  rw [batchRange, if_neg (by omega), hsucc]
  congr 2
  omega

theorem sweep_eq (hwidth : 0 < job.settings.maxRangeWidth) (hmax : job.around.head ≤ maxHeight)
    (hlt : job.cursor + k * job.settings.maxRangeWidth < job.around.head) (limit : Nat) :
    sweep job.settings job.around.head (limit + 1) (job.boundary k + 1) (job.reportAt k) =
      job.batchAt k >>= fun counts =>
        let report : Report :=
          { batches := k + 1
            persisted := (job.eventsBefore k).length + counts.1
            skipped := (job.logsBefore k).countP (·.event?.isNone) + counts.2
            cursor := job.boundary (k + 1)
            head := job.around.head }
        if job.boundary (k + 1) = job.around.head then pure report
        else sweep job.settings job.around.head limit (job.boundary (k + 1) + 1) report := by
  rw [sweep, batchRange_boundary hwidth hmax hlt]
  rfl

theorem reportAt_succ (k : Nat) : job.reportAt (k + 1) =
    { batches := k + 1
      persisted := (job.eventsBefore k).length + (job.eventsAt k).length
      skipped := (job.logsBefore k).countP (·.event?.isNone) +
        (job.logsAt k).countP (·.event?.isNone)
      cursor := job.boundary (k + 1)
      head := job.around.head } := by
  simp only [reportAt, eventsBefore_succ, logsBefore_succ, List.length_append, List.countP_append]

/-- The first ranges are filled one after the other, if nothing fails in them. -/
theorem run_sweep (hwidth : 0 < job.settings.maxRangeWidth) (hmax : job.around.head ≤ maxHeight)
    (h : job.Stands 0 0 (job.boundary 0) scene)
    (hlt : job.cursor + k * job.settings.maxRangeWidth < job.around.head)
    (hnone : ∀ i < k, ∀ stage, job.failure? i stage = none) :
    ∃ after, job.Stands k k (job.boundary k) after ∧ ∀ limit,
      (sweep job.settings job.around.head (limit + k) (job.boundary 0 + 1) (job.reportAt 0)).run
          job.around.answer scene =
        (sweep job.settings job.around.head limit (job.boundary k + 1) (job.reportAt k)).run
          job.around.answer after := by
  induction k with
  | zero => exact ⟨scene, h, fun _ => rfl⟩
  | succ k ih =>
    have hlt' : job.cursor + k * job.settings.maxRangeWidth < job.around.head := by
      rw [Nat.succ_mul] at hlt
      omega
    obtain ⟨middle, hmiddle, hsweep⟩ := ih hlt' fun i hi => hnone i (Nat.lt_succ_of_lt hi)
    obtain ⟨after, hafter, hbatch⟩ :=
      run_batchAt_ok hmiddle (rangeEnd_lt_succ hwidth hlt') (hnone k (Nat.lt_succ_self k))
    -- Another range follows, so this one does not end the sweep.
    have hmore : job.boundary (k + 1) ≠ job.around.head := by
      have hend : job.boundary (k + 1) = _ := rangeEnd_of_lt hlt
      omega
    refine ⟨after, hafter, fun limit => ?_⟩
    rw [show limit + (k + 1) = limit + 1 + k by omega, hsweep, sweep_eq hwidth hmax hlt',
      Routine.run_bind, hbatch, reportAt_succ]
    simp only [hmore, if_false]

/-- The limit of a sweep leaves room for the ranges that come before a last one. -/
theorem exists_limit (hwidth : 0 < job.settings.maxRangeWidth)
    (hlt : job.cursor + k * job.settings.maxRangeWidth < job.around.head) :
    ∃ limit, job.around.head - job.cursor = limit + 1 + k := by
  have hle : k ≤ k * job.settings.maxRangeWidth := Nat.le_mul_of_pos_right k hwidth
  exact ⟨job.around.head - job.cursor - 1 - k, by omega⟩

/-! ### Whole backfills -/

/-- A backfill loads its cursor before it asks for the head. -/
theorem Loads.run_loadOrSeed (h : job.Loads) :
    ∃ database : Database, (Cursor.loadOrSeed job.key job.settings.cursorSeed).run
        job.around.answer { database := job.database } = (.ok job.cursor, { database }) ∧
      database.events = job.database.events ∧ database.row job.key = some (job.cursor : Int) ∧
      (∀ key, key ≠ job.key → database.row key = job.database.row key) ∧
      database.triggers = job.database.triggers ∧ database.closed = false := by
  let scene : Scene := { database := job.database }
  have hround : scene.asked.length = 0 := rfl
  rcases h.stored with hrow | ⟨hnone, hseed, hallowed⟩
  · have hread : (Cursor.read job.key).run job.around.answer scene = _ :=
      Surroundings.run_read h.opened (some job.cursor) hrow hround
    refine ⟨job.database, ?_, rfl, hrow, fun _ _ => rfl, rfl, h.opened⟩
    rw [Cursor.loadOrSeed, Routine.run_bind, hread, h.untroubled]
    rfl
  · have hread : (Cursor.read job.key).run job.around.answer scene = _ :=
      Surroundings.run_read h.opened none hnone hround
    have hwrite : (Cursor.write job.key job.cursor).run job.around.answer scene = _ :=
      Surroundings.run_write h.opened hround
    refine ⟨{ job.database with
      cursors := Database.setRow job.key job.cursor job.database.cursors }, ?_, rfl,
        Database.lookup_setRow_self _ _ _, fun key hne => Database.lookup_setRow_of_ne hne _ _,
        rfl, h.opened⟩
    rw [hallowed, h.untroubled] at hwrite
    rw [Cursor.loadOrSeed, Routine.run_bind, hread, h.untroubled]
    simp only [outcome, Routine.run_bind, hseed, hwrite]
    rfl

theorem Loads.run_backfill (h : job.Loads) :
    ∃ scene, job.Stands 0 0 job.cursor scene ∧
      (run job.settings).run job.around.answer { database := job.database } =
        if job.around.head ≤ job.cursor then
          (.ok { cursor := job.cursor, head := job.around.head }, scene)
        else
          (sweep job.settings job.around.head (job.around.head - job.cursor) (job.cursor + 1)
            { cursor := job.cursor, head := job.around.head }).run job.around.answer scene := by
  obtain ⟨database, hload, hevents, hcursor, hothers, htriggers, hopened⟩ := h.run_loadOrSeed
  have hhead (deadline interval : Nat) : (Routine.request (.head deadline interval)).run
      job.around.answer { database } = (.ok job.around.head, { database }) := by
    simp only [Routine.request, Routine.run, Surroundings.answer, List.append_nil,
      List.length_nil, h.untroubled]
    rfl
  refine ⟨{ database }, ⟨rfl, hevents, hcursor, hothers, htriggers, hopened⟩, ?_⟩
  have hbegin : run job.settings = Cursor.loadOrSeed job.key job.settings.cursorSeed >>=
      fun cursor => Routine.request (.head job.settings.retryDeadline job.settings.retryInterval)
        >>= fun head =>
          if head ≤ cursor then pure { cursor, head }
          else sweep job.settings head (head - cursor) (cursor + 1) { cursor, head } := by
    unfold run
    rw [h.valid]
    rfl
  rw [hbegin, Routine.run_bind, hload]
  simp only [Routine.run_bind, hhead]
  split <;> rfl

/-- A backfill whose stages fail in none of the first ranges is about to fill the next. -/
theorem Loads.run_ranges (h : job.Loads) (hmax : job.around.head ≤ maxHeight)
    (hlt : job.cursor + k * job.settings.maxRangeWidth < job.around.head)
    (hnone : ∀ i < k, ∀ stage, job.failure? i stage = none) :
    ∃ limit middle, job.Stands k k (job.boundary k) middle ∧
      (run job.settings).run job.around.answer { database := job.database } =
        (sweep job.settings job.around.head (limit + 1) (job.boundary k + 1)
          (job.reportAt k)).run job.around.answer middle := by
  have hwidth := Settings.width_of_validate h.valid
  obtain ⟨scene, hscene, hrun⟩ := h.run_backfill
  have hzero : job.boundary 0 = job.cursor := rangeEnd_zero (by omega)
  obtain ⟨limit, hlimit⟩ := exists_limit hwidth hlt
  obtain ⟨middle, hmiddle, hsweep⟩ := run_sweep hwidth hmax (hzero ▸ hscene) hlt hnone
  refine ⟨limit, middle, hmiddle, ?_⟩
  rw [hrun, if_neg (by omega), hlimit, ← hsweep (limit + 1), hzero]
  congr 2
  rw [reportAt, hzero]
  rfl

/-- A backfill of which no stage fails fills all of its ranges. -/
theorem Loads.completes (h : job.Loads) (hmax : job.around.head ≤ maxHeight)
    (hlt : job.cursor < job.around.head)
    (hnone : ∀ i < (job.around.head - job.cursor) ⌈/⌉ job.settings.maxRangeWidth, ∀ stage,
      job.failure? i stage = none) :
    let count := (job.around.head - job.cursor) ⌈/⌉ job.settings.maxRangeWidth
    ∃ after, job.Stands count count job.around.head after ∧
      (run job.settings).run job.around.answer { database := job.database } =
        (.ok (job.reportAt count), after) := by
  intro count
  have hwidth := Settings.width_of_validate h.valid
  have hend : job.boundary count = job.around.head := rangeEnd_count hwidth
  obtain ⟨last, hlast⟩ : ∃ last, count = last + 1 := by
    refine Nat.exists_eq_succ_of_ne_zero (Nat.pos_iff_ne_zero.mp ?_)
    exact (lt_count_iff hwidth).mpr (by omega)
  have hrange := (lt_count_iff hwidth).mp (show last < count by omega)
  obtain ⟨limit, middle, hmiddle, hrun⟩ := h.run_ranges hmax hrange
    fun i hi => hnone i (by omega)
  obtain ⟨after, hafter, hbatch⟩ :=
    run_batchAt_ok hmiddle (rangeEnd_lt_succ hwidth hrange) (hnone last (by omega))
  rw [hlast] at hend ⊢
  refine ⟨after, hend ▸ hafter, ?_⟩
  rw [hrun, sweep_eq hwidth hmax hrange, Routine.run_bind, hbatch, reportAt_succ]
  simp only [hend, if_true]
  rfl

/-- Where nothing goes wrong, no stage fails of a range whose end fits the cursor's column. -/
theorem failure?_of_calm (job : Job) (hfault : job.around.fault = fun _ _ => none)
    (hbroken : job.around.broken = fun _ _ => none) (htriggers : job.database.triggers = [])
    {i : Nat} (hbound : job.boundary (i + 1) < columnBound) (stage : Stage) :
    job.failure? i stage = none := by
  cases stage with
  | query => rw [failure?, hfault]
  | append =>
    have hrefusal : Database.batchRefusal? (fun _ => none) [] 0 (job.eventsAt i) = none :=
      List.findSome?_eq_none_iff.mpr fun _ _ => rfl
    simp [failure?, hfault, hbroken, htriggers, hrefusal]
  | record =>
    simp [failure?, Database.cursorRefusal?, hfault, htriggers, Nat.not_le.mpr hbound]

/-- A backfill of which a stage fails ends there with the failure.  It asks for no further range,
the cursor stays at the end of the range before, and of the range itself no row is stored unless
only its recording failed.  To record a height that the column does not hold always fails. -/
theorem stops_at_boundary (job : Job) (stage : Stage) (hloads : job.Loads)
    (hmax : job.around.head ≤ maxHeight)
    (hrange : job.cursor + k * job.settings.maxRangeWidth < job.around.head)
    (hfails : job.failure? k stage = some failure)
    (hfirst : ∀ i other, i < k ∨ i = k ∧ other.rank < stage.rank →
      job.failure? i other = none) :
    (∃ scene,
      (run job.settings).run job.around.answer { database := job.database } =
        (.error (stage.report (job.boundary k + 1) (job.boundary (k + 1)) failure), scene) ∧
      (stage.report (job.boundary k + 1) (job.boundary (k + 1)) failure).cause = failure.cause ∧
      scene.asked = (List.range (k + 1)).map job.filterAt ∧
      scene.database.row job.key =
        some ((job.cursor + k * job.settings.maxRangeWidth : Nat) : Int) ∧
      (∀ key, key ≠ job.key → scene.database.row key = job.database.row key) ∧
      scene.database.events =
        keepAll job.database.events (job.eventsBefore (stage.stored k))) ∧
    ∀ i, columnBound ≤ job.boundary (i + 1) →
      ∃ failure, job.failure? i .record = some failure := by
  have hwidth := Settings.width_of_validate hloads.valid
  obtain ⟨limit, middle, hmiddle, hrun⟩ := hloads.run_ranges hmax hrange
    fun i hi other => hfirst i other (.inl hi)
  obtain ⟨after, hafter, hbatch⟩ := run_batchAt_error hmiddle (rangeEnd_lt_succ hwidth hrange)
    hfails fun other hother => hfirst k other (.inr ⟨rfl, hother⟩)
  have hend : job.boundary k = job.cursor + k * job.settings.maxRangeWidth :=
    rangeEnd_of_lt hrange
  refine ⟨⟨after, ?_, rfl, hafter.asked, hend ▸ hafter.cursor, hafter.others, hafter.rows⟩,
    fun _ => record_fails_of_le⟩
  rw [hrun, sweep_eq hwidth hmax hrange, Routine.run_bind, hbatch]

/-- A stake at the end of every range, and a storage that breaks in the second batch. -/
def stakeJob : Job :=
  { settings := { Feed.stakeSettings with maxRangeWidth := 2 }
    around :=
      { head := 5
        logs := fun filter => [Feed.stakeLog filter.last]
        broken := fun round _ => if round = 2 then some (Database.refused "no space") else none }
    database := {}
    cursor := 0 }

/-- The stake of the first range stays, and the cursor stays at its end. -/
theorem stops_at_boundary_stakes : ∃ scene,
    (run stakeJob.settings).run stakeJob.around.answer { database := {} } =
      (.error (Stage.append.report 3 4 (Database.refused "no space")), scene) ∧
    scene.asked = [stakeJob.filterAt 0, stakeJob.filterAt 1] ∧
    scene.database.row "block" = some 2 ∧
    scene.database.events = (Feed.stakeLog 2).event?.toList := by
  have hloads : stakeJob.Loads := ⟨rfl, rfl, fun _ => rfl, .inr ⟨rfl, rfl, rfl⟩⟩
  have hfails : stakeJob.failure? 1 .append = some (Database.refused "no space") := rfl
  have hfirst : ∀ i other, i < 1 ∨ i = 1 ∧ other.rank < Stage.append.rank →
      stakeJob.failure? i other = none := by
    rintro i other (hi | ⟨rfl, hother⟩)
    · obtain rfl := Nat.lt_one_iff.mp hi
      cases other <;> rfl
    · cases other with
      | query => rfl
      | append => exact absurd hother (by decide)
      | record => exact absurd hother (by decide)
  obtain ⟨⟨scene, hrun, -, hasked, hrow, -, hevents⟩, -⟩ :=
    stakeJob.stops_at_boundary .append hloads (by decide) (by decide) hfails hfirst
  exact ⟨scene, hrun, hasked, hrow, hevents⟩

/-- A backfill in which nothing goes wrong comes to its end, whatever the logs are.  It asks for
ranges that fill the gap between its cursor and the head, or for none if there is no gap, reports
what it did, and leaves the cursor at the head unless it was past it. -/
theorem fills_gap {settings : Settings} {database : Database} {cursor head : Nat}
    (logs : ChunkFilter → List Log) (hvalid : settings.validate = .ok ())
    (hwilling : database.Willing) (hcursor : cursor < columnBound) (hhead : head < columnBound)
    (hstored : database.row settings.cursorKey = some (cursor : Int) ∨
      database.row settings.cursorKey = none ∧ settings.cursorSeed = cursor) :
    (∃ report scene,
      (run settings).run ({ head, logs } : Surroundings).answer { database } =
        (.ok report, scene) ∧
      report.head = head ∧ report.cursor = max cursor head ∧
      scene.database.row settings.cursorKey = some ((max cursor head : Nat) : Int) ∧
      report.batches = scene.asked.length ∧
      report.persisted = (scene.asked.flatMap logs).countP (·.event?.isSome) ∧
      report.skipped = (scene.asked.flatMap logs).countP (·.event?.isNone) ∧
      (∀ filter ∈ scene.asked,
        filter.address = settings.address ∧ filter.kinds = settings.events) ∧
      (head ≤ cursor → scene.asked = []) ∧
      (cursor < head → Tiling cursor head settings.maxRangeWidth
        (scene.asked.map fun filter => (filter.first, filter.last)))) ∧
    ∀ more report, sweep settings head (head - cursor + more) (cursor + 1) report =
      sweep settings head (head - cursor) (cursor + 1) report := by
  let job : Job := { settings, around := { head, logs }, database, cursor }
  have hcolumn : columnBound ≤ maxHeight := by decide
  have hmax : head ≤ maxHeight := by omega
  have hloads : job.Loads := by
    refine ⟨hvalid, hwilling.opened, fun _ => rfl, hstored.imp_right fun h => ⟨h.1, h.2, ?_⟩⟩
    simp [Database.cursorRefusal?, job, hwilling.untriggered, Nat.not_le.mpr hcursor]
  refine ⟨?_, fun more report => sweep_limit hmax _ _ (by omega) _⟩
  by_cases hle : head ≤ cursor
  · obtain ⟨scene, hscene, hrun⟩ := hloads.run_backfill
    rw [if_pos hle] at hrun
    have hasked : scene.asked = [] := hscene.asked
    refine ⟨_, scene, hrun, rfl, (Nat.max_eq_left hle).symm, ?_, ?_⟩
    · rw [Nat.max_eq_left hle]
      exact hscene.cursor
    · rw [hasked]
      exact ⟨rfl, rfl, rfl, nofun, fun _ => rfl, fun hlt => absurd hlt (Nat.not_lt.mpr hle)⟩
  · have hlt : cursor < head := Nat.lt_of_not_le hle
    have hwidth := Settings.width_of_validate hvalid
    -- No range ends past the head, so the column holds every height that is recorded.
    obtain ⟨scene, hscene, hrun⟩ := hloads.completes hmax hlt fun i _ =>
      job.failure?_of_calm rfl rfl hwilling.untriggered
        (Nat.lt_of_le_of_lt (Nat.min_le_right _ _) hhead)
    let count := (head - cursor) ⌈/⌉ settings.maxRangeWidth
    have hasked : scene.asked = (List.range count).map job.filterAt := hscene.asked
    have hlogs : scene.asked.flatMap logs = job.logsBefore count := by
      rw [hasked, List.flatMap_map]
      rfl
    have htiles : scene.asked.map (fun filter => (filter.first, filter.last)) =
        tiles cursor head settings.maxRangeWidth := by
      rw [hasked, List.map_map]
      rfl
    rw [Nat.max_eq_right (Nat.le_of_lt hlt)]
    refine ⟨job.reportAt count, scene, hrun, rfl, rangeEnd_count hwidth, hscene.cursor, ?_, ?_, ?_,
      fun filter hmem => ?_, fun h => absurd h hle, fun _ => htiles ▸ tiling_tiles hwidth hlt⟩
    · rw [hasked, List.length_map, List.length_range]
      rfl
    · rw [hlogs]
      exact List.length_filterMap_eq_countP
    · rw [hlogs]
      rfl
    · rw [hasked] at hmem
      obtain ⟨i, -, rfl⟩ := List.mem_map.mp hmem
      exact ⟨rfl, rfl⟩

/-- Five blocks are filled in three ranges of two, whatever becomes of their logs. -/
theorem fills_gap_stakes : ∃ report scene,
    (run stakeJob.settings).run
        ({ head := 5, logs := stakeJob.around.logs } : Surroundings).answer { database := {} } =
      (.ok report, scene) ∧
    report.batches = scene.asked.length ∧ report.cursor = 5 ∧
    scene.database.row "block" = some 5 ∧
    Tiling 0 5 2 (scene.asked.map fun filter => (filter.first, filter.last)) := by
  obtain ⟨⟨report, scene, hrun, -, hcursor, hrow, hbatches, -, -, -, -, htiling⟩, -⟩ :=
    @fills_gap stakeJob.settings {} 0 5 stakeJob.around.logs rfl ⟨rfl, rfl⟩ (by decide)
      (by decide) (.inr ⟨rfl, rfl⟩)
  exact ⟨report, scene, hrun, hbatches, hcursor, hrow, htiling (by decide)⟩

end Job

end Backfill

end EventIndexer
