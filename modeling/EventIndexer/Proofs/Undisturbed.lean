import EventIndexer.Proofs.Places
import EventIndexer.Proofs.Tasks

/-! Routines that nothing disturbs.  The database performs what is asked of it, and a node at a head
replies to the rest.  A backfill then comes to its end, and leaves the cursor at the head unless it
was past it. -/

namespace EventIndexer

namespace Chain

def reply (chain : Chain) (head : Nat) : (request : Request) → request.Reply
  | .head .. => .ok head
  | .chunk filter => .ok (chain.wanted filter)
  | .hasCode _ => .ok true
  | .readCursor _ | .nextLog => .ok none
  | .writeCursor .. | .storeOne _ | .storeBatch _ | .lock | .unlock | .openStream _ | .pause _ =>
    .ok ()

/-- The database performs what is asked of it, and a node at a head replies to the rest. -/
def serve (chain : Chain) (head : Nat) (request : Request) (database : Database) :
    request.Reply × Database :=
  (database.answer request).getD (chain.reply head request, database)

/-- A routine that nothing disturbs comes to an end that is as promised. -/
def Completes (chain : Chain) (head : Nat) {α : Type} (routine : Routine α) (database : Database)
    (post : α → Database → Prop) : Prop :=
  ∃ value after, routine.run (chain.serve head) database = (.ok value, after) ∧ post value after

namespace Completes

variable {chain : Chain} {head : Nat} {α β : Type} {database after : Database}

theorem pure {value : α} {post : α → Database → Prop} (h : post value database) :
    chain.Completes head (Pure.pure value) database post :=
  ⟨value, database, rfl, h⟩

theorem bind {first : Routine β} {next : β → Routine α} {middle : β → Database → Prop}
    {post : α → Database → Prop} (hfirst : chain.Completes head first database middle)
    (hnext : ∀ value after, middle value after → chain.Completes head (next value) after post) :
    chain.Completes head (first >>= next) database post := by
  obtain ⟨value, between, hrun, hmiddle⟩ := hfirst
  obtain ⟨result, after, hrest, hpost⟩ := hnext value between hmiddle
  refine ⟨result, after, ?_, hpost⟩
  rw [Routine.run_bind, hrun]
  exact hrest

theorem mono {routine : Routine α} {middle post : α → Database → Prop}
    (h : chain.Completes head routine database middle)
    (himp : ∀ value after, middle value after → post value after) :
    chain.Completes head routine database post := by
  obtain ⟨value, after, hrun, hmiddle⟩ := h
  exact ⟨value, after, hrun, himp value after hmiddle⟩

end Completes

end Chain

namespace Database

variable {database : Database} {events : List Event} {key : String} {height : Nat}

/-- Whether nothing keeps the database from performing what is asked of it. -/
structure Willing (database : Database) : Prop where
  opened : database.closed = false
  untriggered : database.triggers = []

theorem Willing.insertAll (h : database.Willing) (events : List Event) :
    ∃ rows after, database.insertAll events = .ok (after, rows) ∧ after.Willing := by
  induction events generalizing database with
  | nil => exact ⟨0, database, rfl, h⟩
  | cons event rest ih =>
    have hinsert : ∃ rows after, database.insert event = .ok (after, rows) ∧ after.Willing := by
      have hnone : database.triggers.findSome? (Trigger.refusesEvent event) = none := by
        rw [h.untriggered]
        rfl
      unfold insert
      rw [hnone]
      by_cases hheld : database.events.any event.sameRow = true
      · exact ⟨0, database, if_pos hheld, h⟩
      · exact ⟨1, _, if_neg hheld, h.opened, h.untriggered⟩
    obtain ⟨rows, middle, hmiddle, hwilling⟩ := hinsert
    obtain ⟨more, after, hafter, hlast⟩ := ih hwilling
    refine ⟨rows + more, after, ?_, hlast⟩
    simp [Database.insertAll, hmiddle, hafter, bind, Except.bind, pure, Except.pure]

theorem Willing.append (h : database.Willing) (events : List Event) :
    ∃ rows after, database.append events = (.ok rows, after) ∧ after.Willing := by
  obtain ⟨rows, after, hall, hwilling⟩ := h.insertAll events
  refine ⟨rows, after, ?_, hwilling⟩
  simp [Database.append, open?, h.opened, hall, bind, Except.bind]

theorem Willing.setCursor (h : database.Willing) (key : String) (hbound : height < columnBound) :
    ∃ after, database.setCursor key height = (.ok (), after) ∧ after.Willing := by
  have hcolumn : ¬columnBound ≤ height := Nat.not_le_of_lt hbound
  refine ⟨{ database with cursors := setRow key height database.cursors }, ?_,
    h.opened, h.untriggered⟩
  simp [Database.setCursor, column, hcolumn, setColumn, h.opened, h.untriggered]

theorem Willing.cursor (h : database.Willing) {found : Option Nat}
    (hrow : database.row key = found.map Int.ofNat) : database.cursor key = .ok found :=
  cursor_eq h.opened hrow

end Database

namespace Chain.Completes

variable {chain : Chain} {head : Nat} {database : Database} {key : String} {height cursor : Nat}

theorem read (h : database.Willing) (found : Option Nat)
    (hrow : database.row key = found.map Int.ofNat) :
    chain.Completes head (Cursor.read key) database fun value after =>
      value = found ∧ after = database := by
  refine ⟨found, database, ?_, rfl, rfl⟩
  show (database.cursor key, database) = _
  rw [h.cursor hrow]

theorem write (h : database.Willing) (hbound : height < columnBound) :
    chain.Completes head (Cursor.write key height) database fun _ after =>
      database.setCursor key height = (.ok (), after) ∧ after.Willing := by
  obtain ⟨after, hset, hwilling⟩ := h.setCursor key hbound
  exact ⟨(), after, hset, hset, hwilling⟩

theorem store (h : database.Willing) (events : List Event) :
    chain.Completes head (Routine.request (.storeBatch events)) database fun _ after =>
      (∃ rows, database.append events = (.ok rows, after)) ∧ after.Willing := by
  obtain ⟨rows, after, happend, hwilling⟩ := h.append events
  refine ⟨(), after, ?_, ⟨rows, happend⟩, hwilling⟩
  show ((database.append events).1.map fun _ => (), (database.append events).2) = _
  rw [happend]
  rfl

theorem within {α : Type} {routine : Routine α} {post : α → Database → Prop} {context : String}
    (h : chain.Completes head routine database post) :
    chain.Completes head (routine.within context) database post := by
  obtain ⟨value, after, hrun, hpost⟩ := h
  refine ⟨value, after, ?_, hpost⟩
  clear hpost
  induction routine generalizing database with
  | done result =>
    cases result with
    | ok found => exact hrun
    | error failure => cases hrun
  | ask request next ih => exact ih _ hrun

theorem checkpoint (h : database.Willing) (hrow : database.row key = some (cursor : Int))
    (hlt : cursor < height) (hbound : height < columnBound) :
    chain.Completes head (Cursor.checkpoint key height) database fun _ after =>
      database.setCursor key height = (.ok (), after) ∧ after.Willing := by
  refine (read h (some cursor) hrow).bind fun found between hread => ?_
  obtain ⟨rfl, rfl⟩ := hread
  have hnot : ¬height ≤ cursor := Nat.not_le_of_lt hlt
  simp only [hnot, if_false]
  exact write h hbound

end Chain.Completes

/-! ### Backfills -/

namespace Chain.Completes

variable {chain : Chain} {inv : Database → Prop} {settings : Settings}
  {node : (request : Request) → request.Reply → Prop} {database after : Database}
  {head cursor last : Nat}

/-- A checkpoint above the cursor is recorded. -/
theorem record {α : Type} {value : α} (h : database.Willing) (hinv : inv database)
    (hrow : database.row settings.cursorKey = some (cursor : Int)) (hlt : cursor < last)
    (hbound : last < columnBound) (hallows : Allows inv settings.cursorKey last database) :
    chain.Completes head (Cursor.checkpoint settings.cursorKey last >>= fun _ => Pure.pure value)
      database fun _ after => inv after ∧ after.Willing ∧
        after.row settings.cursorKey = some (last : Int) := by
  refine (checkpoint h hrow hlt hbound).bind fun _ after hset => .pure ⟨?_, hset.2, ?_⟩
  · refine hallows database after (.refl _) hinv (fun low hlow => ?_) hset.1
    rw [hrow] at hlow
    cases hlow
    omega
  · exact (Database.setCursor_ok hset.1).2.2.1

theorem batch (hfill : Fillable inv node settings)
    (hhead : node (.head settings.retryDeadline settings.retryInterval) (.ok head))
    (hchunk : ∀ filter, node (.chunk filter) (.ok (chain.wanted filter)))
    (h : database.Willing) (hinv : inv database)
    (hrow : database.row settings.cursorKey = some (cursor : Int)) (hlt : cursor < last)
    (hlast : last ≤ head) (hbound : head < columnBound) :
    chain.Completes head (Backfill.batch settings (cursor + 1) last) database fun _ after =>
      inv after ∧ after.Willing ∧ after.row settings.cursorKey = some (last : Int) := by
  have hstorable := hfill.storable head cursor last _ hhead hlast (hchunk _) database hinv hrow
  have hallowed := hfill.allowed head cursor last _ hhead hlast (Nat.le_of_lt hlt) (hchunk _)
  unfold Backfill.batch
  have hlogs : chain.Completes head (Routine.request (.chunk
      { address := settings.address, kinds := settings.events, first := cursor + 1, last }))
      database fun logs after => logs = chain.wanted
        { address := settings.address, kinds := settings.events, first := cursor + 1, last } ∧
          after = database := ⟨_, _, rfl, rfl, rfl⟩
  refine hlogs.within.bind fun logs between hlogs => ?_
  obtain ⟨rfl, rfl⟩ := hlogs
  generalize decodeAll _ = decoded at hstorable hallowed ⊢
  obtain ⟨events, skipped⟩ := decoded
  cases events with
  | nil => exact record h hinv hrow hlt (by omega) (hallowed between hinv hrow nofun)
  | cons event rest =>
    refine (store h (event :: rest)).within.bind fun _ stored hstored => ?_
    obtain ⟨⟨rows, happend⟩, hwilling⟩ := hstored
    have hstored_inv := hstorable between stored rows hinv happend
    have hstored_row := (Database.row_of_append happend settings.cursorKey).trans hrow
    obtain ⟨-, hheld, -⟩ := Database.append_ok happend
    exact record hwilling hstored_inv hstored_row hlt (by omega)
      (hallowed stored hstored_inv hstored_row hheld)

theorem sweep (hfill : Fillable inv node settings) (hwidth : 0 < settings.maxRangeWidth)
    (hhead : node (.head settings.retryDeadline settings.retryInterval) (.ok head))
    (hchunk : ∀ filter, node (.chunk filter) (.ok (chain.wanted filter)))
    (hbound : head < columnBound) (limit : Nat) (report : Backfill.Report)
    (h : database.Willing) (hinv : inv database)
    (hrow : database.row settings.cursorKey = some (cursor : Int))
    (hreport : report.cursor = cursor) (hle : cursor ≤ head) (hlimit : head ≤ cursor + limit) :
    chain.Completes head (Backfill.sweep settings head limit (cursor + 1) report) database
      fun found after => inv after ∧ after.Willing ∧
        after.row settings.cursorKey = some (head : Int) ∧ found.cursor = head ∧
          found.head = report.head := by
  have hcolumn : columnBound ≤ maxHeight := by decide
  induction limit generalizing database cursor report with
  | zero =>
    obtain rfl : cursor = head := by omega
    exact .pure ⟨hinv, h, hrow, hreport, rfl⟩
  | succ limit ih =>
    unfold Backfill.sweep
    cases hrange : batchRange (cursor + 1) head settings.maxRangeWidth with
    | none =>
      have hnone := batchRange_eq_none.mp hrange
      obtain rfl : cursor = head := by omega
      exact .pure ⟨hinv, h, hrow, hreport, rfl⟩
    | some range =>
      obtain ⟨first, last⟩ := range
      obtain ⟨rfl, hfirst, hlast⟩ := batchRange_some (by omega) hrange
      dsimp only
      refine (batch hfill hhead hchunk h hinv hrow hfirst hlast hbound).bind
        fun counts between hstep => ?_
      obtain ⟨hnext, hwilling, hset⟩ := hstep
      by_cases hend : last = head
      · simp only [hend, if_true]
        exact .pure ⟨hnext, hwilling, hend ▸ hset, rfl, rfl⟩
      · simp only [hend, if_false]
        exact ih _ hwilling hnext hset rfl (by omega) (by omega)

/-- A backfill brings the cursor to the head, unless it begins past it. -/
theorem backfill (hfill : Fillable inv node settings) (hvalid : settings.validate = .ok ())
    (hhead : node (.head settings.retryDeadline settings.retryInterval) (.ok head))
    (hchunk : ∀ filter, node (.chunk filter) (.ok (chain.wanted filter)))
    (hbound : head < columnBound) (h : database.Willing) (hinv : inv database)
    (hcursor : database.row settings.cursorKey = some (cursor : Int) ∨
      database.row settings.cursorKey = none ∧ settings.cursorSeed = cursor ∧
        cursor < columnBound) :
    chain.Completes head (Backfill.run settings) database fun report after =>
      inv after ∧ after.Willing ∧
        after.row settings.cursorKey = some ((max cursor head : Nat) : Int) ∧
          report.cursor = max cursor head ∧ report.head = head := by
  have hwidth := Settings.width_of_validate hvalid
  have hload : chain.Completes head (Cursor.loadOrSeed settings.cursorKey settings.cursorSeed)
      database fun found after => found = cursor ∧ inv after ∧ after.Willing ∧
        after.row settings.cursorKey = some (cursor : Int) := by
    rcases hcursor with hrow | ⟨hnone, rfl, hseed⟩
    · refine (read h (some cursor) hrow).bind fun found between hread => ?_
      obtain ⟨rfl, rfl⟩ := hread
      exact .pure ⟨rfl, hinv, h, hrow⟩
    · refine (read h none hnone).bind fun found between hread => ?_
      obtain ⟨rfl, rfl⟩ := hread
      refine (write h hseed).bind fun _ after hset => .pure ⟨rfl, ?_, hset.2, ?_⟩
      · refine hfill.seeded between hinv hnone between after (.refl _) hinv (fun low hlow => ?_)
          hset.1
        rw [hnone] at hlow
        cases hlow
      · exact (Database.setCursor_ok hset.1).2.2.1
  unfold Backfill.run
  rw [hvalid]
  refine hload.bind fun found between hloaded => ?_
  obtain ⟨rfl, hloaded_inv, hwilling, hrow⟩ := hloaded
  have hasked : chain.Completes head
      (Routine.request (.head settings.retryDeadline settings.retryInterval)) between
        fun told after => told = head ∧ after = between := ⟨_, _, rfl, rfl, rfl⟩
  refine hasked.bind fun told after htold => ?_
  obtain rfl : head = told := htold.1.symm
  obtain rfl : between = after := htold.2.symm
  by_cases hle : head ≤ found
  · simp only [hle, if_true]
    rw [Nat.max_eq_left hle]
    exact .pure ⟨hloaded_inv, hwilling, hrow, rfl, rfl⟩
  · simp only [hle, if_false]
    rw [Nat.max_eq_right (by omega)]
    exact sweep hfill hwidth hhead hchunk hbound _ _ hwilling hloaded_inv hrow rfl (by omega)
      (by omega)

end Chain.Completes

end EventIndexer
