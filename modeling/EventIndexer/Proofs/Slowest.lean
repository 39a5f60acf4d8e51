import EventIndexer.Proofs.CursorOrder
import EventIndexer.Proofs.Halting
import EventIndexer.Proofs.HighWater

/-! A shared cursor that follows the slowest of its members.  A refresh that nothing disturbs finds
the lowest height of all members, whatever their order, and moves the shared cursor up to it; it
moves no other cursor, and none at all as long as a member has no height. -/

namespace EventIndexer

/-! ### Requests in a row -/

namespace Routine

variable {σ α β : Type} {answer : (request : Request) → σ → request.Reply × σ}

/-- What a routine asks for from beginning to end, with every request answered at once. -/
def requests (answer : (request : Request) → σ → request.Reply × σ) :
    Routine α → σ → List Request
  | done _, _ => []
  | ask request next, world =>
    let (reply, world) := answer request world
    request :: (next reply).requests answer world

/-- The second of two routines asks for nothing if the first one fails. -/
theorem requests_bind (routine : Routine α) (next : α → Routine β) (world : σ) :
    (routine >>= next).requests answer world = routine.requests answer world ++
      match routine.run answer world with
      | (.ok value, world) => (next value).requests answer world
      | (.error _, _) => [] := by
  induction routine generalizing world with
  | done result => cases result <;> rfl
  | ask request rest ih => simp only [ask_bind, requests, run, ih, List.cons_append]

theorem requests_bind_pure (routine : Routine α) (f : α → β) (world : σ) :
    (routine >>= fun value => pure (f value)).requests answer world =
      routine.requests answer world := by
  rw [requests_bind]
  split <;> exact List.append_nil _

theorem requests_ending (last : Request) (routine : Routine α) (world : σ) :
    (routine.ending last).requests answer world = routine.requests answer world ++ [last] := by
  induction routine generalizing world with
  | done result => rfl
  | ask request next ih => simp only [ending, requests, ih, List.cons_append]

/-- A last request that changes nothing makes no difference to what a routine comes to. -/
theorem run_ending {last : Request} (hlast : ∀ world, (answer last world).2 = world)
    (routine : Routine α) (world : σ) :
    (routine.ending last).run answer world = routine.run answer world := by
  induction routine generalizing world with
  | done result => simp only [ending, run, hlast]
  | ask request next ih => simp only [ending, run, ih]

end Routine

/-! ### The slowest member -/

/-- The height of the slowest of some members, if every member has one. -/
def Database.slowest? (database : Database) (members : List String) : Option Nat :=
  if members.all fun member => (database.height? member).isSome then
    (members.filterMap database.height?).min?
  else none

namespace Database

variable {database : Database} {member : String} {members others : List String} {low : Nat}

theorem slowest?_of_missing (hmem : member ∈ members) (hnone : database.height? member = none) :
    database.slowest? members = none := by
  refine if_neg fun hall => ?_
  have hsome := List.all_eq_true.mp hall member hmem
  rw [hnone] at hsome
  cases hsome

theorem slowest?_of_present (h : ∀ member ∈ members, database.height? member ≠ none) :
    database.slowest? members = (members.filterMap database.height?).min? :=
  if_pos <| List.all_eq_true.mpr fun member hmem => Option.isSome_iff_ne_none.mpr (h member hmem)

/-- The slowest member is one of them, and none is below it. -/
theorem height?_of_slowest? (h : database.slowest? members = some low) :
    (∃ member ∈ members, database.height? member = some low) ∧
      ∀ member ∈ members, ∃ height, database.height? member = some height ∧ low ≤ height := by
  unfold slowest? at h
  split at h
  · next hall =>
    obtain ⟨hmem, hle⟩ := List.min?_eq_some_iff.mp h
    refine ⟨List.mem_filterMap.mp hmem, fun member hmember => ?_⟩
    have hsome := List.all_eq_true.mp hall member hmember
    obtain ⟨height, hheight⟩ := Option.isSome_iff_exists.mp hsome
    exact ⟨height, hheight, hle height (List.mem_filterMap.mpr ⟨member, hmember, hheight⟩)⟩
  · cases h

theorem slowest?_of_perm (h : members.Perm others) :
    database.slowest? members = database.slowest? others := by
  have hmin : (members.filterMap database.height?).min? =
      (others.filterMap database.height?).min? := by
    ext low
    simp only [List.min?_eq_some_iff, (h.filterMap _).mem_iff]
  rw [slowest?, slowest?, h.all_eq, hmin]

/-- The slowest member's height is one that the database holds. -/
theorem Ready.slowest?_lt (hready : database.Ready) (hfits : database.Fits)
    (h : database.slowest? members = some low) : low < columnBound := by
  obtain ⟨⟨member, -, hheight⟩, -⟩ := height?_of_slowest? h
  have hrow := hready.row_eq member
  rw [hheight] at hrow
  exact Int.ofNat_lt.mp (hfits member low hrow)

theorem mem_of_row {key : String} {height : Int} (h : database.row key = some height) :
    (key, height) ∈ database.cursors := by
  obtain ⟨before, after, hcursors, -⟩ := List.lookup_eq_some_iff.mp h
  rw [hcursors]
  exact List.mem_append_right _ List.mem_cons_self

end Database

/-! ### Reads and checkpoints -/

theorem raised_ofNat (row : Option Nat) (height : Nat) :
    raised (row.map Int.ofNat) height = ((row.elim height (max · height) : Nat) : Int) := by
  cases row with
  | none => rfl
  | some low =>
    show max (low : Int) height = ((max low height : Nat) : Int)
    omega

namespace Cursor

variable {database after : Database} {key : String} {height : Nat}

theorem requests_read {α : Type} (h : database.Ready) (key : String)
    (next : Option Nat → Routine α) :
    (read key >>= next).requests (Chain.serve [] 0) database =
      .readCursor key :: (next (database.height? key)).requests (Chain.serve [] 0) database := by
  rw [Routine.requests_bind, read_alone h]
  rfl

/-- A checkpoint writes its own cursor only, and only upwards. -/
theorem writes_checkpoint (h : database.Ready) {other : String} {written : Nat} :
    .writeCursor other written ∈ (checkpoint key height).requests (Chain.serve [] 0) database ↔
      other = key ∧ written = height ∧ ∀ low ∈ database.height? key, low < height := by
  rw [checkpoint, requests_read h]
  cases hheight : database.height? key with
  | none => simp [write, Routine.request, Routine.requests]
  | some low =>
    by_cases hle : height ≤ low
    · simp [hle, Routine.requests, pure]
    · simp [hle, write, Routine.request, Routine.requests, Nat.lt_of_not_le hle]

/-- A checkpoint that succeeds raises its cursor. -/
theorem Call.Performs.raises (hready : database.Ready) {value : Option Nat}
    (h : (record key height).Performs database (.ok value) after) :
    database.Raises key height after := by
  cases h with
  | writes hwrites hset =>
    obtain ⟨-, hevents, hafter, hothers⟩ := Database.setCursor_ok hset
    refine ⟨hevents, hafter.trans ?_, hothers⟩
    rw [hready.row_eq, raised_ofNat]
    cases hheight : database.height? key with
    | none => rfl
    | some low =>
      have hlt : low < height := hwrites low hheight
      exact congrArg _ (congrArg _ (Nat.max_eq_right (Nat.le_of_lt hlt)).symm)
  | @keeps low hnot hheight =>
    have hheight : database.height? key = some low := hheight
    refine ⟨rfl, ?_, fun _ _ => rfl⟩
    have hle : height ≤ low := by simpa [Call.Writes, Call.key, hheight] using hnot
    rw [hready.row_eq, hheight, raised_ofNat]
    exact congrArg _ (congrArg _ (Nat.max_eq_left hle).symm)

theorem checkpoint_alone (h : database.Ready) (key : String) (hbound : height < columnBound) :
    ∃ after, (checkpoint key height).run (Chain.serve [] 0) database = (.ok (), after) ∧
      database.Raises key height after := by
  have hperforms := (Call.record key height).performs h
  rw [Call.perform, Call.routine, map_eq_pure_bind, Routine.run_bind] at hperforms
  cases hrun : (checkpoint key height).run (Chain.serve [] 0) database with
  | mk result after =>
    rw [hrun] at hperforms
    cases result with
    | ok _ => exact ⟨after, rfl, hperforms.raises h⟩
    | error failure =>
      have hcolumn : columnBound ≤ height := (hperforms.error_iff.mp rfl).2.1
      exact absurd hbound (Nat.not_lt_of_le hcolumn)

end Cursor

/-! ### Refreshes -/

namespace Watermark

variable {database : Database} {members : List String} {key : String} {low : Option Nat}
  {height : Nat}

/-- A refresh made while nothing else uses the database. -/
def refreshed (watermark : Watermark) (database : Database) :
    Except Failure (Option Nat) × Database :=
  watermark.refresh.run (Chain.serve [] 0) database

/-- What is found by the end is the lowest of what was found before and of all members. -/
theorem run_lowest (h : database.Ready) (members : List String) (low : Option Nat) :
    (lowest members low).run (Chain.serve [] 0) database =
      (.ok (if members.all fun member => (database.height? member).isSome then
          (low.toList ++ members.filterMap database.height?).min?
        else none), database) := by
  induction members generalizing low with
  | nil => cases low <;> rfl
  | cons member rest ih =>
    rw [lowest, Cursor.run_read h]
    cases hheight : database.height? member with
    | none => simp [hheight, Routine.run, pure]
    | some height =>
      simp only [ih, List.all_cons, hheight, Option.isSome_some, Bool.true_and,
        List.filterMap_cons]
      cases low <;> rfl

/-- Nothing is written while the lowest height is looked for. -/
theorem reads_lowest (h : database.Ready) (members : List String) (low : Option Nat) :
    .writeCursor key height ∉ (lowest members low).requests (Chain.serve [] 0) database := by
  induction members generalizing low with
  | nil => simp [lowest, Routine.requests, pure]
  | cons member rest ih =>
    rw [lowest, Cursor.requests_read h]
    cases database.height? member with
    | none => simp [Routine.requests, pure]
    | some height => simpa using ih _

theorem run_lowest_none (h : database.Ready) (members : List String) :
    (lowest members none).run (Chain.serve [] 0) database =
      (.ok (database.slowest? members), database) :=
  run_lowest h members none

/-- A refresh brings the shared cursor up to the slowest member, if every member has a height. -/
theorem refreshed_eq (h : database.Ready) (watermark : Watermark) :
    watermark.refreshed database = match database.slowest? watermark.members with
      | none => (.ok none, database)
      | some low => (Cursor.checkpoint watermark.shared low >>= fun _ => pure (some low)).run
          (Chain.serve [] 0) database := by
  have hunlock : ∀ database : Database, (Chain.serve [] 0 .unlock database).2 = database :=
    fun _ => rfl
  have hlocked : watermark.refreshed database = (lowest watermark.members none >>= fun low => _).run
      (Chain.serve [] 0) database := Routine.run_ending hunlock _ database
  rw [hlocked, Routine.run_bind, run_lowest_none h]
  cases database.slowest? watermark.members <;> rfl

/-- A refresh writes the shared cursor only, at the height of the slowest member, and only where
that is past it. -/
theorem writes_refresh (h : database.Ready) (watermark : Watermark) :
    .writeCursor key height ∈ watermark.refresh.requests (Chain.serve [] 0) database ↔
      key = watermark.shared ∧ database.slowest? watermark.members = some height ∧
        ∀ old ∈ database.height? watermark.shared, old < height := by
  have hlocked : watermark.refresh.requests (Chain.serve [] 0) database = .lock ::
      (Routine.ending .unlock (lowest watermark.members none >>= fun low => _)).requests
        (Chain.serve [] 0) database := rfl
  rw [hlocked, Routine.requests_ending, Routine.requests_bind, run_lowest_none h]
  simp only [List.mem_cons, List.mem_append, reads_lowest h, List.mem_nil_iff, reduceCtorEq,
    false_or, or_false]
  cases database.slowest? watermark.members with
  | none => simp [Routine.requests, pure]
  | some low =>
    dsimp only
    rw [Routine.requests_bind_pure, Cursor.writes_checkpoint h, Option.some.injEq,
      eq_comm (b := low)]
    refine and_congr_right fun _ => and_congr_right fun hlow => ?_
    rw [hlow]

/-- A refresh returns the slowest member's height and raises the shared cursor to it. -/
theorem exists_refreshed (hready : database.Ready) (hfits : database.Fits) (watermark : Watermark) :
    ∃ after, watermark.refreshed database = (.ok (database.slowest? watermark.members), after) ∧
      (database.slowest? watermark.members = none → after = database) ∧
      ∀ low, database.slowest? watermark.members = some low →
        database.Raises watermark.shared low after := by
  rw [refreshed_eq hready]
  cases hslowest : database.slowest? watermark.members with
  | none => exact ⟨database, rfl, fun _ => rfl, nofun⟩
  | some low =>
    obtain ⟨after, hrun, hraises⟩ :=
      Cursor.checkpoint_alone hready watermark.shared (hready.slowest?_lt hfits hslowest)
    refine ⟨after, ?_, nofun, fun found hfound => ?_⟩
    · dsimp only
      rw [Routine.run_bind, hrun]
      rfl
    · cases hfound
      exact hraises

/-- A shared cursor that is among the members is not moved. -/
theorem row_of_raises {after : Database} {shared : String} {low : Nat} (hready : database.Ready)
    (hslowest : database.slowest? members = some low) (hraises : database.Raises shared low after)
    (hkey : key ≠ shared ∨ key ∈ members) : after.row key = database.row key := by
  by_cases hshared : key = shared
  · -- The slowest member is no higher than this one, so there is nothing to raise.
    subst hshared
    have hmem := hkey.resolve_left fun hne => hne rfl
    obtain ⟨height, hheight, hle⟩ := (Database.height?_of_slowest? hslowest).2 key hmem
    rw [hraises.row, hready.row_eq, hheight, raised_ofNat]
    exact congrArg some (congrArg Int.ofNat (Nat.max_eq_left hle))
  · exact hraises.others key hshared

/-- A refresh that nothing disturbs finds the slowest member.  As long as a member has no height,
wherever it stands among the members, nothing is returned and nothing is written.  Otherwise the
lowest height of all members is returned, and the shared cursor is at the higher of this and its own
height afterwards; it is written exactly where it was not there yet or lower.  Nothing else changes,
not even a member that is the shared cursor itself, and the order of the members makes no
difference. -/
theorem follows_slowest (watermark : Watermark) (hready : database.Ready) (hfits : database.Fits) :
    let result := (watermark.refreshed database).1
    let after := (watermark.refreshed database).2
    (∀ member ∈ watermark.members, database.height? member = none →
      result = .ok none ∧ after = database) ∧
    (watermark.members ≠ [] → (∀ member ∈ watermark.members, database.height? member ≠ none) →
      ∃ low, (watermark.members.filterMap database.height?).min? = some low ∧
        result = .ok (some low) ∧
        after.row watermark.shared = some (raised (database.row watermark.shared) low)) ∧
    after.events = database.events ∧
    (∀ key, key ≠ watermark.shared ∨ key ∈ watermark.members →
      after.row key = database.row key) ∧
    (∀ key height,
      .writeCursor key height ∈ watermark.refresh.requests (Chain.serve [] 0) database ↔
        key = watermark.shared ∧ result = .ok (some height) ∧
          ∀ old ∈ database.height? watermark.shared, old < height) ∧
    ∀ members, watermark.members.Perm members →
      { watermark with members }.refreshed database = watermark.refreshed database := by
  obtain ⟨after, hrefreshed, hnone, hraises⟩ := exists_refreshed hready hfits watermark
  simp only [hrefreshed]
  refine ⟨fun member hmem hmissing => ?_, fun hmembers hpresent => ?_, ?_, fun key hkey => ?_,
    fun key height => ?_, fun members hperm => ?_⟩
  · have hslowest := Database.slowest?_of_missing hmem hmissing
    exact ⟨congrArg _ hslowest, hnone hslowest⟩
  · have hslowest := Database.slowest?_of_present hpresent
    obtain ⟨member, hmem⟩ := List.exists_mem_of_ne_nil _ hmembers
    have hsome : (watermark.members.filterMap database.height?).min? ≠ none := fun h =>
      hpresent member hmem (List.filterMap_eq_nil_iff.mp (List.min?_eq_none_iff.mp h) member hmem)
    obtain ⟨low, hlow⟩ := Option.ne_none_iff_exists'.mp hsome
    rw [hlow] at hslowest
    exact ⟨low, hlow, congrArg _ hslowest, (hraises low hslowest).row⟩
  · cases hslowest : database.slowest? watermark.members with
    | none => rw [hnone hslowest]
    | some low => exact (hraises low hslowest).events
  · cases hslowest : database.slowest? watermark.members with
    | none => rw [hnone hslowest]
    | some low => exact row_of_raises hready hslowest (hraises low hslowest) hkey
  · rw [writes_refresh hready, Except.ok.injEq]
  · rw [← hrefreshed, refreshed_eq hready, refreshed_eq hready,
      Database.slowest?_of_perm hperm.symm]

/-- Two members, and a shared cursor that is behind both of them. -/
def behind : Database :=
  { cursors := [("block", 5), ("block:Stake", 9), ("block:Transfer", 7)] }

def pair : Watermark := { shared := "block", members := ["block:Stake", "block:Transfer"] }

/-- The pair moves the shared cursor up to the slower of the two, in either order; it does not if a
third member that has no cursor comes last. -/
theorem follows_slowest_pair : behind.Ready ∧ behind.Fits ∧
    (pair.refreshed behind).1 = .ok (some 7) ∧
    (pair.refreshed behind).2.row "block" = some 7 ∧
    { pair with members := ["block:Transfer", "block:Stake"] }.refreshed behind =
      pair.refreshed behind ∧
    { pair with members := pair.members ++ ["block:Unstake"] }.refreshed behind =
      (.ok none, behind) := by
  have hcursors : ∀ row ∈ behind.cursors, 0 ≤ row.2 ∧ row.2 < columnBound := by decide
  have hrows : ∀ key height, behind.row key = some height → 0 ≤ height ∧ height < columnBound :=
    fun key height hrow => hcursors (key, height) (Database.mem_of_row hrow)
  have hready : behind.Ready := ⟨⟨rfl, rfl⟩, fun key height hrow => (hrows key height hrow).1⟩
  have hfits : behind.Fits := fun key height hrow => (hrows key height hrow).2
  obtain ⟨-, hpresent, -, -, -, horder⟩ := follows_slowest pair hready hfits
  obtain ⟨low, hlow, hresult, hrow⟩ := hpresent (by decide) (by decide)
  obtain ⟨hmissing, -⟩ := follows_slowest { pair with members := pair.members ++ ["block:Unstake"] }
    hready hfits
  have hlow : some 7 = some low := hlow
  cases hlow
  refine ⟨hready, hfits, hresult, hrow, horder _ (.swap _ _ _), ?_⟩
  obtain ⟨hnone, hsame⟩ := hmissing "block:Unstake" (by decide) rfl
  exact Prod.ext hnone hsame

end Watermark

end EventIndexer
