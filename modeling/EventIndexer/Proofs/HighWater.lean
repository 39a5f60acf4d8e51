import EventIndexer.Proofs.Undisturbed

/-! What cursors hold after calls that are made one after another.  A call stores its height where
the cursor is not there yet or, for a checkpoint, is lower; it fails where that height does not fit
the column, and then changes nothing.  A cursor is at the highest of the heights recorded since it
was there, in whatever order they came. -/

namespace EventIndexer

namespace Database

/-- The height of a cursor. -/
def height? (database : Database) (key : String) : Option Nat := (database.row key).map Int.toNat

/-- Whether nothing keeps the database from what is asked of it, and all heights are read. -/
structure Ready (database : Database) : Prop where
  willing : database.Willing
  unsigned : ∀ key height, database.row key = some height → 0 ≤ height

variable {database after : Database} {key : String} {height : Nat}

theorem Ready.row_eq (h : database.Ready) (key : String) :
    database.row key = (database.height? key).map Int.ofNat := by
  unfold height?
  cases hrow : database.row key with
  | none => rfl
  | some stored =>
    exact congrArg some (Int.toNat_of_nonneg (h.unsigned key stored hrow)).symm

theorem Ready.cursor (h : database.Ready) (key : String) :
    database.cursor key = .ok (database.height? key) :=
  cursor_eq h.willing.opened (h.row_eq key)

theorem height?_of_row (h : database.row key = some (height : Int)) :
    database.height? key = some height := by
  rw [height?, h]
  rfl

theorem Ready.setCursor (h : database.Ready) (hbound : height < columnBound) :
    ∃ after, database.setCursor key height = (.ok (), after) ∧ after.Ready := by
  obtain ⟨after, hset, hwilling⟩ := h.willing.setCursor key hbound
  obtain ⟨-, -, hrow, hothers⟩ := setCursor_ok hset
  refine ⟨after, hset, hwilling, fun other found hfound => ?_⟩
  by_cases hkey : other = key
  · rw [hkey, hrow] at hfound
    cases hfound
    exact Int.natCast_nonneg height
  · exact h.unsigned other found (hothers other hkey ▸ hfound)

theorem setCursor_of_le (database : Database) (key : String) (hbound : columnBound ≤ height) :
    database.setCursor key height = (.error Cause.heightTooLarge, database) := by
  simp [Database.setCursor, column, hbound]

end Database

namespace Cursor

/-- A call of one who moves a cursor. -/
inductive Call
  | load (key : String) (seed : Nat)
  | record (key : String) (height : Nat)
  deriving DecidableEq, Repr

namespace Call

def key : Call → String
  | load key _ | record key _ => key

/-- The height that the call may store. -/
def height : Call → Nat
  | load _ seed => seed
  | record _ height => height

/-- What the call returns: the height, where it is loaded. -/
def told (height : Nat) : Call → Option Nat
  | load .. => some height
  | record .. => none

def routine : Call → Routine (Option Nat)
  | load key seed => some <$> loadOrSeed key seed
  | record key height => (fun _ => none) <$> checkpoint key height

/-- The call, made while nothing else uses the database. -/
def perform (call : Call) (database : Database) : Except Failure (Option Nat) × Database :=
  call.routine.run (Chain.serve [] 0) database

/-- Whether the call stores its height, given that of the cursor. -/
def Writes : Call → Option Nat → Prop
  | load .., stored => stored = none
  | record _ height, stored => ∀ low ∈ stored, low < height

/-- How a call ends. -/
inductive Performs (call : Call) (database : Database) :
    Except Failure (Option Nat) → Database → Prop
  | writes {after : Database} : call.Writes (database.height? call.key) →
    database.setCursor call.key call.height = (.ok (), after) →
      Performs call database (.ok (call.told call.height)) after
  | fails : call.Writes (database.height? call.key) → columnBound ≤ call.height →
    Performs call database (.error Cause.heightTooLarge) database
  | keeps {low : Nat} : ¬call.Writes (database.height? call.key) →
    database.height? call.key = some low →
      Performs call database (.ok (call.told low)) database

end Call

section

variable {α : Type} {database : Database} {key : String} {height : Nat}

theorem read_alone (h : database.Ready) (key : String) :
    (read key).run (Chain.serve [] 0) database = (.ok (database.height? key), database) := by
  show (database.cursor key, database) = _
  rw [h.cursor]

theorem run_read (h : database.Ready) (next : Option Nat → Routine α) :
    (read key >>= next).run (Chain.serve [] 0) database =
      (next (database.height? key)).run (Chain.serve [] 0) database := by
  rw [Routine.run_bind, read_alone h]

theorem run_write (database : Database) (key : String) (height : Nat) (value : α) :
    (write key height >>= fun _ => pure value).run (Chain.serve [] 0) database =
      ((database.setCursor key height).1.map fun _ => value,
        (database.setCursor key height).2) := by
  have hwrite : (write key height).run (Chain.serve [] 0) database =
      database.setCursor key height := rfl
  rw [Routine.run_bind, hwrite]
  split
  · next result => rw [result]; rfl
  · next result => rw [result]; rfl

end

namespace Call

variable {call : Call} {database : Database}

theorem performs_of_write (h : database.Ready) (hwrites : call.Writes (database.height? call.key))
    (hrun : call.perform database =
      (write call.key call.height >>= fun _ => pure (call.told call.height)).run
        (Chain.serve [] 0) database) :
    call.Performs database (call.perform database).1 (call.perform database).2 := by
  rw [hrun, run_write]
  rcases Nat.lt_or_ge call.height columnBound with hlt | hge
  · obtain ⟨after, hset, -⟩ : ∃ after, database.setCursor call.key call.height = (.ok (), after) ∧
        after.Ready := h.setCursor hlt
    rw [hset]
    exact .writes hwrites hset
  · rw [database.setCursor_of_le call.key hge]
    exact .fails hwrites hge

theorem performs (h : database.Ready) (call : Call) :
    call.Performs database (call.perform database).1 (call.perform database).2 := by
  cases call with
  | load key seed =>
    cases hheight : database.height? key with
    | none =>
      refine performs_of_write h hheight ?_
      rw [perform, routine, loadOrSeed, map_bind, run_read h, hheight]
      simp only [map_bind, map_pure]
      rfl
    | some low =>
      have hrun : (load key seed).perform database = (.ok (some low), database) := by
        rw [perform, routine, loadOrSeed, map_bind, run_read h, hheight]
        rfl
      rw [hrun]
      exact .keeps (by simp [Writes, Call.key, hheight]) hheight
  | record key height =>
    cases hheight : database.height? key with
    | none =>
      refine performs_of_write h (by simp [Writes, Call.key, hheight]) ?_
      rw [perform, routine, checkpoint, map_bind, run_read h, hheight]
      rfl
    | some low =>
      by_cases hle : height ≤ low
      · have hrun : (record key height).perform database = (.ok none, database) := by
          rw [perform, routine, checkpoint, map_bind, run_read h, hheight]
          simp only [hle, if_true]
          rfl
        rw [hrun]
        exact .keeps (by simp [Writes, Call.key, hheight, hle]) hheight
      · refine performs_of_write h (by simpa [Writes, Call.key, hheight] using hle) ?_
        rw [perform, routine, checkpoint, map_bind, run_read h, hheight]
        simp only [hle, if_false]
        rfl

variable {result : Except Failure (Option Nat)} {after : Database}

namespace Performs

theorem ready (hready : database.Ready) (h : call.Performs database result after) :
    after.Ready := by
  cases h with
  | writes hwrites hset =>
    obtain ⟨found, hfound, hready⟩ := hready.setCursor (Database.setCursor_ok hset).1
    rw [hset] at hfound
    cases hfound
    exact hready
  | fails | keeps => exact hready

/-- A call changes no cursor but its own. -/
theorem row_eq (h : call.Performs database result after) {key : String} (hkey : key ≠ call.key) :
    after.row key = database.row key := by
  cases h with
  | writes _ hset => exact (Database.setCursor_ok hset).2.2.2 key hkey
  | fails | keeps => rfl

/-- A call fails exactly where it would have to store a height that does not fit. -/
theorem error_iff (h : call.Performs database result after) {failure : Failure} :
    result = .error failure ↔ failure = Cause.heightTooLarge ∧ columnBound ≤ call.height ∧
      call.Writes (database.height? call.key) := by
  cases h with
  | writes _ hset =>
    have hbound := (Database.setCursor_ok hset).1
    exact iff_of_false nofun fun hall => Nat.not_le_of_lt hbound hall.2.1
  | fails hwrites hbound =>
    exact ⟨fun h => ⟨(Except.error.inj h).symm, hbound, hwrites⟩, fun h => h.1 ▸ rfl⟩
  | keeps hnot => exact iff_of_false nofun fun hall => hnot hall.2.2

theorem eq_of_error (h : call.Performs database result after) {failure : Failure}
    (herror : result = .error failure) : after = database := by
  cases h with
  | writes => cases herror
  | fails | keeps => rfl

/-- A load that succeeds returns what the cursor is at. -/
theorem row_of_load (hready : database.Ready) {key : String} {seed : Nat}
    (h : (load key seed).Performs database result after) {value : Option Nat}
    (hok : result = .ok value) : ∃ height : Nat, value = some height ∧
      after.row key = some (height : Int) := by
  cases h with
  | writes _ hset =>
    cases hok
    exact ⟨seed, rfl, (Database.setCursor_ok hset).2.2.1⟩
  | fails => cases hok
  | @keeps low _ hheight =>
    cases hok
    refine ⟨low, rfl, ?_⟩
    rw [hready.row_eq]
    exact congrArg _ hheight

end Performs

end Call

/-- The database after calls that are made one after another. -/
def afterAll (database : Database) (calls : List Call) : Database :=
  calls.foldl (fun database call => (call.perform database).2) database

/-- The calls that succeed, of those made one after another. -/
def succeeding (database : Database) : List Call → List Call
  | [] => []
  | call :: rest =>
    match call.perform database with
    | (.ok _, after) => call :: succeeding after rest
    | (.error _, after) => succeeding after rest

def Call.recorded? : Call → Option Nat
  | load .. => none
  | record _ height => some height

/-- The heights that a cursor is said to have reached, given its own and the calls on it that
succeed: the first call puts it there if it is not, whichever it is, and later ones record
theirs. -/
def reached : Option Nat → List Call → List Nat
  | some low, calls => low :: calls.filterMap Call.recorded?
  | none, [] => []
  | none, call :: rest => call.height :: rest.filterMap Call.recorded?

section

variable {database after : Database} {calls rest : List Call} {call : Call} {key : String}
  {low height : Nat}

theorem ready_afterAll (h : database.Ready) (calls : List Call) :
    (afterAll database calls).Ready := by
  induction calls generalizing database with
  | nil => exact h
  | cons call rest ih => exact ih ((call.performs h).ready h)

theorem max?_cons_cons (low height : Nat) (heights : List Nat) :
    (low :: height :: heights).max? = (max low height :: heights).max? := rfl

/-- A call that writes a cursor puts it at the highest of what it has reached. -/
theorem max?_reached_of_writes {stored : Option Nat} (h : call.Writes stored) (rest : List Call) :
    (reached stored (call :: rest)).max? = (reached (some call.height) rest).max? := by
  cases stored with
  | none => rfl
  | some low =>
    cases call with
    | load => cases h
    | record key height =>
      have hlt : low < height := h low rfl
      show (low :: height :: rest.filterMap Call.recorded?).max? = _
      rw [max?_cons_cons, Nat.max_eq_right (Nat.le_of_lt hlt)]
      rfl

/-- One that does not write leaves it there. -/
theorem max?_reached_of_not_writes (h : ¬call.Writes (some low)) (rest : List Call) :
    (reached (some low) (call :: rest)).max? = (reached (some low) rest).max? := by
  cases call with
  | load => rfl
  | record key height =>
    have hle : height ≤ low := by simpa [Call.Writes] using h
    show (low :: height :: rest.filterMap Call.recorded?).max? = _
    rw [max?_cons_cons, Nat.max_eq_left hle]
    rfl

/-- A cursor is at the highest of the heights that it is said to have reached. -/
theorem height?_afterAll (h : database.Ready) (calls : List Call) (key : String) :
    (afterAll database calls).height? key = (reached (database.height? key)
      ((succeeding database calls).filter (·.key = key))).max? := by
  induction calls generalizing database with
  | nil =>
    show database.height? key = _
    cases database.height? key <;> rfl
  | cons call rest ih =>
    have hperforms := call.performs h
    show (afterAll (call.perform database).2 rest).height? key = _
    rw [ih (hperforms.ready h), succeeding]
    generalize call.perform database = outcome at hperforms ⊢
    obtain ⟨result, after⟩ := outcome
    by_cases hkey : call.key = key
    · subst hkey
      cases hperforms with
      | writes hwrites hset =>
        have hheight := Database.height?_of_row (Database.setCursor_ok hset).2.2.1
        simp only [List.filter_cons, decide_true, if_true]
        rw [hheight, max?_reached_of_writes hwrites]
      | fails => rfl
      | keeps hnot hheight =>
        rw [hheight] at hnot ⊢
        simp only [List.filter_cons, decide_true, if_true]
        rw [max?_reached_of_not_writes hnot]
    · have hsame : after.height? key = database.height? key :=
        congrArg _ (hperforms.row_eq (Ne.symm hkey))
      rw [hsame]
      cases result with
      | ok value => simp [hkey]
      | error failure => rfl

/-- What a call makes of a cursor that is there. -/
def lifted (key : String) (low : Nat) : Call → Nat
  | .load .. => low
  | .record other height => if other = key ∧ height < columnBound then max low height else low

theorem lifted_comm (key : String) (low : Nat) (first second : Call) :
    lifted key (lifted key low first) second = lifted key (lifted key low second) first := by
  cases first with
  | load => cases second <;> rfl
  | record a height =>
    cases second with
    | load => rfl
    | record b other =>
      simp only [lifted]
      split_ifs <;> omega

/-- A call on a cursor that is there lifts it. -/
theorem height?_of_performs {result : Except Failure (Option Nat)}
    (h : call.Performs database result after)
    (hrow : database.height? call.key = some low) :
    after.height? call.key = some (lifted call.key low call) := by
  cases h with
  | writes hwrites hset =>
    obtain ⟨hbound, -, hafter, -⟩ := Database.setCursor_ok hset
    rw [Database.height?_of_row hafter]
    rw [hrow] at hwrites
    cases call with
    | load => cases hwrites
    | record key height =>
      have hlt : low < height := hwrites low rfl
      have hmax : max low height = height := Nat.max_eq_right (Nat.le_of_lt hlt)
      exact congrArg some ((if_pos ⟨rfl, hbound⟩).trans hmax).symm
  | fails hwrites hbound =>
    rw [hrow] at hwrites ⊢
    cases call with
    | load => cases hwrites
    | record key height =>
      exact congrArg some (if_neg fun h => Nat.not_le_of_lt h.2 hbound).symm
  | keeps hnot _ =>
    rw [hrow] at hnot ⊢
    cases call with
    | load => rfl
    | record key height =>
      have hle : height ≤ low := by simpa [Call.Writes] using hnot
      simp only [lifted, Nat.max_eq_left hle, ite_self]

theorem lifted_of_ne (h : call.key ≠ key) (low : Nat) : lifted key low call = low := by
  cases call with
  | load => rfl
  | record other height => exact if_neg fun hboth => h hboth.1

/-- Calls on cursors that are there lift them one after another. -/
theorem height?_afterAll_of_row (h : database.Ready)
    (hrows : ∀ call ∈ calls, ∃ low, database.height? call.key = some low) (key : String) :
    (afterAll database calls).height? key =
      (database.height? key).map fun low => calls.foldl (lifted key) low := by
  induction calls generalizing database with
  | nil => exact (Option.map_id' ..).symm
  | cons call rest ih =>
    obtain ⟨⟨low, hlow⟩, hrest⟩ := List.forall_mem_cons.mp hrows
    have hperforms := call.performs h
    show (afterAll (call.perform database).2 rest).height? key = _
    generalize call.perform database = outcome at hperforms ⊢
    obtain ⟨result, after⟩ := outcome
    have hother : ∀ other, other ≠ call.key → after.height? other = database.height? other :=
      fun other hkey => congrArg _ (hperforms.row_eq hkey)
    have hown := height?_of_performs hperforms hlow
    rw [ih (hperforms.ready h) fun other hmem => ?_]
    · by_cases hkey : key = call.key
      · subst hkey
        rw [hown, hlow]
        rfl
      · rw [hother key hkey]
        simp only [List.foldl_cons, lifted_of_ne (Ne.symm hkey)]
    · by_cases hkey : other.key = call.key
      · exact ⟨_, hkey ▸ hown⟩
      · rw [hother _ hkey]
        exact hrest other hmem

theorem afterAll_append (database : Database) (calls rest : List Call) :
    afterAll database (calls ++ rest) = afterAll (afterAll database calls) rest :=
  List.foldl_append

/-- Calls on cursors that are there have one result in any order. -/
theorem row_afterAll_of_perm {calls' : List Call} (h : database.Ready) (hperm : calls.Perm calls')
    (hrows : ∀ call ∈ calls, ∃ low, database.height? call.key = some low) (key : String) :
    (afterAll database calls).row key = (afterAll database calls').row key := by
  have hrows' : ∀ call ∈ calls', ∃ low, database.height? call.key = some low :=
    fun call hmem => hrows call (hperm.mem_iff.mpr hmem)
  have hlifts := hperm.foldl_eq' fun first _ second _ low => lifted_comm key low first second
  rw [(ready_afterAll h calls).row_eq, (ready_afterAll h calls').row_eq,
    height?_afterAll_of_row h hrows, height?_afterAll_of_row h hrows']
  simp only [hlifts]

/-- A cursor is at the highest of what was recorded.  Of calls made one after another, exactly those
fail that would have to store a height that does not fit its column, and these change nothing; a
load that succeeds returns what the cursor is at, and no call changes another cursor.  Afterwards
each cursor is at the highest of the height that first put it there and the ones recorded by the
calls on it that succeeded since.  Once all cursors are there, the order of calls does not
matter. -/
theorem rows_are_high_water (h : database.Ready) :
    (∀ earlier (call : Call),
      let before := afterAll database earlier
      let after := (call.perform before).2
      (∀ failure, (call.perform before).1 = .error failure ↔
        failure = Cause.heightTooLarge ∧ columnBound ≤ call.height ∧
          call.Writes (before.height? call.key)) ∧
      (∀ failure, (call.perform before).1 = .error failure → after = before) ∧
      (∀ key seed value, call = .load key seed → (call.perform before).1 = .ok value →
        ∃ height : Nat, value = some height ∧ after.row key = some (height : Int)) ∧
      ∀ key, key ≠ call.key → after.row key = before.row key) ∧
    (∀ calls key, (afterAll database calls).row key = ((reached (database.height? key)
      ((succeeding database calls).filter (·.key = key))).max?).map Int.ofNat) ∧
    ∀ earlier later later', later.Perm later' →
      (∀ call ∈ later, ∃ low, (afterAll database earlier).row call.key = some low) → ∀ key,
        (afterAll database (earlier ++ later)).row key =
          (afterAll database (earlier ++ later')).row key := by
  refine ⟨fun earlier call => ?_, fun calls key => ?_,
    fun earlier later later' hperm hrows key => ?_⟩
  · intro before after
    have hready : before.Ready := ready_afterAll h earlier
    have hperforms := call.performs hready
    refine ⟨fun _ => hperforms.error_iff, fun _ => hperforms.eq_of_error, ?_,
      fun _ => hperforms.row_eq⟩
    rintro key seed value rfl hok
    exact hperforms.row_of_load hready hok
  · rw [(ready_afterAll h calls).row_eq, height?_afterAll h]
  · rw [afterAll_append, afterAll_append]
    refine row_afterAll_of_perm (ready_afterAll h earlier) hperm (fun call hmem => ?_) key
    obtain ⟨low, hlow⟩ := hrows call hmem
    exact ⟨low.toNat, congrArg _ hlow⟩

end

/-- Calls on two cursors; the second of them is stale, and the third does not fit. -/
def mixedCalls : List Call :=
  [.load "block" 5, .record "block" 3, .record "block" columnBound, .record "other" 4]

theorem rows_are_high_water_mixed : ({} : Database).Ready ∧
    (afterAll {} mixedCalls).row "block" = some 5 ∧
    (afterAll {} (mixedCalls ++ [.record "block" 9, .record "block" 7])).row "block" =
      (afterAll {} (mixedCalls ++ [.record "block" 7, .record "block" 9])).row "block" := by
  have hready : ({} : Database).Ready := ⟨⟨rfl, rfl⟩, fun _ _ h => nomatch h⟩
  obtain ⟨-, hrows, horder⟩ := rows_are_high_water hready
  have hperm : [Call.record "block" 9, .record "block" 7].Perm
      [.record "block" 7, .record "block" 9] := .swap _ _ _
  have hblock : (afterAll {} mixedCalls).row "block" = some 5 := hrows mixedCalls "block"
  refine ⟨hready, hblock, horder _ _ _ hperm (fun call hmem => ⟨5, ?_⟩) "block"⟩
  have hkey : call.key = "block" := by
    simp only [List.mem_cons, List.not_mem_nil, or_false] at hmem
    rcases hmem with rfl | rfl <;> rfl
  rw [hkey, hblock]

end Cursor

end EventIndexer
