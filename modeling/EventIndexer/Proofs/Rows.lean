import EventIndexer.Store.Database

/-! What the statements of the database do to its rows.  Events are only ever added, one at a place
of a kind, and setting a cursor changes no row but its own. -/

namespace EventIndexer

theorem Event.sameRow_iff {a b : Event} : a.sameRow b = true ↔
    a.kind = b.kind ∧ a.position.transaction = b.position.transaction ∧
      a.position.index = b.position.index := by
  simp [Event.sameRow, and_assoc]

theorem Event.sameRow_refl (event : Event) : event.sameRow event = true :=
  Event.sameRow_iff.mpr ⟨rfl, rfl, rfl⟩

theorem Event.sameRow_symm {a b : Event} (h : a.sameRow b = true) : b.sameRow a = true := by
  obtain ⟨hkind, htransaction, hindex⟩ := Event.sameRow_iff.mp h
  exact Event.sameRow_iff.mpr ⟨hkind.symm, htransaction.symm, hindex.symm⟩

namespace Database

def row (database : Database) (key : String) : Option Int := database.cursors.lookup key

/-- Whether an event is stored, or another one of its kind at its place. -/
def Holds (database : Database) (event : Event) : Prop :=
  ∃ stored ∈ database.events, event.sameRow stored = true

/-- No two stored events are of one kind and at one place. -/
def Distinct (database : Database) : Prop :=
  database.events.Pairwise fun a b => a.sameRow b = false

theorem Distinct.nodup {database : Database} (h : database.Distinct) : database.events.Nodup :=
  h.imp fun hdifferent hsame => by
    subst hsame
    rw [Event.sameRow_refl] at hdifferent
    cases hdifferent

/-- What no statement ever undoes: stored events stay, and cursors stay or rise. -/
structure Grows (before after : Database) : Prop where
  events : ∀ event ∈ before.events, event ∈ after.events
  rows : ∀ key low, before.row key = some low → ∃ high, after.row key = some high ∧ low ≤ high

theorem Grows.refl (database : Database) : database.Grows database :=
  ⟨fun _ h => h, fun _ low h => ⟨low, h, Int.le_refl low⟩⟩

theorem Grows.trans {a b c : Database} (hab : a.Grows b) (hbc : b.Grows c) : a.Grows c := by
  refine ⟨fun event h => hbc.events event (hab.events event h), fun key low h => ?_⟩
  obtain ⟨middle, hmiddle, hlow⟩ := hab.rows key low h
  obtain ⟨high, hhigh, hle⟩ := hbc.rows key middle hmiddle
  exact ⟨high, hhigh, Int.le_trans hlow hle⟩

theorem Grows.row_eq_none {before after : Database} (h : before.Grows after) {key : String}
    (hnone : after.row key = none) : before.row key = none := by
  cases hrow : before.row key with
  | none => rfl
  | some low =>
    obtain ⟨high, hhigh, -⟩ := h.rows key low hrow
    rw [hnone] at hhigh
    cases hhigh

theorem Grows.holds {before after : Database} (h : before.Grows after) {event : Event}
    (hholds : before.Holds event) : after.Holds event := by
  obtain ⟨stored, hmem, hsame⟩ := hholds
  exact ⟨stored, h.events stored hmem, hsame⟩

def Reaches (database : Database) (key : String) (height : Nat) : Prop :=
  ∃ high, database.row key = some high ∧ (height : Int) ≤ high

theorem Reaches.of_le {database : Database} {key : String} {low height : Nat}
    (h : database.Reaches key height) (hle : low ≤ height) : database.Reaches key low := by
  obtain ⟨high, hhigh, hheight⟩ := h
  exact ⟨high, hhigh, by omega⟩

theorem Grows.reaches {before after : Database} (h : before.Grows after) {key : String}
    {height : Nat} (hrow : before.Reaches key height) : after.Reaches key height := by
  obtain ⟨middle, hmiddle, hle⟩ := hrow
  obtain ⟨high, hhigh, hle'⟩ := h.rows key middle hmiddle
  exact ⟨high, hhigh, Int.le_trans hle hle'⟩

/-! ### Storing events -/

variable {database after : Database} {event : Event} {events : List Event} {rows : Nat}

theorem insert_ok (h : database.insert event = .ok (after, rows)) :
    (database.Holds event ∧ after = database) ∨
      (¬database.Holds event ∧
        after = { database with events := database.events ++ [event] }) := by
  unfold insert at h
  split at h
  · cases h
  · split at h
    · next hany =>
      cases h
      exact .inl ⟨List.any_eq_true.mp hany, rfl⟩
    · next hany =>
      cases h
      exact .inr ⟨fun hholds => hany (List.any_eq_true.mpr hholds), rfl⟩

theorem Distinct.append (h : database.Distinct) (hnew : ¬database.Holds event) :
    Distinct { database with events := database.events ++ [event] } := by
  refine List.pairwise_append.mpr
    ⟨h, List.pairwise_singleton _ _, fun stored hmem other hother => ?_⟩
  rw [List.mem_singleton.mp hother, Bool.eq_false_iff]
  exact fun hsame => hnew ⟨stored, hmem, Event.sameRow_symm hsame⟩

/-- Insertions add some of the events, after which all of them are held. -/
theorem insertAll_ok (h : database.insertAll events = .ok (after, rows)) :
    (∃ fresh, after = { database with events := database.events ++ fresh } ∧
        ∀ event ∈ fresh, event ∈ events) ∧
      (∀ event ∈ events, after.Holds event) ∧ (database.Distinct → after.Distinct) := by
  induction events generalizing database rows with
  | nil =>
    cases h
    exact ⟨⟨[], by simp, fun _ h => h⟩, fun _ h => absurd h List.not_mem_nil, id⟩
  | cons event rest ih =>
    unfold insertAll at h
    cases hinsert : database.insert event with
    | error failure => simp [hinsert, bind, Except.bind] at h
    | ok inserted =>
      obtain ⟨middle, row⟩ := inserted
      simp only [hinsert, bind, Except.bind] at h
      cases hrest : middle.insertAll rest with
      | error failure => simp [hrest] at h
      | ok stored =>
        obtain ⟨last, more⟩ := stored
        simp only [hrest, pure, Except.pure, Except.ok.injEq, Prod.mk.injEq] at h
        obtain ⟨rfl, -⟩ := h
        obtain ⟨⟨fresh, hlast, hfresh⟩, hheld, hdistinct⟩ := ih hrest
        rcases insert_ok hinsert with ⟨hholds, rfl⟩ | ⟨hnew, rfl⟩
        · refine ⟨⟨fresh, hlast, fun e he => List.mem_cons_of_mem _ (hfresh e he)⟩,
            fun e he => ?_, hdistinct⟩
          rcases List.mem_cons.mp he with rfl | he
          · obtain ⟨stored, hmem, hsame⟩ := hholds
            rw [hlast]
            exact ⟨stored, List.mem_append_left _ hmem, hsame⟩
          · exact hheld e he
        · refine ⟨⟨event :: fresh, by simp [hlast], fun e he => ?_⟩, fun e he => ?_,
            fun h => hdistinct (h.append hnew)⟩
          · rcases List.mem_cons.mp he with rfl | he
            · exact List.mem_cons_self
            · exact List.mem_cons_of_mem _ (hfresh e he)
          · rcases List.mem_cons.mp he with rfl | he
            · rw [hlast]
              exact ⟨e, by simp, Event.sameRow_refl e⟩
            · exact hheld e he

/-- A transaction that succeeds has stored all of its events; only events are added. -/
theorem append_ok (h : database.append events = (.ok rows, after)) :
    (∃ fresh, after = { database with events := database.events ++ fresh } ∧
        ∀ event ∈ fresh, event ∈ events) ∧
      (∀ event ∈ events, after.Holds event) ∧ (database.Distinct → after.Distinct) := by
  unfold append at h
  cases hopen : database.open? with
  | error failure => simp [hopen, bind, Except.bind] at h
  | ok _ =>
    cases hall : database.insertAll events with
    | error failure => simp [hopen, hall, bind, Except.bind] at h
    | ok stored =>
      obtain ⟨last, count⟩ := stored
      simp only [hopen, hall, bind, Except.bind, Prod.mk.injEq, Except.ok.injEq] at h
      obtain ⟨rfl, rfl⟩ := h
      exact insertAll_ok hall

theorem append_error {failure : Failure} (h : database.append events = (.error failure, after)) :
    after = database := by
  unfold append at h
  split at h
  · simp at h
  · simp only [Prod.mk.injEq] at h
    exact h.2.symm

theorem grows_of_append (h : database.append events = (.ok rows, after)) :
    database.Grows after := by
  obtain ⟨⟨fresh, rfl, -⟩, -, -⟩ := append_ok h
  exact ⟨fun event hmem => List.mem_append_left _ hmem,
    fun key low hrow => ⟨low, hrow, Int.le_refl low⟩⟩

theorem row_of_append (h : database.append events = (.ok rows, after)) (key : String) :
    after.row key = database.row key := by
  obtain ⟨⟨fresh, rfl, -⟩, -, -⟩ := append_ok h
  rfl

/-! ### Setting cursors -/

variable {key other : String} {height : Nat}

/-- A cursor that is set holds a height that fits its column, and all else is as it was. -/
theorem setCursor_ok (h : database.setCursor key height = (.ok (), after)) :
    height < columnBound ∧ after.events = database.events ∧ after.row key = some (height : Int) ∧
      ∀ other, other ≠ key → after.row other = database.row other := by
  unfold setCursor column at h
  split at h
  · simp at h
  · next stored hcolumn =>
    split at hcolumn
    · cases hcolumn
    · next hbound =>
      cases hcolumn
      unfold setColumn at h
      split at h
      · simp at h
      · split at h
        · simp at h
        · simp only [Prod.mk.injEq, true_and] at h
          subst h
          exact ⟨Nat.lt_of_not_le hbound, rfl, lookup_setRow_self _ _ _,
            fun other hne => lookup_setRow_of_ne hne _ _⟩

theorem setCursor_error {failure : Failure}
    (h : database.setCursor key height = (.error failure, after)) : after = database := by
  unfold setCursor at h
  split at h
  · simp only [Prod.mk.injEq] at h
    exact h.2.symm
  · unfold setColumn at h
    split at h
    · simp only [Prod.mk.injEq] at h
      exact h.2.symm
    · split at h
      · simp only [Prod.mk.injEq] at h
        exact h.2.symm
      · simp at h

theorem grows_of_setCursor (h : database.setCursor key height = (.ok (), after))
    (hle : ∀ low, database.row key = some low → low ≤ height) : database.Grows after := by
  obtain ⟨-, hevents, hrow, hother⟩ := setCursor_ok h
  refine ⟨fun event hmem => hevents ▸ hmem, fun other low hlow => ?_⟩
  by_cases hkey : other = key
  · subst hkey
    exact ⟨height, hrow, hle low hlow⟩
  · exact ⟨low, by rw [hother other hkey, hlow], Int.le_refl low⟩

theorem holds_of_setCursor (h : database.setCursor key height = (.ok (), after)) :
    after.Holds event ↔ database.Holds event := by
  obtain ⟨-, hevents, -⟩ := setCursor_ok h
  unfold Holds
  rw [hevents]

/-! ### Reading cursors -/

theorem cursor_eq (hopened : database.closed = false) {found : Option Nat}
    (hrow : database.row key = found.map Int.ofNat) : database.cursor key = .ok found := by
  unfold row at hrow
  cases found <;>
    simp [cursor, cursorRow, open?, hopened, hrow, bind, Except.bind, pure, Except.pure]

theorem cursor_ok {found : Option Nat} (h : database.cursor key = .ok found) :
    database.row key = found.map Int.ofNat := by
  unfold cursor cursorRow at h
  cases hopen : database.open? with
  | error failure => simp [hopen, bind, Except.bind] at h
  | ok _ =>
    simp only [hopen, bind, Except.bind, pure, Except.pure] at h
    unfold row
    cases hrow : database.cursors.lookup key with
    | none =>
      simp only [hrow, Except.ok.injEq] at h
      rw [← h]
      rfl
    | some stored =>
      simp only [hrow] at h
      split at h
      · cases h
      · next hsign =>
        cases h
        have hnonneg : (stored.toNat : Int) = stored := Int.toNat_of_nonneg (Int.not_lt.mp hsign)
        simp [hnonneg]

end Database

end EventIndexer
