import EventIndexer.Proofs.Rows
import Mathlib.Data.List.Sort
import Mathlib.Data.Set.Card

/-! The tables of events as one map, in which whatever is written to a key first stays.  A
transaction that succeeds writes its events to the map in their order and returns how many keys are
new; one that fails writes nothing.  Counts and listings read the map. -/

namespace EventIndexer

/-- What tells the row of an event from all other rows. -/
structure Event.Key where
  kind : Kind
  transaction : String
  index : Int
  deriving DecidableEq

def Event.key (event : Event) : Event.Key :=
  { kind := event.kind
    transaction := event.position.transaction
    index := event.position.index }

theorem Event.sameRow_iff_key {a b : Event} : a.sameRow b = true ↔ a.key = b.key := by
  simp [Event.sameRow_iff, Event.key]

/-! ### The map -/

abbrev FirstWrites := Event.Key → Option Event

namespace FirstWrites

/-- Writes an event, unless its key has been written to. -/
def write (map : FirstWrites) (event : Event) : FirstWrites :=
  if (map event.key).isSome then map else Function.update map event.key (some event)

def writeAll (map : FirstWrites) (events : List Event) : FirstWrites := events.foldl write map

/-- The keys of some events that have not been written to. -/
def unwritten (map : FirstWrites) (events : List Event) : Finset Event.Key :=
  (events.map Event.key).toFinset.filter fun key => map key = none

variable {map : FirstWrites} {event found : Event} {events : List Event} {key : Event.Key}

theorem write_of_some (h : map event.key = some found) : map.write event = map := by
  simp [write, h]

theorem write_of_none (h : map event.key = none) :
    map.write event = Function.update map event.key (some event) := by
  simp [write, h]

theorem write_keeps (event : Event) (h : map key = some found) :
    map.write event key = some found := by
  cases hkey : map event.key with
  | some other => rw [write_of_some hkey, h]
  | none =>
    have hne : key ≠ event.key := by
      rintro rfl
      rw [h] at hkey
      cases hkey
    rw [write_of_none hkey, Function.update_of_ne hne, h]

theorem writeAll_keeps (events : List Event) (h : map key = some found) :
    map.writeAll events key = some found := by
  induction events generalizing map with
  | nil => exact h
  | cons event rest ih => exact ih (write_keeps event h)

/-- A key that is written to once more is not new. -/
theorem card_unwritten_of_some (rest : List Event) (h : map event.key = some found) :
    (map.unwritten (event :: rest)).card = ((map.write event).unwritten rest).card := by
  rw [write_of_some h, unwritten, List.map_cons, List.toFinset_cons, Finset.filter_insert]
  simp [h, unwritten]

/-- A key that is written to for the first time is new, and is so once. -/
theorem card_unwritten_of_none (rest : List Event) (h : map event.key = none) :
    (map.unwritten (event :: rest)).card = 1 + ((map.write event).unwritten rest).card := by
  have hsplit : map.unwritten (event :: rest) =
      insert event.key ((map.write event).unwritten rest) := by
    ext key
    simp only [unwritten, write_of_none h, List.map_cons, List.toFinset_cons, Finset.mem_filter,
      Finset.mem_insert, Function.update_apply]
    by_cases hkey : key = event.key <;> simp [hkey, h]
  have hnew : event.key ∉ (map.write event).unwritten rest := by
    simp [unwritten, write_of_none h]
  rw [hsplit, Finset.card_insert_of_notMem hnew, Nat.add_comm]

end FirstWrites

/-! ### The tables -/

namespace Database

variable {database after : Database} {event : Event} {events : List Event} {rows : Nat}

/-- The row that a key has. -/
def stored (database : Database) : FirstWrites := fun key =>
  database.events.find? (·.key == key)

theorem stored_congr (h : after.events = database.events) : after.stored = database.stored := by
  unfold stored
  rw [h]

theorem stored_eq_none : database.stored event.key = none ↔ ¬database.Holds event := by
  simp only [stored, List.find?_eq_none, beq_iff_eq, Holds, Event.sameRow_iff_key, not_exists,
    not_and]
  exact forall₂_congr fun _ _ => not_congr eq_comm

theorem key_of_stored {key : Event.Key} (h : database.stored key = some event) :
    event ∈ database.events ∧ event.key = key :=
  ⟨List.mem_of_find?_eq_some h, by simpa using List.find?_some h⟩

theorem Distinct.nodup_keys (h : database.Distinct) : (database.events.map Event.key).Nodup := by
  rw [List.Nodup, List.pairwise_map]
  refine h.imp fun hdifferent hkey => ?_
  rw [Event.sameRow_iff_key.mpr hkey] at hdifferent
  cases hdifferent

/-- Where no two rows have one key, every event is the row of its key. -/
theorem Distinct.stored_iff (h : database.Distinct) :
    database.stored event.key = some event ↔ event ∈ database.events := by
  refine ⟨fun hstored => (key_of_stored hstored).1, fun hmem => ?_⟩
  cases hstored : database.stored event.key with
  | none => exact absurd ⟨event, hmem, Event.sameRow_refl event⟩ (stored_eq_none.mp hstored)
  | some found =>
    obtain ⟨hfound, hkey⟩ := key_of_stored hstored
    rw [List.inj_on_of_nodup_map h.nodup_keys hfound hmem hkey]

theorem stored_insert (h : database.insert event = .ok (after, rows)) :
    (∃ found, database.stored event.key = some found ∧ after = database ∧ rows = 0) ∨
      (database.stored event.key = none ∧ rows = 1 ∧
        after = { database with events := database.events ++ [event] }) := by
  unfold insert at h
  split at h
  · cases h
  · split at h
    · next hany =>
      cases h
      have hheld : database.Holds event := List.any_eq_true.mp hany
      cases hstored : database.stored event.key with
      | none => exact absurd hheld (stored_eq_none.mp hstored)
      | some found => exact .inl ⟨found, rfl, rfl, rfl⟩
    · next hany =>
      cases h
      exact .inr ⟨stored_eq_none.mpr fun hheld => hany (List.any_eq_true.mpr hheld), rfl, rfl⟩

theorem stored_concat (h : database.stored event.key = none) :
    stored { database with events := database.events ++ [event] } =
      database.stored.write event := by
  funext key
  rw [FirstWrites.write_of_none h, Function.update_apply]
  simp only [stored, List.find?_append, List.find?_singleton, beq_iff_eq]
  split
  · next hkey =>
    subst hkey
    rw [show database.events.find? (·.key == event.key) = none from h]
    simp
  · next hkey => simp [Ne.symm hkey]

/-- Insertions write the events to the map, and count the keys that are new. -/
theorem stored_insertAll (h : database.insertAll events = .ok (after, rows)) :
    after.stored = database.stored.writeAll events ∧
      rows = (database.stored.unwritten events).card ∧
      after.events.length = database.events.length + rows := by
  induction events generalizing database rows with
  | nil =>
    cases h
    exact ⟨rfl, rfl, rfl⟩
  | cons event rest ih =>
    unfold insertAll at h
    cases hinsert : database.insert event with
    | error failure => simp [hinsert, bind, Except.bind] at h
    | ok inserted =>
      obtain ⟨middle, row⟩ := inserted
      simp only [hinsert, bind, Except.bind] at h
      cases hrest : middle.insertAll rest with
      | error failure => simp [hrest] at h
      | ok stored =>
        obtain ⟨last, more⟩ := stored
        simp only [hrest, pure, Except.pure, Except.ok.injEq, Prod.mk.injEq] at h
        obtain ⟨rfl, rfl⟩ := h
        obtain ⟨hstored, hmore, hlength⟩ := ih hrest
        rcases stored_insert hinsert with ⟨found, hfound, rfl, rfl⟩ | ⟨hnone, rfl, rfl⟩
        · refine ⟨?_, ?_, by omega⟩
          · rw [hstored, FirstWrites.writeAll, FirstWrites.writeAll, List.foldl_cons,
              FirstWrites.write_of_some hfound]
          · rw [FirstWrites.card_unwritten_of_some rest hfound,
              FirstWrites.write_of_some hfound, hmore, Nat.zero_add]
        · rw [stored_concat hnone] at hstored hmore
          refine ⟨hstored, ?_, ?_⟩
          · rw [FirstWrites.card_unwritten_of_none rest hnone, hmore]
          · rw [hlength, List.length_append, List.length_singleton]
            omega

/-! ### Reading -/

/-- Whether a row comes before another by height and index, or stands beside it. -/
def NotAfter (a b : Event) : Prop :=
  a.position.height < b.position.height ∨
    a.position.height = b.position.height ∧ a.position.index ≤ b.position.index

theorem notAfter_iff {a b : Event} : notAfter a b = true ↔ NotAfter a b := by
  simp [notAfter, NotAfter]

instance : DecidableRel NotAfter := fun _ _ => decidable_of_iff _ notAfter_iff

instance : Std.Total NotAfter where
  total a b := by
    unfold NotAfter
    omega

instance : IsTrans Event NotAfter where
  trans a b c hab hbc := by
    unfold NotAfter at *
    omega

theorem insertRow_eq (row : Event) (rows : List Event) :
    insertRow row rows = rows.orderedInsert NotAfter row := by
  induction rows with
  | nil => rfl
  | cons next rest ih => simp only [insertRow, List.orderedInsert_cons, notAfter_iff, ih]

theorem foldr_insertRow (rows : List Event) :
    rows.foldr insertRow [] = rows.insertionSort NotAfter := by
  induction rows with
  | nil => rfl
  | cons row rest ih => rw [List.foldr_cons, ih, insertRow_eq, List.insertionSort_cons]

/-- The rows of a kind, one for each of its keys. -/
theorem Distinct.length_table (h : database.Distinct) (kind : Kind) :
    (database.table kind).length =
      {key | key.kind = kind ∧ database.stored key ≠ none}.ncard := by
  have hnodup : ((database.table kind).map Event.key).Nodup :=
    h.nodup_keys.sublist (List.filter_sublist.map Event.key)
  have hkeys : {key | key.kind = kind ∧ database.stored key ≠ none} =
      (((database.table kind).map Event.key).toFinset : Set Event.Key) := by
    ext key
    simp only [Set.mem_ofPred_eq, List.coe_toFinset, List.mem_map, table, List.mem_filter,
      beq_iff_eq]
    constructor
    · rintro ⟨hkind, hstored⟩
      obtain ⟨event, hevent⟩ := Option.ne_none_iff_exists'.mp hstored
      obtain ⟨hmem, hkey⟩ := key_of_stored hevent
      exact ⟨event, ⟨hmem, (congrArg Event.Key.kind hkey).trans hkind⟩, hkey⟩
    · rintro ⟨event, ⟨hmem, hkind⟩, rfl⟩
      exact ⟨hkind, by simp [h.stored_iff.mpr hmem]⟩
  rw [hkeys, Set.ncard_coe_finset, List.toFinset_card_of_nodup hnodup, List.length_map]

/-- A listing holds the rows of a kind from a height on, each once and in order. -/
theorem Distinct.list_ok (h : database.Distinct) (hopen : database.closed = false) (kind : Kind)
    {first : Nat} (hfirst : first < columnBound) :
    ∃ rows, database.list kind first = .ok rows ∧ rows.Nodup ∧ rows.Pairwise NotAfter ∧
      ∀ event, event ∈ rows ↔ event.kind = kind ∧ (first : Int) ≤ event.position.height ∧
        database.stored event.key = some event := by
  refine ⟨((database.table kind).filter ((first : Int) ≤ ·.position.height)).insertionSort NotAfter,
    ?_, ?_, List.pairwise_insertionSort _ _, fun event => ?_⟩
  · simp [list, column, open?, hopen, Nat.not_le.mpr hfirst, foldr_insertRow, bind, Except.bind,
      pure, Except.pure]
  · rw [(List.perm_insertionSort _ _).nodup_iff]
    exact (h.nodup.filter _).filter _
  · rw [List.mem_insertionSort, h.stored_iff]
    simp [table, and_comm, and_assoc]

/-- Every row stands in one of the tables. -/
theorem sum_length_table (database : Database) :
    (Kind.all.map fun kind => (database.table kind).length).sum = database.events.length := by
  unfold table
  induction database.events with
  | nil => rfl
  | cons event rest ih =>
    cases hkind : event.kind <;> simp [Kind.all, hkind] at ih ⊢ <;> omega

/-! ### Calls -/

/-- A transaction, and how the database stands while it is carried out. -/
structure Call where
  events : List Event
  triggers : List Trigger := []
  closed : Bool := false

def under (database : Database) (call : Call) : Database :=
  { database with triggers := call.triggers, closed := call.closed }

def serve (database : Database) (call : Call) : Except Failure Nat × Database :=
  (database.under call).append call.events

/-- The database after some calls. -/
def served (database : Database) (calls : List Call) : Database :=
  calls.foldl (fun database call => (database.serve call).2) database

/-- What some calls return in all, where they succeed. -/
def returned : Database → List Call → Nat
  | _, [] => 0
  | database, call :: rest =>
    (database.serve call).1.toOption.getD 0 + (database.serve call).2.returned rest

/-- The events of the calls that succeed, in their order. -/
def accepted : Database → List Call → List Event
  | _, [] => []
  | database, call :: rest =>
    (if (database.serve call).1.isOk then call.events else []) ++
      (database.serve call).2.accepted rest

variable {call : Call}

theorem insert_succeeds : (∃ inserted, database.insert event = .ok inserted) ↔
    ∀ trigger ∈ database.triggers, trigger.refusesEvent event = none := by
  rw [← List.findSome?_eq_none_iff]
  unfold insert
  split
  · next text hrefused => simp [hrefused]
  · next hnone =>
    refine iff_of_true ?_ hnone
    split
    · exact ⟨_, rfl⟩
    · exact ⟨_, rfl⟩

theorem triggers_insert (h : database.insert event = .ok (after, rows)) :
    after.triggers = database.triggers := by
  rcases insert_ok h with ⟨-, rfl⟩ | ⟨-, rfl⟩ <;> rfl

/-- Some events can be inserted if no trigger refuses any of them. -/
theorem insertAll_succeeds : (∃ inserted, database.insertAll events = .ok inserted) ↔
    ∀ event ∈ events, ∀ trigger ∈ database.triggers, trigger.refusesEvent event = none := by
  induction events generalizing database with
  | nil => exact iff_of_true ⟨_, rfl⟩ nofun
  | cons event rest ih =>
    rw [List.forall_mem_cons, ← insert_succeeds]
    unfold insertAll
    cases hinsert : database.insert event with
    | error failure => simp [bind, Except.bind]
    | ok inserted =>
      obtain ⟨middle, row⟩ := inserted
      rw [← triggers_insert hinsert, ← ih]
      cases hrest : middle.insertAll rest <;> simp [hrest, bind, Except.bind, pure, Except.pure]

theorem append_eq_ok : database.append events = (.ok rows, after) ↔
    database.closed = false ∧ database.insertAll events = .ok (after, rows) := by
  unfold append open?
  cases hclosed : database.closed with
  | true => simp [bind, Except.bind]
  | false =>
    cases hall : database.insertAll events with
    | error failure => simp [bind, Except.bind]
    | ok inserted => simp [bind, Except.bind, Prod.ext_iff, and_comm]

theorem serve_eq {result : Except Failure Nat} (h : (database.serve call).1 = result) :
    (database.under call).append call.events = (result, (database.serve call).2) :=
  Prod.ext h rfl

theorem serve_succeeds : (∃ rows, (database.serve call).1 = .ok rows) ↔ call.closed = false ∧
    ∀ event ∈ call.events, ∀ trigger ∈ call.triggers, trigger.refusesEvent event = none := by
  have hinserted : (∃ inserted, (database.under call).insertAll call.events = .ok inserted) ↔
      ∀ event ∈ call.events, ∀ trigger ∈ call.triggers, trigger.refusesEvent event = none :=
    insertAll_succeeds
  refine Iff.trans ?_ (and_congr_right fun _ => hinserted)
  constructor
  · rintro ⟨rows, hrows⟩
    obtain ⟨hopen, hall⟩ := append_eq_ok.mp (serve_eq hrows)
    exact ⟨hopen, _, hall⟩
  · rintro ⟨hopen, ⟨after, rows⟩, hall⟩
    exact ⟨rows, congrArg Prod.fst (append_eq_ok.mpr ⟨hopen, hall⟩)⟩

theorem serve_ok (h : (database.serve call).1 = .ok rows) :
    (database.serve call).2.stored = database.stored.writeAll call.events ∧
      rows = (database.stored.unwritten call.events).card ∧
      (database.serve call).2.events.length = database.events.length + rows := by
  have hstored := stored_insertAll (append_eq_ok.mp (serve_eq h)).2
  exact hstored

theorem serve_error {failure : Failure} (h : (database.serve call).1 = .error failure) :
    (database.serve call).2.events = database.events := by
  rw [append_error (serve_eq h)]
  rfl

theorem Distinct.serve (h : database.Distinct) (call : Call) :
    (database.serve call).2.Distinct := by
  cases hresult : (database.serve call).1 with
  | ok rows =>
    obtain ⟨-, -, hdistinct⟩ := append_ok (serve_eq hresult)
    exact hdistinct h
  | error failure =>
    unfold Distinct
    rw [serve_error hresult]
    exact h

/-- After some calls the tables are what the calls that succeed have written to the map. -/
theorem served_writes (h : database.Distinct) (calls : List Call) :
    (database.served calls).Distinct ∧
      (database.served calls).stored = database.stored.writeAll (database.accepted calls) ∧
      (database.served calls).events.length =
        database.events.length + database.returned calls := by
  induction calls generalizing database with
  | nil => exact ⟨h, rfl, rfl⟩
  | cons call rest ih =>
    obtain ⟨hdistinct, hstored, hlength⟩ := ih (h.serve call)
    rw [served, List.foldl_cons]
    refine ⟨hdistinct, hstored.trans ?_, hlength.trans ?_⟩
    · cases hresult : (database.serve call).1 with
      | ok rows =>
        rw [(serve_ok hresult).1, accepted, hresult]
        exact (List.foldl_append ..).symm
      | error failure =>
        rw [stored_congr (serve_error hresult), accepted, hresult]
        rfl
    · cases hresult : (database.serve call).1 with
      | ok rows =>
        rw [(serve_ok hresult).2.2, returned, hresult, Nat.add_assoc]
        rfl
      | error failure =>
        rw [serve_error hresult, returned, hresult, Nat.add_comm (Option.getD _ 0)]
        rfl

/-- Whatever calls are made of a database, and wherever in them an insertion is refused, its tables
are the map to which the events of the calls that succeed were written, in which the first event of
a key stays.  A call fails if the database is closed or one of its events is refused, and then
changes no table; else it returns how many keys were new, and all calls together return how many
rows there are.  A count is the number of keys of a kind, and a listing has the rows of a kind from
a height on, each once, by height and index. -/
theorem first_write_stays (calls : List Call) :
    let database := served {} calls
    database.stored = FirstWrites.writeAll (fun _ => none) (accepted {} calls) ∧
    (∀ call,
      ((∃ rows, (database.serve call).1 = .ok rows) ↔ call.closed = false ∧
        ∀ event ∈ call.events, ∀ trigger ∈ call.triggers, trigger.refusesEvent event = none) ∧
      (∀ rows, (database.serve call).1 = .ok rows →
        rows = (database.stored.unwritten call.events).card ∧
          (database.serve call).2.stored = database.stored.writeAll call.events) ∧
      (∀ failure, (database.serve call).1 = .error failure →
        ∀ kind, (database.serve call).2.table kind = database.table kind) ∧
      ∀ key row, database.stored key = some row → (database.serve call).2.stored key = some row) ∧
    returned {} calls = (Kind.all.map fun kind => (database.table kind).length).sum ∧
    ∀ kind triggers,
      count { database with triggers, closed := false } kind =
        .ok {key | key.kind = kind ∧ database.stored key ≠ none}.ncard ∧
      ∀ first < columnBound, ∃ rows,
        list { database with triggers, closed := false } kind first = .ok rows ∧
          rows.Nodup ∧ rows.Pairwise NotAfter ∧
          ∀ event, event ∈ rows ↔ event.kind = kind ∧ (first : Int) ≤ event.position.height ∧
            database.stored event.key = some event := by
  have hempty : Distinct {} := .nil
  obtain ⟨hdistinct, hstored, hlength⟩ := served_writes hempty calls
  intro database
  refine ⟨hstored, fun call => ⟨serve_succeeds, fun rows hrows => ?_,
    fun failure hfailure kind => ?_, fun key row hrow => ?_⟩, ?_,
    fun kind triggers => ⟨?_, fun first hfirst => ?_⟩⟩
  · obtain ⟨hwritten, hcount, -⟩ := serve_ok hrows
    exact ⟨hcount, hwritten⟩
  · rw [table, serve_error hfailure, table]
  · cases hresult : (database.serve call).1 with
    | ok rows =>
      rw [(serve_ok hresult).1]
      exact FirstWrites.writeAll_keeps _ hrow
    | error failure => rwa [stored_congr (serve_error hresult)]
  · rw [sum_length_table, hlength]
    exact (Nat.zero_add _).symm
  · rw [← hdistinct.length_table kind]
    rfl
  · have hsame : Distinct { database with triggers, closed := false } := hdistinct
    exact hsame.list_ok rfl kind hfirst

end Database

end EventIndexer
