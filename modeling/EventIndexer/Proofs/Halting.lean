import EventIndexer.Proofs.Advancing
import EventIndexer.Proofs.Faults
import EventIndexer.Tracker

/-! Routines that halt at their first request that fails.  The request changes nothing, and nothing
is asked after it but that the lock be free again.  A work of a message is such a routine: where it
halts it has changed nothing, unless it is a checkpoint that the shared cursor could not follow. -/

namespace EventIndexer

open WatcherTasks (Shared)

/-! ### Requests -/

namespace Database

variable {database after : Database} {events : List Event} {rows : Nat}

theorem eq_of_append (h : database.append events = (.ok rows, after)) :
    after = { database with events := keepAll database.events events } := by
  have hopened : database.closed = false := by
    by_contra hclosed
    have hclosed : database.closed = true := by simpa using hclosed
    simp [append, open?, hclosed, bind, Except.bind] at h
  have htransact := transact_unbroken database events
  rw [h, transact_eq hopened] at htransact
  split at htransact
  · cases htransact
  · exact (congrArg Prod.snd htransact).symm

/-- A statement that fails changes nothing. -/
theorem eq_of_answer_error {request : Request} {failure : Failure}
    (h : database.answer request = some (.error failure, after)) : after = database := by
  have hstored : ∀ events, (database.append events).1.map (fun _ => ()) = .error failure →
      (database.append events).2 = database := by
    intro events herror
    cases happend : database.append events with
    | mk result later =>
      rw [happend] at herror
      cases result with
      | ok rows => cases herror
      | error found => exact append_error happend
  cases request with
  | readCursor key =>
    simp only [answer, Option.some.injEq, Prod.mk.injEq] at h
    exact h.2.symm
  | writeCursor key height =>
    simp only [answer, Option.some.injEq] at h
    exact setCursor_error h
  | storeOne event =>
    simp only [answer, Option.some.injEq, Prod.mk.injEq] at h
    exact h.2 ▸ hstored [event] h.1
  | storeBatch events =>
    simp only [answer, Option.some.injEq, Prod.mk.injEq] at h
    exact h.2 ▸ hstored events h.1
  | _ => cases h

end Database

namespace WatcherTasks.Shared

variable {shared later : Shared} {fault : Option Failure} {request : Request}

/-- A request that fails leaves everything as it is. -/
theorem eq_of_answer_error {failure : Failure}
    (h : shared.answer fault request = some (.error failure, later)) : later = shared := by
  unfold answer at h
  split at h
  · split at h <;> cases h
  · cases h
  · cases h
    rfl
  · rw [Option.map_eq_some_iff] at h
    obtain ⟨⟨reply, database⟩, hanswer, hlater⟩ := h
    cases hlater
    rw [Database.eq_of_answer_error hanswer]

/-- A request that succeeds is performed as without a fault. -/
theorem serve_of_answer_ok {value : request.Answer}
    (h : shared.answer fault request = some (.ok value, later)) :
    Chain.serve [] 0 request shared.database = (.ok value, later.database) := by
  unfold answer at h
  split at h
  · split at h
    · cases h
    · cases h
      rfl
  · cases h
    rfl
  · cases h
  · rw [Option.map_eq_some_iff] at h
    obtain ⟨⟨reply, database⟩, hanswer, hlater⟩ := h
    cases hlater
    rw [Chain.serve, hanswer]
    rfl

/-- A statement leaves the lock as it is. -/
theorem locked_of_answer {reply : request.Reply}
    (h : shared.answer fault request = some (reply, later)) (hlock : request ≠ .lock)
    (hunlock : request ≠ .unlock) : later.locked = shared.locked := by
  unfold answer at h
  split at h
  · exact absurd rfl hlock
  · exact absurd rfl hunlock
  · cases h
    rfl
  · rw [Option.map_eq_some_iff] at h
    obtain ⟨⟨answered, database⟩, -, hlater⟩ := h
    cases hlater
    rfl

end WatcherTasks.Shared

/-! ### Routines that halt -/

/-- What is left of a routine once a request of it has failed: the lock is let go, if it is held. -/
def leave {α : Type} (held : Bool) (failure : Failure) : Routine α :=
  if held then .ask .unlock fun _ => .done (.error failure) else .done (.error failure)

namespace Routine

variable {α β : Type}

/-- Whether a routine is at a request of its own, with some left to do. -/
inductive Reaches : Routine α → Routine α → Prop
  | now (request : Request) (next : request.Reply → Routine α) :
    Reaches (ask request next) (ask request next)
  | later {request : Request} {next : request.Reply → Routine α} {rest : Routine α}
      (reply : request.Reply) : Reaches (next reply) rest → Reaches (ask request next) rest

/-- Whether a routine that runs alone halts at its first request that fails, at a place and in a
state of some kind, and else ends as promised; `frees` is whether it lets go of the lock before it
halts. -/
def Halts (frees : Bool) (stop : Routine α → Shared → Prop) (post : α → Shared → Prop) :
    Routine α → Shared → Prop
  | done (.ok value), shared => post value shared
  | done (.error _), _ => False
  | ask request next, shared =>
    (∀ fault failure later, shared.answer fault request = some (.error failure, later) →
      stop (ask request next) shared ∧
        next (.error failure) = leave (frees && shared.locked) failure) ∧
    ∀ fault value later, shared.answer fault request = some (.ok value, later) →
      Halts frees stop post (next (.ok value)) later

namespace Halts

variable {frees : Bool} {stop stop' : Routine α → Shared → Prop} {post mid : α → Shared → Prop}
  {routine : Routine α} {shared : Shared}

theorem mono (h : routine.Halts frees stop mid shared)
    (hstop : ∀ rest later, stop rest later → stop' rest later)
    (hpost : ∀ value later, mid value later → post value later) :
    routine.Halts frees stop' post shared := by
  induction routine generalizing shared with
  | done result =>
    cases result with
    | ok value => exact hpost value shared h
    | error failure => exact h
  | ask request next ih =>
    refine ⟨fun fault failure later hanswer => ?_,
      fun fault value later hanswer => ih _ (h.2 fault value later hanswer)⟩
    obtain ⟨hstopped, hleave⟩ := h.1 fault failure later hanswer
    exact ⟨hstop _ _ hstopped, hleave⟩

theorem pure {value : α} (h : post value shared) :
    (Pure.pure value : Routine α).Halts frees stop post shared := h

theorem bind {first : Routine β} {next : β → Routine α} {middle : β → Shared → Prop}
    (h : first.Halts frees (fun rest => stop (rest >>= next)) middle shared)
    (hnext : ∀ value later, middle value later → (next value).Halts frees stop post later) :
    (first >>= next).Halts frees stop post shared := by
  induction first generalizing shared with
  | done result =>
    cases result with
    | ok value => exact hnext value shared h
    | error failure => exact absurd h id
  | ask request rest ih =>
    refine ⟨fun fault failure later hanswer => ?_,
      fun fault value later hanswer => ih _ (h.2 fault value later hanswer)⟩
    obtain ⟨hstopped, hleave⟩ := h.1 fault failure later hanswer
    refine ⟨hstopped, ?_⟩
    dsimp only
    rw [hleave, leave, leave]
    split <;> rfl

/-- What a routine that halts comes to is what it comes to where nothing fails. -/
theorem with_run (h : routine.Halts frees stop post shared) :
    routine.Halts frees stop (fun value later => post value later ∧
      routine.run (Chain.serve [] 0) shared.database = (.ok value, later.database)) shared := by
  induction routine generalizing shared with
  | done result =>
    cases result with
    | ok value => exact ⟨h, rfl⟩
    | error failure => exact h
  | ask request next ih =>
    refine ⟨h.1, fun fault value later hanswer => ?_⟩
    refine (ih _ (h.2 fault value later hanswer)).mono (fun _ _ => id) fun result last hresult => ?_
    refine ⟨hresult.1, ?_⟩
    rw [run, WatcherTasks.Shared.serve_of_answer_ok hanswer]
    exact hresult.2

/-- Where a routine halts it is at a request of its own. -/
theorem at_request (h : routine.Halts frees stop post shared) :
    routine.Halts frees (fun rest later => routine.Reaches rest ∧ stop rest later) post shared := by
  induction routine generalizing shared with
  | done result => cases result <;> exact h
  | ask request next ih =>
    refine ⟨fun fault failure later hanswer => ?_, fun fault value later hanswer => ?_⟩
    · obtain ⟨hstopped, hleave⟩ := h.1 fault failure later hanswer
      exact ⟨⟨.now request next, hstopped⟩, hleave⟩
    · exact (ih _ (h.2 fault value later hanswer)).mono
        (fun _ _ hrest => ⟨.later _ hrest.1, hrest.2⟩) fun _ _ => id

/-- A routine that halts while the lock is held lets go of it in the end. -/
theorem ending (h : routine.Halts false (fun rest => stop (rest.ending .unlock)) mid shared)
    (hlocked : ∀ rest later, stop rest later → later.locked = true)
    (hpost : ∀ value later, mid value later → post value { later with locked := false }) :
    (routine.ending .unlock).Halts true stop post shared := by
  induction routine generalizing shared with
  | done result =>
    refine ⟨fun fault failure later hanswer => ?_, fun fault value later hanswer => ?_⟩
    · cases hanswer
    · cases hanswer
      cases result with
      | ok found => exact hpost found shared h
      | error failure => exact h
  | ask request next ih =>
    refine ⟨fun fault failure later hanswer => ?_,
      fun fault value later hanswer => ih _ (h.2 fault value later hanswer)⟩
    obtain ⟨hstopped, hleave⟩ := h.1 fault failure later hanswer
    refine ⟨hstopped, ?_⟩
    dsimp only
    rw [hleave, hlocked _ _ hstopped]
    rfl

theorem request {request : Request} {stop : Shared → Prop}
    {post : request.Answer → Shared → Prop}
    (hheld : (frees && shared.locked) = false) (hstop : stop shared)
    (hpost : ∀ fault value later, shared.answer fault request = some (.ok value, later) →
      post value later) :
    (Routine.request request).Halts frees (fun _ => stop) post shared := by
  refine ⟨fun fault failure later hanswer => ⟨hstop, ?_⟩, hpost⟩
  rw [hheld]
  rfl

end Halts

end Routine

/-! ### Works -/

/-- What a checkpoint leaves: one cursor is raised to a height, if it is not past it. -/
structure Database.Raises (key : String) (height : Nat) (before after : Database) : Prop where
  events : after.events = before.events
  row : after.row key = some (raised (before.row key) height)
  others : ∀ other, other ≠ key → after.row other = before.row other

namespace Routine.Halts

variable {frees : Bool} {stop : Shared → Prop} {shared : Shared} {key : String} {height : Nat}

theorem read (hheld : (frees && shared.locked) = false) (hstop : stop shared) :
    (Cursor.read key).Halts frees (fun _ => stop)
      (fun found later => later = shared ∧ shared.database.row key = found.map Int.ofNat)
      shared := by
  refine request hheld hstop fun fault value later hanswer => ?_
  have hlocked := Shared.locked_of_answer hanswer nofun nofun
  have hserve : (shared.database.cursor key, shared.database) = (.ok value, later.database) :=
    Shared.serve_of_answer_ok hanswer
  simp only [Prod.mk.injEq] at hserve
  obtain ⟨hcursor, hdatabase⟩ := hserve
  refine ⟨?_, Database.cursor_ok hcursor⟩
  cases shared
  cases later
  exact (Shared.mk.injEq ..).mpr ⟨hdatabase.symm, hlocked⟩

theorem write (hheld : (frees && shared.locked) = false) (hstop : stop shared) :
    (Cursor.write key height).Halts frees (fun _ => stop)
      (fun _ later => later.locked = shared.locked ∧
        shared.database.setCursor key height = (.ok (), later.database)) shared :=
  request hheld hstop fun _ _ _ hanswer =>
    ⟨Shared.locked_of_answer hanswer nofun nofun, Shared.serve_of_answer_ok hanswer⟩

theorem checkpoint (hheld : (frees && shared.locked) = false) (hstop : stop shared) :
    (Cursor.checkpoint key height).Halts frees (fun _ => stop)
      (fun _ later => later.locked = shared.locked ∧
        shared.database.Raises key height later.database) shared := by
  refine (read hheld hstop).bind fun found later hfound => ?_
  obtain ⟨rfl, hrow⟩ := hfound
  have hwrite : (∀ low ∈ later.database.row key, low ≤ height) →
      (Cursor.write key height).Halts frees (fun _ => stop)
        (fun _ last => last.locked = later.locked ∧
          later.database.Raises key height last.database) later := by
    intro hle
    refine (write hheld hstop).mono (fun _ _ => id) fun _ last hlast => ⟨hlast.1, ?_⟩
    obtain ⟨-, hevents, hset, hothers⟩ := Database.setCursor_ok hlast.2
    refine ⟨hevents, hset.trans ?_, hothers⟩
    cases hlow : later.database.row key with
    | none => rfl
    | some low => exact congrArg some (Int.max_eq_right (hle low hlow)).symm
  cases found with
  | none =>
    refine hwrite fun low hlow => ?_
    rw [hrow] at hlow
    cases hlow
  | some current =>
    dsimp only
    by_cases hle : height ≤ current
    · rw [if_pos hle]
      refine pure ⟨rfl, rfl, hrow.trans ?_, fun _ _ => rfl⟩
      rw [hrow]
      exact congrArg some (Int.max_eq_left (Int.ofNat_le.mpr hle)).symm
    · rw [if_neg hle]
      refine hwrite fun low hlow => ?_
      rw [hrow] at hlow
      cases hlow
      exact Int.ofNat_le.mpr (Nat.le_of_not_le hle)

theorem lowest (hheld : (frees && shared.locked) = false) (hstop : stop shared)
    (members : List String) (low : Option Nat) :
    (Watermark.lowest members low).Halts frees (fun _ => stop) (fun _ later => later = shared)
      shared := by
  induction members generalizing low with
  | nil => exact pure rfl
  | cons member rest ih =>
    refine (read hheld hstop).bind fun found later hfound => ?_
    obtain ⟨rfl, -⟩ := hfound
    cases found with
    | none => exact pure rfl
    | some height => exact ih _

/-- A refresh fails while it holds the lock only, and moves no cursor but the shared one. -/
theorem refresh (watermark : Watermark)
    (hstop : ∀ later, stop later → later.locked = true)
    (hheld : stop { shared with locked := true }) :
    watermark.refresh.Halts true (fun _ => stop) (fun _ later => later.locked = false ∧
      later.database.events = shared.database.events ∧
        ∀ other, other ≠ watermark.shared → later.database.row other = shared.database.row other)
      shared := by
  refine ⟨fun fault failure later hanswer => ?_, fun fault value later hanswer => ?_⟩
  · simp only [Shared.answer] at hanswer
    split at hanswer <;> cases hanswer
  · simp only [Shared.answer] at hanswer
    split at hanswer
    · cases hanswer
    · cases hanswer
      refine ending ((lowest rfl hheld _ _).bind fun low later hlater => ?_) (fun _ => hstop)
        fun _ later hlater => ⟨rfl, hlater⟩
      subst hlater
      cases low with
      | none => exact pure ⟨rfl, fun _ _ => rfl⟩
      | some height =>
        refine (checkpoint rfl hheld).bind fun _ last hlast => ?_
        exact pure ⟨hlast.2.events, hlast.2.others⟩

end Routine.Halts

/-- The highest of a cursor and of the heights that works declare complete. -/
def highest (row : Option Int) (works : List Work) : Option Int :=
  (row.toList ++ (Progress.declared works).map Int.ofNat).max?

theorem max?_append (first second : List Int) :
    (first ++ second).max? = (first.max?.toList ++ second).max? := by
  cases first with
  | nil => rfl
  | cons height rest =>
    show some ((rest ++ second).foldl max height) = some (second.foldl max (rest.foldl max height))
    rw [List.foldl_append]

theorem highest_append (row : Option Int) (first second : List Work) :
    highest row (first ++ second) = highest (highest row first) second := by
  unfold highest
  rw [Progress.declared_append, List.map_append, ← List.append_assoc, max?_append]

theorem highest_checkpoint (row : Option Int) (height : Nat) :
    highest row [.checkpoint height] = some (raised row height) := by
  cases row <;> rfl

theorem highest_of_none (row : Option Int) {works : List Work}
    (h : Progress.declared works = []) : highest row works = row := by
  unfold highest
  rw [h]
  cases row <;> rfl

/-- Where a work may fail: before it has changed anything or, once the watcher's cursor is raised,
while the shared one is being moved. -/
def Work.FailsAt (watcher : Watcher) (work : Work) (before : Database) (shared : Shared) : Prop :=
  (shared.locked = false ∧ shared.database = before) ∨
    (shared.locked = true ∧ ∃ height, work = .checkpoint height ∧
      before.Raises watcher.key height shared.database)

section

variable {watcher : Watcher} {work : Work} {shared : Shared}

/-- What a request that stores some events leaves. -/
theorem Database.of_stored {database after : Database} {events : List Event}
    (h : ((database.append events).1.map fun _ => (), (database.append events).2) =
      (.ok (), after)) :
    after.events = keepAll database.events events ∧ ∀ key, after.row key = database.row key := by
  cases happend : database.append events with
  | mk result later =>
    rw [happend] at h
    cases result with
    | error failure => cases h
    | ok rows =>
      cases h
      exact ⟨by rw [eq_of_append happend], fun key => row_of_append happend key⟩

theorem Work.halts (work : Work) (hfree : shared.locked = false)
    (happart : ∀ watermark ∈ watcher.watermark, watermark.shared ≠ watcher.key) :
    (work.deliver watcher).Halts true (fun _ => work.FailsAt watcher shared.database)
      (fun _ later => later.locked = false ∧
        later.database.events = keepAll shared.database.events (eventsOf [work]) ∧
        later.database.row watcher.key = highest (shared.database.row watcher.key) [work])
      shared := by
  have hstop : work.FailsAt watcher shared.database shared := .inl ⟨hfree, rfl⟩
  have hheld : (true && shared.locked) = false := hfree
  cases work with
  | skip => exact .pure ⟨hfree, rfl, (highest_of_none _ rfl).symm⟩
  | element event =>
    refine .request hheld hstop fun fault value later hanswer => ?_
    obtain ⟨hevents, hrow⟩ := Database.of_stored (Shared.serve_of_answer_ok hanswer)
    exact ⟨(Shared.locked_of_answer hanswer nofun nofun).trans hfree, hevents,
      (hrow _).trans (highest_of_none _ rfl).symm⟩
  | many events =>
    have hsame : eventsOf [.many events] = events := List.append_nil events
    rw [hsame]
    cases events with
    | nil => exact .pure ⟨hfree, rfl, (highest_of_none _ rfl).symm⟩
    | cons event rest =>
      refine .request hheld hstop fun fault value later hanswer => ?_
      obtain ⟨hevents, hrow⟩ := Database.of_stored (Shared.serve_of_answer_ok hanswer)
      exact ⟨(Shared.locked_of_answer hanswer nofun nofun).trans hfree, hevents,
        (hrow _).trans (highest_of_none _ rfl).symm⟩
  | checkpoint height =>
    rw [highest_checkpoint]
    refine (Routine.Halts.checkpoint hheld hstop).bind fun _ later hlater => ?_
    obtain ⟨hlocked, hraises⟩ := hlater
    cases hwatermark : watcher.watermark with
    | none => exact .pure ⟨hlocked.trans hfree, hraises.events, hraises.row⟩
    | some watermark =>
      have hkey : watcher.key ≠ watermark.shared := (happart watermark hwatermark).symm
      have hrefresh : watermark.refresh.Halts true
          (fun _ last => last.locked = true ∧ last.database = later.database) _ later :=
        .refresh watermark (fun _ h => h.1) ⟨rfl, rfl⟩
      have hfails : ∀ last : Shared, last.locked = true ∧ last.database = later.database →
          (Work.checkpoint height).FailsAt watcher shared.database last :=
        fun last hlast => .inr ⟨hlast.1, height, rfl, hlast.2 ▸ hraises⟩
      refine (hrefresh.mono (fun _ => hfails) fun _ _ => id).bind fun _ last hlast => ?_
      obtain ⟨hfreed, hevents, hrows⟩ := hlast
      exact .pure ⟨hfreed, hevents.trans hraises.events, (hrows _ hkey).trans hraises.row⟩

end

/-! ### Messages -/

theorem deliver_append (watcher : Watcher) (first second : Message) :
    deliver watcher (first ++ second) =
      deliver watcher first >>= fun _ => deliver watcher second := by
  induction first with
  | nil => rfl
  | cons work rest ih =>
    show (work.deliver watcher >>= fun _ => deliver watcher (rest ++ second)) =
      (work.deliver watcher >>= fun _ => deliver watcher rest) >>= fun _ => deliver watcher second
    rw [Routine.bind_assoc, ih]

/-- What a database has become by works that were done on it where nothing failed. -/
structure Settled (watcher : Watcher) (database : Database) (works : List Work)
    (settled : Database) : Prop where
  run : (deliver watcher works).run (Chain.serve [] 0) database = (.ok (), settled)
  events : settled.events = keepAll database.events (eventsOf works)
  row : settled.row watcher.key = highest (database.row watcher.key) works

/-- Where some works may fail: at a request of one of them, those before it being done, and of its
message some and of the messages after it `queued` still to be done. -/
def Stops (watcher : Watcher) (database : Database) (works queued : List Work)
    (rest : Routine Unit) (shared : Shared) : Prop :=
  ∃ earlier work more current settled, works = earlier ++ work :: (more ++ queued) ∧
    (work.deliver watcher).Reaches current ∧ rest = (current >>= fun _ => deliver watcher more) ∧
    Settled watcher database earlier settled ∧ work.FailsAt watcher settled shared

section

variable {watcher : Watcher} {work : Work} {shared : Shared} {database after : Database}
  {works done message queued : List Work}

theorem Settled.nil (watcher : Watcher) (database : Database) :
    Settled watcher database [] database :=
  ⟨rfl, rfl, (highest_of_none _ rfl).symm⟩

theorem Settled.concat (h : Settled watcher database done shared.database)
    (hrun : (work.deliver watcher).run (Chain.serve [] 0) shared.database = (.ok (), after))
    (hevents : after.events = keepAll shared.database.events (eventsOf [work]))
    (hrow : after.row watcher.key = highest (shared.database.row watcher.key) [work]) :
    Settled watcher database (done ++ [work]) after := by
  refine ⟨?_, ?_, ?_⟩
  · rw [deliver_append, Routine.run_bind, h.run]
    show ((work.deliver watcher) >>= fun _ => pure ()).run (Chain.serve [] 0) shared.database = _
    rw [Routine.run_bind, hrun]
    rfl
  · rw [hevents, h.events, eventsOf_append, keepAll_append]
  · rw [hrow, h.row, highest_append]

theorem halts_deliver (happart : ∀ watermark ∈ watcher.watermark, watermark.shared ≠ watcher.key)
    (hworks : works = done ++ (message ++ queued)) (hfree : shared.locked = false)
    (hdone : Settled watcher database done shared.database) :
    (deliver watcher message).Halts true (Stops watcher database works queued)
      (fun _ later => later.locked = false ∧
        Settled watcher database (done ++ message) later.database) shared := by
  -- The works of the message are done in order, so each joins those that are done.
  induction message generalizing done shared with
  | nil => exact .pure ⟨hfree, (List.append_nil done).symm ▸ hdone⟩
  | cons work more ih =>
    have hwork := (work.halts hfree happart).with_run.at_request
    have hstops : ∀ current later, (work.deliver watcher).Reaches current ∧
        work.FailsAt watcher shared.database later →
          Stops watcher database works queued (current >>= fun _ => deliver watcher more) later :=
      fun current later hfails =>
        ⟨done, work, more, current, _, hworks, hfails.1, rfl, hdone, hfails.2⟩
    refine (hwork.mono hstops fun _ _ => id).bind fun _ later hlater => ?_
    obtain ⟨⟨hfreed, hevents, hrow⟩, hrun⟩ := hlater
    have hsplit : works = done ++ [work] ++ (more ++ queued) := by simp [hworks]
    have hnext := ih hsplit hfreed (hdone.concat hrun hevents hrow)
    rwa [List.append_assoc] at hnext

end

end EventIndexer
