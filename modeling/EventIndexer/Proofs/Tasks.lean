import EventIndexer.Backfill
import EventIndexer.Delivery
import EventIndexer.Proofs.Ownership
import EventIndexer.Proofs.Stitching
import EventIndexer.Tracker

/-! What the tasks of an engine promise: the consumer of a watcher, the backfill, and the seeding of
the watchers' cursors.  Each is an actor that keeps to its rules.  What an invariant demands before
events are stored or a cursor is moved is left to whoever uses it. -/

namespace EventIndexer

/-- Whether some events may be stored. -/
def Storable (inv : Database → Prop) (events : List Event) : Prop :=
  ∀ database after rows, inv database → database.append events = (.ok rows, after) → inv after

/-- Whether the works of a message may be delivered in their order once some events are known to be
held: a checkpoint must be allowed by what is held before it. -/
def Deliverable (inv : Database → Prop) (key : String) : List Event → Message → Prop
  | _, [] => True
  | known, work :: rest =>
    Storable inv (eventsOf [work]) ∧
      (∀ height, work = .checkpoint height → ∀ database : Database,
        (∀ event ∈ known, database.Holds event) → Allows inv key height database) ∧
      Deliverable inv key (known ++ eventsOf [work]) rest

namespace Actor

variable {actor : Actor} {inv : Database → Prop} {world now : World} {events : List Event}
  {node : (request : Request) → request.Reply → Prop}

/-! ### Messages -/

theorem own_append (actor : Actor) (hstorable : Storable inv events) {reply : Except Failure Unit}
    {database : Database}
    (hreply : (now.database.append events).1.map (fun _ => ()) = reply)
    (hdatabase : (now.database.append events).2 = database) :
    actor.Own inv now { now with database } ∧
      (∀ key, database.row key = now.database.row key) ∧
      ∀ answer, reply = .ok answer → ∀ event ∈ events, database.Holds event := by
  cases happend : now.database.append events with
  | mk result after =>
    rw [happend] at hreply hdatabase
    subst hreply hdatabase
    cases result with
    | error failure =>
      obtain rfl := Database.append_error happend
      exact ⟨.refl _, fun _ => rfl, fun answer h => nomatch h⟩
    | ok rows =>
      have hrow := Database.row_of_append happend
      exact ⟨⟨Database.grows_of_append happend, fun key _ => hrow key, fun _ _ => Iff.rfl,
        fun hinv => hstorable _ _ rows hinv happend⟩, hrow,
        fun _ _ => (Database.append_ok happend).2.1⟩

theorem keeps_storeBatch (hstorable : Storable inv events) :
    actor.Keeps inv node (Routine.request (.storeBatch events)) world fun _ later =>
      (∀ event ∈ events, later.database.Holds event) ∧ actor.Still world later := by
  refine Keeps.statement (fun _ h => nomatch h) fun now hnow reply database hanswer => ?_
  simp only [Database.answer, Option.some.injEq, Prod.mk.injEq] at hanswer
  obtain ⟨hown, hrows, hheld⟩ := own_append actor hstorable hanswer.1 hanswer.2
  exact ⟨hown, fun answer hok later hlater =>
    ⟨fun event hmem => hlater.grows.holds (hheld answer hok event hmem),
      Still.around hnow hown.since hrows hlater⟩⟩

theorem keeps_storeOne {event : Event} (hstorable : Storable inv [event]) :
    actor.Keeps inv node (Routine.request (.storeOne event)) world fun _ later =>
      later.database.Holds event := by
  refine Keeps.statement (fun _ h => nomatch h) fun now hnow reply database hanswer => ?_
  simp only [Database.answer, Option.some.injEq, Prod.mk.injEq] at hanswer
  obtain ⟨hown, -, hheld⟩ := own_append actor hstorable hanswer.1 hanswer.2
  exact ⟨hown, fun answer hok later hlater =>
    hlater.grows.holds (hheld answer hok event List.mem_cons_self)⟩

/-- A watcher's task moves the watcher's cursor and, with the lock, the shared one. -/
def ofWatcher (index : Nat) (watcher : Watcher) : Actor :=
  { index, keys := [watcher.key], shared := watcher.watermark.map (·.shared) }

variable {watcher : Watcher} {index : Nat} {known : List Event}

theorem keeps_work {work : Work} (hfree : world.holder ≠ some index)
    (hstorable : Storable inv (eventsOf [work]))
    (hallows : ∀ height, work = .checkpoint height → Allows inv watcher.key height world.database)
    (hallowed : ∀ watermark ∈ watcher.watermark, watermark.Allowed inv) :
    (ofWatcher index watcher).Keeps inv unasked (work.deliver watcher) world fun _ later =>
      ∀ event ∈ eventsOf [work], later.database.Holds event := by
  cases work with
  | skip => exact Keeps.pure fun later _ event hmem => nomatch hmem
  | element event =>
    refine (keeps_storeOne hstorable).mono fun _ later _ hheld other hmem => ?_
    rw [List.mem_singleton.mp hmem]
    exact hheld
  | many events =>
    have hsame : eventsOf [.many events] = events := List.append_nil events
    rw [hsame] at hstorable ⊢
    cases events with
    | nil => exact Keeps.pure fun later _ event hmem => nomatch hmem
    | cons event rest => exact (keeps_storeBatch hstorable).mono fun _ _ _ hstored => hstored.1
  | checkpoint height =>
    have howns : (ofWatcher index watcher).Owns world watcher.key := .inl List.mem_cons_self
    refine (keeps_checkpoint howns (hallows height rfl)).bind fun _ later hlater _ => ?_
    cases hshared : watcher.watermark with
    | none => exact Keeps.pure fun _ _ event hmem => nomatch hmem
    | some watermark =>
      have hlater_free : later.holder ≠ some index := fun h => hfree (hlater.holder.mp h)
      have hactor : (ofWatcher index watcher).shared = some watermark.shared := by
        simp [ofWatcher, hshared]
      have hrefresh := keeps_refresh 0 hlater_free hactor (hallowed watermark hshared)
      exact hrefresh.bind fun _ _ _ _ => Keeps.pure fun _ _ event hmem => nomatch hmem

/-- A message that is deliverable is delivered, after which all its events are held. -/
theorem keeps_deliver (message : Message) (hfree : world.holder ≠ some index)
    (hknown : ∀ event ∈ known, world.database.Holds event)
    (hdeliverable : Deliverable inv watcher.key known message)
    (hallowed : ∀ watermark ∈ watcher.watermark, watermark.Allowed inv) :
    (ofWatcher index watcher).Keeps inv unasked (deliver watcher message) world fun _ later =>
      ∀ event ∈ eventsOf message, later.database.Holds event := by
  -- The works are delivered in order, so those delivered join the events that are known.
  induction message generalizing world known with
  | nil => exact Keeps.pure fun later _ event hmem => nomatch hmem
  | cons work rest ih =>
    obtain ⟨hstorable, hallows, hrest⟩ := hdeliverable
    have hwork := keeps_work hfree hstorable (fun height h => hallows height h _ hknown) hallowed
    refine hwork.bind fun _ later hlater hheld => ?_
    have hlater_free : later.holder ≠ some index := fun h => hfree (hlater.holder.mp h)
    have hlater_known : ∀ event ∈ known ++ eventsOf [work], later.database.Holds event := by
      intro event hmem
      rcases List.mem_append.mp hmem with hmem | hmem
      · exact hlater.grows.holds (hknown event hmem)
      · exact hheld event hmem
    refine (ih hlater_free hlater_known hrest).mono fun _ last hlast hrest event hmem => ?_
    rw [show work :: rest = [work] ++ rest from rfl, eventsOf_append, List.mem_append] at hmem
    rcases hmem with hmem | hmem
    · exact hlast.grows.holds (hheld event hmem)
    · exact hrest event hmem

end Actor

/-! ### The backfill -/

/-- What a backfill relies on: the seed, the events of each range, and the end of a range whose
events are held right above the cursor, are allowed by the invariant. -/
structure Fillable (inv : Database → Prop) (node : (request : Request) → request.Reply → Prop)
    (settings : Settings) : Prop where
  bounded : ∀ database, inv database → ∀ low,
    database.row settings.cursorKey = some low → low < columnBound
  seeded : ∀ database, inv database → database.row settings.cursorKey = none →
    Allows inv settings.cursorKey settings.cursorSeed database
  storable : ∀ (head cursor last : Nat) logs,
    node (.head settings.retryDeadline settings.retryInterval) (.ok head) → last ≤ head →
      node (.chunk
        { address := settings.address, kinds := settings.events, first := cursor + 1, last })
        (.ok logs) →
      ∀ database, inv database → database.row settings.cursorKey = some (cursor : Int) →
        Storable inv (decodeAll logs).1
  allowed : ∀ (head cursor last : Nat) logs,
    node (.head settings.retryDeadline settings.retryInterval) (.ok head) → last ≤ head →
    cursor ≤ last → node (.chunk
      { address := settings.address, kinds := settings.events, first := cursor + 1, last })
      (.ok logs) →
    ∀ database, inv database → database.row settings.cursorKey = some (cursor : Int) →
      (∀ event ∈ (decodeAll logs).1, database.Holds event) →
        Allows inv settings.cursorKey last database

theorem batchRange_some {first head width start last : Nat} (hfirst : first ≤ maxHeight)
    (h : batchRange first head width = some (start, last)) :
    start = first ∧ first ≤ last ∧ last ≤ head := by
  unfold batchRange at h
  split at h
  · cases h
  · cases h
    omega

theorem Settings.width_of_validate {settings : Settings} (h : settings.validate = .ok ()) :
    0 < settings.maxRangeWidth := by
  unfold Settings.validate at h
  split at h
  · cases h
  · next hwidth => exact Nat.pos_of_ne_zero hwidth

theorem Settings.events_of_validate {settings : Settings} (h : settings.validate = .ok ()) :
    settings.events ≠ [] := by
  intro hnil
  unfold Settings.validate at h
  split at h
  · cases h
  · cases h

namespace Actor

variable {actor : Actor} {inv : Database → Prop} {world : World} {settings : Settings}
  {node : (request : Request) → request.Reply → Prop}

theorem keeps_chunk (filter : ChunkFilter) :
    actor.Keeps inv node (Routine.request (.chunk filter)) world fun logs later =>
      node (.chunk filter) (.ok logs) ∧ actor.Still world later :=
  keeps_ask (fun _ => rfl) nofun nofun

theorem keeps_head (deadline interval : Nat) :
    actor.Keeps inv node (Routine.request (.head deadline interval)) world fun head later =>
      node (.head deadline interval) (.ok head) ∧ actor.Still world later :=
  keeps_ask (fun _ => rfl) nofun nofun

/-- A checkpoint that is not below the cursor is where the cursor is afterwards. -/
theorem keeps_record {α : Type} {key : String} {cursor last : Nat} {value : α}
    (hkey : key ∈ actor.keys) (hle : cursor ≤ last)
    (hallows : Allows inv key last world.database)
    (hrow : world.database.row key = some (cursor : Int)) :
    actor.Keeps inv node (Cursor.checkpoint key last >>= fun _ => Pure.pure value) world
      fun _ later => later.database.row key = some (last : Int) := by
  refine (keeps_checkpoint (.inl hkey) hallows).bind fun _ now _ hset => ?_
  refine Keeps.pure fun later hlater => (hlater.rows key (.inl hkey)).trans ?_
  rw [hset, hrow]
  exact congrArg some (Int.max_eq_right (Int.ofNat_le.mpr hle))

/-- A range right above the cursor that is queried, stored and recorded. -/
theorem keeps_batch (hfill : Fillable inv node settings) (hkey : settings.cursorKey ∈ actor.keys)
    {head cursor last : Nat}
    (hhead : node (.head settings.retryDeadline settings.retryInterval) (.ok head))
    (hlast : last ≤ head) (hle : cursor ≤ last) (hinv : inv world.database)
    (hrow : world.database.row settings.cursorKey = some (cursor : Int)) :
    actor.Keeps inv node (Backfill.batch settings (cursor + 1) last) world fun _ later =>
      later.database.row settings.cursorKey = some (last : Int) := by
  refine (keeps_chunk _).within.bind fun logs now hnow hlogs => ?_
  obtain ⟨hnode, hstill⟩ := hlogs
  have hnow_row := (hstill _ (.inl hkey)).trans hrow
  have hnow_inv := hnow.kept hinv
  have hstorable := hfill.storable head cursor last logs hhead hlast hnode _ hinv hrow
  have hallowed := hfill.allowed head cursor last logs hhead hlast hle hnode
  generalize decodeAll logs = decoded at hstorable hallowed ⊢
  obtain ⟨events, skipped⟩ := decoded
  cases events with
  | nil =>
    have hnow_allows := hallowed _ hnow_inv hnow_row fun _ h => nomatch h
    exact keeps_record hkey hle hnow_allows hnow_row
  | cons event rest =>
    refine (keeps_storeBatch hstorable).within.bind fun _ next hnext hstored => ?_
    obtain ⟨hheld, hnext_still⟩ := hstored
    have hnext_row := (hnext_still _ (.inl hkey)).trans hnow_row
    have hnext_allows := hallowed _ (hnext.kept hnow_inv) hnext_row hheld
    exact keeps_record hkey hle hnext_allows hnext_row

theorem keeps_sweep (hfill : Fillable inv node settings) (hkey : settings.cursorKey ∈ actor.keys)
    (hwidth : 0 < settings.maxRangeWidth) {head : Nat}
    (hhead : node (.head settings.retryDeadline settings.retryInterval) (.ok head))
    (limit : Nat) {cursor : Nat} {report : Backfill.Report} (hinv : inv world.database)
    (hrow : world.database.row settings.cursorKey = some (cursor : Int))
    (hlimit : head ≤ cursor + limit) (hcursor : report.cursor = cursor)
    (hreport : report.head = head) :
    actor.Keeps inv node (Backfill.sweep settings head limit (cursor + 1) report) world
      fun report later => later.database.row settings.cursorKey = some (report.cursor : Int) ∧
        report.head = head ∧ head ≤ report.cursor := by
  have howns : ∀ now : World, actor.Owns now settings.cursorKey := fun _ => .inl hkey
  have hstop : ∀ {now : World} {cursor : Nat} {report : Backfill.Report},
      now.database.row settings.cursorKey = some (cursor : Int) → report.cursor = cursor →
      report.head = head → head ≤ cursor →
        actor.Keeps inv node (Pure.pure report) now fun report later =>
          later.database.row settings.cursorKey = some (report.cursor : Int) ∧
            report.head = head ∧ head ≤ report.cursor := by
    intro now cursor report hrow hcursor hreport hle
    refine Keeps.pure fun later hlater => ⟨?_, hreport, hcursor ▸ hle⟩
    rw [hlater.rows _ (howns _), hrow, hcursor]
  -- Each range raises the cursor by one at least, so the limit never runs out below the head.
  induction limit generalizing world cursor report with
  | zero => exact hstop hrow hcursor hreport (by omega)
  | succ limit ih =>
    unfold Backfill.sweep
    have hbound : (cursor : Int) < columnBound := hfill.bounded _ hinv _ hrow
    have hcolumn : columnBound ≤ maxHeight := by decide
    cases hrange : batchRange (cursor + 1) head settings.maxRangeWidth with
    | none =>
      have hnone := batchRange_eq_none.mp hrange
      exact hstop hrow hcursor hreport (by omega)
    | some range =>
      obtain ⟨first, last⟩ := range
      obtain ⟨rfl, hfirst, hlast⟩ := batchRange_some (by omega) hrange
      dsimp only
      refine (keeps_batch hfill hkey hhead hlast (by omega) hinv hrow).bind
        fun counts now hnow hset => ?_
      by_cases hend : last = head
      · simp only [hend, if_true]
        exact hstop (hend ▸ hset) rfl hreport (Nat.le_refl _)
      · simp only [hend, if_false]
        exact ih (hnow.kept hinv) hset (by omega) rfl hreport

/-- A backfill that ends has brought the cursor up to the head that it was told of, or found it
there or past it. -/
theorem keeps_backfill (hfill : Fillable inv node settings) (hkey : settings.cursorKey ∈ actor.keys)
    (hinv : inv world.database) :
    actor.Keeps inv node (Backfill.run settings) world fun report later =>
      later.database.row settings.cursorKey = some (report.cursor : Int) ∧
        report.head ≤ report.cursor ∧
          node (.head settings.retryDeadline settings.retryInterval) (.ok report.head) := by
  have howns : ∀ now : World, actor.Owns now settings.cursorKey := fun _ => .inl hkey
  unfold Backfill.run
  cases hvalid : settings.validate with
  | error failure => exact Keeps.fail
  | ok _ =>
    have hwidth := Settings.width_of_validate hvalid
    refine (keeps_loadOrSeed (howns world) (hfill.seeded _ hinv)).bind
      fun cursor now hnow hrow => ?_
    refine (keeps_head _ _).bind fun head next hnext hhead => ?_
    have hnext_row := (hhead.2 _ (howns _)).trans hrow
    by_cases hle : head ≤ cursor
    · simp only [hle, if_true]
      refine Keeps.pure fun later hlater => ⟨?_, hle, hhead.1⟩
      rw [hlater.rows _ (howns _), hnext_row]
    · simp only [hle, if_false]
      refine (keeps_sweep hfill hkey hwidth hhead.1 _ (hnext.kept (hnow.kept hinv)) hnext_row
        (by omega) rfl rfl).mono fun report later _ hreport => ?_
      obtain ⟨hreport_row, rfl, hreport_le⟩ := hreport
      exact ⟨hreport_row, hreport_le, hhead.1⟩

/-! ### The seeding -/

/-- The cursors of the watchers are brought up to a height, and the watchers begin no higher than
their cursors are. -/
theorem keeps_seed {handoff : Nat} (watchers : List Watcher)
    (hkeys : ∀ watcher ∈ watchers, watcher.key ∈ actor.keys)
    (hallows : ∀ watcher ∈ watchers, Allows inv watcher.key handoff world.database) :
    actor.Keeps inv node (Tracker.seed handoff watchers) world fun starts later =>
      starts.map (·.1) = watchers ∧
        ∀ start ∈ starts, handoff ≤ start.2 ∧ later.database.Reaches start.1.key start.2 := by
  induction watchers generalizing world with
  | nil => exact Keeps.pure fun _ _ => ⟨rfl, fun _ h => nomatch h⟩
  | cons watcher rest ih =>
    have howns : ∀ now : World, actor.Owns now watcher.key :=
      fun _ => .inl (hkeys watcher List.mem_cons_self)
    have hallow := hallows watcher List.mem_cons_self
    unfold Tracker.seed
    refine (keeps_loadOrSeed (howns world) fun _ => hallow).bind fun stored now hnow hrow => ?_
    have hrest : ∀ next : World, actor.Since inv now next →
        next.database.Reaches watcher.key (max stored handoff) →
          actor.Keeps inv node (do
            let starts ← Tracker.seed handoff rest
            return (watcher, max stored handoff) :: starts) next fun starts later =>
              starts.map (·.1) = watcher :: rest ∧
                ∀ start ∈ starts, handoff ≤ start.2 ∧
                  later.database.Reaches start.1.key start.2 := by
      intro next hnext hreached
      have hgrows := hnow.grows.trans hnext.grows
      refine (ih (fun other hmem => hkeys other (List.mem_cons_of_mem _ hmem))
        fun other hmem => (hallows other (List.mem_cons_of_mem _ hmem)).of_grows hgrows).bind
          fun starts last hlast hstarts => Keeps.pure fun later hlater => ?_
      refine ⟨congrArg (watcher :: ·) hstarts.1, fun start hmem => ?_⟩
      rcases List.mem_cons.mp hmem with rfl | hmem
      · exact ⟨Nat.le_max_right _ _, (hlast.grows.trans hlater.grows).reaches hreached⟩
      · obtain ⟨hle, hstart⟩ := hstarts.2 start hmem
        exact ⟨hle, hlater.grows.reaches hstart⟩
    by_cases hlow : stored < handoff
    · simp only [hlow, if_true]
      refine (keeps_checkpoint (howns now) (hallow.of_grows hnow.grows)).bind
        fun _ next hnext hset => hrest next hnext ?_
      refine ⟨_, hset, ?_⟩
      rw [hrow]
      show ((max stored handoff : Nat) : Int) ≤ max (stored : Int) handoff
      omega
    · simp only [hlow, if_false]
      refine hrest now (.refl _) ⟨stored, hrow, ?_⟩
      omega

end Actor

end EventIndexer
