import EventIndexer.Proofs.CursorOrder
import EventIndexer.Proofs.History

/-! Engines that resume on one database, each with kinds of its own to track.  An engine hands over
at the height of the main cursor and lifts the cursor of each watched kind to that height.  It has
seen to the kind only above the height at which it found the main cursor, so the lift leaves nothing
behind exactly where nothing of the kind is missing below that height.  Where an engine before it
moved the main cursor without the kind, something may be. -/

namespace EventIndexer

/-! ### Requests -/

theorem World.Replied.database_cases {node : (request : Request) → request.Reply → Prop}
    {index : Nat} {request : Request} {world later : World} {reply : request.Reply}
    (h : World.Replied node index request world reply later) :
    later.database = world.database ∨
      ∃ reply, world.database.answer request = some (reply, later.database) := by
  cases h with
  | performed hanswer => exact .inr ⟨reply, hanswer⟩
  | failed | locked | unlocked | told => exact .inl rfl

/-- A step of the tracker makes one request of the database at most. -/
theorem Tracker.database_of_step {settings : Settings} {cancelled : Bool}
    {database later : Database} {tracker after : Tracker} {step : Tracker.Step}
    (h : tracker.step settings cancelled database step = some (later, after)) :
    later = database ∨ ∃ request reply, database.answer request = some (reply, later) := by
  cases step with
  | spawn | opened =>
    simp only [Tracker.step] at h
    repeat' split at h
    all_goals first
      | cases h
        exact .inl rfl
      | cases h
  | produce i move =>
    simp only [Tracker.step, Option.bind_eq_bind, Option.bind_eq_some_iff] at h
    obtain ⟨_, -, _, -, h⟩ := h
    cases h
    exact .inl rfl
  | consume i move =>
    simp only [Tracker.step, Option.bind_eq_bind, Option.bind_eq_some_iff] at h
    obtain ⟨tasks, -, ⟨shared, fired, moved⟩, hconsume, h⟩ := h
    cases h
    cases WatcherTasks.consumes_of_consume hconsume with
    | perform _ hanswer =>
      let world : World := { database, holder := if tracker.locked then some 0 else none }
      have hlocked : tracker.locked = world.holder.isSome := by
        cases hcase : tracker.locked <;> simp [world, hcase]
      have hdatabase : database = world.database := rfl
      obtain ⟨later, hreplied, hlater, -⟩ :=
        WatcherTasks.replied_of_answer 0 hanswer hdatabase hlocked
      rw [hlater]
      exact hreplied.database_cases.imp_right fun hreply => ⟨_, hreply⟩
    | take | finish | fail | stop | drained => exact .inl rfl
  | joinProducer i | joinConsumer i =>
    simp only [Tracker.step, Option.bind_eq_bind, Option.bind_eq_some_iff] at h
    obtain ⟨_, -, h⟩ := h
    repeat' split at h
    all_goals first
      | cases h
        exact .inl rfl
      | cases h

/-- A step of an engine makes one request of the database at most. -/
theorem Engine.database_of_step {engine after : Engine} {step : Step}
    (h : engine.step step = some after) : after.database = engine.database ∨
      ∃ request reply, engine.database.answer request = some (reply, after.database) := by
  cases moves_of_step h with
  | filled _ hperformed | seeding _ hperformed =>
    have hreplied := replied_of_performed hperformed (fun _ _ => True) 0 none
    exact hreplied.database_cases.imp_right fun hreply => ⟨_, hreply⟩
  | track _ hstep => exact Tracker.database_of_step hstep
  | cancel | told | backfilled | seeded | tracked | broken => exact .inl rfl

theorem Database.Fits.answer {database after : Database} {request : Request}
    {reply : request.Reply} (h : database.Fits)
    (hanswer : database.answer request = some (reply, after)) : after.Fits := by
  have happend : ∀ events, (database.append events).2.Fits := by
    intro events
    cases hresult : database.append events with
    | mk result later =>
      cases result with
      | ok rows => exact storable_fits events _ _ rows h hresult
      | error failure => exact append_error hresult ▸ h
  cases request with
  | readCursor key =>
    cases hanswer
    exact h
  | writeCursor key height =>
    have hset := Option.some.inj hanswer
    cases reply with
    | ok _ => exact h.setCursor hset
    | error failure => exact setCursor_error hset ▸ h
  | storeOne event =>
    cases hanswer
    exact happend _
  | storeBatch events =>
    cases hanswer
    exact happend _
  | _ => cases hanswer

theorem Engine.fits_of_step {engine after : Engine} {step : Step}
    (h : engine.step step = some after) (hfits : engine.database.Fits) : after.database.Fits := by
  rcases database_of_step h with hsame | ⟨request, reply, hanswer⟩
  · rwa [hsame]
  · exact hfits.answer hanswer

/-! ### A gap to fill -/

/-- The height of a cursor, or a seed where none is stored. -/
def Database.heightOr (database : Database) (key : String) (seed : Nat) : Nat :=
  (database.row key).elim seed Int.toNat

theorem Database.heightOr_of_row {database : Database} {key : String} {height seed : Nat}
    (h : database.row key = some (height : Int)) : database.heightOr key seed = height := by
  simp [heightOr, h]

/-- What is left to an engine that begins on a database: the events of its kinds above the main
cursor. -/
def Settings.gap (settings : Settings) (chain : Chain) (start : Database) : Scope :=
  { chain
    address := settings.address
    kinds := settings.events
    key := settings.cursorKey
    seed := start.heightOr settings.cursorKey settings.cursorSeed }

namespace Resuming

variable (chain : Chain) (settings : Settings) (start : Database)

/-- What holds while the backfill of an engine runs.  Only the main cursor is moved, and nothing of
the gap is missing below it. -/
structure Filling (database : Database) : Prop where
  fits : database.Fits
  grows : start.Grows database
  others : ∀ key, key ≠ settings.cursorKey → database.row key = start.row key
  reached : ∀ height : Nat, database.row settings.cursorKey = some (height : Int) →
    ∀ kind ∈ settings.events, (settings.gap chain start).Reached database kind height

/-- What holds while the cursors of the watchers are lifted to a height. -/
structure Lifting (handoff : Nat) (database : Database) : Prop where
  stored : database.row settings.cursorKey = some (handoff : Int)
  reached : ∀ kind ∈ settings.events, (settings.gap chain start).Reached database kind handoff
  others : ∀ key, key ≠ settings.cursorKey → database.row key = start.row key ∨
    (database.row key = some (handoff : Int) ∧ ∀ low, start.row key = some low → low < handoff)

variable {chain settings start} {database after : Database}

theorem Filling.first (hfits : start.Fits) : Filling chain settings start start where
  fits := hfits
  grows := .refl start
  others := fun _ _ => rfl
  reached := by
    intro height hrow kind _
    have hseed : (settings.gap chain start).seed = height := Database.heightOr_of_row hrow
    exact hseed ▸ Scope.reached_seed start kind

theorem Filling.append (h : Filling chain settings start database) {events : List Event}
    {rows : Nat} (happend : database.append events = (.ok rows, after)) :
    Filling chain settings start after where
  fits := Database.storable_fits events database after rows h.fits happend
  grows := h.grows.trans (Database.grows_of_append happend)
  others := fun key hne => (Database.row_of_append happend key).trans (h.others key hne)
  reached := by
    intro height hrow kind hkind
    rw [Database.row_of_append happend] at hrow
    exact (h.reached height hrow kind hkind).of_grows (Database.grows_of_append happend)

/-- The main cursor may be set to a height below which nothing of the gap is missing. -/
theorem Filling.setCursor (h : Filling chain settings start database) {height : Nat}
    (hbelow : ∀ low, database.row settings.cursorKey = some low → low ≤ height)
    (hset : database.setCursor settings.cursorKey height = (.ok (), after))
    (hreached : ∀ kind ∈ settings.events, (settings.gap chain start).Reached database kind height) :
    Filling chain settings start after := by
  obtain ⟨-, -, hrow, hother⟩ := Database.setCursor_ok hset
  refine ⟨h.fits.setCursor hset, h.grows.trans (Database.grows_of_setCursor hset hbelow),
    fun key hne => (hother key hne).trans (h.others key hne), fun found hfound kind hkind => ?_⟩
  obtain rfl : height = found := by
    rw [hrow] at hfound
    exact Int.ofNat_inj.mp (Option.some.inj hfound)
  exact (hreached kind hkind).of_setCursor hset

variable (chain settings start) in
theorem fillable :
    Fillable (Filling chain settings start) (settings.gap chain start).node settings where
  bounded := fun _ hfilling _ hrow => hfilling.fits _ _ hrow
  seeded := by
    intro database hfilling hnone later after _ hlater hbelow hset
    have hseed : (settings.gap chain start).seed = settings.cursorSeed := by
      simp [Settings.gap, Database.heightOr, hfilling.grows.row_eq_none hnone]
    exact hlater.setCursor hbelow hset fun kind _ => hseed ▸ Scope.reached_seed later kind
  storable := fun _ _ _ _ _ _ _ _ _ _ _ _ _ hlater happend => hlater.append happend
  allowed := by
    intro head cursor last logs _ _ hle hnode database hfilling hrow hheld later after hgrows hlater
      hbelow hset
    have hlogs := Scope.logs_of_node hnode
    refine hlater.setCursor hbelow hset fun kind hkind => ?_
    have hreached := hfilling.reached cursor hrow kind hkind
    refine (hreached.extend hle fun event hmem => hheld event ?_).of_grows hgrows
    exact (Chain.mem_events hlogs).mpr (Chain.mem_due_of_kind hkind hmem)

/-- A cursor that is not above the height handed over may be set to it. -/
theorem Lifting.setCursor {handoff : Nat} (h : Lifting chain settings start handoff database)
    {key : String} (hbelow : ∀ low, database.row key = some low → low ≤ handoff)
    (hset : database.setCursor key handoff = (.ok (), after)) :
    Lifting chain settings start handoff after := by
  obtain ⟨-, -, hrow, hother⟩ := Database.setCursor_ok hset
  refine ⟨?_, fun kind hkind => (h.reached kind hkind).of_setCursor hset, fun other hne => ?_⟩
  · by_cases hkey : settings.cursorKey = key
    · rw [hkey, hrow]
    · rw [hother _ hkey, h.stored]
  · by_cases hkey : other = key
    · subst hkey
      rcases h.others other hne with hsame | ⟨-, hlow⟩
      · by_cases hthere : start.row other = some (handoff : Int)
        · exact .inl (hrow.trans hthere.symm)
        · refine .inr ⟨hrow, fun low hlow => Int.lt_iff_le_and_ne.mpr ⟨?_, ?_⟩⟩
          · exact hbelow low (hsame.trans hlow)
          · exact fun hequal => hthere (hequal ▸ hlow)
      · exact .inr ⟨hrow, hlow⟩
    · rw [hother other hkey]
      exact h.others other hne

variable (chain settings start) in
/-- An engine fills the gap, hands over where the gap ends, and lifts every watcher's cursor to that
height. -/
def plan : Engine.Plan settings where
  filling := Filling chain settings start
  seeding := Lifting chain settings start
  node := (settings.gap chain start).node
  fillable := fillable chain settings start
  handed := fun _ cursor hfilling hrow =>
    ⟨hrow, hfilling.reached cursor hrow, fun key hne => .inl (hfilling.others key hne)⟩
  seedable := fun _ _ _ _ _ _ _ _ hlater hbelow hset => hlater.setCursor hbelow hset

end Resuming

/-! ### Lifting a cursor -/

theorem Settings.mem_events_of_key {settings : Settings} {kind : Kind}
    (h : watcherKey settings.cursorKey kind ∈ settings.watchers.map (·.key)) :
    kind ∈ settings.events := by
  obtain ⟨watcher, hwatcher, hkey⟩ := List.mem_map.mp h
  rcases mem_watchers hwatcher with ⟨-, rfl⟩ | ⟨-, own, hown, rfl⟩
  · exact absurd hkey.symm (watcherKey_ne _ _)
  · rwa [← watcherKey_injective hkey]

/-- One request of the seeding keeps to what is known of the height handed over, and moves no cursor
but a watcher's. -/
theorem Engine.Plan.kept_seeding {settings : Settings} {plan : Engine.Plan settings}
    {engine : Engine} (h : plan.Kept engine) {request : Request}
    {next : request.Reply → Routine (List (Watcher × Nat))}
    (hstage : engine.stage = .seeding (.ask request next)) {fault : Option Failure}
    {reply : request.Reply} {database : Database}
    (hperformed : performed engine.database fault request = some (reply, database)) :
    ∃ handoff, plan.seeding handoff engine.database ∧ plan.seeding handoff database ∧
      engine.database.Grows database ∧ ∀ key, key ∉ settings.watchers.map (·.key) →
        database.row key = engine.database.row key := by
  unfold Kept at h
  rw [hstage] at h
  obtain ⟨handoff, hseeding, start, hsafe⟩ := h
  obtain ⟨hown, -⟩ := hsafe _ (Actor.Others.refl _) reply _
    (replied_of_performed hperformed Actor.unasked 0 none)
  refine ⟨handoff, hseeding, hown.kept hseeding, hown.grows, fun key hkey => hown.rows key ?_⟩
  rintro (hmem | ⟨hholder, -⟩)
  · exact hkey hmem
  · cases hholder

namespace Resuming

variable {chain : Chain} {settings : Settings} {start : Database} {engine after : Engine}

/-- A step that moves a kind's cursor while the cursors are lifted raises it from where the engine
found it to the height of the main cursor. -/
theorem lifted (hkept : (plan chain settings start).Kept engine) {step : Engine.Step}
    (hstep : engine.step step = some after) {routine : Routine (List (Watcher × Nat))}
    (hstage : engine.stage = .seeding routine) {kind : Kind}
    (hmoved : after.database.row (watcherKey settings.cursorKey kind) ≠
      engine.database.row (watcherKey settings.cursorKey kind)) : ∃ handoff : Nat,
      engine.database.row settings.cursorKey = some (handoff : Int) ∧
      after.database.row (watcherKey settings.cursorKey kind) = some (handoff : Int) ∧
      (settings.gap chain start).Reached engine.database kind handoff := by
  have hmoves := Engine.moves_of_step hstep
  cases hmoves with
  | @seeding fault request next reply database hseeding hperformed =>
    obtain ⟨handoff, hbefore, hafter, hgrows, hothers⟩ :=
      Engine.Plan.kept_seeding hkept hseeding hperformed
    have hkind : kind ∈ settings.events := by
      by_contra hnot
      exact hmoved (hothers _ fun hmem => hnot (Settings.mem_events_of_key hmem))
    refine ⟨handoff, hbefore.stored, ?_, hbefore.reached kind hkind⟩
    have hne := watcherKey_ne settings.cursorKey kind
    rcases hafter.others _ hne with hsame | ⟨hset, -⟩
    · rcases hbefore.others _ hne with hstart | ⟨hset, hlow⟩
      · exact absurd (hsame.trans hstart.symm) hmoved
      · -- A cursor that was lifted does not go back to where it was.
        obtain ⟨high, hhigh, hle⟩ := hgrows.rows _ _ hset
        have hlt := hlow high (hsame.symm.trans hhigh)
        omega
    · exact hset
  | cancel | seeded | broken => exact absurd rfl hmoved
  | told hother | filled hother | backfilled hother | track hother | tracked hother =>
    rw [hother] at hstage
    cases hstage

end Resuming

/-! ### Histories -/

/-- Every step of a session is one of its engine. -/
theorem Session.Step.exists_step {chain : Chain} {before after : Session}
    (h : Session.Step chain before after) :
    ∃ step, before.engine.step step = some after.engine ∧ ∀ answer request next,
      step = .reply answer → before.engine.stage = .backfilling (.ask request next) →
        ∃ ended, chain.Replies request {} (answer request) ended := by
  cases h with
  | told answer hstage hreplies hstep =>
    refine ⟨.reply answer, hstep, fun other request next hsame hasked => ?_⟩
    cases hsame
    rw [hstage] at hasked
    cases hasked
    exact ⟨_, hreplies⟩
  | spawn hstage hstep => exact ⟨_, hstep, nofun⟩
  | move hstage htasks hmover htells hstep => exact ⟨_, hstep, nofun⟩
  | other step hreply hmove hstep =>
    exact ⟨step, hstep, fun answer _ _ hsame _ => absurd hsame (hreply answer)⟩

/-- What the engines that resume one another agree on.  Which kinds each of them tracks, and how, is
its own matter. -/
structure Series where
  chain : Chain
  address : Address
  key : String
  seed : Nat

/-- Whether an engine with some settings belongs to a series. -/
structure Settings.Continues (settings : Settings) (series : Series) : Prop where
  address : settings.address = series.address
  cursorKey : settings.cursorKey = series.key
  cursorSeed : settings.cursorSeed = series.seed
  nodup : settings.events.Nodup

namespace Series

/-- The moments of a history that begins on an empty database, each with the database that the
engine at work began on.  An engine may be left at any moment. -/
inductive History (series : Series) : Database → Session → Prop
  | first {settings : Settings} {database : Database} : settings.Continues series →
    database.events = [] → database.cursors = [] →
      History series database { engine := .start settings database }
  | again {start database : Database} {before : Session} {settings : Settings} :
    History series start before → settings.Continues series →
      database.events = before.engine.database.events →
        database.cursors = before.engine.database.cursors →
          History series database { engine := .start settings database }
  | step {start : Database} {before after : Session} : History series start before →
    Session.Step series.chain before after → History series start after

/-- A step by which a kind's cursor is moved while the cursors of the watchers are lifted. -/
structure Lifts (series : Series) (kind : Kind) (before after : Session) : Prop where
  step : Session.Step series.chain before after
  seeding : ∃ routine, before.engine.stage = .seeding routine
  moved : after.engine.database.row (watcherKey series.key kind) ≠
    before.engine.database.row (watcherKey series.key kind)

/-- Whether a database holds every event of a kind above one height and up to another. -/
def Holds (series : Series) (kind : Kind) (low high : Nat) (database : Database) : Prop :=
  ∀ event ∈ series.chain.due series.address [kind] low high, database.Holds event

variable {series : Series} {start database : Database} {session before after : Session}
  {settings : Settings} {kind : Kind}

/-- What is known at every moment of a history. -/
structure Sound (series : Series) (start : Database) (settings : Settings) (session : Session) :
    Prop where
  same : session.engine.settings = settings
  continues : settings.Continues series
  fits : session.engine.database.Fits
  plan : (Resuming.plan series.chain settings start).Kept session.engine

theorem Sound.first (hcontinues : settings.Continues series) (hfits : database.Fits) :
    Sound series database settings { engine := .start settings database } :=
  ⟨rfl, hcontinues, hfits, Engine.Plan.kept_start (.first hfits)⟩

theorem Sound.step (h : Sound series start settings before)
    (hstep : Session.Step series.chain before after) : Sound series start settings after := by
  obtain ⟨step, hstep, hnode⟩ := hstep.exists_step
  have hmoves := Engine.moves_of_step hstep
  refine ⟨hmoves.settings.trans h.same, h.continues, Engine.fits_of_step hstep h.fits, ?_⟩
  by_cases htracker : ∃ tracker, before.engine.stage = .tracking tracker
  · -- The plan says nothing once the tracker runs.
    obtain ⟨tracker, hstage⟩ := htracker
    rcases hmoves.of_tracking hstage with ⟨-, hafter⟩ | ⟨_, -, hafter⟩ | ⟨_, _, _, -, -, hafter⟩
    · rw [hafter]
      exact h.plan
    · rw [hafter]
      trivial
    · rw [hafter]
      trivial
  · exact (Engine.Plan.step h.plan h.same hmoves hnode fun tracker hstage =>
      htracker ⟨tracker, hstage⟩).2

theorem History.becomes (h : series.History start session)
    (hbecomes : Session.Becomes series.chain session after) : series.History start after := by
  induction hbecomes with
  | refl => exact h
  | step _ hstep ih => exact ih.step hstep

theorem History.sound (h : series.History start session) :
    ∃ settings, Sound series start settings session := by
  induction h with
  | first hcontinues _ hcursors =>
    refine ⟨_, .first hcontinues fun key height hrow => ?_⟩
    rw [Database.row, hcursors] at hrow
    cases hrow
  | again _ hcontinues _ hcursors ih =>
    obtain ⟨_, hsound⟩ := ih
    refine ⟨_, .first hcontinues fun key height hrow => hsound.fits key height ?_⟩
    rw [Database.row, ← hcursors]
    exact hrow
  | step _ hstep ih =>
    obtain ⟨settings, hsound⟩ := ih
    exact ⟨settings, hsound.step hstep⟩

/-- Where every event above a height is held, none is missing up to there if none is missing up to
that height. -/
theorem holds_iff {low middle high : Nat} (hle : middle ≤ high)
    (h : series.Holds kind middle high database) :
    series.Holds kind low high database ↔ series.Holds kind low middle database := by
  constructor
  · intro hall event hmem
    obtain ⟨hkind, hlow, hmiddle⟩ := Chain.bounds_of_mem_due hmem
    exact hall event (Chain.mem_due_of_bounds hmem hkind hlow (Nat.le_trans hmiddle hle))
  · intro hbelow event hmem
    obtain ⟨hkind, hlow, hhigh⟩ := Chain.bounds_of_mem_due hmem
    rcases Nat.lt_or_ge middle event.height with habove | hbeneath
    · exact h event (Chain.mem_due_of_bounds hmem hkind habove hhigh)
    · exact hbelow event (Chain.mem_due_of_bounds hmem hkind hlow hbeneath)

/-- Whenever the cursor of a kind is lifted, it is lifted to the height of the main cursor, and from
where that cursor stood when the engine began, every event of the kind is held up to there.  So the
lift leaves no event behind exactly where none is missing between the kind's cursor and the place
where the main cursor stood. -/
theorem History.lift_leaves_nothing_iff (h : series.History start before)
    (hlifts : series.Lifts kind before after) :
    ∃ handoff : Nat, before.engine.database.row series.key = some (handoff : Int) ∧
      after.engine.database.row (watcherKey series.key kind) = some (handoff : Int) ∧
      series.Holds kind (start.heightOr series.key series.seed) handoff before.engine.database ∧
      (series.Holds kind
          (before.engine.database.heightOr (watcherKey series.key kind) series.seed) handoff
          before.engine.database ↔
        series.Holds kind
          (before.engine.database.heightOr (watcherKey series.key kind) series.seed)
          (start.heightOr series.key series.seed) before.engine.database) := by
  obtain ⟨settings, hsame, ⟨haddress, hkey, hseed, -⟩, -, hplan⟩ := h.sound
  obtain ⟨hstep, ⟨routine, hstage⟩, hmoved⟩ := hlifts
  obtain ⟨step, hstep, -⟩ := hstep.exists_step
  rw [← hkey] at hmoved
  obtain ⟨handoff, hmain, hset, hle, hheld⟩ := Resuming.lifted hplan hstep hstage hmoved
  have hgap : series.Holds kind (start.heightOr series.key series.seed) handoff
      before.engine.database := by
    rwa [Holds, ← haddress, ← hkey, ← hseed]
  have hbound : start.heightOr series.key series.seed ≤ handoff := by
    rwa [← hkey, ← hseed]
  exact ⟨handoff, hkey ▸ hmain, hkey ▸ hset, hgap, holds_iff hbound hgap⟩

/-! ### An engine without the kind in between -/

def stakeSeries : Series :=
  { chain := [Feed.stakeLog 2, Feed.stakeLog 3], address := 0, key := "block", seed := 0 }

def stakeWatcher : Settings := { address := 0, events := [.stake], watcherPerEvent := true }

def transferWatcher : Settings := { address := 0, events := [.transfer] }

/-- The rows left once stakes were followed up to the first block. -/
def stakesFollowed : Database := { cursors := [("block", 1), ("block:Stake", 1)] }

/-- The rows left once transfers were filled up to the second block. -/
def transfersFilled : Database := { cursors := [("block", 2), ("block:Stake", 1)] }

theorem history_stakesFollowed : ∃ start session, stakeSeries.History start session ∧
    session.engine.database = stakesFollowed := by
  have hserves : stakeWatcher.Continues stakeSeries := ⟨rfl, rfl, rfl, by decide⟩
  have hstart : stakeSeries.History {} { engine := .start stakeWatcher {} } :=
    .first hserves rfl rfl
  have hseeded : Session.Becomes stakeSeries.chain { engine := .start stakeWatcher {} } _ :=
    Session.Becomes.refl.silent (List.replicate 2 (.perform none)) rfl rfl
  have hhead := hseeded.step
    (.told (stakeSeries.chain.reply 1) rfl (.head (Nat.zero_le 1) (by decide)) rfl)
  have hlogs := hhead.step (.told (stakeSeries.chain.reply 1) rfl (.chunk (.refl _)) rfl)
  have hrecorded := hlogs.silent (List.replicate 2 (.perform none)) rfl rfl
  have hlifted := hrecorded.silent (.advance :: List.replicate 2 (.perform none)) rfl rfl
  exact ⟨_, _, hstart.becomes hlifted, rfl⟩

theorem history_transfersFilled : ∃ start session, stakeSeries.History start session ∧
    session.engine.database = transfersFilled := by
  obtain ⟨_, before, hbefore, hrows⟩ := history_stakesFollowed
  have hserves : transferWatcher.Continues stakeSeries := ⟨rfl, rfl, rfl, by decide⟩
  have hstart : stakeSeries.History stakesFollowed
      { engine := .start transferWatcher stakesFollowed } :=
    hbefore.again hserves (hrows ▸ rfl) (hrows ▸ rfl)
  have hread : Session.Becomes stakeSeries.chain
      { engine := .start transferWatcher stakesFollowed } _ :=
    Session.Becomes.refl.silent [.perform none] rfl rfl
  have hhead := hread.step
    (.told (stakeSeries.chain.reply 2) rfl (.head (Nat.zero_le 2) (by decide)) rfl)
  have hlogs := hhead.step (.told (stakeSeries.chain.reply 2) rfl (.chunk (.refl _)) rfl)
  have hrecorded := hlogs.silent (List.replicate 2 (.perform none)) rfl rfl
  exact ⟨_, _, hstart.becomes hrecorded, rfl⟩

/-- Stakes are followed up to the first block, transfers up to the second, and stakes again up to
the third: the stake of the second block is passed over. -/
theorem lifts_stakes : ∃ before after, stakeSeries.History transfersFilled before ∧
    stakeSeries.Lifts .stake before after ∧
    before.engine.database.row "block:Stake" = some 1 ∧
    after.engine.database.row "block:Stake" = some 3 ∧
    before.engine.database.events = (Feed.stakeLog 3).event?.toList := by
  obtain ⟨_, before, hbefore, hrows⟩ := history_transfersFilled
  have hserves : stakeWatcher.Continues stakeSeries := ⟨rfl, rfl, rfl, by decide⟩
  have hstart : stakeSeries.History transfersFilled
      { engine := .start stakeWatcher transfersFilled } :=
    hbefore.again hserves (hrows ▸ rfl) (hrows ▸ rfl)
  have hread : Session.Becomes stakeSeries.chain
      { engine := .start stakeWatcher transfersFilled } _ :=
    Session.Becomes.refl.silent [.perform none] rfl rfl
  have hhead := hread.step
    (.told (stakeSeries.chain.reply 3) rfl (.head (Nat.zero_le 3) (by decide)) rfl)
  have hlogs := hhead.step (.told (stakeSeries.chain.reply 3) rfl (.chunk (.refl _)) rfl)
  have hrecorded := hlogs.silent (List.replicate 3 (.perform none)) rfl rfl
  have hlower := hrecorded.silent (.advance :: List.replicate 2 (.perform none)) rfl rfl
  exact ⟨_, _, hstart.becomes hlower, ⟨.other (.perform none) nofun nofun rfl, ⟨_, rfl⟩, by decide⟩,
    rfl, rfl, rfl⟩

/-- A lift may leave events behind: what lies between a kind's cursor and the height that it is
lifted to is not always held. -/
theorem lift_leaves_stake_behind : ¬∀ (series : Series) (start : Database) (before after : Session)
    (kind : Kind) (handoff : Nat), series.History start before → series.Lifts kind before after →
      after.engine.database.row (watcherKey series.key kind) = some (handoff : Int) →
        series.Holds kind
          (before.engine.database.heightOr (watcherKey series.key kind) series.seed) handoff
          before.engine.database := by
  intro hall
  obtain ⟨before, after, hhistory, hlifts, hlow, hhigh, hevents⟩ := lifts_stakes
  have hholds := hall stakeSeries transfersFilled before after .stake 3 hhistory hlifts hhigh
  have hfrom : before.engine.database.heightOr (watcherKey stakeSeries.key .stake)
      stakeSeries.seed = 1 := Database.heightOr_of_row hlow
  rw [hfrom] at hholds
  obtain ⟨stored, hstored, hrow⟩ := hholds _ (Chain.mem_due.mpr
    ⟨Feed.stakeLog 2, List.mem_cons_self, rfl, rfl, by decide, by decide, by decide⟩)
  rw [hevents, Option.mem_toList] at hstored
  have hsecond : (Feed.stakeLog 2).event? = some _ := rfl
  obtain ⟨-, htransaction, -⟩ := Log.place_of_sameRow hsecond hstored hrow
  exact absurd htransaction (by decide)

theorem lift_leaves_nothing_iff_stakes : ∃ before after,
    stakeSeries.History transfersFilled before ∧ stakeSeries.Lifts .stake before after ∧
      stakeSeries.Holds .stake 2 3 before.engine.database ∧
      (stakeSeries.Holds .stake 1 3 before.engine.database ↔
        stakeSeries.Holds .stake 1 2 before.engine.database) := by
  obtain ⟨before, after, hhistory, hlifts, hlow, hhigh, -⟩ := lifts_stakes
  obtain ⟨handoff, -, hset, hheld, hiff⟩ := hhistory.lift_leaves_nothing_iff hlifts
  have hthree : (3 : Int) = handoff := Option.some.inj (hhigh.symm.trans hset)
  obtain rfl : handoff = 3 := by omega
  have hone : before.engine.database.heightOr (watcherKey stakeSeries.key .stake)
      stakeSeries.seed = 1 := Database.heightOr_of_row hlow
  rw [hone] at hiff
  exact ⟨before, after, hhistory, hlifts, hheld, hiff⟩

end Series

end EventIndexer
