import EventIndexer.Proofs.Filled
import EventIndexer.Proofs.Flow

/-! A watcher that polls.  Its producer hands over range after range, each right above the one
before, and its consumer stores the events of a range, moves the watcher's own cursor to the end of
the range, and then shares: it refreshes the main cursor, if that is not the watcher's own. -/

namespace EventIndexer

/-- What a consumer does once its watcher's cursor has moved. -/
def Watcher.share (watcher : Watcher) : Routine Unit :=
  match watcher.watermark with
  | none => return ()
  | some watermark => do
    let _ ← watermark.refresh
    return ()

/-- The events of a range are stored and the watcher's cursor is moved before it shares. -/
theorem deliver_range (watcher : Watcher) (events : List Event) (last : Nat) :
    deliver watcher [.many events, .checkpoint last] =
      ((Work.many events).deliver watcher >>= fun _ => Cursor.checkpoint watcher.key last) >>=
        fun _ => watcher.share := by
  have hcheckpoint : (Work.checkpoint last).deliver watcher =
      Cursor.checkpoint watcher.key last >>= fun _ => watcher.share := rfl
  simp only [deliver, hcheckpoint, Routine.bind_assoc]
  congr 1
  funext _
  congr 1
  funext _
  exact Routine.bind_pure _

namespace Actor

variable {actor : Actor} {inv : Database → Prop} {index last : Nat} {watcher : Watcher}
  {world later : World} {events : List Event} {key : String}

/-- The consumer of a watcher that shares no longer moves the watcher's own cursor. -/
def sharing (index : Nat) (watcher : Watcher) : Actor :=
  { index, keys := [], shared := watcher.watermark.map (·.shared) }

theorem owns_of_sharing (h : (sharing index watcher).Owns world key) :
    (ofWatcher index watcher).Owns world key := by
  rcases h with hmem | hshared
  · cases hmem
  · exact .inr hshared

theorem Others.of_watcher (h : (ofWatcher index watcher).Others inv world later) :
    (sharing index watcher).Others inv world later :=
  ⟨h.grows, fun key howns => h.rows key (owns_of_sharing howns), h.holder, h.kept⟩

theorem Own.of_sharing (h : (sharing index watcher).Own inv world later) :
    (ofWatcher index watcher).Own inv world later :=
  ⟨h.grows, fun key hnot => h.rows key fun howns => hnot (owns_of_sharing howns), h.holder, h.kept⟩

/-- A safe routine ends in a world that has only grown. -/
theorem grows_of_safe {α : Type} {routine : Routine α} {ends : Except Failure α → World → Prop}
    {node : (request : Request) → request.Reply → Prop}
    (h : routine.Safe (actor.rules inv node) ends world) :
    routine.Safe (actor.rules inv node)
      (fun result later => ends result later ∧ world.database.Grows later.database) world := by
  induction routine generalizing world with
  | done result =>
    intro later hlater
    exact ⟨h later hlater, hlater.grows⟩
  | ask request next ih =>
    intro now hnow reply after hreplied
    obtain ⟨hown, hnext⟩ := h now hnow reply after hreplied
    refine ⟨hown, (ih reply hnext).mono fun result later hends => ⟨hends.1, ?_⟩⟩
    exact (hnow.grows.trans hown.grows).trans hends.2

/-- A range whose end is allowed once its events are held is stored and recorded. -/
theorem keeps_range (hfree : world.holder ≠ some index) (hstorable : Storable inv events)
    (hallows : ∀ database, world.database.Grows database →
      (∀ event ∈ events, database.Holds event) → Allows inv watcher.key last database)
    (hallowed : ∀ watermark ∈ watcher.watermark, watermark.Allowed inv) :
    (ofWatcher index watcher).Keeps inv unasked
      ((Work.many events).deliver watcher >>= fun _ => Cursor.checkpoint watcher.key last) world
        fun _ later => later.database.Reaches watcher.key last := by
  have hevents : eventsOf [.many events] = events := List.append_nil events
  have hwork : (ofWatcher index watcher).Keeps inv unasked ((Work.many events).deliver watcher)
      world fun _ later => ∀ event ∈ eventsOf [.many events], later.database.Holds event :=
    keeps_work hfree (by rwa [hevents]) nofun hallowed
  rw [hevents] at hwork
  refine hwork.bind fun _ now hnow hheld => ?_
  have howns : (ofWatcher index watcher).Owns now watcher.key := .inl List.mem_cons_self
  exact (keeps_checkpoint howns (hallows _ hnow.grows hheld)).mono fun _ later _ hrow =>
    ⟨_, hrow, le_raised _ _⟩

/-- What all members had reached before, the shared cursor has reached once it is shared. -/
theorem keeps_share (actor : Actor) (height : Nat) (hfree : world.holder ≠ some actor.index)
    (hshared : actor.shared = watcher.watermark.map (·.shared))
    (hallowed : ∀ watermark ∈ watcher.watermark, watermark.Allowed inv) :
    actor.Keeps inv unasked watcher.share world fun _ later =>
      ∀ watermark ∈ watcher.watermark, watermark.members ≠ [] →
        (∀ member ∈ watermark.members, world.database.Reaches member height) →
          later.database.Reaches watermark.shared height := by
  unfold Watcher.share
  cases hwatermark : watcher.watermark with
  | none => exact Keeps.pure fun _ _ watermark hmem => nomatch hmem
  | some watermark =>
    rw [hwatermark] at hshared
    refine (keeps_refresh height hfree hshared (hallowed watermark hwatermark)).bind
      fun _ now hnow hreaches => Keeps.pure fun later hlater other hmem hsome hmembers => ?_
    cases hmem
    exact hlater.grows.reaches (hreaches hsome hmembers)

end Actor

/-! ### The consumer -/

section

variable (inv : Database → Prop) (index : Nat) (watcher : Watcher) (low : Nat)
  (routine : Routine Unit) (world : World)

/-- Whether a consumer is at the events of a range or at the watcher's own cursor. -/
def Storing : Prop :=
  ∃ (first : Routine Unit) (start : World), routine = (first >>= fun _ => watcher.share) ∧
    start.holder ≠ some index ∧
      first.Safe ((Actor.ofWatcher index watcher).rules inv Actor.unasked)
        ((Actor.ofWatcher index watcher).Ends inv start fun _ later =>
          later.database.Reaches watcher.key low) world

/-- Whether a consumer has moved the watcher's own cursor, and shares. -/
def Sharing : Prop :=
  world.database.Reaches watcher.key low ∧ ∃ start : World, start.holder ≠ some index ∧
    routine.Safe ((Actor.sharing index watcher).rules inv Actor.unasked)
      ((Actor.sharing index watcher).Ends inv start fun _ _ => True) world

/-- Whether a consumer, once it ends, has moved the watcher's own cursor up to a height. -/
def Handles : Prop :=
  Storing inv index watcher low routine world ∨ Sharing inv index watcher low routine world

end

section

variable {inv : Database → Prop} {index : Nat} {watcher : Watcher} {low : Nat}
  {routine : Routine Unit} {world later : World}

theorem Handles.of_others (h : Handles inv index watcher low routine world)
    (hothers : (Actor.ofWatcher index watcher).Others inv world later) :
    Handles inv index watcher low routine later := by
  rcases h with ⟨first, start, hroutine, hstart, hsafe⟩ | ⟨hreaches, start, hstart, hsafe⟩
  · exact .inl ⟨first, start, hroutine, hstart, hsafe.of_others hothers⟩
  · exact .inr ⟨hothers.grows.reaches hreaches, start, hstart,
      hsafe.of_others hothers.of_watcher⟩

theorem Sharing.ask {request : Request} {next : request.Reply → Routine Unit}
    {reply : request.Reply} (h : Sharing inv index watcher low (.ask request next) world)
    (hkey : watcher.watermark.map (·.shared) ≠ some watcher.key)
    (hreplied : World.Replied Actor.unasked index request world reply later) :
    (Actor.ofWatcher index watcher).Own inv world later ∧
      Sharing inv index watcher low (next reply) later ∧
        later.database.row watcher.key = world.database.row watcher.key := by
  obtain ⟨hreaches, start, hstart, hsafe⟩ := h
  obtain ⟨hown, hnext⟩ := hsafe world (Actor.Others.refl world) reply later hreplied
  refine ⟨hown.of_sharing, ⟨hown.grows.reaches hreaches, start, hstart, hnext⟩,
    hown.rows _ fun howns => ?_⟩
  rcases howns with hmem | ⟨-, hshared⟩
  · cases hmem
  · exact hkey hshared

/-- While a consumer handles a message it moves the watcher's own cursor only before it shares. -/
theorem Handles.ask {request : Request} {next : request.Reply → Routine Unit}
    {reply : request.Reply} (h : Handles inv index watcher low (.ask request next) world)
    (hkey : watcher.watermark.map (·.shared) ≠ some watcher.key)
    (hallowed : ∀ watermark ∈ watcher.watermark, watermark.Allowed inv)
    (hreplied : World.Replied Actor.unasked index request world reply later) :
    (Actor.ofWatcher index watcher).Own inv world later ∧
      (Storing inv index watcher low (next reply) later ∨
        Sharing inv index watcher low (next reply) later ∧
          later.database.row watcher.key = world.database.row watcher.key) := by
  rcases h with ⟨first, start, hroutine, hstart, hsafe⟩ | hsharing
  · cases first with
    | done result =>
      cases result with
      | error failure => cases hroutine
      | ok _ =>
        obtain ⟨hsince, hreaches⟩ := hsafe.ends_now
        have hfree : world.holder ≠ some index := fun h => hstart (hsince.holder.mp h)
        have hshare := Actor.keeps_share (.sharing index watcher) 0 hfree rfl hallowed
        have hsharing : Sharing inv index watcher low (.ask request next) world := by
          rw [hroutine]
          exact ⟨hreaches, world, hfree, hshare.mono fun _ _ _ _ => trivial⟩
        obtain ⟨hown, hnext⟩ := hsharing.ask hkey hreplied
        exact ⟨hown, .inr hnext⟩
    | ask asked rest =>
      cases hroutine
      obtain ⟨hown, hnext⟩ := hsafe world (Actor.Others.refl world) reply later hreplied
      exact ⟨hown, .inl ⟨rest reply, start, rfl, hstart, hnext⟩⟩
  · obtain ⟨hown, hnext⟩ := hsharing.ask hkey hreplied
    exact ⟨hown, .inr hnext⟩

theorem Handles.finish (h : Handles inv index watcher low (.done (.ok ())) world) :
    world.holder ≠ some index ∧ world.database.Reaches watcher.key low := by
  rcases h with ⟨first, start, hroutine, hstart, hsafe⟩ | ⟨hreaches, start, hstart, hsafe⟩
  · cases first with
    | done result =>
      cases result with
      | error failure => cases hroutine
      | ok _ =>
        obtain ⟨hsince, hreaches⟩ := hsafe.ends_now
        exact ⟨fun h => hstart (hsince.holder.mp h), hreaches⟩
    | ask asked rest => cases hroutine
  · obtain ⟨hsince, -⟩ := hsafe.ends_now
    exact ⟨fun h => hstart (hsince.holder.mp h), hreaches⟩

/-- A consumer that has yet to share will move the main cursor to what all members have reached. -/
theorem Storing.vouches (h : Storing inv index watcher low routine world)
    (hallowed : ∀ watermark ∈ watcher.watermark, watermark.Allowed inv) {watermark : Watermark}
    (hwatermark : watcher.watermark = some watermark) (hsome : watermark.members ≠ [])
    {height : Nat} (hmembers : ∀ member ∈ watermark.members, world.database.Reaches member height) :
    ∃ start : World, routine.Safe ((Actor.ofWatcher index watcher).rules inv Actor.unasked)
      ((Actor.ofWatcher index watcher).Ends inv start fun _ later =>
        later.database.Reaches watermark.shared height) world := by
  obtain ⟨first, start, rfl, hstart, hsafe⟩ := h
  refine ⟨start, (Actor.grows_of_safe hsafe).bind (fun _ now hnow => ?_) fun _ _ hends => hends.1⟩
  obtain ⟨⟨hsince, -⟩, hgrows⟩ := hnow
  have hfree : now.holder ≠ some index := fun h => hstart (hsince.holder.mp h)
  have hshare := Actor.keeps_share (.ofWatcher index watcher) height hfree rfl hallowed
  refine Routine.Safe.mono hshare fun result later hends => ?_
  refine Actor.Ends.of_since ?_ hsince
  cases result with
  | ok _ =>
    exact ⟨hends.1, hends.2 watermark hwatermark hsome fun member hmem =>
      hgrows.reaches (hmembers member hmem)⟩
  | error failure => exact hends

end

/-! ### The producer -/

/-- Whether some messages are those of ranges, one right above the other, from one height to
another.  There may be pauses between them. -/
inductive Scope.Ranges (scope : Scope) (kinds : List Kind) (top : Nat) :
    Nat → List Message → Nat → Prop
  | done {low : Nat} : Ranges scope kinds top low [] low
  | idle {low high : Nat} {rest : List Message} : Ranges scope kinds top low rest high →
    Ranges scope kinds top low ([] :: rest) high
  | range {low last high : Nat} {events : List Event} {rest : List Message} :
    low ≤ last → last ≤ top →
      (∀ event, event ∈ events ↔ event ∈ scope.chain.due scope.address kinds low last) →
        Ranges scope kinds top last rest high →
          Ranges scope kinds top low ([.many events, .checkpoint last] :: rest) high

variable {scope : Scope} {settings : Settings} {base : List Event} {kinds : List Kind}
  {top low middle high : Nat}

theorem Scope.Ranges.append {first second : List Message}
    (h : scope.Ranges kinds top low first middle) (h' : scope.Ranges kinds top middle second high) :
    scope.Ranges kinds top low (first ++ second) high := by
  induction h with
  | done => exact h'
  | idle _ ih => exact .idle (ih h')
  | range hle hlast hevents _ ih => exact .range hle hlast hevents (ih h')

/-- Whether a call of a producer, if it succeeds, hands over the range right above its
checkpoint. -/
def Scope.Calls (scope : Scope) (kinds : List Kind) (top : Nat) (feed : Feed)
    (routine : Routine (Message × Feed)) : Prop :=
  routine.Safe (.told (scope.chain.Answers top)) (fun result _ => ∀ message after,
    result = .ok (message, after) →
      scope.Ranges kinds top feed.progress.checkpoint [message] after.progress.checkpoint ∧
        after.progress.next = after.progress.checkpoint + 1) ()

theorem Scope.calls_catchUp (hfollows : scope.Follows settings) (htop : top ≤ maxHeight)
    {feed : Feed} (hnext : feed.progress.next = feed.progress.checkpoint + 1) :
    (feed.catchUp settings kinds).Safe (.told (scope.chain.Answers top)) (fun result _ =>
      ∀ message after, result = .ok (some (message, after)) →
        scope.Ranges kinds top feed.progress.checkpoint [message] after.progress.checkpoint ∧
          after.progress.next = after.progress.checkpoint + 1) () := by
  refine (Routine.Safe.told _).bind (fun (head : Nat) _ hhead => ?_) fun failure _ _ => nofun
  have hhead : head ≤ top := hhead
  cases hrange : feed.progress.nextRange head settings.maxRangeWidth with
  | none => exact fun _ _ => nofun
  | some range =>
    obtain ⟨first, last⟩ := range
    obtain ⟨rfl, hfirst, hlast⟩ := Feed.nextRange_some (Nat.le_trans hhead htop) hrange
    refine (Routine.Safe.told _).bind (fun logs _ hlogs => ?_) fun failure _ _ => nofun
    intro _ _ message after hresult
    cases hresult
    have hlogs : logs.Perm (scope.chain.wanted _) := hlogs
    have haddress : settings.address = scope.address := hfollows.address
    rw [haddress, hnext] at hlogs
    refine ⟨.range (by omega) (by omega) (fun event => ?_) .done, rfl⟩
    show event ∈ (decodeAll logs).1 ↔ _
    rw [Chain.mem_events hlogs]

theorem Scope.calls_next (hfollows : scope.Follows settings) (hmode : settings.liveMode = .poll)
    (htop : top ≤ maxHeight) {feed : Feed}
    (hnext : feed.progress.next = feed.progress.checkpoint + 1) :
    scope.Calls kinds top feed (feed.next settings kinds) := by
  have hpoll : feed.next settings kinds = feed.poll settings kinds := by
    rw [Feed.next, hmode]
  unfold Scope.Calls
  rw [hpoll]
  refine (Scope.calls_catchUp hfollows htop hnext).bind (fun found _ hfound => ?_)
    fun failure _ _ => nofun
  cases found with
  | some ahead =>
    intro _ _ message after hresult
    cases hresult
    exact hfound message after rfl
  | none =>
    refine (Routine.Safe.told _).bind (fun _ _ _ => ?_) fun failure _ _ => nofun
    intro _ _ message after hresult
    cases hresult
    exact ⟨.idle .done, hnext⟩

/-! ### The tasks together -/

/-- Whether the tracker's steps are given replies as a node may give them. -/
def Tracker.Step.Told (node : (request : Request) → request.Reply → Prop) : Tracker.Step → Prop
  | .produce _ (.reply answer) => ∀ request, node request (answer request)
  | _ => True

/-- Whether a consumer has moved its watcher's cursor up to a height, or is about to. -/
def WatcherTasks.Pursues (inv : Database → Prop) (index low : Nat) (tasks : WatcherTasks)
    (world : World) : Prop :=
  match tasks.consumer with
  | .ready => world.holder ≠ some index ∧ world.database.Reaches tasks.watcher.key low
  | .handling routine => Handles inv index tasks.watcher low routine world
  | .ended _ => False

/-- What is known of the tasks of a watcher that polls. -/
structure Scope.Polled (scope : Scope) (settings : Settings) (base : List Event) (top index : Nat)
    (tasks : WatcherTasks) (world : World) : Prop where
  opened : tasks.producer ≠ none
  next : tasks.feed.progress.next = tasks.feed.progress.checkpoint + 1
  calling : ∀ routine, tasks.producer = some (.calling routine) →
    scope.Calls tasks.watcher.kinds top tasks.feed routine
  /-- The messages on their way are the ranges between the two cursors, as long as there is a
  consumer. -/
  flowing : (∃ result, tasks.consumer = .ended result) ∨ ∃ low, scope.seed ≤ low ∧
    scope.Ranges tasks.watcher.kinds top low (tasks.channel.queue ++ pending tasks.producer)
      tasks.feed.progress.checkpoint ∧
    tasks.Pursues (scope.Following settings base top) index low world
  gone : tasks.channel.receiverGone = true → ∃ result, tasks.consumer = .ended result

/-- The range right above a watcher's cursor is stored and recorded. -/
theorem Scope.keeps_range {index last : Nat} {watcher : Watcher} {events : List Event}
    {world : World} (hfollows : scope.Follows settings) (hwatcher : watcher ∈ settings.watchers)
    (hsound : scope.Following settings base top world.database) (hfree : world.holder ≠ some index)
    (hreaches : world.database.Reaches watcher.key low) (hseed : scope.seed ≤ low)
    (hle : low ≤ last) (hlast : last ≤ top)
    (hevents : ∀ event,
      event ∈ events ↔ event ∈ scope.chain.due scope.address watcher.kinds low last) :
    (Actor.ofWatcher index watcher).Keeps (scope.Following settings base top) Actor.unasked
      ((Work.many events).deliver watcher >>= fun _ => Cursor.checkpoint watcher.key last) world
        fun _ later => later.database.Reaches watcher.key last := by
  have hkinds : ∀ kind, kind ∈ watcher.kinds ↔ scope.Counts watcher.key kind :=
    fun kind => hfollows.mem_kinds hwatcher
  refine Actor.keeps_range hfree (storable_following fun event hmem => ?_)
    (fun database hgrows hheld => allows_following (by omega) fun kind hcounts => ?_)
    (allowed_following hfollows hwatcher)
  · have hdue := (hevents event).mp hmem
    obtain ⟨hkind, habove, hbelow⟩ := Chain.bounds_of_mem_due hdue
    exact Chain.mem_due_of_bounds hdue ((hkinds _).mp hkind).1 (by omega) (by omega)
  · obtain ⟨hreached, -⟩ := hsound.filled.reached_of_reaches
      (.inr ⟨watcher, hwatcher, rfl⟩) hcounts hreaches hseed
    refine (hreached.of_grows hgrows).extend hle fun event hmem => hheld event ?_
    exact (hevents event).mpr (Chain.mem_due_of_kind ((hkinds kind).mpr hcounts) hmem)

namespace Scope.Polled

variable {index : Nat} {tasks moved : WatcherTasks} {world later : World}

theorem start {watcher : Watcher} {cursor : Nat} (hmode : settings.liveMode = .poll)
    (hcursor : cursor < maxHeight) (hseed : scope.seed ≤ cursor)
    (hreaches : world.database.Reaches watcher.key cursor) (hfree : world.holder ≠ some index) :
    scope.Polled settings base top index (Tracker.firstTasks settings watcher cursor) world where
  opened := by simp [Tracker.firstTasks, hmode]
  next := by
    show min (cursor + 1) maxHeight = cursor + 1
    omega
  calling := by simp [Tracker.firstTasks, hmode]
  flowing := by
    refine .inr ⟨cursor, hseed, ?_, hfree, hreaches⟩
    simp only [Tracker.firstTasks, hmode, if_true]
    exact .done
  gone := nofun

theorem of_others (h : scope.Polled settings base top index tasks world)
    (hothers : (Actor.ofWatcher index tasks.watcher).Others (scope.Following settings base top)
      world later) : scope.Polled settings base top index tasks later := by
  refine { h with flowing := h.flowing.imp_right ?_ }
  rintro ⟨low, hseed, hranges, hpursues⟩
  refine ⟨low, hseed, hranges, ?_⟩
  unfold WatcherTasks.Pursues at hpursues ⊢
  split at hpursues
  · exact ⟨fun hholder => hpursues.1 (hothers.holder.mp hholder),
      hothers.grows.reaches hpursues.2⟩
  · exact hpursues.of_others hothers
  · exact hpursues

/-- A producer that changes its phase, and hands over nothing, leaves the rest as it is. -/
theorem rephase {phase : Producer.Phase (Routine (Message × Feed)) Message}
    (h : scope.Polled settings base top index tasks world)
    (hcalling : ∀ routine, phase = .calling routine →
      scope.Calls tasks.watcher.kinds top tasks.feed routine)
    (hpending : pending (some phase) = pending tasks.producer) :
    scope.Polled settings base top index { tasks with producer := some phase } world where
  opened := nofun
  next := h.next
  calling routine hphase := hcalling routine (Option.some.inj hphase)
  flowing := by
    show (∃ result, tasks.consumer = .ended result) ∨ _
    rw [hpending]
    exact h.flowing
  gone := h.gone

theorem handOver {message : Message} {feed : Feed}
    (h : scope.Polled settings base top index tasks world)
    (hproducer : tasks.producer = some (.calling (.done (.ok (message, feed))))) :
    scope.Polled settings base top index { tasks with producer := some (.sending message), feed }
      world := by
  obtain ⟨hrange, hnext⟩ := (h.calling _ hproducer).ends_now message feed rfl
  refine ⟨nofun, hnext, nofun, ?_, h.gone⟩
  refine h.flowing.imp_right fun ⟨low, hseed, hranges, hpursues⟩ => ⟨low, hseed, ?_, hpursues⟩
  rw [hproducer] at hranges
  simp only [pending, List.append_nil] at hranges ⊢
  exact hranges.append hrange

theorem send {message : Message} (h : scope.Polled settings base top index tasks world)
    (hproducer : tasks.producer = some (.sending message)) :
    scope.Polled settings base top index
      { tasks with
        producer := some .ready
        channel := { tasks.channel with queue := tasks.channel.queue ++ [message] } } world := by
  refine ⟨nofun, h.next, nofun, ?_, h.gone⟩
  refine h.flowing.imp_right fun ⟨low, hseed, hranges, hpursues⟩ => ⟨low, hseed, ?_, hpursues⟩
  rw [hproducer] at hranges
  simpa [pending] using hranges

theorem leave (h : scope.Polled settings base top index tasks world)
    (hgone : ∀ message, tasks.producer = some (.sending message) →
      tasks.channel.receiverGone = true) (result : Except Failure Unit) :
    scope.Polled settings base top index
      { tasks with
        producer := some (.ended result)
        channel := { tasks.channel with senderGone := true } } world := by
  refine ⟨nofun, h.next, nofun, ?_, h.gone⟩
  rcases h.flowing with hended | ⟨low, hseed, hranges, hpursues⟩
  · exact .inl hended
  · -- A message is dropped only where the receiver is gone, and then the consumer has ended.
    by_cases hsending : ∃ message, tasks.producer = some (.sending message)
    · obtain ⟨message, hproducer⟩ := hsending
      exact .inl (h.gone (hgone message hproducer))
    · have hnone : pending tasks.producer = [] := by
        unfold pending
        split
        · next message hproducer => exact absurd ⟨message, hproducer⟩ hsending
        · rfl
      rw [hnone] at hranges
      exact .inr ⟨low, hseed, hranges, hpursues⟩

/-- As long as there is a consumer there is a receiver. -/
theorem flowing_of_alive (h : scope.Polled settings base top index tasks world)
    (halive : ∀ result, tasks.consumer ≠ .ended result) :
    tasks.channel.receiverGone ≠ true ∧ ∃ low, scope.seed ≤ low ∧
      scope.Ranges tasks.watcher.kinds top low (tasks.channel.queue ++ pending tasks.producer)
        tasks.feed.progress.checkpoint ∧
      tasks.Pursues (scope.Following settings base top) index low world := by
  refine ⟨fun hgone => ?_, ?_⟩
  · obtain ⟨result, hended⟩ := h.gone hgone
    exact halive result hended
  · rcases h.flowing with ⟨result, hended⟩ | hflowing
    · exact absurd hended (halive result)
    · exact hflowing

theorem take {message : Message} {rest : List Message}
    (h : scope.Polled settings base top index tasks world) (hfollows : scope.Follows settings)
    (hwatcher : tasks.watcher ∈ settings.watchers)
    (hsound : scope.Following settings base top world.database)
    (hready : tasks.consumer = .ready) (hqueue : tasks.channel.queue = message :: rest) :
    scope.Polled settings base top index
      { tasks with
        consumer := .handling (deliver tasks.watcher message)
        channel := { tasks.channel with queue := rest } } world := by
  obtain ⟨hgone, low, hseed, hranges, hpursues⟩ := h.flowing_of_alive (by simp [hready])
  unfold WatcherTasks.Pursues at hpursues
  rw [hready] at hpursues
  obtain ⟨hfree, hreaches⟩ := hpursues
  refine ⟨h.opened, h.next, h.calling, .inr ?_, fun hafter => absurd hafter hgone⟩
  rw [hqueue, List.cons_append] at hranges
  cases hranges with
  | idle hranges =>
    exact ⟨low, hseed, hranges, .inr ⟨hreaches, world, hfree, Actor.Keeps.pure
      fun _ _ => trivial⟩⟩
  | @range _ last _ events _ hle hlast hevents hranges =>
    have hkeeps := keeps_range hfollows hwatcher hsound hfree hreaches hseed hle hlast hevents
    exact ⟨last, by omega, hranges, .inl ⟨_, world, deliver_range _ _ _, hfree, hkeeps⟩⟩

theorem perform {request : Request} {next : request.Reply → Routine Unit} {reply : request.Reply}
    (h : scope.Polled settings base top index tasks world) (hfollows : scope.Follows settings)
    (hwatcher : tasks.watcher ∈ settings.watchers)
    (hconsumer : tasks.consumer = .handling (.ask request next))
    (hreplied : World.Replied Actor.unasked index request world reply later) :
    (Actor.ofWatcher index tasks.watcher).Own (scope.Following settings base top) world later ∧
      scope.Polled settings base top index { tasks with consumer := .handling (next reply) } later ∧
        ((∃ low, Storing (scope.Following settings base top) index tasks.watcher low (next reply)
            later) ∨
          later.database.row tasks.watcher.key = world.database.row tasks.watcher.key) := by
  obtain ⟨hgone, low, hseed, hranges, hpursues⟩ := h.flowing_of_alive (by simp [hconsumer])
  unfold WatcherTasks.Pursues at hpursues
  rw [hconsumer] at hpursues
  obtain ⟨hown, hnext⟩ := Handles.ask hpursues (Settings.shared_ne_key hwatcher hwatcher)
    (allowed_following hfollows hwatcher) hreplied
  have hhandles : Handles (scope.Following settings base top) index tasks.watcher low
      (next reply) later := hnext.imp_right (·.1)
  exact ⟨hown, ⟨h.opened, h.next, h.calling, .inr ⟨low, hseed, hranges, hhandles⟩,
    fun hafter => absurd hafter hgone⟩, hnext.imp (fun h => ⟨low, h⟩) (·.2)⟩

theorem finish (h : scope.Polled settings base top index tasks world)
    (hconsumer : tasks.consumer = .handling (.done (.ok ()))) :
    scope.Polled settings base top index { tasks with consumer := .ready } world := by
  obtain ⟨hgone, low, hseed, hranges, hpursues⟩ := h.flowing_of_alive (by simp [hconsumer])
  unfold WatcherTasks.Pursues at hpursues
  rw [hconsumer] at hpursues
  exact ⟨h.opened, h.next, h.calling, .inr ⟨low, hseed, hranges, Handles.finish hpursues⟩,
    fun hafter => absurd hafter hgone⟩

/-- Every move of the tasks keeps to the rules, and to what is known of the tasks. -/
theorem moves {step : Tracker.Step} (h : scope.Polled settings base top index tasks world)
    (hfollows : scope.Follows settings) (hmode : settings.liveMode = .poll)
    (htop : top ≤ maxHeight) (hwatcher : tasks.watcher ∈ settings.watchers)
    (hsound : scope.Following settings base top world.database)
    (hmove : tasks.Moves settings index world step moved later)
    (htold : step.Told (scope.chain.Answers top)) :
    (Actor.ofWatcher index tasks.watcher).Own (scope.Following settings base top) world later ∧
      scope.Polled settings base top index moved later := by
  cases hmove with
  | opened reply hnone => exact absurd hnone h.opened
  | call hproducer =>
    refine ⟨.refl _, h.rephase (fun routine hphase => ?_) (by rw [hproducer]; rfl)⟩
    cases hphase
    exact calls_next hfollows hmode htop h.next
  | reply hproducer =>
    refine ⟨.refl _, h.rephase (fun routine hphase => ?_) (by rw [hproducer]; rfl)⟩
    cases hphase
    exact (h.calling _ hproducer () trivial _ () (htold _)).2
  | handOver hproducer => exact ⟨.refl _, h.handOver hproducer⟩
  | send hproducer => exact ⟨.refl _, h.send hproducer⟩
  | leave hgone => exact ⟨.refl _, h.leave hgone _⟩
  | take hready hqueue => exact ⟨.refl _, h.take hfollows hwatcher hsound hready hqueue⟩
  | perform hconsumer hreplied =>
    obtain ⟨hown, hnext, -⟩ := h.perform hfollows hwatcher hconsumer hreplied
    exact ⟨hown, hnext⟩
  | finish hconsumer => exact ⟨.refl _, h.finish hconsumer⟩
  | quit => exact ⟨.refl _, h.opened, h.next, h.calling, .inl ⟨_, rfl⟩, fun _ => ⟨_, rfl⟩⟩
  | join => exact ⟨.refl _, h.opened, h.next, h.calling, h.flowing, h.gone⟩

end Scope.Polled

end EventIndexer
