import EventIndexer.Proofs.Scope

/-! One watcher's tasks at work.  What its producer has handed over is partly delivered, partly in
the hands of the consumer, and partly still on its way.  In this order every message is deliverable:
its checkpoints are covered by the events handed over before them. -/

namespace EventIndexer

theorem deliverable_append {inv : Database → Prop} {key : String} {known : List Event}
    {first second : Message} : Deliverable inv key known (first ++ second) ↔
      Deliverable inv key known first ∧ Deliverable inv key (known ++ eventsOf first) second := by
  induction first generalizing known with
  | nil => simp [Deliverable]
  | cons work rest ih =>
    have hsplit : eventsOf (work :: rest) = eventsOf [work] ++ eventsOf rest :=
      eventsOf_append [work] rest
    simp only [List.cons_append, Deliverable, ih, hsplit, List.append_assoc, and_assoc]

namespace Feed

variable {chain : Chain} {settings : Settings} {kinds : List Kind} {feed after : Feed}
  {stream next : Subscription} {message : Message} {cursor : Nat} {emitted : List Event}
  {event : Event}

theorem Stitched.mem_due (inv : Stitched chain settings kinds cursor emitted feed stream)
    (hmem : event ∈ emitted) :
    event ∈ chain.due settings.address kinds cursor event.height := by
  rcases List.mem_append.mp (inv.exactly.mem_iff.mp hmem) with hdue | hlate
  · obtain ⟨hkind, habove, -⟩ := Chain.bounds_of_mem_due hdue
    exact Chain.mem_due_of_bounds hdue hkind habove (Nat.le_refl _)
  · have hheight := Subscription.lt_height_of_mem_late hlate
    have hstarted := inv.started
    obtain ⟨log, hlog, hevent⟩ := List.mem_filterMap.mp hlate
    obtain ⟨hseen, -⟩ := List.mem_filter.mp hlog
    -- The stream is used only once the head was reached, so its late events lie above its height.
    rcases inv.fresh with hnone | ⟨hcaught, hmode⟩
    · rw [hnone] at hseen
      cases hseen
    · have hbehind := inv.behind hcaught
      have habove : log.above stream.height = true :=
        Log.above_iff.mpr ⟨_, Log.block_of_event? hevent, by omega⟩
      have hpushed : log ∈ stream.pushed.filter (·.above stream.height) :=
        List.mem_filter.mpr ⟨List.mem_append_left _ hseen, habove⟩
      have hchain := (inv.follows hmode).complete.mem_iff.mp hpushed
      obtain ⟨hlog, hwanted⟩ := List.mem_filter.mp hchain
      rw [Bool.and_eq_true, Log.wantedBy_of_event? hevent] at hwanted
      exact Chain.mem_due.mpr
        ⟨log, hlog, hwanted.1.1, hevent, hwanted.1.2, by omega, Nat.le_refl _⟩

/-- A message holds at most one work, and at most one checkpoint behind it. -/
theorem Advance.shape (h : Advance chain settings kinds feed stream message after next) :
    message = [] ∨ ∃ work, (∀ height, work ≠ .checkpoint height) ∧
      (message = [work] ∨ message = [work, .checkpoint after.progress.checkpoint]) := by
  cases h with
  | @range head first last logs => exact .inr ⟨.many (decodeAll logs).1, nofun, .inr rfl⟩
  | idle => exact .inl rfl
  | @log log =>
    refine .inr ?_
    rcases onLog_cases feed.progress log with
      ⟨hlog, -⟩ | ⟨block, work, -, -, hwork, -, ⟨-, hlog⟩ | ⟨-, hlog⟩⟩
    · exact ⟨.skip, nofun, .inl (by rw [hlog])⟩
    · refine ⟨work, hwork, .inr ?_⟩
      rw [hlog]
    · exact ⟨work, hwork, .inl (by rw [hlog])⟩

end Feed

namespace Scope

variable {scope : Scope} {settings : Settings} {watcher : Watcher} {database : Database}
  {cursor : Nat}

def behind (scope : Scope) (watcher : Watcher) (cursor : Nat) : List Event :=
  scope.chain.due scope.address watcher.kinds scope.seed cursor

theorem Begins.holds_behind (h : scope.Begins watcher cursor database) :
    ∀ event ∈ scope.behind watcher cursor, database.Holds event := by
  intro event hmem
  obtain ⟨hkind, habove, hbelow⟩ := Chain.bounds_of_mem_due hmem
  exact (h.reached _ hkind).2 event
    (Chain.mem_due_of_bounds hmem List.mem_cons_self habove hbelow)

theorem Begins.seed_le (h : scope.Begins watcher cursor database) (hserves : settings.Serves scope)
    (hwatcher : watcher ∈ settings.watchers) : scope.seed ≤ cursor := by
  obtain ⟨kind, hkind⟩ := hserves.exists_watched hwatcher
  exact (h.reached kind hkind).1

section

variable {feed after : Feed} {stream next : Subscription} {message : Message}
  {emitted : List Event}

/-- With the events behind the cursor and those handed over, every kind of the watcher has reached
the last checkpoint. -/
theorem reached_of_stitched (hserves : settings.Serves scope) (hseed : scope.seed ≤ cursor)
    (inv : Feed.Stitched scope.chain settings watcher.kinds cursor emitted feed stream)
    (hbehind : ∀ event ∈ scope.behind watcher cursor, database.Holds event)
    (hemitted : ∀ event ∈ emitted, database.Holds event) {kind : Kind}
    (hkind : kind ∈ watcher.kinds) :
    scope.Reached database kind feed.progress.checkpoint := by
  have hcursor : scope.Reached database kind cursor := by
    exact ⟨hseed, fun event hmem => hbehind event (Chain.mem_due_of_kind hkind hmem)⟩
  refine hcursor.extend inv.started fun event hmem => hemitted event ?_
  have hdue := Chain.mem_due_of_kind hkind hmem
  rw [← hserves.address] at hdue
  exact (List.mem_filter.mp (inv.filter_le.mem_iff.mpr hdue)).1

/-- A message that is handed over is deliverable after all that was handed over before it. -/
theorem deliverable_of_advance (hserves : settings.Serves scope)
    (hwatcher : watcher ∈ settings.watchers) (hseed : scope.seed ≤ cursor)
    (inv : Feed.Stitched scope.chain settings watcher.kinds cursor emitted feed stream)
    (h : Feed.Advance scope.chain settings watcher.kinds feed stream message after next) :
    Deliverable scope.Tracked watcher.key (scope.behind watcher cursor ++ emitted) message := by
  have hwidth := Settings.width_of_validate hserves.valid
  have hafter := inv.advance hwidth h
  have hauthentic : ∀ event ∈ eventsOf message, scope.Authentic event := by
    intro event hmem
    have hdue := hafter.mem_due (List.mem_append_right _ hmem)
    obtain ⟨hkind, habove, hbelow⟩ := Chain.bounds_of_mem_due hdue
    have hcounts := (hserves.mem_kinds hwatcher).mp hkind
    rw [hserves.address] at hdue
    exact Chain.mem_due_of_bounds hdue hcounts.1 (Nat.lt_of_le_of_lt hseed habove) hbelow
  rcases h.shape with hmessage | ⟨work, hwork, hmessage | hmessage⟩
  · rw [hmessage]
    trivial
  · rw [hmessage] at hauthentic ⊢
    exact ⟨storable_tracked hauthentic, fun height hsame => absurd hsame (hwork height), trivial⟩
  · have hevents : eventsOf message = eventsOf [work] := by
      rw [hmessage]
      exact (eventsOf_append [work] [.checkpoint after.progress.checkpoint]).trans
        (List.append_nil _)
    rw [hevents] at hauthentic hafter
    rw [hmessage]
    refine ⟨storable_tracked hauthentic, fun height hsame => absurd hsame (hwork height),
      storable_tracked nofun, fun height hsame database hheld => ?_, trivial⟩
    cases hsame
    refine allows_tracked fun kind hcounts => ?_
    refine reached_of_stitched hserves hseed hafter (fun event hmem => ?_) (fun event hmem => ?_)
      ((hserves.mem_kinds hwatcher).mpr hcounts)
    · exact hheld event (List.mem_append_left _ (List.mem_append_left _ hmem))
    · rw [List.append_assoc] at hheld
      exact hheld event (List.mem_append_right _ hmem)

end

end Scope

/-! ### The producer -/

def pending : Option (Producer.Phase (Routine (Message × Feed)) Message) → List Message
  | some (.sending message) => [message]
  | _ => []

/-- How a producer's phase and the stream of the moment go with the stream between its calls. -/
def Between (chain : Chain) (settings : Settings) (kinds : List Kind) (feed : Feed)
    (prior stream : Subscription) : Producer.Phase (Routine (Message × Feed)) Message → Prop
  | .ready | .sending _ => stream = prior
  | .calling routine => ∀ result last, chain.Yields routine stream (.ok result) last →
    chain.Yields (feed.next settings kinds) prior (.ok result) last
  | .ended _ => True

/-- What a producer that began at a cursor has handed over. -/
inductive Producing (chain : Chain) (settings : Settings) (kinds : List Kind) (cursor : Nat) :
    Option (Producer.Phase (Routine (Message × Feed)) Message) → Feed → Subscription →
      List Message → Prop
  | unopened {stream : Subscription} :
    Producing chain settings kinds cursor none (Feed.after cursor) stream []
  | refused {result : Except Failure Unit} {stream : Subscription} :
    Producing chain settings kinds cursor (some (.ended result)) (Feed.after cursor) stream []
  | opened {opened prior stream : Subscription} {feed : Feed} {sent : List Message}
      {phase : Producer.Phase (Routine (Message × Feed)) Message} :
    opened.seen = [] →
      (settings.liveMode = .subscribe → opened.Follows chain settings.address kinds) →
        Feed.Emits chain settings kinds (Feed.after cursor) opened sent feed prior →
          Between chain settings kinds feed prior stream phase →
            Producing chain settings kinds cursor (some phase) feed stream sent

/-- What becomes of a watcher's stream by a move of its tasks: a reply of the node may take a log
from it, and it is there once it is opened. -/
inductive Chain.Tells (chain : Chain) (address : Address) (index : Nat) (tasks : WatcherTasks) :
    Tracker.Step → Subscription → Subscription → Prop
  | replied {answer : (request : Request) → request.Reply} {request : Request}
      {next : request.Reply → Routine (Message × Feed)} {stream after : Subscription} :
    tasks.producer = some (.calling (.ask request next)) →
      chain.Replies request stream (answer request) after →
        Tells chain address index tasks (.produce index (.reply answer)) stream after
  | opened {stream after : Subscription} : after.seen = [] →
    after.Follows chain address tasks.watcher.kinds →
      Tells chain address index tasks (.opened (.ok ())) stream after
  | still {step : Tracker.Step} {stream : Subscription} :
    (∀ answer, step ≠ .produce index (.reply answer)) → step ≠ .opened (.ok ()) →
      Tells chain address index tasks step stream stream

namespace Producing

variable {chain : Chain} {settings : Settings} {kinds : List Kind} {cursor : Nat}
  {feed : Feed} {stream : Subscription} {sent : List Message}

theorem call (h : Producing chain settings kinds cursor (some .ready) feed stream sent) :
    Producing chain settings kinds cursor (some (.calling (feed.next settings kinds))) feed stream
      sent := by
  cases h with
  | opened hseen hfollows hemits hbetween =>
    have hsame : stream = _ := hbetween
    subst hsame
    exact .opened hseen hfollows hemits fun result last hyields => hyields

theorem reply {request : Request} {next : request.Reply → Routine (Message × Feed)}
    {reply : request.Reply} {after : Subscription}
    (h : Producing chain settings kinds cursor (some (.calling (.ask request next))) feed stream
      sent) (hreplies : chain.Replies request stream reply after) :
    Producing chain settings kinds cursor (some (.calling (next reply))) feed after sent := by
  cases h with
  | opened hseen hfollows hemits hbetween =>
    exact .opened hseen hfollows hemits fun result last hyields =>
      hbetween result last (.ask hreplies hyields)

theorem handOver {message : Message} {after : Feed}
    (h : Producing chain settings kinds cursor (some (.calling (.done (.ok (message, after)))))
      feed stream sent) :
    Producing chain settings kinds cursor (some (.sending message)) after stream
      (sent ++ [message]) := by
  cases h with
  | opened hseen hfollows hemits hbetween =>
    exact .opened hseen hfollows (hemits.call (hbetween _ _ .done)) rfl

theorem send {message : Message}
    (h : Producing chain settings kinds cursor (some (.sending message)) feed stream sent) :
    Producing chain settings kinds cursor (some .ready) feed stream sent := by
  cases h with
  | opened hseen hfollows hemits hbetween => exact .opened hseen hfollows hemits hbetween

theorem leave {phase : Option (Producer.Phase (Routine (Message × Feed)) Message)}
    (h : Producing chain settings kinds cursor phase feed stream sent)
    (result : Except Failure Unit) (after : Subscription) :
    Producing chain settings kinds cursor (some (.ended result)) feed after sent := by
  cases h with
  | unopened => exact .refused
  | refused => exact .refused
  | opened hseen hfollows hemits _ => exact .opened hseen hfollows hemits trivial

theorem deliverable {scope : Scope} {watcher : Watcher} {database : Database} {message : Message}
    {after : Feed}
    (h : Producing scope.chain settings watcher.kinds cursor
      (some (.calling (.done (.ok (message, after))))) feed stream sent)
    (hserves : settings.Serves scope) (hwatcher : watcher ∈ settings.watchers)
    (hbegins : scope.Begins watcher cursor database) :
    Deliverable scope.Tracked watcher.key
      (scope.behind watcher cursor ++ eventsOf sent.flatten) message := by
  cases h with
  | opened hseen hfollows hemits hbetween =>
    have hcolumn : columnBound ≤ maxHeight := by decide
    have hcursor : cursor ≤ maxHeight := Nat.le_trans (Nat.le_of_lt hbegins.bound) hcolumn
    have hstart := Feed.Stitched.after_cursor hcursor hseen hfollows
    have hstitched := hemits.stitched (Settings.width_of_validate hserves.valid) hstart
    exact Scope.deliverable_of_advance hserves hwatcher (hbegins.seed_le hserves hwatcher) hstitched
      (Feed.advance_of_next (hbetween _ _ .done))

end Producing

/-! ### The tasks together -/

/-- What is known of one watcher's tasks: it began at a cursor, handed over some messages, of which
some are delivered, and at most one is being handled. -/
structure Scope.Watched (scope : Scope) (settings : Settings) (stream : Subscription) (index : Nat)
    (tasks : WatcherTasks) (world : World) (cursor : Nat) (sent delivered current : List Message) :
    Prop where
  begins : scope.Begins tasks.watcher cursor world.database
  producing : Producing scope.chain settings tasks.watcher.kinds cursor tasks.producer tasks.feed
    stream sent
  deliverable : Deliverable scope.Tracked tasks.watcher.key (scope.behind tasks.watcher cursor)
    sent.flatten
  flowing : (∀ result, tasks.consumer ≠ .ended result) →
    sent = delivered ++ current ++ tasks.channel.queue ++ pending tasks.producer
  held : ∀ event ∈ eventsOf delivered.flatten, world.database.Holds event
  attends : tasks.Attends scope.Tracked index (eventsOf current.flatten) world
  ready : tasks.consumer = .ready → current = []
  gone : tasks.channel.receiverGone = true → ∃ result, tasks.consumer = .ended result

/-- What a watcher's tasks keep to. -/
def Scope.Tends (scope : Scope) (settings : Settings) (streams : Nat → Subscription) (index : Nat)
    (tasks : WatcherTasks) (world : World) : Prop :=
  ∃ cursor sent delivered current,
    scope.Watched settings (streams index) index tasks world cursor sent delivered current

namespace Scope.Watched

variable {scope : Scope} {settings : Settings} {stream after : Subscription} {index cursor : Nat}
  {tasks moved : WatcherTasks} {world later : World} {sent delivered current : List Message}

theorem of_others
    (h : scope.Watched settings stream index tasks world cursor sent delivered current)
    (hothers : (Actor.ofWatcher index tasks.watcher).Others scope.Tracked world later) :
    scope.Watched settings stream index tasks later cursor sent delivered current :=
  { h with
    begins := h.begins.of_grows hothers.grows
    held := fun event hmem => hothers.grows.holds (h.held event hmem)
    attends := h.attends.of_others hothers }

theorem not_gone
    (h : scope.Watched settings stream index tasks world cursor sent delivered current)
    (halive : ∀ result, tasks.consumer ≠ .ended result) : tasks.channel.receiverGone ≠ true := by
  intro hgone
  obtain ⟨result, hended⟩ := h.gone hgone
  exact halive result hended

theorem start {watcher : Watcher}
    (hbegins : scope.Begins watcher cursor world.database) (hfree : world.holder ≠ some index)
    (hseen : stream.seen = []) :
    scope.Watched settings stream index (Tracker.firstTasks settings watcher cursor) world cursor
      [] [] [] where
  begins := hbegins
  producing := by
    unfold Tracker.firstTasks
    cases hmode : settings.liveMode with
    | poll =>
      refine .opened hseen (fun h => ?_) .start rfl
      rw [hmode] at h
      cases h
    | subscribe => exact .unopened
  deliverable := trivial
  flowing := fun _ => by
    unfold Tracker.firstTasks
    cases hmode : settings.liveMode <;> rfl
  held := nofun
  attends := .of_ready rfl hfree
  ready := fun _ => rfl
  gone := fun h => nomatch h

theorem take {message : Message} {rest : List Message}
    (h : scope.Watched settings stream index tasks world cursor sent delivered current)
    (hserves : settings.Serves scope) (hwatcher : tasks.watcher ∈ settings.watchers)
    (hready : tasks.consumer = .ready) (hqueue : tasks.channel.queue = message :: rest) :
    scope.Watched settings stream index
      { tasks with
        consumer := .handling (deliver tasks.watcher message)
        channel := { tasks.channel with queue := rest } } world cursor sent delivered
      [message] := by
  have halive : ∀ result, tasks.consumer ≠ .ended result := by simp [hready]
  have hsent : sent = delivered ++ [message] ++ rest ++ pending tasks.producer := by
    rw [h.flowing halive, h.ready hready, hqueue]
    simp
  have hdeliverable : Deliverable scope.Tracked tasks.watcher.key
      (scope.behind tasks.watcher cursor ++ eventsOf delivered.flatten) message := by
    have hall := h.deliverable
    rw [hsent] at hall
    simp only [List.flatten_append, List.flatten_singleton, deliverable_append] at hall
    exact hall.1.1.2
  have hknown : ∀ event ∈ scope.behind tasks.watcher cursor ++ eventsOf delivered.flatten,
      world.database.Holds event := by
    intro event hmem
    rcases List.mem_append.mp hmem with hmem | hmem
    · exact h.begins.holds_behind event hmem
    · exact h.held event hmem
  have hattends : WatcherTasks.Attends scope.Tracked index (eventsOf message)
      { tasks with
        consumer := .handling (deliver tasks.watcher message)
        channel := { tasks.channel with queue := rest } } world :=
    .take (h.attends.free hready) hknown hdeliverable (allowed_tracked hserves hwatcher) rfl rfl
  exact
    { begins := h.begins
      producing := h.producing
      deliverable := h.deliverable
      flowing := fun _ => hsent
      held := h.held
      attends := by rwa [List.flatten_singleton]
      ready := nofun
      gone := fun hgone => absurd hgone (h.not_gone halive) }

theorem finish
    (h : scope.Watched settings stream index tasks world cursor sent delivered current)
    (hconsumer : tasks.consumer = .handling (.done (.ok ()))) :
    scope.Watched settings stream index { tasks with consumer := .ready } world cursor sent
      (delivered ++ current) [] := by
  obtain ⟨hfree, hheld⟩ := h.attends.finish hconsumer
  have halive : ∀ result, tasks.consumer ≠ .ended result := by simp [hconsumer]
  exact
    { begins := h.begins
      producing := h.producing
      deliverable := h.deliverable
      flowing := fun _ => by rw [h.flowing halive, List.append_nil]
      held := fun event hmem => by
        rw [List.flatten_append, eventsOf_append] at hmem
        rcases List.mem_append.mp hmem with hmem | hmem
        · exact h.held event hmem
        · exact hheld event hmem
      attends := .of_ready rfl hfree
      ready := fun _ => rfl
      gone := fun hgone => absurd hgone (h.not_gone halive) }

/-- A producer that changes its phase, and hands over nothing, leaves the rest as it is. -/
theorem rephase {phase : Option (Producer.Phase (Routine (Message × Feed)) Message)}
    (h : scope.Watched settings stream index tasks world cursor sent delivered current)
    (hproducing : Producing scope.chain settings tasks.watcher.kinds cursor phase tasks.feed after
      sent) (hpending : pending phase = pending tasks.producer) :
    scope.Watched settings after index { tasks with producer := phase } world cursor sent delivered
      current :=
  { h with
    producing := hproducing
    flowing := fun halive => by
      rw [hpending]
      exact h.flowing halive
    attends := h.attends.congr rfl rfl }

/-- A producer that ends leaves no message behind that the consumer could still take. -/
theorem leave (h : scope.Watched settings stream index tasks world cursor sent delivered current)
    (hgone : ∀ message, tasks.producer = some (.sending message) →
      tasks.channel.receiverGone = true) (result : Except Failure Unit) (producerJoined : Bool) :
    scope.Watched settings after index
      { tasks with
        producer := some (.ended result)
        producerJoined
        channel := { tasks.channel with senderGone := true } } world cursor sent delivered
      current :=
  { h with
    producing := h.producing.leave result after
    flowing := fun halive => by
      -- A message is dropped only where the receiver is gone, and then the consumer has ended.
      have hnone : pending tasks.producer = [] := by
        unfold pending
        split
        · next message hsending => exact absurd (hgone message hsending) (h.not_gone halive)
        · rfl
      rw [h.flowing halive, hnone]
      rfl
    attends := h.attends.congr rfl rfl }

theorem handOver {message : Message} {feed : Feed}
    (h : scope.Watched settings stream index tasks world cursor sent delivered current)
    (hserves : settings.Serves scope) (hwatcher : tasks.watcher ∈ settings.watchers)
    (hproducer : tasks.producer = some (.calling (.done (.ok (message, feed))))) :
    scope.Watched settings stream index { tasks with producer := some (.sending message), feed }
      world cursor (sent ++ [message]) delivered current := by
  have hproducing := h.producing
  rw [hproducer] at hproducing
  have hmessage := hproducing.deliverable hserves hwatcher h.begins
  exact
    { h with
      producing := hproducing.handOver
      deliverable := by
        rw [List.flatten_append, List.flatten_singleton, deliverable_append]
        exact ⟨h.deliverable, hmessage⟩
      flowing := fun halive => by
        rw [h.flowing halive, hproducer]
        simp [pending]
      attends := h.attends.congr rfl rfl }

theorem send {message : Message}
    (h : scope.Watched settings stream index tasks world cursor sent delivered current)
    (hproducer : tasks.producer = some (.sending message)) :
    scope.Watched settings stream index
      { tasks with
        producer := some .ready
        channel := { tasks.channel with queue := tasks.channel.queue ++ [message] } } world cursor
      sent delivered current := by
  have hproducing := h.producing
  rw [hproducer] at hproducing
  exact
    { h with
      producing := hproducing.send
      flowing := fun halive => by
        rw [h.flowing halive, hproducer]
        simp [pending]
      attends := h.attends.congr rfl rfl }

theorem perform {request : Request} {next : request.Reply → Routine Unit} {reply : request.Reply}
    (h : scope.Watched settings stream index tasks world cursor sent delivered current)
    (hconsumer : tasks.consumer = .handling (.ask request next))
    (hreplied : World.Replied Actor.unasked index request world reply later) :
    (Actor.ofWatcher index tasks.watcher).Own scope.Tracked world later ∧
      scope.Watched settings stream index { tasks with consumer := .handling (next reply) } later
        cursor sent delivered current := by
  obtain ⟨hown, hattends⟩ := h.attends.perform hconsumer hreplied
  have halive : ∀ result, tasks.consumer ≠ .ended result := by simp [hconsumer]
  exact ⟨hown,
    { h with
      begins := h.begins.of_grows hown.grows
      flowing := fun _ => h.flowing halive
      held := fun event hmem => hown.grows.holds (h.held event hmem)
      attends := hattends
      ready := nofun
      gone := fun hgone => absurd hgone (h.not_gone halive) }⟩

theorem quit (h : scope.Watched settings stream index tasks world cursor sent delivered current)
    (result : Except Failure Unit) :
    scope.Watched settings stream index
      { tasks with
        consumer := .ended result
        channel := { tasks.channel with receiverGone := true } } world cursor sent delivered
      current :=
  { h with
    flowing := fun halive => absurd rfl (halive result)
    attends := trivial
    ready := nofun
    gone := fun _ => ⟨result, rfl⟩ }

/-- Every move of the tasks keeps to the rules, and to what is known of the tasks. -/
theorem moves {step : Tracker.Step}
    (h : scope.Watched settings stream index tasks world cursor sent delivered current)
    (hserves : settings.Serves scope) (hwatcher : tasks.watcher ∈ settings.watchers)
    (hmove : tasks.Moves settings index world step moved later)
    (htells : scope.chain.Tells settings.address index tasks step stream after) :
    (Actor.ofWatcher index tasks.watcher).Own scope.Tracked world later ∧
      ∃ sent delivered current,
        scope.Watched settings after index moved later cursor sent delivered current := by
  cases hmove with
  | opened reply hnone =>
    refine ⟨.refl _, sent, delivered, current, ?_⟩
    unfold Tracker.afterOpening
    have hproducing := h.producing
    rw [hnone] at hproducing
    cases htells with
    | opened hseen hfollows =>
      rw [hnone]
      refine h.rephase ?_ (by rw [hnone]; rfl)
      generalize tasks.feed = feed at hproducing ⊢
      cases hproducing with
      | unopened => exact .opened hseen (fun _ => hfollows) .start rfl
    | still _ hnot =>
      cases reply with
      | ok _ => exact absurd rfl hnot
      | error failure =>
        rw [hnone]
        refine h.leave (fun message hsending => ?_) _ _
        rw [hnone] at hsending
        cases hsending
  | call hproducer =>
    cases htells with
    | still =>
      have hproducing := h.producing
      rw [hproducer] at hproducing
      exact ⟨.refl _, sent, delivered, current,
        h.rephase hproducing.call (by rw [hproducer]; rfl)⟩
  | reply hproducer =>
    cases htells with
    | replied hcalling hreplies =>
      rw [hproducer] at hcalling
      cases hcalling
      have hproducing := h.producing
      rw [hproducer] at hproducing
      exact ⟨.refl _, sent, delivered, current,
        h.rephase (hproducing.reply hreplies) (by rw [hproducer]; rfl)⟩
    | still hnot => exact absurd rfl (hnot _)
  | handOver hproducer =>
    cases htells with
    | still => exact ⟨.refl _, _, delivered, current, h.handOver hserves hwatcher hproducer⟩
  | send hproducer =>
    cases htells with
    | still => exact ⟨.refl _, sent, delivered, current, h.send hproducer⟩
  | leave hgone => exact ⟨.refl _, sent, delivered, current, h.leave hgone _ _⟩
  | take hready hqueue =>
    cases htells with
    | still => exact ⟨.refl _, sent, delivered, _, h.take hserves hwatcher hready hqueue⟩
  | perform hconsumer hreplied =>
    cases htells with
    | still =>
      obtain ⟨hown, hnext⟩ := h.perform hconsumer hreplied
      exact ⟨hown, sent, delivered, current, hnext⟩
  | finish hconsumer =>
    cases htells with
    | still => exact ⟨.refl _, sent, _, [], h.finish hconsumer⟩
  | quit =>
    cases htells with
    | still => exact ⟨.refl _, sent, delivered, current, h.quit _⟩
  | join producerJoined consumerJoined hstep =>
    have hsame : after = stream := by
      rcases hstep with rfl | rfl <;> cases htells <;> rfl
    subst hsame
    exact ⟨.refl _, sent, delivered, current, { h with attends := h.attends.congr rfl rfl }⟩

end Scope.Watched

end EventIndexer
