import EventIndexer.Proofs.Pipe
import EventIndexer.Proofs.Tasks

/-! The steps of a tracker, read backwards.  A step starts a watcher, or it is a move of one
watcher's tasks and leaves all others as they are.  `Attended` is an invariant of a tracker that is
made of one predicate on each watcher's tasks; a step keeps it if the watcher that moves keeps its
own, and the predicates of the others bear what it does. -/

namespace EventIndexer

/-- A move of one watcher's tasks, and the step of the tracker that it is. -/
inductive WatcherTasks.Moves (settings : Settings) (index : Nat) (tasks : WatcherTasks)
    (world : World) : Tracker.Step → WatcherTasks → World → Prop
  | opened (reply : Except Failure Unit) : tasks.producer = none →
    Moves settings index tasks world (.opened reply) (Tracker.afterOpening reply tasks) world
  | call : tasks.producer = some .ready →
    Moves settings index tasks world (.produce index .call)
      { tasks with producer := some (.calling (tasks.feed.next settings tasks.watcher.kinds)) }
      world
  | reply {answer : (request : Request) → request.Reply} {request : Request}
      {next : request.Reply → Routine (Message × Feed)} :
    tasks.producer = some (.calling (.ask request next)) →
      Moves settings index tasks world (.produce index (.reply answer))
        { tasks with producer := some (.calling (next (answer request))) } world
  | handOver {message : Message} {feed : Feed} :
    tasks.producer = some (.calling (.done (.ok (message, feed)))) →
      Moves settings index tasks world (.produce index .finish)
        { tasks with producer := some (.sending message), feed } world
  | send {message : Message} : tasks.producer = some (.sending message) →
    Moves settings index tasks world (.produce index .send)
      { tasks with
        producer := some .ready
        channel := { tasks.channel with queue := tasks.channel.queue ++ [message] } } world
  /-- The producer fails, finds its token fired, or finds the receiver gone. -/
  | leave {move : ProducerMove} {result : Except Failure Unit} :
    (∀ message, tasks.producer = some (.sending message) → tasks.channel.receiverGone = true) →
      Moves settings index tasks world (.produce index move)
        { tasks with
          producer := some (.ended result)
          channel := { tasks.channel with senderGone := true } } world
  | take {message : Message} {rest : List Message} :
    tasks.consumer = .ready → tasks.channel.queue = message :: rest →
      Moves settings index tasks world (.consume index .take)
        { tasks with
          consumer := .handling (deliver tasks.watcher message)
          channel := { tasks.channel with queue := rest } } world
  | perform {fault : Option Failure} {request : Request} {next : request.Reply → Routine Unit}
      {reply : request.Reply} {after : World} :
    tasks.consumer = .handling (.ask request next) →
      World.Replied Actor.unasked index request world reply after →
        Moves settings index tasks world (.consume index (.perform fault))
          { tasks with consumer := .handling (next reply) } after
  | finish : tasks.consumer = .handling (.done (.ok ())) →
    Moves settings index tasks world (.consume index .finish)
      { tasks with consumer := .ready } world
  /-- The consumer fails, finds its token fired, or finds the channel drained. -/
  | quit {move : ConsumerMove} {result : Except Failure Unit} :
    Moves settings index tasks world (.consume index move)
      { tasks with
        consumer := .ended result
        channel := { tasks.channel with receiverGone := true } } world
  | join {step : Tracker.Step} (producerJoined consumerJoined : Bool) :
    step = .joinProducer index ∨ step = .joinConsumer index →
      Moves settings index tasks world step { tasks with producerJoined, consumerJoined } world

namespace WatcherTasks

variable {settings : Settings} {index : Nat} {tasks after : WatcherTasks} {world : World}
  {cancelled fired : Bool}

theorem after_of_producer {link : Link Message}
    {phase : Producer.Phase (Routine (Message × Feed)) Message}
    {step : Producer.Step (Routine (Message × Feed)) Message} {feed : Feed}
    (h : (do
      let (link, phase) ← Producer.step link phase step
      return (link.cancelled, { tasks.withLink link with producer := some phase, feed })) =
        some (fired, after)) :
    ∃ later next, Producer.step link phase step = some (later, next) ∧ fired = later.cancelled ∧
      after = { tasks with channel := later.channel, producer := some next, feed } := by
  cases hstep : Producer.step link phase step with
  | none => simp [hstep] at h
  | some stepped =>
    simp only [hstep, Option.bind_eq_bind, Option.bind_some, Option.pure_def, Option.some.injEq,
      Prod.mk.injEq] at h
    exact ⟨stepped.1, stepped.2, rfl, h.1.symm, h.2.symm⟩

/-- A move of a producer, read backwards: whether the group's token has fired before it, and whether
it has fired after it. -/
inductive Produces (settings : Settings) (fired : Bool) (tasks : WatcherTasks) :
    ProducerMove → Bool → WatcherTasks → Prop
  | call : tasks.producer = some .ready →
    Produces settings fired tasks .call fired
      { tasks with producer := some (.calling (tasks.feed.next settings tasks.watcher.kinds)) }
  | reply {answer : (request : Request) → request.Reply} {request : Request}
      {next : request.Reply → Routine (Message × Feed)} :
    tasks.producer = some (.calling (.ask request next)) →
      (∀ failure, answer request = .error failure → failure.isCancellation = true →
        fired = true) →
        Produces settings fired tasks (.reply answer) fired
          { tasks with producer := some (.calling (next (answer request))) }
  | handOver {message : Message} {feed : Feed} :
    tasks.producer = some (.calling (.done (.ok (message, feed)))) →
      Produces settings fired tasks .finish fired
        { tasks with producer := some (.sending message), feed }
  | fail {failure : Failure} : tasks.producer = some (.calling (.done (.error failure))) →
    Produces settings fired tasks .finish true
      { tasks with
        producer := some (.ended (.error failure))
        channel := { tasks.channel with senderGone := true } }
  | stop : (∀ message, tasks.producer ≠ some (.sending message)) →
    (∀ result, tasks.producer ≠ some (.ended result)) → fired = true →
      Produces settings fired tasks .stop fired
        { tasks with
          producer := some (.ended (.ok ()))
          channel := { tasks.channel with senderGone := true } }
  | send {message : Message} : tasks.producer = some (.sending message) →
    Produces settings fired tasks .send fired
      { tasks with
        producer := some .ready
        channel := { tasks.channel with queue := tasks.channel.queue ++ [message] } }
  | lose {message : Message} : tasks.producer = some (.sending message) →
    tasks.channel.receiverGone = true →
      Produces settings fired tasks .send fired
        { tasks with
          producer := some (.ended (.ok ()))
          channel := { tasks.channel with senderGone := true } }

theorem produces_of_produce {move : ProducerMove}
    (h : tasks.produce settings cancelled move = some (fired, after)) :
    tasks.Produces settings cancelled move fired after := by
  unfold produce at h
  cases hphase : tasks.producer with
  | none => simp [hphase] at h
  | some phase =>
    simp only [hphase, Option.bind_eq_bind, Option.bind_some] at h
    cases move with
    | call =>
      obtain ⟨link, next, hstep, rfl, rfl⟩ := after_of_producer h
      cases Producer.takes_of_step hstep with
      | call => exact .call hphase
    | reply answer =>
      cases phase with
      | calling routine =>
        cases routine with
        | done result => simp at h
        | ask request next =>
          have hreply : (∀ failure, answer request = .error failure →
              failure.isCancellation = true → cancelled = true) →
                tasks.Produces settings cancelled (.reply answer) cancelled
                  { tasks with producer := some (.calling (next (answer request))) } :=
            .reply hphase
          cases hanswer : answer request with
          | error failure =>
            simp only [hanswer] at h hreply
            split at h
            · cases h
            · next hinterrupted =>
              obtain ⟨link, phase, hstep, rfl, rfl⟩ := after_of_producer h
              cases hstep
              refine hreply fun found hfound hcancellation => ?_
              cases hfound
              simpa [hcancellation] using hinterrupted
          | ok value =>
            simp only [hanswer] at h hreply
            obtain ⟨link, phase, hstep, rfl, rfl⟩ := after_of_producer h
            cases hstep
            exact hreply nofun
      | _ => simp at h
    | finish =>
      cases phase with
      | calling routine =>
        cases routine with
        | ask request next => simp at h
        | done result =>
          cases result with
          | ok ahead =>
            obtain ⟨link, next, hstep, rfl, rfl⟩ := after_of_producer h
            cases hstep
            exact .handOver hphase
          | error failure =>
            obtain ⟨link, next, hstep, rfl, rfl⟩ := after_of_producer h
            cases hstep
            exact .fail hphase
      | _ => simp at h
    | stop =>
      obtain ⟨link, next, hstep, rfl, rfl⟩ := after_of_producer h
      have hrunning : ∀ result, phase ≠ .ended result := by
        rintro result rfl
        simp [Producer.step] at hstep
      have hpassing : ∀ message, phase ≠ .sending message := by
        rintro message rfl
        simp [Producer.step] at hstep
      cases Producer.takes_of_step hstep with
      | stop hfired =>
        exact .stop (by simpa [hphase] using hpassing) (by simpa [hphase] using hrunning) hfired
    | send =>
      obtain ⟨link, next, hstep, rfl, rfl⟩ := after_of_producer h
      cases Producer.takes_of_step hstep with
      | send => exact .send hphase
      | lose hgone => exact .lose hphase hgone

theorem moves_of_produce {move : ProducerMove}
    (h : tasks.produce settings cancelled move = some (fired, after)) :
    tasks.Moves settings index world (.produce index move) after world := by
  cases produces_of_produce h with
  | call hready => exact .call hready
  | reply hcalling => exact .reply hcalling
  | handOver hcalling => exact .handOver hcalling
  | fail hcalling => exact .leave (by simp [hcalling])
  | stop hpassing => exact .leave fun message hsending => absurd hsending (hpassing message)
  | send hsending => exact .send hsending
  | lose _ hgone => exact .leave fun _ _ => hgone

theorem replied_of_answer (index : Nat) {shared after : Shared} {fault : Option Failure}
    {request : Request} {reply : request.Reply}
    (h : shared.answer fault request = some (reply, after))
    (hdatabase : shared.database = world.database)
    (hlocked : shared.locked = world.holder.isSome) :
    ∃ later, World.Replied Actor.unasked index request world reply later ∧
      after.database = later.database ∧ after.locked = later.holder.isSome := by
  unfold Shared.answer at h
  split at h
  · split at h
    · cases h
    · next hfree =>
      cases h
      have hnone : world.holder = none := by simpa [hlocked] using hfree
      exact ⟨_, .locked hnone, hdatabase, rfl⟩
  · cases h
    exact ⟨_, .unlocked, hdatabase, rfl⟩
  · next hlock hunlock =>
    cases h
    exact ⟨world, .failed _ hlock hunlock, hdatabase, hlocked⟩
  · next hlock hunlock _ =>
    rw [Option.map_eq_some_iff] at h
    obtain ⟨⟨answered, database⟩, hanswer, hafter⟩ := h
    cases hafter
    rw [hdatabase] at hanswer
    exact ⟨_, .performed hanswer, rfl, hlocked⟩

theorem after_of_consumer {link : Link Message} {shared later : Shared}
    {step : Consumer.Step (Routine Unit)}
    (h : (do
      let (link, consumer) ← Consumer.step (deliver tasks.watcher) link tasks.consumer step
      return (shared, link.cancelled, { tasks.withLink link with consumer })) =
        some (later, fired, after)) :
    ∃ next phase, Consumer.step (deliver tasks.watcher) link tasks.consumer step =
        some (next, phase) ∧ later = shared ∧ fired = next.cancelled ∧
      after = { tasks with channel := next.channel, consumer := phase } := by
  cases hstep : Consumer.step (deliver tasks.watcher) link tasks.consumer step with
  | none => simp [hstep] at h
  | some stepped =>
    simp only [hstep, Option.bind_eq_bind, Option.bind_some, Option.pure_def, Option.some.injEq,
      Prod.mk.injEq] at h
    exact ⟨stepped.1, stepped.2, rfl, h.1.symm, h.2.1.symm, h.2.2.symm⟩

/-- A move of a consumer, read backwards. -/
inductive Consumes (shared : Shared) (fired : Bool) (tasks : WatcherTasks) :
    ConsumerMove → Shared → Bool → WatcherTasks → Prop
  | take {message : Message} {rest : List Message} :
    tasks.consumer = .ready → tasks.channel.queue = message :: rest →
      Consumes shared fired tasks .take shared fired
        { tasks with
          consumer := .handling (deliver tasks.watcher message)
          channel := { tasks.channel with queue := rest } }
  | perform {fault : Option Failure} {request : Request} {next : request.Reply → Routine Unit}
      {reply : request.Reply} {later : Shared} :
    tasks.consumer = .handling (.ask request next) →
      shared.answer fault request = some (reply, later) →
        Consumes shared fired tasks (.perform fault) later fired
          { tasks with consumer := .handling (next reply) }
  | finish : tasks.consumer = .handling (.done (.ok ())) →
    Consumes shared fired tasks .finish shared fired { tasks with consumer := .ready }
  | fail {failure : Failure} : tasks.consumer = .handling (.done (.error failure)) →
    Consumes shared fired tasks .finish shared true
      { tasks with
        consumer := .ended (.error failure)
        channel := { tasks.channel with receiverGone := true } }
  | stop : tasks.consumer = .ready → fired = true →
    Consumes shared fired tasks .stop shared fired
      { tasks with
        consumer := .ended (.ok ())
        channel := { tasks.channel with receiverGone := true } }
  | drained : tasks.consumer = .ready → tasks.channel.senderGone = true →
    Consumes shared fired tasks .drained shared fired
      { tasks with
        consumer := .ended (.ok ())
        channel := { tasks.channel with receiverGone := true } }

theorem consumes_of_consume {shared later : Shared} {move : ConsumerMove}
    (h : tasks.consume shared cancelled move = some (later, fired, after)) :
    tasks.Consumes shared cancelled move later fired after := by
  unfold consume at h
  cases move with
  | take =>
    obtain ⟨link, phase, hstep, rfl, rfl, rfl⟩ := after_of_consumer h
    generalize hphase : tasks.consumer = before at hstep
    cases Consumer.takes_of_step hstep with
    | take _ hqueue => exact .take hphase hqueue
  | perform fault =>
    cases hphase : tasks.consumer with
    | handling routine =>
      cases routine with
      | done result => simp [hphase] at h
      | ask request next =>
        simp only [hphase, Option.bind_eq_bind] at h
        rw [Option.bind_eq_some_iff] at h
        obtain ⟨⟨reply, answered⟩, hanswer, h⟩ := h
        cases h
        exact .perform hphase hanswer
    | _ => simp [hphase] at h
  | finish =>
    cases hphase : tasks.consumer with
    | handling routine =>
      cases routine with
      | ask request next => simp [hphase] at h
      | done result =>
        simp only [hphase] at h
        cases result with
        | ok _ =>
          cases h
          exact .finish hphase
        | error failure =>
          cases h
          exact .fail hphase
    | _ => simp [hphase] at h
  | stop =>
    obtain ⟨link, phase, hstep, rfl, rfl, rfl⟩ := after_of_consumer h
    generalize hphase : tasks.consumer = before at hstep
    cases Consumer.takes_of_step hstep with
    | stop hfired => exact .stop hphase hfired
  | drained =>
    obtain ⟨link, phase, hstep, rfl, rfl, rfl⟩ := after_of_consumer h
    generalize hphase : tasks.consumer = before at hstep
    cases Consumer.takes_of_step hstep with
    | drained _ hgone => exact .drained hphase hgone

theorem moves_of_consume {shared later : Shared} {move : ConsumerMove}
    (h : tasks.consume shared cancelled move = some (later, fired, after))
    (hdatabase : shared.database = world.database)
    (hlocked : shared.locked = world.holder.isSome) :
    ∃ next, tasks.Moves settings index world (.consume index move) after next ∧
      later.database = next.database ∧ later.locked = next.holder.isSome := by
  cases consumes_of_consume h with
  | take hready hqueue => exact ⟨world, .take hready hqueue, hdatabase, hlocked⟩
  | perform hhandling hanswer =>
    obtain ⟨next, hreplied, hdata, hlock⟩ := replied_of_answer index hanswer hdatabase hlocked
    exact ⟨next, .perform hhandling hreplied, hdata, hlock⟩
  | finish hhandling => exact ⟨world, .finish hhandling, hdatabase, hlocked⟩
  | fail | stop | drained => exact ⟨world, .quit, hdatabase, hlocked⟩

theorem Moves.watcher {step : Tracker.Step} {later : World}
    (h : tasks.Moves settings index world step after later) : after.watcher = tasks.watcher := by
  cases h with
  | opened reply =>
    unfold Tracker.afterOpening
    split <;> rfl
  | _ => rfl

theorem Moves.producer_isNone {step : Tracker.Step} {later : World}
    (h : tasks.Moves settings index world step after later) (hnone : after.producer = none) :
    tasks.producer = none := by
  cases h with
  | opened reply hproducer => exact hproducer
  | take | perform | finish | quit | join => exact hnone
  | _ => cases hnone

/-! ### The consumer -/

/-- What binds the consumer of a watcher: between two messages it does not hold the lock, and a
message that it handles is handled by the rules, after which some events are held. -/
def Attends (inv : Database → Prop) (index : Nat) (promise : List Event) (tasks : WatcherTasks)
    (world : World) : Prop :=
  match tasks.consumer with
  | .ready => world.holder ≠ some index
  | .handling routine => ∃ start : World, start.holder ≠ some index ∧
      routine.Safe ((Actor.ofWatcher index tasks.watcher).rules inv Actor.unasked)
        ((Actor.ofWatcher index tasks.watcher).Ends inv start fun _ later =>
          ∀ event ∈ promise, later.database.Holds event) world
  | .ended _ => True

namespace Attends

variable {inv : Database → Prop} {promise : List Event} {later : World}

theorem of_ready (hready : tasks.consumer = .ready) (hfree : world.holder ≠ some index) :
    tasks.Attends inv index promise world := by
  unfold Attends
  rw [hready]
  exact hfree

theorem free (h : tasks.Attends inv index promise world) (hready : tasks.consumer = .ready) :
    world.holder ≠ some index := by
  unfold Attends at h
  rwa [hready] at h

/-- Nothing that happens to the channel or the producer matters to a consumer. -/
theorem congr (h : tasks.Attends inv index promise world) (hwatcher : after.watcher = tasks.watcher)
    (hconsumer : after.consumer = tasks.consumer) : after.Attends inv index promise world := by
  unfold Attends at h ⊢
  rwa [hwatcher, hconsumer]

theorem of_others (h : tasks.Attends inv index promise world)
    (hothers : (Actor.ofWatcher index tasks.watcher).Others inv world later) :
    tasks.Attends inv index promise later := by
  unfold Attends at h ⊢
  split at h
  · exact fun hholder => h (hothers.holder.mp hholder)
  · obtain ⟨start, hstart, hsafe⟩ := h
    exact ⟨start, hstart, hsafe.of_others hothers⟩
  · trivial

theorem take {known : List Event} {message : Message} (hfree : world.holder ≠ some index)
    (hknown : ∀ event ∈ known, world.database.Holds event)
    (hdeliverable : Deliverable inv tasks.watcher.key known message)
    (hallowed : ∀ watermark ∈ tasks.watcher.watermark, watermark.Allowed inv)
    (hwatcher : after.watcher = tasks.watcher)
    (hconsumer : after.consumer = .handling (deliver tasks.watcher message)) :
    after.Attends inv index (eventsOf message) world := by
  unfold Attends
  rw [hconsumer, hwatcher]
  exact ⟨world, hfree, Actor.keeps_deliver message hfree hknown hdeliverable hallowed⟩

theorem perform {request : Request} {next : request.Reply → Routine Unit} {reply : request.Reply}
    (h : tasks.Attends inv index promise world)
    (hconsumer : tasks.consumer = .handling (.ask request next))
    (hreplied : World.Replied Actor.unasked index request world reply later) :
    (Actor.ofWatcher index tasks.watcher).Own inv world later ∧
      Attends inv index promise { tasks with consumer := .handling (next reply) } later := by
  unfold Attends at h
  rw [hconsumer] at h
  obtain ⟨start, hstart, hsafe⟩ := h
  obtain ⟨hown, hnext⟩ := hsafe world (.refl world) reply later hreplied
  exact ⟨hown, start, hstart, hnext⟩

theorem finish (h : tasks.Attends inv index promise world)
    (hconsumer : tasks.consumer = .handling (.done (.ok ()))) :
    world.holder ≠ some index ∧ ∀ event ∈ promise, world.database.Holds event := by
  unfold Attends at h
  rw [hconsumer] at h
  obtain ⟨start, hstart, hsafe⟩ := h
  obtain ⟨hsince, hheld⟩ := hsafe.ends_now
  exact ⟨fun hholder => hstart (hsince.holder.mp hholder), hheld⟩

end Attends

end WatcherTasks

namespace Tracker

variable {settings : Settings} {cancelled : Bool} {tracker after : Tracker} {world : World}
  {database : Database}

/-- The number of the watcher whose tasks a step moves, given how many watchers have tasks. -/
def Step.mover (count : Nat) : Step → Option Nat
  | .spawn => none
  | .opened _ => some (count - 1)
  | .produce i _ | .consume i _ | .joinProducer i | .joinConsumer i => some i

@[simp] theorem notice_locked (tracker : Tracker) (cancelled : Bool)
    (result : Except Failure Unit) :
    (tracker.notice cancelled result).locked = tracker.locked := by
  unfold notice
  split
  · rfl
  · split
    · rfl
    · split <;> rfl

@[simp] theorem notice_waiting (tracker : Tracker) (cancelled : Bool)
    (result : Except Failure Unit) :
    (tracker.notice cancelled result).waiting = tracker.waiting := by
  unfold notice
  split
  · rfl
  · split
    · rfl
    · split <;> rfl

/-- Only the last watcher can be waiting for its stream. -/
def OpensLast (tracker : Tracker) : Prop :=
  ∀ i tasks, tracker.tasks[i]? = some tasks → tasks.producer = none → i + 1 = tracker.tasks.length

theorem map_afterOpening (hlast : tracker.OpensLast) {i : Nat} {tasks : WatcherTasks}
    (htasks : tracker.tasks[i]? = some tasks) (hnone : tasks.producer = none)
    (reply : Except Failure Unit) :
    tracker.tasks.map (afterOpening reply) = tracker.tasks.set i (afterOpening reply tasks) := by
  -- All others have their producer already, so opening leaves them as they are.
  refine List.ext_getElem? fun j => ?_
  rw [List.getElem?_map, List.getElem?_set]
  by_cases hsame : i = j
  · subst hsame
    have hlt : i < tracker.tasks.length := (List.getElem?_eq_some_iff.mp htasks).1
    rw [if_pos rfl, if_pos hlt, htasks]
    rfl
  · rw [if_neg hsame]
    cases hother : tracker.tasks[j]? with
    | none => rfl
    | some other =>
      have hsome : other.producer ≠ none := fun h => hsame (by
        have hi := hlast i tasks htasks hnone
        have hj := hlast j other hother h
        omega)
      have hkept : afterOpening reply other = other := by
        unfold afterOpening
        cases hproducer : other.producer with
        | none => exact absurd hproducer hsome
        | some phase => rfl
      simp [hkept]

/-- A step starts the next watcher, or it is a move of one watcher's tasks. -/
theorem step_cases {step : Step} (hlast : tracker.OpensLast)
    (hlocked : tracker.locked = world.holder.isSome)
    (h : tracker.step settings cancelled world.database step = some (database, after)) :
    (step = .spawn ∧ database = world.database ∧ tracker.opening = false ∧
      ∃ start rest, tracker.waiting = start :: rest ∧ after.locked = tracker.locked ∧
        after.waiting = rest ∧
        after.tasks = tracker.tasks ++ [firstTasks settings start.1 start.2]) ∨
    ∃ i tasks moved later, step.mover tracker.tasks.length = some i ∧
      tracker.tasks[i]? = some tasks ∧ tasks.Moves settings i world step moved later ∧
      database = later.database ∧ after.locked = later.holder.isSome ∧
      after.tasks = tracker.tasks.set i moved ∧
      (after.waiting = tracker.waiting ∨ after.waiting = []) := by
  cases step with
  | spawn =>
    simp only [Tracker.step] at h
    split at h
    · cases h
    · next watcher cursor rest hwaiting =>
      split at h
      · cases h
      · next hopening =>
        cases h
        exact .inl ⟨rfl, rfl, by simpa using hopening, (watcher, cursor), rest, hwaiting, rfl, rfl,
          rfl⟩
  | opened reply =>
    simp only [Tracker.step] at h
    split at h
    · cases h
    · next hopening =>
      have hopening : tracker.opening = true := by simpa using hopening
      obtain ⟨tasks, hmem, hnone⟩ := List.any_eq_true.mp hopening
      have hnone : tasks.producer = none := Option.isNone_iff_eq_none.mp hnone
      obtain ⟨i, htasks⟩ := List.mem_iff_getElem?.mp hmem
      have hi := hlast i tasks htasks hnone
      have hmap := map_afterOpening hlast htasks hnone reply
      refine .inr ⟨i, tasks, _, world, congrArg some (by omega), htasks, .opened reply hnone, ?_⟩
      cases reply with
      | ok _ =>
        cases h
        exact ⟨rfl, hlocked, hmap, .inl rfl⟩
      | error failure =>
        cases h
        exact ⟨rfl, hlocked, hmap, .inr rfl⟩
  | produce i move =>
    simp only [Tracker.step, Option.bind_eq_bind] at h
    rw [Option.bind_eq_some_iff] at h
    obtain ⟨tasks, htasks, h⟩ := h
    rw [Option.bind_eq_some_iff] at h
    obtain ⟨⟨fired, moved⟩, hproduce, h⟩ := h
    cases h
    exact .inr ⟨i, tasks, moved, world, rfl, htasks, WatcherTasks.moves_of_produce hproduce, rfl,
      hlocked, rfl, .inl rfl⟩
  | consume i move =>
    simp only [Tracker.step, Option.bind_eq_bind] at h
    rw [Option.bind_eq_some_iff] at h
    obtain ⟨tasks, htasks, h⟩ := h
    rw [Option.bind_eq_some_iff] at h
    obtain ⟨⟨shared, fired, moved⟩, hconsume, h⟩ := h
    cases h
    obtain ⟨later, hmoves, hdata, hlock⟩ := WatcherTasks.moves_of_consume hconsume rfl hlocked
    exact .inr ⟨i, tasks, moved, later, rfl, htasks, hmoves, hdata, hlock, rfl, .inl rfl⟩
  | joinProducer i =>
    simp only [Tracker.step, Option.bind_eq_bind] at h
    rw [Option.bind_eq_some_iff] at h
    obtain ⟨tasks, htasks, h⟩ := h
    split at h
    · split at h
      · cases h
        exact .inr ⟨i, tasks, _, world, rfl, htasks, .join true tasks.consumerJoined (.inl rfl),
          rfl, by simpa using hlocked, rfl, .inl (by simp)⟩
      · cases h
    · cases h
  | joinConsumer i =>
    simp only [Tracker.step, Option.bind_eq_bind] at h
    rw [Option.bind_eq_some_iff] at h
    obtain ⟨tasks, htasks, h⟩ := h
    split at h
    · split at h
      · cases h
        exact .inr ⟨i, tasks, _, world, rfl, htasks, .join tasks.producerJoined true (.inr rfl),
          rfl, by simpa using hlocked, rfl, .inl (by simp)⟩
      · cases h
    · cases h

/-! ### Invariants of a tracker -/

theorem getElem?_set_cases {α : Type} {list : List α} {i j : Nat} {new found : α}
    (h : (list.set i new)[j]? = some found) :
    (j = i ∧ found = new) ∨ (i ≠ j ∧ list[j]? = some found) := by
  by_cases hsame : i = j
  · subst hsame
    have hlt : i < list.length := by
      have hlt := (List.getElem?_eq_some_iff.mp h).1
      rwa [List.length_set] at hlt
    rw [List.getElem?_set_self hlt] at h
    exact .inl ⟨rfl, (Option.some.inj h).symm⟩
  · rw [List.getElem?_set_ne hsame] at h
    exact .inr ⟨hsame, h⟩

theorem getElem?_concat_cases {α : Type} {list : List α} {j : Nat} {new found : α}
    (h : (list ++ [new])[j]? = some found) :
    (j = list.length ∧ found = new) ∨ (j < list.length ∧ list[j]? = some found) := by
  rcases Nat.lt_or_ge j list.length with hlt | hge
  · rw [List.getElem?_append_left hlt] at h
    exact .inr ⟨hlt, h⟩
  · rw [List.getElem?_append_right hge, List.getElem?_singleton] at h
    split at h
    · next hzero => exact .inl ⟨by omega, (Option.some.inj h).symm⟩
    · cases h

theorem map_watcher_set {tasks moved : WatcherTasks} {list : List WatcherTasks} {i : Nat}
    (htasks : list[i]? = some tasks) (hwatcher : moved.watcher = tasks.watcher) :
    (list.set i moved).map (·.watcher) = list.map (·.watcher) := by
  obtain ⟨hlt, hget⟩ := List.getElem?_eq_some_iff.mp htasks
  have hlt : i < (list.map (·.watcher)).length := by simpa using hlt
  have hsame : moved.watcher = (list.map (·.watcher))[i] := by simp [hwatcher, hget]
  rw [List.map_set, hsame, List.set_getElem_self]

theorem producer_of_not_opening (h : tracker.opening = false) {i : Nat} {tasks : WatcherTasks}
    (htasks : tracker.tasks[i]? = some tasks) : tasks.producer ≠ none := by
  intro hnone
  have hopening : tracker.opening = true := List.any_eq_true.mpr
    ⟨tasks, List.mem_of_getElem? htasks, Option.isNone_iff_eq_none.mpr hnone⟩
  rw [h] at hopening
  cases hopening

/-- An invariant of a tracker: one of the database, what is known of the watchers that wait to be
started, and a predicate on the tasks of each watcher. -/
structure Attended (settings : Settings) (inv : Database → Prop)
    (begins : Watcher → Nat → Database → Prop) (tends : Nat → WatcherTasks → World → Prop)
    (tracker : Tracker) (world : World) : Prop where
  sound : inv world.database
  lock : tracker.locked = world.holder.isSome
  held : ∀ i, world.holder = some i → i < tracker.tasks.length
  watchers : tracker.tasks.map (·.watcher) ++ tracker.waiting.map (·.1) <+: settings.watchers
  waiting : ∀ start ∈ tracker.waiting, begins start.1 start.2 world.database
  tasks : ∀ i tasks, tracker.tasks[i]? = some tasks → tends i tasks world
  last : tracker.OpensLast

namespace Attended

variable {inv : Database → Prop} {begins : Watcher → Nat → Database → Prop}
  {tends tends' : Nat → WatcherTasks → World → Prop}

theorem watcher (h : tracker.Attended settings inv begins tends world) {i : Nat}
    {tasks : WatcherTasks} (htasks : tracker.tasks[i]? = some tasks) :
    settings.watchers[i]? = some tasks.watcher := by
  have hlt : i < tracker.tasks.length := (List.getElem?_eq_some_iff.mp htasks).1
  have hmap : (tracker.tasks.map (·.watcher) ++ tracker.waiting.map (·.1))[i]? =
      some tasks.watcher := by
    rw [List.getElem?_append_left (by simpa using hlt), List.getElem?_map, htasks]
    rfl
  obtain ⟨rest, hrest⟩ := h.watchers
  rw [← hrest, List.getElem?_append_left (List.getElem?_eq_some_iff.mp hmap).1]
  exact hmap

theorem start {starts : List (Watcher × Nat)} (hsound : inv database)
    (hwatchers : starts.map (·.1) = settings.watchers)
    (hbegins : ∀ start ∈ starts, begins start.1 start.2 database) :
    Attended settings inv begins tends { waiting := starts } { database } where
  sound := hsound
  lock := rfl
  held := nofun
  watchers := by simp [hwatchers]
  waiting := hbegins
  tasks := fun i tasks h => by simp at h
  last := fun i tasks h => by simp at h

/-- A watcher that is started joins the others at the end. -/
theorem spawn {watcher : Watcher} {cursor : Nat} {rest : List (Watcher × Nat)}
    (h : tracker.Attended settings inv begins tends world) (hopening : tracker.opening = false)
    (hwaiting : tracker.waiting = (watcher, cursor) :: rest)
    (hlocked : after.locked = tracker.locked) (hrest : after.waiting = rest)
    (htasks : after.tasks = tracker.tasks ++ [firstTasks settings watcher cursor])
    (hnew : tends' tracker.tasks.length (firstTasks settings watcher cursor) world)
    (hothers : ∀ i tasks, tracker.tasks[i]? = some tasks → tends i tasks world →
      tends' i tasks world) :
    after.Attended settings inv begins tends' world where
  sound := h.sound
  lock := hlocked.trans h.lock
  held i hi := by
    have hlt := h.held i hi
    rw [htasks, List.length_append]
    omega
  watchers := by
    have hwatchers := h.watchers
    rw [hwaiting, List.map_cons] at hwatchers
    rw [htasks, hrest]
    simpa [firstTasks] using hwatchers
  waiting start hmem := h.waiting start (hwaiting ▸ List.mem_cons_of_mem _ (hrest ▸ hmem))
  tasks i tasks hi := by
    rw [htasks] at hi
    rcases getElem?_concat_cases hi with ⟨rfl, rfl⟩ | ⟨-, hi⟩
    · exact hnew
    · exact hothers i tasks hi (h.tasks i tasks hi)
  last i tasks hi hnone := by
    rw [htasks] at hi
    rcases getElem?_concat_cases hi with ⟨rfl, -⟩ | ⟨-, hi⟩
    · rw [htasks, List.length_append, List.length_singleton]
    · exact absurd hnone (producer_of_not_opening hopening hi)

/-- Tasks that move leave the order of the watchers as it is. -/
theorem move {step : Step} {i : Nat} {tasks moved : WatcherTasks} {later : World}
    (h : tracker.Attended settings inv begins tends world) (hi : tracker.tasks[i]? = some tasks)
    (hmove : tasks.Moves settings i world step moved later)
    (hlocked : after.locked = later.holder.isSome)
    (htasks : after.tasks = tracker.tasks.set i moved)
    (hwaiting : after.waiting = tracker.waiting ∨ after.waiting = [])
    (hown : (Actor.ofWatcher i tasks.watcher).Own inv world later) (hmoved : tends' i moved later)
    (hbegins : ∀ start ∈ tracker.waiting, begins start.1 start.2 later.database)
    (hothers : ∀ j other, i ≠ j → tracker.tasks[j]? = some other → tends j other world →
      tends' j other later) :
    after.Attended settings inv begins tends' later where
  sound := hown.kept h.sound
  lock := hlocked
  held j hj := by
    have hlt : i < tracker.tasks.length := (List.getElem?_eq_some_iff.mp hi).1
    rw [htasks, List.length_set]
    by_cases hsame : j = i
    · omega
    · exact h.held j ((hown.holder j hsame).mp hj)
  watchers := by
    rw [htasks, map_watcher_set hi hmove.watcher]
    rcases hwaiting with hwaiting | hwaiting
    · rw [hwaiting]
      exact h.watchers
    · rw [hwaiting, List.map_nil, List.append_nil]
      exact (List.prefix_append _ _).trans h.watchers
  waiting start hmem := by
    rcases hwaiting with hwaiting | hwaiting
    · exact hbegins start (hwaiting ▸ hmem)
    · rw [hwaiting] at hmem
      cases hmem
  tasks j other hother := by
    rw [htasks] at hother
    rcases getElem?_set_cases hother with ⟨rfl, rfl⟩ | ⟨hsame, hother⟩
    · exact hmoved
    · exact hothers j other hsame hother (h.tasks j other hother)
  last j other hother hnone := by
    rw [htasks, List.length_set]
    rw [htasks] at hother
    rcases getElem?_set_cases hother with ⟨rfl, rfl⟩ | ⟨hsame, hother⟩
    · exact h.last j tasks hi (hmove.producer_isNone hnone)
    · exact h.last j other hother hnone

/-- A step keeps an invariant if the next watcher begins as it must, the tasks that move keep to the
rules and to their own predicate, and the predicates of all others bear what the rules let one
do. -/
theorem step {step : Step} (h : tracker.Attended settings inv begins tends world)
    (hstep : tracker.step settings cancelled world.database step = some (database, after))
    (hapart : ∀ i j a b, settings.watchers[i]? = some a → settings.watchers[j]? = some b → i ≠ j →
      (Actor.ofWatcher i a).Apart (Actor.ofWatcher j b))
    (hbegins : ∀ watcher cursor before after, before.Grows after → begins watcher cursor before →
      begins watcher cursor after)
    (hspawn : step = .spawn → ∀ watcher cursor, begins watcher cursor world.database →
      world.holder ≠ some tracker.tasks.length →
        tends' tracker.tasks.length (firstTasks settings watcher cursor) world)
    (hmoves : ∀ i tasks moved later, settings.watchers[i]? = some tasks.watcher →
      step.mover tracker.tasks.length = some i → tracker.tasks[i]? = some tasks →
        tends i tasks world → tasks.Moves settings i world step moved later →
          (Actor.ofWatcher i tasks.watcher).Own inv world later ∧ tends' i moved later)
    (hothers : ∀ i tasks later, step.mover tracker.tasks.length ≠ some i →
      tracker.tasks[i]? = some tasks → tends i tasks world →
        (Actor.ofWatcher i tasks.watcher).Others inv world later → tends' i tasks later) :
    ∃ later : World, later.database = database ∧ world.database.Grows later.database ∧
      after.Attended settings inv begins tends' later := by
  rcases step_cases h.last h.lock hstep with
    ⟨hspawned, hdatabase, hopening, start, rest, hwaiting, hlocked, hrest, htasks⟩ |
    ⟨i, tasks, moved, later, hmover, hi, hmove, hdatabase, hlocked, htasks, hwaiting⟩
  · have hfree : world.holder ≠ some tracker.tasks.length := fun hholder =>
      Nat.lt_irrefl _ (h.held _ hholder)
    have hbegin := h.waiting start (hwaiting ▸ List.mem_cons_self)
    have hnew := hspawn hspawned start.1 start.2 hbegin hfree
    have hmover : ∀ i, step.mover tracker.tasks.length ≠ some i := by
      rw [hspawned]
      exact nofun
    exact ⟨world, hdatabase.symm, .refl _, h.spawn hopening hwaiting hlocked hrest htasks hnew
      fun i tasks hi htends => hothers i tasks world (hmover i) hi htends (.refl _)⟩
  · have hwatcher := h.watcher hi
    obtain ⟨hown, hmoved⟩ :=
      hmoves i tasks moved later hwatcher hmover hi (h.tasks i tasks hi) hmove
    refine ⟨later, hdatabase.symm, hown.grows, h.move hi hmove hlocked htasks hwaiting hown hmoved
      (fun start hmem => hbegins _ _ _ _ hown.grows (h.waiting start hmem))
      fun j other hne hother htends => ?_⟩
    have happart := hapart i j _ _ hwatcher (h.watcher hother) hne
    refine hothers j other later (fun heq => hne ?_) hother htends (hown.others happart)
    rw [hmover] at heq
    exact Option.some.inj heq

end Attended

end Tracker

end EventIndexer
