import EventIndexer.Proofs.Moves

/-! What the tasks of a watcher can be told of, and what they make of it.  A wait tells of an
interruption only once the group's token has fired, and the database never does; and a routine of
theirs passes on the failures that it is told of, and makes up none but the end of the stream.  So
neither of the tasks ends before the token has fired, and only a failure of theirs can fire it. -/

namespace EventIndexer

/-! ### Failures -/

section

variable {α : Type} (real : Failure → Prop)

/-- Whether a result, if it is a failure, is one of some failures. -/
def Reports (result : Except Failure α) : Prop := ∀ failure, result = .error failure → real failure

/-- Whether a routine passes on failures that it is told of, and makes up none that are not among
some failures. -/
def Routine.Frank (routine : Routine α) : Prop :=
  routine.Safe (.told fun _ reply => Reports real reply) (fun result _ => Reports real result) ()

end

namespace Routine.Frank

variable {α β : Type} {real : Failure → Prop} {routine : Routine α}

theorem pure (value : α) : (Pure.pure value : Routine α).Frank real := fun _ _ => nofun

theorem fail {failure : Failure} (h : real failure) :
    (Routine.fail failure : Routine α).Frank real := by
  intro _ _ found hfound
  cases hfound
  exact h

theorem request (request : Request) : (Routine.request request).Frank real := Safe.told request

theorem told {request : Request} {next : request.Reply → Routine α} {reply : request.Reply}
    (h : (Routine.ask request next).Frank real) (hreply : Reports real reply) :
    (next reply).Frank real :=
  (h () trivial reply () hreply).2

theorem failed {failure : Failure} (h : (Routine.done (.error failure) : Routine α).Frank real) :
    real failure :=
  h () trivial failure rfl

theorem bind {first : Routine β} {next : β → Routine α} (h : first.Frank real)
    (hnext : ∀ value, (next value).Frank real) : (first >>= next).Frank real := by
  refine Safe.bind h (fun value _ _ => hnext value) fun failure _ hreports found hfound => ?_
  cases hfound
  exact hreports failure rfl

theorem ending {last : Request} (h : routine.Frank real) : (routine.ending last).Frank real :=
  Safe.ending h fun _ _ hreports _ _ _ => ⟨trivial, fun _ _ => hreports⟩

theorem checkpoint (key : String) (height : Nat) : (Cursor.checkpoint key height).Frank real := by
  refine (request _).bind fun found => ?_
  cases found with
  | none => exact request _
  | some current =>
    dsimp only
    split
    · exact pure ()
    · exact request _

theorem lowest (members : List String) (low : Option Nat) :
    (Watermark.lowest members low).Frank real := by
  induction members generalizing low with
  | nil => exact pure low
  | cons key rest ih =>
    refine (request _).bind fun found => ?_
    cases found with
    | none => exact pure none
    | some height => exact ih _

theorem refresh (watermark : Watermark) : watermark.refresh.Frank real := by
  refine (request .lock).bind fun _ => ((lowest _ _).bind fun low => ?_).ending
  cases low with
  | none => exact pure none
  | some height => exact (checkpoint _ height).bind fun _ => pure (some height)

theorem work (watcher : Watcher) (work : Work) : (work.deliver watcher).Frank real := by
  cases work with
  | skip => exact pure ()
  | element event => exact request _
  | many events =>
    cases events with
    | nil => exact pure ()
    | cons event rest => exact request _
  | checkpoint height =>
    refine (checkpoint _ height).bind fun _ => ?_
    cases watcher.watermark with
    | none => exact pure ()
    | some watermark => exact (refresh watermark).bind fun _ => pure ()

theorem deliver (watcher : Watcher) (message : Message) :
    (EventIndexer.deliver watcher message).Frank real := by
  induction message with
  | nil => exact pure ()
  | cons first rest ih => exact (work watcher first).bind fun _ => ih

variable {settings : Settings} {kinds : List Kind} {feed : Feed}

theorem catchUp : (feed.catchUp settings kinds).Frank real := by
  refine (request _).bind fun head => ?_
  cases feed.progress.nextRange head settings.maxRangeWidth with
  | none => exact pure none
  | some range => exact (request _).bind fun logs => pure _

theorem listen (hended : real Cause.streamEnded) : feed.listen.Frank real := by
  refine (request _).bind fun next => ?_
  cases next with
  | none => exact fail hended
  | some log => exact pure _

theorem next (hended : real Cause.streamEnded) : (feed.next settings kinds).Frank real := by
  unfold Feed.next
  cases settings.liveMode with
  | poll =>
    refine catchUp.bind fun found => ?_
    cases found with
    | none => exact (request _).bind fun _ => pure _
    | some ahead => exact pure ahead
  | subscribe =>
    show (feed.follow settings kinds).Frank real
    unfold Feed.follow
    split
    · exact listen hended
    · refine catchUp.bind fun found => ?_
      cases found with
      | none => exact listen hended
      | some ahead => exact pure ahead

end Routine.Frank

namespace Database

variable {database after : Database}

theorem open_reports (database : Database) : Reports (·.isCancellation = false) database.open? := by
  intro failure hfailure
  unfold open? at hfailure
  split at hfailure
  · cases hfailure
    rfl
  · cases hfailure

theorem cursor_reports (database : Database) (key : String) :
    Reports (·.isCancellation = false) (database.cursor key) := by
  intro failure hfailure
  unfold cursor cursorRow at hfailure
  cases hopen : database.open? with
  | error found =>
    simp only [hopen, bind, Except.bind, Except.error.injEq] at hfailure
    exact database.open_reports failure (hfailure ▸ hopen)
  | ok _ =>
    simp only [hopen, bind, Except.bind, pure, Except.pure] at hfailure
    split at hfailure
    · cases hfailure
    · split at hfailure
      · cases hfailure
        rfl
      · cases hfailure

theorem setCursor_reports (database : Database) (key : String) (height : Nat) :
    Reports (·.isCancellation = false) (database.setCursor key height).1 := by
  intro failure hfailure
  unfold setCursor column at hfailure
  split at hfailure
  · next hcolumn =>
    split at hcolumn
    · cases hcolumn
      cases hfailure
      rfl
    · cases hcolumn
  · unfold setColumn at hfailure
    split at hfailure
    · cases hfailure
      rfl
    · split at hfailure
      · cases hfailure
        rfl
      · cases hfailure

theorem insertAll_reports (database : Database) (events : List Event) :
    Reports (·.isCancellation = false) (database.insertAll events) := by
  induction events generalizing database with
  | nil => exact fun _ => nofun
  | cons event rest ih =>
    intro failure hfailure
    unfold insertAll at hfailure
    cases hinsert : database.insert event with
    | error found =>
      simp only [hinsert, bind, Except.bind, Except.error.injEq] at hfailure
      subst hfailure
      unfold insert at hinsert
      split at hinsert
      · cases hinsert
        rfl
      · split at hinsert <;> cases hinsert
    | ok inserted =>
      simp only [hinsert, bind, Except.bind] at hfailure
      cases hrest : inserted.1.insertAll rest with
      | error found =>
        simp only [hrest, Except.error.injEq] at hfailure
        exact ih inserted.1 failure (hfailure ▸ hrest)
      | ok stored => simp [hrest, pure, Except.pure] at hfailure

theorem append_reports (database : Database) (events : List Event) :
    Reports (·.isCancellation = false) (database.append events).1 := by
  intro failure hfailure
  unfold append at hfailure
  cases hopen : database.open? with
  | error found =>
    simp only [hopen, bind, Except.bind, Except.error.injEq] at hfailure
    exact database.open_reports failure (hfailure ▸ hopen)
  | ok _ =>
    simp only [hopen, bind, Except.bind] at hfailure
    split at hfailure
    · cases hfailure
    · next found hall =>
      cases hfailure
      exact database.insertAll_reports events failure hall

/-- The database never says that a wait was interrupted. -/
theorem answer_reports {request : Request} {reply : request.Reply}
    (h : database.answer request = some (reply, after)) :
    Reports (·.isCancellation = false) reply := by
  have hstored : ∀ events, Reports (·.isCancellation = false)
      ((database.append events).1.map fun _ => ()) := by
    intro events failure hfailure
    cases hresult : (database.append events).1 with
    | ok rows => simp [hresult, Except.map] at hfailure
    | error found =>
      simp only [hresult, Except.map, Except.error.injEq] at hfailure
      exact database.append_reports events failure (hfailure ▸ hresult)
  cases request with
  | readCursor key =>
    obtain ⟨rfl, -⟩ := Prod.mk.inj (Option.some.inj h)
    exact database.cursor_reports key
  | writeCursor key height =>
    obtain ⟨rfl, -⟩ := Prod.mk.inj (Option.some.inj h)
    exact database.setCursor_reports key height
  | storeOne event =>
    obtain ⟨rfl, -⟩ := Prod.mk.inj (Option.some.inj h)
    exact hstored [event]
  | storeBatch events =>
    obtain ⟨rfl, -⟩ := Prod.mk.inj (Option.some.inj h)
    exact hstored events
  | _ => cases h

end Database

/-- What a consumer is told of is a fault, or comes from the database. -/
theorem WatcherTasks.Shared.answer_reports {real : Failure → Prop}
    (hreal : ∀ failure, failure.isCancellation = false → real failure) {shared after : Shared}
    {fault : Option Failure} {request : Request} {reply : request.Reply}
    (hfault : ∀ failure ∈ fault, real failure)
    (h : shared.answer fault request = some (reply, after)) : Reports real reply := by
  unfold answer at h
  split at h
  · split at h
    · cases h
    · cases h
      exact fun _ => nofun
  · cases h
    exact fun _ => nofun
  · cases h
    intro failure hfailure
    cases hfailure
    exact hfault _ rfl
  · rw [Option.map_eq_some_iff] at h
    obtain ⟨⟨answered, database⟩, hanswer, hafter⟩ := h
    cases hafter
    exact fun failure hfailure => hreal failure (Database.answer_reports hanswer failure hfailure)

/-! ### What is always so of the tasks of a watcher -/

namespace WatcherTasks

variable {settings : Settings} {real : Failure → Prop} {fired later settled : Bool}
  {tasks after : WatcherTasks}

/-- Whether one of the tasks has ended with a failure. -/
def Fails (tasks : WatcherTasks) (failure : Failure) : Prop :=
  tasks.producer = some (.ended (.error failure)) ∨ tasks.consumer = .ended (.error failure)

def Over (tasks : WatcherTasks) : Prop :=
  (∃ result, tasks.producer = some (.ended result)) ∧ ∃ result, tasks.consumer = .ended result

/-- What is always so of the tasks of a watcher, given whether the group's token has fired, and
whether the tracker can pass over a failure that it notices. -/
structure Governed (real : Failure → Prop) (fired settled : Bool) (tasks : WatcherTasks) :
    Prop where
  calling : ∀ call, tasks.producer = some (.calling call) → fired = true ∨ call.Frank real
  handling : ∀ call, tasks.consumer = .handling call → call.Frank real
  stopped : ∀ result, tasks.producer = some (.ended result) → fired = true
  quit : ∀ result, tasks.consumer = .ended result → fired = true
  senderGone : tasks.channel.senderGone = true → ∃ result, tasks.producer = some (.ended result)
  receiverGone : tasks.channel.receiverGone = true → ∃ result, tasks.consumer = .ended result
  producerJoined : tasks.producerJoined = true →
    ∃ result, tasks.producer = some (.ended result) ∧ (settled = true ∨ result = .ok ())
  consumerJoined : tasks.consumerJoined = true →
    ∃ result, tasks.consumer = .ended result ∧ (settled = true ∨ result = .ok ())

/-- What every move of a watcher's tasks does: what has failed has failed for good, and the token is
fired by a failure only. -/
structure Onward (real : Failure → Prop) (fired later : Bool) (tasks after : WatcherTasks) :
    Prop where
  fails : ∀ failure, tasks.Fails failure → after.Fails failure
  cause : later = true → fired = true ∨ ∃ failure, real failure ∧ after.Fails failure

namespace Governed

theorem mono {fired' settled' : Bool} (h : tasks.Governed real fired settled)
    (hfired : fired = true → fired' = true) (hsettled : settled = true → settled' = true) :
    tasks.Governed real fired' settled' where
  calling call hcall := (h.calling call hcall).imp_left hfired
  handling := h.handling
  stopped result hresult := hfired (h.stopped result hresult)
  quit result hresult := hfired (h.quit result hresult)
  senderGone := h.senderGone
  receiverGone := h.receiverGone
  producerJoined hjoined :=
    let ⟨result, hresult, hpassed⟩ := h.producerJoined hjoined
    ⟨result, hresult, hpassed.imp_left hsettled⟩
  consumerJoined hjoined :=
    let ⟨result, hresult, hpassed⟩ := h.consumerJoined hjoined
    ⟨result, hresult, hpassed.imp_left hsettled⟩

theorem first (watcher : Watcher) (cursor : Nat) :
    (Tracker.firstTasks settings watcher cursor).Governed real fired settled where
  calling call hcall := by
    simp only [Tracker.firstTasks] at hcall
    split at hcall <;> cases hcall
  handling := nofun
  stopped result hresult := by
    simp only [Tracker.firstTasks] at hresult
    split at hresult <;> cases hresult
  quit := nofun
  senderGone := nofun
  receiverGone := nofun
  producerJoined := nofun
  consumerJoined := nofun

/-! ### The producer -/

/-- A producer that has not ended goes on. -/
theorem producing (h : tasks.Governed real fired settled)
    (hrunning : ∀ result, tasks.producer ≠ some (.ended result))
    (phase : Producer.Phase (Routine (Message × Feed)) Message)
    (hgoes : ∀ result, phase ≠ .ended result)
    (hcalling : ∀ call, phase = .calling call → fired = true ∨ call.Frank real)
    (feed : Feed) (queue : List Message) :
    Governed real fired settled
      { tasks with producer := some phase, feed, channel := { tasks.channel with queue } } where
  calling call hcall := hcalling call (Option.some.inj hcall)
  handling := h.handling
  stopped result hresult := absurd (Option.some.inj hresult) (hgoes result)
  quit := h.quit
  senderGone hgone := absurd (h.senderGone hgone).choose_spec (hrunning _)
  receiverGone := h.receiverGone
  producerJoined hjoined := absurd (h.producerJoined hjoined).choose_spec.1 (hrunning _)
  consumerJoined := h.consumerJoined

/-- A producer that has not ended ends once the token has fired. -/
theorem produced (h : tasks.Governed real fired settled)
    (hrunning : ∀ result, tasks.producer ≠ some (.ended result)) (result : Except Failure Unit) :
    Governed real true settled
      { tasks with
        producer := some (.ended result)
        channel := { tasks.channel with senderGone := true } } where
  calling := nofun
  handling := h.handling
  stopped _ _ := rfl
  quit _ _ := rfl
  senderGone _ := ⟨result, rfl⟩
  receiverGone := h.receiverGone
  producerJoined hjoined := absurd (h.producerJoined hjoined).choose_spec.1 (hrunning _)
  consumerJoined := h.consumerJoined

theorem fails_of_producer {failure : Failure} (hfails : tasks.Fails failure)
    (hrunning : ∀ result, tasks.producer ≠ some (.ended result))
    (hconsumer : after.consumer = tasks.consumer) : after.Fails failure :=
  .inr (hconsumer.trans (hfails.resolve_left (hrunning _)))

theorem produces {move : ProducerMove}
    (hreal : ∀ failure, failure.isCancellation = false → real failure)
    (h : tasks.Governed real fired settled)
    (hmove : tasks.Produces settings fired move later after) :
    after.Governed real later settled ∧ tasks.Onward real fired later after := by
  cases hmove with
  | call hready =>
    have hrunning : ∀ result, tasks.producer ≠ some (.ended result) := by simp [hready]
    refine ⟨h.producing hrunning _ (by simp) (fun call hcall => .inr ?_) tasks.feed
      tasks.channel.queue, fun _ hfails => fails_of_producer hfails hrunning rfl, .inl⟩
    cases hcall
    exact .next (hreal _ rfl)
  | reply hcalling hreply =>
    have hrunning : ∀ result, tasks.producer ≠ some (.ended result) := by simp [hcalling]
    refine ⟨h.producing hrunning _ (by simp) (fun call hcall => ?_) tasks.feed tasks.channel.queue,
      fun _ hfails => fails_of_producer hfails hrunning rfl, .inl⟩
    cases hcall
    cases hfired : fired with
    | true => exact .inl rfl
    | false =>
      have hfrank := (h.calling _ hcalling).resolve_left (by simp [hfired])
      refine .inr (hfrank.told fun failure hfailure => hreal failure ?_)
      exact Bool.eq_false_iff.mpr fun hsays => by
        simp [hreply failure hfailure hsays] at hfired
  | handOver hcalling =>
    have hrunning : ∀ result, tasks.producer ≠ some (.ended result) := by simp [hcalling]
    exact ⟨h.producing hrunning _ (by simp) (by simp) _ tasks.channel.queue,
      fun _ hfails => fails_of_producer hfails hrunning rfl, .inl⟩
  | send hsending =>
    have hrunning : ∀ result, tasks.producer ≠ some (.ended result) := by simp [hsending]
    exact ⟨h.producing hrunning _ (by simp) (by simp) tasks.feed _,
      fun _ hfails => fails_of_producer hfails hrunning rfl, .inl⟩
  | stop _ hrunning hfired =>
    subst hfired
    exact ⟨h.produced hrunning _, fun _ hfails => fails_of_producer hfails hrunning rfl, .inl⟩
  | lose hsending hgone =>
    have hrunning : ∀ result, tasks.producer ≠ some (.ended result) := by simp [hsending]
    -- A receiver that is gone has itself found the token fired.
    obtain rfl : fired = true := h.quit _ (h.receiverGone hgone).choose_spec
    exact ⟨h.produced hrunning _, fun _ hfails => fails_of_producer hfails hrunning rfl, .inl⟩
  | fail hcalling =>
    have hrunning : ∀ result, tasks.producer ≠ some (.ended result) := by simp [hcalling]
    refine ⟨h.produced hrunning _, fun _ hfails => fails_of_producer hfails hrunning rfl,
      fun _ => (h.calling _ hcalling).imp_right fun hfrank => ?_⟩
    exact ⟨_, hfrank.failed, .inl rfl⟩

/-! ### The consumer -/

/-- A consumer that has not ended goes on. -/
theorem consuming (h : tasks.Governed real fired settled)
    (hrunning : ∀ result, tasks.consumer ≠ .ended result)
    {phase : Consumer.Phase (Routine Unit)} (hgoes : ∀ result, phase ≠ .ended result)
    (hhandling : ∀ call, phase = .handling call → call.Frank real) (queue : List Message) :
    Governed real fired settled
      { tasks with consumer := phase, channel := { tasks.channel with queue } } where
  calling := h.calling
  handling := hhandling
  stopped := h.stopped
  quit result hresult := absurd hresult (hgoes result)
  senderGone := h.senderGone
  receiverGone hgone := absurd (h.receiverGone hgone).choose_spec (hrunning _)
  producerJoined := h.producerJoined
  consumerJoined hjoined := absurd (h.consumerJoined hjoined).choose_spec.1 (hrunning _)

/-- A consumer that has not ended ends once the token has fired. -/
theorem consumed (h : tasks.Governed real fired settled)
    (hrunning : ∀ result, tasks.consumer ≠ .ended result) (result : Except Failure Unit) :
    Governed real true settled
      { tasks with
        consumer := .ended result
        channel := { tasks.channel with receiverGone := true } } where
  calling _ _ := .inl rfl
  handling := nofun
  stopped _ _ := rfl
  quit _ _ := rfl
  senderGone := h.senderGone
  receiverGone _ := ⟨result, rfl⟩
  producerJoined := h.producerJoined
  consumerJoined hjoined := absurd (h.consumerJoined hjoined).choose_spec.1 (hrunning _)

theorem fails_of_consumer {failure : Failure} (hfails : tasks.Fails failure)
    (hrunning : ∀ result, tasks.consumer ≠ .ended result)
    (hproducer : after.producer = tasks.producer) : after.Fails failure :=
  .inl (hproducer.trans (hfails.resolve_right (hrunning _)))

theorem consumes {shared now : Shared} {move : ConsumerMove}
    (hreal : ∀ failure, failure.isCancellation = false → real failure)
    (hfault : ∀ fault, move = .perform fault → ∀ failure ∈ fault, real failure)
    (h : tasks.Governed real fired settled)
    (hmove : tasks.Consumes shared fired move now later after) :
    after.Governed real later settled ∧ tasks.Onward real fired later after := by
  cases hmove with
  | take hready =>
    have hrunning : ∀ result, tasks.consumer ≠ .ended result := by simp [hready]
    refine ⟨h.consuming hrunning (by simp) (fun call hcall => ?_) _,
      fun _ hfails => fails_of_consumer hfails hrunning rfl, .inl⟩
    cases hcall
    exact .deliver _ _
  | perform hhandling hanswer =>
    have hrunning : ∀ result, tasks.consumer ≠ .ended result := by simp [hhandling]
    refine ⟨h.consuming hrunning (by simp) (fun call hcall => ?_) tasks.channel.queue,
      fun _ hfails => fails_of_consumer hfails hrunning rfl, .inl⟩
    cases hcall
    exact (h.handling _ hhandling).told (Shared.answer_reports hreal (hfault _ rfl) hanswer)
  | finish hhandling =>
    have hrunning : ∀ result, tasks.consumer ≠ .ended result := by simp [hhandling]
    exact ⟨h.consuming hrunning (by simp) (by simp) tasks.channel.queue,
      fun _ hfails => fails_of_consumer hfails hrunning rfl, .inl⟩
  | stop hready hfired =>
    have hrunning : ∀ result, tasks.consumer ≠ .ended result := by simp [hready]
    subst hfired
    exact ⟨h.consumed hrunning _, fun _ hfails => fails_of_consumer hfails hrunning rfl, .inl⟩
  | drained hready hgone =>
    have hrunning : ∀ result, tasks.consumer ≠ .ended result := by simp [hready]
    -- A sender that is gone has itself found the token fired.
    obtain rfl : fired = true := h.stopped _ (h.senderGone hgone).choose_spec
    exact ⟨h.consumed hrunning _, fun _ hfails => fails_of_consumer hfails hrunning rfl, .inl⟩
  | fail hhandling =>
    have hrunning : ∀ result, tasks.consumer ≠ .ended result := by simp [hhandling]
    exact ⟨h.consumed hrunning _, fun _ hfails => fails_of_consumer hfails hrunning rfl,
      fun _ => .inr ⟨_, (h.handling _ hhandling).failed, .inr rfl⟩⟩

/-! ### Opening and joining -/

theorem joinProducer (h : tasks.Governed real fired settled) {result : Except Failure Unit}
    (hended : tasks.producer = some (.ended result)) (hpassed : settled = true ∨ result = .ok ()) :
    Governed real fired settled { tasks with producerJoined := true } :=
  { h with producerJoined := fun _ => ⟨result, hended, hpassed⟩ }

theorem joinConsumer (h : tasks.Governed real fired settled) {result : Except Failure Unit}
    (hended : tasks.consumer = .ended result) (hpassed : settled = true ∨ result = .ok ()) :
    Governed real fired settled { tasks with consumerJoined := true } :=
  { h with consumerJoined := fun _ => ⟨result, hended, hpassed⟩ }

theorem afterOpening (h : tasks.Governed real fired settled) {reply : Except Failure Unit}
    (hreply : Reports (fun _ => fired = true) reply) :
    (Tracker.afterOpening reply tasks).Governed real fired settled := by
  unfold Tracker.afterOpening
  split
  · exact h
  · next hnone =>
    have hrunning : ∀ result, tasks.producer ≠ some (.ended result) := by simp [hnone]
    exact h.producing hrunning .ready nofun nofun tasks.feed tasks.channel.queue
  · next failure hnone =>
    obtain rfl : fired = true := hreply failure rfl
    have hrunning : ∀ result, tasks.producer ≠ some (.ended result) := by simp [hnone]
    exact (h.produced hrunning (.ok ())).joinProducer rfl (.inr rfl)

theorem fails_afterOpening {failure : Failure} (hfails : tasks.Fails failure)
    (reply : Except Failure Unit) : (Tracker.afterOpening reply tasks).Fails failure := by
  unfold Tracker.afterOpening
  split
  · exact hfails
  · next hnone => exact fails_of_producer hfails (by simp [hnone]) rfl
  · next hnone => exact fails_of_producer hfails (by simp [hnone]) rfl

end Governed

end WatcherTasks

end EventIndexer
