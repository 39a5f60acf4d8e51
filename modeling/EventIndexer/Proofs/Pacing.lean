import EventIndexer.Proofs.Moves
import EventIndexer.Proofs.Tiling

/-! What a producer that polls hands over, whatever heads it is told of.  Each poll goes on where
the last one that found a range ended, up to the head at most; a poll that finds the head no higher,
or whose query fails, leaves the producer where it is. -/

namespace EventIndexer

/-- The height up to which everything is handed over, once a piece of work is. -/
def Work.reached (low : Nat) : Work → Nat
  | .checkpoint height => height
  | _ => low

/-- The height that the last checkpoint of some messages declares complete. -/
def reached (cursor : Nat) (messages : List Message) : Nat :=
  messages.flatten.foldl Work.reached cursor

theorem reached_append (cursor : Nat) (messages more : List Message) :
    reached cursor (messages ++ more) = reached (reached cursor messages) more := by
  simp only [reached, List.flatten_append, List.foldl_append]

/-- The head that a request is replied with, if it asked for it. -/
def Request.toldHead : (request : Request) → request.Reply → List Nat
  | .head .., .ok height => [height]
  | _, _ => []

namespace Feed

section

variable (settings : Settings) (kinds : List Kind)
  (source : ChunkFilter → Except Failure (List Log))

/-- The query of the range above a height, up to a head. -/
def rangeAbove (low head : Nat) : ChunkFilter :=
  { address := settings.address
    kinds
    first := low + 1
    last := min (low + settings.maxRangeWidth) head }

def rangeMessage (last : Nat) (logs : List Log) : Message :=
  [.many (logs.filterMap Log.event?), .checkpoint last]

/-- What a poll hands over that is told of a head, with everything up to a height handed over. -/
def polled (low head : Nat) : Except Failure Message :=
  if head ≤ low then .ok []
  else
    let range := rangeAbove settings kinds low head
    (source range).map (rangeMessage range.last)

/-- What is left of a poll once it is told of a head. -/
def afterHead (low head : Nat) : Routine (Message × Feed) :=
  if head ≤ low then
    .ask (.pause settings.pollInterval) fun reply => .done (reply.map fun _ => ([], after low))
  else
    let range := rangeAbove settings kinds low head
    .ask (.chunk range) fun reply =>
      .done (reply.map fun logs => (rangeMessage range.last logs, after range.last))

end

variable {settings : Settings} {kinds : List Kind}
  {source : ChunkFilter → Except Failure (List Log)} {cursor low head last : Nat}
  {heads : List Nat} {messages : List Message} {message : Message}

theorem nextRange_after (hwidth : 0 < settings.maxRangeWidth) (hlow : low < maxHeight)
    (hhead : head < maxHeight) :
    (after low).progress.nextRange head settings.maxRangeWidth =
      if head ≤ low then none
      else some (low + 1, min (low + settings.maxRangeWidth) head) := by
  have hnext : (after low).progress.next = low + 1 := Nat.min_eq_left hlow
  unfold Progress.nextRange batchRange
  rw [hnext]
  by_cases hle : head ≤ low
  · rw [if_pos hle, if_pos (.inr (by omega))]
  · rw [if_neg hle, if_neg (by omega)]
    congr 2
    omega

theorem onChunk_after (hlast : last < maxHeight) (logs : List Log) :
    (after low).progress.onChunk last logs =
      (rangeMessage last logs, (after last).progress) := by
  have hnext : (after last).progress = { next := last + 1, checkpoint := last } :=
    congrArg (Progress.mk · last) (Nat.min_eq_left hlast)
  rw [hnext, Progress.onChunk, decodeAll_events]
  rfl

/-- A poll asks for the head, and goes on from there. -/
theorem next_eq (kinds : List Kind) (hmode : settings.liveMode = .poll)
    (hwidth : 0 < settings.maxRangeWidth) (hlow : low < maxHeight) :
    ∃ rest : Except Failure Nat → Routine (Message × Feed),
      (after low).next settings kinds =
        .ask (.head settings.retryDeadline settings.retryInterval) rest ∧
      (∀ failure, rest (.error failure) = .done (.error failure)) ∧
      ∀ head < maxHeight, rest (.ok head) = afterHead settings kinds low head := by
  unfold next poll catchUp
  rw [hmode]
  refine ⟨_, rfl, fun _ => rfl, fun head hhead => ?_⟩
  have hnext := nextRange_after hwidth hlow hhead
  dsimp only [Routine.bind]
  rw [hnext, afterHead]
  by_cases hle : head ≤ low
  · rw [if_pos hle, if_pos hle]
    refine congrArg (Routine.ask _) (funext fun reply => ?_)
    cases reply <;> rfl
  · rw [if_neg hle, if_neg hle]
    refine congrArg (Routine.ask _) (funext fun reply => ?_)
    cases reply with
    | error failure => rfl
    | ok logs =>
      have hlast : min (low + settings.maxRangeWidth) head < maxHeight := by omega
      exact congrArg (fun ahead : Message × Progress =>
        Routine.done (.ok (ahead.1, ({ progress := ahead.2 } : Feed)))) (onChunk_after hlast logs)

theorem polled_of_le (h : head ≤ low) : polled settings kinds source low head = .ok [] :=
  if_pos h

theorem polled_of_lt (h : low < head) :
    polled settings kinds source low head =
      (source (rangeAbove settings kinds low head)).map
        (rangeMessage (rangeAbove settings kinds low head).last) :=
  if_neg (Nat.not_le.mpr h)

theorem polled_eq_ok (h : polled settings kinds source low head = .ok message) :
    head ≤ low ∧ message = [] ∨
      low < head ∧ ∃ logs, source (rangeAbove settings kinds low head) = .ok logs ∧
        message = rangeMessage (rangeAbove settings kinds low head).last logs := by
  rcases Nat.lt_or_ge low head with hlt | hle
  · rw [polled_of_lt hlt] at h
    cases hlogs : source (rangeAbove settings kinds low head) with
    | error failure =>
      rw [hlogs] at h
      cases h
    | ok logs =>
      rw [hlogs] at h
      cases h
      exact .inr ⟨hlt, logs, rfl, rfl⟩
  · rw [polled_of_le hle] at h
    cases h
    exact .inl ⟨hle, rfl⟩

/-! ### Polls, one after another -/

variable (settings kinds source) in
/-- Polls that were told of heads and handed over messages, each from where the last ones ended. -/
inductive Handed (cursor : Nat) : List Nat → List Message → Prop
  | start : Handed cursor [] []
  | poll {heads : List Nat} {messages : List Message} {head : Nat} {message : Message} :
    Handed cursor heads messages → head < maxHeight →
      polled settings kinds source (reached cursor messages) head = .ok message →
        Handed cursor (heads ++ [head]) (messages ++ [message])

variable (settings kinds source) in
/-- Whether a message hands over the logs of a range. -/
def HandsOver (range : Nat × Nat) (message : Message) : Prop :=
  range.2 + 1 - range.1 ≤ settings.maxRangeWidth ∧
    ∃ logs, source { address := settings.address, kinds, first := range.1, last := range.2 } =
      .ok logs ∧ message = rangeMessage range.2 logs

namespace Handed

theorem length (h : Handed settings kinds source cursor heads messages) :
    messages.length = heads.length := by
  induction h with
  | start => rfl
  | poll _ _ _ ih => simp [ih]

theorem reached_lt (h : Handed settings kinds source cursor heads messages)
    (hcursor : cursor < maxHeight) : reached cursor messages < maxHeight := by
  induction h with
  | start => exact hcursor
  | @poll heads messages head message _ hhead hpolled ih =>
    rw [reached_append]
    rcases polled_eq_ok hpolled with ⟨-, rfl⟩ | ⟨-, logs, -, rfl⟩
    · exact ih
    · exact Nat.lt_of_le_of_lt (Nat.min_le_right _ _) hhead

theorem polled_get (h : Handed settings kinds source cursor heads messages) {i : Nat}
    (hhead : heads[i]? = some head) (hmessage : messages[i]? = some message) :
    polled settings kinds source (reached cursor (messages.take i)) head = .ok message := by
  induction h with
  | start => cases hhead
  | @poll heads messages last lastMessage h _ hpolled ih =>
    have hlength := h.length
    rcases Nat.lt_trichotomy i messages.length with hlt | rfl | hlt
    · rw [List.getElem?_append_left (by omega)] at hhead hmessage
      rw [List.take_append_of_le_length (Nat.le_of_lt hlt)]
      exact ih hhead hmessage
    · rw [hlength, List.getElem?_concat_length] at hhead
      rw [List.getElem?_concat_length] at hmessage
      cases hhead
      cases hmessage
      rwa [List.take_left' rfl]
    · rw [List.getElem?_eq_none (by simp; omega)] at hmessage
      cases hmessage

/-- The messages that are not empty hand over ranges, each right above the one before. -/
theorem ranges (h : Handed settings kinds source cursor heads messages)
    (hwidth : 0 < settings.maxRangeWidth) :
    ∃ ranges, Tiles cursor ranges (reached cursor messages) ∧
      List.Forall₂ (HandsOver settings kinds source) ranges
        (messages.filter fun message => !message.isEmpty) := by
  induction h with
  | start => exact ⟨[], .done, .nil⟩
  | @poll heads messages head message _ _ hpolled ih =>
    obtain ⟨ranges, htiles, hall⟩ := ih
    rw [reached_append, List.filter_append]
    rcases polled_eq_ok hpolled with ⟨-, rfl⟩ | ⟨hlt, logs, hlogs, rfl⟩
    · exact ⟨ranges, htiles, by simpa using hall⟩
    · let last := min (reached cursor messages + settings.maxRangeWidth) head
      have hlast : reached cursor messages < last := by omega
      have hnarrow : last ≤ reached cursor messages + settings.maxRangeWidth :=
        Nat.min_le_left _ _
      refine ⟨ranges ++ [(reached cursor messages + 1, last)], htiles.concat hlast, ?_⟩
      refine List.rel_append hall (.cons ⟨?_, logs, hlogs, rfl⟩ .nil)
      show last + 1 - (reached cursor messages + 1) ≤ _
      omega

end Handed

/-! ### The calls of a producer -/

variable (settings kinds source) in
/-- Where a call stands that began with everything up to a height handed over, and the head that it
was told of, if it was told. -/
inductive Turn (low : Nat) : Routine (Message × Feed) → List Nat → Prop
  | begun : Turn low ((after low).next settings kinds) []
  | told {head : Nat} : head < maxHeight → Turn low (afterHead settings kinds low head) [head]
  | ahead {head : Nat} {message : Message} : head < maxHeight →
    polled settings kinds source low head = .ok message →
      Turn low (.done (.ok (message, after (reached low [message])))) [head]
  | failed {failure : Failure} {current : List Nat} : current.length ≤ 1 →
    Turn low (.done (.error failure)) current

variable {routine : Routine (Message × Feed)} {current : List Nat}

theorem Turn.length_le (h : Turn settings kinds source low routine current) :
    current.length ≤ 1 := by
  cases h with
  | begun => exact Nat.zero_le 1
  | told => exact Nat.le_refl 1
  | ahead => exact Nat.le_refl 1
  | failed hle => exact hle

/-- A reply takes a call further, and may tell it of the head. -/
theorem Turn.reply {request : Request} {next : request.Reply → Routine (Message × Feed)}
    {answer : (request : Request) → request.Reply}
    (h : Turn settings kinds source low (.ask request next) current)
    (hmode : settings.liveMode = .poll) (hwidth : 0 < settings.maxRangeWidth)
    (hlow : low < maxHeight) (hsource : ∀ filter, answer (.chunk filter) = source filter)
    (hheads : ∀ head ∈ request.toldHead (answer request), head < maxHeight) :
    Turn settings kinds source low (next (answer request))
      (current ++ request.toldHead (answer request)) := by
  -- A call that has begun only turns out to be a request once it is unfolded.
  generalize hroutine : Routine.ask request next = routine at h
  cases h with
  | begun =>
    obtain ⟨rest, hrest, herror, hok⟩ := next_eq kinds hmode hwidth hlow
    rw [hrest] at hroutine
    cases hroutine
    cases hanswer : answer (.head settings.retryDeadline settings.retryInterval) with
    | error failure =>
      rw [herror]
      exact .failed (Nat.zero_le 1)
    | ok head =>
      rw [hanswer] at hheads
      have hhead := hheads head List.mem_cons_self
      rw [hok head hhead]
      exact .told hhead
  | @told head hhead =>
    unfold afterHead at hroutine
    by_cases hle : head ≤ low
    · rw [if_pos hle] at hroutine
      cases hroutine
      cases answer (.pause settings.pollInterval) with
      | error failure => exact .failed (Nat.le_refl 1)
      | ok _ =>
        have hpolled : polled settings kinds source low head = .ok [] := polled_of_le hle
        exact .ahead hhead hpolled
    · rw [if_neg hle] at hroutine
      cases hroutine
      rw [hsource]
      cases hlogs : source (rangeAbove settings kinds low head) with
      | error failure => exact .failed (Nat.le_refl 1)
      | ok logs =>
        have hpolled : polled settings kinds source low head =
            .ok (rangeMessage (rangeAbove settings kinds low head).last logs) := by
          rw [polled_of_lt (Nat.lt_of_not_le hle), hlogs]
          rfl
        exact .ahead hhead hpolled
  | ahead => cases hroutine
  | failed => cases hroutine

theorem Turn.ended {feed : Feed} (h : Turn settings kinds source low
    (.done (.ok (message, feed))) current) (hmode : settings.liveMode = .poll)
    (hwidth : 0 < settings.maxRangeWidth) (hlow : low < maxHeight) :
    ∃ head, current = [head] ∧ head < maxHeight ∧ feed = after (reached low [message]) ∧
      polled settings kinds source low head = .ok message := by
  generalize hroutine : Routine.done (.ok (message, feed)) = routine at h
  cases h with
  | begun =>
    obtain ⟨rest, hrest, -, -⟩ := next_eq kinds hmode hwidth hlow
    rw [hrest] at hroutine
    cases hroutine
  | @told head _ =>
    unfold afterHead at hroutine
    split at hroutine <;> cases hroutine
  | @ahead head _ hhead hpolled =>
    cases hroutine
    exact ⟨head, rfl, hhead, rfl, hpolled⟩
  | failed => cases hroutine

/-! ### The whole producer -/

variable (settings kinds source) in
/-- Where a producer stands between two of its steps. -/
inductive Standing (low : Nat) :
    Option (Producer.Phase (Routine (Message × Feed)) Message) → List Nat → Prop
  | ready : Standing low (some .ready) []
  | calling {routine : Routine (Message × Feed)} {current : List Nat} :
    Turn settings kinds source low routine current → Standing low (some (.calling routine)) current
  | sending {message : Message} : Standing low (some (.sending message)) []
  | ended {result : Except Failure Unit} {current : List Nat} : current.length ≤ 1 →
    Standing low (some (.ended result)) current

end Feed

namespace WatcherTasks

/-- The heads that a move tells the producer of. -/
def told (tasks : WatcherTasks) : ProducerMove → List Nat
  | .reply answer =>
    match tasks.producer with
    | some (.calling (.ask request _)) => request.toldHead (answer request)
    | _ => []
  | _ => []

/-- The messages that a move has the producer hand over. -/
def returned (tasks : WatcherTasks) : ProducerMove → List Message
  | .finish =>
    match tasks.producer with
    | some (.calling (.done (.ok (message, _)))) => [message]
    | _ => []
  | _ => []

variable (settings : Settings) (source : ChunkFilter → Except Failure (List Log))

/-- Whether queries of ranges are replied to by a source; the other replies may be any. -/
def Answered : ProducerMove → Prop
  | .reply answer => ∀ filter, answer (.chunk filter) = source filter
  | _ => True

/-- The moves of a producer, with the heads that it is told of and the messages that its calls hand
over.  Whatever happens elsewhere to its tasks touches neither the producer nor its feed. -/
inductive Polls (start : WatcherTasks) : List Nat → List Message → WatcherTasks → Prop
  | start : Polls start [] [] start
  | move {heads : List Nat} {messages : List Message} {tasks later : WatcherTasks}
      {move : ProducerMove} {cancelled fired : Bool} :
    Polls start heads messages tasks → Answered source move →
      tasks.produce settings cancelled move = some (fired, later) →
        Polls start (heads ++ tasks.told move) (messages ++ tasks.returned move) later
  | elsewhere {heads : List Nat} {messages : List Message} {tasks : WatcherTasks}
      (channel : Channel Message) (consumer : Consumer.Phase (Routine Unit))
      (producerJoined consumerJoined : Bool) :
    Polls start heads messages tasks →
      Polls start heads messages { tasks with channel, consumer, producerJoined, consumerJoined }

/-- How far a producer has come: the heads of the polls that are over, and the head of the one that
is not. -/
structure Paced (watcher : Watcher) (cursor : Nat) (past current : List Nat)
    (messages : List Message) (tasks : WatcherTasks) : Prop where
  watched : tasks.watcher = watcher
  feed : tasks.feed = Feed.after (reached cursor messages)
  handed : Feed.Handed settings watcher.kinds source cursor past messages
  standing : Feed.Standing settings watcher.kinds source (reached cursor messages)
    tasks.producer current

variable {settings source} {watcher : Watcher} {cursor : Nat} {past current heads : List Nat}
  {messages : List Message} {tasks later : WatcherTasks} {move : ProducerMove}
  {cancelled fired : Bool}

theorem Paced.length_le (h : Paced settings source watcher cursor past current messages tasks) :
    current.length ≤ 1 := by
  have hstanding := h.standing
  generalize tasks.producer = phase at hstanding
  cases hstanding with
  | ready => exact Nat.zero_le 1
  | calling hturn => exact hturn.length_le
  | sending => exact Nat.zero_le 1
  | ended hle => exact hle

/-- A poll with a message is over. -/
theorem Paced.polled_get (h : Paced settings source watcher cursor past current messages tasks)
    {i head : Nat} {message : Message} (hhead : (past ++ current)[i]? = some head)
    (hmessage : messages[i]? = some message) :
    Feed.polled settings watcher.kinds source (reached cursor (messages.take i)) head =
      .ok message := by
  have hlength := h.handed.length
  obtain ⟨hi, -⟩ := List.getElem?_eq_some_iff.mp hmessage
  rw [List.getElem?_append_left (by omega)] at hhead
  exact h.handed.polled_get hhead hmessage

/-- A poll that was told of a head and cannot succeed is the last. -/
theorem Paced.last_of_error (h : Paced settings source watcher cursor past current messages tasks)
    {i head : Nat} {failure : Failure} (hhead : (past ++ current)[i]? = some head)
    (hfailure : Feed.polled settings watcher.kinds source (reached cursor (messages.take i)) head =
      .error failure) :
    messages.length = i ∧ (past ++ current).length = i + 1 := by
  have hlength := h.handed.length
  have hcurrent := h.length_le
  have hnone : messages[i]? = none := by
    cases hmessage : messages[i]? with
    | none => rfl
    | some message => cases hfailure.symm.trans (h.polled_get hhead hmessage)
  rw [List.getElem?_eq_none_iff] at hnone
  obtain ⟨hi, -⟩ := List.getElem?_eq_some_iff.mp hhead
  rw [List.length_append] at hi ⊢
  omega

/-- A move of the producer that neither tells it of a head nor hands over. -/
theorem Paced.rephase (h : Paced settings source watcher cursor past current messages tasks)
    {phase : Producer.Phase (Routine (Message × Feed)) Message} (channel : Channel Message)
    (hstanding : Feed.Standing settings watcher.kinds source (reached cursor messages) (some phase)
      current) :
    Paced settings source watcher cursor past current messages
      { tasks with producer := some phase, channel } :=
  ⟨h.watched, h.feed, h.handed, hstanding⟩

theorem Paced.produces (h : Paced settings source watcher cursor past current messages tasks)
    (hmode : settings.liveMode = .poll) (hwidth : 0 < settings.maxRangeWidth)
    (hcursor : cursor < maxHeight) (hanswered : Answered source move)
    (hheads : ∀ head ∈ tasks.told move, head < maxHeight)
    (hproduces : tasks.Produces settings cancelled move fired later) :
    ∃ past' current', past ++ current ++ tasks.told move = past' ++ current' ∧
      Paced settings source watcher cursor past' current' (messages ++ tasks.returned move)
        later := by
  have hlow := h.handed.reached_lt hcursor
  have hstanding := h.standing
  cases hproduces with
  | call hready =>
    rw [hready] at hstanding
    cases hstanding
    refine ⟨past, [], by simp [told], ?_⟩
    simp only [returned, List.append_nil]
    refine h.rephase tasks.channel (.calling ?_)
    rw [h.feed, h.watched]
    exact .begun
  | @reply answer request next hcalling =>
    have htold : tasks.told (.reply answer) = request.toldHead (answer request) := by
      simp only [told, hcalling]
    rw [hcalling] at hstanding
    cases hstanding with
    | calling hturn =>
      rw [htold] at hheads ⊢
      refine ⟨past, _, List.append_assoc .., ?_⟩
      simp only [returned, List.append_nil]
      exact ⟨h.watched, h.feed, h.handed,
        .calling (hturn.reply hmode hwidth hlow hanswered hheads)⟩
  | @handOver message feed hcalling =>
    have hreturned : tasks.returned .finish = [message] := by simp only [returned, hcalling]
    rw [hcalling] at hstanding
    cases hstanding with
    | calling hturn =>
      obtain ⟨head, rfl, hhead, hfeed, hpolled⟩ := hturn.ended hmode hwidth hlow
      refine ⟨past ++ [head], [], rfl, ?_⟩
      rw [hreturned]
      refine ⟨h.watched, ?_, h.handed.poll hhead hpolled, .sending⟩
      rw [reached_append]
      exact hfeed
  | fail hcalling =>
    refine ⟨past, current, by simp [told], ?_⟩
    simp only [returned, hcalling, List.append_nil]
    exact h.rephase _ (.ended h.length_le)
  | stop =>
    refine ⟨past, current, by simp [told], ?_⟩
    simp only [returned, List.append_nil]
    exact h.rephase _ (.ended h.length_le)
  | send hsending =>
    rw [hsending] at hstanding
    cases hstanding
    refine ⟨past, [], by simp [told], ?_⟩
    simp only [returned, List.append_nil]
    exact h.rephase _ .ready
  | lose =>
    refine ⟨past, current, by simp [told], ?_⟩
    simp only [returned, List.append_nil]
    exact h.rephase _ (.ended h.length_le)

theorem Polls.paced
    (h : Polls settings source (Tracker.firstTasks settings watcher cursor) heads messages tasks)
    (hmode : settings.liveMode = .poll) (hwidth : 0 < settings.maxRangeWidth)
    (hcursor : cursor < maxHeight) (hheads : ∀ head ∈ heads, head < maxHeight) :
    ∃ past current, heads = past ++ current ∧
      Paced settings source watcher cursor past current messages tasks := by
  induction h with
  | start =>
    refine ⟨[], [], rfl, rfl, rfl, .start, ?_⟩
    simp only [Tracker.firstTasks, hmode, if_true]
    exact .ready
  | move h hanswered hproduce ih =>
    obtain ⟨past, current, rfl, hpaced⟩ :=
      ih fun head hmem => hheads head (List.mem_append_left _ hmem)
    exact hpaced.produces hmode hwidth hcursor hanswered
      (fun head hmem => hheads head (List.mem_append_right _ hmem)) (produces_of_produce hproduce)
  | elsewhere _ _ _ _ _ ih =>
    obtain ⟨past, current, hsplit, hpaced⟩ := ih hheads
    exact ⟨past, current, hsplit, hpaced.watched, hpaced.feed, hpaced.handed, hpaced.standing⟩

/-! ### Polls that come to their end -/

/-- The replies of a node that tells of a head. -/
def answering (source : ChunkFilter → Except Failure (List Log)) (head : Nat) :
    (request : Request) → request.Reply
  | .head .. => .ok head
  | .chunk filter => source filter
  | .pause _ => .ok ()
  | _ => .error Cause.streamEnded

namespace Polls

variable {start : WatcherTasks}

theorem call (h : Polls settings source start heads messages tasks)
    (hready : tasks.producer = some .ready) :
    Polls settings source start heads messages { tasks with
      producer := some (.calling (tasks.feed.next settings tasks.watcher.kinds)) } := by
  have hproduce : tasks.produce settings false .call = some (false, { tasks with
      producer := some (.calling (tasks.feed.next settings tasks.watcher.kinds)) }) := by
    unfold produce
    rw [hready]
    rfl
  have hanswered : Answered source .call := trivial
  simpa [told, returned] using h.move hanswered hproduce

theorem reply {request : Request} {next : request.Reply → Routine (Message × Feed)}
    (h : Polls settings source start heads messages tasks)
    (hasks : tasks.producer = some (.calling (.ask request next))) (head : Nat) :
    Polls settings source start (heads ++ request.toldHead (answering source head request)) messages
      { tasks with producer := some (.calling (next (answering source head request))) } := by
  obtain ⟨cancelled, hproduce⟩ : ∃ cancelled,
      tasks.produce settings cancelled (.reply (answering source head)) = some (cancelled,
        { tasks with producer := some (.calling (next (answering source head request))) }) := by
    unfold produce
    rw [hasks]
    dsimp only [Option.bind_eq_bind, Option.bind_some]
    cases answering source head request with
    | ok value => exact ⟨false, rfl⟩
    | error failure =>
      refine ⟨failure.isCancellation, ?_⟩
      dsimp only
      rw [Bool.and_not_self]
      rfl
  have hanswered : Answered source (.reply (answering source head)) := fun _ => rfl
  simpa [told, returned, hasks] using h.move hanswered hproduce

theorem handOver {message : Message} {feed : Feed}
    (h : Polls settings source start heads messages tasks)
    (hdone : tasks.producer = some (.calling (.done (.ok (message, feed))))) :
    Polls settings source start heads (messages ++ [message])
      { tasks with producer := some (.sending message), feed } := by
  have hproduce : tasks.produce settings false .finish =
      some (false, { tasks with producer := some (.sending message), feed }) := by
    unfold produce
    rw [hdone]
    rfl
  have hanswered : Answered source .finish := trivial
  simpa [told, returned, hdone] using h.move hanswered hproduce

theorem send {message : Message} (h : Polls settings source start heads messages tasks)
    (hsending : tasks.producer = some (.sending message))
    (halive : tasks.channel.receiverGone = false) (hroom : tasks.channel.hasRoom = true) :
    Polls settings source start heads messages { tasks with
      producer := some .ready
      channel := { tasks.channel with queue := tasks.channel.queue ++ [message] } } := by
  have hproduce : tasks.produce settings false .send = some (false, { tasks with
      producer := some .ready
      channel := { tasks.channel with queue := tasks.channel.queue ++ [message] } }) := by
    unfold produce
    rw [hsending]
    simp only [Option.bind_eq_bind, Option.bind_some, Producer.step, halive, hroom]
    rfl
  have hanswered : Answered source .send := trivial
  simpa [told, returned, hsending] using h.move hanswered hproduce

theorem fail {failure : Failure} (h : Polls settings source start heads messages tasks)
    (hdone : tasks.producer = some (.calling (.done (.error failure)))) :
    Polls settings source start heads messages { tasks with
      producer := some (.ended (.error failure))
      channel := { tasks.channel with senderGone := true } } := by
  have hproduce : tasks.produce settings false .finish = some (true, { tasks with
      producer := some (.ended (.error failure))
      channel := { tasks.channel with senderGone := true } }) := by
    unfold produce
    rw [hdone]
    rfl
  have hanswered : Answered source .finish := trivial
  simpa [told, returned, hdone] using h.move hanswered hproduce

/-- A poll that is told of a head comes to its end. -/
theorem completes {low head : Nat} (h : Polls settings source start heads messages tasks)
    (hmode : settings.liveMode = .poll) (hwidth : 0 < settings.maxRangeWidth)
    (hlow : low < maxHeight) (hhead : head < maxHeight) (hready : tasks.producer = some .ready)
    (hfeed : tasks.feed = Feed.after low) :
    match Feed.polled settings tasks.watcher.kinds source low head with
    | .ok message => ∃ later, later.producer = some (.sending message) ∧
        Polls settings source start (heads ++ [head]) (messages ++ [message]) later
    | .error failure => ∃ later, later.producer = some (.ended (.error failure)) ∧
        Polls settings source start (heads ++ [head]) messages later := by
  obtain ⟨rest, hrest, -, hok⟩ := Feed.next_eq tasks.watcher.kinds hmode hwidth hlow
  have hcall := h.call hready
  rw [hfeed, hrest] at hcall
  have htold := hcall.reply rfl head
  simp only [answering, hok head hhead] at htold
  rcases Nat.lt_or_ge low head with hlt | hle
  · rw [Feed.afterHead, if_neg (Nat.not_le.mpr hlt)] at htold
    have hqueried := htold.reply rfl head
    rw [Feed.polled_of_lt hlt]
    simp only [answering] at hqueried
    cases hlogs : source (Feed.rangeAbove settings tasks.watcher.kinds low head) with
    | ok logs =>
      rw [hlogs] at hqueried
      exact ⟨_, rfl, by simpa [Request.toldHead] using hqueried.handOver rfl⟩
    | error failure =>
      rw [hlogs] at hqueried
      exact ⟨_, rfl, by simpa [Request.toldHead] using hqueried.fail rfl⟩
  · rw [Feed.afterHead, if_pos hle] at htold
    have hpaused := htold.reply rfl head
    rw [Feed.polled_of_le hle]
    exact ⟨_, rfl, by simpa [Request.toldHead] using hpaused.handOver rfl⟩

end Polls

/-- A producer that polls goes on from where its last message ended, whatever heads it is told of.
Each poll hands over the range above that height, as wide as allowed and up to the head at most, or
an empty message if the head is no higher; after a query that fails it hands over nothing more.  So
at any moment what was handed over are ranges that fill the gap between the cursor and the last
checkpoint, and a poll that is about to begin comes to its end. -/
theorem polls_follow_heads (hmode : settings.liveMode = .poll)
    (hwidth : 0 < settings.maxRangeWidth) (hcursor : cursor < maxHeight)
    (hheads : ∀ head ∈ heads, head < maxHeight)
    (hpolls :
      Polls settings source (Tracker.firstTasks settings watcher cursor) heads messages tasks) :
    let low := reached cursor messages
    (messages.length ≤ heads.length ∧ heads.length ≤ messages.length + 1) ∧
    (∀ i head, heads[i]? = some head →
      let outcome := Feed.polled settings watcher.kinds source
        (reached cursor (messages.take i)) head
      (∀ message, messages[i]? = some message → outcome = .ok message) ∧
        ∀ failure, outcome = .error failure → messages.length = i ∧ heads.length = i + 1) ∧
    tasks.feed.progress = { next := low + 1, checkpoint := low } ∧
    (∃ ranges, Tiles cursor ranges low ∧
      (∀ height, ranges.countP (covers height) = if cursor < height ∧ height ≤ low then 1 else 0) ∧
      List.Forall₂ (Feed.HandsOver settings watcher.kinds source) ranges
        (messages.filter fun message => !message.isEmpty)) ∧
    ∀ head < maxHeight, tasks.producer = some .ready →
      match Feed.polled settings watcher.kinds source low head with
      | .ok message => ∃ later, later.producer = some (.sending message) ∧
          Polls settings source (Tracker.firstTasks settings watcher cursor) (heads ++ [head])
            (messages ++ [message]) later
      | .error failure => ∃ later, later.producer = some (.ended (.error failure)) ∧
          Polls settings source (Tracker.firstTasks settings watcher cursor) (heads ++ [head])
            messages later := by
  obtain ⟨past, current, rfl, hpaced⟩ := hpolls.paced hmode hwidth hcursor hheads
  have hlength := hpaced.handed.length
  have hlow := hpaced.handed.reached_lt hcursor
  have hcurrent := hpaced.length_le
  refine ⟨by simp; omega, fun i head hhead => ?_, ?_, ?_, fun head hhead hready => ?_⟩
  · exact ⟨fun message => hpaced.polled_get hhead, fun failure => hpaced.last_of_error hhead⟩
  · rw [hpaced.feed]
    exact congrArg (Progress.mk · _) (Nat.min_eq_left hlow)
  · obtain ⟨ranges, htiles, hall⟩ := hpaced.handed.ranges hwidth
    exact ⟨ranges, htiles, htiles.countP_covers, hall⟩
  · have hcompletes := hpolls.completes hmode hwidth hlow hhead hready hpaced.feed
    rwa [hpaced.watched] at hcompletes

/-- Ranges of two blocks, each with a stake at its end. -/
def stakePolls : Settings := { Feed.stakeSettings with liveMode := .poll, maxRangeWidth := 2 }

def stakeSource (filter : ChunkFilter) : Except Failure (List Log) :=
  if filter.last = 4 then .error (Cause.network "timeout") else .ok [Feed.stakeLog filter.last]

/-- The first of three heads gives a range, the second is lower, and the query below the third
fails. -/
theorem polls_follow_heads_stakes : ∃ watcher tasks messages,
    Polls stakePolls stakeSource (Tracker.firstTasks stakePolls watcher 0) [3, 1, 5] messages
      tasks ∧
    messages = [Feed.rangeMessage 2 [Feed.stakeLog 2], []] ∧
    tasks.producer = some (.ended (.error (Cause.network "timeout"))) ∧
    tasks.feed.progress = { next := 3, checkpoint := 2 } := by
  let watcher : Watcher := { kinds := [.stake], key := "block", watermark := none }
  let first := Tracker.firstTasks stakePolls watcher 0
  have hcall : Polls stakePolls stakeSource first [] [] _ := Polls.start.call rfl
  have hrange : Polls stakePolls stakeSource first [3]
      [Feed.rangeMessage 2 [Feed.stakeLog 2]] _ :=
    ((hcall.reply rfl 3).reply rfl 3).handOver rfl
  have hsent := hrange.send rfl rfl rfl
  have hidle : Polls stakePolls stakeSource first [3, 1]
      [Feed.rangeMessage 2 [Feed.stakeLog 2], []] _ :=
    (((hsent.call rfl).reply rfl 1).reply rfl 1).handOver rfl
  have hsent' := hidle.send rfl rfl rfl
  have hfailed : Polls stakePolls stakeSource first [3, 1, 5]
      [Feed.rangeMessage 2 [Feed.stakeLog 2], []] _ :=
    (((hsent'.call rfl).reply rfl 5).reply rfl 5).fail rfl
  obtain ⟨-, -, hprogress, -, -⟩ :=
    polls_follow_heads rfl (by decide) (by decide) (by decide) hfailed
  exact ⟨watcher, _, _, hfailed, rfl, rfl, hprogress⟩

end WatcherTasks

end EventIndexer
