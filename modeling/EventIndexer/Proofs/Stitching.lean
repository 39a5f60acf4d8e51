import EventIndexer.Feed
import EventIndexer.Proofs.Source

/-! What a producer hands over, call by call.  `Stitched` says what is known between two calls: the
events handed over are those due from the cursor up to the last checkpoint, and those of the logs
that the stream pushed above it.  Ranges and stream meet without a gap and without an overlap. -/

namespace EventIndexer

open scoped List

/-- The events that works ask to be stored. -/
def eventsOf (works : List Work) : List Event :=
  works.flatMap fun
    | .element event => [event]
    | .many events => events
    | _ => []

@[simp] theorem eventsOf_nil : eventsOf [] = [] := rfl

@[simp] theorem eventsOf_append (first second : List Work) :
    eventsOf (first ++ second) = eventsOf first ++ eventsOf second := by
  simp [eventsOf]

namespace Subscription

def late (stream : Subscription) (height : Nat) : List Event :=
  (stream.seen.filter (·.above height)).filterMap Log.event?

variable {stream : Subscription} {log : Log} {rest : List Log} {event : Event} {height : Nat}

theorem lt_height_of_mem_late (h : event ∈ stream.late height) : height < event.height := by
  obtain ⟨log, hlog, hevent⟩ := List.mem_filterMap.mp h
  obtain ⟨block, hblock, habove⟩ := Log.above_iff.mp (List.mem_filter.mp hlog).2
  rw [Log.block_of_event? hevent] at hblock
  cases hblock
  exact habove

theorem late_push_of_above (h : log.above height = true) :
    (stream.push log rest).late height = stream.late height ++ log.event?.toList := by
  have hone : [log].filter (·.above height) = [log] := by simp [h]
  simp only [late, push, List.filter_append, List.filterMap_append, hone]
  cases hevent : log.event? <;> simp [hevent]

theorem late_push_of_not_above (h : ¬log.above height = true) :
    (stream.push log rest).late height = stream.late height := by
  have hone : [log].filter (·.above height) = [] := by simp [h]
  simp only [late, push, List.filter_append, hone, List.append_nil]

/-- The late events above a height are late above a higher one, or lie in between. -/
theorem late_split (stream : Subscription) {low high : Nat} (h : low ≤ high) :
    (stream.late low).Perm
      ((stream.seen.filter (·.within (low + 1) high)).filterMap Log.event? ++
        stream.late high) := by
  unfold late
  rw [← List.filterMap_append]
  refine List.Perm.filterMap _ (filter_split _ (fun log _ => ?_) fun log _ => ?_)
  · rw [Bool.eq_iff_iff]
    cases hblock : log.block with
    | none => simp [Log.within, Log.above, hblock]
    | some block =>
      simp [Log.within, Log.above, hblock]
      omega
  · cases hblock : log.block <;> simp [Log.within, Log.above, hblock]

end Subscription

/-! ### Calls -/

/-- A routine run to its end, each of its requests replied to as the node may. -/
inductive Chain.Yields (chain : Chain) {α : Type} :
    Routine α → Subscription → Except Failure α → Subscription → Prop
  | done {result : Except Failure α} {stream : Subscription} :
    Yields chain (.done result) stream result stream
  | ask {request : Request} {next : request.Reply → Routine α} {reply : request.Reply}
      {stream middle after : Subscription} {result : Except Failure α} :
    chain.Replies request stream reply middle → Yields chain (next reply) middle result after →
      Yields chain (.ask request next) stream result after

namespace Chain.Yields

variable {chain : Chain} {α β : Type} {stream after : Subscription}

theorem done_ok {value result : α}
    (h : chain.Yields (.done (.ok value)) stream (.ok result) after) :
    result = value ∧ after = stream := by
  cases h
  exact ⟨rfl, rfl⟩

theorem bind_ok {routine : Routine α} {next : α → Routine β} {result : β}
    (h : chain.Yields (routine >>= next) stream (.ok result) after) :
    ∃ value middle, chain.Yields routine stream (.ok value) middle ∧
      chain.Yields (next value) middle (.ok result) after := by
  induction routine generalizing stream with
  | done outcome =>
    cases outcome with
    | ok value => exact ⟨value, stream, .done, h⟩
    | error failure => cases h
  | ask request rest ih =>
    cases h with
    | ask hreply hrest =>
      obtain ⟨value, middle, hfirst, hsecond⟩ := ih _ hrest
      exact ⟨value, middle, .ask hreply hfirst, hsecond⟩

theorem request_ok {request : Request} {answer : request.Answer}
    (h : chain.Yields (Routine.request request) stream (.ok answer) after) :
    chain.Replies request stream (.ok answer) after := by
  cases h with
  | ask hreply hdone =>
    cases hdone
    exact hreply

end Chain.Yields

namespace Feed

section

variable (chain : Chain) (settings : Settings) (kinds : List Kind)

/-- What one call of a producer does if it succeeds: it queries a range, finds nothing while it
polls, or takes the stream's next log, once there is no range left to query. -/
inductive Advance (feed : Feed) (stream : Subscription) :
    Message → Feed → Subscription → Prop
  | range {head first last : Nat} {logs : List Log} :
    feed.caughtUp = false ∨ settings.liveMode = .poll → head ≤ maxHeight →
      feed.progress.nextRange head settings.maxRangeWidth = some (first, last) →
        logs.Perm (chain.wanted { address := settings.address, kinds, first, last }) →
          Advance feed stream (feed.progress.onChunk last logs).1
            { feed with progress := (feed.progress.onChunk last logs).2 } stream
  | idle : settings.liveMode = .poll → Advance feed stream [] feed stream
  | log {log : Log} {rest : List Log} :
    settings.liveMode = .subscribe → stream.coming = log :: rest →
      feed.caughtUp = true ∨ (∃ head, stream.height ≤ head ∧
        feed.progress.nextRange head settings.maxRangeWidth = none) →
          Advance feed stream (feed.progress.onLog log).1
            { progress := (feed.progress.onLog log).2, caughtUp := true } (stream.push log rest)

/-- The messages of successive calls, all of which succeed. -/
inductive Emits (feed : Feed) (stream : Subscription) :
    List Message → Feed → Subscription → Prop
  | start : Emits feed stream [] feed stream
  | call {messages : List Message} {message : Message} {before after : Feed}
      {prior next : Subscription} :
    Emits feed stream messages before prior →
      chain.Yields (before.next settings kinds) prior (.ok (message, after)) next →
        Emits feed stream (messages ++ [message]) after next

end

variable {chain : Chain} {settings : Settings} {kinds : List Kind} {feed after : Feed}
  {stream next : Subscription} {message : Message}

theorem catchUp_ok {result : Option (Message × Feed)}
    (h : chain.Yields (catchUp settings kinds feed) stream (.ok result) next) :
    next = stream ∧ ∃ head, stream.height ≤ head ∧ head ≤ maxHeight ∧
      ((feed.progress.nextRange head settings.maxRangeWidth = none ∧ result = none) ∨
        ∃ first last logs,
          feed.progress.nextRange head settings.maxRangeWidth = some (first, last) ∧
          logs.Perm (chain.wanted { address := settings.address, kinds, first, last }) ∧
          result = some ((feed.progress.onChunk last logs).1,
            { feed with progress := (feed.progress.onChunk last logs).2 })) := by
  obtain ⟨head, middle, hhead, hrest⟩ := h.bind_ok
  cases hhead.request_ok with
  | head hheight hmax =>
    cases hrange : feed.progress.nextRange head settings.maxRangeWidth with
    | none =>
      simp only [hrange] at hrest
      obtain ⟨rfl, rfl⟩ := hrest.done_ok
      exact ⟨rfl, head, hheight, hmax, .inl ⟨hrange, rfl⟩⟩
    | some range =>
      obtain ⟨first, last⟩ := range
      simp only [hrange] at hrest
      obtain ⟨logs, middle, hchunk, hdone⟩ := hrest.bind_ok
      cases hchunk.request_ok with
      | chunk hlogs =>
        obtain ⟨rfl, rfl⟩ := hdone.done_ok
        exact ⟨rfl, head, hheight, hmax, .inr ⟨first, last, logs, hrange, hlogs, rfl⟩⟩

theorem listen_ok (h : chain.Yields (listen feed) stream (.ok (message, after)) next) :
    ∃ log rest, stream.coming = log :: rest ∧ message = (feed.progress.onLog log).1 ∧
      after = { progress := (feed.progress.onLog log).2, caughtUp := true } ∧
      next = stream.push log rest := by
  obtain ⟨pushed, middle, hlog, hrest⟩ := h.bind_ok
  cases hlog.request_ok with
  | log hcoming =>
    obtain ⟨hresult, rfl⟩ := hrest.done_ok
    cases hresult
    exact ⟨_, _, hcoming, rfl, rfl, rfl⟩
  | ended => cases hrest

theorem advance_of_next
    (h : chain.Yields (feed.next settings kinds) stream (.ok (message, after)) next) :
    Advance chain settings kinds feed stream message after next := by
  unfold Feed.next at h
  cases hmode : settings.liveMode with
  | poll =>
    simp only [hmode] at h
    obtain ⟨result, middle, hcatch, hrest⟩ := h.bind_ok
    obtain ⟨rfl, head, hheight, hmax, ⟨hrange, rfl⟩ | ⟨first, last, logs, hrange, hlogs, rfl⟩⟩ :=
      catchUp_ok hcatch
    · obtain ⟨_, middle, hpause, hdone⟩ := hrest.bind_ok
      cases hpause.request_ok
      obtain ⟨hresult, rfl⟩ := hdone.done_ok
      cases hresult
      exact .idle hmode
    · obtain ⟨hresult, rfl⟩ := hrest.done_ok
      cases hresult
      exact .range (.inr hmode) hmax hrange hlogs
  | subscribe =>
    simp only [hmode, follow] at h
    cases hcaught : feed.caughtUp with
    | true =>
      simp only [hcaught, if_true] at h
      obtain ⟨log, rest, hcoming, rfl, rfl, rfl⟩ := listen_ok h
      exact .log hmode hcoming (.inl hcaught)
    | false =>
      simp only [hcaught, Bool.false_eq_true, if_false] at h
      obtain ⟨result, middle, hcatch, hrest⟩ := h.bind_ok
      obtain ⟨rfl, head, hheight, hmax, ⟨hrange, rfl⟩ | ⟨first, last, logs, hrange, hlogs, rfl⟩⟩ :=
        catchUp_ok hcatch
      · obtain ⟨log, rest, hcoming, rfl, rfl, rfl⟩ := listen_ok hrest
        exact .log hmode hcoming (.inr ⟨head, hheight, hrange⟩)
      · obtain ⟨hresult, rfl⟩ := hrest.done_ok
        cases hresult
        exact .range (.inl hcaught) hmax hrange hlogs

/-! ### What is known between calls -/

theorem nextRange_some {progress : Progress} {head width first last : Nat}
    (hmax : head ≤ maxHeight) (h : progress.nextRange head width = some (first, last)) :
    first = progress.next ∧ progress.next ≤ last ∧ last ≤ head := by
  obtain ⟨hfirst, hle, hlast, -⟩ := batchRange_bounds hmax h
  exact ⟨hfirst, hle, hlast⟩

theorem nextRange_none {progress : Progress} {head width : Nat} (hwidth : 0 < width)
    (h : progress.nextRange head width = none) : head < progress.next := by
  rcases batchRange_eq_none.mp h with h | h
  · omega
  · exact h

/-- A log of the stream is skipped, or handed over with a checkpoint right below its block where
that is news. -/
theorem onLog_cases (progress : Progress) (log : Log) :
    (progress.onLog log = ([.skip], progress) ∧ ∀ block ∈ log.block, block < progress.next) ∨
      ∃ block work, log.block = some block ∧ progress.next ≤ block ∧
        (∀ height, work ≠ .checkpoint height) ∧ eventsOf [work] = log.event?.toList ∧
        ((progress.checkpoint < block - 1 ∧ progress.onLog log =
            ([work, .checkpoint (block - 1)], { next := block, checkpoint := block - 1 })) ∨
          (block - 1 ≤ progress.checkpoint ∧ progress.onLog log =
            ([work], { progress with next := block }))) := by
  unfold Progress.onLog
  cases hblock : log.block with
  | none => exact .inl ⟨rfl, nofun⟩
  | some block =>
    dsimp only
    by_cases hstale : block < progress.next
    · rw [if_pos hstale]
      refine .inl ⟨rfl, fun other hmem => ?_⟩
      cases hmem
      exact hstale
    · rw [if_neg hstale]
      refine .inr ⟨block, log.event?.elim .skip .element, rfl, Nat.le_of_not_lt hstale,
        fun height h => ?_, ?_, ?_⟩
      · cases hevent : log.event? <;> simp [hevent] at h
      · cases log.event? <;> rfl
      · by_cases hnews : progress.checkpoint < block - 1
        · rw [if_pos hnews]
          refine .inl ⟨hnews, ?_⟩
          cases log.event? <;> rfl
        · rw [if_neg hnews]
          refine .inr ⟨Nat.le_of_not_lt hnews, ?_⟩
          cases log.event? <;> rfl

/-- What is known of a producer that began at a cursor and has handed over some events. -/
structure Stitched (chain : Chain) (settings : Settings) (kinds : List Kind) (cursor : Nat)
    (emitted : List Event) (feed : Feed) (stream : Subscription) : Prop where
  started : cursor ≤ feed.progress.checkpoint
  le_next : feed.progress.checkpoint ≤ feed.progress.next
  next_le : feed.progress.next ≤ feed.progress.checkpoint + 1
  /-- No event is both at the next block or above it and covered by the last checkpoint. -/
  past : ∀ block < columnBound, feed.progress.next ≤ block → feed.progress.checkpoint < block
  exactly : emitted.Perm (chain.due settings.address kinds cursor feed.progress.checkpoint ++
    stream.late feed.progress.checkpoint)
  fresh : stream.seen = [] ∨ (feed.caughtUp = true ∧ settings.liveMode = .subscribe)
  behind : feed.caughtUp = true → stream.height ≤ feed.progress.checkpoint
  follows : settings.liveMode = .subscribe → stream.Follows chain settings.address kinds

namespace Stitched

variable {cursor : Nat} {emitted : List Event}

theorem after_cursor (hcursor : cursor ≤ maxHeight) (hseen : stream.seen = [])
    (hfollows : settings.liveMode = .subscribe → stream.Follows chain settings.address kinds) :
    Stitched chain settings kinds cursor [] (Feed.after cursor) stream where
  started := Nat.le_refl _
  le_next := by
    show cursor ≤ min (cursor + 1) maxHeight
    omega
  next_le := Nat.min_le_left _ _
  past := fun block hblock h => by
    have hbound : columnBound ≤ maxHeight := by decide
    change min (cursor + 1) maxHeight ≤ block at h
    show cursor < block
    omega
  exactly := by
    show List.Perm [] (chain.due settings.address kinds cursor cursor ++ stream.late cursor)
    rw [Chain.due_self _ _ _ (Nat.le_refl cursor), Subscription.late, hseen]
    exact .refl _
  fresh := .inl hseen
  behind := fun h => nomatch h
  follows := hfollows

/-- At the next block and above it, the blocks of events are those past the last checkpoint. -/
theorem next_le_iff (inv : Stitched chain settings kinds cursor emitted feed stream) :
    ∀ block < columnBound, feed.progress.next ≤ block ↔ feed.progress.checkpoint < block := by
  intro block hblock
  have hnext := inv.next_le
  exact ⟨inv.past block hblock, fun h => by omega⟩

theorem late_of_fresh (inv : Stitched chain settings kinds cursor emitted feed stream)
    (hmode : feed.caughtUp = false ∨ settings.liveMode = .poll) : stream.seen = [] := by
  rcases inv.fresh with h | ⟨hcaught, hsubscribe⟩
  · exact h
  · rcases hmode with hmode | hmode
    · rw [hcaught] at hmode
      cases hmode
    · rw [hsubscribe] at hmode
      cases hmode

/-- A range that is handed over extends what was handed over before it. -/
theorem range (inv : Stitched chain settings kinds cursor emitted feed stream)
    (hmode : feed.caughtUp = false ∨ settings.liveMode = .poll) {last : Nat} {logs : List Log}
    (hlast : feed.progress.next ≤ last)
    (hlogs : logs.Perm (chain.wanted
      { address := settings.address, kinds, first := feed.progress.next, last })) :
    Stitched chain settings kinds cursor (emitted ++ eventsOf (feed.progress.onChunk last logs).1)
      { feed with progress := (feed.progress.onChunk last logs).2 } stream := by
  have hseen : stream.seen = [] := inv.late_of_fresh hmode
  have hle : feed.progress.checkpoint ≤ last := Nat.le_trans inv.le_next hlast
  refine ⟨Nat.le_trans inv.started hle, Nat.le_succ last, Nat.le_refl _, fun block _ h => h, ?_,
    inv.fresh, fun h => Nat.le_trans (inv.behind h) hle, inv.follows⟩
  have hnone : ∀ height, stream.late height = [] := fun height => by
    rw [Subscription.late, hseen]
    rfl
  have hexactly := inv.exactly
  rw [hnone, List.append_nil] at hexactly
  have hevents : ((decodeAll logs).1).Perm
      (chain.due settings.address kinds feed.progress.checkpoint last) := by
    rw [decodeAll_events, ← Chain.events_wanted inv.next_le_iff]
    exact hlogs.filterMap _
  have hhanded : eventsOf (feed.progress.onChunk last logs).1 = (decodeAll logs).1 := by
    simp [eventsOf, Progress.onChunk]
  rw [hhanded]
  show List.Perm _ (chain.due settings.address kinds cursor last ++ stream.late last)
  rw [hnone, List.append_nil]
  exact (hexactly.append hevents).trans (Chain.due_append inv.started hle).symm

/-- A log of a block passed before leaves everything as it was. -/
theorem skipped (inv : Stitched chain settings kinds cursor emitted feed stream)
    (hmode : settings.liveMode = .subscribe) {log : Log} {rest : List Log}
    (hcoming : stream.coming = log :: rest) (hbehind : stream.height ≤ feed.progress.checkpoint)
    (hstale : ∀ block ∈ log.block, block < feed.progress.next) :
    Stitched chain settings kinds cursor emitted
      { progress := feed.progress, caughtUp := true } (stream.push log rest) := by
  have hbelow : ¬log.above feed.progress.checkpoint = true := by
    intro h
    obtain ⟨block, hblock, habove⟩ := Log.above_iff.mp h
    have hlt := hstale block hblock
    have hnext := inv.next_le
    omega
  refine ⟨inv.started, inv.le_next, inv.next_le, inv.past, ?_, .inr ⟨rfl, hmode⟩,
    fun _ => hbehind, fun _ => (inv.follows hmode).push hcoming⟩
  show emitted ~ chain.due settings.address kinds cursor feed.progress.checkpoint ++
    (stream.push log rest).late feed.progress.checkpoint
  rw [Subscription.late_push_of_not_above hbelow]
  exact inv.exactly

/-- A log of a block past the next one completes every block below its own. -/
theorem completed (inv : Stitched chain settings kinds cursor emitted feed stream)
    (hmode : settings.liveMode = .subscribe) {log : Log} {rest : List Log}
    (hcoming : stream.coming = log :: rest) (hbehind : stream.height ≤ feed.progress.checkpoint)
    {block : Nat} (hblock : log.block = some block)
    (hnews : feed.progress.checkpoint < block - 1) :
    Stitched chain settings kinds cursor (emitted ++ log.event?.toList)
      { progress := { next := block, checkpoint := block - 1 }, caughtUp := true }
      (stream.push log rest) := by
  have hfollows := inv.follows hmode
  have hle : feed.progress.checkpoint ≤ block - 1 := Nat.le_of_lt hnews
  have hpos : block - 1 < block := by omega
  refine ⟨Nat.le_trans inv.started hle, Nat.sub_le _ _, Nat.le_add_of_sub_le (Nat.le_refl _),
    fun other _ h => Nat.lt_of_lt_of_le hpos h, ?_, .inr ⟨rfl, hmode⟩,
    fun _ => Nat.le_trans hbehind hle, fun _ => hfollows.push hcoming⟩
  have habove : log.above (block - 1) = true := Log.above_iff.mpr ⟨block, hblock, hpos⟩
  have hwithin := hfollows.events_within hcoming hblock hbehind hpos
  show emitted ++ log.event?.toList ~
    chain.due settings.address kinds cursor (block - 1) ++ (stream.push log rest).late (block - 1)
  rw [Subscription.late_push_of_above habove, ← List.append_assoc]
  refine List.Perm.append_right _ ?_
  calc emitted
    _ ~ chain.due settings.address kinds cursor feed.progress.checkpoint ++
        stream.late feed.progress.checkpoint := inv.exactly
    _ ~ chain.due settings.address kinds cursor feed.progress.checkpoint ++
        (chain.due settings.address kinds feed.progress.checkpoint (block - 1) ++
          stream.late (block - 1)) :=
      ((stream.late_split hle).trans (hwithin.append_right _)).append_left _
    _ ~ chain.due settings.address kinds cursor feed.progress.checkpoint ++
        chain.due settings.address kinds feed.progress.checkpoint (block - 1) ++
          stream.late (block - 1) := .of_eq (List.append_assoc ..).symm
    _ ~ chain.due settings.address kinds cursor (block - 1) ++ stream.late (block - 1) :=
      (Chain.due_append inv.started hle).symm.append_right _

/-- A log of the next block tells of no block that is complete. -/
theorem continued (inv : Stitched chain settings kinds cursor emitted feed stream)
    (hmode : settings.liveMode = .subscribe) {log : Log} {rest : List Log}
    (hcoming : stream.coming = log :: rest) (hbehind : stream.height ≤ feed.progress.checkpoint)
    {block : Nat} (hblock : log.block = some block) (hnext : feed.progress.next ≤ block)
    (hold : block - 1 ≤ feed.progress.checkpoint) :
    Stitched chain settings kinds cursor (emitted ++ log.event?.toList)
      { progress := { feed.progress with next := block }, caughtUp := true }
      (stream.push log rest) := by
  -- A log at the next block lies above the checkpoint, unless its block does not fit a column.
  have hlate : (stream.push log rest).late feed.progress.checkpoint =
      stream.late feed.progress.checkpoint ++ log.event?.toList := by
    by_cases habove : log.above feed.progress.checkpoint = true
    · exact Subscription.late_push_of_above habove
    · rw [Subscription.late_push_of_not_above habove]
      cases hevent : log.event? with
      | none => simp
      | some event =>
        have hheight := Log.block_of_event? hevent
        rw [hblock] at hheight
        cases hheight
        have hpast := inv.past _ (Log.height_lt_of_event? hevent) hnext
        exact absurd (Log.above_iff.mpr ⟨_, hblock, hpast⟩) habove
  refine ⟨inv.started, Nat.le_trans inv.le_next hnext, Nat.le_add_of_sub_le hold,
    fun other hother h => inv.past other hother (Nat.le_trans hnext h), ?_, .inr ⟨rfl, hmode⟩,
    fun _ => hbehind, fun _ => (inv.follows hmode).push hcoming⟩
  show emitted ++ log.event?.toList ~
    chain.due settings.address kinds cursor feed.progress.checkpoint ++
      (stream.push log rest).late feed.progress.checkpoint
  rw [hlate, ← List.append_assoc]
  exact inv.exactly.append_right _

theorem log (inv : Stitched chain settings kinds cursor emitted feed stream)
    (hmode : settings.liveMode = .subscribe) {log : Log} {rest : List Log}
    (hcoming : stream.coming = log :: rest) (hbehind : stream.height ≤ feed.progress.checkpoint) :
    Stitched chain settings kinds cursor (emitted ++ eventsOf (feed.progress.onLog log).1)
      { progress := (feed.progress.onLog log).2, caughtUp := true } (stream.push log rest) := by
  rcases onLog_cases feed.progress log with
    ⟨hlog, hstale⟩ | ⟨block, work, hblock, hnext, -, hwork, ⟨hnews, hlog⟩ | ⟨hold, hlog⟩⟩
  · rw [hlog, show eventsOf [.skip] = [] from rfl, List.append_nil]
    exact inv.skipped hmode hcoming hbehind hstale
  · rw [hlog, show eventsOf [work, .checkpoint (block - 1)] = eventsOf [work] from by
      simp [eventsOf], hwork]
    exact inv.completed hmode hcoming hbehind hblock hnews
  · rw [hlog, hwork]
    exact inv.continued hmode hcoming hbehind hblock hnext hold

theorem advance (inv : Stitched chain settings kinds cursor emitted feed stream)
    (hwidth : 0 < settings.maxRangeWidth)
    (h : Advance chain settings kinds feed stream message after next) :
    Stitched chain settings kinds cursor (emitted ++ eventsOf message) after next := by
  cases h with
  | range hmode hmax hrange hlogs =>
    obtain ⟨rfl, hlast, -⟩ := nextRange_some hmax hrange
    exact inv.range hmode hlast hlogs
  | idle =>
    rw [eventsOf_nil, List.append_nil]
    exact inv
  | log hmode hcoming hready =>
    refine inv.log hmode hcoming ?_
    rcases hready with hcaught | ⟨head, hheight, hrange⟩
    · exact inv.behind hcaught
    · have hhead := nextRange_none hwidth hrange
      have hnext := inv.next_le
      omega

theorem filter_le (inv : Stitched chain settings kinds cursor emitted feed stream) :
    (emitted.filter (·.height ≤ feed.progress.checkpoint)).Perm
      (chain.due settings.address kinds cursor feed.progress.checkpoint) := by
  refine (inv.exactly.filter _).trans ?_
  rw [List.filter_append, List.filter_eq_self.mpr fun event hmem => ?_,
    List.filter_eq_nil_iff.mpr fun event hmem => ?_, List.append_nil]
  · have hlate := Subscription.lt_height_of_mem_late hmem
    simp only [decide_eq_true_eq]
    omega
  · exact decide_eq_true (Chain.bounds_of_mem_due hmem).2.2

end Stitched

/-! ### Checkpoints -/

theorem Emits.stitched {cursor : Nat} {emitted : List Event} {messages : List Message}
    (h : Emits chain settings kinds feed stream messages after next)
    (hwidth : 0 < settings.maxRangeWidth)
    (inv : Stitched chain settings kinds cursor emitted feed stream) :
    Stitched chain settings kinds cursor (emitted ++ eventsOf messages.flatten) after next := by
  induction h with
  | start => simpa using inv
  | call _ hcall ih =>
    have hnext := ih.advance hwidth (advance_of_next hcall)
    simpa using hnext

/-- A stake of the contract at the address zero. -/
def stakeLog (block : Nat) : Log :=
  { block, index := some 0, transaction := some (BitVec.ofNat 256 block)
    topics := [Kind.stake.signature, 0], data := List.replicate 32 0, address := 0
    removed := false }

/-- An unstake of the contract, which comes after the stake of its block. -/
def unstakeLog (block : Nat) : Log :=
  { stakeLog block with index := some 1, topics := [Kind.unstake.signature, 0] }

/-- Stakes of the contract at the address zero, followed by the stream. -/
def stakeSettings : Settings :=
  { address := 0, events := [.stake], maxRangeWidth := 5, liveMode := .subscribe }

end Feed

end EventIndexer
