import EventIndexer.Proofs.Stitching

/-! How the progress of a watcher moves, whatever ranges and logs it is fed, in whatever order.  The
next block is always the one above the last checkpoint.  An input that hands over a checkpoint moves
both up; any other one leaves both where they are. -/

namespace EventIndexer.Progress

/-- What progress is fed: all logs of the next range below a head, or a log of the stream. -/
inductive Input
  | range (head width : Nat) (logs : List Log)
  | log (log : Log)

/-- Whether a range can hold a block, and ends below the last height of all. -/
def Input.Sound : Input → Prop
  | range head width _ => head < maxHeight ∧ 0 < width
  | log _ => True

/-- The head that an input tells of. -/
def Input.head? : Input → Option Nat
  | range head _ _ => some head
  | log _ => none

theorem Input.Sound.head_le {input : Input} (h : input.Sound) :
    ∀ head ∈ input.head?, head ≤ maxHeight := by
  cases input with
  | range head width logs =>
    rintro _ ⟨⟩
    exact Nat.le_of_lt h.1
  | log log => nofun

/-- What an input hands over, and the progress after it.  Where there is no next range, nothing is
fetched. -/
def feed (progress : Progress) : Input → Message × Progress
  | .range head width logs =>
    match progress.nextRange head width with
    | none => ([], progress)
    | some (_, last) => progress.onChunk last logs
  | .log log => progress.onLog log

/-- What inputs hand over one after another, and the progress after them. -/
def feedAll (progress : Progress) : List Input → Message × Progress
  | [] => ([], progress)
  | input :: rest =>
    let (message, middle) := progress.feed input
    let (more, last) := middle.feedAll rest
    (message ++ more, last)

/-- The heights that works declare complete. -/
def declared (works : List Work) : List Nat :=
  works.filterMap fun
    | .checkpoint height => some height
    | _ => none

/-- Whether a work that comes after another is not covered by it: an element lies above a
checkpoint. -/
def Uncovered (earlier later : Work) : Prop :=
  ∀ height event, earlier = .checkpoint height → later = .element event → height < event.height

/-! ### One input -/

/-- Works that declare nothing complete, with each element above the last checkpoint. -/
def Plain (progress : Progress) (works : List Work) : Prop :=
  ∀ work ∈ works, (∀ height, work ≠ .checkpoint height) ∧
    ∀ event, work = .element event → progress.checkpoint < event.height

/-- What one input can do: it leaves progress as it is, or ends with a checkpoint and goes there. -/
inductive Moves (progress : Progress) : Message → Progress → Prop
  | stays {works : Message} : progress.Plain works → Moves progress works progress
  | completes {works : Message} {height : Nat} :
    progress.Plain works → progress.checkpoint < height →
    Moves progress (works ++ [.checkpoint height]) { next := height + 1, checkpoint := height }

section

variable {progress later : Progress} {cursor head width first last height : Nat}
  {works emitted message : List Work} {log : Log} {inputs : List Input} {input : Input}

theorem feedAll_cons (progress : Progress) (input : Input) (rest : List Input) :
    progress.feedAll (input :: rest) =
      ((progress.feed input).1 ++ ((progress.feed input).2.feedAll rest).1,
        ((progress.feed input).2.feedAll rest).2) := rfl

theorem declared_append (works more : List Work) :
    declared (works ++ more) = declared works ++ declared more := List.filterMap_append

theorem mem_declared : height ∈ declared works ↔ .checkpoint height ∈ works := by
  rw [declared, List.mem_filterMap]
  constructor
  · rintro ⟨work, hmem, hwork⟩
    cases work with
    | checkpoint found =>
      cases hwork
      exact hmem
    | _ => cases hwork
  · exact fun hmem => ⟨_, hmem, rfl⟩

theorem declared_eq_nil (h : ∀ work ∈ works, ∀ height, work ≠ .checkpoint height) :
    declared works = [] :=
  List.eq_nil_iff_forall_not_mem.mpr fun height hmem => h _ (mem_declared.mp hmem) height rfl

theorem Plain.declared_eq_nil (h : progress.Plain works) : declared works = [] :=
  Progress.declared_eq_nil fun work hmem => (h work hmem).1

theorem Plain.pairwise (h : progress.Plain works) : works.Pairwise Uncovered :=
  List.pairwise_iff_forall_sublist.mpr fun hsub height _ hearlier _ =>
    absurd hearlier ((h _ (hsub.subset List.mem_cons_self)).1 height)

theorem Moves.le (h : progress.Moves message later) : progress.checkpoint ≤ later.checkpoint := by
  cases h with
  | stays => exact Nat.le_refl _
  | completes _ hheight => exact Nat.le_of_lt hheight

/-- A range that holds a block completes it. -/
theorem moves_range (hnext : progress.next = progress.checkpoint + 1) (hhead : head ≤ maxHeight)
    (hrange : progress.nextRange head width = some (first, last)) (logs : List Log) :
    Moves progress (progress.onChunk last logs).1 (progress.onChunk last logs).2 := by
  obtain ⟨-, hle, -⟩ := Feed.nextRange_some hhead hrange
  have hplain : progress.Plain [.many (decodeAll logs).1] := by
    intro work hmem
    obtain rfl := List.mem_singleton.mp hmem
    exact ⟨nofun, nofun⟩
  exact .completes hplain (by omega)

/-- A log completes the blocks below it where these are not complete. -/
theorem moves_log (hnext : progress.next = progress.checkpoint + 1) (log : Log) :
    Moves progress (progress.onLog log).1 (progress.onLog log).2 := by
  rcases Feed.onLog_cases progress log with
    ⟨hlog, -⟩ | ⟨block, work, hblock, hle, hwork, hevents, hlog⟩
  · rw [hlog]
    refine .stays fun work hmem => ?_
    obtain rfl := List.mem_singleton.mp hmem
    exact ⟨nofun, nofun⟩
  · have hplain : progress.Plain [work] := by
      intro other hmem
      obtain rfl := List.mem_singleton.mp hmem
      refine ⟨hwork, ?_⟩
      rintro event rfl
      have hevent : log.event? = some event := Option.toList_eq_singleton_iff.mp hevents.symm
      have hheight := Log.block_of_event? hevent
      rw [hblock] at hheight
      cases hheight
      omega
    rcases hlog with ⟨hnews, hlog⟩ | ⟨hold, hlog⟩
    · have hsucc : block - 1 + 1 = block := by omega
      have hmoves := Moves.completes hplain hnews
      rw [hsucc] at hmoves
      rw [hlog]
      exact hmoves
    · have hsame : ({ progress with next := block } : Progress) = progress := by
        have hblock : block = progress.next := by omega
        rw [hblock]
      rw [hlog, hsame]
      exact .stays hplain

theorem moves_feed (hnext : progress.next = progress.checkpoint + 1)
    (hhead : ∀ head ∈ input.head?, head ≤ maxHeight) :
    Moves progress (progress.feed input).1 (progress.feed input).2 := by
  cases input with
  | range head width logs =>
    cases hrange : progress.nextRange head width with
    | none =>
      simp only [feed, hrange]
      exact .stays nofun
    | some range =>
      simp only [feed, hrange]
      exact moves_range hnext (hhead head rfl) hrange logs
  | log log => exact moves_log hnext log

/-! ### Many inputs -/

/-- How progress stands that began at a cursor, and what it has handed over since. -/
structure Ordered (cursor : Nat) (emitted : List Work) (progress : Progress) : Prop where
  next_eq : progress.next = progress.checkpoint + 1
  increasing : (cursor :: declared emitted).Pairwise (· < ·)
  last : (cursor :: declared emitted).getLast? = some progress.checkpoint
  uncovered : emitted.Pairwise Uncovered

namespace Ordered

theorem start (hcursor : cursor < maxHeight) : Ordered cursor [] (after cursor) where
  next_eq := Nat.min_eq_left hcursor
  increasing := List.pairwise_singleton _ _
  last := rfl
  uncovered := .nil

theorem le_checkpoint (h : Ordered cursor emitted progress)
    (hmem : height ∈ cursor :: declared emitted) : height ≤ progress.checkpoint := by
  obtain ⟨earlier, heq⟩ := List.getLast?_eq_some_iff.mp h.last
  have hincreasing := h.increasing
  rw [heq] at hmem hincreasing
  rcases List.mem_append.mp hmem with hmem | hmem
  · exact Nat.le_of_lt ((List.pairwise_append.mp hincreasing).2.2 _ hmem _ List.mem_cons_self)
  · exact Nat.le_of_eq (List.mem_singleton.mp hmem)

/-- Works without a checkpoint cover nothing, and none of them is covered. -/
theorem plain (h : Ordered cursor emitted progress) (hplain : progress.Plain works) :
    Ordered cursor (emitted ++ works) progress := by
  have hsame : declared (emitted ++ works) = declared emitted := by
    rw [declared_append, hplain.declared_eq_nil, List.append_nil]
  refine ⟨h.next_eq, hsame ▸ h.increasing, hsame ▸ h.last,
    List.pairwise_append.mpr ⟨h.uncovered, hplain.pairwise, ?_⟩⟩
  rintro _ hearlier work hwork height event rfl helement
  have hheight := h.le_checkpoint (List.mem_cons_of_mem _ (mem_declared.mpr hearlier))
  exact Nat.lt_of_le_of_lt hheight ((hplain work hwork).2 event helement)

theorem checkpoint (h : Ordered cursor emitted progress) (hheight : progress.checkpoint < height) :
    Ordered cursor (emitted ++ [.checkpoint height])
      { next := height + 1, checkpoint := height } := by
  have hmore : cursor :: declared (emitted ++ [.checkpoint height]) =
      (cursor :: declared emitted) ++ [height] := by
    rw [declared_append]
    rfl
  refine ⟨rfl, ?_, ?_, List.pairwise_append.mpr ⟨h.uncovered, List.pairwise_singleton _ _, ?_⟩⟩
  · rw [hmore, List.pairwise_append]
    refine ⟨h.increasing, List.pairwise_singleton _ _, fun earlier hearlier later hlater => ?_⟩
    obtain rfl := List.mem_singleton.mp hlater
    exact Nat.lt_of_le_of_lt (h.le_checkpoint hearlier) hheight
  · rw [hmore, List.getLast?_concat]
  · rintro _ - work hwork _ event - rfl
    cases List.mem_singleton.mp hwork

theorem moves (h : Ordered cursor emitted progress) (hmoves : progress.Moves message later) :
    Ordered cursor (emitted ++ message) later := by
  cases hmoves with
  | stays hplain => exact h.plain hplain
  | completes hplain hheight =>
    rw [← List.append_assoc]
    exact (h.plain hplain).checkpoint hheight

/-- Whatever is fed, progress stays in order and never goes back. -/
theorem feedAll (h : Ordered cursor emitted progress) (hsound : ∀ input ∈ inputs, input.Sound) :
    Ordered cursor (emitted ++ (progress.feedAll inputs).1) (progress.feedAll inputs).2 ∧
      progress.checkpoint ≤ (progress.feedAll inputs).2.checkpoint := by
  induction inputs generalizing emitted progress with
  | nil =>
    refine ⟨?_, Nat.le_refl _⟩
    rw [Progress.feedAll, List.append_nil]
    exact h
  | cons input rest ih =>
    obtain ⟨hinput, hrest⟩ := List.forall_mem_cons.mp hsound
    have hmoves := moves_feed h.next_eq hinput.head_le
    obtain ⟨hordered, hle⟩ := ih (h.moves hmoves) hrest
    rw [feedAll_cons, ← List.append_assoc]
    exact ⟨hordered, Nat.le_trans hmoves.le hle⟩

end Ordered

/-- Progress only advances.  Whatever inputs came since the cursor, and in whatever order, the next
block is the one above the last checkpoint, and neither ever goes back.  The checkpoints handed over
rise from above the cursor to the last one, no element is handed over that a checkpoint before it
covers, and a range lies above all of them.  A log that is pending or below the next block changes
nothing and is skipped; any other one has a block below its own. -/
theorem only_advances (hcursor : cursor < maxHeight) {earlier later : List Input}
    (hsound : ∀ input ∈ earlier ++ later, input.Sound) :
    let emitted := ((after cursor).feedAll earlier).1
    let middle := ((after cursor).feedAll earlier).2
    let final := (middle.feedAll later).2
    middle.next = middle.checkpoint + 1 ∧
    middle.next ≤ final.next ∧ middle.checkpoint ≤ final.checkpoint ∧
    (cursor :: declared emitted).Pairwise (· < ·) ∧
    (cursor :: declared emitted).getLast? = some middle.checkpoint ∧
    emitted.Pairwise Uncovered ∧
    (∀ head width first last, head < maxHeight →
      middle.nextRange head width = some (first, last) →
        ∀ height ∈ cursor :: declared emitted, height < first) ∧
    ∀ log, ((∀ block ∈ log.block, block < middle.next) → middle.onLog log = ([.skip], middle)) ∧
      ∀ block ∈ log.block, middle.next ≤ block → 0 < block := by
  intro emitted middle final
  obtain ⟨hearlier, hlater⟩ := List.forall_mem_append.mp hsound
  have hmiddle : Ordered cursor emitted middle := ((Ordered.start hcursor).feedAll hearlier).1
  have hnext : middle.next = middle.checkpoint + 1 := hmiddle.next_eq
  obtain ⟨hfinal, hle⟩ := hmiddle.feedAll hlater
  refine ⟨hnext, ?_, hle, hmiddle.increasing, hmiddle.last, hmiddle.uncovered,
    fun head width first last hhead hrange height hmem => ?_,
    fun log => ⟨fun hstale => ?_, fun block _ hblock => ?_⟩⟩
  · rw [hnext, hfinal.next_eq]
    exact Nat.succ_le_succ hle
  · obtain ⟨rfl, -⟩ := Feed.nextRange_some (Nat.le_of_lt hhead) hrange
    have hheight := hmiddle.le_checkpoint hmem
    omega
  · rcases Feed.onLog_cases middle log with ⟨hlog, -⟩ | ⟨block, work, hblock, hle, -⟩
    · exact hlog
    · exact absurd hle (Nat.not_le.mpr (hstale block hblock))
  · omega

end

/-- Logs of a stream and a range between them; the fourth input is stale, and the last log does not
decode. -/
def mixedInputs : List Input :=
  [.log (Feed.stakeLog 3), .log (Feed.stakeLog 5), .range 8 2 [Feed.stakeLog 6],
    .log (Feed.stakeLog 4), .log { Feed.stakeLog 9 with topics := [] }]

theorem only_advances_mixed : 2 < maxHeight ∧
    (∀ input ∈ mixedInputs ++ [.log (Feed.stakeLog 12)], input.Sound) ∧
      declared ((after 2).feedAll mixedInputs).1 = [4, 6, 8] ∧
      (2 :: declared ((after 2).feedAll mixedInputs).1).Pairwise (· < ·) ∧
      ((after 2).feedAll mixedInputs).2.checkpoint = 8 := by
  have hsound : ∀ input ∈ mixedInputs ++ [.log (Feed.stakeLog 12)], input.Sound := by
    simp [mixedInputs, Input.Sound, maxHeight]
  have hdeclared : declared ((after 2).feedAll mixedInputs).1 = [4, 6, 8] := rfl
  obtain ⟨-, -, -, hincreasing, hlast, -⟩ := only_advances (show 2 < maxHeight by decide) hsound
  rw [hdeclared] at hlast
  exact ⟨by decide, hsound, hdeclared, hincreasing, (Option.some.inj hlast).symm⟩

end EventIndexer.Progress
