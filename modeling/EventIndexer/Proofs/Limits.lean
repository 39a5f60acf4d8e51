import EventIndexer.Backfill
import EventIndexer.Proofs.Advancing

/-! Heights near the last one that 64 bits hold.  Each computation on heights is written a second
time with additions and subtractions that have no result where it would not be held; the two agree
wherever all results are.  A watcher stays in range until a range of it ends at the last height of
all, and a backfill always does, as it never asks for the height above the head. -/

namespace EventIndexer

/-- The height above another one, where it is held. -/
def heightAbove? (height : Nat) : Option Nat :=
  if height < maxHeight then some (height + 1) else none

/-- The height below another one, where there is one. -/
def heightBelow? (height : Nat) : Option Nat :=
  if 0 < height then some (height - 1) else none

theorem heightAbove?_of_lt {height : Nat} (h : height < maxHeight) :
    heightAbove? height = some (height + 1) :=
  if_pos h

theorem heightBelow?_of_pos {height : Nat} (h : 0 < height) :
    heightBelow? height = some (height - 1) :=
  if_pos h

/-- `batchRange` in 64 bits; its only addition is cut to them. -/
def batchRange? (first head width : Nat) : Option (Option (Nat × Nat)) :=
  if width = 0 ∨ head < first then some none
  else (heightBelow? width).map fun more => some (first, min (min (first + more) maxHeight) head)

theorem batchRange?_eq (first head width : Nat) :
    batchRange? first head width = some (batchRange first head width) := by
  unfold batchRange? batchRange
  split
  · rfl
  · next h => rw [heightBelow?_of_pos (by omega), Option.map_some]

namespace Progress

/-- `onChunk` in 64 bits. -/
def onChunk? (_ : Progress) (last : Nat) (logs : List Log) : Option (Message × Progress) :=
  (heightAbove? last).map fun next =>
    ([.many (decodeAll logs).1, .checkpoint last], { next, checkpoint := last })

/-- `onLog` in 64 bits. -/
def onLog? (progress : Progress) (log : Log) : Option (Message × Progress) :=
  match log.block with
  | none => some ([.skip], progress)
  | some block =>
    if block < progress.next then some ([.skip], progress)
    else
      let work := match log.event? with
        | some event => .element event
        | none => .skip
      (heightBelow? block).map fun complete =>
        if progress.checkpoint < complete then
          ([work, .checkpoint complete], { next := block, checkpoint := complete })
        else ([work], { progress with next := block })

/-- `feed` in 64 bits. -/
def feed? (progress : Progress) : Input → Option (Message × Progress)
  | .range head width logs => do
    match ← batchRange? progress.next head width with
    | none => some ([], progress)
    | some (_, last) => progress.onChunk? last logs
  | .log log => progress.onLog? log

/-- `feedAll` in 64 bits. -/
def feedAll? (progress : Progress) : List Input → Option (Message × Progress)
  | [] => some ([], progress)
  | input :: rest =>
    (progress.feed? input).bind fun (message, middle) =>
      (middle.feedAll? rest).map fun (more, last) => (message ++ more, last)

/-- Whether all heights that an input tells of are held. -/
def Input.Fits : Input → Prop
  | .range head _ _ => head ≤ maxHeight
  | .log pushed => ∀ block ∈ pushed.block, block ≤ maxHeight

section

variable {progress later : Progress} {cursor head width first last height : Nat}
  {emitted message : List Work} {log : Log} {input : Input} {inputs : List Input}

theorem onLog?_eq (h : 0 < progress.next) (log : Log) :
    progress.onLog? log = some (progress.onLog log) := by
  unfold onLog? onLog
  cases log.block with
  | none => rfl
  | some block =>
    dsimp only
    by_cases hstale : block < progress.next
    · rw [if_pos hstale, if_pos hstale]
    · have hcomplete := heightBelow?_of_pos (show 0 < block by omega)
      exact ((if_neg hstale).trans (congrArg (Option.map _) hcomplete)).trans
        (congrArg some (if_neg hstale)).symm

/-- A move declares no height but the one it goes to. -/
theorem Moves.eq_checkpoint (h : progress.Moves message later) (hmem : height ∈ declared message) :
    height = later.checkpoint := by
  cases h with
  | stays hplain =>
    rw [hplain.declared_eq_nil] at hmem
    cases hmem
  | completes hplain _ =>
    rw [declared_append, hplain.declared_eq_nil] at hmem
    exact List.mem_singleton.mp hmem

/-! ### One input -/

/-- How progress stands that began at a cursor while every height was held: in order and with a next
block, or at the last height of all, where it began. -/
def Held (cursor : Nat) (emitted : List Work) (progress : Progress) : Prop :=
  (cursor < maxHeight ∧ progress.next ≤ maxHeight ∧ Ordered cursor emitted progress) ∨
    (cursor = maxHeight ∧ progress = after maxHeight ∧ declared emitted = [])

namespace Held

theorem start (hcursor : cursor ≤ maxHeight) : Held cursor [] (after cursor) := by
  rcases Nat.lt_or_eq_of_le hcursor with hlt | rfl
  · exact .inl ⟨hlt, Nat.min_le_right _ _, .start hlt⟩
  · exact .inr ⟨rfl, rfl, rfl⟩

theorem next_pos (h : Held cursor emitted progress) : 0 < progress.next := by
  rcases h with ⟨-, -, hordered⟩ | ⟨-, rfl, -⟩
  · have hnext := hordered.next_eq
    omega
  · decide

/-- A move to a progress that has a next block declares only heights below the last of all. -/
theorem moves (hcursor : cursor < maxHeight) (hordered : Ordered cursor emitted progress)
    (hmoves : progress.Moves message later) (hfits : later.next ≤ maxHeight) :
    maxHeight ∉ declared message ∧ Held cursor (emitted ++ message) later := by
  have hlater := hordered.moves hmoves
  have hnext := hlater.next_eq
  refine ⟨fun hmem => ?_, .inl ⟨hcursor, hfits, hlater⟩⟩
  have hlast := hmoves.eq_checkpoint hmem
  omega

theorem onLog (h : Held cursor emitted progress) (hlog : ∀ block ∈ log.block, block ≤ maxHeight) :
    maxHeight ∉ declared (progress.onLog log).1 ∧
      Held cursor (emitted ++ (progress.onLog log).1) (progress.onLog log).2 := by
  rcases h with ⟨hcursor, hnext, hordered⟩ | ⟨hcursor, rfl, hnone⟩
  · refine moves hcursor hordered (moves_log hordered.next_eq log) ?_
    rcases Feed.onLog_cases progress log with
      ⟨heq, -⟩ | ⟨block, work, hblock, -, -, -, ⟨-, heq⟩ | ⟨-, heq⟩⟩
    · exact heq ▸ hnext
    · exact heq ▸ hlog block hblock
    · exact heq ▸ hlog block hblock
  · -- Only the last block of all is not passed yet, and the blocks below it are known.
    have hstays : ∃ works, (after maxHeight).onLog log = (works, after maxHeight) ∧
        declared works = [] := by
      rcases Feed.onLog_cases (after maxHeight) log with
        ⟨heq, -⟩ | ⟨block, work, hblock, hle, hwork, -, ⟨hnews, -⟩ | ⟨-, heq⟩⟩
      · exact ⟨_, heq, rfl⟩
      · have hlast := hlog block hblock
        exact absurd hnews (by simp only [after]; omega)
      · obtain rfl : block = maxHeight := Nat.le_antisymm (hlog block hblock) hle
        refine ⟨_, heq, declared_eq_nil fun other hmem => ?_⟩
        rw [List.mem_singleton.mp hmem]
        exact hwork
    obtain ⟨works, heq, hplain⟩ := hstays
    have hstill : declared (emitted ++ works) = [] := by
      rw [declared_append, hnone, hplain]
      rfl
    rw [heq]
    exact ⟨hplain ▸ List.not_mem_nil, .inr ⟨hcursor, rfl, hstill⟩⟩

/-- An input has its result in 64 bits unless it declares the last height of all, which only a head
at that height makes it do. -/
theorem feed (h : Held cursor emitted progress) (hfits : input.Fits) :
    (progress.feed? input = some (progress.feed input) ∧
      maxHeight ∉ declared (progress.feed input).1 ∧
      Held cursor (emitted ++ (progress.feed input).1) (progress.feed input).2) ∨
    (progress.feed? input = none ∧ maxHeight ∈ declared (progress.feed input).1 ∧
      input.head? = some maxHeight) := by
  cases input with
  | log log => exact .inl ⟨onLog?_eq h.next_pos log, h.onLog hfits⟩
  | range head width logs =>
    have hhead : head ≤ maxHeight := hfits
    have hchecked : progress.feed? (.range head width logs) =
        match progress.nextRange head width with
        | none => some ([], progress)
        | some (_, last) => progress.onChunk? last logs := by
      rw [feed?, batchRange?_eq]
      rfl
    cases hrange : progress.nextRange head width with
    | none =>
      rw [hrange] at hchecked
      simp only [Progress.feed, hrange, List.append_nil]
      exact .inl ⟨hchecked, List.not_mem_nil, h⟩
    | some range =>
      obtain ⟨first, last⟩ := range
      rw [hrange] at hchecked
      obtain ⟨-, hnext, hlast⟩ := Feed.nextRange_some hhead hrange
      simp only [Progress.feed, hrange]
      rcases Nat.lt_or_ge last maxHeight with hlt | hge
      · have hdone : progress.onChunk? last logs = some (progress.onChunk last logs) := by
          rw [onChunk?, heightAbove?_of_lt hlt]
          rfl
        rcases h with ⟨hcursor, -, hordered⟩ | ⟨-, rfl, -⟩
        · have hmoves := moves_range hordered.next_eq hhead hrange logs
          exact .inl ⟨hchecked.trans hdone, moves hcursor hordered hmoves hlt⟩
        · exact absurd hnext (Nat.not_le.mpr hlt)
      · have hdone : progress.onChunk? last logs = none := by
          rw [onChunk?, heightAbove?, if_neg (Nat.not_lt.mpr hge)]
          rfl
        obtain rfl : last = maxHeight := by omega
        obtain rfl : head = maxHeight := by omega
        exact .inr ⟨hchecked.trans hdone, List.mem_singleton_self _, rfl⟩

/-! ### Many inputs -/

/-- Inputs have their results in 64 bits unless one of them declares the last height of all. -/
theorem feedAll (h : Held cursor emitted progress) (hfits : ∀ input ∈ inputs, input.Fits) :
    (progress.feedAll? inputs = some (progress.feedAll inputs) ∧
      maxHeight ∉ declared (progress.feedAll inputs).1 ∧
      Held cursor (emitted ++ (progress.feedAll inputs).1) (progress.feedAll inputs).2) ∨
    (progress.feedAll? inputs = none ∧ maxHeight ∈ declared (progress.feedAll inputs).1 ∧
      ∃ input ∈ inputs, input.head? = some maxHeight) := by
  induction inputs generalizing emitted progress with
  | nil =>
    rw [Progress.feedAll, List.append_nil]
    exact .inl ⟨rfl, List.not_mem_nil, h⟩
  | cons input rest ih =>
    obtain ⟨hinput, hrest⟩ := List.forall_mem_cons.mp hfits
    rw [feedAll_cons, declared_append, List.mem_append]
    rcases h.feed hinput with ⟨hchecked, hbelow, hheld⟩ | ⟨hchecked, hlast, hhead⟩
    · have hunfold : progress.feedAll? (input :: rest) =
          ((progress.feed input).2.feedAll? rest).map fun (more, last) =>
            ((progress.feed input).1 ++ more, last) := by
        rw [feedAll?, hchecked]
        rfl
      rw [hunfold, ← List.append_assoc]
      rcases ih hheld hrest with
        ⟨hmore, hmore_below, hmore_held⟩ | ⟨hmore, hlast, later, hmem, hhead⟩
      · rw [hmore]
        exact .inl ⟨rfl, not_or.mpr ⟨hbelow, hmore_below⟩, hmore_held⟩
      · rw [hmore]
        exact .inr ⟨rfl, .inr hlast, later, List.mem_cons_of_mem _ hmem, hhead⟩
    · have hunfold : progress.feedAll? (input :: rest) = none := by
        rw [feedAll?, hchecked]
        rfl
      exact .inr ⟨hunfold, .inl hlast, input, List.mem_cons_self, hhead⟩

/-- The next range lies above all that is complete, unless progress began at the last height of
all. -/
theorem lt_first (h : Held cursor emitted progress) (hhead : head ≤ maxHeight)
    (hrange : progress.nextRange head width = some (first, last)) :
    (progress.checkpoint < first ∧ ∀ height ∈ cursor :: declared emitted, height < first) ↔
      cursor < maxHeight := by
  obtain ⟨rfl, -⟩ := Feed.nextRange_some hhead hrange
  rcases h with ⟨hcursor, -, hordered⟩ | ⟨rfl, rfl, -⟩
  · have habove : progress.checkpoint < progress.next := by
      rw [hordered.next_eq]
      exact Nat.lt_succ_self _
    refine iff_of_true ⟨habove, fun height hmem => ?_⟩ hcursor
    exact Nat.lt_of_le_of_lt (hordered.le_checkpoint hmem) habove
  · exact iff_of_false (fun habove => Nat.lt_irrefl _ habove.1) (Nat.lt_irrefl _)

end Held

end

end Progress

namespace Backfill

/-- `sweep` in 64 bits, with no result either where a range does not lie above the cursor. -/
def sweep? (settings : Settings) (head : Nat) :
    (limit next : Nat) → Report → Routine (Option Report)
  | 0, _, report => return some report
  | limit + 1, next, report =>
    match batchRange? next head settings.maxRangeWidth with
    | none => return none
    | some none => return some report
    | some (some (first, last)) =>
      if report.cursor < first then do
        let (persisted, skipped) ← batch settings first last
        let report :=
          { report with
            batches := report.batches + 1
            persisted := report.persisted + persisted
            skipped := report.skipped + skipped
            cursor := last }
        if last = head then return some report
        else match heightAbove? last with
          | none => return none
          | some next => sweep? settings head limit next report
      else return none

/-- The ranges from right above a cursor, in 64 bits. -/
def sweepAbove? (settings : Settings) (head limit cursor : Nat) (report : Report) :
    Routine (Option Report) :=
  match heightAbove? cursor with
  | none => return none
  | some next => sweep? settings head limit next report

/-- A backfill is held in 64 bits from every cursor below its head, and each of its ranges lies
above the cursor. -/
theorem sweepAbove?_eq (settings : Settings) {head cursor : Nat} {report : Report}
    (hhead : head ≤ maxHeight) (hcursor : cursor < head) (hreport : report.cursor = cursor)
    (limit : Nat) :
    sweepAbove? settings head limit cursor report =
      some <$> sweep settings head limit (cursor + 1) report := by
  -- A range that ends below the head ends where there is a height above.
  induction limit generalizing cursor report with
  | zero =>
    rw [sweepAbove?, heightAbove?_of_lt (by omega)]
    rfl
  | succ limit ih =>
    rw [sweepAbove?, heightAbove?_of_lt (by omega)]
    dsimp only
    rw [sweep?, sweep, batchRange?_eq]
    cases hrange : batchRange (cursor + 1) head settings.maxRangeWidth with
    | none => rfl
    | some range =>
      obtain ⟨first, last⟩ := range
      obtain ⟨rfl, hle, hlast, -⟩ := batchRange_bounds hhead hrange
      dsimp only
      rw [if_pos (by omega), map_bind]
      refine bind_congr fun counts => ?_
      by_cases hend : last = head
      · rw [if_pos hend, if_pos hend]
        rfl
      · rw [if_neg hend, if_neg hend]
        exact ih (by omega) rfl

end Backfill

open Progress in
/-- Heights stay in range up to the last of all.  Whatever a watcher is fed from its cursor on, all
its additions and subtractions are held in 64 bits unless a range ended at the last height of all,
which only a head there makes happen.  As long as they are, every next range lies above the last
checkpoint, the cursor and all that was declared complete since, but for a watcher that began at the
last height of all, which is asked for again.  A backfill is always held, and each of its ranges
lies above the cursor. -/
theorem heights_held {cursor : Nat} {inputs : List Input} (hcursor : cursor ≤ maxHeight)
    (hfits : ∀ input ∈ inputs, input.Fits) :
    let emitted := ((after cursor).feedAll inputs).1
    let progress := ((after cursor).feedAll inputs).2
    (after cursor).feedAll? inputs =
      (if maxHeight ∈ declared emitted then none else some (emitted, progress)) ∧
    (maxHeight ∈ declared emitted → ∃ input ∈ inputs, input.head? = some maxHeight) ∧
    (maxHeight ∉ declared emitted → ∀ head width first last, head ≤ maxHeight →
      progress.nextRange head width = some (first, last) →
        ((progress.checkpoint < first ∧ ∀ height ∈ cursor :: declared emitted, height < first) ↔
          cursor < maxHeight)) ∧
    ∀ settings head limit (report : Backfill.Report), head ≤ maxHeight → report.cursor < head →
      Backfill.sweepAbove? settings head limit report.cursor report =
        some <$> Backfill.sweep settings head limit (report.cursor + 1) report := by
  intro emitted progress
  have hbackfill := fun settings head limit (report : Backfill.Report) (hhead : head ≤ maxHeight)
    (hlt : report.cursor < head) => Backfill.sweepAbove?_eq settings hhead hlt rfl limit
  rcases (Held.start hcursor).feedAll hfits with
    ⟨hchecked, hbelow, hheld⟩ | ⟨hchecked, hlast, hhead⟩
  · rw [if_neg hbelow]
    exact ⟨hchecked, fun hlast => absurd hlast hbelow,
      fun _ _ _ _ _ hle hrange => hheld.lt_first hle hrange, hbackfill⟩
  · rw [if_pos hlast]
    exact ⟨hchecked, fun _ => hhead, fun hbelow => absurd hlast hbelow, hbackfill⟩

open Progress in
/-- The second range ends at the last height of all, and its successor is not held. -/
theorem heights_held_two_ranges : 5 ≤ maxHeight ∧
    (∀ input ∈ [Input.range 8 2 [], .range maxHeight maxHeight []], input.Fits) ∧
    declared ((after 5).feedAll [.range 8 2 [], .range maxHeight maxHeight []]).1 =
      [7, maxHeight] ∧
    (after 5).feedAll? [.range 8 2 [], .range maxHeight maxHeight []] = none := by
  have hfits : ∀ input ∈ [Input.range 8 2 [], .range maxHeight maxHeight []], input.Fits := by
    simp [Input.Fits, maxHeight]
  have hdeclared : declared ((after 5).feedAll [.range 8 2 [], .range maxHeight maxHeight []]).1 =
      [7, maxHeight] := by
    decide
  have hheld := (heights_held (show 5 ≤ maxHeight by decide) hfits).1
  rw [hdeclared, if_pos (by simp)] at hheld
  exact ⟨by decide, hfits, hdeclared, hheld⟩

open Progress in
/-- A watcher at the last height of all asks for it again, although it is stored, and a range that
ends there needs a successor that is not held. -/
theorem not_above_last_height :
    (after maxHeight).checkpoint = maxHeight ∧
    (after maxHeight).nextRange maxHeight 1 = some (maxHeight, maxHeight) ∧
    (after 5).nextRange maxHeight maxHeight = some (6, maxHeight) ∧
    (after 5).onChunk? maxHeight [] = none := by
  decide

end EventIndexer
