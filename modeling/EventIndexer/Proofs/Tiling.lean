import EventIndexer.Range
import Mathlib.Algebra.Order.Floor.Div

/-! Ranges of blocks that lie one right above the other.  Every height between the two ends is in
exactly one of them, however the ranges were cut; `tiles` cuts them all to one width, but for the
last. -/

namespace EventIndexer

/-- Whether ranges lie one right above the other, from above one height up to another. -/
inductive Tiles : (low : Nat) → List (Nat × Nat) → (high : Nat) → Prop
  | done {low : Nat} : Tiles low [] low
  | range {low last high : Nat} {rest : List (Nat × Nat)} :
    low < last → Tiles last rest high → Tiles low ((low + 1, last) :: rest) high

/-- Whether a height is in a range. -/
def covers (height : Nat) (range : Nat × Nat) : Bool := range.1 ≤ height && height ≤ range.2

theorem covers_iff {height : Nat} {range : Nat × Nat} :
    covers height range = true ↔ range.1 ≤ height ∧ height ≤ range.2 := by
  simp [covers]

namespace Tiles

variable {low middle high height : Nat} {ranges rest : List (Nat × Nat)}

theorem le (h : Tiles low ranges high) : low ≤ high := by
  induction h with
  | done => exact Nat.le_refl _
  | range hlt _ ih => omega

theorem append (h : Tiles low ranges middle) (h' : Tiles middle rest high) :
    Tiles low (ranges ++ rest) high := by
  induction h with
  | done => exact h'
  | range hlt _ ih => exact .range hlt (ih h')

theorem concat {last : Nat} (h : Tiles low ranges high) (hlt : high < last) :
    Tiles low (ranges ++ [(high + 1, last)]) last :=
  h.append (.range hlt .done)

/-- The heights between the two ends are in one range each, and no others are in any. -/
theorem countP_covers (h : Tiles low ranges high) (height : Nat) :
    ranges.countP (covers height) = if low < height ∧ height ≤ high then 1 else 0 := by
  induction h with
  | done =>
    rw [if_neg (by omega)]
    rfl
  | @range low last high rest hlt htiles ih =>
    have hle := htiles.le
    rw [List.countP_cons, ih]
    by_cases hin : low < height ∧ height ≤ last
    · rw [if_neg (by omega), if_pos (covers_iff.mpr hin), if_pos (by omega)]
    · have hout : ¬covers height (low + 1, last) = true := fun h => hin (covers_iff.mp h)
      rw [if_neg hout, Nat.add_zero]
      congr 1
      exact propext (by omega)

theorem head?_fst (h : Tiles low ranges high) (hlt : low < high) :
    ranges.head?.map Prod.fst = some (low + 1) := by
  cases h with
  | done => exact absurd hlt (Nat.lt_irrefl _)
  | range => rfl

theorem getLast?_snd (h : Tiles low ranges high) (hlt : low < high) :
    ranges.getLast?.map Prod.snd = some high := by
  induction h with
  | done => exact absurd hlt (Nat.lt_irrefl _)
  | @range low last high rest hlt htiles ih =>
    rcases Nat.lt_or_eq_of_le htiles.le with hmore | rfl
    · cases htiles with
      | done => exact absurd hmore (Nat.lt_irrefl _)
      | range => exact ih hmore
    · cases htiles with
      | done => rfl
      | range hmore htiles =>
        have hle := htiles.le
        omega

theorem consecutive (h : Tiles low ranges high) :
    ranges.IsChain fun below above => above.1 = below.2 + 1 := by
  induction h with
  | done => exact .nil
  | range _ htiles ih =>
    cases htiles with
    | done => exact .singleton _
    | range hlt htiles => exact .cons_cons rfl ih

end Tiles

/-! ### Ranges of one width -/

section

variable (low high width : Nat)

/-- The height at which so many ranges end, each of a width and none past the last height. -/
def rangeEnd (count : Nat) : Nat := min (low + count * width) high

def rangeAt (i : Nat) : Nat × Nat :=
  (rangeEnd low high width i + 1, rangeEnd low high width (i + 1))

/-- The ranges of a width from above one height up to another. -/
def tiles : List (Nat × Nat) := (List.range ((high - low) ⌈/⌉ width)).map (rangeAt low high width)

end

variable {low high width count : Nat}

theorem rangeEnd_zero (h : low ≤ high) : rangeEnd low high width 0 = low := by
  simp [rangeEnd, h]

/-- Another range follows as long as the last height is not reached. -/
theorem lt_count_iff (hwidth : 0 < width) :
    count < (high - low) ⌈/⌉ width ↔ low + count * width < high := by
  rw [← not_iff_not, Nat.not_lt, ceilDiv_le_iff_le_smul hwidth, smul_eq_mul, Nat.mul_comm]
  omega

theorem rangeEnd_count (hwidth : 0 < width) :
    rangeEnd low high width ((high - low) ⌈/⌉ width) = high := by
  have h : ¬low + ((high - low) ⌈/⌉ width) * width < high := by
    rw [← lt_count_iff hwidth]
    exact Nat.lt_irrefl _
  exact Nat.min_eq_right (Nat.le_of_not_lt h)

theorem rangeEnd_of_lt (h : low + count * width < high) :
    rangeEnd low high width count = low + count * width :=
  Nat.min_eq_left (Nat.le_of_lt h)

theorem rangeEnd_succ (h : low + count * width < high) :
    rangeEnd low high width (count + 1) = min (rangeEnd low high width count + width) high := by
  rw [rangeEnd_of_lt h, rangeEnd, Nat.succ_mul, Nat.add_assoc]

theorem rangeEnd_lt_succ (hwidth : 0 < width) (h : low + count * width < high) :
    rangeEnd low high width count < rangeEnd low high width (count + 1) := by
  have hend := rangeEnd_of_lt h
  rw [rangeEnd_succ h]
  omega

/-- The first ranges of a width, as many as are asked for. -/
theorem tiles_range (hwidth : 0 < width) (hle : low ≤ high)
    (hcount : count ≤ (high - low) ⌈/⌉ width) :
    Tiles low ((List.range count).map (rangeAt low high width))
      (rangeEnd low high width count) := by
  induction count with
  | zero =>
    rw [rangeEnd_zero hle]
    exact .done
  | succ count ih =>
    have hmore := (lt_count_iff hwidth).mp hcount
    rw [List.range_succ, List.map_append]
    exact (ih (Nat.le_of_lt hcount)).concat (rangeEnd_lt_succ hwidth hmore)

/-- Whether ranges fill the gap between two heights: they are as wide as allowed, but for the last,
and every height of the gap is in exactly one of them. -/
structure Tiling (low high width : Nat) (ranges : List (Nat × Nat)) : Prop where
  starts : ranges.head?.map Prod.fst = some (low + 1)
  ends : ranges.getLast?.map Prod.snd = some high
  consecutive : ranges.IsChain fun below above => above.1 = below.2 + 1
  bounded : ∀ range ∈ ranges, range.1 ≤ range.2 ∧ range.2 + 1 - range.1 ≤ width
  full : ∀ range ∈ ranges.dropLast, range.2 + 1 - range.1 = width
  length : ranges.length = (high - low) ⌈/⌉ width
  once : ∀ height, ranges.countP (covers height) = if low < height ∧ height ≤ high then 1 else 0

theorem tiling_tiles (hwidth : 0 < width) (hlt : low < high) :
    Tiling low high width (tiles low high width) := by
  have htiles : Tiles low (tiles low high width) high := by
    have h : Tiles low (tiles low high width) (rangeEnd low high width _) :=
      tiles_range hwidth (Nat.le_of_lt hlt) (Nat.le_refl _)
    rwa [rangeEnd_count hwidth] at h
  refine ⟨htiles.head?_fst hlt, htiles.getLast?_snd hlt, htiles.consecutive, fun range hmem => ?_,
    fun range hmem => ?_, by simp [tiles], htiles.countP_covers⟩
  · obtain ⟨i, hi, rfl⟩ := List.mem_map.mp hmem
    have hi := (lt_count_iff hwidth).mp (List.mem_range.mp hi)
    have hnext := rangeEnd_lt_succ hwidth hi
    have hsucc := rangeEnd_succ hi
    dsimp only [rangeAt]
    omega
  · rw [tiles, ← List.map_dropLast] at hmem
    obtain ⟨i, hi, rfl⟩ := List.mem_map.mp hmem
    -- A range that another follows ends before the last height.
    have hmore : i + 1 < (high - low) ⌈/⌉ width := by
      rw [List.dropLast_eq_take, List.length_range, List.take_range, List.mem_range] at hi
      omega
    have hmore := (lt_count_iff hwidth).mp hmore
    have hi : low + i * width < high := by
      rw [Nat.succ_mul] at hmore
      omega
    rw [rangeAt, rangeEnd_of_lt hmore, rangeEnd_of_lt hi, Nat.succ_mul]
    omega

end EventIndexer
