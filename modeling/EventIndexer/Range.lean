/-! Ranges of blocks, cut to what a node accepts in one query. -/

namespace EventIndexer

/-- The largest block number: heights are kept in 64 bits. -/
def maxHeight : Nat := 0xffffffffffffffff

/-- The inclusive range to query from a block on, at most `width` blocks and not past the head;
none once the block is past the head. -/
def batchRange (first head width : Nat) : Option (Nat × Nat) :=
  if width = 0 ∨ head < first then none
  else some (first, min (min (first + (width - 1)) maxHeight) head)

/-- There is no range only where it could not hold a block. -/
theorem batchRange_eq_none {first head width : Nat} :
    batchRange first head width = none ↔ width = 0 ∨ head < first := by
  unfold batchRange
  split <;> simp_all

/-- A range begins where it is asked to, ends no later than the head, and holds at least one block
and at most `width`. -/
theorem batchRange_bounds {first head width start last : Nat} (hhead : head ≤ maxHeight)
    (h : batchRange first head width = some (start, last)) :
    start = first ∧ first ≤ last ∧ last ≤ head ∧ last - first < width := by
  unfold batchRange at h
  split at h
  · cases h
  · cases h
    omega

end EventIndexer
