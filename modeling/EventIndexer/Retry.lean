import EventIndexer.Failure

/-! Calling until a call succeeds, up to a deadline.  Times are in milliseconds from the first
call.  A call still pending at the deadline is abandoned there and counts as a failure; the run
gives up at the first failure seen after the deadline, so a failure right at the deadline is
followed by one more call. -/

namespace EventIndexer

/-- One call: how long it takes, and how it ends, if it ends. -/
structure Attempt (α : Type) where
  after : Nat
  ending : Option (Except Failure α)

namespace Retry

/-- How a run of calls ended. -/
structure Outcome (α : Type) where
  result : Except Failure α
  calls : Nat
  /-- The calls that began to work: one made after the cancellation does not. -/
  begun : Nat
  elapsed : Nat

/-- The failure of a call that the deadline cuts off. -/
def stillPending : Failure := Cause.other "attempt still pending at the deadline"

/-- When a call made at `now` ends, and how.  A call that takes no time ends by itself even when the
deadline has passed. -/
def settle (deadline now : Nat) (attempt : Attempt α) : Nat × Except Failure α :=
  match attempt.ending with
  | some ending =>
    if attempt.after = 0 ∨ now + attempt.after ≤ deadline then (now + attempt.after, ending)
    else (max now deadline, .error stillPending)
  | none => (max now deadline, .error stillPending)

/-- Whether a cancellation at `cancelAt` is seen by a wait that ends at `time`. -/
def cancelledBy (cancelAt : Option Nat) (time : Nat) : Bool :=
  cancelAt.any (· ≤ time)

/-- The run from its call number `made` on, at most `limit` calls; none if it goes on after that. -/
def loop (deadline interval : Nat) (attempts : Nat → Attempt α) (cancelAt : Option Nat) :
    (limit made now : Nat) → Option (Outcome α)
  | 0, _, _ => none
  | limit + 1, made, now =>
    let cancelled (begun : Nat) : Option (Outcome α) :=
      some
        { result := .error Cause.cancelled
          calls := made + 1
          begun
          elapsed := max now (cancelAt.getD now) }
    if cancelledBy cancelAt now then cancelled made
    else
      let (ended, ending) := settle deadline now (attempts made)
      if cancelledBy cancelAt ended then cancelled (made + 1)
      else match ending with
        | .ok value =>
          some { result := .ok value, calls := made + 1, begun := made + 1, elapsed := ended }
        | .error failure =>
          if deadline < ended then
            some
              { result :=
                  .error (Cause.deadlineExceeded (made + 1) (ended * 1000000) failure.line)
                calls := made + 1
                begun := made + 1
                elapsed := ended }
          else if cancelledBy cancelAt (ended + interval) then cancelled (made + 1)
          else loop deadline interval attempts cancelAt limit (made + 1) (ended + interval)

/-- The run from its first call on. -/
def run (deadline interval : Nat) (attempts : Nat → Attempt α) (cancelAt : Option Nat)
    (limit : Nat) : Option (Outcome α) :=
  loop deadline interval attempts cancelAt limit 0 0

end Retry

end EventIndexer
