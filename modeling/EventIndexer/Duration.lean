/-! The text of a duration: the largest unit that it fills, with decimals down to the nanosecond. -/

namespace EventIndexer.Duration

/-- Decimals of a fraction of a unit, which is a power of ten, without trailing zeros. -/
def decimals (unit fraction : Nat) : String :=
  let digits := (Nat.toDigits 10 (unit + fraction)).drop 1
  let kept := (digits.reverse.dropWhile (· == '0')).reverse
  if kept.isEmpty then "" else "." ++ String.ofList kept

/-- A count of nanoseconds in a unit of so many nanoseconds. -/
def inUnit (nanos unit : Nat) (name : String) : String :=
  toString (nanos / unit) ++ decimals unit (nanos % unit) ++ name

/-- A count of nanoseconds, in seconds, milliseconds, microseconds or nanoseconds. -/
def text (nanos : Nat) : String :=
  if 1000000000 ≤ nanos then inUnit nanos 1000000000 "s"
  else if 1000000 ≤ nanos then inUnit nanos 1000000 "ms"
  else if 1000 ≤ nanos then inUnit nanos 1000 "µs"
  else toString nanos ++ "ns"

end EventIndexer.Duration
