/-! Labels of domain names written with letters, digits and hyphens alone.  The characters that are
such already come first; behind the last hyphen, numbers in base 36 say where the other ones go,
in the order of their code points. -/

namespace EventIndexer.Url.Punycode

/-- The value of a digit: letters first. -/
def digit? (c : Char) : Option Nat :=
  if 'a' ≤ c ∧ c ≤ 'z' then some (c.toNat - 97)
  else if '0' ≤ c ∧ c ≤ '9' then some (c.toNat - 22)
  else none

/-- The weight of a digit stays below this. -/
def weightLimit : Nat := 4294967296

/-- The bound below which a digit at a place ends its number. -/
def threshold (place bias : Nat) : Nat := min 26 (max 1 (place - bias))

/-- Divides a number by 35 until it is small; counts 36 for each division. -/
def damp (number places : Nat) : Nat × Nat :=
  if 455 < number then damp (number / 35) (places + 36) else (number, places)
termination_by number

/-- The bias after a number, which expects the next one to be as large. -/
def adapt (number length : Nat) (isFirst : Bool) : Nat :=
  let number := if isFirst then number / 700 else number / 2
  let (number, places) := damp (number + number / length) 0
  places + 36 * number / (number + 38)

/-- Reads a number, given the place and the weight of its next digit and the sum so far. -/
def number? (bias : Nat) : (place weight sum : Nat) → List Char → Option (Nat × List Char)
  | _, _, _, [] => none
  | place, weight, sum, c :: rest =>
    match digit? c with
    | none => none
    | some digit =>
      let sum := sum + digit * weight
      let bound := threshold place bias
      if digit < bound then some (sum, rest)
      else if weightLimit ≤ weight * (36 - bound) then none
      else number? bias (place + 36) (weight * (36 - bound)) sum rest

structure Reading where
  text : List Char
  /-- The code point of the last insertion, and the first one to insert. -/
  codePoint : Nat := 128
  position : Nat := 0
  bias : Nat := 72

/-- Inserts the next character, which lies as far ahead as a number says. -/
def Reading.insert? (reading : Reading) (number : Nat) : Option Reading :=
  let slots := reading.text.length + 1
  let codePoint := reading.codePoint + (reading.position + number) / slots
  let position := (reading.position + number) % slots
  if codePoint.isValidChar then
    some {
      text := reading.text.insertIdx position (Char.ofNat codePoint)
      codePoint
      position := position + 1
      bias := adapt number slots (reading.position = 0) }
  else none

/-- Reads the insertions; each takes at least one digit. -/
def insertions? : (limit : Nat) → Reading → List Char → Option (List Char)
  | _, reading, [] => some reading.text
  | 0, _, _ :: _ => none
  | limit + 1, reading, digits => do
    let (number, rest) ← number? reading.bias 36 1 0 digits
    insertions? limit (← reading.insert? number) rest

/-- The text that a label stands for. -/
def decode? (label : List Char) : Option (List Char) :=
  let digits := (label.reverse.takeWhile (· ≠ '-')).reverse
  let text := label.take (label.length - digits.length - 1)
  if text.isEmpty then insertions? label.length { text := [] } label
  else insertions? digits.length { text } digits

end EventIndexer.Url.Punycode
