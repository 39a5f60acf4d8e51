/-! Hexadecimal text: the digits, fixed-width numbers, and byte strings read and written two digits
at a time. -/

namespace EventIndexer.Hex

/-- The lower-case digit of a value below sixteen. -/
def digit (value : Nat) : Char :=
  if value < 10 then Char.ofNat (48 + value) else Char.ofNat (87 + value)

/-- The value of a digit in either letter case. -/
def digit? (c : Char) : Option Nat :=
  if '0' ≤ c ∧ c ≤ '9' then some (c.toNat - 48)
  else if 'a' ≤ c ∧ c ≤ 'f' then some (c.toNat - 87)
  else if 'A' ≤ c ∧ c ≤ 'F' then some (c.toNat - 55)
  else none

/-- The last `count` digits of a number, most significant first. -/
def digits : (count : Nat) → Nat → List Char
  | 0, _ => []
  | count + 1, value => digits count (value / 16) ++ [digit (value % 16)]

/-- The number that a run of digits stands for, after the digits already read. -/
def number? : List Char → (read : Nat) → Option Nat
  | [], read => some read
  | c :: rest, read => do number? rest (16 * read + (← digit? c))

def ofBytes (bytes : List UInt8) : List Char :=
  bytes.flatMap fun byte => digits 2 byte.toNat

/-- The bytes that pairs of digits stand for. -/
def bytes? : List Char → Option (List UInt8)
  | [] => some []
  | [_] => none
  | high :: low :: rest => do
    let byte := UInt8.ofNat (16 * (← digit? high) + (← digit? low))
    return byte :: (← bytes? rest)

/-- The text without a leading `0x` or `0X`, if it has one. -/
def unprefixed : List Char → List Char
  | '0' :: 'x' :: rest | '0' :: 'X' :: rest => rest
  | text => text

/-- The shortest digits of a number behind `0x`, as quantities are written for a node. -/
def quantity (value : Nat) : String :=
  "0x" ++ String.ofList (Nat.toDigits 16 value)

end EventIndexer.Hex
