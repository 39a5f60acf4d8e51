import EventIndexer.Hex
import EventIndexer.Keccak

/-! The values a log is made of: 256-bit words, 160-bit addresses and their checksummed text, and
amounts written in decimal and read back in several bases. -/

namespace EventIndexer

/-- A topic, or a slot of a log's data. -/
abbrev Word := BitVec 256

abbrev Address := BitVec 160

/-- The number that big-endian bytes stand for. -/
def bigEndian (bytes : List UInt8) : Nat := bytes.foldl (fun n byte => 256 * n + byte.toNat) 0

namespace Word

def ofBytes (bytes : List UInt8) : Word := BitVec.ofNat 256 (bigEndian bytes)

def bytes (word : Word) : List UInt8 :=
  (List.range 32).map fun i => UInt8.ofNat (word.toNat >>> (8 * (31 - i)))

/-- All 64 digits in lower case, behind `0x`. -/
def text (word : Word) : String := "0x" ++ String.ofList (Hex.digits 64 word.toNat)

/-- The word that 64 digits stand for, with or without `0x`. -/
def parse? (text : String) : Option Word := do
  let digits := Hex.unprefixed text.toList
  guard (digits.length = 64)
  return BitVec.ofNat 256 (← Hex.number? digits 0)

/-- The address in the low 20 bytes; whatever is above is dropped. -/
def address (word : Word) : Address := word.setWidth 160

def lastByte (word : Word) : Nat := word.toNat % 256

end Word

namespace Address

def digits (address : Address) : List Char := Hex.digits 40 address.toNat

/-- The digits with each letter raised where the digest of the lower-case digits has a nibble of
eight or more at the same place. -/
def checksum (address : Address) : String :=
  let nibbles := (Keccak.hash (address.digits.map fun c => UInt8.ofNat c.toNat)).flatMap
    fun byte => [byte.toNat / 16, byte.toNat % 16]
  "0x" ++ String.ofList
    (List.zipWith (fun c nibble => if 8 ≤ nibble then c.toUpper else c) address.digits nibbles)

/-- The digits in lower case, behind `0x`. -/
def text (address : Address) : String := "0x" ++ String.ofList address.digits

/-- The address that 40 digits stand for, in any letter case, with or without `0x`. -/
def parse? (text : String) : Option Address := do
  let digits := Hex.unprefixed text.toList
  guard (digits.length = 40)
  return BitVec.ofNat 160 (← Hex.number? digits 0)

end Address

/-! ### Amounts -/

namespace Amount

/-- One more than the largest amount. -/
def bound : Nat :=
  0x10000000000000000000000000000000000000000000000000000000000000000

/-- The value of a digit in a base up to sixteen. -/
def digit? (base : Nat) (c : Char) : Option Nat :=
  (Hex.digit? c).filter (· < base)

/-- Digits of a base from left to right, with every underscore skipped. -/
def number? (base : Nat) : List Char → (read : Nat) → Option Nat
  | [], read => some read
  | '_' :: rest, read => number? base rest read
  | c :: rest, read => do number? base rest (base * read + (← digit? base c))

/-- The amount that a text stands for: decimal, or hexadecimal, octal or binary behind its prefix.
A text without digits is zero, and an amount past the largest one is refused. -/
def parse? (text : String) : Option Nat :=
  let value := match text.toList with
    | '0' :: 'x' :: rest | '0' :: 'X' :: rest => number? 16 rest 0
    | '0' :: 'o' :: rest | '0' :: 'O' :: rest => number? 8 rest 0
    | '0' :: 'b' :: rest | '0' :: 'B' :: rest => number? 2 rest 0
    | digits => number? 10 digits 0
  value.filter (· < bound)

end Amount

end EventIndexer
