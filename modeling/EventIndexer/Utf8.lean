/-! Reading bytes as UTF-8.  What is no character is set apart as a fault, which covers the bytes
that could begin a character; reading goes on behind it. -/

namespace EventIndexer.Utf8

/-- Bytes that are no character. -/
inductive Fault
  /-- So many bytes begin a character that the next byte does not continue. -/
  | invalid (size : Nat)
  /-- The bytes end within a character. -/
  | incomplete
  deriving DecidableEq, Repr

/-- What a fault at an index is reported as. -/
def Fault.text (index : Nat) : Fault → String
  | invalid size =>
    "invalid utf-8 sequence of " ++ toString size ++ " bytes from index " ++ toString index
  | incomplete => "incomplete utf-8 byte sequence from index " ++ toString index

/-- Whether a byte may stand behind the first byte of a character: the shortest form, no surrogate,
and no code point past the last one. -/
def isSecond (lead byte : Nat) : Bool :=
  if lead = 0xe0 then 0xa0 ≤ byte && byte < 0xc0
  else if lead = 0xed then 0x80 ≤ byte && byte < 0xa0
  else if lead = 0xf0 then 0x90 ≤ byte && byte < 0xc0
  else if lead = 0xf4 then 0x80 ≤ byte && byte < 0x90
  else 0x80 ≤ byte && byte < 0xc0

/-- The number of bytes of a character, as its first byte tells. -/
def width? (lead : Nat) : Option Nat :=
  if lead < 0x80 then some 1
  else if 0xc2 ≤ lead ∧ lead < 0xe0 then some 2
  else if 0xe0 ≤ lead ∧ lead < 0xf0 then some 3
  else if 0xf0 ≤ lead ∧ lead < 0xf5 then some 4
  else none

/-- Reads the bytes a character still wants, given how many it has and the value of those. -/
def continuation : (wanted taken value : Nat) → List UInt8 → Except Fault Char
  | 0, _, value, _ => .ok (Char.ofNat value)
  | _ + 1, _, _, [] => .error .incomplete
  | wanted + 1, taken, value, byte :: rest =>
    if 0x80 ≤ byte.toNat ∧ byte.toNat < 0xc0 then
      continuation wanted (taken + 1) (64 * value + (byte.toNat - 0x80)) rest
    else .error (.invalid taken)

/-- The character at the start of some bytes. -/
def first (lead : UInt8) (rest : List UInt8) : Except Fault Char :=
  match width? lead.toNat with
  | none => .error (.invalid 1)
  | some 1 => .ok (Char.ofNat lead.toNat)
  | some width =>
    match rest with
    | [] => .error .incomplete
    | second :: _ =>
      if isSecond lead.toNat second.toNat then
        continuation (width - 1) 1 (lead.toNat % Nat.pow 2 (7 - width)) rest
      else .error (.invalid 1)

/-- The number of bytes that a character or a fault covers, of those that are left. -/
def covered (left : Nat) : Except Fault Char → Nat
  | .ok c => c.utf8Size
  | .error (.invalid size) => size
  | .error .incomplete => left

/-- The characters and the faults of some bytes, each with its index. -/
def items : (limit index : Nat) → List UInt8 → List (Nat × Except Fault Char)
  | 0, _, _ => []
  | _ + 1, _, [] => []
  | limit + 1, index, lead :: rest =>
    let item := first lead rest
    let size := covered (rest.length + 1) item
    (index, item) :: items limit (index + size) ((lead :: rest).drop size)

/-- The characters and the faults of bytes; each covers at least one byte. -/
def read (bytes : List UInt8) : List (Nat × Except Fault Char) := items bytes.length 0 bytes

/-- The text of bytes, or the first fault with its index. -/
def decode (bytes : List UInt8) : Except (Nat × Fault) (List Char) :=
  (read bytes).mapM fun (index, item) => item.mapError (index, ·)

/-- What stands for a fault where the rest of a text is kept. -/
def replacement : Char := Char.ofNat 0xfffd

/-- The text of bytes, with a replacement for every fault. -/
def decodeLossy (bytes : List UInt8) : List Char :=
  (read bytes).map fun (_, item) => (item.toOption).getD replacement

end EventIndexer.Utf8
