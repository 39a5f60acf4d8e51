import EventIndexer.Json

/-! Reading JSON text.  Values may be nested up to a depth, nothing may follow a value but blanks,
and text that stops in the middle of something is refused. -/

namespace EventIndexer.Json

def skipBlanks : List Char → List Char
  | ' ' :: rest | '\n' :: rest | '\r' :: rest | '\t' :: rest => skipBlanks rest
  | text => text

/-- The text after a word that it begins with. -/
def expect (word text : List Char) : Option (List Char) :=
  if word.isPrefixOf text then some (text.drop word.length) else none

def takeDigits (text : List Char) : List Char × List Char := text.span Char.isDigit

/-- An integer part without leading zeros. -/
def integerPart? (text : List Char) : Option (List Char × List Char) :=
  match takeDigits text with
  | ([], _) => none
  | ('0' :: _ :: _, _) => none
  | taken => some taken

/-- The digits after a point, with the point; nothing if there is no point. -/
def fractionPart? : List Char → Option (List Char × List Char)
  | '.' :: rest =>
    match takeDigits rest with
    | ([], _) => none
    | (digits, rest) => some ('.' :: digits, rest)
  | text => some ([], text)

/-- The exponent, with its letter and its sign; nothing if there is no exponent. -/
def exponentPart? (text : List Char) : Option (List Char × List Char) :=
  let digits (start rest : List Char) : Option (List Char × List Char) :=
    match takeDigits rest with
    | ([], _) => none
    | (digits, rest) => some (start ++ digits, rest)
  match text with
  | 'e' :: '+' :: rest | 'E' :: '+' :: rest => digits ['e', '+'] rest
  | 'e' :: '-' :: rest | 'E' :: '-' :: rest => digits ['e', '-'] rest
  | 'e' :: rest | 'E' :: rest => digits ['e'] rest
  | text => some ([], text)

/-- Whether a number is kept as an integer: it has 64 bits, and zero has no sign. -/
def isKeptWhole (negative : Bool) (value : Nat) : Bool :=
  if negative then 0 < value && value ≤ 0x8000000000000000 else value < 0x10000000000000000

def number? (text : List Char) : Option (Json × List Char) := do
  let (negative, text) := match text with
    | '-' :: rest => (true, rest)
    | text => (false, text)
  let (whole, text) ← integerPart? text
  let (fraction, text) ← fractionPart? text
  let (exponent, text) ← exponentPart? text
  let value := whole.foldl (fun n c => 10 * n + (c.toNat - 48)) 0
  if fraction.isEmpty && exponent.isEmpty && isKeptWhole negative value then
    return (.integer (if negative then -value else value), text)
  else
    let sign := if negative then ['-'] else []
    return (.decimal (String.ofList (sign ++ whole ++ fraction ++ exponent)), text)

/-- The value of four digits, and what follows them. -/
def unit? : List Char → Option (Nat × List Char)
  | a :: b :: c :: d :: rest => do return (← Hex.number? [a, b, c, d] 0, rest)
  | _ => none

/-- A character given by its code, which above 16 bits takes two units. -/
def codedChar? (text : List Char) : Option (Char × List Char) := do
  let (high, rest) ← unit? text
  if 0xd800 ≤ high && high < 0xdc00 then
    let (low, rest) ← unit? (← expect ['\\', 'u'] rest)
    guard (0xdc00 ≤ low && low < 0xe000)
    return (Char.ofNat (0x10000 + 0x400 * (high - 0xd800) + (low - 0xdc00)), rest)
  else
    guard (high < 0xdc00 || 0xe000 ≤ high)
    return (Char.ofNat high, rest)

/-- The characters up to the closing quotes, in at most `limit` steps. -/
def characters? : (limit : Nat) → List Char → Option (List Char × List Char)
  | 0, _ => none
  | limit + 1, text =>
    let andThen (c : Char) (rest : List Char) : Option (List Char × List Char) := do
      let (more, rest) ← characters? limit rest
      return (c :: more, rest)
    match text with
    | [] => none
    | '"' :: rest => some ([], rest)
    | '\\' :: 'u' :: rest => do
      let (c, rest) ← codedChar? rest
      andThen c rest
    | '\\' :: c :: rest =>
      match c with
      | '"' | '\\' | '/' => andThen c rest
      | 'b' => andThen (Char.ofNat 8) rest
      | 'f' => andThen (Char.ofNat 12) rest
      | 'n' => andThen '\n' rest
      | 'r' => andThen '\r' rest
      | 't' => andThen '\t' rest
      | _ => none
    | c :: rest => if c.toNat < 32 then none else andThen c rest

def string? (text : List Char) : Option (String × List Char) := do
  let rest ← expect ['"'] text
  let (taken, rest) ← characters? (rest.length + 1) rest
  return (String.ofList taken, rest)

def maxDepth : Nat := 128

mutual

/-- The value at the beginning of a text, in at most `limit` steps. -/
def value? : (limit depth : Nat) → List Char → Option (Json × List Char)
  | 0, _, _ => none
  | limit + 1, depth, text =>
    match skipBlanks text with
    | 'n' :: rest => do return (.null, ← expect "ull".toList rest)
    | 't' :: rest => do return (.bool true, ← expect "rue".toList rest)
    | 'f' :: rest => do return (.bool false, ← expect "alse".toList rest)
    | '"' :: rest => do
      let (taken, rest) ← string? ('"' :: rest)
      return (.string taken, rest)
    | '[' :: rest =>
      if depth = 0 then none
      else match skipBlanks rest with
        | ']' :: rest => some (.array [], rest)
        | rest => do
          let (items, rest) ← items? limit (depth - 1) rest
          return (.array items, rest)
    | '\x7b' :: rest =>
      if depth = 0 then none
      else match skipBlanks rest with
        | '\x7d' :: rest => some (.object [], rest)
        | rest => do
          let (fields, rest) ← fields? limit (depth - 1) rest
          return (.object fields, rest)
    | rest => number? rest

def items? : (limit depth : Nat) → List Char → Option (List Json × List Char)
  | 0, _, _ => none
  | limit + 1, depth, text => do
    let (item, rest) ← value? limit depth text
    match skipBlanks rest with
    | ',' :: rest =>
      let (items, rest) ← items? limit depth rest
      return (item :: items, rest)
    | ']' :: rest => return ([item], rest)
    | _ => none

def fields? : (limit depth : Nat) → List Char → Option (List (String × Json) × List Char)
  | 0, _, _ => none
  | limit + 1, depth, text => do
    let (name, rest) ← string? (skipBlanks text)
    let (value, rest) ← value? limit depth (← expect [':'] (skipBlanks rest))
    match skipBlanks rest with
    | ',' :: rest =>
      let (fields, rest) ← fields? limit depth rest
      return ((name, value) :: fields, rest)
    | '\x7d' :: rest => return ([(name, value)], rest)
    | _ => none

end

/-- The value that a whole text stands for. -/
def parse? (text : String) : Option Json := do
  let (value, rest) ← value? (text.toList.length + 1) (maxDepth - 1) text.toList
  guard (skipBlanks rest).isEmpty
  return value

def field? (name : String) : Json → Option Json
  | object fields => fields.lookup name
  | _ => none

end EventIndexer.Json
