import EventIndexer.Json.Parse

/-! JSON text taken apart without being read: the members of an object, each with the text of its
value as it stands.  Only the grammar of a value is checked, at any depth. -/

namespace EventIndexer.Json

def skipUnit? (text : List Char) : Option (List Char) := (unit? text).map (·.2)

/-- The text behind the closing quotes, in at most `limit` steps; a coded character may be half of a
pair. -/
def skipString? : (limit : Nat) → List Char → Option (List Char)
  | 0, _ => none
  | limit + 1, text =>
    match text with
    | [] => none
    | '"' :: rest => some rest
    | '\\' :: 'u' :: rest => do skipString? limit (← skipUnit? rest)
    | '\\' :: c :: rest => if "\"\\/bfnrt".toList.contains c then skipString? limit rest else none
    | c :: rest => if c.toNat < 32 then none else skipString? limit rest

mutual

/-- The text behind a value, in at most `limit` steps. -/
def skipValue? : (limit : Nat) → List Char → Option (List Char)
  | 0, _ => none
  | limit + 1, text =>
    match skipBlanks text with
    | 'n' :: rest => expect "ull".toList rest
    | 't' :: rest => expect "rue".toList rest
    | 'f' :: rest => expect "alse".toList rest
    | '"' :: rest => skipString? limit rest
    | '[' :: rest =>
      match skipBlanks rest with
      | ']' :: rest => some rest
      | rest => skipItems? limit rest
    | '\x7b' :: rest =>
      match skipBlanks rest with
      | '\x7d' :: rest => some rest
      | rest => skipFields? limit rest
    | rest => (number? rest).map (·.2)

def skipItems? : (limit : Nat) → List Char → Option (List Char)
  | 0, _ => none
  | limit + 1, text => do
    match skipBlanks (← skipValue? limit text) with
    | ',' :: rest => skipItems? limit rest
    | ']' :: rest => return rest
    | _ => none

def skipFields? : (limit : Nat) → List Char → Option (List Char)
  | 0, _ => none
  | limit + 1, text => do
    let rest ← skipString? limit (← expect ['"'] (skipBlanks text))
    match skipBlanks (← skipValue? limit (← expect [':'] (skipBlanks rest))) with
    | ',' :: rest => skipFields? limit rest
    | '\x7d' :: rest => return rest
    | _ => none

end

/-- More steps than it takes to pass over a text. -/
def stepsFor (text : List Char) : Nat := 2 * text.length + 2

def rawValue? (text : List Char) : Option (String × List Char) := do
  let text := skipBlanks text
  let rest ← skipValue? (stepsFor text) text
  return (String.ofList (text.take (text.length - rest.length)), rest)

/-- The members up to the closing brace. -/
def rawFields? : (limit : Nat) → List Char → Option (List (String × String) × List Char)
  | 0, _ => none
  | limit + 1, text => do
    let (name, rest) ← string? (skipBlanks text)
    let (value, rest) ← rawValue? (← expect [':'] (skipBlanks rest))
    match skipBlanks rest with
    | ',' :: rest =>
      let (fields, rest) ← rawFields? limit rest
      return ((name, value) :: fields, rest)
    | '\x7d' :: rest => return ([(name, value)], rest)
    | _ => none

/-- The members of the object that a whole text stands for, in their order. -/
def rawMembers? (text : String) : Option (List (String × String)) := do
  let rest ← expect ['\x7b'] (skipBlanks text.toList)
  match skipBlanks rest with
  | '\x7d' :: rest => if (skipBlanks rest).isEmpty then some [] else none
  | rest =>
    let (fields, rest) ← rawFields? (rest.length + 1) rest
    if (skipBlanks rest).isEmpty then some fields else none

def valuesOf (name : String) (members : List (String × β)) : List β :=
  (members.filter (·.1 == name)).map (·.2)

end EventIndexer.Json
