import EventIndexer.Unicode.Category

/-! Texts between quotes, as they stand in messages about values that cannot be used. -/

namespace EventIndexer.Quote

open Unicode

/-- Marks with room of their own that change the character before them all the same. -/
def extendingRanges : Ranges :=
  Ranges.ofLines
    ["9be 9d7 b3e b57 bbe bd7 cc0 cc2 cc7-cc8 cca-ccb cd5-cd6 d3e d57 dcf ddf 1715 1734 1b35 1b3b",
     "1b3d 1b43-1b44 1baa 1bf2-1bf3 302e-302f a953 a9c0 111c0 11235 1133e 1134d 11357 113b8 113c2",
     "113c5 113c7-113c9 113cf 114b0 114bd 115af 116b6 11930 1193d 11f41 16ff0-16ff1 1d165-1d166",
     "1d16d-1d172"]

/-- Letters that only fill a place and show nothing. -/
def fillerRanges : Ranges := Ranges.ofLines ["115f-1160 3164 ffa0"]

/-- Whether a character is shown by its code: one without a form of its own, except the space, or
one that would be drawn into the character before it. -/
def isHidden (c : Char) : Bool :=
  if c.toNat < 0x7f then c.toNat < 0x20
  else isOther c || isNonspacing c || extendingRanges.has c || fillerRanges.has c

/-- A character as it stands in a quoted value. -/
def char (c : Char) : List Char :=
  if c = '"' then ['\\', '"']
  else if c = '\\' then ['\\', '\\']
  else if c = '\n' then ['\\', 'n']
  else if c = '\r' then ['\\', 'r']
  else if c = '\t' then ['\\', 't']
  else if c.toNat = 0 then ['\\', '0']
  else if isHidden c then ['\\', 'u', '\x7b'] ++ Nat.toDigits 16 c.toNat ++ ['\x7d']
  else [c]

def text (value : String) : String :=
  "\"" ++ String.ofList (value.toList.flatMap char) ++ "\""

/-- A single character between quotes of its own. -/
def single (c : Char) : String :=
  let shown := if c = '"' then ['"'] else if c = '\'' then ['\\', '\''] else char c
  "'" ++ String.ofList shown ++ "'"

end EventIndexer.Quote
