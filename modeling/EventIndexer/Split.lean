/-! Texts cut where a character occurs. -/

namespace EventIndexer.Split

/-- The parts of a text between the occurrences of a character. -/
def all (separator : Char) : List Char → List (List Char)
  | [] => [[]]
  | c :: rest =>
    if c = separator then [] :: all separator rest
    else match all separator rest with
      | [] => [[c]]
      | part :: parts => (c :: part) :: parts

/-- The text before the first occurrence of a character, and what follows it if it occurs. -/
def first (separator : Char) : List Char → List Char × Option (List Char)
  | [] => ([], none)
  | c :: rest =>
    if c = separator then ([], some rest)
    else
      let (before, after) := first separator rest
      (c :: before, after)

end EventIndexer.Split
