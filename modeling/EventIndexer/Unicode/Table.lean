import EventIndexer.Hex
import EventIndexer.Split

/-! Tables of code points, kept as text: the entries of a line stand between blanks, and numbers are
hexadecimal. -/

namespace EventIndexer.Unicode

def codePoint (digits : List Char) : Nat := (Hex.number? digits 0).getD 0

def entries (lines : List String) : List (List Char) :=
  lines.flatMap fun line => Split.all ' ' line.toList

/-- Code points from a first to a last one. -/
abbrev Ranges := List (Nat × Nat)

/-- The ranges that lines list: `41` is one code point, `41-5a` are those from the first to the
last. -/
def Ranges.ofLines (lines : List String) : Ranges :=
  (entries lines).map fun entry =>
    let (first, last) := Split.first '-' entry
    (codePoint first, codePoint (last.getD first))

def Ranges.has (ranges : Ranges) (c : Char) : Bool :=
  ranges.any fun (first, last) => first ≤ c.toNat && c.toNat ≤ last

end EventIndexer.Unicode
