import EventIndexer.Percent
import EventIndexer.Split
import EventIndexer.Unicode.Canonical
import EventIndexer.Unicode.Direction
import EventIndexer.Unicode.Joining
import EventIndexer.Url.Mapping
import EventIndexer.Url.Punycode
import EventIndexer.Utf8

/-! Domain names, whose labels may be written in any script. -/

namespace EventIndexer.Url

open Unicode

/-- What begins a label that is written with letters, digits and hyphens in place of others. -/
def encodedMark : List Char := "xn--".toList

/-- The longest text that is read behind that mark. -/
def longestEncoded : Nat := 2000

def longestMixed : Nat := 1000

def isAscii (c : Char) : Bool := c.toNat < 0x80

/-- ASCII characters that no domain name holds. -/
def forbiddenInDomain (c : Char) : Bool :=
  c.toNat ≤ 32 || c.toNat = 127 || "%#/:<>?@[\\]^|".toList.contains c

/-- Whether what an encoded label stands for had to be encoded, and is what reading it as it is
would give. -/
def isDecoded (label : List Char) : Bool :=
  !label.all isAscii && label.all isValidChar && compose label == label &&
    !label.contains '.' && !encodedMark.isPrefixOf label

/-- The text that a label stands for. -/
def labelText? (label : List Char) : Option (List Char) :=
  if encodedMark.isPrefixOf label then
    let encoded := label.drop encodedMark.length
    if encoded.all isAscii && encoded.length ≤ longestEncoded then
      (Punycode.decode? encoded).filter isDecoded
    else none
  else if label.all isAscii || label.length ≤ longestMixed then some label
  else none

/-- Whether the marks and the joiners of a label have something to stand on. -/
def isLabel (label : List Char) : Bool := !label.head?.any isMark && joinersFit [] label

/-- The labels of a domain name keep to one direction each where one of them is written from right
to left. -/
def keepDirections (labels : List (List Char)) : Bool :=
  !labels.any turns || labels.all keepsDirection

/-- The domain name that a host stands for, with its labels as they are written. -/
def domain? (host : List Char) : Option (List Char) := do
  let text ← (Utf8.decode (Percent.bytes host)).toOption
  let domain := compose (← text.mapM mapChar?).flatten
  let labels ← (Split.all '.' domain).mapM labelText?
  guard (!domain.isEmpty && !domain.any forbiddenInDomain)
  guard (labels.all isLabel && keepDirections labels)
  return domain

end EventIndexer.Url
