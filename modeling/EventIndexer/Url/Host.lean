import EventIndexer.Hex
import EventIndexer.Split
import EventIndexer.Url.Domain

/-! Hosts: addresses of both kinds, domain names, and the names that other schemes give to hosts. -/

namespace EventIndexer.Url

/-! ### Addresses of four bytes -/

/-- A number of an IPv4 address: decimal, octal after a zero, hexadecimal after `0x`. -/
def ipv4Number? (part : List Char) : Option Nat :=
  let number (base : Nat) (digits : List Char) : Option Nat :=
    digits.foldlM (fun n c => do
      let digit ← Hex.digit? c
      guard (digit < base)
      return base * n + digit) 0
  match part with
  | [] => none
  | '0' :: 'x' :: digits | '0' :: 'X' :: digits => number 16 digits
  | '0' :: digit :: digits => number 8 (digit :: digits)
  | digits => number 10 digits

def parts (domain : List Char) : List (List Char) :=
  let parts := Split.all '.' domain
  if parts.length > 1 && parts.getLast?.any List.isEmpty then parts.dropLast else parts

/-- Whether a domain has to be an IPv4 address because its last part is a number. -/
def endsInNumber (domain : List Char) : Bool :=
  match (parts domain).getLast? with
  | none => false
  | some last =>
    !last.isEmpty && (last.all Char.isDigit ||
      ((['0', 'x'].isPrefixOf last || ['0', 'X'].isPrefixOf last) && (ipv4Number? last).isSome))

/-- Whether a domain is an IPv4 address: up to four numbers, the last of which fills the bytes that
the other ones leave. -/
def isIpv4 (domain : List Char) : Bool :=
  match (parts domain).mapM ipv4Number? with
  | none => false
  | some numbers =>
    numbers.length ≤ 4 && numbers.dropLast.all (· ≤ 255) &&
      numbers.getLast?.any (· < Nat.pow 256 (5 - numbers.length))

/-! ### Addresses of sixteen bytes -/

/-- Four decimal numbers up to 255 without leading zeros. -/
def isDottedQuad (text : List Char) : Bool :=
  let parts := Split.all '.' text
  parts.length = 4 && parts.all fun part =>
    !part.isEmpty && part.length ≤ 3 && part.all Char.isDigit &&
      (part.length = 1 || part.head? ≠ some '0') && (ipv4Number? part).any (· ≤ 255)

/-- The number of 16-bit groups in part of an IPv6 address, if it is well formed; only the last
group may be an IPv4 address. -/
def ipv6Groups? (text : List Char) (mayEndInIpv4 : Bool) : Option Nat :=
  if text.isEmpty then some 0
  else
    let isGroup (group : List Char) : Bool :=
      !group.isEmpty && group.length ≤ 4 && group.all fun c => (Hex.digit? c).isSome
    let groups := Split.all ':' text
    if groups.all isGroup then some groups.length
    else if mayEndInIpv4 && groups.dropLast.all isGroup && groups.getLast?.any isDottedQuad then
      some (groups.length + 1)
    else none

/-- The text before and after the first `::`. -/
def splitAtGap : List Char → Option (List Char × List Char)
  | [] => none
  | ':' :: ':' :: rest => some ([], rest)
  | c :: rest => (splitAtGap rest).map fun (before, after) => (c :: before, after)

/-- Whether a text is an IPv6 address: eight groups, or fewer around a gap. -/
def isIpv6 (text : List Char) : Bool :=
  match splitAtGap text with
  | none => ipv6Groups? text true = some 8
  | some (before, after) =>
    match ipv6Groups? before false, ipv6Groups? after true with
    | some a, some b => a + b ≤ 7
    | _, _ => false

/-! ### Hosts -/

/-- Characters that no host holds, whatever its scheme. -/
def forbiddenInHost (c : Char) : Bool :=
  c.toNat = 0 || " #/:<>?@[\\]^|".toList.contains c

def isDomain (host : List Char) : Bool :=
  (domain? host).any fun domain => !endsInNumber domain || isIpv4 domain

/-- Whether a host may stand after a scheme of the web, or after another one. -/
def isHost (web : Bool) (host : List Char) : Bool :=
  match host with
  | '[' :: rest => rest.getLast? = some ']' && isIpv6 rest.dropLast
  | _ => if web then isDomain host else !host.any forbiddenInHost

end EventIndexer.Url
