import EventIndexer.Failure
import EventIndexer.Percent
import EventIndexer.Split
import EventIndexer.Utf8

/-! Opening a database file, which may be described by a URI: `file:`, an authority that names this
host or none, a path, and options after a question mark. -/

namespace EventIndexer

inductive Access
  | nothing
  | read
  | write
  | create
  deriving DecidableEq, Repr

/-- Accesses in the order in which one allows more than another. -/
def Access.rank : Access → Nat
  | nothing => 0
  | read => 1
  | write => 2
  | create => 3

inductive Place
  | directory
  /-- There is nothing yet, and a file can be made. -/
  | free
  | unreachable
  deriving DecidableEq, Repr

structure Opening where
  path : List Char
  access : Access
  inMemory : Bool
  /-- Whether nothing else changes the file, so that it is only read, if this is said. -/
  immutable : Option Bool := none
  /-- The name of the file system, if one is named. -/
  system : Option (List Char) := none
  deriving DecidableEq, Repr

namespace Opening

/-- A name ends where the character zero stands. -/
def upToNul (text : List Char) : List Char := text.takeWhile (·.toNat ≠ 0)

def partText (text : List Char) : List Char :=
  Utf8.decodeLossy ((Percent.bytes text).takeWhile (· ≠ 0))

def refused (text : String) (value : List Char) : Except Failure α :=
  .error (Cause.database 1 (text ++ ": " ++ String.ofList value))

/-! ### Options -/

/-- The options after a question mark; those without a name do not count. -/
def options (text : List Char) : List (String × List Char) :=
  ((Split.all '&' text).map fun part =>
    let (name, value) := Split.first '=' part
    (String.ofList (partText name), partText (value.getD []))).filter (!·.1.isEmpty)

/-- Whether a value says yes: a word for it, or a number whose last byte is not zero. -/
def saysYes (value : List Char) : Bool :=
  let digits := value.takeWhile Char.isDigit
  if digits.isEmpty then ["on", "yes", "true"].contains (String.ofList (value.map Char.toLower))
  else
    let number := digits.foldl (fun n c => 10 * n + (c.toNat - 48)) 0
    number < 2147483648 && number % 256 ≠ 0

/-- The access of a mode, and whether it is in memory. -/
def mode? (value : List Char) : Option (Access × Bool) :=
  match String.ofList value with
  | "ro" => some (.read, false)
  | "rw" => some (.write, false)
  | "rwc" => some (.create, false)
  | "memory" => some (.nothing, true)
  | _ => none

/-- The opening with one option set.  A mode may not allow more than what was asked for, except of
a database in memory. -/
def set (opening : Opening) (name : String) (value : List Char) : Except Failure Opening :=
  match name with
  | "vfs" => .ok { opening with system := some value }
  | "cache" =>
    if value = "shared".toList ∨ value = "private".toList then .ok opening
    else refused "no such cache mode" value
  | "mode" =>
    match mode? value with
    | none => refused "no such access mode" value
    | some (access, inMemory) =>
      if !opening.inMemory && opening.access.rank < access.rank then
        .error (Cause.database 3 ("access mode not allowed: " ++ String.ofList value))
      else .ok { opening with access, inMemory }
  | "immutable" =>
    .ok { opening with immutable := opening.immutable.or (some (saysYes value)) }
  | _ => .ok opening

/-! ### URIs -/

/-- The path and the options of a URI, behind its authority. -/
def afterAuthority (text : List Char) : Except Failure (List Char) :=
  match text with
  | '/' :: '/' :: rest =>
    let authority := rest.takeWhile (· ≠ '/')
    if authority.isEmpty ∨ authority = "localhost".toList then .ok (rest.drop authority.length)
    else refused "invalid uri authority" authority
  | _ => .ok text

/-- The opening that the path describes, if it is a URI. -/
def ofUri (opening : Opening) : Except Failure Opening :=
  if "file:".toList.isPrefixOf opening.path then do
    let text ← afterAuthority (opening.path.drop 5)
    let (path, query) := Split.first '?' (Split.first '#' text).1
    (options (query.getD [])).foldlM (fun opening (name, value) => opening.set name value)
      { opening with path := partText path }
  else .ok opening

/-! ### Files -/

/-- The file systems that there are. -/
def systems : List String := ["unix", "unix-none", "unix-dotfile", "unix-excl", "memdb"]

/-- The path with nothing in it that stays or goes back. -/
def resolve (path : List Char) : String :=
  let names := (Split.all '/' path).foldl (fun names name =>
    if name.isEmpty ∨ name = ['.'] then names
    else if name = ['.', '.'] then names.dropLast
    else names ++ [name]) []
  String.ofList ((if path.head? = some '/' then ['/'] else []) ++ ['/'].intercalate names)

/-- The tables cannot be laid out where nothing may be written. -/
def layOut (readOnly : Bool) : Except Failure Unit :=
  if readOnly then .error (Cause.database 8 "attempt to write a readonly database") else .ok ()

/-- Opens a database and lays out its tables, given what is found at a path.  Without a path it is
kept in a temporary file. -/
def run (opening : Opening) (place : String → Place) : Except Failure Unit :=
  let isImmutable := opening.immutable.getD false
  let isRead := opening.access = .read
  if opening.system.any fun name => !systems.contains (String.ofList name) then
    refused "no such vfs" (opening.system.getD [])
  else if opening.inMemory || opening.path = ":memory:".toList || opening.path.isEmpty then
    layOut isRead
  else if opening.system = some "memdb".toList then layOut (isRead || isImmutable)
  else match place (resolve opening.path), opening.access with
    | .free, .create => layOut isImmutable
    | .directory, .read => .error (Cause.database 266 "disk I/O error")
    | _, _ => .error (Cause.database 14 "unable to open database file")

end Opening

end EventIndexer
