import EventIndexer.Failure
import EventIndexer.Percent
import EventIndexer.Quote
import EventIndexer.Split
import EventIndexer.Store.Opening
import EventIndexer.Utf8

/-! Where a database is kept, as its URL says. -/

namespace EventIndexer

structure Location where
  path : List Char
  inMemory : Bool := false
  readOnly : Bool := false
  immutable : Bool := false
  /-- The file system, if the URL names one. -/
  system : Option (List Char) := none
  deriving DecidableEq, Repr

namespace Location

/-- The text without a prefix, however often it is repeated. -/
def dropPrefix (leading : List Char) : (limit : Nat) → List Char → List Char
  | 0, text => text
  | limit + 1, text =>
    if leading.isPrefixOf text then dropPrefix leading limit (text.drop leading.length) else text

/-! ### Parameters -/

/-- The text of a name or a value among the parameters: a plus sign is a space. -/
def parameterText (text : List Char) : List Char :=
  Utf8.decodeLossy (Percent.bytes (text.map fun c => if c = '+' then ' ' else c))

/-- The parameters after a question mark. -/
def parameters (text : List Char) : List (String × String) :=
  ((Split.all '&' text).filter (!·.isEmpty)).map fun part =>
    let (name, value) := Split.first '=' part
    (String.ofList (parameterText name), String.ofList (parameterText (value.getD [])))

/-- The failure of a value that a parameter does not have. -/
def unknownValue (name value : String) : Except Failure Location :=
  .error (Cause.databaseSetting
    ("unknown value " ++ Quote.text value ++ " for `" ++ name ++ "`"))

def set (location : Location) (name value : String) : Except Failure Location :=
  match name with
  | "mode" =>
    match value with
    | "ro" => .ok { location with readOnly := true }
    | "rw" | "rwc" => .ok location
    | "memory" => .ok { location with inMemory := true }
    | _ => unknownValue name value
  | "cache" =>
    match value with
    | "private" | "shared" => .ok location
    | _ => unknownValue name value
  | "immutable" =>
    match value with
    | "true" | "1" => .ok { location with immutable := true }
    | "false" | "0" => .ok { location with immutable := false }
    | _ => unknownValue name value
  | "vfs" => .ok { location with system := some value.toList }
  | _ =>
    .error (Cause.databaseSetting
      ("unknown query parameter `" ++ name ++ "` while parsing connection URL"))

/-! ### URLs -/

/-- The location that a path describes, without parameters. -/
def ofPath (path : List Char) : Except Failure Location :=
  if path = ":memory:".toList then .ok { path := [], inMemory := true }
  else match Utf8.decode (Percent.bytes path) with
    | .ok path => .ok { path }
    | .error (index, fault) => .error (Cause.databaseSetting (fault.text index))

/-- The location that a URL describes. -/
def parse (url : String) : Except Failure Location := do
  let limit := url.toList.length
  let text := dropPrefix "sqlite:".toList limit (dropPrefix "sqlite://".toList limit url.toList)
  let (path, query) := Split.first '?' text
  (parameters (query.getD [])).foldlM (fun location (name, value) => location.set name value)
    (← ofPath path)

/-- What is asked of the database for a location.  A path stands for itself where a file system is
named or the file is not to change; else it may be a URI. -/
def opening (location : Location) : Except Failure Opening :=
  let opening : Opening :=
    { path := location.path
      access := if location.readOnly then .read else .create
      inMemory := location.inMemory }
  if location.immutable || location.system.isSome then
    .ok { opening with
      path := Opening.upToNul location.path
      immutable := if location.immutable then some true else none
      system := location.system.map fun name =>
        Opening.upToNul (name.map fun c => if c = ' ' then '+' else c) }
  else if location.path.any (·.toNat = 0) then
    .error (Cause.unusablePath "filename passed to SQLite must not contain nul bytes")
  else opening.ofUri

/-- Opens the database at a URL and lays out its tables, given what is found at a path. -/
def openAt (place : String → Place) (url : String) : Except Failure Unit := do
  (← (← parse url).opening).run place

end Location

end EventIndexer
