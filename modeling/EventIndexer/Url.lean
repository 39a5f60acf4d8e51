import EventIndexer.Split
import EventIndexer.Url.Host

/-! Whether a text is a URL.  It needs a scheme; after the schemes of the web it needs a host, and a
host and a port have to be well formed wherever they stand. -/

namespace EventIndexer.Url

/-- The schemes after which a host is due. -/
def webSchemes : List String := ["http", "https", "ws", "wss", "ftp"]

def isSchemeChar (c : Char) : Bool := c.isAlphanum || c = '+' || c = '-' || c = '.'

def isSlash (c : Char) : Bool := c = '/' || c = '\\'

/-- The characters that count: none at either end up to the space, and no tab or line break. -/
def significant (text : String) : List Char :=
  let trimmed := text.toList.dropWhile (·.toNat ≤ 32)
  let trimmed := (trimmed.reverse.dropWhile (·.toNat ≤ 32)).reverse
  trimmed.filter fun c => c ≠ '\t' && c ≠ '\n' && c ≠ '\r'

/-- The scheme in lower case, and what follows its colon. -/
def scheme? (text : List Char) : Option (String × List Char) :=
  match text.span isSchemeChar with
  | (c :: rest, ':' :: after) =>
    if c.isAlpha then some (String.ofList ((c :: rest).map Char.toLower), after) else none
  | _ => none

/-! ### Authorities -/

/-- The credentials before the last `@`, if there is one, and the text after it. -/
def splitCredentials (authority : List Char) : Option (List Char) × List Char :=
  match (Split.all '@' authority).reverse with
  | rest :: credentials :: earlier =>
    (some (['@'].intercalate (credentials :: earlier).reverse), rest)
  | _ => (none, authority)

/-- The host and, after a colon outside brackets, the port. -/
def splitPort : (inBrackets : Bool) → List Char → List Char × Option (List Char)
  | _, [] => ([], none)
  | false, ':' :: port => ([], some port)
  | inBrackets, c :: rest =>
    let inBrackets := if c = '[' then true else if c = ']' then false else inBrackets
    let (host, port) := splitPort inBrackets rest
    (c :: host, port)

def isPort (port : List Char) : Bool :=
  port.all Char.isDigit && (port.foldl (fun n c => 10 * n + (c.toNat - 48)) 0) ≤ 65535

/-- Whether credentials give a name or a password. -/
def areWritten (credentials : List Char) : Bool := !credentials.isEmpty && credentials ≠ [':']

/-- Whether what follows `//` names a host as its scheme demands. -/
def isAuthority (web : Bool) (text : List Char) : Bool :=
  let ends (c : Char) : Bool := c = '/' || c = '?' || c = '#' || web && c = '\\'
  let authority := text.takeWhile fun c => !ends c
  let (credentials, hostAndPort) := splitCredentials authority
  let (host, port) := splitPort false hostAndPort
  if authority = ['@'] && authority.length < text.length then false
  else if host.isEmpty then !web && port.isNone && !credentials.any areWritten
  else isHost web host && port.all fun port => isPort (port.takeWhile (· ≠ '\\'))

/-! ### Files -/

/-- Whether a text is a letter for a drive. -/
def isDrive : List Char → Bool
  | [letter, mark] => letter.isAlpha && (mark = ':' || mark = '|')
  | _ => false

/-- Whether what follows `file:` names no host, or one that is well formed. -/
def isFile : List Char → Bool
  | first :: second :: rest =>
    if isSlash first && isSlash second then
      let host := rest.takeWhile fun c => !isSlash c && c ≠ '?' && c ≠ '#'
      host.isEmpty || isDrive host || isHost true host
    else true
  | _ => true

def isValid (text : String) : Bool :=
  match scheme? (significant text) with
  | none => false
  | some (scheme, rest) =>
    if webSchemes.contains scheme then isAuthority true (rest.dropWhile isSlash)
    else if scheme = "file" then isFile rest
    else match rest with
      | '/' :: '/' :: authority => isAuthority false authority
      | _ => true

end EventIndexer.Url
