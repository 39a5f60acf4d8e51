import EventIndexer.Split

/-! Command lines of options.  Arguments are read from left to right; an option takes its value from
the same argument or from the next one, and a value is checked as soon as the next option begins.
What the command line leaves out is taken from the environment. -/

namespace EventIndexer.CommandLine

/-- Why a command line is not accepted, or what it asks for instead of a run. -/
inductive Refusal
  | missingRequiredArgument
  /-- A value is missing, or outside a fixed list. -/
  | invalidValue
  | valueValidation
  | unknownArgument
  | invalidSubcommand
  | argumentConflict
  | tooManyValues
  | help
  | nothingGiven
  deriving DecidableEq, Repr

def Refusal.text : Refusal → String
  | missingRequiredArgument => "a required option is missing"
  | invalidValue => "a value is missing or not one of those that are allowed"
  | valueValidation => "a value cannot be read"
  | unknownArgument => "an argument is not expected"
  | invalidSubcommand => "there is no such command"
  | argumentConflict => "an option is given twice"
  | tooManyValues => "a flag takes no value"
  | help | nothingGiven => "usage: <engine|select> [options]"

/-- How values of an option are checked. -/
inductive Value
  | word (words : List String)
  /-- Whatever can be read. -/
  | text (isReadable : String → Bool)

/-- Whether an option takes values. -/
inductive Arity
  /-- It is given or not, at most once. -/
  | flag
  /-- It has one value, at most once. -/
  | single
  /-- It has values between commas, any number of times. -/
  | many
  deriving DecidableEq, Repr

structure OptionSpec where
  name : String
  short : Option Char := none
  /-- The variable of the environment that stands in for it. -/
  envVar : Option String := none
  arity : Arity := .single
  value : Value
  required : Bool := false

abbrev Given := List (String × List String)

/-- Why a value is refused, if it is. -/
def Value.refusal (value : Value) (text : String) : Option Refusal :=
  match value with
  | word words => if words.contains text then none else some .invalidValue
  | Value.text isReadable => if isReadable text then none else some .valueValidation

/-- Adds what an option was given, once it is complete. -/
def accept (given : Given) (spec : OptionSpec) (value : Option String) : Except Refusal Given :=
  let present := given.any (·.1 == spec.name)
  match spec.arity, value with
  | .flag, _ =>
    if present then .error .argumentConflict
    else
      let text := value.getD "true"
      match spec.value.refusal text with
      | some refusal => .error refusal
      | none => .ok (given ++ [(spec.name, [text])])
  | _, none => .error .invalidValue
  | .single, some text =>
    if present then .error .argumentConflict
    else match spec.value.refusal text with
      | some refusal => .error refusal
      | none => .ok (given ++ [(spec.name, [text])])
  | .many, some text =>
    let texts := (Split.all ',' text.toList).map String.ofList
    match texts.findSome? spec.value.refusal with
    | some refusal => .error refusal
    | none => .ok (given ++ [(spec.name, texts)])

structure Reading where
  given : Given := []
  /-- An option that is not checked yet, with its value if it has one. -/
  pending : Option (OptionSpec × Option String) := none

def Reading.settle (reading : Reading) : Except Refusal Given :=
  match reading.pending with
  | none => .ok reading.given
  | some (spec, value) => accept reading.given spec value

/-- Reads an option with the value in its own argument, if there is one there. -/
def Reading.option (reading : Reading) (spec : OptionSpec) (attached : Option String) :
    Except Refusal Reading := do
  if spec.arity = .flag then
    match attached with
    | some _ => .error .tooManyValues
    | none => return { given := ← accept (← reading.settle) spec none }
  else
    let given ← reading.settle
    match attached with
    | some text => return { given := ← accept given spec (some text) }
    | none => return { given, pending := some (spec, none) }

def Reading.help (reading : Reading) : Except Refusal Reading := do
  let _ ← reading.settle
  .error .help

def Reading.argument (specs : List OptionSpec) (reading : Reading) (text : String) :
    Except Refusal Reading :=
  match text.toList with
  | '-' :: '-' :: rest =>
    let (name, value) := Split.first '=' rest
    match specs.find? (·.name == String.ofList name) with
    | some spec => reading.option spec (value.map String.ofList)
    | none =>
      if name = "help".toList then
        if value.isSome then .error .tooManyValues else reading.help
      else .error .unknownArgument
  | '-' :: c :: rest =>
    match specs.find? (·.short == some c) with
    | some spec =>
      let attached := match rest with
        | [] => none
        | '=' :: value => some (String.ofList value)
        | value => some (String.ofList value)
      reading.option spec attached
    | none => if c = 'h' then reading.help else .error .unknownArgument
  | _ =>
    match reading.pending with
    | some (spec, none) => .ok { reading with pending := some (spec, some text) }
    | _ => .error .unknownArgument

/-- Reads arguments to the end.  After `--` no option and no value is expected. -/
def Reading.arguments (specs : List OptionSpec) (reading : Reading) :
    List String → Except Refusal Given
  | [] => reading.settle
  | "--" :: rest => if rest.isEmpty then reading.settle else .error .unknownArgument
  | text :: rest => do (← reading.argument specs text).arguments specs rest

/-- Takes from the environment what the command line left out. -/
def fromEnvironment (environment : String → Option String) :
    List OptionSpec → Given → Except Refusal Given
  | [], given => .ok given
  | spec :: rest, given => do
    let value := if given.any (·.1 == spec.name) then none else spec.envVar.bind environment
    match value with
    | none => fromEnvironment environment rest given
    | some text => fromEnvironment environment rest (← accept given spec (some text))

def Given.values (given : Given) (name : String) : List String :=
  (given.filter (·.1 == name)).flatMap (·.2)

def Given.value? (given : Given) (name : String) : Option String := (given.values name).head?

def readOptions (specs : List OptionSpec) (environment : String → Option String)
    (arguments : List String) : Except Refusal Given := do
  let given ← Reading.arguments specs {} arguments
  let given ← fromEnvironment environment specs given
  if specs.any fun spec => spec.required && (given.value? spec.name).isNone then
    .error .missingRequiredArgument
  else return given

end EventIndexer.CommandLine
