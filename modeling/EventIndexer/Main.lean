import EventIndexer.CommandLine.Command
import EventIndexer.Simulation.Server
import EventIndexer.Store.Location

/-! The program.  Its database is in memory and lasts as long as a run, so no file can be opened.
The engine runs over a recorded node: each line of standard input holds a method, a blank and the
body of an answer, and the answers to a method are given in their order. -/

namespace EventIndexer

open Simulation

def openInMemory (url : String) : Except Failure Database := do
  Location.openAt (fun _ => .unreachable) url
  return {}

def addResponse (method : String) (response : Response) :
    List (String × List Response) → List (String × List Response)
  | [] => [(method, [response])]
  | entry :: rest =>
    if entry.1 = method then (method, entry.2 ++ [response]) :: rest
    else entry :: addResponse method response rest

/-- The node that a recording describes. -/
def recordedNode (lines : List String) : Server :=
  { responses := lines.foldl (fun responses line =>
      let (method, body) := Split.first ' ' line.trimAscii.toString.toList
      match body with
      | none => responses
      | some body =>
        addResponse (String.ofList method) (.raw (String.ofList body)) responses) [] }

/-- Runs the engine over a recording; the cursors at the end are shown as a query shows them. -/
def CommandLine.EngineCommand.replay (command : CommandLine.EngineCommand)
    (lines : List String) : Except Failure String := do
  CommandLine.checkSigner command.signer
  let database ← openInMemory command.databaseUrl
  let (result, database, _) := runOverNode command.settings database (recordedNode lines)
  result
  Query.output database "" { databaseUrl := command.databaseUrl, entity := .cursor }

/-- Prints what a command has to show, or why it failed. -/
def report : Except Failure String → IO UInt32
  | .ok text => do
    IO.print text
    return 0
  | .error failure => do
    IO.eprintln ("Error: " ++ failure.line)
    return 1

partial def readLines (input : IO.FS.Stream) (lines : Array String) :
    IO (List String) := do
  let line ← input.getLine
  if line.isEmpty then return lines.toList else readLines input (lines.push line)

end EventIndexer

open EventIndexer in
def main (arguments : List String) : IO UInt32 := do
  let environment ← CommandLine.variableNames.filterMapM fun name => do
    return (← IO.getEnv name).map fun value => (name, value)
  match CommandLine.parse arguments (fun name => environment.lookup name) with
  | .error .help =>
    IO.println CommandLine.Refusal.help.text
    return 0
  | .error refusal =>
    IO.eprintln ("error: " ++ refusal.text)
    return 2
  | .ok (.select query) =>
    report (do query.output (← openInMemory query.databaseUrl) "")
  | .ok (.engine command) => report (command.replay (← readLines (← IO.getStdin) #[]))
