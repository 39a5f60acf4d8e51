import EventIndexer.Node.Client
import EventIndexer.Simulation.Play

/-! A node that answers each method from a script, and an engine run over it.  The answers to a
method are given in their order, the last one again and again. -/

namespace EventIndexer.Simulation

inductive Response
  | result (value : Json)
  | error (value : Json)
  | http (status : Nat) (body : String)
  | raw (body : String)
  deriving Repr

/-- An answer that says that a call went well, or how it failed. -/
def envelope (name : String) (value : Json) : Node.Answer :=
  { body := (Json.object
      [("jsonrpc", .string "2.0"), ("id", .integer 0), (name, value)]).compact }

/-- Whether an answer of a status has a body. -/
def hasBody (status : Nat) : Bool := status ≠ 204 && status ≠ 304

/-- What a response looks like over HTTP. -/
def Response.answer : Response → Node.Answer
  | result value => envelope "result" value
  | error value => envelope "error" value
  | http status body => { status, body := if hasBody status then body else "" }
  | raw body => { body }

def unknownMethod : Response :=
  .error (.object [("code", .integer (-32601)), ("message", .string "method not found")])

structure Server where
  responses : List (String × List Response) := []
  calls : List Node.Call := []
  /-- Logs that came to a filter and are not taken yet. -/
  heard : List Log := []
  filter : Nat := 0
  /-- How often the head may be asked for. -/
  heads : Option Nat := none

namespace Server

def asked (server : Server) (method : String) : Nat := server.calls.countP (·.method == method)

/-- The answer to a method that was asked for so many times before. -/
def answerTo (server : Server) (method : String) (times : Nat) : Node.Answer :=
  let responses := (server.responses.lookup method).getD []
  ((responses[min times (responses.length - 1)]?).getD unknownMethod).answer

def call (server : Server) (call : Node.Call) : Node.Answer × Server :=
  (server.answerTo call.method (server.asked call.method),
    { server with calls := server.calls ++ [call] })

/-- Asks for the head until it comes, the deadline passes, or it was asked for often enough. -/
def head (server : Server) (deadline interval : Nat) : Except Failure Nat × Server :=
  let before := server.asked Node.headCall.method
  let cancelAt := server.heads.map fun heads => (heads - before - 1) * max interval 1 + 1
  let attempt (i : Nat) : Attempt Nat :=
    { after := 0
      ending := some (Node.readHead (server.answerTo Node.headCall.method (before + i))) }
  match Retry.run deadline (max interval 1) attempt cancelAt (deadline + 2) with
  | none => (.error unscripted, server)
  | some outcome =>
    (outcome.result,
      { server with calls := server.calls ++ List.replicate outcome.calls Node.headCall })

def openStream (server : Server) (filter : StreamFilter) : Except Failure Unit × Server :=
  let (answer, server) := server.call (Node.streamCall filter)
  match Node.readFilter answer with
  | .ok number => (.ok (), { server with filter := number, heard := [] })
  | .error failure => (.error failure, server)

/-- The number of answers to the question what has come to a filter. -/
def changes (server : Server) : Nat :=
  ((server.responses.lookup (Node.changesCall 0).method).getD []).length

/-- How often a filter is asked without anything coming to it. -/
def patience (server : Server) : Nat := server.changes + 1

/-- Whether the head was asked for as often as it may be. -/
def headSpent (server : Server) : Bool :=
  server.heads.any (· ≤ server.asked Node.headCall.method)

/-- Whether the answers of the filter only repeat themselves, and the run may end. -/
def streamSpent (server : Server) : Bool :=
  server.headSpent && server.heard.isEmpty &&
    server.changes ≤ server.asked (Node.changesCall 0).method

/-- The next log of the stream, or none at its end; asks the filter at most `limit` times, and says
nothing if nothing has come by then. -/
def nextLog : (limit : Nat) → Server → Option (Option Log) × Server
  | limit, server =>
    match server.heard, limit with
    | log :: rest, _ => (some (some log), { server with heard := rest })
    | [], 0 => (none, server)
    | [], limit + 1 =>
      let (answer, server) := server.call (Node.changesCall server.filter)
      match Node.readChanges answer with
      | none => (some none, server)
      | some logs => nextLog limit { server with heard := logs }

/-- At most so many logs of the stream, and whether it has ended. -/
def listen : (take : Nat) → Server → List Log × Bool × Server
  | 0, server => ([], false, server)
  | take + 1, server =>
    match nextLog server.patience server with
    | (some (some log), server) =>
      let (logs, ended, server) := listen take server
      (log :: logs, ended, server)
    | (some none, server) => ([], true, server)
    | (none, server) => ([], false, server)

def answer : (request : Request) → Server → request.Reply × Server
  | .hasCode address, server =>
    let (answer, server) := server.call (Node.codeCall address)
    (Node.readCode answer, server)
  | .head deadline interval, server => server.head deadline interval
  | .chunk filter, server =>
    let (answer, server) := server.call (Node.chunkCall filter)
    (Node.readChunk filter answer, server)
  | .openStream filter, server => server.openStream filter
  | .nextLog, server =>
    let (heard, server) := nextLog server.patience server
    (.ok (heard.getD none), server)
  | .pause _, server => (.ok (), server)
  | .lock, server => (.ok (), server)
  | .unlock, server => (.ok (), server)
  | .readCursor _, server => (.error unscripted, server)
  | .writeCursor .., server => (.error unscripted, server)
  | .storeOne _, server => (.error unscripted, server)
  | .storeBatch _, server => (.error unscripted, server)

/-- Whether a request is answered: not the next head once it was asked for often enough, and not the
next log if none is to come. -/
def answersAtOnce : Request → Server → Bool
  | .head .., server => !server.headSpent
  | .nextLog, server => !server.streamSpent && (nextLog server.patience server).1.isSome
  | _, _ => true

end Server

instance : Source Server where
  answer := Server.answer
  answersAtOnce := Server.answersAtOnce

/-- The engine over a node, interrupted when nothing is left to do or the head was asked for often
enough. -/
def runOverNode (settings : Settings) (database : Database) (server : Server) :
    Except Failure Unit × Database × Server :=
  match settings.check.run Server.answer server with
  | (.error failure, server) => (.error failure, database, server)
  | (.ok (), server) =>
    let play : Play Server := { engine := Engine.start settings database, source := server }
    let play := play.settle.cancel
    (play.result?.getD (.error unscripted), play.engine.database, play.source)

end EventIndexer.Simulation
