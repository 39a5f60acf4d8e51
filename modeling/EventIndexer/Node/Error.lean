import EventIndexer.Failure

/-! The failures of a remote call, and what they mean to the engine. -/

namespace EventIndexer

inductive CallError
  /-- The node answered with an error, which may hold the JSON text of more data. -/
  | response (code : Int) (message : String) (data : Option String)
  /-- The node answered nothing where something is due. -/
  | nullResponse
  /-- The task that talks to the node is gone. -/
  | gone
  /-- The node answered with a status other than success. -/
  | http (status : Nat) (body : String)
  | unreadable
  /-- The call was wrong before it was sent. -/
  | usage (message : String)
  | custom (message : String)
  deriving Repr

/-- The phrases by which providers refuse a range of blocks. -/
def rangePhrases : List String :=
  ["block range", "more than", "range is too", "range too", "limit exceeded"]

/-- Whether some text occurs within another. -/
def occurs (phrase : List Char) : List Char → Bool
  | [] => phrase.isEmpty
  | c :: rest => phrase.isPrefixOf (c :: rest) || occurs phrase rest

/-- Whether a message refuses a range of blocks; only the case of ASCII letters is ignored. -/
def refusesRange (message : String) : Bool :=
  rangePhrases.any fun phrase => occurs phrase.toList (message.toList.map Char.toLower)

namespace CallError

def text : CallError → String
  | response code message data =>
    let details := match data with
      | none => ""
      | some text => ", data: " ++ text
    "server returned an error response: error code " ++ toString code ++ ": " ++ message ++ details
  | nullResponse => "server returned a null response when a non-null response was expected"
  | gone => "backend connection task has stopped"
  | http status body =>
    let rest := if body = "" then "empty body" else "body: " ++ body
    "HTTP error " ++ toString status ++ " with " ++ rest
  | unreadable => "deserialization error"
  | usage message => "local usage error: " ++ message
  | custom message => message

def cause (error : CallError) : Cause := .network error.text

/-- The meaning of a failed query over a range: an answer may refuse the range. -/
def rangedCause (error : CallError) (first last : Nat) : Cause :=
  match error with
  | response _ message _ =>
    if refusesRange message then .rangeTooLarge first last message else error.cause
  | _ => error.cause

def streamCause (error : CallError) : Cause := .subscription error.text

end CallError

end EventIndexer
