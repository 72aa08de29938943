import ScriptGate.Json.Basic
import ScriptGate.Remote.Credentials

/-! # Transport

A transport carries a request to an instance. After some seconds there is a response, or a failure;
failures that come from a time limit are told apart from all others. -/

namespace ScriptGate.Remote

/-- A request to an instance. It posts the script in a JSON body. -/
structure HttpRequest where
  url : String
  script : List Char
  /-- The time limit in seconds. -/
  timeout : Float
  /-- The kind of content that is wished for. -/
  accept : String
  credentials : Option Credentials

def HttpRequest.body (request : HttpRequest) : Json :=
  .obj [("script", .str (String.ofList request.script))]

structure HttpResponse where
  status : Nat
  /-- The text of the body. -/
  body : List Char
deriving DecidableEq, Repr

/-- Why there is no response. -/
inductive FailureKind where
  /-- The response was not read in time. -/
  | readTimeout
  /-- The instance could not be reached in time. -/
  | connectTimeout
  /-- The request was not sent in time. -/
  | writeTimeout
  /-- No connection became free in time. -/
  | poolTimeout
  /-- Anything else, with its name. -/
  | other (name : String)
deriving DecidableEq, Repr

namespace FailureKind

/-- The kinds of failure that come from a time limit. -/
def timeouts : List (String × FailureKind) :=
  [("ReadTimeout", .readTimeout), ("ConnectTimeout", .connectTimeout),
   ("WriteTimeout", .writeTimeout), ("PoolTimeout", .poolTimeout)]

def ofName (name : String) : FailureKind := (timeouts.lookup name).getD (.other name)

/-- The name of a failure that does not come from a time limit. -/
def otherName? : FailureKind → Option String
  | .other name => some name
  | _ => none

end FailureKind

structure TransportFailure where
  /-- Why there is no response. -/
  kind : FailureKind
  /-- The text of the failure. -/
  message : String
deriving DecidableEq, Repr

/-- What became of a request: a response or a failure, after some seconds. -/
structure TransportOutcome where
  response : Except TransportFailure HttpResponse
  /-- The seconds that passed. -/
  elapsed : Float

/-- Anything that carries requests. -/
abbrev Transport := HttpRequest → TransportOutcome

end ScriptGate.Remote
