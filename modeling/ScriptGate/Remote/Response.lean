import ScriptGate.Run.Request

/-! # Response bodies

The body of a response is the value that the script returned, unless it is an object with a
result. A result that is an object tells success or failure, and carries the value, the log and
the error. -/

namespace ScriptGate.Remote

/-- The message for a failed script without error. -/
def scriptFailure : String := "Script execution failed"

def unnamedError : String := "Error"

/-- Whether a result reports a failure: it says so, or it has an error. -/
def isFailure (result : Json) : Bool :=
  (match result.memberOrNull "success" with
    | .bool false => true
    | _ => false) || (result.memberOrNull "error").truthy

/-- The error of a result as an object: a text is the message of one, and anything else is empty. -/
def errorObject (result : Json) : Json :=
  match result.memberOrNull "error" with
  | .obj members => .obj members
  | .str text => .obj [("message", .str text)]
  | _ => .obj []

def failureMessage (result : Json) : Json :=
  ((errorObject result).memberOrNull "message").orElse
    ((result.memberOrNull "errorMessage").orElse (.str scriptFailure))

def failureLine (result : Json) : Json :=
  ((errorObject result).memberOrNull "line").orElse (result.memberOrNull "errorLine")

def failureType (result : Json) : Json :=
  ((errorObject result).memberOrNull "type").orElse
    ((result.memberOrNull "errorType").orElse (.str unnamedError))

/-- The error of a failed result. -/
def faultOf (result : Json) : Except InvalidRecord RemoteFault :=
  let message := checkText "message" (failureMessage result)
  let line := checkWhole? "line" .ok (failureLine result)
  let type := checkText? "type" (failureType result)
  (message.both (line.both type)).toRecord .remoteFault
    fun (message, line, type) => ⟨message, line, type⟩

/-- The log of a result, empty when there is none. -/
def logsOf (result : Json) : Except InvalidRecord (List String) :=
  (checkTexts "logs" ((result.memberOrNull "logs").orElse (.arr []))).toRecord .reply id

def replyOfResult (result : Json) (executionTime : Float) : Except InvalidRecord Reply := do
  if isFailure result then
    let fault ← faultOf result
    let logs ← logsOf result
    return ⟨false, .null, some logs, some fault, some executionTime⟩
  else
    let logs ← logsOf result
    return ⟨true, (result.member? "value").getD result, some logs, none, some executionTime⟩

def replyOfBody (body : Json) (executionTime : Float) : Except InvalidRecord Reply :=
  match body.member? "result" with
  | some (.obj members) => replyOfResult (.obj members) executionTime
  | some value => .ok ⟨true, value, none, none, some executionTime⟩
  | none => .ok ⟨true, body, none, none, some executionTime⟩

end ScriptGate.Remote
