import ScriptGate.Field
import ScriptGate.Log

/-! # Options, requests and replies

What a caller asks of a run, what a run asks of a runner, and what the runner replies. -/

namespace ScriptGate

/-- A time limit in milliseconds, which is positive. -/
abbrev TimeLimit := { limit : Int // 0 < limit }

/-- A cap on records, which lies between one and a thousand. -/
abbrev RecordCap := { cap : Int // 1 ≤ cap ∧ cap ≤ 1000 }

/-- The time limit that a number stands for. -/
def TimeLimit.ofInt (limit : Int) : Except FieldProblem TimeLimit :=
  if positive : 0 < limit then .ok ⟨limit, positive⟩ else .error (.notGreater 0)

/-- The cap that a number stands for. -/
def RecordCap.ofInt (cap : Int) : Except FieldProblem RecordCap :=
  if low : cap < 1 then .error (.tooSmall 1)
  else if high : 1000 < cap then .error (.tooLarge 1000)
  else .ok ⟨cap, by omega⟩

structure RunOptions where
  /-- The time limit, if the caller sets one. -/
  timeout : Option TimeLimit
  /-- Whether to cap the records and to warn about changes. -/
  testMode : Bool
  /-- The cap on records, if the caller sets one. -/
  maxResults : Option RecordCap
deriving DecidableEq

/-- The options of a caller who sets none. -/
def RunOptions.standard : RunOptions := ⟨none, false, none⟩

/-- The options in the members of an object. Other members are ignored. -/
def RunOptions.ofJson (value : Json) : Except InvalidRecord RunOptions :=
  let timeout := checkWhole? "timeout" TimeLimit.ofInt (value.memberOrNull "timeout")
  let testMode := checkTruth "test_mode" ((value.member? "test_mode").getD (.bool false))
  let maxResults := checkWhole? "max_results" RecordCap.ofInt (value.memberOrNull "max_results")
  (timeout.both (testMode.both maxResults)).toRecord .options
    fun (timeout, testMode, maxResults) => ⟨timeout, testMode, maxResults⟩

/-- What a run asks of a runner. -/
structure RunRequest where
  script : List Char
  /-- The time limit in milliseconds, if any. -/
  timeout : Option Int
deriving DecidableEq, Repr

/-- The request in the members of an object. -/
def RunRequest.ofJson (value : Json) : Except InvalidRecord RunRequest :=
  let script := checkText "script" (value.memberOrNull "script")
  let timeout := checkWhole? "timeout" .ok (value.memberOrNull "timeout")
  (script.both timeout).toRecord .request fun (script, timeout) => ⟨script.toList, timeout⟩

/-- The error in the reply of a runner. -/
structure RemoteFault where
  message : String
  /-- The line of the script, if known. -/
  line : Option Int
  /-- The kind of the error, if known. -/
  type : Option String
deriving DecidableEq, Repr

/-- The reply of a runner. -/
structure Reply where
  /-- Whether the script ran to its end. -/
  success : Bool
  result : Json
  /-- What the script logged, if known. -/
  logs : Option (List String)
  /-- What went wrong, if anything. -/
  error : Option RemoteFault
  /-- The duration in milliseconds, if the runner measures it. -/
  executionTime : Option Float

/-- What became of a request: a reply or the text of a failure, after some seconds. -/
structure Outcome where
  /-- The reply, or the text of the failure. -/
  reply : Except String Reply
  /-- The seconds that passed. -/
  elapsed : Float
  log : List LogRecord

/-- Anything that answers requests. -/
abbrev Runner := RunRequest → Outcome

end ScriptGate
