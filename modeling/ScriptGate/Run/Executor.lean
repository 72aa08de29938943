import ScriptGate.Run.Normalized
import ScriptGate.Run.Request
import ScriptGate.Run.Result
import ScriptGate.Screening
import ScriptGate.Validation

/-! # Running scripts

A script passes four gates before a runner sees it: it is not blank, not too long, safe, and in
test mode a single expression. A refused script is reported as a failed result, and so is a
failure of the runner. The reply to an accepted script is normalized. -/

namespace ScriptGate

/-- Why a script is not handed to the runner. -/
inductive Rejection where
  /-- The script is missing or blank. -/
  | blank
  /-- The script is too long. -/
  | tooLong (limit : Nat)
  | insecure (violations : List Violation)
  /-- The script is no single expression. -/
  | unsupported (refusal : Expression.Refusal)
deriving DecidableEq, Repr

def Rejection.message : Rejection → String
  | .blank => blankMessage
  | .tooLong limit => lengthMessage limit
  | .insecure violations =>
    "Security violation: " ++ ", ".intercalate (violations.map (·.message))
  | .unsupported refusal => Expression.unsupportedMessage refusal.message

/-- The cap in test mode when nothing else is set. -/
def defaultMaxResults : Int := 100

/-- What a run needs besides the script. -/
structure Executor where
  /-- The catalog that scripts are screened with. -/
  catalog : Catalog
  /-- The cap in test mode when the options set none. -/
  defaultCap : Int
deriving DecidableEq

/-- A script that may be handed to the runner. -/
structure Prepared where
  request : RunRequest
  /-- The operations that change records, looked for in test mode. -/
  writes : List String
deriving DecidableEq, Repr

/-- Why a script is not handed to the runner, or cannot be. -/
inductive Stop where
  | rejected (rejection : Rejection)
  /-- The cap in test mode is not positive. -/
  | capNotPositive (cap : Int)
deriving DecidableEq, Repr

/-- A run: its result, unless the cap is not positive, the requests it made, and its reports. -/
structure Run where
  /-- The result, or the cap that is not positive. -/
  outcome : Except Expression.WrapError RunResult
  /-- The requests to the runner. -/
  requests : List RunRequest
  log : List LogRecord

/-- A duration in milliseconds. -/
def milliseconds (seconds : Float) : Float := seconds * 1000

namespace Executor

/-- The cap in test mode. -/
def cap (executor : Executor) (options : RunOptions) : Int :=
  (options.maxResults.map (·.val)).getD executor.defaultCap

/-- The word for the mode of a run in reports. -/
def modeName (options : RunOptions) : String := if options.testMode then "test" else "execute"

/-- The request for a script that has passed the other gates. -/
def prepareSafe (executor : Executor) (options : RunOptions) (script : List Char) :
    Except Stop Prepared :=
  let timeout := options.timeout.map (·.val)
  if options.testMode then
    match Expression.wrap script (executor.cap options) with
    | .ok wrapped =>
      .ok ⟨⟨wrapped, timeout⟩, Scan.detectOperations script writeOperations⟩
    | .error (.notExpression refusal) => .error (.rejected (.unsupported refusal))
    | .error (.capNotPositive cap) => .error (.capNotPositive cap)
  else .ok ⟨⟨script, timeout⟩, []⟩

/-- The request for a script, or the first gate that stops it. -/
def prepare (executor : Executor) (options : RunOptions) (script : List Char) :
    Except Stop Prepared :=
  if Text.isBlankText script then .error (.rejected .blank)
  else if executor.catalog.maxLength < script.length then
    .error (.rejected (.tooLong executor.catalog.maxLength))
  else
    let verdict := executor.catalog.screen script
    if verdict.safe then executor.prepareSafe options script
    else .error (.rejected (.insecure verdict.violations))

/-- What the screener reports, when the script gets that far. -/
def screenLog (executor : Executor) (script : List Char) : List LogRecord :=
  if Text.isBlankText script || decide (executor.catalog.maxLength < script.length) then []
  else (executor.catalog.screen script).log

def failed (message : String) (executionTime : Float) : RunResult :=
  ⟨false, .null, some message, none, executionTime, none, none⟩

/-- The message for a failure without text. -/
def unknownFailure : String := "Unknown error occurred"

/-- The message for a failed script without error. -/
def scriptFailure : String := "Script execution failed"

/-- The result for a reply. The runner's own duration goes before the measured one. -/
def resultOf (options : RunOptions) (writes : List String) (elapsed : Float) (reply : Reply) :
    RunResult :=
  let executionTime := reply.executionTime.getD (milliseconds elapsed)
  if reply.success then
    let normalized := normalize options.testMode reply.result
    let warnings := if options.testMode && !writes.isEmpty then [writeWarning writes] else []
    { success := true
      data := normalized.data
      error := none
      logs := some (warnings ++ reply.logs.getD [] ++ normalized.logs)
      executionTime
      truncated := normalized.truncated
      recordCount := normalized.recordCount }
  else
    { failed ((reply.error.map (·.message)).getD scriptFailure) executionTime with
      logs := reply.logs }

/-- The result for what became of a request. -/
def resultOfOutcome (options : RunOptions) (writes : List String) (outcome : Outcome) :
    RunResult :=
  match outcome.reply with
  | .ok reply => resultOf options writes outcome.elapsed reply
  | .error text =>
    failed (if text.isEmpty then unknownFailure else text) (milliseconds outcome.elapsed)

def startRecord (options : RunOptions) (script : List Char) : LogRecord :=
  ⟨.info, .executor,
    s!"Starting GlideQuery {modeName options} (length={script.length}, " ++
      s!"timeout={optionText (options.timeout.map (·.val))})"⟩

/-- The report about a rejected script. -/
def rejectRecord (rejection : Rejection) : LogRecord :=
  ⟨.warning, .executor, s!"Script rejected: {rejection.message}"⟩

/-- The report at the end of a run that reached the runner. -/
def endRecord (options : RunOptions) (outcome : Outcome) (result : RunResult) : LogRecord :=
  match outcome.reply with
  | .error text =>
    ⟨.error, .executor, s!"GlideQuery {modeName options} failed with exception: {text}"⟩
  | .ok _ =>
    if result.success then
      ⟨.info, .executor,
        s!"GlideQuery {modeName options} completed in " ++
          s!"{Number.wholeText result.executionTime}ms " ++
          s!"(records={optionText result.recordCount}, " ++
          s!"truncated={optionText (result.truncated.map boolText)})"⟩
    else
      ⟨.error, .executor,
        s!"GlideQuery {modeName options} completed with error: " ++ result.error.getD ""⟩

/-- The run of a script that may be missing. -/
def execute (executor : Executor) (runner : Runner) (options : RunOptions)
    (given : Option (List Char)) : Run :=
  let script := given.getD []
  let opening := startRecord options script :: executor.screenLog script
  match executor.prepare options script with
  | .error (.rejected rejection) =>
    { outcome := .ok (failed rejection.message (milliseconds 0))
      requests := []
      log := opening ++ [rejectRecord rejection] }
  | .error (.capNotPositive cap) =>
    { outcome := .error (.capNotPositive cap), requests := [], log := opening }
  | .ok prepared =>
    let outcome := runner prepared.request
    let result := resultOfOutcome options prepared.writes outcome
    { outcome := .ok result
      requests := [prepared.request]
      log := opening ++ outcome.log ++ [endRecord options outcome result] }

end Executor

end ScriptGate
