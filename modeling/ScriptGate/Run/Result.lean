import ScriptGate.Json.Basic

/-! # Results of runs

What a caller learns from a run, and its form as JSON, with or without the fields that say
nothing. -/

namespace ScriptGate

structure RunResult where
  /-- Whether the script ran to its end. -/
  success : Bool
  data : Json
  /-- What went wrong, if anything. -/
  error : Option String
  /-- What to tell the caller, if anything is known. -/
  logs : Option (List String)
  /-- The duration in milliseconds. -/
  executionTime : Float
  /-- Whether records were dropped, for a set of records. -/
  truncated : Option Bool
  /-- The number of records, when known. -/
  recordCount : Option Int

namespace RunResult

def members (result : RunResult) : List (String × Json) :=
  [("success", .bool result.success),
   ("data", result.data),
   ("error", Json.ofOption .str result.error),
   ("logs", Json.ofOption .ofStrings result.logs),
   ("execution_time", .float result.executionTime),
   ("truncated", Json.ofOption .bool result.truncated),
   ("record_count", Json.ofOption .int result.recordCount)]

def toJson (result : RunResult) : Json := .obj result.members

/-- The JSON form without the fields that are `null`. -/
def toCompactJson (result : RunResult) : Json := .obj (Json.withoutNulls result.members)

end RunResult

end ScriptGate
