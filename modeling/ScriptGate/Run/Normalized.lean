import ScriptGate.Expression.Wrapper
import ScriptGate.Json.Display

/-! # Normalized results

Scripts may return anything. A raw result is brought into one of a few shapes: an envelope of test
mode is opened, an array is capped, a wrapped value is unwrapped, a bare number, text or truth
value is labelled with its type, and a count of rows becomes the record count. -/

namespace ScriptGate

/-- A normalized result. -/
structure Normalized where
  data : Json
  /-- What to tell the caller, after what the runner has logged. -/
  logs : List String
  /-- Whether records were dropped, for a set of records. -/
  truncated : Option Bool
  /-- The number of records, when known. -/
  recordCount : Option Int

/-- The most records of an array outside test mode. -/
def maxRecords : Nat := 1000

def noRecordsMessage : String := "No records found - query returned empty result"

/-- The message about dropped records. -/
def truncationMessage (shown : Nat) (total : Json) : String :=
  s!"Results truncated: showing {shown} of {total.display} records"

namespace Normalized

/-- A value about which nothing more is known. -/
def plain (data : Json) : Normalized := ⟨data, [], none, none⟩

/-- The shape of an array of records. -/
def ofRecords (records : List Json) : Normalized :=
  if maxRecords < records.length then
    { data := .arr (records.take maxRecords)
      logs := [truncationMessage maxRecords (.int records.length)]
      truncated := some true
      recordCount := some maxRecords }
  else
    { data := .arr records
      logs := []
      truncated := some false
      recordCount := some records.length }

/-- The number of items of an array; nothing for any other value. -/
def itemCount? : Json → Option Nat
  | .arr items => some items.length
  | _ => none

def ofEnvelope (envelope : Json) : Normalized :=
  let data := envelope.memberOrNull Expression.dataTag
  let truncated := (envelope.memberOrNull Expression.truncatedTag).truthy
  let total := envelope.memberOrNull Expression.originalCountTag
  { data
    logs :=
      if truncated && total.truthy then [truncationMessage ((itemCount? data).getD 0) total]
      else []
    truncated := some truncated
    recordCount := (itemCount? data).map fun (count : Nat) => (count : Int) }

/-- A bare value with the name of its type. -/
def labelled (value : Json) (type : String) : Normalized :=
  plain (.obj [("value", value), ("type", .str type)])

/-- The shape of an object that is no envelope. -/
def ofObject (object : Json) : Normalized :=
  match object.member? "value", object.member? "rowCount" with
  | some value, _ => plain value
  | none, some (.int count) => { plain object with recordCount := some count }
  | none, _ => plain object

end Normalized

/-- The shape of a raw result. Envelopes are recognized in test mode only. -/
def normalize (testMode : Bool) : Json → Normalized
  | .null => { Normalized.plain .null with logs := [noRecordsMessage] }
  | .bool value => Normalized.labelled (.bool value) "boolean"
  | .int value => Normalized.labelled (.int value) "number"
  | .float value => Normalized.labelled (.float value) "number"
  | .str value => Normalized.labelled (.str value) "string"
  | .arr items => Normalized.ofRecords items
  | .obj members =>
    if testMode && ((Json.obj members).memberOrNull Expression.testModeTag).truthy then
      Normalized.ofEnvelope (.obj members)
    else Normalized.ofObject (.obj members)

end ScriptGate
