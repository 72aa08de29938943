import ScriptGate.Json.Display
import ScriptGate.Settings.Instance
import ScriptGate.Settings.Pipeline

/-! # Reports about mistaken settings

A report names every faulty setting with the reason and the given value. A long value is shown by
its start and its end. -/

namespace ScriptGate.Settings

/-- The longest start of a text that fits into a number of bytes. -/
def takeBytes : (room : Nat) → List Char → List Char
  | _, [] => []
  | room, char :: text =>
    if char.utf8Size ≤ room then char :: takeBytes (room - char.utf8Size) text else []

/-- The most bytes of a value that is shown whole. -/
def maxShownBytes : Nat := 50

/-- A value as it is shown in a report. -/
def shorten (value : String) : String :=
  if value.utf8ByteSize ≤ maxShownBytes then value
  else
    String.ofList (takeBytes 25 value.toList ++ ['.', '.', '.'] ++
      (takeBytes 24 value.toList.reverse).reverse)

/-- The given settings of those with the given names, as one value. -/
def Source.given (source : Source) (names : List SettingName) : Json :=
  .obj (names.filterMap fun name => (source.value? name).map fun value => (name.keyword, value))

/-- The part of a report about a step of the path to a value. -/
def pathText : PathStep → String
  | .field name => name
  | .item index => toString index

/-- The part of a report about a fault. Where a setting is missing, all the given ones are shown. -/
def faultReport (source : Source) (names : List SettingName) (fault : FieldFault) : String :=
  let named := names.find? fun name => fault.path = [.field name.keyword]
  let (input, type) :=
    match fault.problem, named.bind source.value? with
    | .missing, _ | _, none => (source.given names, "dict")
    | _, some value => (value, "str")
  "\n" ++ ".".intercalate (fault.path.map pathText) ++ "\n  " ++ fault.problem.message ++
    s!" [type={fault.problem.code}, input_value={shorten input.displayNested}, input_type={type}]"

def namesOf : RecordKind → List SettingName
  | .instanceSettings => Instance.names
  | _ => Pipeline.names

/-- The report about mistaken settings. -/
def SettingsError.report (source : Source) : SettingsError → String
  | .number error => error.message
  | .invalid record =>
    record.message ++ String.join (record.faults.map (faultReport source (namesOf record.kind)))

end ScriptGate.Settings
