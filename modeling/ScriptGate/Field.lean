import ScriptGate.Json.Basic
import ScriptGate.Number.Binary
import ScriptGate.Number.Literal
import ScriptGate.Text.Case

/-! # Fields of a record

Values that come from outside are checked field by field. Every fault is collected, with the path
to the field and the reason. A field of whole numbers also takes truth values, floats without a
fraction and text in the plain spelling of whole numbers; a truth value may be written as a
number or a word; a field of text takes text only. -/

namespace ScriptGate

/-- What is wrong with the value of a field. -/
inductive FieldProblem where
  | missing
  /-- The record has no such field. -/
  | extra
  /-- The text is no whole number. -/
  | notWholeText
  /-- The number is too large to be taken for a whole number. -/
  | wholeTooLarge
  /-- The number is an infinity, or no number. -/
  | notFinite
  /-- The number has a fraction. -/
  | notWhole
  /-- The value is no whole number. -/
  | notWholeType
  /-- The number is not greater than a bound. -/
  | notGreater (bound : Int)
  /-- The number is less than a bound. -/
  | tooSmall (bound : Int)
  /-- The number is greater than a bound. -/
  | tooLarge (bound : Int)
  /-- The text or number is no truth value. -/
  | notTruth
  /-- The value is no truth value. -/
  | notTruthType
  /-- The value is no text. -/
  | notText
  /-- The value is no list. -/
  | notList
  /-- The value breaks a rule of the field. -/
  | rejected (reason : String)
deriving DecidableEq, Repr

/-- The short name of a problem. -/
def FieldProblem.code : FieldProblem → String
  | .missing => "missing"
  | .extra => "extra_forbidden"
  | .notWholeText => "int_parsing"
  | .wholeTooLarge => "int_parsing_size"
  | .notFinite => "finite_number"
  | .notWhole => "int_from_float"
  | .notWholeType => "int_type"
  | .notGreater _ => "greater_than"
  | .tooSmall _ => "greater_than_equal"
  | .tooLarge _ => "less_than_equal"
  | .notTruth => "bool_parsing"
  | .notTruthType => "bool_type"
  | .notText => "string_type"
  | .notList => "list_type"
  | .rejected _ => "value_error"

def FieldProblem.message : FieldProblem → String
  | .missing => "Field required"
  | .extra => "Extra inputs are not permitted"
  | .notWholeText => "Input should be a valid integer, unable to parse string as an integer"
  | .wholeTooLarge =>
    "Unable to parse input string as an integer, exceeded maximum size"
  | .notFinite => "Input should be a finite number"
  | .notWhole => "Input should be a valid integer, got a number with a fractional part"
  | .notWholeType => "Input should be a valid integer"
  | .notGreater bound => s!"Input should be greater than {bound}"
  | .tooSmall bound => s!"Input should be greater than or equal to {bound}"
  | .tooLarge bound => s!"Input should be less than or equal to {bound}"
  | .notTruth => "Input should be a valid boolean, unable to interpret input"
  | .notTruthType => "Input should be a valid boolean"
  | .notText => "Input should be a valid string"
  | .notList => "Input should be a valid list"
  | .rejected reason => "Value error, " ++ reason

/-- A step of the path to a value. -/
inductive PathStep where
  /-- The field of a record. -/
  | field (name : String)
  /-- The item of a list. -/
  | item (index : Nat)
deriving DecidableEq, Repr

/-- A problem and the path to the value that has it. -/
structure FieldFault where
  path : List PathStep
  problem : FieldProblem
deriving DecidableEq, Repr

/-- The records whose fields are checked. -/
inductive RecordKind where
  /-- The options of a run. -/
  | options
  /-- The request to a runner. -/
  | request
  /-- The error in the reply of a runner. -/
  | remoteFault
  /-- The reply of a runner. -/
  | reply
  | pipelineSettings
  | instanceSettings
deriving DecidableEq, Repr

def RecordKind.name : RecordKind → String
  | .options => "ExecutionOptions"
  | .request => "ScriptExecutionRequest"
  | .remoteFault => "ScriptError"
  | .reply => "ScriptExecutionResult"
  | .pipelineSettings => "GlideQuerySettings"
  | .instanceSettings => "ServiceNowSettings"

/-- The faults of a record, of which there is at least one. -/
structure InvalidRecord where
  kind : RecordKind
  faults : List FieldFault
deriving DecidableEq, Repr

def InvalidRecord.message (invalid : InvalidRecord) : String :=
  let count := invalid.faults.length
  let noun := if count = 1 then "error" else "errors"
  s!"{count} validation {noun} for {invalid.kind.name}"

/-- The outcome of checking a field: a value, or its faults. -/
abbrev Checked := Except (List FieldFault)

namespace Checked

def refuse {α : Type} (name : String) (problem : FieldProblem) : Checked α :=
  .error [⟨[.field name], problem⟩]

def faults {α : Type} : Checked α → List FieldFault
  | .ok _ => []
  | .error faults => faults

/-- Two values, or the faults of both. -/
def both {α β : Type} : Checked α → Checked β → Checked (α × β)
  | .ok first, .ok second => .ok (first, second)
  | first, second => .error (first.faults ++ second.faults)

/-- The record that is made of the values, or its faults. -/
def toRecord {α β : Type} (kind : RecordKind) (make : α → β) :
    Checked α → Except InvalidRecord β
  | .ok value => .ok (make value)
  | .error faults => .error ⟨kind, faults⟩

end Checked

/-- The first magnitude that is too large for a signed word of 64 bits. Floats from it on are not
taken for whole numbers, and whole numbers from it on are not taken for truth values. -/
def wordLimit : Nat := Nat.pow 2 63

/-- The whole number that a float stands for. -/
def wholeOfFloat (value : Float) : Except FieldProblem Int :=
  match Number.Binary.ofFloat? value with
  | none => .error .notFinite
  | some number =>
    if !number.isWhole then .error .notWhole
    else if wordLimit ≤ number.truncate.natAbs then .error .wholeTooLarge
    else .ok number.truncate

/-- The whole number that a text writes. -/
def wholeOfText (text : List Char) : Except FieldProblem Int :=
  match Number.readPlainWhole text with
  | .ok value => .ok value
  | .error .malformed => .error .notWholeText
  | .error .tooLong => .error .wholeTooLarge

/-- The whole number that a value stands for. -/
def wholeOf : Json → Except FieldProblem Int
  | .int value => .ok value
  | .bool value => .ok (if value then 1 else 0)
  | .float value => wholeOfFloat value
  | .str text => wholeOfText text.toList
  | .null | .arr _ | .obj _ => .error .notWholeType

def trueWords : List String := ["1", "on", "t", "true", "y", "yes"]

def falseWords : List String := ["0", "off", "f", "false", "n", "no"]

/-- The truth value that a whole number stands for. -/
def truthOfWhole (value : Int) : Except FieldProblem Bool :=
  if value = 1 then .ok true else if value = 0 then .ok false else .error .notTruth

/-- The truth value that a word stands for. -/
def truthOfWord (text : List Char) : Except FieldProblem Bool :=
  let word := String.ofList (Text.lowercaseAscii text)
  if trueWords.contains word then .ok true
  else if falseWords.contains word then .ok false
  else .error .notTruth

/-- The truth value that a value stands for. Numbers count while they fit into 64 bits. -/
def truthOf : Json → Except FieldProblem Bool
  | .bool value => .ok value
  | .int value =>
    if -Int.ofNat wordLimit ≤ value ∧ value < Int.ofNat wordLimit then truthOfWhole value
    else .error .notTruthType
  | .float value =>
    match wholeOfFloat value with
    | .ok value => truthOfWhole value
    | .error _ => .error .notTruthType
  | .str text => truthOfWord text.toList
  | .null | .arr _ | .obj _ => .error .notTruthType

def checkText (name : String) : Json → Checked String
  | .str text => .ok text
  | _ => .refuse name .notText

/-- A field of text that may be `null`. -/
def checkText? (name : String) : Json → Checked (Option String)
  | .null => .ok none
  | .str text => .ok (some text)
  | _ => .refuse name .notText

/-- A field of whole numbers that may be `null`, with a further condition. -/
def checkWhole? {α : Type} (name : String) (accept : Int → Except FieldProblem α) :
    Json → Checked (Option α)
  | .null => .ok none
  | value =>
    match (wholeOf value).bind accept with
    | .ok value => .ok (some value)
    | .error problem => .refuse name problem

def checkTruth (name : String) (value : Json) : Checked Bool :=
  match truthOf value with
  | .ok value => .ok value
  | .error problem => .refuse name problem

/-- The items of a list of texts, from an index on. -/
def checkTextItems (name : String) : (index : Nat) → List Json → Checked (List String)
  | _, [] => .ok []
  | index, item :: items =>
    let first : Checked String :=
      match item with
      | .str text => .ok text
      | _ => .error [⟨[.field name, .item index], .notText⟩]
    (first.both (checkTextItems name (index + 1) items)).map fun (text, texts) => text :: texts

def checkTexts (name : String) : Json → Checked (List String)
  | .arr items => checkTextItems name 0 items
  | _ => .refuse name .notList

end ScriptGate
