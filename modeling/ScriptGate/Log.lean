/-! # Log records

What the parts of the library report while they work. -/

namespace ScriptGate

/-- How much a log record matters. -/
inductive LogLevel where
  /-- Details for a search of faults. -/
  | debug
  | info
  /-- A script or setting was not accepted. -/
  | warning
  | error
deriving DecidableEq, Repr

/-- The part of the library that reports. -/
inductive Component where
  | executor
  | screener
  | validator
  | client
deriving DecidableEq, Repr

/-- A report. -/
structure LogRecord where
  level : LogLevel
  component : Component
  message : String
deriving DecidableEq, Repr

/-- The text of an optional value in a report. -/
def optionText {α : Type} [ToString α] : Option α → String
  | some value => toString value
  | none => "None"

/-- The text of a truth value in a report. -/
def boolText (value : Bool) : String := if value then "True" else "False"

end ScriptGate
