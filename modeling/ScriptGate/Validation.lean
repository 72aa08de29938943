import ScriptGate.Catalog
import ScriptGate.Lint.Rule
import ScriptGate.Log

/-! # Validation

A script is valid when it has something besides white space, is not too long, and no rule finds an
error. All findings are collected, except that nothing more is said about a blank script. -/

namespace ScriptGate

/-- An error of a script. -/
inductive ScriptIssue where
  /-- The script is missing or blank. -/
  | blank
  /-- The script is too long. -/
  | tooLong (limit : Int)
  /-- A rule found an error. -/
  | found (finding : Lint.Finding)
deriving DecidableEq, Repr

def blankMessage : String := "Script cannot be empty"

/-- The message for a script that is too long. -/
def lengthMessage (limit : Int) : String := s!"Script exceeds maximum length of {limit} characters"

/-- The wording of an error. -/
def ScriptIssue.message : ScriptIssue → String
  | .blank => blankMessage
  | .tooLong limit => lengthMessage limit
  | .found finding => finding.message

/-- The line of an error: the first one unless a finding names another. -/
def ScriptIssue.line : ScriptIssue → Nat
  | .found finding => finding.line.getD 1
  | _ => 1

/-- The outcome of validation. -/
structure Report where
  /-- What makes the script invalid. -/
  errors : List ScriptIssue
  warnings : List String
deriving DecidableEq, Repr

def Report.valid (report : Report) : Bool := report.errors.isEmpty

/-- A limit and rules for scripts. -/
structure Validator where
  /-- The most characters a script may have. -/
  maxLength : Int
  rules : List Lint.Rule

namespace Validator

/-- The findings of the rules of one severity, in the order of the rules. -/
def findings (validator : Validator) (severity : Lint.Severity) (script : List Char) :
    List Lint.Finding :=
  (validator.rules.filter (·.severity = severity)).flatMap (·.check script)

/-- The error of a script that is too long. -/
def lengthIssue (validator : Validator) (script : List Char) : List ScriptIssue :=
  if validator.maxLength < script.length then [.tooLong validator.maxLength] else []

/-- The report on a script that may be missing. -/
def validate (validator : Validator) (script : Option (List Char)) : Report :=
  let text := script.getD []
  if Text.isBlankText text then ⟨[.blank], []⟩
  else
    { errors :=
        validator.lengthIssue text ++ (validator.findings .error text).map .found
      warnings := (validator.findings .warning text).map (·.message) }

end Validator

def Report.log (report : Report) : List LogRecord :=
  let errors := report.errors.length
  let warnings := report.warnings.length
  if report.errors = [.blank] then
    [⟨.warning, .validator, "Validation failed: empty script"⟩]
  else if report.valid then
    [⟨.info, .validator, s!"Validation completed successfully with {warnings} warning(s)"⟩]
  else
    [⟨.warning, .validator,
      s!"Validation completed with {errors} error(s) and {warnings} warning(s)"⟩]

end ScriptGate
