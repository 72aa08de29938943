import ScriptGate.Vocabulary

/-! # Findings

What a lint rule can find in a script, with the line on which it stands. -/

namespace ScriptGate.Lint

/-- What was found. -/
inductive Cause where
  /-- A call of a method that does not exist. -/
  | undefinedMethod (name suggestion : String)
  /-- A terminal call that follows another one. -/
  | chainedTerminal (first second : String)
  /-- An unknown operator in a condition. -/
  | invalidOperator (operator : String)
  /-- An unknown operator in a condition on an aggregate. -/
  | invalidHavingOperator (operator : String)
  /-- A method without a call. -/
  | missingParentheses (method : String) (line : Nat)
  /-- An unknown flag of a field. -/
  | unknownFlag (flag : String) (line : Nat)
  /-- The interface that queries replace. -/
  | legacyRecord
  /-- An optional value that is taken without a check. -/
  | unguardedGet
deriving DecidableEq, Repr

def Cause.message : Cause → String
  | .undefinedMethod name suggestion => s!"Undefined method '.{name}()' - {suggestion}"
  | .chainedTerminal first second =>
    s!"Cannot chain terminal operations: .{first}() followed by .{second}()"
  | .invalidOperator operator =>
    s!"Invalid operator '{operator}' - must be one of: " ++ ", ".intercalate validOperators
  | .invalidHavingOperator operator =>
    s!"Invalid operator '{operator}' in having clause - must be one of: " ++
      ", ".intercalate validOperators
  | .missingParentheses method line =>
    s!"Method '.{method}' may be missing parentheses at line {line}"
  | .unknownFlag flag line =>
    s!"Unknown field flag '{flag}' at line {line} - valid flags: " ++
      ", ".intercalate validFieldFlags
  | .legacyRecord =>
    "GlideRecord detected - consider using GlideQuery for better performance and type safety"
  | .unguardedGet =>
    "Calling .get() on Optional without checking .isPresent() or using .orElse() may throw an " ++
      "error if empty"

/-- A finding and its line; findings about the whole script have none. -/
structure Finding where
  cause : Cause
  /-- The line, counted from one. -/
  line : Option Nat
deriving DecidableEq, Repr

def Finding.message (finding : Finding) : String := finding.cause.message

end ScriptGate.Lint
