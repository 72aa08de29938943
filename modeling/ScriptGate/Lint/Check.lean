import ScriptGate.Lint.Finding
import ScriptGate.Scan.Call
import ScriptGate.Text.Lines
import ScriptGate.Text.Quote

/-! # Checks

The checks behind the lint rules. They look at the text of a script without parsing it, and name the
line on which each finding starts. -/

namespace ScriptGate.Lint

open Scan

def findingAt (script : List Char) (offset : Nat) (cause : Cause) : Finding :=
  ⟨cause, some (Text.lineAt script offset)⟩

def scanCall (name : String) (text : List Char) : Option (String × List Char) :=
  (afterExactCall? name text).map (name, ·)

def scanCallAmong (names : List String) (text : List Char) : Option (String × List Char) :=
  names.findSome? fun name => scanCall name text

/-- Calls of methods that look right and do not exist. -/
def undefinedMethodFindings (script : List Char) : List Finding :=
  undefinedMethods.flatMap fun (name, suggestion) =>
    (occurrences (scanCall name) script).map fun call =>
      findingAt script call.start (.undefinedMethod name suggestion)

/-- Whether the second of two calls continues the chain of the first one: a parenthesis is closed
between them, and no semicolon follows it there. -/
def continuesChain (script : List Char) (first second : Occurrence String) : Bool :=
  match ((script.take second.start).drop first.stop).dropWhile (· ≠ ')') with
  | [] => false
  | close :: between => !(close :: between).contains ';'

/-- Pairs of neighbouring terminal calls of one chain, at the line of the second one. -/
def chainFindings (script : List Char) : List Finding :=
  let calls := occurrences (scanCallAmong terminalOperations) script
  (calls.zip calls.tail).filterMap fun (first, second) =>
    if continuesChain script first second then
      some (findingAt script second.start (.chainedTerminal first.value second.value))
    else none

/-- A quoted text that is not empty, after optional white space. Any quote closes it. -/
def scanQuoted (text : List Char) : Option (List Char × List Char) :=
  match Text.trimStart text with
  | [] => none
  | opening :: rest =>
    if Text.isQuote opening then
      match rest.takeWhile (!Text.isQuote ·), rest.dropWhile (!Text.isQuote ·) with
      | [], _ | _, [] => none
      | content, _ :: after => some (content, after)
    else none

/-- The operator of a condition with a field, an operator and a value. -/
def scanWhere (text : List Char) : Option (String × List Char) := do
  let (_, arguments) ← scanCallAmong ["where", "orWhere"] text
  let (_, afterField) ← scanQuoted arguments
  let (operator, afterOperator) ← scanQuoted (← afterMark? ',' afterField)
  return (String.ofList operator, ← afterMark? ',' afterOperator)

/-- The operator of a condition with an aggregate, a field, an operator and a value. -/
def scanHaving (text : List Char) : Option (String × List Char) := do
  let arguments ← afterExactCall? "having" text
  let (_, afterAggregate) ← scanQuoted arguments
  let (_, afterField) ← scanQuoted (← afterMark? ',' afterAggregate)
  let (operator, afterOperator) ← scanQuoted (← afterMark? ',' afterField)
  return (String.ofList operator, ← afterMark? ',' afterOperator)

/-- The conditions found by a scan whose operator is unknown. -/
def operatorFindings (scan : List Char → Option (String × List Char)) (cause : String → Cause)
    (script : List Char) : List Finding :=
  ((occurrences scan script).filter fun found => !validOperators.contains found.value).map
    fun found => findingAt script found.start (cause found.value)

/-- Unknown operators of conditions. -/
def whereFindings (script : List Char) : List Finding :=
  operatorFindings scanWhere .invalidOperator script

/-- Unknown operators of conditions on aggregates. -/
def havingFindings (script : List Char) : List Finding :=
  operatorFindings scanHaving .invalidHavingOperator script

/-- Whether a field name may start with a character. -/
def startsField (char : Char) : Bool := Text.isAsciiLetter char || char = '_'

/-- Whether a character may stand in a flag, after its dollar sign. -/
def isFlagChar (char : Char) : Bool := (decide ('A' ≤ char) && decide (char ≤ 'Z')) || char = '_'

/-- A quoted field name with a flag. The flag is found, dollar sign included. -/
def scanFlag : List Char → Option (String × List Char)
  | opening :: first :: text =>
    if Text.isQuote opening && startsField first then
      match text.dropWhile Text.isAsciiWord with
      | '$' :: rest =>
        match rest.takeWhile isFlagChar, rest.dropWhile isFlagChar with
        | [], _ | _, [] => none
        | flag, closing :: after =>
          if Text.isQuote closing then some (String.ofList ('$' :: flag), after) else none
      | _ => none
    else none
  | _ => none

/-- Unknown flags of quoted field names. -/
def flagFindings (script : List Char) : List Finding :=
  ((occurrences scanFlag script).filter fun found => !validFieldFlags.contains found.value).map
    fun found =>
      findingAt script found.start (.unknownFlag found.value (Text.lineAt script found.start))

/-- The named method after a full stop, when no longer name and no call follows. -/
def scanUncalled (method : String) : List Char → Option (String × List Char)
  | '.' :: text =>
    match afterName? (· == ·) method.toList text with
    | some rest =>
      if rest.head?.any Text.isAsciiWord || (afterMark? '(' rest).isSome then none
      else some (method, rest)
    | none => none
  | _ => none

/-- Known methods that are not called. -/
def parenthesesFindings (script : List Char) : List Finding :=
  validMethods.flatMap fun method =>
    (occurrences (scanUncalled method) script).map fun found =>
      findingAt script found.start
        (.missingParentheses method (Text.lineAt script found.start))

/-- Whether a text calls the named method without arguments somewhere. -/
def callsWithoutArguments (script : List Char) (name : String) : Bool :=
  holdsSomewhere (fun text => ((afterExactCall? name text).bind (afterMark? ')')).isSome) script

/-- An optional value that is taken while no check stands anywhere in the script. -/
def unguardedFindings (script : List Char) : List Finding :=
  if callsWithoutArguments script "get" && !callsWithoutArguments script "isPresent" &&
      !callsExactly script "orElse" then
    [⟨.unguardedGet, none⟩]
  else []

/-- The name of the interface that queries replace. -/
def legacyName : String := "GlideRecord"

/-- Whether a text starts with a call of the interface that queries replace. -/
def startsLegacyCall (text : List Char) : Bool :=
  ((afterName? Text.sameLetter legacyName.toList text).bind (afterMark? '(')).isSome

/-- A call of the interface that queries replace. -/
def legacyFindings (script : List Char) : List Finding :=
  if holdsSomewhere startsLegacyCall script then [⟨.legacyRecord, none⟩] else []

end ScriptGate.Lint
