import ScriptGate.Scan.Occurrence
import ScriptGate.Text.Case

/-! # Method calls

A method call is a full stop, a name, optional white space and an opening parenthesis. Names are
compared by a given equality of characters. -/

namespace ScriptGate.Scan

/-- The text after a name, when it starts with the name up to an equality of characters. -/
def afterName? (same : Char → Char → Bool) : (name text : List Char) → Option (List Char)
  | [], text => some text
  | _ :: _, [] => none
  | expected :: name, char :: text => if same expected char then afterName? same name text else none

/-- The text after optional white space and a given character. -/
def afterMark? (mark : Char) (text : List Char) : Option (List Char) :=
  match Text.trimStart text with
  | [] => none
  | char :: rest => if char = mark then some rest else none

/-- The text after the opening parenthesis of a call of the named method. -/
def afterCall? (same : Char → Char → Bool) (name : List Char) : List Char → Option (List Char)
  | '.' :: text => (afterName? same name text).bind (afterMark? '(')
  | _ => none

/-- The text after the opening parenthesis of a call of the named method, in the given spelling. -/
def afterExactCall? (name : String) (text : List Char) : Option (List Char) :=
  afterCall? (· == ·) name.toList text

/-- Whether a text calls the named method somewhere, in the given spelling. -/
def callsExactly (script : List Char) (name : String) : Bool :=
  holdsSomewhere (fun text => (afterExactCall? name text).isSome) script

/-- Whether a text calls the named method somewhere, in any case. -/
def calls (script : List Char) (name : String) : Bool :=
  holdsSomewhere (fun text => (afterCall? Text.sameLetter name.toList text).isSome) script

/-- The names, in order, of the methods that a script calls, where names that agree in lower case
with one reported before are left out. -/
def calledAmong (script : List Char) (reported : List (List Char)) : List String → List String
  | [] => []
  | name :: names =>
    let key := Text.lowercase name.toList
    if !reported.contains key && calls script name then
      name :: calledAmong script (key :: reported) names
    else calledAmong script reported names

/-- The operations among the named ones that a script calls, each once and in the order given. -/
def detectOperations (script : List Char) (names : List String) : List String :=
  calledAmong script [] names

end ScriptGate.Scan
