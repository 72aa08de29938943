import ScriptGate.Expression.Piece
import ScriptGate.Text.Word

/-! # Scripts that are one expression

A script can stand inside a larger expression when it is a single expression itself. The check reads
the pieces of the script from left to right and refuses it for unbalanced brackets, for an unclosed
string or block comment, and for anything outside brackets that ends or begins a statement: a
semicolon, a statement keyword at the start of a line, or a line break between two operands. -/

namespace ScriptGate.Expression

/-- Why a script is not a single expression. -/
inductive Refusal where
  /-- Nothing is left of the script. -/
  | empty
  /-- A block comment does not end. -/
  | unterminatedComment
  /-- The script starts with a statement keyword. -/
  | startsWithStatement (keyword : String)
  /-- A later line starts with a statement keyword. -/
  | containsStatement (keyword : String)
  /-- A semicolon or a line break separates statements. -/
  | multipleStatements
  /-- A closing bracket closes no bracket of its kind. -/
  | unbalanced (closer : Char) (offset : Nat)
  /-- A string literal does not end. -/
  | unterminatedString
  /-- A bracket is not closed. -/
  | unbalancedBrackets
deriving DecidableEq, Repr

def Refusal.message : Refusal → String
  | .empty => "script is empty"
  | .unterminatedComment => "unterminated block comment"
  | .startsWithStatement keyword => s!"script starts with a '{keyword}' statement"
  | .containsStatement keyword => s!"script contains a '{keyword}' statement"
  | .multipleStatements => "script contains multiple statements"
  | .unbalanced closer offset => s!"unbalanced '{closer}' at offset {offset}"
  | .unterminatedString => "unterminated string literal"
  | .unbalancedBrackets => "unbalanced brackets"

def statementKeywords : List String :=
  ["var", "let", "const", "if", "for", "while", "do", "switch", "try", "function", "return",
   "throw", "class"]

/-- The keywords that stand between two operands. -/
def binaryKeywords : List String := ["in", "instanceof"]

/-- The closing bracket for an opening one. -/
def closerOf? : Char → Option Char
  | '(' => some ')'
  | '[' => some ']'
  | '\x7b' => some '\x7d'
  | _ => none

def isCloser (char : Char) : Bool := char = ')' || char = ']' || char = '\x7d'

/-- Whether an operand may begin with a character. -/
def startsOperand (char : Char) : Bool :=
  Text.isAlphanumeric char || char = '_' || char = '$' || Text.isQuote char

/-- Whether an operand may end with a character. -/
def endsOperand (char : Char) : Bool := startsOperand char || isCloser char

def leadingWord : List Piece → List Char
  | .code char :: rest => if Text.isWord char then char :: leadingWord rest else []
  | _ => []

/-- What the check knows after a part of a script. -/
structure Scan where
  /-- The closing brackets that are due, the innermost first. -/
  due : List Char
  /-- The last code character, or the quote of the string literal that came last. -/
  last : Option Char
  /-- Whether the next operand or operator is the first of a line outside brackets. -/
  lineStart : Bool
  /-- The number of characters read. -/
  offset : Nat
deriving DecidableEq, Repr

/-- What is known before a script. -/
def Scan.initial : Scan := ⟨[], none, true, 0⟩

/-- What is known after white space or a comment. -/
def Scan.skip (scan : Scan) (piece : Piece) (breaksLine : Bool) : Scan :=
  { scan with
    lineStart := scan.lineStart || (scan.due.isEmpty && breaksLine)
    offset := scan.offset + piece.text.length }

/-- Why the first piece of a line cannot stand there: it begins a statement, or it begins an operand
after the line before ended one. The first character and the pieces from there on are given. -/
def Scan.lineRefusal? (scan : Scan) (first : Char) (line : List Piece) : Option Refusal :=
  if !scan.lineStart then none
  else
    let word := leadingWord line
    match statementKeywords.find? (·.toList = word), scan.last with
    | some keyword, none => some (.startsWithStatement keyword)
    | some keyword, some _ => some (.containsStatement keyword)
    | none, none => none
    | none, some last =>
      if endsOperand last && startsOperand first && !binaryKeywords.any (·.toList = word) then
        some .multipleStatements
      else none

/-- What is known after a code character, or why it cannot stand there. -/
def Scan.readCode (scan : Scan) (char : Char) : Except Refusal Scan :=
  let next : Scan := { scan with last := some char, lineStart := false, offset := scan.offset + 1 }
  match closerOf? char with
  | some closer => .ok { next with due := closer :: scan.due }
  | none =>
    if isCloser char then
      match scan.due with
      | [] => .error (.unbalanced char scan.offset)
      | due :: outer =>
        if due = char then .ok { next with due := outer }
        else .error (.unbalanced char scan.offset)
    else if char = ';' && scan.due.isEmpty then .error .multipleStatements
    else .ok next

/-- What is known after a piece, or why it cannot stand there. The pieces after it are given, since
a keyword takes several of them. -/
def Scan.read (scan : Scan) (piece : Piece) (rest : List Piece) : Except Refusal Scan :=
  match piece with
  | .blank char => .ok (scan.skip piece (char = '\n'))
  | .lineComment _ => .ok (scan.skip piece false)
  | .blockComment text => .ok (scan.skip piece (text.contains '\n'))
  | .openComment _ => .error .unterminatedComment
  | .openString quote _ =>
    .error ((scan.lineRefusal? quote (piece :: rest)).getD .unterminatedString)
  | .string quote _ =>
    match scan.lineRefusal? quote (piece :: rest) with
    | some refusal => .error refusal
    | none =>
      .ok { scan with
            last := some quote
            lineStart := false
            offset := scan.offset + piece.text.length }
  | .code char =>
    match scan.lineRefusal? char (piece :: rest) with
    | some refusal => .error refusal
    | none => scan.readCode char

/-- What is known after the pieces that follow a part of a script, or the first refusal in them. -/
def Scan.readAll (scan : Scan) : List Piece → Except Refusal Scan
  | [] => .ok scan
  | piece :: rest =>
    match scan.read piece rest with
    | .ok next => next.readAll rest
    | .error refusal => .error refusal

/-- Why the pieces that follow a part of a script do not complete an expression. -/
def Scan.refusal? (scan : Scan) (pieces : List Piece) : Option Refusal :=
  match scan.readAll pieces with
  | .ok final => if final.due.isEmpty then none else some .unbalancedBrackets
  | .error refusal => some refusal

/-- The script without white space at its start, and without white space and semicolons at its
end. -/
def body (script : List Char) : List Char :=
  Text.dropEndWhile (fun char => Text.isBlank char || char = ';') (Text.trimStart script)

/-- Why a script is not a single expression; nothing when it is one. -/
def refusal? (script : List Char) : Option Refusal :=
  if (body script).isEmpty then some .empty else Scan.initial.refusal? (pieces (body script))

end ScriptGate.Expression
