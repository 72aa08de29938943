import ScriptGate.Text.Blank
import ScriptGate.Text.Digit

/-! # Whole numbers in text

Two spellings of whole numbers, in both of which white space may stand around the number, a sign
before it, and a single underscore between two digits. The liberal one takes decimal digits of every
script. The plain one takes ASCII digits and is read by clearing the text step by step, until an
optional minus sign and digits without a needless zero are left: a plus sign, zeros at the start, a
fraction of zeros and underscores are cleared away. As zeros at the start are cleared before the
minus sign is looked at, a minus sign may stand after them, and none may stand after it. -/

namespace ScriptGate.Number

/-- The values of a run of digits in which single underscores may stand between digits. -/
def digitRun? (value? : Char → Option Nat) : (afterDigit : Bool) → List Char → Option (List Nat)
  | afterDigit, [] => if afterDigit then some [] else none
  | afterDigit, '_' :: text => if afterDigit then digitRun? value? false text else none
  | _, char :: text =>
    match value? char, digitRun? value? true text with
    | some digit, some digits => some (digit :: digits)
    | _, _ => none

/-- A sign and what follows it; without a sign the number is positive. -/
def splitSign : List Char → Bool × List Char
  | '-' :: text => (true, text)
  | '+' :: text => (false, text)
  | text => (false, text)

def signed (negative : Bool) (magnitude : Nat) : Int :=
  if negative then -(magnitude : Int) else magnitude

/-- The most digits a whole number may be written with. -/
def maxDigits : Nat := 4300

/-- Whether a character may stand around a number: all white space but the four information
separators. -/
def isOuterSpace (char : Char) : Bool :=
  Text.isBlank char && !Text.inRanges [(0x1C, 0x1F)] char.toNat

/-- A number without the white space around it. -/
def trimSpace (text : List Char) : List Char :=
  Text.dropEndWhile isOuterSpace (text.dropWhile isOuterSpace)

/-- A whole number in the liberal spelling; nothing for any other text, or when it has too many
digits. -/
def readWhole? (text : List Char) : Option Int :=
  let (negative, magnitude) := splitSign (trimSpace text)
  match digitRun? Text.digitValue? false magnitude with
  | some digits =>
    if digits.length ≤ maxDigits then some (signed negative (Text.ofDigits digits)) else none
  | none => none

/-- Why a text is no whole number in the plain spelling. -/
inductive PlainFault where
  /-- The text has another form. -/
  | malformed
  /-- The number has too many characters. -/
  | tooLong
deriving DecidableEq, Repr

/-- A number without the plus sign at its start. A minus sign may not follow it. -/
def clearPlus? : List Char → Option (List Char)
  | '+' :: '-' :: _ => none
  | '+' :: text => some text
  | text => some text

/-- Whether a number may start with a character once the zeros at its start are cleared. -/
def isPlainStart (char : Char) : Bool := char = '-' || ('1' ≤ char && char ≤ '9')

/-- What is left of a text after zeros and underscores, the last of which is given. That last one is
kept when nothing or a point follows. -/
def clearZerosAfter? (last : Char) : List Char → Option (List Char)
  | [] => some [last]
  | char :: text =>
    if char = '0' ∨ char = '_' then clearZerosAfter? char text
    else if char = '.' then some (last :: char :: text)
    else if isPlainStart char then some (char :: text)
    else none

/-- A number without the needless zeros at its start and the underscores after them; nothing when
something else than a number starts there. -/
def clearZeros? : List Char → Option (List Char)
  | [] => none
  | char :: text =>
    if char = '0' then clearZerosAfter? char text
    else if isPlainStart char then some (char :: text)
    else none

/-- A number without a fraction that consists of zeros. -/
def clearFraction (text : List Char) : List Char :=
  match text.dropWhile (· ≠ '.') with
  | [] => text
  | _ :: fraction =>
    if !fraction.isEmpty && fraction.all (· = '0') then text.takeWhile (· ≠ '.') else text

/-- A number without its underscores, unless one stands at an end or next to another. -/
def clearUnderscores (text : List Char) : List Char :=
  let parts := Text.splitAt '_' text
  if parts.any List.isEmpty then text else parts.flatten

/-- The number that an optional minus sign and digits without a needless zero write. The sign counts
for the length, and a number that is too long is not read to its end. -/
def readCleared (text : List Char) : Except PlainFault Int :=
  let negative := text.head? = some '-'
  let magnitude := if negative then text.drop 1 else text
  let digits := (magnitude.takeWhile fun char =>
    (Text.asciiDigitValue? char).isSome).filterMap Text.asciiDigitValue?
  let isWhole := digits.length = magnitude.length
  match digits with
  | [] => .error .malformed
  | 0 :: _ => if isWhole ∧ digits = [0] then .ok 0 else .error .malformed
  | _ =>
    if maxDigits < digits.length + (if negative then 1 else 0) then .error .tooLong
    else if isWhole then .ok (signed negative (Text.ofDigits digits))
    else .error .malformed

/-- A whole number in the plain spelling. -/
def readPlainWhole (text : List Char) : Except PlainFault Int :=
  match (clearPlus? (trimSpace text)).bind clearZeros? with
  | some number => readCleared (clearUnderscores (clearFraction number))
  | none => .error .malformed

end ScriptGate.Number
