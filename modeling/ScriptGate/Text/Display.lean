import ScriptGate.Text.Blank
import ScriptGate.Text.Hex
import ScriptGate.Text.PrintableTable

/-! # Quoted texts in messages

In a message a text is quoted with the quotation mark that spares escapes, and characters that
cannot be printed are shown by their codes. -/

namespace ScriptGate.Text

/-- Whether a character is shown as itself in a quoted text. -/
def isPrintable (char : Char) : Bool :=
  if char.toNat < 0x80 then decide (0x20 ≤ char.toNat) && decide (char.toNat < 0x7F)
  else inRanges widePrintableRanges char.toNat

def displayChar (mark char : Char) : List Char :=
  let code := char.toNat
  if char = mark ∨ char = '\\' then ['\\', char]
  else if char = '\n' then ['\\', 'n']
  else if char = '\r' then ['\\', 'r']
  else if char = '\t' then ['\\', 't']
  else if isPrintable char then [char]
  else if code < 0x100 then '\\' :: 'x' :: hexDigits 2 code
  else if code < 0x10000 then '\\' :: 'u' :: hexDigits 4 code
  else '\\' :: 'U' :: hexDigits 8 code

/-- A text between quotation marks: single ones, unless it holds single ones and no double ones. -/
def displayChars (text : List Char) : List Char :=
  let mark := if text.contains '\x27' && !text.contains '\x22' then '\x22' else '\x27'
  mark :: (text.flatMap (displayChar mark) ++ [mark])

/-- A quoted text as it stands in a message. -/
def displayQuoted (text : String) : String := String.ofList (displayChars text.toList)

end ScriptGate.Text
