import ScriptGate.Text.Blank
import ScriptGate.Text.WordTable

/-! # Word characters

Letters, digits and numerals of every script, and the word characters they form together with the
underscore. Combining marks and symbols are no word characters. -/

namespace ScriptGate.Text

def isAsciiLetter (char : Char) : Bool :=
  (decide ('a' ≤ char) && decide (char ≤ 'z')) || (decide ('A' ≤ char) && decide (char ≤ 'Z'))

def isAsciiDigit (char : Char) : Bool := decide ('0' ≤ char) && decide (char ≤ '9')

def isAsciiWord (char : Char) : Bool := isAsciiLetter char || isAsciiDigit char || char = '_'

/-- Whether a character is a letter, digit or numeral. -/
def isAlphanumeric (char : Char) : Bool :=
  if char.toNat < 0x80 then isAsciiLetter char || isAsciiDigit char
  else inRanges wideWordRanges char.toNat

/-- Whether a character is a letter, digit, numeral or the underscore. -/
def isWord (char : Char) : Bool := isAlphanumeric char || char = '_'

end ScriptGate.Text
