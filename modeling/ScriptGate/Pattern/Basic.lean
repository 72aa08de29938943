import ScriptGate.Text.Case
import ScriptGate.Text.Digit

/-! # Patterns

A pattern describes texts by characters and character sets, anchors, sequence, choice and
repetition. A choice prefers its first part, and a repetition says which number of rounds it
prefers; this matters inside a possessive repetition, which does not go back on its choices. Flags
change how single characters and line anchors are read; they are not part of the pattern. -/

namespace ScriptGate

/-- How a pattern reads a text. -/
structure PatternFlags where
  /-- Whether letters match in either case. -/
  ignoreCase : Bool
  /-- Whether line anchors match at every line. -/
  multiline : Bool
  /-- Whether the full stop matches a line feed. -/
  dotAll : Bool
deriving DecidableEq, Repr

/-- A part of a character set. -/
inductive SetMember where
  | char (char : Char)
  | range (first last : Char)
  /-- The decimal digits, or all other characters. -/
  | digit (negated : Bool)
  /-- The white space characters, or all other characters. -/
  | blank (negated : Bool)
  /-- The word characters, or all other characters. -/
  | word (negated : Bool)
deriving DecidableEq, Repr

inductive CharSet where
  /-- Every character, except for a line feed unless the flags say so. -/
  | any
  /-- One character, or every other one. -/
  | only (negated : Bool) (char : Char)
  /-- The characters that are in some member, or in none. -/
  | members (negated : Bool) (list : List SetMember)
deriving DecidableEq, Repr

/-- Which number of rounds a repetition prefers. -/
inductive Manner where
  /-- As many as can be, and fewer when the rest does not fit. -/
  | greedy
  /-- As few as can be, and more when the rest does not fit. -/
  | lazy
  /-- As many as can be, whether the rest fits or not. -/
  | possessive
deriving DecidableEq, Repr

inductive Pattern where
  | empty
  | one (set : CharSet)
  /-- The start of the text, or of a line. -/
  | start
  /-- The end of the text or the place before a final line feed, or the end of a line. -/
  | stop
  /-- A place between a word character and none. -/
  | boundary
  /-- A text of the first pattern and then one of the second. -/
  | seq (first second : Pattern)
  /-- A text of either pattern. -/
  | alt (first second : Pattern)
  /-- A number of texts of a pattern in a row: the least number at least, and the most at most. -/
  | rounds (body : Pattern) (least : Nat) (most : Option Nat) (manner : Manner)
deriving DecidableEq, Repr

/-- The first code point outside the basic plane. -/
def supplementaryStart : Nat := 0x10000

/-- Whether a part of a set has a character. Under the flag for case a character counts with every
character of the same letter; a member outside the basic plane stands for the characters that it
is the lower-case counterpart of. -/
def SetMember.has (flags : PatternFlags) (char : Char) : SetMember → Bool
  | .char member =>
    if !flags.ignoreCase then member = char
    else if member.toNat < supplementaryStart then Text.sameLetter member char
    else Text.lowerCode char.toNat = member.toNat
  | .range first last =>
    if flags.ignoreCase then Text.rangeHasLetter first last char
    else decide (first ≤ char) && decide (char ≤ last)
  | .digit negated => Text.isDigit char != negated
  | .blank negated => Text.isBlank char != negated
  | .word negated => Text.isWord char != negated

def CharSet.has (flags : PatternFlags) (char : Char) : CharSet → Bool
  | .any => flags.dotAll || char != '\n'
  | .only negated wanted =>
    (if flags.ignoreCase then Text.sameLetter wanted char else wanted = char) != negated
  | .members negated list => list.any (·.has flags char) != negated

end ScriptGate
