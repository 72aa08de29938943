/-! # Lines and columns

Lines end at a line feed and at nothing else. Lines and columns are counted from one. -/

namespace ScriptGate.Text

def lineFeeds (text : List Char) : Nat := text.count '\n'

def lineAt (text : List Char) (offset : Nat) : Nat := lineFeeds (text.take offset) + 1

/-- The number of characters from the start of the line to the character at an offset, which
counts. -/
def columnAt (text : List Char) (offset : Nat) : Nat :=
  ((text.take offset).reverse.takeWhile (· ≠ '\n')).length + 1

/-- The offset a signed position stands for: a negative one counts from the end and stops at the
start. -/
def resolveOffset (text : List Char) (position : Int) : Nat :=
  if 0 ≤ position then position.toNat else (text.length + position).toNat

/-- A text in which a carriage return, alone or before a line feed, has become a line feed. -/
def unifyLineEnds : List Char → List Char
  | [] => []
  | '\r' :: '\n' :: text => '\n' :: unifyLineEnds text
  | '\r' :: text => '\n' :: unifyLineEnds text
  | char :: text => char :: unifyLineEnds text

end ScriptGate.Text
