import ScriptGate.Text.Blank
import ScriptGate.Text.MarkTable

/-! # Marks

Combining marks belong to the character before them. A mark may take up space of its own, and its
combining class tells where marks on one character are ordered: from a lower class to a higher one,
while characters of class zero are never moved. -/

namespace ScriptGate.Text

def isMark (char : Char) : Bool := inRanges markRanges char.toNat

/-- Whether a character is a combining mark without space of its own. -/
def isNonspacingMark (char : Char) : Bool :=
  isMark char && !inRanges spacingMarkRanges char.toNat

def combiningClass (char : Char) : Nat :=
  match combiningRanges.find? fun (first, last, _) =>
      decide (first ≤ char.toNat) && decide (char.toNat ≤ last) with
  | some (_, _, number) => number
  | none => 0

/-- The combining class of the marks that keep a consonant from being followed by a vowel. -/
def vowelKillerClass : Nat := 9

end ScriptGate.Text
