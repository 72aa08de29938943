import ScriptGate.Text.CompositeTable
import ScriptGate.Text.Mark

/-! # Composed texts

A letter with marks may be written as one character or as several, and its marks in different
orders. The composed form of a text takes composites apart, puts the marks in order, and puts
together again what has a composite. -/

namespace ScriptGate.Text

def composite? (base mark : Char) : Option Char := do
  let bases ← composites.lookup mark.toNat
  let code ← bases.lookup base.toNat
  return Char.ofNat code

/-- The character and the mark that a composite stands for. -/
def parts? (char : Char) : Option (Char × Char) :=
  composites.findSome? fun (mark, bases) =>
    (bases.find? (·.2 = char.toNat)).map fun (base, _) => (Char.ofNat base, Char.ofNat mark)

/-- A character taken apart a number of times, with the marks that follow it. -/
def takeApart : (times : Nat) → Char → (marks : List Char) → List Char
  | 0, char, marks => char :: marks
  | times + 1, char, marks =>
    match parts? char with
    | some (base, mark) => takeApart times base (mark :: marks)
    | none => char :: marks

/-- The most marks that a composite stands for. -/
def maxParts : Nat := 3

/-- A text in which every composite is taken apart. -/
def decompose (text : List Char) : List Char :=
  text.flatMap fun char => takeApart maxParts char []

/-- A text in order with a character before it, which is moved behind the marks of lower classes.
-/
def insertMark (char : Char) : List Char → List Char
  | [] => [char]
  | next :: text =>
    if 0 < combiningClass next ∧ combiningClass next < combiningClass char then
      next :: insertMark char text
    else char :: next :: text

/-- A text in which marks are in the order of their classes. -/
def orderMarks (text : List Char) : List Char := text.foldr insertMark []

/-- The composed form of a character of class zero, the marks after it that have found no
composite, the last of them first, and a text. A mark is out of reach of the character when the
mark before it is not of a lower class. -/
def composeAfter (base : Char) (kept : List Char) : List Char → List Char
  | [] => base :: kept.reverse
  | char :: text =>
    let reached := kept.head?.all fun last => combiningClass last < combiningClass char
    match if reached then composite? base char else none with
    | some char => composeAfter char kept text
    | none =>
      if combiningClass char = 0 then base :: kept.reverse ++ composeAfter char [] text
      else composeAfter base (char :: kept) text

/-- The composed form of a text in order. -/
def composeOrdered : List Char → List Char
  | [] => []
  | char :: text =>
    if combiningClass char = 0 then composeAfter char [] text else char :: composeOrdered text

def compose (text : List Char) : List Char := composeOrdered (orderMarks (decompose text))

/-- Whether a text is its own composed form. -/
def isComposed (text : List Char) : Bool := compose text = text

end ScriptGate.Text
