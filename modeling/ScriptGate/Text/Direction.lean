import ScriptGate.Text.DirectionTable
import ScriptGate.Text.Mark

/-! # Writing directions

The direction in which a character is written decides which characters may be mixed in one word,
and the sides on which a letter joins its neighbours decide where an invisible separator has an
effect. -/

namespace ScriptGate.Text

/-- How a character is written. -/
inductive Direction where
  /-- From left to right. -/
  | left
  /-- From right to left. -/
  | right
  /-- As a digit of a right-to-left script. -/
  | arabicNumber
  /-- As a digit of another script. -/
  | europeanNumber
  /-- As a mark on the character before it. -/
  | mark
  /-- In the direction of its surroundings. -/
  | neutral
deriving DecidableEq, Repr

/-- The marks without space of their own that are written from left to right. -/
def leftMarks : List Nat := [0xCBF, 0xCC6, 0x11A07, 0x11A08, 0x11C3F]

def direction (char : Char) : Direction :=
  let code := char.toNat
  if inRanges rightToLeftRanges code then .right
  else if inRanges arabicNumberRanges code then .arabicNumber
  else if inRanges europeanNumberRanges code then .europeanNumber
  else if inRanges neutralRanges code then .neutral
  else if isNonspacingMark char && !leftMarks.contains code then .mark
  else .left

/-- Whether the directions in a text agree: nothing is written from right to left, or the text
starts so and ends so or in digits, marks aside, has nothing that is written from left to right,
and its digits are of one kind. -/
def agreesInDirection (text : List Char) : Bool :=
  let directions := text.map direction
  let ending := directions.reverse.dropWhile (· = .mark)
  !(directions.contains .right || directions.contains .arabicNumber) ||
    (directions.head? = some .right && !directions.contains .left &&
      [some .right, some .arabicNumber, some .europeanNumber].contains ending.head? &&
      !(directions.contains .arabicNumber && directions.contains .europeanNumber))

/-- Whether a character has no effect on how its neighbours join. -/
def isTransparent (char : Char) : Bool := isNonspacingMark char || char.toNat = 0x1E94B

/-- Whether a letter joins the one after it. -/
def joinsNext (char : Char) : Bool :=
  inRanges dualJoiningRanges char.toNat || inRanges leftJoiningRanges char.toNat

/-- Whether a letter joins the one before it. -/
def joinsPrevious (char : Char) : Bool :=
  inRanges dualJoiningRanges char.toNat || inRanges rightJoiningRanges char.toNat

end ScriptGate.Text
