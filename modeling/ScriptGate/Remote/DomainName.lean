import ScriptGate.Remote.LabelTable
import ScriptGate.Text.Composed
import ScriptGate.Text.Direction
import ScriptGate.Text.Punycode
import ScriptGate.Text.Case

/-! # Domain names

A domain name consists of labels with points between them, and may be written in any script. In
its ASCII form a label with other characters is written in Punycode after a fixed start. The
characters of a label must be in composed form and agree in direction, and some of them may stand
only in certain surroundings. -/

namespace ScriptGate.Remote

/-- Whether a character may stand anywhere in a label. -/
def isLabelChar (char : Char) : Bool :=
  let code := char.toNat
  Text.inRanges labelRanges code ||
    alternatingLabelRanges.any fun (first, last) =>
      decide (first ≤ code) && decide (code ≤ last) && (code - first) % 2 == 0

/-- Ranges of the Greek characters of labels. -/
def greekRanges : List (Nat × Nat) :=
  [(0x371, 0x3E1), (0x3F3, 0x3FC), (0x1D26, 0x1D2A), (0x1F00, 0x1FF6), (0xAB65, 0xAB65)]

/-- Ranges of the Hebrew characters of labels. -/
def hebrewRanges : List (Nat × Nat) := [(0x591, 0x5F4), (0xFB1E, 0xFB1E)]

/-- Ranges of the characters of labels in the scripts of Japanese. -/
def japaneseRanges : List (Nat × Nat) :=
  [(0x3005, 0x3005), (0x3007, 0x3007), (0x3041, 0x3096), (0x309D, 0x30FA), (0x30FD, 0x30FE),
   (0x31F0, 0x9FFF), (0xFA0E, 0xFA29), (0x16FE3, 0x16FE3), (0x16FF0, 0x16FF1), (0x1AFF0, 0x1B167),
   (0x20000, 0x3134A)]

def arabicDigits : Nat × Nat := (0x660, 0x669)

/-- The digits of Persian and Urdu. -/
def extendedArabicDigits : Nat × Nat := (0x6F0, 0x6F9)

/-- Whether an invisible separator keeps two letters apart that would join: the one before it, past
transparent characters, joins the next, and the one after it joins the previous. -/
def separatesLetters (before after : List Char) : Bool :=
  (before.dropWhile Text.isTransparent).head?.any Text.joinsNext &&
    (after.dropWhile Text.isTransparent).head?.any Text.joinsPrevious

/-- Whether a character may stand in a label between the characters before it, the nearest first,
and those after it. -/
def suitsSurroundings (char : Char) (before after : List Char) : Bool :=
  let code := char.toNat
  let afterVowelKiller :=
    before.head?.any fun last => Text.combiningClass last = Text.vowelKillerClass
  let noneOf (digits : Nat × Nat) : Bool :=
    !(before ++ after).any fun other => Text.inRanges [digits] other.toNat
  if code = 0x200C then afterVowelKiller || separatesLetters before after
  else if code = 0x200D then afterVowelKiller
  else if code = 0xB7 then before.head? = some 'l' && after.head? = some 'l'
  else if code = 0x375 then after.head?.any fun next => Text.inRanges greekRanges next.toNat
  else if code = 0x5F3 ∨ code = 0x5F4 then
    before.head?.any fun last => Text.inRanges hebrewRanges last.toNat
  else if code = 0x30FB then
    (before ++ after).any fun other => Text.inRanges japaneseRanges other.toNat
  else if Text.inRanges [arabicDigits] code then noneOf extendedArabicDigits
  else if Text.inRanges [extendedArabicDigits] code then noneOf arabicDigits
  else false

/-- Whether the characters of a label after given ones, the nearest first, may stand there. -/
def hasGoodChars (before : List Char) : List Char → Bool
  | [] => true
  | char :: label =>
    (isLabelChar char || suitsSurroundings char before label) && hasGoodChars (char :: before) label

/-- Whether the hyphens of a label stand neither at an end nor at its third and fourth place. -/
def hasGoodHyphens (label : List Char) : Bool :=
  label.head? != some '-' && label.getLast? != some '-' &&
    (label.drop 2).take 2 != ['-', '-']

/-- Whether a text may be a label. -/
def isDomainLabel (label : List Char) : Bool :=
  !label.isEmpty && hasGoodHyphens label && !label.head?.any Text.isMark &&
    hasGoodChars [] label && Text.agreesInDirection label && Text.isComposed label

/-- The start of labels in Punycode. -/
def punycodeMark : List Char := ['x', 'n', '-', '-']

/-- The most characters of a label in ASCII. -/
def maxLabelLength : Nat := 63

/-- The most characters of a domain name in ASCII, without a point at its end. -/
def maxNameLength : Nat := 253

/-- Whether a text in ASCII may be a label: what it stands for may. -/
def isAsciiLabel (label : List Char) : Bool :=
  match Text.dropStart? punycodeMark (Text.lowercaseAscii label) with
  | none => isDomainLabel (Text.lowercaseAscii label)
  | some written =>
    !written.isEmpty && written.getLast? != some '-' &&
      (Text.Punycode.decode? written).any isDomainLabel

def asciiLabel? (label : List Char) : Option (List Char) :=
  let isAscii := label.all fun char => decide (char.toNat < 0x80)
  let form := if isAscii then label else punycodeMark ++ Text.Punycode.encode label
  if (if isAscii then isAsciiLabel label else isDomainLabel label) &&
      decide (form.length ≤ maxLabelLength) then some form
  else none

/-- Whether a character separates labels: a point of any script. -/
def isLabelEnd (char : Char) : Bool := [0x2E, 0x3002, 0xFF0E, 0xFF61].contains char.toNat

def withPlainPoints (name : List Char) : List Char :=
  name.map fun char => if isLabelEnd char then '.' else char

/-- The ASCII form of a domain name. A point at its end is kept. -/
def asciiName? (name : List Char) : Option (List Char) := do
  let labels := Text.splitAt '.' (withPlainPoints name)
  let isClosed := labels.getLast? = some []
  let forms ← (if isClosed then labels.dropLast else labels).mapM asciiLabel?
  let form := ['.'].intercalate forms
  if maxNameLength < form.length then none
  else return form ++ (if isClosed then ['.'] else [])

end ScriptGate.Remote
