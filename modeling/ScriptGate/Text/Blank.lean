/-! # Blank characters and trimming

The characters that count as white space, and the functions that remove runs of them from the ends
of a text. A text is the list of its characters throughout the library, so offsets and lengths
count characters. -/

namespace ScriptGate.Text

/-- A code point lies in one of the closed ranges of a table. -/
def inRanges (ranges : List (Nat × Nat)) (code : Nat) : Bool :=
  ranges.any fun range => decide (range.1 ≤ code) && decide (code ≤ range.2)

/-- The white space characters: the controls that separate lines or fields, and every Unicode space,
line separator and paragraph separator. -/
def blankRanges : List (Nat × Nat) :=
  [(0x09, 0x0D), (0x1C, 0x20), (0x85, 0x85), (0xA0, 0xA0), (0x1680, 0x1680), (0x2000, 0x200A),
   (0x2028, 0x2029), (0x202F, 0x202F), (0x205F, 0x205F), (0x3000, 0x3000)]

/-- Whether a character is white space. -/
def isBlank (char : Char) : Bool := inRanges blankRanges char.toNat

/-- Whether a text has nothing but white space. -/
def isBlankText (text : List Char) : Bool := text.all isBlank

/-- The text without its longest end in which every character satisfies the test. -/
def dropEndWhile (test : Char → Bool) (text : List Char) : List Char :=
  (text.reverse.dropWhile test).reverse

/-- The text without the white space at its start. -/
def trimStart (text : List Char) : List Char := text.dropWhile isBlank

/-- The text without an expected start; nothing when it starts otherwise. -/
def dropStart? : (start text : List Char) → Option (List Char)
  | [], text => some text
  | _ :: _, [] => none
  | expected :: start, char :: text => if expected = char then dropStart? start text else none

/-- The texts between the occurrences of a separator character, in order. -/
def splitAt (separator : Char) : List Char → List (List Char)
  | [] => [[]]
  | char :: text =>
    match splitAt separator text with
    | [] => [[char]]
    | first :: others =>
      if char = separator then [] :: first :: others else (char :: first) :: others

end ScriptGate.Text
