import ScriptGate.Text.Blank

/-! # Markup in shown text

Shown text is styled by tags in square brackets. A tag starts with a small ASCII letter, a number
sign, a slash or an at sign, and ends at the first closing bracket; one with a slash closes the
latest open tag of its name, or the latest of all when it has no name. Backslashes before a tag come
in pairs, each of which stands for one, and an odd one makes the tag plain text. What is shown is
the text without its tags, and without the control characters that would move the place of writing.
-/

namespace ScriptGate.CommandLine

structure Tag where
  /-- What stands before an equals sign. -/
  name : List Char
  /-- What stands after it, if there is one. -/
  parameters : Option (List Char)
deriving DecidableEq, Repr

/-- The tag with the given text between its brackets. -/
def Tag.ofText (text : List Char) : Tag :=
  ⟨text.takeWhile (· ≠ '='),
   match text.dropWhile (· ≠ '=') with
   | _ :: parameters => some parameters
   | [] => none⟩

/-- A tag as it is written. -/
def Tag.text (tag : Tag) : String :=
  "[" ++ String.ofList (tag.name ++ tag.parameters.elim [] ('=' :: ·)) ++ "]"

/-- A part of a text with tags. -/
inductive MarkupPart where
  | shown (char : Char)
  | tag (offset : Nat) (tag : Tag)
deriving DecidableEq, Repr

/-- Why a text with tags cannot be shown. -/
inductive MarkupError where
  /-- No open tag has the name of a closing one. -/
  | unmatched (offset : Nat) (tag : Tag)
  /-- No tag is open where one is closed. -/
  | nothingOpen (offset : Nat)
deriving DecidableEq, Repr

def MarkupError.message : MarkupError → String
  | .unmatched offset tag =>
    s!"closing tag '{tag.text}' at position {offset} doesn't match any open tag"
  | .nothingOpen offset => s!"closing tag '[/]' at position {offset} has nothing to close"

/-- Whether a tag may start with a character. -/
def isTagStart (char : Char) : Bool :=
  ('a' ≤ char && char ≤ 'z') || ['#', '/', '@'].contains char

/-- The text of the tag whose opening bracket comes before a text. -/
def tagText? : List Char → Option (List Char)
  | [] => none
  | first :: text =>
    let more := text.takeWhile fun char => char != '[' && char != ']'
    if isTagStart first && (text.drop more.length).head? = some ']' then some (first :: more)
    else none

def shownChars (chars : List Char) : List MarkupPart := chars.map .shown

/-- The parts of a text at an offset, after a run of backslashes, when so many characters of it
belong to the part before it. A single backslash before any bracket is not shown. -/
def markupParts (offset slashes : Nat) : (claimed : Nat) → List Char → List MarkupPart
  | _, [] => shownChars (List.replicate slashes '\\')
  | claimed + 1, _ :: text => markupParts (offset + 1) 0 claimed text
  | 0, '\\' :: text => markupParts (offset + 1) (slashes + 1) 0 text
  | 0, '[' :: text =>
    match tagText? text with
    | none =>
      shownChars (List.replicate (slashes - 1) '\\' ++ ['[']) ++ markupParts (offset + 1) 0 0 text
    | some inside =>
      let part :=
        if slashes % 2 = 0 then [.tag offset (.ofText inside)]
        else shownChars ('[' :: inside ++ [']'])
      shownChars (List.replicate (slashes / 2) '\\') ++ part ++
        markupParts (offset + 1) 0 (inside.length + 1) text
  | 0, char :: text =>
    shownChars (List.replicate slashes '\\' ++ [char]) ++ markupParts (offset + 1) 0 0 text

/-- The styles of letters with their short names, in the order in which they are named. -/
def letterStyles : List (String × String) :=
  [("b", "bold"), ("d", "dim"), ("i", "italic"), ("u", "underline"), ("blink", "blink"),
   ("blink2", "blink2"), ("r", "reverse"), ("c", "conceal"), ("s", "strike"),
   ("uu", "underline2"), ("frame", "frame"), ("encircle", "encircle"), ("o", "overline")]

def words (text : List Char) : List (List Char) :=
  (Text.splitAt ' ' (text.map fun char => if Text.isBlank char then ' ' else char)).filter
    (!·.isEmpty)

/-- The name that all spellings of a style share. -/
def styleName (name : List Char) : List Char :=
  let lowered := name.map Char.toLower
  let named := (words lowered).map String.ofList
  let isNamed (style : String × String) : Bool :=
    named.contains style.1 || named.contains style.2
  if named.all fun word => letterStyles.any fun style => style.1 = word || style.2 = word then
    " ".intercalate ((letterStyles.filter isNamed).map (·.2)) |>.toList
  else Text.dropEndWhile Text.isBlank (Text.trimStart lowered)

/-- The names of the tags that stay open after a tag, the latest first. -/
def closeTag (opened : List (List Char)) (offset : Nat) (tag : Tag) :
    Except MarkupError (List (List Char)) :=
  match tag.name with
  | '/' :: closed =>
    if Text.isBlankText closed then
      match opened with
      | [] => .error (.nothingOpen offset)
      | _ :: others => .ok others
    else if opened.contains (styleName closed) then .ok (opened.erase (styleName closed))
    else .error (.unmatched offset tag)
  | name => .ok (styleName name :: opened)

/-- The characters that are shown of parts, while tags are open. -/
def shownOfParts (opened : List (List Char)) :
    List MarkupPart → Except MarkupError (List Char)
  | [] => .ok []
  | .shown char :: parts => (shownOfParts opened parts).map (char :: ·)
  | .tag offset tag :: parts => do shownOfParts (← closeTag opened offset tag) parts

/-- The control characters that are not shown. -/
def unshownCodes : List Nat := [0x07, 0x08, 0x0B, 0x0C, 0x0D]

/-- What is shown of a text with tags. -/
def shownText (text : String) : Except MarkupError String := do
  let shown ← shownOfParts [] (markupParts 0 0 0 text.toList)
  return String.ofList (shown.filter (!unshownCodes.contains ·.toNat))

end ScriptGate.CommandLine
