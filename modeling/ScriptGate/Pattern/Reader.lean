import ScriptGate.Pattern.Basic
import ScriptGate.Text.Lines

/-! # Reading patterns

The written form of a pattern: a character stands for itself unless it is special, a full stop for
any character, a set for its members, a backslash for a class of characters or for the special
character after it. Parentheses group, a bar separates alternatives, and a star, a plus, a question
mark or numbers in braces repeat what comes before; a question mark after one of these makes the
repetition lazy, and a plus makes it possessive. What all alternatives start with is read once, and
alternatives that are single characters and sets are one set. -/

namespace ScriptGate

/-- What is wrong at a place of a text that is no pattern. -/
inductive PatternFault where
  /-- The group that opens here is not closed. -/
  | missingParenthesis
  /-- The group that closes here was not opened. -/
  | unbalancedParenthesis
  /-- The set that opens here is not closed. -/
  | unterminatedSet
  /-- The ends of a range are no characters in order. -/
  | badRange (first last : List Char)
  /-- There is nothing here that could be repeated. -/
  | nothingToRepeat
  /-- What comes before is repeated already. -/
  | multipleRepeat
  /-- The least number of rounds is more than the most. -/
  | crossedBounds
  /-- A backslash ends the text. -/
  | trailingEscape
  /-- A backslash stands before a letter or digit that has no meaning there. -/
  | badEscape (char : Char)
  /-- A question mark opens a group. -/
  | unknownExtension (char : Option Char)
deriving DecidableEq, Repr

def PatternFault.text : PatternFault → String
  | .missingParenthesis => "missing ), unterminated subpattern"
  | .unbalancedParenthesis => "unbalanced parenthesis"
  | .unterminatedSet => "unterminated character set"
  | .badRange first last =>
    s!"bad character range {String.ofList first}-{String.ofList last}"
  | .nothingToRepeat => "nothing to repeat"
  | .multipleRepeat => "multiple repeat"
  | .crossedBounds => "min repeat greater than max repeat"
  | .trailingEscape => "bad escape (end of pattern)"
  | .badEscape char => s!"bad escape \\{char}"
  | .unknownExtension none => "unexpected end of pattern"
  | .unknownExtension (some char) => s!"unknown extension ?{char}"

/-- Why a text is no pattern. -/
structure PatternError where
  source : List Char
  fault : PatternFault
  /-- The number of characters before the fault. -/
  position : Nat
deriving DecidableEq, Repr

/-- The message for a text that is no pattern. In a text of several lines, the place is told by
line and column as well. -/
def PatternError.message (error : PatternError) : String :=
  let line := Text.lineAt error.source error.position
  let column := Text.columnAt error.source error.position
  s!"{error.fault.text} at position {error.position}" ++
    if error.source.contains '\n' then s!" (line {line}, column {column})" else ""

namespace Pattern

/-- Reading a part of a pattern: a fault comes with the text from its place on. -/
abbrev Reading := Except (PatternFault × List Char)

/-- What a part of a sequence is. -/
inductive PartKind where
  | single
  /-- It matches no characters, so that there is nothing to repeat. -/
  | anchor
  /-- It is a group or a choice. -/
  | group
  | repeated
deriving DecidableEq, Repr

/-- A part of a sequence. -/
structure Part where
  kind : PartKind
  pattern : Pattern
deriving DecidableEq, Repr

def ofSet (set : CharSet) : Part := ⟨.single, .one set⟩

def ofMember : SetMember → Part
  | .char char => ofSet (.only false char)
  | member => ofSet (.members false [member])

/-- What a backslash and a character stand for, in a set or outside. -/
def escapedMember? (char : Char) : Option SetMember :=
  match char with
  | 'd' => some (.digit false)
  | 'D' => some (.digit true)
  | 's' => some (.blank false)
  | 'S' => some (.blank true)
  | 'w' => some (.word false)
  | 'W' => some (.word true)
  | 'n' => some (.char '\n')
  | 'r' => some (.char '\r')
  | 't' => some (.char '\t')
  | 'a' => some (.char '\x07')
  | 'f' => some (.char '\x0c')
  | 'v' => some (.char '\x0b')
  | _ => if Text.isAsciiLetter char || Text.isAsciiDigit char then none else some (.char char)

/-- Refuses a text of which only a backslash is left. A backslash at the end is noticed as soon as
the character before it is read, so this fault goes before any other that this character causes.
-/
def checkEnd (text : List Char) : Reading Unit :=
  if text = ['\\'] then .error (.trailingEscape, text) else .ok ()

/-- A member of a set with its written form. -/
structure WrittenMember where
  member : SetMember
  written : List Char
deriving DecidableEq, Repr

/-- The member of a set at the start of a text, and the text after it. -/
def readMember (opening : List Char) : List Char → Reading (WrittenMember × List Char)
  | [] => .error (.unterminatedSet, opening)
  | ['\\'] => .error (.trailingEscape, ['\\'])
  | '\\' :: char :: text => do
    checkEnd text
    if char = 'b' then return (⟨.char '\x08', ['\\', char]⟩, text)
    match escapedMember? char with
    | some member => return (⟨member, ['\\', char]⟩, text)
    | none => throw (.badEscape char, '\\' :: char :: text)
  | char :: text => do
    checkEnd text
    return (⟨.char char, [char]⟩, text)

/-- The range between two members, which must be characters in order. -/
def rangeOf? (first last : SetMember) : Option SetMember :=
  match first, last with
  | .char low, .char high => if high < low then none else some (.range low high)
  | _, _ => none

/-- The members of a set up to its closing bracket, which is a member when it comes first. -/
def readMembers (opening : List Char) :
    (fuel : Nat) → (isFirst : Bool) → List Char → Reading (List SetMember × List Char)
  | 0, _, _ => .error (.unterminatedSet, opening)
  | fuel + 1, isFirst, text =>
    if text.head? = some ']' && !isFirst then .ok ([], text.tail)
    else do
      let (first, rest) ← readMember opening text
      match rest with
      | '-' :: ']' :: after => return ([first.member, .char '-'], after)
      | '-' :: afterDash =>
        let (last, rest) ← readMember opening afterDash
        match rangeOf? first.member last.member with
        | some range =>
          let (members, rest) ← readMembers opening fuel false rest
          return (range :: members, rest)
        | none => throw (.badRange first.written last.written, text)
      | _ =>
        let (members, rest) ← readMembers opening fuel false rest
        return (first.member :: members, rest)

/-- The set with the given members. One character is no more than itself. -/
def setOf (negated : Bool) (members : List SetMember) : CharSet :=
  match members.eraseDups with
  | [.char char] => .only negated char
  | _ => .members negated members

/-- A set whose opening bracket has been read. -/
def readSet (opening text : List Char) : Reading (Part × List Char) := do
  let (negated, inner) :=
    match text with
    | '^' :: inner => (true, inner)
    | _ => (false, text)
  let (members, rest) ← readMembers opening (inner.length + 1) true inner
  return (ofSet (setOf negated members), rest)

/-- A single part that is neither a group nor a repetition. -/
def readPart : List Char → Reading (Part × List Char)
  | [] => .error (.trailingEscape, [])
  | '^' :: text => .ok (⟨.anchor, .start⟩, text)
  | '$' :: text => .ok (⟨.anchor, .stop⟩, text)
  | '.' :: text => .ok (ofSet .any, text)
  | '[' :: text => readSet ('[' :: text) text
  | ['\\'] => .error (.trailingEscape, ['\\'])
  | '\\' :: 'b' :: text => .ok (⟨.anchor, .boundary⟩, text)
  | '\\' :: char :: text => do
    checkEnd text
    match escapedMember? char with
    | some member => return (ofMember member, text)
    | none => throw (.badEscape char, '\\' :: char :: text)
  | char :: text => .ok (ofMember (.char char), text)

/-- How many rounds a repetition may have. -/
structure RoundCount where
  least : Nat
  /-- The greatest number, if there is one. -/
  most : Option Nat
deriving DecidableEq, Repr

/-- The number that ASCII digits write, if there are any. -/
def numberOf? (digits : List Char) : Option Nat :=
  if digits.isEmpty then none
  else some (Text.ofDigits (digits.filterMap Text.asciiDigitValue?))

/-- The count that stands in braces, of which the first has been read, and the text after them: one
number, or two with a comma between them, either of which may be left out. -/
def bracedCount? (text : List Char) : Option (RoundCount × List Char) :=
  let least := numberOf? (text.takeWhile Text.isAsciiDigit)
  match text.dropWhile Text.isAsciiDigit with
  | ',' :: text =>
    match text.dropWhile Text.isAsciiDigit with
    | '\x7d' :: rest =>
      some (⟨least.getD 0, numberOf? (text.takeWhile Text.isAsciiDigit)⟩, rest)
    | _ => none
  | '\x7d' :: rest => least.map fun number => (⟨number, some number⟩, rest)
  | _ => none

/-- The count that a character and the text after it stand for, and the text after the count. -/
def roundCount? (char : Char) (text : List Char) : Option (RoundCount × List Char) :=
  match char with
  | '*' => some (⟨0, none⟩, text)
  | '+' => some (⟨1, none⟩, text)
  | '?' => some (⟨0, some 1⟩, text)
  | '\x7b' => bracedCount? text
  | _ => none

/-- The manner of a repetition whose count has been read, and the text after it. -/
def takeManner : List Char → Manner × List Char
  | '?' :: text => (.lazy, text)
  | '+' :: text => (.possessive, text)
  | text => (.greedy, text)

def ofParts (parts : List Part) : Pattern :=
  match parts.map (·.pattern) with
  | [] => .empty
  | first :: others => others.foldl .seq first

/-- Whether a part can be read once for several alternatives that start with it. -/
def Part.isShareable (part : Part) : Bool := part.kind == .single || part.kind == .anchor

/-- The parts that an alternative and all others start with, and what is left of the alternatives.
-/
def splitShared : List Part → List (List Part) → List Part × List (List Part)
  | part :: parts, others =>
    if part.isShareable && others.all (·.head? == some part) then
      let (shared, rests) := splitShared parts (others.map (·.tail))
      (part :: shared, rests)
    else ([], (part :: parts) :: others)
  | [], others => ([], [] :: others)

/-- The members of an alternative that is a single character or a set. -/
def membersOf? : List Part → Option (List SetMember)
  | [⟨_, .one (.only false char)⟩] => some [.char char]
  | [⟨_, .one (.members false members)⟩] => some members
  | _ => none

/-- The pattern that matches what any of the alternatives matches. -/
def anyOf : List (List Part) → Pattern
  | [] => .empty
  | [parts] => ofParts parts
  | parts :: others => .alt (ofParts parts) (anyOf others)

/-- The parts of a choice between alternatives. -/
def ofAlternatives : List (List Part) → List Part
  | [] => []
  | [parts] => parts
  | parts :: others =>
    let (shared, rests) := splitShared parts others
    match rests.mapM membersOf? with
    | some members => shared ++ [ofSet (.members false members.flatten)]
    | none => shared ++ [⟨.group, anyOf rests⟩]

mutual

/-- Alternatives up to the end of a group or of the text. The fuel bounds the parts and groups;
twice the length of the text is enough. -/
def readAlternatives : (fuel : Nat) → List Char → Reading (List (List Part) × List Char)
  | 0, text => .error (.trailingEscape, text)
  | fuel + 1, text => do
    let (first, rest) ← readSequence fuel [] text
    match rest with
    | '|' :: rest =>
      let (others, rest) ← readAlternatives fuel rest
      return (first :: others, rest)
    | rest => return ([first], rest)

/-- A sequence up to the end of an alternative, after the parts read so far, the last one first. -/
def readSequence : (fuel : Nat) → List Part → List Char → Reading (List Part × List Char)
  | 0, _, text => .error (.trailingEscape, text)
  | _ + 1, parts, [] => .ok (parts.reverse, [])
  | fuel + 1, parts, char :: text =>
    if char = '|' || char = ')' then .ok (parts.reverse, char :: text)
    else
      match roundCount? char text with
      | some (⟨least, most⟩, counted) => do
        checkEnd counted
        if most.any (· < least) then throw (.crossedBounds, text)
        match parts with
        | [] | ⟨.anchor, _⟩ :: _ => throw (.nothingToRepeat, char :: text)
        | ⟨.repeated, _⟩ :: _ => throw (.multipleRepeat, char :: text)
        | ⟨_, body⟩ :: parts =>
          let (manner, rest) := takeManner counted
          readSequence fuel (⟨.repeated, .rounds body least most manner⟩ :: parts) rest
      | none =>
        if char = '(' then
          if text.head? = some '?' then do
            checkEnd text.tail
            throw (.unknownExtension text.tail.head?, text)
          else do
            let (inner, rest) ← readAlternatives fuel text
            match rest with
            | ')' :: rest =>
              readSequence fuel (⟨.group, ofParts (ofAlternatives inner)⟩ :: parts) rest
            | _ => throw (.missingParenthesis, char :: text)
        else do
          let (part, rest) ← readPart (char :: text)
          readSequence fuel (part :: parts) rest

end

/-- The pattern that a text writes. -/
def read (source : List Char) : Except PatternError Pattern :=
  let refuse (fault : PatternFault) (rest : List Char) : Except PatternError Pattern :=
    .error ⟨source, fault, source.length - rest.length⟩
  match readAlternatives (2 * source.length + 2) source with
  | .error (fault, rest) => refuse fault rest
  | .ok (alternatives, []) => .ok (ofParts (ofAlternatives alternatives))
  | .ok (_, rest) => refuse .unbalancedParenthesis rest

end Pattern

end ScriptGate
