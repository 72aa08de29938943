import ScriptGate.Json.Basic
import ScriptGate.Number.Literal
import ScriptGate.Text.Encoding
import ScriptGate.Text.Lines

/-! # Reading JSON

A text is read as one JSON value between optional spaces, or refused with the place of its first
fault. Beside the standard grammar the reader takes the names of the infinities and of the float
that is no number. Whole numbers of too many digits are refused, and so are arrays and objects that
are nested too deeply. -/

namespace ScriptGate.Json

/-- What is wrong at a place of a text that is not JSON. -/
inductive Fault where
  | expectingValue
  | extraData
  /-- Two items or members are not separated. -/
  | expectingComma
  /-- A member has no colon after its name. -/
  | expectingColon
  /-- A member does not start with a string. -/
  | expectingName
  /-- The string that starts here does not end. -/
  | unterminatedString
  /-- An unknown escape starts here. -/
  | invalidEscape
  /-- The four digits of a character code are missing. -/
  | invalidCode
  /-- A control character stands in a string. -/
  | invalidControl
deriving DecidableEq, Repr

def Fault.text : Fault → String
  | .expectingValue => "Expecting value"
  | .extraData => "Extra data"
  | .expectingComma => "Expecting ',' delimiter"
  | .expectingColon => "Expecting ':' delimiter"
  | .expectingName => "Expecting property name enclosed in double quotes"
  | .unterminatedString => "Unterminated string starting at"
  | .invalidEscape => "Invalid \\escape"
  | .invalidCode => "Invalid \\uXXXX escape"
  | .invalidControl => "Invalid control character at"

/-- A place in a text. -/
structure Place where
  /-- The line, counted from one. -/
  line : Nat
  /-- The column, counted from one. -/
  column : Nat
  /-- The number of characters before the place. -/
  offset : Nat
deriving DecidableEq, Repr

def Place.ofOffset (text : List Char) (offset : Nat) : Place :=
  ⟨Text.lineAt text offset, Text.columnAt text offset, offset⟩

/-- A value that holds others. -/
inductive Vessel where
  | array
  | object
deriving DecidableEq, Repr

/-- The name of a value that holds others. -/
def Vessel.name : Vessel → String
  | .array => "array"
  | .object => "object"

/-- Why a text is refused. -/
inductive ReadError where
  /-- The text is not JSON. -/
  | malformed (fault : Fault) (place : Place)
  /-- A whole number has too many digits. -/
  | tooManyDigits (count : Nat)
  /-- An array or object is nested too deeply. -/
  | tooDeep (vessel : Vessel)
deriving DecidableEq, Repr

/-- The message of a refused text. -/
def ReadError.message : ReadError → String
  | .malformed fault place =>
    s!"{fault.text}: line {place.line} column {place.column} (char {place.offset})"
  | .tooManyDigits count =>
    s!"Exceeds the limit ({Number.maxDigits} digits) for integer string conversion: value has " ++
      s!"{count} digits; use sys.set_int_max_str_digits() to increase the limit"
  | .tooDeep vessel =>
    s!"maximum recursion depth exceeded while decoding a JSON {vessel.name} from a unicode string"

/-- Why reading stops. -/
inductive Halt where
  /-- A fault, with the text from its place on. -/
  | fault (fault : Fault) (rest : List Char)
  /-- A whole number has too many digits. -/
  | tooManyDigits (count : Nat)
  /-- An array or object is nested too deeply. -/
  | tooDeep (vessel : Vessel)
deriving DecidableEq, Repr

def ReadError.ofHalt (text : List Char) : Halt → ReadError
  | .fault fault rest => .malformed fault (.ofOffset text (text.length - rest.length))
  | .tooManyDigits count => .tooManyDigits count
  | .tooDeep vessel => .tooDeep vessel

/-- The outcome of reading a part of a text: what was read and the text after it, or the reason to
stop. -/
abbrev Reading := Except Halt

/-- The characters that may stand between the parts of a JSON text. -/
def isSpace (char : Char) : Bool := char = ' ' || char = '\t' || char = '\n' || char = '\r'

/-- The text from its first character that is no space. -/
def skipSpaces (text : List Char) : List Char := text.dropWhile isSpace

/-- The number that four hexadecimal digits write. -/
def hexCode? (first second third fourth : Char) : Option Nat := do
  let high ← Text.hexValue? first
  let next ← Text.hexValue? second
  let third ← Text.hexValue? third
  let low ← Text.hexValue? fourth
  return ((high * 16 + next) * 16 + third) * 16 + low

/-- The code of the character that a short escape stands for. -/
def shortEscape? : Char → Option Nat
  | '\x22' => some 0x22
  | '\\' => some 0x5C
  | '/' => some 0x2F
  | 'b' => some 0x08
  | 'f' => some 0x0C
  | 'n' => some 0x0A
  | 'r' => some 0x0D
  | 't' => some 0x09
  | _ => none

/-- The codes of a string up to its closing quote. An escaped code outside the basic plane comes
as two surrogates. -/
def stringCodes (opening : List Char) : List Char → Reading (List Nat × List Char)
  | [] => .error (.fault .unterminatedString opening)
  | '\x22' :: text => .ok ([], text)
  | ['\\'] => .error (.fault .unterminatedString opening)
  | '\\' :: 'u' :: first :: second :: third :: fourth :: text =>
    match hexCode? first second third fourth, text with
    | none, _ | _, [] =>
      .error (.fault .invalidCode ('u' :: first :: second :: third :: fourth :: text))
    | some code, _ => do
      let (codes, rest) ← stringCodes opening text
      return (code :: codes, rest)
  | '\\' :: escape :: text =>
    match shortEscape? escape with
    | some code => do
      let (codes, rest) ← stringCodes opening text
      return (code :: codes, rest)
    | none =>
      if escape = 'u' then .error (.fault .invalidCode (escape :: text))
      else .error (.fault .invalidEscape ('\\' :: escape :: text))
  | char :: text =>
    if char.toNat < 0x20 then .error (.fault .invalidControl (char :: text))
    else do
      let (codes, rest) ← stringCodes opening text
      return (char.toNat :: codes, rest)

/-- A string whose opening quote has been read. -/
def readString (opening text : List Char) : Reading (String × List Char) := do
  let (codes, rest) ← stringCodes opening text
  return (String.ofList (Text.charsOfUnits codes), rest)

/-- The float nearest to a decimal number in units of a power of ten. -/
def floatOfDecimal (negative : Bool) (digits : List Nat) (exponent : Int) : Float :=
  let number := Text.ofDigits digits
  let leading := (digits.length : Int) + exponent
  let magnitude : Float :=
    if number = 0 ∨ leading < -400 then 0
    else if (digits.dropWhile (· = 0)).length + exponent > 400 then 1 / 0
    else Float.ofScientific number (exponent < 0) exponent.natAbs
  if negative then -magnitude else magnitude

/-- The values of the ASCII digits at the start of a text, and the text after them. -/
def takeDigits (text : List Char) : List Nat × List Char :=
  ((text.takeWhile fun char => (Text.asciiDigitValue? char).isSome).filterMap Text.asciiDigitValue?,
   text.dropWhile fun char => (Text.asciiDigitValue? char).isSome)

/-- The digits of a fraction, when a point and a digit follow. -/
def takeFraction? : List Char → Option (List Nat × List Char)
  | '.' :: text =>
    match takeDigits text with
    | ([], _) => none
    | taken => some taken
  | _ => none

/-- The exponent, when its letter and a digit follow. -/
def takeExponent? : List Char → Option (Int × List Char)
  | letter :: text =>
    if letter = 'e' ∨ letter = 'E' then
      let (negative, digitText) :=
        match text with
        | '-' :: after => (true, after)
        | '+' :: after => (false, after)
        | after => (false, after)
      match takeDigits digitText with
      | ([], _) => none
      | (digits, rest) =>
        let magnitude : Int := Text.ofDigits digits
        some (if negative then -magnitude else magnitude, rest)
    else none
  | [] => none

/-- A number as it is written. -/
structure WrittenNumber where
  /-- Whether a minus sign stands before it. -/
  negative : Bool
  /-- The digits of its whole part. -/
  whole : List Nat
  /-- The digits of its fraction, if it has one. -/
  fraction : Option (List Nat)
  exponent : Option Int
deriving DecidableEq, Repr

/-- A number whose sign has been read: a zero or digits that do not start with one, then an optional
fraction and an optional exponent. -/
def takeMagnitude? (negative : Bool) (text : List Char) : Option (WrittenNumber × List Char) :=
  let (whole, rest) :=
    match text with
    | '0' :: after => ([0], after)
    | _ => takeDigits text
  if whole.isEmpty then none
  else
    let fraction := takeFraction? rest
    let rest := fraction.elim rest (·.2)
    let exponent := takeExponent? rest
    some (⟨negative, whole, fraction.map (·.1), exponent.map (·.1)⟩, exponent.elim rest (·.2))

/-- A number at the start of a text, and the text after it. -/
def takeNumber? : List Char → Option (WrittenNumber × List Char)
  | '-' :: magnitude => takeMagnitude? true magnitude
  | text => takeMagnitude? false text

/-- The value of a number. A whole number may not have too many digits. -/
def WrittenNumber.value (number : WrittenNumber) : Except Halt Json :=
  match number.fraction, number.exponent with
  | none, none =>
    if number.whole.length ≤ Number.maxDigits then
      .ok (.int (Number.signed number.negative (Text.ofDigits number.whole)))
    else .error (.tooManyDigits number.whole.length)
  | fraction, exponent =>
    let decimals := fraction.getD []
    .ok (.float (floatOfDecimal number.negative (number.whole ++ decimals)
      (exponent.getD 0 - decimals.length)))

/-- The values that are written by a name. -/
def namedValues : List (String × Json) :=
  [("null", .null), ("true", .bool true), ("false", .bool false), ("NaN", .float (0 / 0)),
   ("Infinity", .float (1 / 0)), ("-Infinity", .float (-1 / 0))]

/-- A value that is written by a name, and the text after the name. -/
def readNamed? (text : List Char) : Option (Json × List Char) :=
  namedValues.findSome? fun named =>
    if named.1.toList.isPrefixOf text then some (named.2, text.drop named.1.length) else none

/-- A value that is a name or a number. -/
def readScalar (text : List Char) : Reading (Json × List Char) :=
  match readNamed? text with
  | some read => .ok read
  | none =>
    match takeNumber? text with
    | some (number, rest) => number.value.map (·, rest)
    | none => .error (.fault .expectingValue text)

mutual

/-- A value at the start of a text, in which so many arrays and objects may be nested as there is
room for. The fuel bounds the characters that are opened or separated; the length of the text is
enough. -/
def readValue : (fuel room : Nat) → List Char → Reading (Json × List Char)
  | 0, _, text => .error (.fault .expectingValue text)
  | _ + 1, _, '\x22' :: text => do
    let (value, rest) ← readString ('\x22' :: text) text
    return (.str value, rest)
  | _ + 1, 0, '[' :: _ => .error (.tooDeep .array)
  | fuel + 1, room + 1, '[' :: text =>
    match skipSpaces text with
    | ']' :: rest => .ok (.arr [], rest)
    | first => do
      let (items, rest) ← readItems fuel room first
      return (.arr items, rest)
  | _ + 1, 0, '\x7b' :: _ => .error (.tooDeep .object)
  | fuel + 1, room + 1, '\x7b' :: text =>
    match skipSpaces text with
    | '\x7d' :: rest => .ok (.obj [], rest)
    | first => do
      let (members, rest) ← readMembers fuel room first
      return (.ofMembers members, rest)
  | _ + 1, _, text => readScalar text

/-- The items of an array from one of them on. -/
def readItems : (fuel room : Nat) → List Char → Reading (List Json × List Char)
  | 0, _, text => .error (.fault .expectingValue text)
  | fuel + 1, room, text => do
    let (item, rest) ← readValue fuel room text
    match skipSpaces rest with
    | ']' :: rest => return ([item], rest)
    | ',' :: rest =>
      let (items, rest) ← readItems fuel room (skipSpaces rest)
      return (item :: items, rest)
    | rest => throw (.fault .expectingComma rest)

/-- The members of an object from one of them on. -/
def readMembers : (fuel room : Nat) → List Char → Reading (List (String × Json) × List Char)
  | 0, _, text => .error (.fault .expectingName text)
  | fuel + 1, room, '\x22' :: text => do
    let (name, rest) ← readString ('\x22' :: text) text
    match skipSpaces rest with
    | ':' :: rest =>
      let (value, rest) ← readValue fuel room (skipSpaces rest)
      match skipSpaces rest with
      | '\x7d' :: rest => return ([(name, value)], rest)
      | ',' :: rest =>
        let (members, rest) ← readMembers fuel room (skipSpaces rest)
        return ((name, value) :: members, rest)
      | rest => throw (.fault .expectingComma rest)
    | rest => throw (.fault .expectingColon rest)
  | _ + 1, _, text => .error (.fault .expectingName text)

end

/-- The JSON value that a text is, with so many arrays and objects nested as there is room for. -/
def readWithin (room : Nat) (text : List Char) : Except ReadError Json :=
  match readValue (2 * text.length + 1) room (skipSpaces text) with
  | .error halt => .error (.ofHalt text halt)
  | .ok (value, rest) =>
    match skipSpaces rest with
    | [] => .ok value
    | rest => .error (.ofHalt text (.fault .extraData rest))

/-- How many arrays and objects may be nested in one another. -/
def maxNesting : Nat := 980

def read (text : List Char) : Except ReadError Json := readWithin maxNesting text

end ScriptGate.Json
