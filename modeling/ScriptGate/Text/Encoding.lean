import ScriptGate.Text.Hex

/-! # Encodings

A text travels as bytes. Which bytes stand for a character is told by the zeros among the first
four bytes of a text whose first two characters are ASCII: units of two or of four bytes, in either
order, leave zeros where units of one byte leave none. A unit that is half of a pair of surrogates
without its other half is taken for the replacement character. -/

namespace ScriptGate.Text

/-- The order of the bytes in a unit. -/
inductive ByteOrder where
  /-- The greatest comes first. -/
  | big
  /-- The least comes first. -/
  | little
deriving DecidableEq, Repr

/-- The length of the units of an encoding. -/
inductive UnitWidth where
  | two
  | four
deriving DecidableEq, Repr

/-- How bytes stand for characters. -/
inductive Encoding where
  /-- From one to four bytes for a character. -/
  | utf8
  | wide (width : UnitWidth) (order : ByteOrder)
deriving DecidableEq, Repr

def Encoding.name : Encoding → String
  | .utf8 => "utf-8"
  | .wide .two .big => "utf-16-be"
  | .wide .two .little => "utf-16-le"
  | .wide .four .big => "utf-32-be"
  | .wide .four .little => "utf-32-le"

/-- The encoding of bytes, as their first four tell it. Of shorter bytes only two tell anything. -/
def Encoding.detect : List UInt8 → Encoding
  | first :: second :: third :: fourth :: _ =>
    if first = 0 then .wide (if second = 0 then .four else .two) .big
    else if second = 0 then .wide (if third = 0 ∧ fourth = 0 then .four else .two) .little
    else .utf8
  | [first, second] =>
    if first = 0 then .wide .two .big else if second = 0 then .wide .two .little else .utf8
  | _ => .utf8

/-- What keeps bytes from being decoded. -/
inductive DecodeFault where
  /-- The last unit lacks bytes. -/
  | truncated
  /-- A unit is greater than every code point. -/
  | beyondLast
deriving DecidableEq, Repr

def DecodeFault.text : DecodeFault → String
  | .truncated => "truncated data"
  | .beyondLast => "code point not in range(0x110000)"

/-- The first bytes that cannot be decoded. -/
structure DecodeError where
  encoding : Encoding
  fault : DecodeFault
  /-- The number of bytes before the faulty ones. -/
  offset : Nat
  bytes : List UInt8
deriving DecidableEq, Repr

/-- The message about bytes that cannot be decoded. -/
def DecodeError.message (error : DecodeError) : String :=
  let subject :=
    match error.bytes with
    | [byte] => s!"byte 0x{String.ofList (hexDigits 2 byte.toNat)} in position {error.offset}"
    | bytes => s!"bytes in position {error.offset}-{error.offset + bytes.length - 1}"
  s!"'{error.encoding.name}' codec can't decode {subject}: {error.fault.text}"

/-- The number that bytes write, the greatest first. -/
def ofBytes (bytes : List UInt8) : Nat :=
  bytes.foldl (fun number byte => 256 * number + byte.toNat) 0

/-- The number that the bytes of a unit write. -/
def ByteOrder.number (order : ByteOrder) (bytes : List UInt8) : Nat :=
  match order with
  | .big => ofBytes bytes
  | .little => ofBytes bytes.reverse

/-- Units of two bytes, from an offset on. -/
def pairUnits (order : ByteOrder) : (offset : Nat) → List UInt8 → Except DecodeError (List Nat)
  | offset, first :: second :: bytes =>
    (pairUnits order (offset + 2) bytes).map (order.number [first, second] :: ·)
  | _, [] => .ok []
  | offset, bytes => .error ⟨.wide .two order, .truncated, offset, bytes⟩

/-- Units of four bytes, from an offset on. Each is a code point. -/
def quadUnits (order : ByteOrder) : (offset : Nat) → List UInt8 → Except DecodeError (List Nat)
  | offset, first :: second :: third :: fourth :: bytes =>
    let taken := [first, second, third, fourth]
    if 0x110000 ≤ order.number taken then .error ⟨.wide .four order, .beyondLast, offset, taken⟩
    else (quadUnits order (offset + 4) bytes).map (order.number taken :: ·)
  | _, [] => .ok []
  | offset, bytes => .error ⟨.wide .four order, .truncated, offset, bytes⟩

/-- The character of a code point; the replacement character for a surrogate. -/
def charOfCode (code : Nat) : Char :=
  if 0xD800 ≤ code ∧ code < 0xE000 then Char.ofNat 0xFFFD else Char.ofNat code

/-- The characters of units of two bytes: a high and a low surrogate in a row are one character. -/
def charsOfUnits : List Nat → List Char
  | [] => []
  | [unit] => [charOfCode unit]
  | unit :: next :: units =>
    if 0xD800 ≤ unit ∧ unit < 0xDC00 ∧ 0xDC00 ≤ next ∧ next < 0xE000 then
      Char.ofNat (0x10000 + (unit - 0xD800) * 0x400 + (next - 0xDC00)) :: charsOfUnits units
    else charOfCode unit :: charsOfUnits (next :: units)

/-- The characters that bytes in units of several bytes stand for. -/
def decodeWide (width : UnitWidth) (order : ByteOrder) (bytes : List UInt8) :
    Except DecodeError (List Char) :=
  match width with
  | .two => (pairUnits order 0 bytes).map charsOfUnits
  | .four => (quadUnits order 0 bytes).map (·.map charOfCode)

/-- The text without a byte order mark at its start. -/
def dropMark : List Char → List Char
  | char :: text => if char.toNat = 0xFEFF then text else char :: text
  | [] => []

/-- The text that is meant by a text whose bytes were taken for units of one byte. -/
def redecode (text : List Char) : Except DecodeError (List Char) :=
  let bytes := (String.ofList text).toUTF8.toList
  match Encoding.detect bytes with
  | .utf8 => .ok (dropMark text)
  | .wide width order => decodeWide width order bytes

end ScriptGate.Text
