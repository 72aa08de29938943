import ScriptGate.Json.Basic
import ScriptGate.Number.Shortest
import ScriptGate.Text.Hex

/-! # Writing JSON

The written form of a JSON value has a space after each comma and colon and holds ASCII characters
only: any other character is written by its code, as two surrogates outside the basic plane. -/

namespace ScriptGate.Json

/-- The escape for a code of the basic plane. -/
def escapeCode (code : Nat) : List Char := '\\' :: 'u' :: Text.hexDigits 4 code

/-- The written form of a character of a string. -/
def escapeChar (char : Char) : List Char :=
  let code := char.toNat
  if char = '\x22' then ['\\', '\x22']
  else if char = '\\' then ['\\', '\\']
  else if char = '\n' then ['\\', 'n']
  else if char = '\r' then ['\\', 'r']
  else if char = '\t' then ['\\', 't']
  else if code = 0x08 then ['\\', 'b']
  else if code = 0x0C then ['\\', 'f']
  else if 0x20 ≤ code ∧ code < 0x7F then [char]
  else if code < 0x10000 then escapeCode code
  else
    escapeCode (0xD800 + (code - 0x10000) / 0x400) ++ escapeCode (0xDC00 + (code - 0x10000) % 0x400)

/-- The written form of a string. -/
def quote (text : String) : String :=
  String.ofList ('\x22' :: (text.toList.flatMap escapeChar ++ ['\x22']))

/-- The written form of a float. -/
def floatLiteral (value : Float) : String :=
  if value.isNaN then "NaN"
  else if value.isInf then (if value < 0 then "-Infinity" else "Infinity")
  else Number.floatText value

mutual

/-- The written form of a value. -/
def write : Json → String
  | .null => "null"
  | .bool true => "true"
  | .bool false => "false"
  | .int value => toString value
  | .float value => floatLiteral value
  | .str value => quote value
  | .arr items => "[" ++ ", ".intercalate (writeItems items) ++ "]"
  | .obj members => "\x7b" ++ ", ".intercalate (writeMembers members) ++ "\x7d"

def writeItems : List Json → List String
  | [] => []
  | item :: items => write item :: writeItems items

def writeMembers : List (String × Json) → List String
  | [] => []
  | (name, value) :: members => (quote name ++ ": " ++ write value) :: writeMembers members

end

end ScriptGate.Json
