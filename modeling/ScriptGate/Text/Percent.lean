import ScriptGate.Text.Utf8

/-! # Percent-encoding

A character that may not stand in a part of an address is written by its bytes, each as a percent
sign and two hexadecimal digits. -/

namespace ScriptGate.Text

/-- The written form of a byte. -/
def percentByte (byte : UInt8) : List Char :=
  '%' :: (hexDigits 2 byte.toNat).map Char.toUpper

/-- A text in which the characters that fail the test are written by their bytes. -/
def percentEncode (isSafe : Char → Bool) (text : List Char) : List Char :=
  text.flatMap fun char =>
    if isSafe char then [char] else (bytesOfChars [char]).flatMap percentByte

/-- The bytes of a text, in which each written form of a byte stands for that byte. -/
def percentBytes : List Char → List UInt8
  | [] => []
  | '%' :: high :: low :: text =>
    match hexValue? high, hexValue? low with
    | some upper, some lower => UInt8.ofNat (16 * upper + lower) :: percentBytes text
    | _, _ => 0x25 :: percentBytes (high :: low :: text)
  | char :: text => bytesOfChars [char] ++ percentBytes text

/-- The text that a percent-encoded text stands for. -/
def percentDecode (text : List Char) : List Char := charsOfBytes (percentBytes text)

end ScriptGate.Text
