/-! # Base 64

Bytes are written in groups of three: their 24 bits are four digits of base 64, and a group that
lacks one or two bytes is filled up with as many equals signs. -/

namespace ScriptGate.Text

def base64Digits : List Char :=
  "ABCDEFGHIJKLMNOPQRSTUVWXYZabcdefghijklmnopqrstuvwxyz0123456789+/".toList

/-- The digit of a six-bit number. -/
def base64Digit (value : Nat) : Char := base64Digits.getD (value % 64) '='

/-- The base 64 form of bytes. -/
def base64 : List UInt8 → List Char
  | [] => []
  | [first] =>
    let bits := first.toNat * 16
    [base64Digit (bits / 64), base64Digit bits, '=', '=']
  | [first, second] =>
    let bits := (first.toNat * 256 + second.toNat) * 4
    [base64Digit (bits / 4096), base64Digit (bits / 64), base64Digit bits, '=']
  | first :: second :: third :: bytes =>
    let bits := (first.toNat * 256 + second.toNat) * 256 + third.toNat
    base64Digit (bits / 262144) :: base64Digit (bits / 4096) :: base64Digit (bits / 64) ::
      base64Digit bits :: base64 bytes

end ScriptGate.Text
