/-! # Hexadecimal digits

Numbers are written in base sixteen with small letters; capital letters are read as well. -/

namespace ScriptGate.Text

/-- A number in base sixteen, filled up with zeros to at least the given number of digits. -/
def hexDigits (count number : Nat) : List Char :=
  let digits := Nat.toDigits 16 number
  List.replicate (count - digits.length) '0' ++ digits

/-- The value of a hexadecimal digit; nothing for any other character. -/
def hexValue? (char : Char) : Option Nat :=
  if '0' ≤ char ∧ char ≤ '9' then some (char.toNat - 0x30)
  else if 'a' ≤ char ∧ char ≤ 'f' then some (char.toNat - 0x61 + 10)
  else if 'A' ≤ char ∧ char ≤ 'F' then some (char.toNat - 0x41 + 10)
  else none

/-- Whether a character is a hexadecimal digit. -/
def isHexDigit (char : Char) : Bool := (hexValue? char).isSome

end ScriptGate.Text
