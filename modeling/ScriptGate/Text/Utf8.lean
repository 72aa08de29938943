import ScriptGate.Text.Encoding

/-! # Reading bytes leniently

Bytes that should stand for characters, from one to four of them for each, are read to their end:
every longest run of bytes that starts a character but does not complete it is taken for one
replacement character, and so is a byte that starts none. -/

namespace ScriptGate.Text

/-- A character of which some bytes are still to come. -/
structure PartialChar where
  /-- The number of bytes to come. -/
  missing : Nat
  /-- The least value of the next byte. -/
  least : Nat
  /-- The greatest value of the next byte. -/
  greatest : Nat
  /-- The number that the bytes so far contribute. -/
  code : Nat
deriving DecidableEq, Repr

def replacementChar : Char := Char.ofNat 0xFFFD

/-- What a byte starts: a complete character, or a partial one. -/
def startChar (byte : Nat) : List Char × Option PartialChar :=
  if byte < 0x80 then ([Char.ofNat byte], none)
  else if 0xC2 ≤ byte ∧ byte < 0xE0 then ([], some ⟨1, 0x80, 0xBF, byte - 0xC0⟩)
  else if 0xE0 ≤ byte ∧ byte < 0xF0 then
    ([], some ⟨2, if byte = 0xE0 then 0xA0 else 0x80, if byte = 0xED then 0x9F else 0xBF,
      byte - 0xE0⟩)
  else if 0xF0 ≤ byte ∧ byte < 0xF5 then
    ([], some ⟨3, if byte = 0xF0 then 0x90 else 0x80, if byte = 0xF4 then 0x8F else 0xBF,
      byte - 0xF0⟩)
  else ([replacementChar], none)

/-- What a byte makes of a partial character: it continues it, or ends it early and starts anew. -/
def continueChar (started : PartialChar) (byte : Nat) : List Char × Option PartialChar :=
  if started.least ≤ byte ∧ byte ≤ started.greatest then
    let code := started.code * 0x40 + (byte - 0x80)
    if started.missing = 1 then ([Char.ofNat code], none)
    else ([], some ⟨started.missing - 1, 0x80, 0xBF, code⟩)
  else
    let (chars, next) := startChar byte
    (replacementChar :: chars, next)

/-- The characters of bytes after a partial character, if there is one. -/
def charsOfBytesAfter : Option PartialChar → List UInt8 → List Char
  | none, [] => []
  | some _, [] => [replacementChar]
  | started, byte :: bytes =>
    let (chars, next) :=
      match started with
      | none => startChar byte.toNat
      | some started => continueChar started byte.toNat
    chars ++ charsOfBytesAfter next bytes

def charsOfBytes (bytes : List UInt8) : List Char := charsOfBytesAfter none bytes

def bytesOfChars (text : List Char) : List UInt8 := (String.ofList text).toUTF8.toList

end ScriptGate.Text
