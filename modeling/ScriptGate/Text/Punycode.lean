import ScriptGate.Text.Blank

/-! # Punycode

A text is written in lower-case ASCII letters, digits and hyphens: first its ASCII characters, then
a hyphen if there are any, then where each other character goes. The characters are inserted in the
order of their codes. A number between two insertions counts the combinations of a code and a
position that are passed over, and is written in base 36 with its least digit first; the weights of
the digits follow a threshold that adapts to the numbers written so far. -/

namespace ScriptGate.Text.Punycode

/-- The first threshold. -/
def initialBias : Nat := 72

/-- The first code that is no ASCII character. -/
def firstCode : Nat := 0x80

def threshold (bias place : Nat) : Nat := max 1 (min 26 (36 * (place + 1) - bias))

/-- A number brought below a bound in steps, with 36 counted for each step. -/
def scaleDown (number count : Nat) : Nat × Nat :=
  if 455 < number then scaleDown (number / 35) (count + 36) else (number, count)
termination_by number

/-- The bias after a number, with the count of characters including the one just inserted. -/
def adapt (number count : Nat) (isFirst : Bool) : Nat :=
  let damped := number / (if isFirst then 700 else 2)
  let (scaled, steps) := scaleDown (damped + damped / count) 0
  steps + 36 * scaled / (scaled + 38)

def digitChar (digit : Nat) : Char := Char.ofNat (if digit < 26 then 0x61 + digit else 22 + digit)

def digitValue? (char : Char) : Option Nat :=
  if 'a' ≤ char ∧ char ≤ 'z' then some (char.toNat - 0x61)
  else if 'A' ≤ char ∧ char ≤ 'Z' then some (char.toNat - 0x41)
  else if '0' ≤ char ∧ char ≤ '9' then some (char.toNat - 22)
  else none

def digits (bias place number : Nat) : List Nat :=
  let least := threshold bias place
  if number < least then [number]
  else
    (least + (number - least) % (36 - least)) ::
      digits bias (place + 1) ((number - least) / (36 - least))
termination_by number
decreasing_by
  have positive : 1 ≤ threshold bias place := Nat.le_max_left ..
  exact Nat.lt_of_le_of_lt (Nat.div_le_self ..) (by omega)

/-- What has been written so far. -/
structure Written where
  /-- The characters for the insertions. -/
  output : List Char
  /-- The combinations passed over since the last insertion. -/
  passed : Nat
  bias : Nat
  /-- The number of characters that are in place. -/
  count : Nat
  /-- Whether nothing has been inserted. -/
  isFirst : Bool
deriving DecidableEq, Repr

/-- The state after a character of the text, while those with a given code are inserted. -/
def Written.pass (written : Written) (code : Nat) (char : Char) : Written :=
  if char.toNat < code then { written with passed := written.passed + 1 }
  else if char.toNat = code then
    { output := written.output ++ (digits written.bias 0 written.passed).map digitChar
      passed := 0
      bias := adapt written.passed (written.count + 1) written.isFirst
      count := written.count + 1
      isFirst := false }
  else written

/-- The state after the characters of all given codes are inserted, from a code on. -/
def insertCodes (text : List Char) : (code : Nat) → List Nat → Written → Written
  | _, [], written => written
  | code, next :: codes, written =>
    let skipped := { written with passed := written.passed + (next - code) * (written.count + 1) }
    let inserted := text.foldl (fun state char => state.pass next char) skipped
    insertCodes text (next + 1) codes { inserted with passed := inserted.passed + 1 }

/-- Numbers in increasing order with one more, which is not repeated. -/
def insertSorted (number : Nat) : List Nat → List Nat
  | [] => [number]
  | first :: others =>
    if number < first then number :: first :: others
    else if number = first then first :: others
    else first :: insertSorted number others

def isBasic (char : Char) : Bool := decide (char.toNat < firstCode)

/-- The written form of a text. -/
def encode (text : List Char) : List Char :=
  let basic := text.filter isBasic
  let codes := ((text.filter (!isBasic ·)).map Char.toNat).foldr insertSorted []
  let written := insertCodes text firstCode codes ⟨[], 0, initialBias, basic.length, true⟩
  basic ++ (if basic.isEmpty then [] else ['-']) ++ written.output

/-- The number at the start of a text, and the text after it. -/
def takeNumber? (bias : Nat) : (place weight number : Nat) → (text : List Char) →
    Option (Nat × { rest : List Char // rest.length < text.length })
  | _, _, _, [] => none
  | place, weight, number, char :: text => do
    let digit ← digitValue? char
    let sum := number + digit * weight
    let least := threshold bias place
    if digit < least then return (sum, ⟨text, by simp⟩)
    else
      let (taken, rest) ← takeNumber? bias (place + 1) (weight * (36 - least)) sum text
      return (taken, ⟨rest.val, Nat.lt_trans rest.property (by simp)⟩)

/-- The text with the characters that are inserted into the given one: the code and the position
from which the combinations are counted go on from one insertion to the next. -/
def insertChars? (bias code position : Nat) (known : List Char) (isFirst : Bool)
    (text : List Char) : Option (List Char) :=
  if text.isEmpty then some known
  else
    match takeNumber? bias 0 1 0 text with
    | none => none
    | some (number, rest) =>
      let count := known.length + 1
      let place := (position + number) % count
      let next := code + (position + number) / count
      if next.isValidChar then
        insertChars? (adapt number count isFirst) next (place + 1)
          (known.take place ++ Char.ofNat next :: known.drop place) false rest.val
      else none
termination_by text.length
decreasing_by exact rest.property

/-- The text that a written form stands for. -/
def decode? (text : List Char) : Option (List Char) :=
  let insertions := (text.reverse.takeWhile (· ≠ '-')).reverse
  let basic := (text.take (text.length - insertions.length)).dropLast
  insertChars? initialBias firstCode 0 basic true insertions

end ScriptGate.Text.Punycode
