import ScriptGate.Text.CaseTable
import ScriptGate.Text.SigmaTable
import ScriptGate.Text.Word

/-! # Case

Two characters are the same letter when their case keys are equal: the key is the lower-case
counterpart, or the least lower-case character that shares its upper-case counterpart. So the
ASCII letters `i`, `k` and `s` are the same letters as the dotless and the dotted `i`, the Kelvin
sign and the long `s`. The lower-case form of a text differs from this in two places: the dotted
capital becomes two characters, and a capital sigma becomes a final one at the end of a word. -/

namespace ScriptGate.Text

/-- Whether a code point belongs to a run. -/
def CaseRun.has (run : CaseRun) (code : Nat) : Bool :=
  decide (run.first ≤ code) && decide (code ≤ run.last) && (code - run.first) % run.step == 0

/-- The lower-case counterpart of a code point, itself when it has none. -/
def lowerCode (code : Nat) : Nat :=
  if code < 0x80 then
    if 0x41 ≤ code ∧ code ≤ 0x5A then code + 0x20 else code
  else
    match wideCaseRuns.find? (·.has code) with
    | some run => run.lower + (code - run.first)
    | none => code

/-- The number that all characters of one letter share. -/
def caseKey (char : Char) : Nat :=
  let lower := lowerCode char.toNat
  if lower < 0x80 then lower else (caseSiblings.lookup lower).getD lower

/-- Whether two characters are equal up to case. -/
def sameLetter (first second : Char) : Bool := caseKey first == caseKey second

/-- The code points of a run whose lower-case counterpart is `lower`. -/
def CaseRun.upperOf? (run : CaseRun) (lower : Nat) : Option Nat :=
  let code := run.first + (lower - run.lower)
  if run.lower ≤ lower ∧ run.has code then some code else none

/-- The code points whose lower-case counterpart is `lower`, when that is one itself. -/
def codesLoweringTo (lower : Nat) : List Nat :=
  (if 0x61 ≤ lower ∧ lower ≤ 0x7A then [lower, lower - 0x20] else [lower]) ++
    wideCaseRuns.filterMap (·.upperOf? lower)

/-- The code points of all characters with a given case key. -/
def codesWithKey (key : Nat) : List Nat :=
  (key :: (caseSiblings.filter (·.2 == key)).map (·.1)).flatMap codesLoweringTo

/-- Whether some character of a closed range is equal to the given one up to case. -/
def rangeHasLetter (first last : Char) (char : Char) : Bool :=
  (codesWithKey (caseKey char)).any fun code =>
    decide (first.toNat ≤ code) && decide (code ≤ last.toNat)

/-- Whether the characters passed on the way to a capital sigma, nearest first, include a cased one
before any that case does not ignore. -/
def meetsCased : List Char → Bool
  | [] => false
  | char :: others =>
    if inRanges caseIgnorableRanges char.toNat then meetsCased others
    else inRanges casedRanges char.toNat

/-- The lower-case form of a text whose already read characters are given nearest first. -/
def lowercaseAfter (before : List Char) : List Char → List Char
  | [] => []
  | char :: text =>
    let lowered :=
      if char.toNat = 0x130 then ['i', Char.ofNat 0x307]
      else if char.toNat = 0x3A3 then
        [Char.ofNat (if meetsCased before && !meetsCased text then 0x3C2 else 0x3C3)]
      else [Char.ofNat (lowerCode char.toNat)]
    lowered ++ lowercaseAfter (char :: before) text

def lowercase (text : List Char) : List Char := lowercaseAfter [] text

/-- The lower-case form of ASCII letters, with every other character as it is. -/
def lowercaseAscii (text : List Char) : List Char := text.map Char.toLower

end ScriptGate.Text
