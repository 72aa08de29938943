import ScriptGate.Remote.DomainName
import ScriptGate.Text.Digit
import ScriptGate.Text.Percent
import ScriptGate.Text.Word

/-! # Hosts

The host of an address is a numeric address of four numbers, one of eight numbers between brackets,
or a domain name. -/

namespace ScriptGate.Remote

/-- Whether a text looks like four numbers with one character between each two. Every character
that is no digit is such a character, and the others are found inside runs of digits, which give one
for every two digits after their first. -/
def looksNumeric (host : List Char) : Bool :=
  let runs := Text.splitAt '.' (host.map fun char => if Text.isAsciiDigit char then char else '.')
  let spare := runs.foldl (fun count run => count + (run.length - 1) / 2) 0
  !runs.any List.isEmpty && decide (runs.length ≤ 4) && decide (4 ≤ runs.length + spare)

/-- Whether a text is a number below 256 in decimal digits, without needless zeros. -/
def isOctet (text : List Char) : Bool :=
  let digits := text.filterMap Text.asciiDigitValue?
  !text.isEmpty && digits.length == text.length && decide (text.length ≤ 3) &&
    (text.head? != some '0' || text.length == 1) && decide (Text.ofDigits digits < 256)

def isFourNumberAddress (text : List Char) : Bool :=
  let octets := Text.splitAt '.' text
  octets.length == 4 && octets.all isOctet

/-- Whether a text is a number of sixteen bits in hexadecimal digits. -/
def isHextet (text : List Char) : Bool :=
  !text.isEmpty && decide (text.length ≤ 4) && text.all Text.isHexDigit

/-- The numbers of sixteen bits in a text, with colons between them and none in an empty text. At
the end an address of four numbers may stand for two of them. -/
def countHextets? (parts : List (List Char)) (mayEndInAddress : Bool) : Option Nat :=
  let last := parts.getLast?.getD []
  if mayEndInAddress && last.contains '.' then
    if isFourNumberAddress last && parts.dropLast.all isHextet then some (parts.length + 1)
    else none
  else if parts = [[]] ∨ parts.all isHextet then some (if parts = [[]] then 0 else parts.length)
  else none

/-- The parts of a text before and after the first two colons in a row. -/
def splitAtGap? : List Char → Option (List Char × List Char)
  | ':' :: ':' :: text => some ([], text)
  | char :: text => (splitAtGap? text).map fun (before, after) => (char :: before, after)
  | [] => none

/-- Whether a text is an address of eight numbers, a run of which may be left out once. -/
def isEightNumberAddress (text : List Char) : Bool :=
  match splitAtGap? text with
  | none => countHextets? (Text.splitAt ':' text) true = some 8
  | some (before, after) =>
    match countHextets? (Text.splitAt ':' before) false,
        countHextets? (Text.splitAt ':' after) true with
    | some high, some low => decide (high + low < 8)
    | _, _ => false

/-- Whether a text is an address of eight numbers, with or without a zone after a percent sign. -/
def isZonedAddress (text : List Char) : Bool :=
  let zone := text.dropWhile (· ≠ '%')
  isEightNumberAddress (text.takeWhile (· ≠ '%')) &&
    (zone.isEmpty || (decide (1 < zone.length) && !(zone.drop 1).contains '%'))

/-- The characters other than letters and digits that stand for themselves in a host. -/
def hostMarks : List Char := "-._~!$&'()*+,;=\x22\x60\x7b\x7d%|\\".toList

/-- Whether a character stands for itself in a host. -/
def isHostChar (char : Char) : Bool :=
  Text.isAsciiLetter char || Text.isAsciiDigit char || hostMarks.contains char

/-- What is wrong with a host. -/
inductive HostFault where
  /-- It looks like an address of four numbers, and is none. -/
  | notFourNumbers
  /-- It stands between brackets, and is no address of eight numbers. -/
  | notEightNumbers
  | notDomainName
deriving DecidableEq, Repr

/-- The form in which a host is sent, without brackets around it. -/
def hostForm (host : List Char) : Except HostFault (List Char) :=
  if looksNumeric host then
    if isFourNumberAddress host then .ok host else .error .notFourNumbers
  else if host.head? = some '[' ∧ host.getLast? = some ']' then
    let address := (host.drop 1).dropLast
    if isZonedAddress address then .ok address else .error .notEightNumbers
  else if host.all fun char => decide (char.toNat < 0x80) then
    .ok (Text.percentEncode isHostChar (Text.lowercaseAscii host))
  else
    match asciiName? (Text.lowercase host) with
    | some name => .ok name
    | none => .error .notDomainName

end ScriptGate.Remote
