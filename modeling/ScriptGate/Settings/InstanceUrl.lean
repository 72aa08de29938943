import ScriptGate.Remote.Url.Parts
import ScriptGate.Text.Case
import ScriptGate.Text.Hex

/-! # The address of an instance

An instance is addressed over an encrypted connection, by a well-formed host name. Before an
address is read, control characters and spaces at its start are dropped, and so is every tab and
line break in it. Then the scheme ends at the first colon, the authority starts after two slashes
and ends before the first slash, question mark or number sign, and the host name is what the
authority names between a user and a port. -/

namespace ScriptGate.Settings

/-- Whether a character is ignored inside an address. -/
def isIgnoredChar (char : Char) : Bool := char = '\t' || char = '\n' || char = '\r'

/-- The characters of an address that count. -/
def significantChars (url : List Char) : List Char :=
  (url.dropWhile fun char => decide (char.toNat ≤ 0x20)).filter (!isIgnoredChar ·)

/-- The scheme in lower case and the authority of an address. -/
def originOf (url : List Char) : List Char × List Char :=
  let (scheme, located) := Remote.splitScheme (significantChars url)
  (Text.lowercaseAscii scheme, (Remote.splitAuthority located).1)

/-- The host and port of an authority, without the user. -/
def hostAndPort (authority : List Char) : List Char := (Remote.splitLast '@' authority).2

/-- The host that an authority names: a text in brackets, or what stands before the port. -/
def hostText (authority : List Char) : List Char :=
  let named := hostAndPort authority
  match named.dropWhile (· ≠ '[') with
  | _ :: bracketed => bracketed.takeWhile (· ≠ ']')
  | [] => named.takeWhile (· ≠ ':')

/-- Whether an authority has a bracket of either kind. -/
def hasBracket (authority : List Char) : Bool :=
  authority.contains '[' || authority.contains ']'

/-- Whether a host is the address of a future version: the letter v, a version in hexadecimal
digits, a point and something more. Of the hosts that may stand in brackets, it alone can be a
host name. -/
def isVersionedHost : List Char → Bool
  | 'v' :: text =>
    let version := text.takeWhile Text.isHexDigit
    match text.dropWhile Text.isHexDigit with
    | '.' :: rest => !version.isEmpty && !rest.isEmpty
    | _ => false
  | _ => false

/-- Whether the bracket of a host stands first in its host and port, and its end is followed by
the port or nothing. -/
def isBracketPlaced (named : List Char) : Bool :=
  match named with
  | '[' :: bracketed =>
    match (bracketed.dropWhile (· ≠ ']')).drop 1 with
    | [] => true
    | char :: _ => char = ':'
  | _ => !named.contains '['

/-- Whether the brackets of an authority can be read: there are none, or there are both and they
hold a versioned host. -/
def areBracketsGood (authority : List Char) : Bool :=
  !hasBracket authority ||
    (authority.contains '[' && authority.contains ']' &&
      isBracketPlaced (hostAndPort authority) && isVersionedHost (hostText authority))

/-- The characters whose compatibility form has a character that delimits the parts of an address.
-/
def delimiterLookalikes : List Nat :=
  [0x2047, 0x2048, 0x2049, 0x2100, 0x2101, 0x2105, 0x2106, 0x2A74, 0xFE13, 0xFE16, 0xFE55, 0xFE56,
   0xFE5F, 0xFE6B, 0xFF03, 0xFF0F, 0xFF1A, 0xFF1F, 0xFF20]

def isReadableAuthority (authority : List Char) : Bool :=
  areBracketsGood authority &&
    !authority.any fun char => delimiterLookalikes.contains char.toNat

/-- The host name of an authority in lower case, unless the authority cannot be read. -/
def hostname? (authority : List Char) : Option (List Char) :=
  if isReadableAuthority authority then some (Text.lowercase (hostText authority)) else none

/-- Whether a character may stand in a label of a host name. -/
def isLabelChar (char : Char) : Bool :=
  Text.isAsciiLetter char || Text.isAsciiDigit char || char = '-'

/-- Whether a text is a label: up to 63 letters, digits and hyphens, with no hyphen at either end.
-/
def isLabel (text : List Char) : Bool :=
  !text.isEmpty && decide (text.length ≤ 63) && text.all isLabelChar &&
    text.head? != some '-' && text.getLast? != some '-'

/-- Whether a text consists of labels with a point between them. -/
def isHostname (text : List Char) : Bool := (Text.splitAt '.' text).all isLabel

/-- The scheme of encrypted connections. -/
def secureScheme : List Char := ['h', 't', 't', 'p', 's']

/-- Whether a text is the address of an instance. -/
def isInstanceUrl (url : List Char) : Bool :=
  let (scheme, authority) := originOf url
  scheme = secureScheme && (hostname? authority).any isHostname

/-- The form in which an address is stored: without slashes at its end. -/
def storedUrl (url : List Char) : List Char := Text.dropEndWhile (· = '/') url

end ScriptGate.Settings
