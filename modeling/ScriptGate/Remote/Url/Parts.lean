import ScriptGate.Text.Blank
import ScriptGate.Text.Word

/-! # Parts of an address

An address consists of a scheme before a colon, an authority after two slashes, a path, a query
after a question mark and a fragment after a number sign, of which any may be missing. An authority
consists of a user before an at sign, a host and a port after a colon. -/

namespace ScriptGate.Remote

/-- Whether a character may follow the first letter of a scheme. -/
def isSchemeChar (char : Char) : Bool :=
  Text.isAsciiLetter char || Text.isAsciiDigit char || ['+', '-', '.'].contains char

def isScheme (text : List Char) : Bool :=
  (text.head?.any Text.isAsciiLetter) && text.all isSchemeChar

/-- Whether a character may stand in an authority. -/
def isAuthorityChar (char : Char) : Bool := !(['/', '?', '#'].contains char)

/-- The parts of an address as they are written. -/
structure UrlParts where
  /-- The scheme, empty when there is none. -/
  scheme : List Char
  /-- The authority, empty when there is none. -/
  authority : List Char
  path : List Char
  query : Option (List Char)
  fragment : Option (List Char)
deriving DecidableEq, Repr

/-- The scheme in front of a text, and the text after its colon. -/
def splitScheme (text : List Char) : List Char × List Char :=
  let start := text.takeWhile (· ≠ ':')
  match text.dropWhile (· ≠ ':') with
  | _ :: rest => if start.isEmpty || isScheme start then (start, rest) else ([], text)
  | [] => ([], text)

/-- The authority in front of a text, and the text after it. -/
def splitAuthority (text : List Char) : List Char × List Char :=
  match Text.dropStart? ['/', '/'] text with
  | some located => (located.takeWhile isAuthorityChar, located.dropWhile isAuthorityChar)
  | none => ([], text)

/-- What comes before a character, and what comes after it, if it occurs. -/
def splitAfter (mark : Char) (text : List Char) : List Char × Option (List Char) :=
  (text.takeWhile (· ≠ mark),
   match text.dropWhile (· ≠ mark) with
   | _ :: rest => some rest
   | [] => none)

def UrlParts.ofText (text : List Char) : UrlParts :=
  let (scheme, afterScheme) := splitScheme text
  let (authority, afterAuthority) := splitAuthority afterScheme
  let (located, fragment) := splitAfter '#' afterAuthority
  let (path, query) := splitAfter '?' located
  { scheme, authority, path, query, fragment }

/-- An authority as it is written. -/
structure AuthorityParts where
  /-- The user, with a password after a colon. -/
  user : List Char
  host : List Char
  /-- The port, empty when there is none. -/
  port : List Char
deriving DecidableEq, Repr

/-- What stands before the last occurrence of a character, and what comes after it; all comes after
it when it does not occur. -/
def splitLast (mark : Char) (text : List Char) : List Char × List Char :=
  let ending := (text.reverse.takeWhile (· ≠ mark)).reverse
  ((text.take (text.length - ending.length)).dropLast, ending)

/-- The host at the start of a text: everything up to the last closing bracket after an opening
one, or else everything before a colon. -/
def hostOf (named : List Char) : List Char :=
  if named.head? = some '[' ∧ ']' ∈ named then
    named.take (named.length - (splitLast ']' named).2.length)
  else named.takeWhile (· ≠ ':')

def AuthorityParts.ofText (authority : List Char) : AuthorityParts :=
  let (user, named) := splitLast '@' authority
  let host := hostOf named
  let rest := named.drop host.length
  { user, host, port := if rest.head? = some ':' then rest.drop 1 else rest }

end ScriptGate.Remote
