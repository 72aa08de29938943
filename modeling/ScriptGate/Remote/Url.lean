import ScriptGate.Number.Literal
import ScriptGate.Remote.Url.Error
import ScriptGate.Remote.Url.Parts

/-! # Addresses

An address is kept in the form in which it is sent: the scheme and the host are in lower case, the
port is left out where it is the one of the scheme, steps inside the path are carried out, and
characters that may not stand in a part are percent-encoded. The address of a request is a base
address with the path and the query of an endpoint after its own, unless the endpoint is a whole
address. -/

namespace ScriptGate.Remote

/-- The most characters of an address, and of each of its parts. -/
def maxUrlLength : Nat := 65536

/-- Whether an ASCII character is visible and none of the given ones. -/
def isVisibleExcept (unsafeChars : List Char) (char : Char) : Bool :=
  decide (0x20 < char.toNat) && decide (char.toNat < 0x7F) && !unsafeChars.contains char

/-- The visible characters that are encoded in a query. -/
def unsafeInQuery : List Char := ['\x22', '#', '<', '>']

/-- The visible characters that are encoded in a path. -/
def unsafeInPath : List Char := unsafeInQuery ++ ['?', '\x60', '\x7b', '\x7d']

/-- The visible characters that are encoded in a user. -/
def unsafeInUser : List Char := unsafeInPath ++ ['/', ';', '=', '@', '[', '\\', ']', '^', '|']

/-- The visible characters that are encoded in a fragment. -/
def unsafeInFragment : List Char := ['\x22', '<', '>', '\x60']

/-- A part of an address in which the given visible characters are encoded, and all others. -/
def encodePart (unsafeChars : List Char) (part : List Char) : List Char :=
  Text.percentEncode (isVisibleExcept unsafeChars) part

/-- An address. -/
structure Url where
  /-- The scheme, empty when there is none. -/
  scheme : List Char
  /-- The user, with a password after a colon. -/
  user : List Char
  host : List Char
  /-- The port, unless it is the one of the scheme. -/
  port : Option Int
  path : List Char
  query : Option (List Char)
  fragment : Option (List Char)
deriving DecidableEq, Repr

def schemePorts : List (String × Int) :=
  [("ftp", 21), ("http", 80), ("https", 443), ("ws", 80), ("wss", 443)]

/-- The port that a text names, nothing for that of a scheme. -/
def readPort (scheme port : List Char) : Except UrlError (Option Int) :=
  if port.isEmpty then .ok none
  else
    match Number.readWhole? port with
    | none => .error (.port port)
    | some number =>
      .ok (if schemePorts.lookup (String.ofList scheme) = some number then none else some number)

/-- The steps of a path after those before it, the last of them first. A step up takes away the one
before it, but not the start of the path. -/
def walk (walked : List (List Char)) : List (List Char) → List (List Char)
  | [] => walked.reverse
  | step :: steps =>
    if step = ['.'] then walk walked steps
    else if step = ['.', '.'] then walk (if walked = [[]] then walked else walked.drop 1) steps
    else walk (step :: walked) steps

/-- A path without steps that stay or go up. -/
def walkPath (path : List Char) : List Char :=
  ['/'].intercalate (walk [] (Text.splitAt '/' path))

/-- The path of an address, in which only that of a whole address is walked. -/
def checkPath (isWhole : Bool) (path : List Char) : Except UrlError (List Char) :=
  if isWhole then .ok (walkPath path)
  else if ['/', '/'].isPrefixOf path then .error .leadingSlashes
  else if path.head? = some ':' then .error .leadingColon
  else .ok path

namespace Url

/-- The address with the given parts. The port of a scheme is known by the scheme as it is written.
-/
def ofParts (parts : UrlParts) : Except UrlError Url := do
  let authority := AuthorityParts.ofText parts.authority
  let user := encodePart unsafeInUser authority.user
  let host ← (hostForm authority.host).mapError (UrlError.host · authority.host)
  let port ← readPort parts.scheme authority.port
  let isWhole := !(parts.scheme.isEmpty && user.isEmpty && host.isEmpty && port.isNone)
  let path ← checkPath isWhole parts.path
  return {
    scheme := Text.lowercaseAscii parts.scheme
    user
    host
    port
    path := encodePart unsafeInPath path
    query := parts.query.map (encodePart unsafeInQuery)
    fragment := parts.fragment.map (encodePart unsafeInFragment) }

def isControl (char : Char) : Bool := decide (char.toNat < 0x20) || char.toNat = 0x7F

/-- The address that a text writes. -/
def ofText (text : List Char) : Except UrlError Url :=
  if maxUrlLength < text.length then .error .tooLong
  else
    match text.find? isControl with
    | some char => .error (.control char (text.takeWhile (· ≠ char)).length)
    | none => ofParts (.ofText text)

/-- The user, the host and the port in writing. -/
def authority (url : Url) : List Char :=
  (if url.user.isEmpty then [] else url.user ++ ['@']) ++
    (if url.host.contains ':' then '[' :: url.host ++ [']'] else url.host) ++
    url.port.elim [] fun port => ':' :: (toString port).toList

/-- A query or fragment in writing, after its mark. -/
def marked (mark : Char) (part : Option (List Char)) : List Char := part.elim [] (mark :: ·)

/-- The path, at least a slash, and the query. -/
def target (url : Url) : List Char :=
  (if url.path.isEmpty then ['/'] else url.path) ++ marked '?' url.query

/-- An address in writing. -/
def text (url : Url) : List Char :=
  (if url.scheme.isEmpty then [] else url.scheme ++ [':']) ++
    (if url.authority.isEmpty then [] else '/' :: '/' :: url.authority) ++
    url.path ++ marked '?' url.query ++ marked '#' url.fragment

/-- The first part that is too long. -/
def longPart? (parts : UrlParts) : Option UrlPart :=
  let named :=
    [(UrlPart.authority, parts.authority), (.path, parts.path), (.query, parts.query.getD []),
     (.fragment, parts.fragment.getD [])]
  (named.find? fun (_, written) => decide (maxUrlLength < written.length)).map (·.1)

/-- The address with another path and query. -/
def withTarget (url : Url) (target : List Char) : Except UrlError Url :=
  let (path, query) := splitAfter '?' target
  let parts : UrlParts := ⟨url.scheme, url.authority, path, query, url.fragment⟩
  match longPart? parts with
  | some part => .error (.partTooLong part)
  | none => ofParts parts

/-- The base address that a text writes. Its path and query end with a slash. -/
def baseOfText (text : List Char) : Except UrlError Url := do
  let url ← ofText text
  if url.target.getLast? = some '/' then return url else url.withTarget (url.target ++ ['/'])

/-- Whether an address does not depend on another one. -/
def isAbsolute (url : Url) : Bool := !url.scheme.isEmpty && !url.host.isEmpty

/-- The address of an endpoint under a base address. -/
def join (base endpoint : Url) : Except UrlError Url :=
  if endpoint.isAbsolute then .ok endpoint
  else base.withTarget (base.target ++ endpoint.target.dropWhile (· = '/'))

/-- Whether the text of an address starts with a type: something before a colon and any slash. -/
def hasType (url : Url) : Bool :=
  let type := url.text.takeWhile fun char => char != ':' && char != '/'
  !type.isEmpty && (url.text.drop type.length).head? = some ':'

end Url

end ScriptGate.Remote
