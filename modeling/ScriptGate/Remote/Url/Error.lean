import ScriptGate.Remote.Host
import ScriptGate.Text.Display

/-! # Refused addresses

An address is refused when it or one of its parts is too long, when it has control characters, and
when its host, its port or its path cannot be read. -/

namespace ScriptGate.Remote

/-- The parts of an address that are read on their own. -/
inductive UrlPart where
  /-- The user, the host and the port. -/
  | authority
  | path
  | query
  | fragment
deriving DecidableEq, Repr

def UrlPart.name : UrlPart → String
  | .authority => "authority"
  | .path => "path"
  | .query => "query"
  | .fragment => "fragment"

/-- Why an address is refused. -/
inductive UrlError where
  /-- The text is too long. -/
  | tooLong
  | partTooLong (part : UrlPart)
  /-- A control character stands at an offset. -/
  | control (char : Char) (offset : Nat)
  /-- The host cannot be read. -/
  | host (fault : HostFault) (given : List Char)
  /-- The port is no whole number. -/
  | port (given : List Char)
  /-- A path without scheme and authority starts with two slashes. -/
  | leadingSlashes
  /-- A path without scheme and authority starts with a colon. -/
  | leadingColon
deriving DecidableEq, Repr

def HostFault.expected : HostFault → String
  | .notFourNumbers => "IPv4 address"
  | .notEightNumbers => "IPv6 address"
  | .notDomainName => "IDNA hostname"

def UrlError.message : UrlError → String
  | .tooLong => "URL too long"
  | .partTooLong part => s!"URL component '{part.name}' too long"
  | .control char offset =>
    let shown := Text.displayQuoted (String.singleton char)
    s!"Invalid non-printable ASCII character in URL, {shown} at position {offset}."
  | .host fault given =>
    s!"Invalid {fault.expected}: " ++ Text.displayQuoted (String.ofList given)
  | .port given => "Invalid port: " ++ Text.displayQuoted (String.ofList given)
  | .leadingSlashes => "Relative URLs cannot have a path starting with '//'"
  | .leadingColon => "Relative URLs cannot have a path starting with ':'"

end ScriptGate.Remote
