import ScriptGate.Remote.Url
import ScriptGate.Text.Base64

/-! # Credentials

A user and a password go with a request in one header. They may stand in the address of the request
as well, with a colon between them. -/

namespace ScriptGate.Remote

/-- A user and a password. -/
structure Credentials where
  username : List Char
  password : List Char
deriving DecidableEq, Repr

/-- The value of the header that carries credentials. -/
def Credentials.authorization (credentials : Credentials) : String :=
  let bytes := Text.bytesOfChars (credentials.username ++ ':' :: credentials.password)
  "Basic " ++ String.ofList (Text.base64 bytes)

/-- The credentials that stand in an address, unless both are empty. -/
def Url.credentials? (url : Url) : Option Credentials :=
  let (username, password) := splitAfter ':' url.user
  let credentials : Credentials :=
    ⟨Text.percentDecode username, Text.percentDecode (password.getD [])⟩
  if credentials.username.isEmpty && credentials.password.isEmpty then none else some credentials

end ScriptGate.Remote
