import ScriptGate.Json.Reader
import ScriptGate.Remote.Response
import ScriptGate.Remote.Status
import ScriptGate.Remote.Transport
import ScriptGate.Run.Executor

/-! # The remote client

The client sends a script to the endpoint of an instance. Nothing is sent when the address of the
request cannot be made. A response with any status but success is an error, a body must be JSON, and
a request that takes too long is reported as a failed run.
-/

namespace ScriptGate.Remote

/-- An error that the instance reports, or a request that is not sent. -/
structure ApiError where
  /-- The code of the error. -/
  code : String
  message : String
  /-- The body of the response, when it says more. -/
  detail : Option (List Char)
deriving DecidableEq, Repr

/-- Why the client has no reply. -/
inductive ClientError where
  /-- The script is blank, or the instance reports an error. -/
  | api (error : ApiError)
  /-- The time limit is too large for a number of seconds. -/
  | timeLimitTooLarge
  /-- The address of the request is refused. -/
  | address (error : UrlError)
  /-- The address of the request has no type, which shows when the response comes. -/
  | untyped (url : List Char)
  | transport (name message : String)
  /-- The bytes of the body cannot be decoded. -/
  | undecodable (error : Text.DecodeError)
  /-- The body is not JSON. -/
  | notJson (error : Json.ReadError)
  /-- A field of the body has a wrong type. -/
  | invalid (record : InvalidRecord)
deriving DecidableEq, Repr

def ClientError.message : ClientError → String
  | .api error => error.message
  | .timeLimitTooLarge => "integer division result too large for a float"
  | .address error => error.message
  | .untyped url => "unknown url type: " ++ Text.displayQuoted (String.ofList url)
  | .transport _ message => message
  | .undecodable error => error.message
  | .notJson error => error.message
  | .invalid record => record.message

/-- The time limits of a client in milliseconds. -/
structure TimeLimits where
  /-- The limit for requests without one. -/
  fallback : Int
  greatest : Int
deriving DecidableEq, Repr

/-- The time limit for a request: its own or else the default, and never more than the greatest. A
limit of zero counts as none. -/
def TimeLimits.effective (limits : TimeLimits) (requested : Option Int) : Int :=
  let limit :=
    match requested with
    | some limit => if limit = 0 then limits.fallback else limit
    | none => limits.fallback
  min limit limits.greatest

/-- A client of an instance. -/
structure Client where
  /-- The base address of the instance. -/
  base : Url
  /-- The path of the endpoint that runs scripts, or its whole address. -/
  endpoint : String
  limits : TimeLimits
  /-- The kind of content that is wished for. -/
  accept : String
  /-- The credentials, unless those in the address of a request are to be taken. -/
  credentials : Option Credentials
deriving DecidableEq, Repr

def defaultEndpoint : String := "/api/now/v1/script/execute"

/-- The default time limit in milliseconds. -/
def defaultTimeout : Int := 30000

/-- The default of the greatest time limit in milliseconds. -/
def maxTimeout : Int := 60000

/-- The wish for any kind of content. -/
def anyContent : String := "*/*"

def jsonContent : String := "application/json"

/-- What became of a request to the client. -/
structure Exchange where
  /-- The reply, or why there is none. -/
  reply : Except ClientError Reply
  /-- The requests that were sent. -/
  requests : List HttpRequest
  /-- The seconds that passed. -/
  elapsed : Float
  log : List LogRecord

namespace ApiError

def blank : ApiError := ⟨"VALIDATION_ERROR", blankMessage, none⟩

/-- The error for a response, unless its status is success. -/
def ofResponse? (response : HttpResponse) : Option ApiError :=
  match response.status with
  | 200 => none
  | 401 => some ⟨"AUTH_EXPIRED", "Session expired. Please re-authenticate.", none⟩
  | 403 =>
    some ⟨"FORBIDDEN", "Access forbidden. User does not have script execution permissions.", none⟩
  | 404 =>
    some ⟨"ENDPOINT_NOT_FOUND",
      "Script execution endpoint not found. The Script Execution API may not be available on " ++
        "this instance.", none⟩
  | status =>
    some ⟨"API_ERROR", s!"ServiceNow API error: {status} {reasonPhrase status}",
      some response.body⟩

end ApiError

/-- The seconds in a number of milliseconds, unless they are too many. -/
def seconds? (milliseconds : Int) : Option Float :=
  let magnitude := Float.ofScientific milliseconds.natAbs true 3
  if magnitude.isInf then none
  else some (if milliseconds < 0 then -magnitude else magnitude)

namespace Client

def address (client : Client) : Except UrlError Url := do
  client.base.join (← Url.ofText client.endpoint.toList)

/-- The request for a script, and its address. -/
def prepare (client : Client) (request : RunRequest) : Except ClientError (Url × HttpRequest) := do
  let some timeout := seconds? (client.limits.effective request.timeout)
    | throw .timeLimitTooLarge
  let url ← client.address.mapError .address
  return (url,
    { url := String.ofList url.text
      script := request.script
      timeout
      accept := client.accept
      credentials := client.credentials <|> url.credentials? })

/-- The reply to a request that took too long. -/
def timedOut (elapsed : Float) : Reply :=
  ⟨false, .null, none, some ⟨"Script execution timed out", none, some "TIMEOUT"⟩,
    some (milliseconds elapsed)⟩

def readBody (body : List Char) : Except ClientError Json := do
  let text ← (Text.redecode body).mapError .undecodable
  (Json.read text).mapError .notJson

def replyOfResponse (response : HttpResponse) (elapsed : Float) : Except ClientError Reply := do
  match ApiError.ofResponse? response with
  | some error => throw (.api error)
  | none => (replyOfBody (← readBody response.body) (milliseconds elapsed)).mapError .invalid

def record (level : LogLevel) (message : String) : LogRecord := ⟨level, .client, message⟩

/-- The text of an address as it is named when it has no type: without a number sign at its end. -/
def untypedText (url : Url) : List Char :=
  if url.text.getLast? = some '#' then url.text.dropLast else url.text

/-- The reply to what became of a request, and the report about it. -/
def conclude (url : Url) (outcome : TransportOutcome) : Except ClientError Reply × List LogRecord :=
  let duration := milliseconds outcome.elapsed
  match outcome.response with
  | .error failure =>
    match failure.kind.otherName? with
    | some name => (.error (.transport name failure.message), [])
    | none =>
      (.ok (timedOut outcome.elapsed),
       [record .error s!"Script execution timed out after {Number.wholeText duration}ms"])
  | .ok response =>
    if !url.hasType then (.error (.untyped (untypedText url)), [])
    else
      match replyOfResponse response outcome.elapsed with
      | .error error => (.error error, [])
      | .ok reply =>
        (.ok reply,
         [record .debug s!"Script execution completed (success={boolText reply.success})"])

/-- The report about a request before it is sent. -/
def startRecord (client : Client) (request : RunRequest) : LogRecord :=
  let limit := client.limits.effective request.timeout
  record .debug s!"Executing script (length={request.script.length}, timeout={limit}ms)"

/-- The exchange for a request. A blank script is not sent. -/
def exchange (client : Client) (transport : Transport) (request : RunRequest) : Exchange :=
  if Text.isBlankText request.script then ⟨.error (.api .blank), [], 0, []⟩
  else
    match client.prepare request with
    | .error error => ⟨.error error, [], 0, [client.startRecord request]⟩
    | .ok (url, sent) =>
      let outcome := transport sent
      let (reply, log) := conclude url outcome
      ⟨reply, [sent], outcome.elapsed, client.startRecord request :: log⟩

def runner (client : Client) (transport : Transport) : Runner := fun request =>
  let exchange := client.exchange transport request
  { reply := exchange.reply.mapError (·.message)
    elapsed := exchange.elapsed
    log := exchange.log }

end Client

/-- A run over a transport: the run, and the requests that were sent. -/
structure RemoteRun where
  run : Run
  sent : List HttpRequest

/-- The run of a script through a client. -/
def runRemotely (executor : Executor) (client : Client) (transport : Transport)
    (options : RunOptions) (script : Option (List Char)) : RemoteRun :=
  let run := executor.execute (client.runner transport) options script
  ⟨run, run.requests.flatMap fun request => (client.exchange transport request).requests⟩

end ScriptGate.Remote
