import ScriptGate.Remote.Client
import ScriptGate.Settings.InstanceUrl
import ScriptGate.Settings.Source

/-! # Settings of the instance

The address of the instance, the user with a password, and the endpoint that runs scripts. All but
the endpoint must be given. -/

namespace ScriptGate.Settings

structure Instance where
  url : String
  username : String
  password : String
  /-- The path of the endpoint. -/
  endpoint : String
deriving DecidableEq, Repr

/-- The reason for refusing an address. -/
def urlReason (given : String) : String :=
  "Invalid ServiceNow URL format: " ++ given ++ ". URL must be a valid HTTPS URL " ++
    "(e.g., https://instance.service-now.com)"

/-- A field for the address of an instance. -/
def checkUrl (name : String) : Json → Checked String
  | .str given =>
    if isInstanceUrl given.toList then .ok (String.ofList (storedUrl given.toList))
    else .refuse name (.rejected (urlReason given))
  | _ => .refuse name .notText

namespace Instance

def urlName : SettingName := ⟨"instance_url", "SERVICENOW_INSTANCE_URL"⟩

def usernameName : SettingName := ⟨"username", "SERVICENOW_USERNAME"⟩

def passwordName : SettingName := ⟨"password", "SERVICENOW_PASSWORD"⟩

def endpointName : SettingName := ⟨"script_endpoint", "SERVICENOW_SCRIPT_ENDPOINT"⟩

def names : List SettingName := [urlName, usernameName, passwordName, endpointName]

def load (source : Source) : Except InvalidRecord Instance :=
  let url := source.required urlName checkUrl
  let username := source.required usernameName checkText
  let password := source.required passwordName checkText
  let endpoint := source.optional endpointName Remote.defaultEndpoint checkText
  (url.both (username.both (password.both (endpoint.both (source.onlyNames names))))).toRecord
    .instanceSettings fun (url, username, password, endpoint, _) =>
      { url, username, password, endpoint }

/-- The password as it may be shown: a row of stars that tells only whether there is one. -/
def maskedPassword (settings : Instance) : String :=
  if settings.password.isEmpty then "" else "**********"

end Instance

end ScriptGate.Settings
