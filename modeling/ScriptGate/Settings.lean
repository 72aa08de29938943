import ScriptGate.Remote.Credentials
import ScriptGate.Settings.Instance
import ScriptGate.Settings.Pipeline

/-! # Settings

What is needed to run scripts on an instance: where it is, and how scripts are run. -/

namespace ScriptGate

structure Settings where
  location : Settings.Instance
  pipeline : Settings.Pipeline
deriving DecidableEq

namespace Settings

/-- The settings that an environment gives. Those of the instance are read first. -/
def load (environment : Environment) : Except SettingsError Settings := do
  let source := Source.ofEnvironment environment
  let location ← (Instance.load source).mapError .invalid
  let pipeline ← Pipeline.load source
  return { location, pipeline }

def credentials (settings : Settings) : Remote.Credentials :=
  ⟨settings.location.username.toList, settings.location.password.toList⟩

/-- The client of the instance, unless its address is refused. -/
def client (settings : Settings) : Except Remote.UrlError Remote.Client := do
  return {
    base := ← Remote.Url.baseOfText settings.location.url.toList
    endpoint := settings.location.endpoint
    limits := ⟨settings.pipeline.timeout.val, Remote.maxTimeout⟩
    accept := Remote.jsonContent
    credentials := some settings.credentials }

def executor (settings : Settings) : Executor where
  catalog := settings.pipeline.catalog
  defaultCap := settings.pipeline.maxResults.val

end Settings

end ScriptGate
