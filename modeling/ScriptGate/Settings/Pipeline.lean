import ScriptGate.Catalog
import ScriptGate.Settings.Bounds
import ScriptGate.Settings.Source

/-! # Settings of the pipeline

The time limit of requests, the greatest length of scripts, the cap on records in test mode and
the log level. The numbers never leave their bounds, so they always make a catalog; the log level
must be one of the known words. -/

namespace ScriptGate.Settings

/-- A word for a log level. -/
inductive LevelWord where
  | debug
  | info
  | warn
  | warning
  | error
deriving DecidableEq, Repr

namespace LevelWord

def all : List LevelWord := [.debug, .info, .warn, .warning, .error]

def text : LevelWord → String
  | .debug => "debug"
  | .info => "info"
  | .warn => "warn"
  | .warning => "warning"
  | .error => "error"

/-- The word that a text spells in any case. -/
def ofText? (given : String) : Option LevelWord :=
  let lowered := Text.lowercase given.toList
  all.find? fun word => word.text.toList = lowered

end LevelWord

/-- The reason for refusing a log level. -/
def levelReason (given : String) : String :=
  "Invalid LOG_LEVEL: " ++ given ++ ". Must be one of: debug, info, warn, error"

/-- A field for a log level. -/
def checkLevel (name : String) : Json → Checked LevelWord
  | .str given =>
    match LevelWord.ofText? given with
    | some word => .ok word
    | none => .refuse name (.rejected (levelReason given))
  | _ => .refuse name .notText

/-- The bounds of the time limit in milliseconds. -/
def timeoutBounds : Bounds := ⟨30000, 1000, 60000⟩

/-- The bounds of the greatest script length. -/
def lengthBounds : Bounds := ⟨10000, 100, 100000⟩

def capBounds : Bounds := ⟨100, 1, 1000⟩

structure Pipeline where
  /-- The time limit of requests in milliseconds. -/
  timeout : timeoutBounds.Member
  /-- The most characters a script may have. -/
  maxLength : lengthBounds.Member
  /-- The cap on records in test mode. -/
  maxResults : capBounds.Member
  level : LevelWord
deriving DecidableEq

/-- Why settings are refused. -/
inductive SettingsError where
  | invalid (record : InvalidRecord)
  /-- A number cannot be read. -/
  | number (error : NumberError)
deriving DecidableEq, Repr

def SettingsError.message : SettingsError → String
  | .invalid record => record.message
  | .number error => error.message

namespace Pipeline

/-- The names of the time limit. -/
def timeoutName : SettingName := ⟨"timeout", "GLIDEQUERY_TIMEOUT"⟩

def lengthName : SettingName := ⟨"max_script_length", "GLIDEQUERY_MAX_SCRIPT_LENGTH"⟩

def capName : SettingName := ⟨"test_max_results", "GLIDEQUERY_TEST_MAX_RESULTS"⟩

def levelName : SettingName := ⟨"LOG_LEVEL", "LOG_LEVEL"⟩

def names : List SettingName := [timeoutName, lengthName, capName, levelName]

def load (source : Source) : Except SettingsError Pipeline :=
  let number (name : SettingName) (bounds : Bounds) (ordered : bounds.Ordered) :=
    (bounds.read ordered (source.value? name)).mapError SettingsError.number
  do
    let timeout ← number timeoutName timeoutBounds (by decide)
    let maxLength ← number lengthName lengthBounds (by decide)
    let maxResults ← number capName capBounds (by decide)
    let level := source.optional levelName .info checkLevel
    ((level.both (source.onlyNames names)).toRecord .pipelineSettings fun (level, _) =>
      { timeout, maxLength, maxResults, level }).mapError .invalid

/-- The default catalog with the greatest script length of the settings. -/
def catalog (settings : Pipeline) : Catalog :=
  { Catalog.standard with
    maxLength := settings.maxLength.val.toNat
    maxLength_pos := by
      have low : (100 : Int) ≤ settings.maxLength.val := settings.maxLength.property.1
      omega }

end Pipeline

end ScriptGate.Settings
