import ScriptGate.Field
import ScriptGate.Text.Case

/-! # Where settings come from

A setting is given by a keyword or by a variable of the environment; a keyword goes before a
variable. The case of a variable's name does not matter, and of several variables with one name
the last one counts. Variables that name no setting are ignored, and keywords that name none are
refused. -/

namespace ScriptGate.Settings

structure SettingName where
  keyword : String
  /-- Its variable in the environment. -/
  variableName : String
deriving DecidableEq, Repr

/-- The variables of an environment, in order. -/
abbrev Environment := List (String × String)

def Environment.value? (environment : Environment) (name : String) : Option String :=
  let wanted := Text.lowercase name.toList
  (environment.reverse.find? fun entry => Text.lowercase entry.1.toList = wanted).map (·.2)

/-- The given values of settings. -/
structure Source where
  environment : Environment
  /-- The keywords with their values. -/
  keywords : List (String × Json)

namespace Source

/-- The values that come from an environment alone. -/
def ofEnvironment (environment : Environment) : Source := ⟨environment, []⟩

def value? (source : Source) (name : SettingName) : Option Json :=
  match source.keywords.lookup name.keyword with
  | some value => some value
  | none => (source.environment.value? name.variableName).map .str

def required {α : Type} (source : Source) (name : SettingName)
    (check : String → Json → Checked α) : Checked α :=
  match source.value? name with
  | some value => check name.keyword value
  | none => .refuse name.keyword .missing

/-- A setting with a value for when it is not given. -/
def optional {α : Type} (source : Source) (name : SettingName) (fallback : α)
    (check : String → Json → Checked α) : Checked α :=
  match source.value? name with
  | some value => check name.keyword value
  | none => .ok fallback

/-- The faults of the keywords that name no setting, in the order in which they are given. -/
def unknownFaults (source : Source) (names : List SettingName) : List FieldFault :=
  let unknown := source.keywords.filter fun entry => !(names.map (·.keyword)).contains entry.1
  unknown.map fun entry => ⟨[.field entry.1], .extra⟩

/-- The check that every keyword names a setting. -/
def onlyNames (source : Source) (names : List SettingName) : Checked Unit :=
  match source.unknownFaults names with
  | [] => .ok ()
  | faults => .error faults

end Source

end ScriptGate.Settings
