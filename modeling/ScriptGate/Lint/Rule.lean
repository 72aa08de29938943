import ScriptGate.Lint.Check

/-! # Lint rules

A rule is a check with a name and a severity. Findings of errors make a script invalid, findings of
warnings do not. -/

namespace ScriptGate.Lint

/-- How a finding affects validity. -/
inductive Severity where
  /-- It makes the script invalid. -/
  | error
  | warning
deriving DecidableEq, Repr

def Severity.name : Severity → String
  | .error => "error"
  | .warning => "warning"

def Severity.ofName? (name : String) : Option Severity :=
  [Severity.error, Severity.warning].find? (·.name == name)

/-- A named check. -/
structure Rule where
  /-- The name of the rule. -/
  name : String
  /-- How its findings affect validity. -/
  severity : Severity
  /-- What it finds in a script. -/
  check : List Char → List Finding
  description : String

def rules : List Rule :=
  [⟨"undefined-method", .error, undefinedMethodFindings,
    "Plausible method names that GlideQuery does not define"⟩,
   ⟨"terminal-chaining", .error, chainFindings, "Two terminal operations in one statement"⟩,
   ⟨"invalid-operator", .error, whereFindings,
    "Unknown operator in a 3-argument where/orWhere clause"⟩,
   ⟨"invalid-having-operator", .error, havingFindings, "Unknown operator in a having clause"⟩,
   ⟨"missing-parentheses", .warning, parenthesesFindings,
    "Known method referenced without a call"⟩,
   ⟨"unknown-field-flag", .warning, flagFindings, "Field suffix modifier outside the allow-list"⟩,
   ⟨"legacy-glide-record", .warning, legacyFindings, "Legacy GlideRecord cursor API"⟩,
   ⟨"unguarded-optional-get", .warning, unguardedFindings,
    "Optional.get() with no presence check or fallback"⟩]

def ruleNamed? (name : String) : Option Rule := rules.find? (·.name == name)

end ScriptGate.Lint
