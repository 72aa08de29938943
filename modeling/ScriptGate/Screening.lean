import ScriptGate.Catalog
import ScriptGate.Log
import ScriptGate.Scan.Call

/-! # Screening

A script is safe when it is not too long and matches no pattern of the blacklist. Every violation is
reported. The operations that need a confirmation are reported as well, and do not make a script
unsafe. -/

namespace ScriptGate

/-- A reason why a script is unsafe. -/
inductive Violation where
  /-- The script is too long. -/
  | tooLong (limit length : Nat)
  /-- The script matches a pattern. -/
  | blacklisted (source : String)
deriving DecidableEq, Repr

def Violation.message : Violation → String
  | .tooLong limit length =>
    s!"Script exceeds maximum length of {limit} characters (actual: {length})"
  | .blacklisted source => s!"Blacklisted pattern detected: {source}"

/-- The outcome of screening. -/
structure Verdict where
  /-- The reasons why the script is unsafe. -/
  violations : List Violation
  /-- The operations that need a confirmation. -/
  dangerous : List String
deriving DecidableEq, Repr

def Verdict.safe (verdict : Verdict) : Bool := verdict.violations.isEmpty

namespace Catalog

def lengthViolation (catalog : Catalog) (script : List Char) : List Violation :=
  if catalog.maxLength < script.length then [.tooLong catalog.maxLength script.length] else []

/-- The violations of the blacklist, in its order. -/
def patternViolations (catalog : Catalog) (script : List Char) : List Violation :=
  (catalog.blacklist.filter (·.occursIn script)).map (.blacklisted ·.source)

def screen (catalog : Catalog) (script : List Char) : Verdict where
  violations := catalog.lengthViolation script ++ catalog.patternViolations script
  dangerous := Scan.detectOperations script catalog.confirmation

end Catalog

/-- What the screener reports about a verdict. -/
def Verdict.log (verdict : Verdict) : List LogRecord :=
  let record (message : String) : LogRecord := ⟨.debug, .screener, message⟩
  (if verdict.safe then []
   else [record s!"Script rejected with {verdict.violations.length} violation(s)"]) ++
  (if verdict.dangerous.isEmpty then []
   else [record ("Dangerous operations detected: " ++ ", ".intercalate verdict.dangerous)])

/-- Why nothing was screened. -/
inductive ScreenError where
  | noScript
deriving DecidableEq, Repr

def ScreenError.message : ScreenError → String
  | .noScript => "object of type 'NoneType' has no len()"

/-- The verdict on a script that may be missing. -/
def Catalog.screen? (catalog : Catalog) : Option (List Char) → Except ScreenError Verdict
  | some script => .ok (catalog.screen script)
  | none => .error .noScript

/-- A screener. It screens with the catalog that it was made with. -/
structure Screener where
  catalog : Catalog
deriving DecidableEq

/-- Another screener, whose catalog has the new values. -/
def Screener.withOverrides (screener : Screener) (overrides : Overrides) :
    Except CatalogError Screener :=
  (screener.catalog.merge overrides).map Screener.mk

/-- The warning that a run in test mode still changes records. -/
def writeWarning (found : List String) : String :=
  "WARNING: This script contains write operations (" ++ ", ".intercalate found ++
    ") that will persist changes to the database."

end ScriptGate
