import ScriptGate.Screening

/-! # A workbench for catalogs

Catalogs that are made in several steps lie on a workbench, numbered in the order in which they were
made. A step makes a new catalog, or looks at the ones that are there; a step that fails makes none.
No step changes a catalog that is there. -/

namespace ScriptGate

inductive CatalogStep where
  | standard
  /-- Makes a catalog of the given parts. -/
  | create (parts : Overrides)
  /-- Makes a catalog from another one with new values. -/
  | merge (number : Nat) (overrides : Overrides)
  /-- Makes the catalog of a screener with new values, from one that screens with another
  catalog. -/
  | override (number : Nat) (overrides : Overrides)
  | inspect (number : Nat)
  /-- Screens a script, which may be missing. -/
  | screen (number : Nat) (script : Option (List Char))
  | compare (first second : Nat)
  /-- Assigns a part of a catalog. -/
  | assign (number : Nat) (part : String)
deriving DecidableEq, Repr

/-- What a step tells. -/
inductive StepAnswer where
  /-- A catalog was made and got a number. -/
  | made (number : Nat) (catalog : Catalog)
  | shown (catalog : Catalog)
  | screened (verdict : Verdict)
  /-- Whether the catalogs are equal. -/
  | compared (equal : Bool)
  /-- The catalog cannot be made or changed. -/
  | refused (error : CatalogError)
  /-- The script cannot be screened. -/
  | unscreened (error : ScreenError)
  /-- There is no catalog of that number. -/
  | unknown (number : Nat)
deriving DecidableEq

def StepAnswer.log : StepAnswer → List LogRecord
  | .screened verdict => verdict.log
  | _ => []

/-- The catalogs made so far, in order. -/
structure Workbench where
  catalogs : List Catalog
deriving DecidableEq

namespace Workbench

def empty : Workbench := ⟨[]⟩

def place (bench : Workbench) (catalog : Catalog) : Workbench := ⟨bench.catalogs ++ [catalog]⟩

/-- The workbench and the answer after an attempt to make a catalog. -/
def attempt (bench : Workbench) : Except CatalogError Catalog → Workbench × StepAnswer
  | .ok catalog => (bench.place catalog, .made bench.catalogs.length catalog)
  | .error error => (bench, .refused error)

def answerAbout (bench : Workbench) (number : Nat) (answer : Catalog → StepAnswer) : StepAnswer :=
  match bench.catalogs[number]? with
  | some catalog => answer catalog
  | none => .unknown number

def assignAnswer (part : String) (catalog : Catalog) : StepAnswer :=
  match catalog.assign part with
  | .ok assigned => .shown assigned
  | .error error => .refused error

def screenAnswer (script : Option (List Char)) (catalog : Catalog) : StepAnswer :=
  match catalog.screen? script with
  | .ok verdict => .screened verdict
  | .error error => .unscreened error

def perform (bench : Workbench) : CatalogStep → Workbench × StepAnswer
  | .standard => bench.attempt (.ok .standard)
  | .create parts => bench.attempt (Catalog.create parts)
  | .merge number overrides =>
    match bench.catalogs[number]? with
    | some catalog => bench.attempt (catalog.merge overrides)
    | none => (bench, .unknown number)
  | .override number overrides =>
    match bench.catalogs[number]? with
    | some catalog =>
      bench.attempt (((Screener.mk catalog).withOverrides overrides).map (·.catalog))
    | none => (bench, .unknown number)
  | .inspect number => (bench, bench.answerAbout number .shown)
  | .screen number script => (bench, bench.answerAbout number (screenAnswer script))
  | .compare first second =>
    (bench, bench.answerAbout first fun left =>
      bench.answerAbout second fun right => .compared (left == right))
  | .assign number part => (bench, bench.answerAbout number (assignAnswer part))

/-- The workbench and the answers after some steps. -/
def performAll (bench : Workbench) : List CatalogStep → Workbench × List StepAnswer
  | [] => (bench, [])
  | step :: steps =>
    let (next, answer) := bench.perform step
    let (last, answers) := next.performAll steps
    (last, answer :: answers)

end Workbench

end ScriptGate
