import Mathlib.Data.List.Infix
import ScriptGate.Proofs.Catalog
import ScriptGate.Workbench

/-! # Catalogs over whole runs of a workbench

A step either places the catalog that it supplies after the others or leaves the workbench as it is
(`Workbench.perform_cases`). So whatever is done later, a catalog stays at its number and gives the
same verdicts (`Workbench.getElem?_performAll`), and every catalog holds what some step supplied for
it (`Workbench.exists_step_of_catalog`). -/

namespace ScriptGate

/-- The parts that a step supplies for a new catalog, if it makes one and names no unknown part. -/
def CatalogStep.parts? (bench : Workbench) : CatalogStep → Option Parts
  | .standard => some .standard
  | .create given => if given.unknown = [] then some (Parts.standard.withNew given) else none
  | .merge number overrides | .override number overrides =>
    if overrides.unknown = [] then
      bench.catalogs[number]?.map fun base => base.parts.withNew overrides
    else none
  | .inspect _ | .screen _ _ | .compare _ _ | .assign _ _ => none

namespace Workbench

variable {bench : Workbench} {catalog : Catalog} {number : Nat}

/-! ### One step -/

/-- A step that has made a catalog, or has changed nothing. -/
inductive Performs (bench : Workbench) (step : CatalogStep) : Workbench × StepAnswer → Prop where
  | made {parts : Parts} {catalog : Catalog} (supplied : step.parts? bench = some parts)
      (isMade : catalog.IsMadeOf parts) :
      Performs bench step (bench.place catalog, .made bench.catalogs.length catalog)
  | kept {answer : StepAnswer} (noCatalog : ∀ number catalog, answer ≠ .made number catalog)
      (unfit : ∀ parts, step.parts? bench = some parts → ∀ catalog : Catalog,
        ¬ catalog.IsMadeOf parts) :
      Performs bench step (bench, answer)

/-- An attempt makes a catalog when there is one that holds what the step supplies. -/
theorem performs_attempt {step : CatalogStep} {attempted : Except CatalogError Catalog}
    (makes : ∀ catalog, attempted = .ok catalog ↔
      ∃ parts, step.parts? bench = some parts ∧ catalog.IsMadeOf parts) :
    Performs bench step (bench.attempt attempted) := by
  cases outcome : attempted with
  | ok catalog =>
      obtain ⟨parts, supplied, isMade⟩ := (makes catalog).mp outcome
      exact .made supplied isMade
  | error error =>
      refine .kept nofun ?_
      intro parts supplied catalog isMade
      have made := (makes catalog).mpr ⟨parts, supplied, isMade⟩
      cases outcome.symm.trans made

/-- A step that supplies nothing answers only. -/
theorem Performs.answers {step : CatalogStep} {answer : StepAnswer}
    (noCatalog : ∀ number catalog, answer ≠ .made number catalog)
    (suppliesNone : step.parts? bench = none) : Performs bench step (bench, answer) := by
  refine .kept noCatalog ?_
  intro parts supplied
  cases suppliesNone.symm.trans supplied

theorem answerAbout_ne_made {answer : Catalog → StepAnswer}
    (noCatalog : ∀ base number catalog, answer base ≠ .made number catalog) (asked number : Nat)
    (catalog : Catalog) : bench.answerAbout asked answer ≠ .made number catalog := by
  unfold answerAbout
  split
  · exact noCatalog _ number catalog
  · nofun

/-- What a step can do, by its kind. -/
theorem perform_cases (bench : Workbench) (step : CatalogStep) :
    Performs bench step (bench.perform step) := by
  cases step with
  | standard =>
      change Performs bench .standard (bench.attempt (.ok .standard))
      apply performs_attempt
      intro catalog
      simp only [CatalogStep.parts?, Option.some.injEq, exists_eq_left', Except.ok.injEq]
      constructor
      · rintro rfl
        exact Catalog.standard_isMadeOf
      · exact Catalog.standard_isMadeOf.unique
  | create given =>
      apply performs_attempt
      intro catalog
      rw [Catalog.create_eq_ok_iff]
      by_cases known : given.unknown = [] <;> simp [CatalogStep.parts?, known]
  | merge number overrides =>
      simp only [perform]
      cases found : bench.catalogs[number]? with
      | some base =>
          apply performs_attempt
          intro catalog
          rw [Catalog.merge_eq_ok_iff]
          by_cases known : overrides.unknown = [] <;> simp [CatalogStep.parts?, known, found]
      | none =>
          apply Performs.answers
          · intro _ _ same
            cases same
          · simp [CatalogStep.parts?, found]
  | override number overrides =>
      simp only [perform]
      cases found : bench.catalogs[number]? with
      | some base =>
          apply performs_attempt
          intro catalog
          rw [Screener.withOverrides_catalog, Catalog.merge_eq_ok_iff]
          by_cases known : overrides.unknown = [] <;> simp [CatalogStep.parts?, known, found]
      | none =>
          apply Performs.answers
          · intro _ _ same
            cases same
          · simp [CatalogStep.parts?, found]
  | inspect number =>
      refine .answers (answerAbout_ne_made ?_ number) rfl
      intro _ _ _ same
      cases same
  | screen number script =>
      refine .answers (answerAbout_ne_made ?_ number) rfl
      intro base _ _ same
      unfold screenAnswer at same
      cases screened : base.screen? script <;> rw [screened] at same <;> cases same
  | compare first second =>
      refine .answers (answerAbout_ne_made ?_ first) rfl
      intro base
      apply answerAbout_ne_made
      intro _ _ _ same
      cases same
  | assign number part =>
      refine .answers (answerAbout_ne_made ?_ number) rfl
      intro _ _ _ same
      cases same

/-- A step that makes no catalog leaves the workbench as it is, and one that makes a catalog places
it after the others. -/
theorem perform_made_or_kept (bench : Workbench) (step : CatalogStep) :
    (∃ catalog, bench.perform step =
      (bench.place catalog, .made bench.catalogs.length catalog)) ∨
    ((bench.perform step).1 = bench ∧
      ∀ number catalog, (bench.perform step).2 ≠ .made number catalog) := by
  have performs := perform_cases bench step
  generalize bench.perform step = outcome at performs
  cases performs with
  | @made _ catalog _ _ => exact .inl ⟨catalog, rfl⟩
  | kept noCatalog _ => exact .inr ⟨rfl, noCatalog⟩

/-- A step makes a catalog exactly when the catalog holds what the step supplies. -/
theorem perform_eq_made_iff {step : CatalogStep} :
    bench.perform step = (bench.place catalog, .made bench.catalogs.length catalog) ↔
      ∃ parts, step.parts? bench = some parts ∧ catalog.IsMadeOf parts := by
  have performs := perform_cases bench step
  generalize bench.perform step = outcome at performs
  cases performs with
  | @made parts made supplied isMade =>
      rw [supplied]
      simp only [Option.some.injEq, exists_eq_left', Prod.mk.injEq, StepAnswer.made.injEq, true_and]
      constructor
      · rintro ⟨_, rfl⟩
        exact isMade
      · intro isOther
        exact ⟨congrArg bench.place (isMade.unique isOther), isMade.unique isOther⟩
  | kept noCatalog unfit =>
      refine iff_of_false ?_ ?_
      · rintro same
        exact noCatalog _ _ (congrArg Prod.snd same)
      · rintro ⟨parts, supplied, isMade⟩
        exact unfit parts supplied catalog isMade

theorem prefix_perform (bench : Workbench) (step : CatalogStep) :
    bench.catalogs <+: (bench.perform step).1.catalogs := by
  rcases perform_made_or_kept bench step with ⟨catalog, same⟩ | ⟨same, _⟩
  · rw [same]
    exact List.prefix_append _ _
  · rw [same]

/-! ### Runs -/

theorem performAll_cons (bench : Workbench) (step : CatalogStep) (steps : List CatalogStep) :
    (bench.performAll (step :: steps)).1 = ((bench.perform step).1.performAll steps).1 := rfl

/-- What lies on a workbench stays there, in order. -/
theorem prefix_performAll (bench : Workbench) (steps : List CatalogStep) :
    bench.catalogs <+: (bench.performAll steps).1.catalogs := by
  induction steps generalizing bench with
  | nil => exact List.prefix_refl _
  | cons step steps ih => exact (prefix_perform bench step).trans (ih (bench.perform step).1)

/-- A catalog keeps its number whatever is done later. -/
theorem getElem?_performAll (steps : List CatalogStep)
    (there : bench.catalogs[number]? = some catalog) :
    (bench.performAll steps).1.catalogs[number]? = some catalog := by
  obtain ⟨below, rfl⟩ := List.getElem?_eq_some_iff.mp there
  exact List.prefix_iff_getElem?.mp (prefix_performAll bench steps) number below

/-- Every catalog that was not there at first was made by one of the steps, of the parts that the
step supplied. -/
theorem exists_step_of_catalog {steps : List CatalogStep}
    (there : (bench.performAll steps).1.catalogs[number]? = some catalog)
    (isNew : bench.catalogs.length ≤ number) :
    ∃ before step after parts, steps = before ++ step :: after ∧
      number = (bench.performAll before).1.catalogs.length ∧
      step.parts? (bench.performAll before).1 = some parts ∧ catalog.IsMadeOf parts := by
  induction steps generalizing bench with
  | nil => exact absurd (List.getElem?_eq_some_iff.mp there).1 (Nat.not_lt.mpr isNew)
  | cons step steps ih =>
      rw [performAll_cons] at there
      by_cases later : (bench.perform step).1.catalogs.length ≤ number
      · obtain ⟨before, made, after, parts, rfl, isNumber, supplied, isMade⟩ := ih there later
        exact ⟨step :: before, made, after, parts, rfl, isNumber, supplied, isMade⟩
      -- A number that is taken after this step and was free before it is that of its catalog.
      · rcases perform_made_or_kept bench step with ⟨own, same⟩ | ⟨same, _⟩
        · obtain ⟨parts, supplied, isMade⟩ := perform_eq_made_iff.mp same
          rw [same] at there later
          have isNumber : number = bench.catalogs.length := by
            simp only [place, List.length_append, List.length_singleton] at later
            omega
          have isOwn : (bench.place own).catalogs[number]? = some own := by
            rw [isNumber, place, List.getElem?_concat_length]
          cases (getElem?_performAll steps isOwn).symm.trans there
          exact ⟨[], step, steps, parts, rfl, isNumber, supplied, isMade⟩
        · rw [same] at later
          exact absurd isNew later

theorem perform_screen {script : List Char} (there : bench.catalogs[number]? = some catalog) :
    bench.perform (.screen number (some script)) = (bench, .screened (catalog.screen script)) := by
  simp only [perform, answerAbout, there, screenAnswer, Catalog.screen?]

theorem perform_assign {part : String} (there : bench.catalogs[number]? = some catalog) :
    bench.perform (.assign number part) = (bench, .refused (.immutable part)) := by
  simp only [perform, answerAbout, there, assignAnswer, Catalog.assign]

/-- **Catalogs over whole runs.** After any steps, every catalog was made by one of them, and holds
what that step supplied: every pattern, in order, as it is written and with its flags, ignoring
case, and a length limit of at least one. No later steps change a catalog, its number or its verdict
on a script. A step makes a catalog exactly when there is one that holds what the step supplies; any
other step leaves the workbench as it is, and so does every assignment, which is always refused. -/
theorem catalogs_performAll (steps : List CatalogStep) :
    let bench := (empty.performAll steps).1
    (∀ number catalog, bench.catalogs[number]? = some catalog →
      (∃ before step after parts, steps = before ++ step :: after ∧
        number = (empty.performAll before).1.catalogs.length ∧
        step.parts? (empty.performAll before).1 = some parts ∧ catalog.IsMadeOf parts) ∧
      (∀ later, (bench.performAll later).1.catalogs[number]? = some catalog ∧
        ∀ script, (bench.performAll later).1.perform (.screen number (some script)) =
          ((bench.performAll later).1, .screened (catalog.screen script))) ∧
      ∀ part, bench.perform (.assign number part) = (bench, .refused (.immutable part))) ∧
    ∀ step,
      (∀ catalog, bench.perform step =
          (bench.place catalog, .made bench.catalogs.length catalog) ↔
        ∃ parts, step.parts? bench = some parts ∧ catalog.IsMadeOf parts) ∧
      ((∃ catalog, bench.perform step =
          (bench.place catalog, .made bench.catalogs.length catalog)) ∨
        ((bench.perform step).1 = bench ∧
          ∀ number catalog, (bench.perform step).2 ≠ .made number catalog)) := by
  intro bench
  constructor
  · intro number catalog there
    refine ⟨exists_step_of_catalog there (Nat.zero_le _), ?_, fun part => perform_assign there⟩
    intro later
    have stays := getElem?_performAll later there
    exact ⟨stays, fun script => perform_screen stays⟩
  · intro step
    exact ⟨fun catalog => perform_eq_made_iff, perform_made_or_kept bench step⟩

end Workbench

end ScriptGate
