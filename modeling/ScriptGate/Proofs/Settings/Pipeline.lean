import ScriptGate.Proofs.Catalog.Merging
import ScriptGate.Proofs.Settings.Bounds
import ScriptGate.Settings.Pipeline

/-! # Loading the settings of the pipeline

The numbers are read before anything else is checked, each within its own bounds, and only an
infinity among them is refused (`Pipeline.load_cases`). A variable of the environment is a text and
no infinity, so an environment can only fail to give settings by its log level, and the settings
that it gives always make a catalog (`numbers_stay_within_bounds`). -/

namespace ScriptGate.Settings

variable {source : Source} {environment : Environment} {given : String} {word : LevelWord}

/-! ### Log levels -/

/-- A text spells a word for a log level, in any case. -/
def LevelWord.IsSpelledBy (word : LevelWord) (given : String) : Prop :=
  Text.lowercase given.toList = word.text.toList

theorem LevelWord.ofText?_eq_some_iff : ofText? given = some word ↔ word.IsSpelledBy given := by
  constructor
  · intro found
    have same := List.find?_some found
    rw [decide_eq_true_eq] at same
    exact same.symm
  · intro spelled
    rw [ofText?, spelled]
    cases word <;> rfl

theorem LevelWord.ofText?_eq_none_iff :
    ofText? given = none ↔ ∀ word : LevelWord, ¬ word.IsSpelledBy given := by
  simp only [Option.eq_none_iff_forall_ne_some, ne_eq, ofText?_eq_some_iff]

/-- The log level that a variable gives: the one that it spells, or the usual one without it. -/
inductive LevelFrom : Option String → LevelWord → Prop where
  | missing : LevelFrom none .info
  | spelled {given : String} {word : LevelWord} (isSpelled : word.IsSpelledBy given) :
      LevelFrom (some given) word

namespace Pipeline

/-- The names of the settings that are numbers. -/
def numericNames : List SettingName := [timeoutName, lengthName, capName]

/-- Settings hold, for each of the numbers, the one that its bounds settle on. -/
structure HoldsNumbers (settings : Pipeline) (source : Source) : Prop where
  timeout : timeoutBounds.SettlesOn (source.value? timeoutName) settings.timeout.val
  maxLength : lengthBounds.SettlesOn (source.value? lengthName) settings.maxLength.val
  maxResults : capBounds.SettlesOn (source.value? capName) settings.maxResults.val

/-- What is checked after the numbers are read. -/
def checkedLevel (source : Source) : Checked (LevelWord × Unit) :=
  (source.optional levelName .info checkLevel).both (source.onlyNames names)

/-- The numbers are read unless one of them is given as an infinity. -/
theorem load_cases (source : Source) :
    ((∃ name ∈ numericNames, ∃ value ∈ source.value? name, IsInfinite value) ∧
      load source = .error (.number .infinite)) ∨
    ((∀ name ∈ numericNames, ∀ value ∈ source.value? name, ¬ IsInfinite value) ∧
      ∃ timeout maxLength maxResults,
        (∀ level, HoldsNumbers ⟨timeout, maxLength, maxResults, level⟩ source) ∧
        load source = ((checkedLevel source).toRecord .pipelineSettings fun (level, _) =>
          ⟨timeout, maxLength, maxResults, level⟩).mapError .invalid) := by
  -- the numbers are read one after the other, and the first infinity ends the loading
  rcases Bounds.read_cases (by decide : timeoutBounds.Ordered) (source.value? timeoutName) with
    ⟨infinite, refused⟩ | ⟨finiteTimeout, timeout, isTimeout, settlesTimeout⟩
  · refine .inl ⟨⟨timeoutName, by simp [numericNames], infinite⟩, ?_⟩
    simp only [load, refused]
    rfl
  rcases Bounds.read_cases (by decide : lengthBounds.Ordered) (source.value? lengthName) with
    ⟨infinite, refused⟩ | ⟨finiteLength, maxLength, isLength, settlesLength⟩
  · refine .inl ⟨⟨lengthName, by simp [numericNames], infinite⟩, ?_⟩
    simp only [load, isTimeout, refused]
    rfl
  rcases Bounds.read_cases (by decide : capBounds.Ordered) (source.value? capName) with
    ⟨infinite, refused⟩ | ⟨finiteCap, maxResults, isCap, settlesCap⟩
  · refine .inl ⟨⟨capName, by simp [numericNames], infinite⟩, ?_⟩
    simp only [load, isTimeout, isLength, refused]
    rfl
  refine .inr ⟨?_, timeout, maxLength, maxResults,
    fun level => ⟨settlesTimeout, settlesLength, settlesCap⟩, ?_⟩
  · simp only [numericNames, List.forall_mem_cons]
    exact ⟨finiteTimeout, finiteLength, finiteCap, List.forall_mem_nil _⟩
  · simp only [load, isTimeout, isLength, isCap]
    rfl

/-- An infinity for a number is the one thing that is refused before the other checks. -/
theorem load_eq_number_error_iff :
    load source = .error (.number .infinite) ↔
      ∃ name ∈ numericNames, ∃ value ∈ source.value? name, IsInfinite value := by
  rcases load_cases source with ⟨infinite, refused⟩ | ⟨finite, _, _, _, _, loaded⟩
  · exact iff_of_true refused infinite
  · refine iff_of_false ?_ ?_
    · rw [loaded]
      cases checkedLevel source <;> nofun
    · intro infinite
      obtain ⟨name, isNumeric, value, isGiven, isInfinite⟩ := infinite
      exact finite name isNumeric value isGiven isInfinite

/-! ### Environments -/

/-- What an environment gives is text. -/
theorem value?_ofEnvironment (environment : Environment) (name : SettingName) :
    (Source.ofEnvironment environment).value? name =
      (environment.value? name.variableName).map .str := rfl

theorem not_isInfinite_ofEnvironment {name : SettingName} {value : Json}
    (isGiven : value ∈ (Source.ofEnvironment environment).value? name) : ¬ IsInfinite value := by
  rw [value?_ofEnvironment, Option.mem_def, Option.map_eq_some_iff] at isGiven
  obtain ⟨text, _, rfl⟩ := isGiven
  exact nofun

section
variable {α : Type} {fallback : α} {check : String → Json → Checked α}

theorem optional_of_set (name : SettingName)
    (isGiven : environment.value? name.variableName = some given) :
    (Source.ofEnvironment environment).optional name fallback check =
      check name.keyword (.str given) := by
  rw [Source.optional, value?_ofEnvironment, isGiven]
  rfl

theorem optional_of_unset (name : SettingName)
    (unset : environment.value? name.variableName = none) :
    (Source.ofEnvironment environment).optional name fallback check = .ok fallback := by
  rw [Source.optional, value?_ofEnvironment, unset]
  rfl

end

/-- The refusal of settings whose log level is no known word. -/
def levelFault (given : String) : InvalidRecord where
  kind := .pipelineSettings
  faults := [⟨[.field "LOG_LEVEL"], .rejected (levelReason given)⟩]

theorem checkedLevel_cases (environment : Environment) :
    (∃ given, environment.value? "LOG_LEVEL" = some given ∧
      (∀ word : LevelWord, ¬ word.IsSpelledBy given) ∧
      checkedLevel (.ofEnvironment environment) = .error (levelFault given).faults) ∨
    ∃ level, LevelFrom (environment.value? "LOG_LEVEL") level ∧
      checkedLevel (.ofEnvironment environment) = .ok (level, ()) := by
  rw [checkedLevel]
  cases isGiven : environment.value? "LOG_LEVEL" with
  | none =>
      rw [optional_of_unset levelName isGiven]
      exact .inr ⟨.info, .missing, rfl⟩
  | some given =>
      rw [optional_of_set levelName isGiven, checkLevel]
      cases spelled : LevelWord.ofText? given with
      | none => exact .inl ⟨given, rfl, LevelWord.ofText?_eq_none_iff.mp spelled, rfl⟩
      | some word => exact .inr ⟨word, .spelled (LevelWord.ofText?_eq_some_iff.mp spelled), rfl⟩

/-- Settings are the ones that an environment gives. -/
structure IsGivenBy (settings : Pipeline) (environment : Environment) : Prop where
  numbers : settings.HoldsNumbers (.ofEnvironment environment)
  level : LevelFrom (environment.value? "LOG_LEVEL") settings.level

theorem load_ofEnvironment_cases (environment : Environment) :
    (∃ given, environment.value? "LOG_LEVEL" = some given ∧
      (∀ word : LevelWord, ¬ word.IsSpelledBy given) ∧
      load (.ofEnvironment environment) = .error (.invalid (levelFault given))) ∨
    ∃ settings, load (.ofEnvironment environment) = .ok settings ∧
      settings.IsGivenBy environment := by
  rcases load_cases (.ofEnvironment environment) with ⟨infinite, _⟩ |
    ⟨_, timeout, maxLength, maxResults, holds, loaded⟩
  · obtain ⟨name, _, value, isGiven, isInfinite⟩ := infinite
    exact absurd isInfinite (not_isInfinite_ofEnvironment isGiven)
  · rcases checkedLevel_cases environment with ⟨given, isGiven, unspelled, isFault⟩ |
      ⟨level, isLevel, isOk⟩
    · refine .inl ⟨given, isGiven, unspelled, ?_⟩
      rw [loaded, isFault]
      rfl
    · refine .inr ⟨⟨timeout, maxLength, maxResults, level⟩, ?_, holds level, isLevel⟩
      rw [loaded, isOk]
      rfl

/-! ### Catalogs -/

/-- New values for a catalog: the length limit of settings, and nothing else. -/
def lengthOverride (settings : Pipeline) : Overrides :=
  { Overrides.none with maxLength := some settings.maxLength.val }

/-- The default catalog takes the length limit of settings, which is always positive. -/
theorem merge_lengthOverride (settings : Pipeline) :
    Catalog.standard.merge settings.lengthOverride = .ok settings.catalog := by
  have positive : (100 : Int) ≤ settings.maxLength.val := settings.maxLength.property.1
  have unchanged := Catalog.standard.isMadeOf_parts
  refine Catalog.merge_eq_ok_iff.mpr ⟨rfl, unchanged.patterns, unchanged.ignoresCase, rfl,
    Int.toNat_of_nonneg (by omega), settings.catalog.maxLength_pos⟩

end Pipeline

/-- **Numbers stay within their bounds.** Ordered bounds settle on a number within them for every
value but an infinity, which is refused. So a source of settings is refused for its numbers exactly
when it gives an infinity for one. An environment cannot: it gives settings, and they make a
catalog, unless its log level spells no known word. -/
theorem numbers_stay_within_bounds {bounds : Bounds} (ordered : bounds.Ordered) (value : Json)
    (source : Source) (environment : Environment) :
    ((IsInfinite value ∧ bounds.clamp value = .error .infinite) ∨
      (¬ IsInfinite value ∧ ∃ number, bounds.clamp value = .ok number ∧ bounds.Contains number ∧
        bounds.SettlesOn (some value) number)) ∧
    (Pipeline.load source = .error (.number .infinite) ↔
      ∃ name ∈ Pipeline.numericNames, ∃ given ∈ source.value? name, IsInfinite given) ∧
    ((∃ given, environment.value? "LOG_LEVEL" = some given ∧
        (∀ word : LevelWord, ¬ word.IsSpelledBy given) ∧
        Pipeline.load (.ofEnvironment environment) = .error (.invalid (Pipeline.levelFault given))) ∨
      ∃ settings, Pipeline.load (.ofEnvironment environment) = .ok settings ∧
        settings.IsGivenBy environment ∧
        Catalog.standard.merge settings.lengthOverride = .ok settings.catalog) := by
  refine ⟨Bounds.clamp_cases ordered value, Pipeline.load_eq_number_error_iff, ?_⟩
  rcases Pipeline.load_ofEnvironment_cases environment with refused | ⟨settings, loaded, isGiven⟩
  · exact .inl refused
  · exact .inr ⟨settings, loaded, isGiven, settings.merge_lengthOverride⟩

/-- An environment with a number out of bounds and one that is no number. -/
def looseEnvironment : Environment :=
  [("GLIDEQUERY_MAX_SCRIPT_LENGTH", "10"), ("glidequery_timeout", "soon"), ("LOG_LEVEL", "DEBUG")]

theorem numbers_stay_within_bounds_loose :
    timeoutBounds.Ordered ∧
    (∃ number, timeoutBounds.clamp (.str "\t+4_5000\n") = .ok number ∧
      timeoutBounds.Contains number ∧
      timeoutBounds.SettlesOn (some (.str "\t+4_5000\n")) number) ∧
    ∃ settings, Pipeline.load (.ofEnvironment looseEnvironment) = .ok settings ∧
      settings.IsGivenBy looseEnvironment ∧
      Catalog.standard.merge settings.lengthOverride = .ok settings.catalog := by
  have ordered : timeoutBounds.Ordered := by decide
  obtain ⟨clamps, _, loads⟩ := numbers_stay_within_bounds ordered (.str "\t+4_5000\n")
    (.ofEnvironment looseEnvironment) looseEnvironment
  refine ⟨ordered, ?_, ?_⟩
  · rcases clamps with ⟨infinite, _⟩ | ⟨_, settles⟩
    · cases infinite
    · exact settles
  · rcases loads with ⟨given, isGiven, unspelled, _⟩ | loaded
    · have given_eq : "DEBUG" = given := Option.some.inj isGiven
      exact absurd rfl (given_eq ▸ unspelled .debug)
    · exact loaded

/-- Infinities are refused, although they are values and the bounds are ordered. -/
theorem infinity_is_refused :
    timeoutBounds.Ordered ∧ timeoutBounds.clamp (.float (1 / 0)) = .error .infinite ∧
      timeoutBounds.clamp (.float (-1 / 0)) = .error .infinite :=
  ⟨by decide, rfl, rfl⟩

end ScriptGate.Settings
