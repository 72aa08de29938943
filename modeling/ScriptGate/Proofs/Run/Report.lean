import ScriptGate.Proofs.Run.Gate

/-! # What a run reports about its request

A run that reaches the runner has one of three results, told by what became of the request. A
runner without a reply is reported by its text, with nothing else. A failed reply keeps its message
and its log. A successful reply is reported with all that was logged, in three parts: the warning
about operations that change records, the log of the runner, and what there is to say about the
normalized value (`execute_reports`). -/

namespace ScriptGate.Executor

/-- What is said before the log of the runner. In test mode a script that calls operations which
change records is met with one warning, which names the called ones in the order of the table. -/
inductive Warns (options : RunOptions) (script : List Char) : List String → Prop where
  | silent (harmless : options.testMode = true →
      ∀ name ∈ writeOperations, Scan.calls script name = false) : Warns options script []
  | warned {names : List String} (testMode : options.testMode = true)
      (detected : names = Scan.detectOperations script writeOperations) (notNone : names ≠ [])
      (ordered : names.Sublist writeOperations)
      (exact : ∀ name ∈ writeOperations, name ∈ names ↔ Scan.calls script name = true) :
      Warns options script
        ["WARNING: This script contains write operations (" ++ ", ".intercalate names ++
          ") that will persist changes to the database."]

/-- The result of a run whose runner has no reply. An empty text is replaced. -/
structure ReportsText (outcome : Outcome) (text : String) (result : RunResult) : Prop where
  success : result.success = false
  error : result.error = some (if text = "" then "Unknown error occurred" else text)
  data : result.data = .null
  logs : result.logs = none
  executionTime : result.executionTime = milliseconds outcome.elapsed
  truncated : result.truncated = none
  recordCount : result.recordCount = none

/-- The result of a run whose runner replies with a failure. -/
structure ReportsFault (outcome : Outcome) (reply : Reply) (result : RunResult) : Prop where
  success : result.success = false
  error : result.error = some ((reply.error.map (·.message)).getD "Script execution failed")
  data : result.data = .null
  logs : result.logs = reply.logs
  executionTime : result.executionTime = reply.executionTime.getD (milliseconds outcome.elapsed)
  truncated : result.truncated = none
  recordCount : result.recordCount = none

/-- The result of a run whose runner replies with a success. -/
structure ReportsValue (options : RunOptions) (script : List Char) (outcome : Outcome)
    (reply : Reply) (result : RunResult) : Prop
    extends Shows result (normalize options.testMode reply.result) where
  error : result.error = none
  logs : ∃ warning, Warns options script warning ∧ result.logs =
    some (warning ++ reply.logs.getD [] ++ (normalize options.testMode reply.result).logs)
  executionTime : result.executionTime = reply.executionTime.getD (milliseconds outcome.elapsed)

/-! ### The warning -/

theorem nodup_writeOperations :
    (writeOperations.map fun name => Text.lowercase name.toList).Nodup := by
  decide

/-- The warning that a result is given is the one that the script is met with. -/
theorem warns_detected (options : RunOptions) (script : List Char) {writes : List String}
    (isDetected : writes =
      if options.testMode then Scan.detectOperations script writeOperations else []) :
    Warns options script
      (if options.testMode && !writes.isEmpty then [writeWarning writes] else []) := by
  by_cases testMode : options.testMode = true
  · rw [if_pos testMode] at isDetected
    have filtered : writes = writeOperations.filter (Scan.calls script) :=
      isDetected.trans (Scan.detectOperations_eq_filter nodup_writeOperations)
    by_cases isNone : writes = []
    · rw [isNone, List.isEmpty_nil, Bool.not_true, Bool.and_false, if_neg Bool.false_ne_true]
      apply Warns.silent
      intro _ name member
      rw [isNone] at filtered
      exact Bool.of_not_eq_true (List.filter_eq_nil_iff.mp filtered.symm name member)
    · rw [testMode, Bool.true_and, List.isEmpty_eq_false_iff.mpr isNone, Bool.not_false, if_pos rfl]
      refine .warned testMode isDetected isNone ?_ ?_
      · rw [filtered]
        exact List.filter_sublist
      · intro name member
        rw [filtered, List.mem_filter, and_iff_right member]
  · rw [Bool.of_not_eq_true testMode, Bool.false_and, if_neg Bool.false_ne_true]
    exact .silent fun test => absurd test testMode

/-- Operations are looked for in the script itself, and in test mode only. -/
theorem writes_of_prepare {executor : Executor} {options : RunOptions} {script : List Char}
    {prepared : Prepared} (ready : executor.prepare options script = .ok prepared) :
    prepared.writes =
      if options.testMode then Scan.detectOperations script writeOperations else [] := by
  unfold prepare at ready
  split at ready
  · cases ready
  split at ready
  · cases ready
  simp only at ready
  split at ready
  · unfold prepareSafe at ready
    split at ready
    · next testMode =>
        rw [if_pos testMode]
        split at ready <;> cases ready
        rfl
    · next noTest =>
        rw [if_neg noTest]
        cases ready
        rfl
  · cases ready

/-! ### The result -/

section
variable {options : RunOptions} {script : List Char} {writes : List String} {outcome : Outcome}
  {reply : Reply}

theorem reportsText_resultOfOutcome {text : String} (answer : outcome.reply = .error text) :
    ReportsText outcome text (resultOfOutcome options writes outcome) := by
  have error : (resultOfOutcome options writes outcome).error =
      some (if text = "" then "Unknown error occurred" else text) := by
    simp only [resultOfOutcome, answer, failed, unknownFailure, String.isEmpty_iff]
  simp only [resultOfOutcome, answer] at error ⊢
  exact ⟨rfl, error, rfl, rfl, rfl, rfl, rfl⟩

theorem reportsFault_resultOfOutcome (answer : outcome.reply = .ok reply)
    (failure : reply.success = false) :
    ReportsFault outcome reply (resultOfOutcome options writes outcome) := by
  simp only [resultOfOutcome, answer, resultOf, failure, Bool.false_eq_true, ↓reduceIte]
  exact ⟨rfl, rfl, rfl, rfl, rfl, rfl, rfl⟩

theorem reportsValue_resultOfOutcome (answer : outcome.reply = .ok reply)
    (success : reply.success = true)
    (isDetected : writes =
      if options.testMode then Scan.detectOperations script writeOperations else []) :
    ReportsValue options script outcome reply (resultOfOutcome options writes outcome) := by
  have shows : Shows (resultOfOutcome options writes outcome)
      (normalize options.testMode reply.result) := resultOfOutcome_of_success answer success
  simp only [resultOfOutcome, answer, resultOf, if_pos success] at shows ⊢
  exact { shows with
    error := rfl
    logs := ⟨_, warns_detected options script isDetected, rfl⟩
    executionTime := rfl }

end

/-- A request of a run is the one that was prepared, and the run answers with what the runner makes
of it. -/
theorem exists_prepare_of_mem_requests {executor : Executor} {runner : Runner}
    {options : RunOptions} {given : Option (List Char)} {request : RunRequest}
    (member : request ∈ (executor.execute runner options given).requests) :
    ∃ prepared, executor.prepare options (given.getD []) = .ok prepared ∧
      (executor.execute runner options given).outcome =
        .ok (resultOfOutcome options prepared.writes (runner request)) := by
  cases stage : executor.prepare options (given.getD []) with
  | ok prepared =>
      simp only [execute, stage, List.mem_singleton] at member ⊢
      subst member
      exact ⟨prepared, rfl, rfl⟩
  | error stop =>
      cases stop with
      | rejected rejection =>
          simp only [execute, stage] at member
          exact absurd member List.not_mem_nil
      | capNotPositive cap =>
          simp only [execute, stage] at member
          exact absurd member List.not_mem_nil

/-- **The result of a run that reaches the runner.** Whatever becomes of the request, the run has a
result. Without a reply it is a failure with the text, no log and the measured time. A failed reply
gives its message, or a stand-in when it has no error, and its log as it is. A successful reply
gives no error, and a log that consists of the warning, the log of the runner and the lines about
the normalized value. The time of a reply goes before the measured one. -/
theorem execute_reports (executor : Executor) (runner : Runner) (options : RunOptions)
    (given : Option (List Char)) :
    let run := executor.execute runner options given
    ∀ request ∈ run.requests, ∃ script result, given = some script ∧ run.outcome = .ok result ∧
      (∀ text, (runner request).reply = .error text →
        ReportsText (runner request) text result) ∧
      (∀ reply, (runner request).reply = .ok reply → reply.success = false →
        ReportsFault (runner request) reply result) ∧
      (∀ reply, (runner request).reply = .ok reply → reply.success = true →
        ReportsValue options script (runner request) reply result) := by
  intro run request member
  obtain ⟨admits, _, _⟩ := outcome_of_mem_requests member
  obtain ⟨prepared, ready, outcome⟩ := exists_prepare_of_mem_requests member
  refine ⟨given.getD [], _, admits.isGiven, outcome, ?_, ?_, ?_⟩
  · intro text answer
    exact reportsText_resultOfOutcome answer
  · intro reply answer failure
    exact reportsFault_resultOfOutcome answer failure
  · intro reply answer success
    exact reportsValue_resultOfOutcome answer success (writes_of_prepare ready)

/-- A run in test mode of a script that inserts a record: the warning comes before the line of the
runner, and its time of zero is kept. -/
theorem execute_reports_insertion :
    let runner : Runner := fun _ => ⟨.ok ⟨true, .arr [], some ["one"], none, some 0⟩, 2, []⟩
    let run := execute ⟨⟨[], [], 100, by decide⟩, 5⟩ runner ⟨none, true, none⟩
      (some "q.insert(r)".toList)
    ∃ request ∈ run.requests, ∃ result, run.outcome = .ok result ∧
      result.logs = some ["WARNING: This script contains write operations (insert) " ++
        "that will persist changes to the database.", "one"] ∧
      result.executionTime = 0 := by
  intro runner run
  have admits : Admits ⟨⟨[], [], 100, by decide⟩, 5⟩ ⟨none, true, none⟩ "q.insert(r)".toList :=
    ⟨⟨⟨'q', by decide, by decide⟩, by decide, nofun⟩, fun _ => by decide +kernel⟩
  obtain ⟨request, _, requests⟩ := exists_request_of_admits runner admits
    fun lacksCap => absurd lacksCap.notPositive (by decide)
  have member : request ∈ run.requests := by
    rw [requests]
    exact List.mem_singleton_self request
  obtain ⟨script, result, given, outcome, _, _, value⟩ := execute_reports _ _ _ _ request member
  cases given
  have reports := value _ rfl rfl
  obtain ⟨warning, warns, logs⟩ := reports.logs
  refine ⟨request, member, result, outcome, ?_, reports.executionTime⟩
  cases warns with
  | silent harmless =>
      have called : Scan.calls "q.insert(r)".toList "insert" = true := by decide
      exact absurd (harmless rfl "insert" (by decide)) (by rw [called]; decide)
  | warned _ detected _ _ _ =>
      rw [logs, detected]
      decide

end ScriptGate.Executor
