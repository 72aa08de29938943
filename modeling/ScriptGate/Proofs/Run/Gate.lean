import ScriptGate.Proofs.Screening.Verdict
import ScriptGate.Proofs.Text.Classes
import ScriptGate.Run.Executor

/-! # What a run hands to the runner

A script reaches the runner exactly when it passes every gate (`execute_gate`), and a script that
does not is reported with the first gate it fails. The one run without a result is a run in test
mode under an executor whose own cap is not positive (`execute_outcome`). -/

namespace ScriptGate.Executor

/-- A script that passes the gates before the wrapper: some character is no white space, the script
is not too long, and no pattern of the blacklist matches. -/
structure Screened (executor : Executor) (script : List Char) : Prop where
  notBlank : ∃ char ∈ script, Text.isBlank char = false
  withinLength : script.length ≤ executor.catalog.maxLength
  unlisted : ∀ entry ∈ executor.catalog.blacklist, entry.occursIn script = false

/-- A script that passes every gate: in test mode it is a single expression as well. -/
structure Admits (executor : Executor) (options : RunOptions) (script : List Char) : Prop
    extends Screened executor script where
  isExpression : options.testMode = true → Expression.refusal? script = none

/-- The request for a script: the script itself, or in test mode the script wrapped with the cap of
the options, or else of the executor. -/
structure IsRequest (executor : Executor) (options : RunOptions) (script : List Char)
    (request : RunRequest) : Prop where
  timeout : request.timeout = options.timeout.map (·.val)
  verbatim : options.testMode = false → request.script = script
  wrapped : options.testMode = true →
    Expression.wrap script ((options.maxResults.map (·.val)).getD executor.defaultCap) =
      .ok request.script

/-- The message about a script that fails a gate after passing those before it. -/
inductive Refuses (executor : Executor) (options : RunOptions) (script : List Char) :
    String → Prop where
  | blank (blank : ∀ char ∈ script, Text.isBlank char = true) :
      Refuses executor options script "Script cannot be empty"
  | tooLong (notBlank : ∃ char ∈ script, Text.isBlank char = false)
      (long : executor.catalog.maxLength < script.length) :
      Refuses executor options script
        s!"Script exceeds maximum length of {executor.catalog.maxLength} characters"
  | insecure (notBlank : ∃ char ∈ script, Text.isBlank char = false)
      (withinLength : script.length ≤ executor.catalog.maxLength)
      (listed : ∃ entry ∈ executor.catalog.blacklist, entry.occursIn script = true) :
      Refuses executor options script
        ("Security violation: " ++ ", ".intercalate
          ((executor.catalog.blacklist.filter (·.occursIn script)).map fun entry =>
            s!"Blacklisted pattern detected: {entry.source}"))
  | unsupported {refusal : Expression.Refusal} (screened : executor.Screened script)
      (testMode : options.testMode = true) (refused : Expression.refusal? script = some refusal) :
      Refuses executor options script
        s!"Test mode requires a single-expression script: {refusal.message}"

/-- A script that would be wrapped with a cap that is not positive. Only the executor can set such a
cap. -/
structure LacksCap (executor : Executor) (options : RunOptions) (script : List Char) : Prop
    extends Screened executor script where
  testMode : options.testMode = true
  noCap : options.maxResults = none
  notPositive : executor.defaultCap < 1

/-- A successful result that shows what a value was normalized to. -/
structure Shows (result : RunResult) (normalized : Normalized) : Prop where
  success : result.success = true
  data : result.data = normalized.data
  truncated : result.truncated = normalized.truncated
  recordCount : result.recordCount = normalized.recordCount

/-- What becomes of a script before the runner is called. -/
inductive Prepares (executor : Executor) (options : RunOptions) (script : List Char) :
    Except Stop Prepared → Prop where
  | ready {prepared : Prepared} (admits : executor.Admits options script)
      (isRequest : executor.IsRequest options script prepared.request) :
      Prepares executor options script (.ok prepared)
  | refused {rejection : Rejection} (refuses : executor.Refuses options script rejection.message)
      (hasCap : ¬ executor.LacksCap options script) :
      Prepares executor options script (.error (.rejected rejection))
  | capNotPositive (lacksCap : executor.LacksCap options script) :
      Prepares executor options script (.error (.capNotPositive executor.defaultCap))

/-- Two outcomes of a request with nothing between them that a run reads: in a successful reply a
missing log counts as empty. -/
inductive Alike : Outcome → Outcome → Prop where
  | same (outcome : Outcome) : Alike outcome outcome
  | success {value : Json} {logs otherLogs : Option (List String)} {error : Option RemoteFault}
      {time : Option Float} {elapsed : Float} {log : List LogRecord}
      (sameLogs : logs.getD [] = otherLogs.getD []) :
      Alike ⟨.ok ⟨true, value, logs, error, time⟩, elapsed, log⟩
        ⟨.ok ⟨true, value, otherLogs, error, time⟩, elapsed, log⟩

/-! ### The gates -/

/-- Within the length limit only patterns are violations. -/
theorem violations_screen {catalog : Catalog} {script : List Char}
    (withinLength : script.length ≤ catalog.maxLength) :
    (catalog.screen script).violations =
      (catalog.blacklist.filter (·.occursIn script)).map (.blacklisted ·.source) := by
  simp only [Catalog.screen, Catalog.lengthViolation, Catalog.patternViolations,
    if_neg (Nat.not_lt.mpr withinLength), List.nil_append]

/-- A rejection for patterns of the blacklist names them, and nothing else. -/
theorem message_insecure (entries : List BlacklistEntry) :
    (Rejection.insecure (entries.map (.blacklisted ·.source))).message =
      "Security violation: " ++ ", ".intercalate
        (entries.map fun entry => s!"Blacklisted pattern detected: {entry.source}") := by
  have unfolded (violations : List Violation) : (Rejection.insecure violations).message =
      "Security violation: " ++ ", ".intercalate (violations.map (·.message)) := rfl
  rw [unfolded, List.map_map]
  rfl

/-- Within the length limit a script is safe when no pattern matches. -/
theorem safe_screen_iff {catalog : Catalog} {script : List Char}
    (withinLength : script.length ≤ catalog.maxLength) :
    (catalog.screen script).safe = true ↔
      ∀ entry ∈ catalog.blacklist, entry.occursIn script = false := by
  rw [Catalog.safe_screen_iff_fits, and_iff_right withinLength]

/-- The options cannot set a cap that is not positive. -/
theorem cap_lt_one_iff {executor : Executor} {options : RunOptions} :
    executor.cap options < 1 ↔ options.maxResults = none ∧ executor.defaultCap < 1 := by
  unfold cap
  cases options.maxResults with
  | none => simp
  | some given =>
      have positive := given.property.1
      simp [positive]

theorem Prepares.ofScreened {executor : Executor} {options : RunOptions} {script : List Char}
    (screened : executor.Screened script) :
    executor.Prepares options script (executor.prepareSafe options script) := by
  unfold prepareSafe
  by_cases testMode : options.testMode = true
  · rw [if_pos testMode]
    by_cases notPositive : executor.cap options < 1
    · obtain ⟨noCap, isDefault⟩ := cap_lt_one_iff.mp notPositive
      have same : executor.cap options = executor.defaultCap := by
        rw [cap, noCap, Option.map_none, Option.getD_none]
      simp only [same, Expression.wrap, if_pos isDefault]
      exact .capNotPositive { screened with testMode, noCap, notPositive := isDefault }
    · cases refused : Expression.refusal? script with
      | some refusal =>
          simp only [Expression.wrap, if_neg notPositive, refused]
          refine .refused (.unsupported screened testMode refused) fun lacksCap => ?_
          exact notPositive (cap_lt_one_iff.mpr ⟨lacksCap.noCap, lacksCap.notPositive⟩)
      | none =>
          have wrapped : Expression.wrap script (executor.cap options) =
              .ok (Expression.embed (executor.cap options) (Expression.body script)) := by
            rw [Expression.wrap, if_neg notPositive, refused]
          simp only [wrapped]
          refine .ready { screened with isExpression := fun _ => refused }
            ⟨rfl, ?_, fun _ => wrapped⟩
          intro noTest
          exact absurd (noTest.symm.trans testMode) Bool.false_ne_true
  · rw [if_neg testMode]
    refine .ready { screened with isExpression := fun test => absurd test testMode }
      ⟨rfl, fun _ => rfl, fun test => absurd test testMode⟩

/-- The preparation of a script checks the gates in order. -/
theorem prepares (executor : Executor) (options : RunOptions) (script : List Char) :
    executor.Prepares options script (executor.prepare options script) := by
  unfold prepare
  by_cases blank : Text.isBlankText script = true
  · rw [if_pos blank]
    refine .refused (.blank (Text.isBlankText_iff.mp blank)) fun lacksCap => ?_
    exact absurd (Text.isBlankText_eq_false_iff.mpr lacksCap.notBlank) (by rw [blank]; decide)
  · rw [if_neg blank]
    have notBlank := Text.isBlankText_eq_false_iff.mp (Bool.of_not_eq_true blank)
    by_cases long : executor.catalog.maxLength < script.length
    · rw [if_pos long]
      refine .refused (.tooLong notBlank long) fun lacksCap => ?_
      exact absurd lacksCap.withinLength (Nat.not_le.mpr long)
    · rw [if_neg long]
      have withinLength := Nat.le_of_not_lt long
      by_cases safe : (executor.catalog.screen script).safe = true
      · simp only [if_pos safe]
        exact .ofScreened ⟨notBlank, withinLength, (safe_screen_iff withinLength).mp safe⟩
      · simp only [if_neg safe]
        have listed : ∃ entry ∈ executor.catalog.blacklist, entry.occursIn script = true := by
          simpa only [safe_screen_iff withinLength, not_forall, exists_prop, Bool.not_eq_false]
            using safe
        refine .refused ?_ fun lacksCap =>
          safe ((safe_screen_iff withinLength).mpr lacksCap.unlisted)
        rw [violations_screen withinLength, message_insecure]
        exact .insecure notBlank withinLength listed

/-! ### Runs -/

section
variable {executor : Executor} {runner : Runner} {options : RunOptions} {given : Option (List Char)}

/-- What a run does: for an admitted script it answers with what the runner makes of the request,
and for any other script without the runner. -/
theorem execute_cases (executor : Executor) (runner : Runner) (options : RunOptions)
    (given : Option (List Char)) :
    (∃ prepared : Prepared,
      executor.Admits options (given.getD []) ∧
      executor.IsRequest options (given.getD []) prepared.request ∧
      (executor.execute runner options given).requests = [prepared.request] ∧
      (executor.execute runner options given).outcome =
        .ok (resultOfOutcome options prepared.writes (runner prepared.request))) ∨
    (∃ message, executor.Refuses options (given.getD []) message ∧
      ¬ executor.LacksCap options (given.getD []) ∧
      (executor.execute runner options given).requests = [] ∧
      (executor.execute runner options given).outcome = .ok (failed message (milliseconds 0))) ∨
    (executor.LacksCap options (given.getD []) ∧
      (executor.execute runner options given).requests = [] ∧
      (executor.execute runner options given).outcome =
        .error (.capNotPositive executor.defaultCap)) := by
  have prepares := executor.prepares options (given.getD [])
  generalize stage : executor.prepare options (given.getD []) = outcome at prepares
  cases prepares with
  | @ready prepared admits isRequest =>
      refine .inl ⟨prepared, admits, isRequest, ?_, ?_⟩
      · simp only [execute, stage]
      · simp only [execute, stage]
  | @refused rejection refuses hasCap =>
      refine .inr (.inl ⟨rejection.message, refuses, hasCap, ?_, ?_⟩)
      · simp only [execute, stage]
      · simp only [execute, stage]
  | capNotPositive lacksCap =>
      refine .inr (.inr ⟨lacksCap, ?_, ?_⟩)
      · simp only [execute, stage]
      · simp only [execute, stage]

/-- A request is made for an admitted script only, and its answer is reported. -/
theorem outcome_of_mem_requests {request : RunRequest}
    (member : request ∈ (executor.execute runner options given).requests) :
    executor.Admits options (given.getD []) ∧
    executor.IsRequest options (given.getD []) request ∧
    ∃ writes, (executor.execute runner options given).outcome =
      .ok (resultOfOutcome options writes (runner request)) := by
  rcases execute_cases executor runner options given with
    ⟨prepared, admits, isRequest, requests, outcome⟩ | ⟨_, _, _, requests, _⟩ | ⟨_, requests, _⟩
  · rw [requests, List.mem_singleton] at member
    subst member
    exact ⟨admits, isRequest, prepared.writes, outcome⟩
  · rw [requests] at member
    exact absurd member List.not_mem_nil
  · rw [requests] at member
    exact absurd member List.not_mem_nil

theorem Alike.result_eq {outcome other : Outcome} {writes : List String}
    (alike : Alike outcome other) :
    resultOfOutcome options writes outcome = resultOfOutcome options writes other := by
  cases alike with
  | same => rfl
  | success sameLogs => simp only [resultOfOutcome, resultOf, sameLogs, ↓reduceIte]

theorem Alike.record_eq {outcome other : Outcome} {result : RunResult}
    (alike : Alike outcome other) :
    endRecord options outcome result = endRecord options other result := by
  cases alike <;> rfl

theorem Alike.log_eq {outcome other : Outcome} (alike : Alike outcome other) :
    outcome.log = other.log := by
  cases alike <;> rfl

/-- A run cannot tell alike answers of runners apart. -/
theorem execute_eq_of_alike {other : Runner}
    (alike : ∀ request ∈ (executor.execute runner options given).requests,
      Alike (other request) (runner request)) :
    executor.execute other options given = executor.execute runner options given := by
  cases stage : executor.prepare options (given.getD []) with
  | ok prepared =>
      have alike := alike prepared.request (by simp only [execute, stage, List.mem_singleton])
      simp only [execute, stage, alike.result_eq, alike.record_eq, alike.log_eq]
  | error stop => cases stop <;> simp only [execute, stage]

/-- A run learns nothing of the runner but its answers to the requests. -/
theorem execute_congr {other : Runner}
    (agree : ∀ request ∈ (executor.execute runner options given).requests,
      other request = runner request) :
    executor.execute other options given = executor.execute runner options given := by
  refine execute_eq_of_alike fun request member => ?_
  rw [agree request member]
  exact .same _

/-- A missing script passes no gate. -/
theorem Screened.isGiven (screened : executor.Screened (given.getD [])) :
    given = some (given.getD []) := by
  cases given with
  | some script => rfl
  | none =>
      obtain ⟨char, member, _⟩ := screened.notBlank
      exact absurd member List.not_mem_nil

theorem IsRequest.not_lacksCap {script : List Char} {request : RunRequest}
    (isRequest : executor.IsRequest options script request) :
    ¬ executor.LacksCap options script := by
  intro lacksCap
  have wrapped := isRequest.wrapped lacksCap.testMode
  rw [lacksCap.noCap, Option.map_none, Option.getD_none, Expression.wrap,
    if_pos lacksCap.notPositive] at wrapped
  cases wrapped

theorem Refuses.not_admits {script : List Char} {message : String}
    (refuses : executor.Refuses options script message) : ¬ executor.Admits options script := by
  intro admits
  cases refuses with
  | blank blank =>
      obtain ⟨char, member, notBlank⟩ := admits.notBlank
      exact Bool.false_ne_true (notBlank.symm.trans (blank char member))
  | tooLong _ long => exact absurd admits.withinLength (Nat.not_le.mpr long)
  | insecure _ _ listed =>
      obtain ⟨entry, member, occurs⟩ := listed
      exact Bool.false_ne_true ((admits.unlisted entry member).symm.trans occurs)
  | unsupported _ testMode refused =>
      exact Option.some_ne_none _ (refused.symm.trans (admits.isExpression testMode))

/-- An admitted script is handed to the runner, unless there is no cap to wrap it with. -/
theorem exists_request_of_admits {script : List Char} (runner : Runner)
    (admits : executor.Admits options script) (hasCap : ¬ executor.LacksCap options script) :
    ∃ request, executor.IsRequest options script request ∧
      (executor.execute runner options (some script)).requests = [request] := by
  rcases execute_cases executor runner options (some script) with
    ⟨prepared, _, isRequest, requests, _⟩ | ⟨_, refuses, _⟩ | ⟨lacksCap, _⟩
  · exact ⟨prepared.request, isRequest, requests⟩
  · exact absurd admits refuses.not_admits
  · exact absurd lacksCap hasCap

/-- The only way for a run to have no result. -/
theorem outcome_eq_error_iff {error : Expression.WrapError} :
    (executor.execute runner options given).outcome = .error error ↔
      error = .capNotPositive executor.defaultCap ∧ executor.LacksCap options (given.getD []) := by
  rcases execute_cases executor runner options given with
    ⟨prepared, _, isRequest, _, outcome⟩ | ⟨message, _, hasCap, _, outcome⟩ |
      ⟨lacksCap, _, outcome⟩
  · rw [outcome]
    exact iff_of_false nofun fun given => isRequest.not_lacksCap given.2
  · rw [outcome]
    exact iff_of_false nofun fun given => hasCap given.2
  · rw [outcome, Except.error.injEq, and_iff_left lacksCap]
    exact eq_comm

theorem success_resultOf_iff {writes : List String} {elapsed : Float} {reply : Reply} :
    (resultOf options writes elapsed reply).success = true ↔ reply.success = true := by
  unfold resultOf
  by_cases success : reply.success = true
  · simp only [success, ↓reduceIte]
  · simp only [success, Bool.false_eq_true, ↓reduceIte, failed]

/-- What a runner's answer becomes succeeds when the answer is a reply that does. -/
theorem success_resultOfOutcome_iff {writes : List String} {outcome : Outcome} :
    (resultOfOutcome options writes outcome).success = true ↔
      ∃ reply, outcome.reply = .ok reply ∧ reply.success = true := by
  unfold resultOfOutcome
  cases outcome.reply with
  | ok reply => simp only [success_resultOf_iff, Except.ok.injEq, exists_eq_left']
  | error text => simp [failed]

/-- A failed answer has an error. -/
theorem error_resultOfOutcome {writes : List String} {outcome : Outcome}
    (failure : (resultOfOutcome options writes outcome).success = false) :
    ∃ message, (resultOfOutcome options writes outcome).error = some message := by
  unfold resultOfOutcome at failure ⊢
  cases answer : outcome.reply with
  | error text => exact ⟨_, rfl⟩
  | ok reply =>
      simp only [answer] at failure ⊢
      unfold resultOf at failure ⊢
      by_cases success : reply.success = true
      · simp [success] at failure
      · rw [if_neg success]
        exact ⟨_, rfl⟩

/-- A successful reply is reported with its normalized result. -/
theorem resultOfOutcome_of_success {writes : List String} {outcome : Outcome} {reply : Reply}
    (answer : outcome.reply = .ok reply) (success : reply.success = true) :
    Shows (resultOfOutcome options writes outcome) (normalize options.testMode reply.result) := by
  simp only [resultOfOutcome, answer, resultOf, if_pos success]
  exact ⟨rfl, rfl, rfl, rfl⟩

/-- A failed reply is reported with the message of its error. -/
theorem resultOfOutcome_of_failure {writes : List String} {outcome : Outcome} {reply : Reply}
    (answer : outcome.reply = .ok reply) (failure : reply.success = false) :
    let result := resultOfOutcome options writes outcome
    result.success = false ∧
      result.error = some ((reply.error.map (·.message)).getD scriptFailure) := by
  simp only [resultOfOutcome, answer, resultOf, failure, Bool.false_eq_true, ↓reduceIte, failed,
    and_self]

/-- A runner without a reply is reported with a message that is not empty. -/
theorem resultOfOutcome_of_error {writes : List String} {outcome : Outcome} {text : String}
    (answer : outcome.reply = .error text) :
    let result := resultOfOutcome options writes outcome
    result.success = false ∧ ∃ message, result.error = some message ∧ message ≠ "" := by
  simp only [resultOfOutcome, answer, failed, Option.some.injEq, exists_eq_left', true_and]
  by_cases empty : text.isEmpty = true
  · rw [if_pos empty]
    decide
  · rw [if_neg empty]
    simpa using empty

end

/-- **The runner sees what passes every gate, and nothing else.** A run makes one request at most.
It makes one exactly for an admitted script, the request is the one for that script, and the run
depends on the runner only through its answer. Without a request the result is a failure with the
message of the first gate that the script fails. -/
theorem execute_gate {executor : Executor} (capPositive : 1 ≤ executor.defaultCap)
    (runner : Runner) (options : RunOptions) (given : Option (List Char)) :
    let run := executor.execute runner options given
    run.requests.length ≤ 1 ∧
    (run.requests ≠ [] ↔ ∃ script, given = some script ∧ executor.Admits options script) ∧
    (∀ request ∈ run.requests, ∀ script, given = some script →
      executor.IsRequest options script request) ∧
    (∀ other : Runner, (∀ request ∈ run.requests, other request = runner request) →
      executor.execute other options given = run) ∧
    (run.requests = [] → ∃ result message, run.outcome = .ok result ∧
      executor.Refuses options (given.getD []) message ∧
      result.success = false ∧ result.data = .null ∧ result.error = some message ∧
      result.logs = none ∧ result.truncated = none ∧ result.recordCount = none) := by
  intro run
  have depends : ∀ other : Runner, (∀ request ∈ run.requests, other request = runner request) →
      executor.execute other options given = run := fun _ => execute_congr
  rcases execute_cases executor runner options given with
    ⟨prepared, admits, isRequest, requests, _⟩ | ⟨message, refuses, _, requests, outcome⟩ |
      ⟨lacksCap, _⟩
  · change run.requests = _ at requests
    rw [requests] at depends ⊢
    refine ⟨Nat.le_refl 1, ?_, ?_, depends, nofun⟩
    · exact iff_of_true (List.cons_ne_nil _ _) ⟨given.getD [], admits.isGiven, admits⟩
    · intro request member script same
      rw [List.mem_singleton.mp member]
      rwa [same, Option.getD_some] at isRequest
  · change run.requests = _ at requests
    rw [requests] at depends ⊢
    refine ⟨Nat.zero_le 1, ?_, nofun, depends, fun _ => ?_⟩
    · refine iff_of_false (not_not_intro rfl) ?_
      rintro ⟨script, rfl, admits⟩
      exact refuses.not_admits admits
    · exact ⟨_, message, outcome, refuses, rfl, rfl, rfl, rfl, rfl, rfl⟩
  · exact absurd capPositive (Int.not_le.mpr lacksCap.notPositive)

theorem execute_gate_small :
    (1 : Int) ≤ 5 ∧
    (execute ⟨⟨[], [], 10, by decide⟩, 5⟩ (fun _ => ⟨.error "", 0, []⟩) .standard
      (some ['a'])).requests ≠ [] := by
  refine ⟨by decide, (execute_gate (by decide) _ _ _).2.1.mpr ⟨['a'], rfl, ?_⟩⟩
  exact ⟨⟨⟨'a', by decide, by decide⟩, by decide, nofun⟩, nofun⟩

/-- **When a run has a result.** A run fails to have one exactly for a script that would be wrapped
with a cap that is not positive. A result is a success exactly when a request was answered with one,
and a failure has an error. -/
theorem execute_outcome (executor : Executor) (runner : Runner) (options : RunOptions)
    (given : Option (List Char)) :
    let run := executor.execute runner options given
    (∀ error, run.outcome = .error error ↔
      error = .capNotPositive executor.defaultCap ∧
        ∃ script, given = some script ∧ executor.LacksCap options script) ∧
    ∀ result, run.outcome = .ok result →
      (result.success = true ↔
        ∃ request ∈ run.requests, ∃ reply,
          (runner request).reply = .ok reply ∧ reply.success = true) ∧
      (result.success = false → ∃ message, result.error = some message) := by
  intro run
  constructor
  · intro error
    rw [outcome_eq_error_iff]
    refine and_congr_right fun _ => ⟨?_, ?_⟩
    · intro lacksCap
      exact ⟨given.getD [], lacksCap.isGiven, lacksCap⟩
    · rintro ⟨script, rfl, lacksCap⟩
      exact lacksCap
  · rcases execute_cases executor runner options given with
      ⟨prepared, _, _, requests, outcome⟩ | ⟨message, _, _, requests, outcome⟩ | ⟨_, _, outcome⟩
    · change run.requests = _ at requests
      change run.outcome = _ at outcome
      rw [requests, outcome]
      rintro _ ⟨⟩
      refine ⟨?_, error_resultOfOutcome⟩
      simp only [success_resultOfOutcome_iff, List.mem_singleton, exists_eq_left]
    · change run.requests = _ at requests
      change run.outcome = _ at outcome
      rw [requests, outcome]
      rintro _ ⟨⟩
      exact ⟨iff_of_false Bool.false_ne_true nofun, fun _ => ⟨message, rfl⟩⟩
    · change run.outcome = _ at outcome
      rw [outcome]
      nofun

/-- A run without a result: the cap of the executor is zero, and the options set none. -/
theorem execute_zero_cap :
    (execute ⟨.standard, 0⟩ (fun _ => ⟨.ok ⟨true, .null, none, none, none⟩, 0, []⟩)
      ⟨none, true, none⟩ (some ['a'])).outcome = .error (.capNotPositive 0) := by
  have screened : Screened ⟨.standard, 0⟩ ['a'] :=
    ⟨⟨'a', by decide, by decide⟩, by decide, by decide +kernel⟩
  exact outcome_eq_error_iff.mpr
    ⟨rfl, { screened with testMode := rfl, noCap := rfl, notPositive := by decide }⟩

end ScriptGate.Executor
