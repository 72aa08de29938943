import ScriptGate.Proofs.Remote.Run
import ScriptGate.Proofs.Run.Wording
import ScriptGate.Proofs.Validation

/-! # The gates agree

A script is checked for being blank in three places, and for its length in three: the validator, the
executor and the client have a gate each for blank scripts, and the validator, the screener and the
executor for long ones. The gates of a kind refuse the same scripts (`gates_agree`). -/

namespace ScriptGate

variable {script : List Char}

/-- A run that ends before the runner is asked, with the given error. -/
structure Run.Rejects (run : Run) (message : String) : Prop where
  unasked : run.requests = []
  failed : ∃ result, run.outcome = .ok result ∧ result.success = false ∧
    result.error = some message

/-- A client that refuses a request for its script: there is nothing in it. -/
def Remote.Client.FindsBlank (client : Remote.Client) (transport : Remote.Transport)
    (request : RunRequest) : Prop :=
  ∃ error, (client.exchange transport request).reply = .error (.api error) ∧
    error.code = "VALIDATION_ERROR"

/-! ### The validator -/

namespace Validator

variable {validator : Validator}

/-- A blank script is told from all others by its only error. -/
theorem errors_eq_blank_iff :
    (validator.validate (some script)).errors.map (·.message) = ["Script cannot be empty"] ↔
      Text.isBlankText script = true := by
  by_cases blank : Text.isBlankText script = true
  · refine iff_of_true ?_ blank
    rw [validate_of_blank blank]
    rfl
  · refine iff_of_false ?_ blank
    intro same
    obtain ⟨issue, isOnly, isMessage⟩ := List.map_eq_singleton_iff.mp same
    obtain rfl := ScriptIssue.message_eq_blank_iff.mp isMessage
    have member : ScriptIssue.blank ∈ (validator.validate (some script)).errors := by
      rw [isOnly]
      exact List.mem_singleton_self _
    rw [validate_of_visible (Bool.of_not_eq_true blank), List.mem_append, mem_lengthIssue_iff]
      at member
    rcases member with ⟨isTooLong, _⟩ | isFound
    · cases isTooLong
    · obtain ⟨_, _, isFound⟩ := List.mem_map.mp isFound
      cases isFound

/-- The error about the length is made for the scripts that are too long. -/
theorem length_mem_errors_iff (notBlank : Text.isBlankText script = false) :
    lengthMessage validator.maxLength ∈
        (validator.validate (some script)).errors.map (·.message) ↔
      validator.maxLength < script.length := by
  rw [validate_of_visible notBlank]
  constructor
  · intro member
    obtain ⟨issue, member, isMessage⟩ := List.mem_map.mp member
    obtain ⟨other, rfl⟩ := ScriptIssue.exists_tooLong_of_message isMessage
    rcases List.mem_append.mp member with isLength | isFound
    · exact (mem_lengthIssue_iff.mp isLength).2
    · obtain ⟨_, _, isFound⟩ := List.mem_map.mp isFound
      cases isFound
  · intro long
    apply List.mem_map.mpr
    refine ⟨.tooLong validator.maxLength, List.mem_append_left _ ?_, rfl⟩
    exact mem_lengthIssue_iff.mpr ⟨rfl, long⟩

end Validator

/-! ### The screener -/

theorem Catalog.length_mem_violations_iff {catalog : Catalog} :
    (Violation.tooLong catalog.maxLength script.length).message ∈
        (catalog.screen script).violations.map (·.message) ↔
      catalog.maxLength < script.length := by
  rw [screen, lengthViolation, patternViolations]
  by_cases long : catalog.maxLength < script.length
  · rw [if_pos long]
    exact iff_of_true (List.mem_map_of_mem List.mem_cons_self) long
  · rw [if_neg long, List.nil_append]
    refine iff_of_false ?_ long
    intro member
    obtain ⟨violation, member, isMessage⟩ := List.mem_map.mp member
    obtain ⟨_, _, rfl⟩ := Violation.exists_tooLong_of_message isMessage
    obtain ⟨_, _, isPattern⟩ := List.mem_map.mp member
    cases isPattern

/-! ### The executor -/

namespace Executor

variable {executor : Executor} {runner : Runner} {options : RunOptions} {message : String}

/-- A run that rejects a script tells which gate the script fails. -/
theorem refuses_of_rejects
    (rejects : (executor.execute runner options (some script)).Rejects message) :
    executor.Refuses options script message := by
  obtain ⟨unasked, result, outcome, _, isMessage⟩ := rejects
  rcases executor.execute_cases runner options (some script) with
    ⟨_, _, _, requests, _⟩ | ⟨other, refuses, _, _, isFailed⟩ | ⟨_, _, isError⟩
  · cases requests.symm.trans unasked
  · cases outcome.symm.trans isFailed
    cases isMessage
    exact refuses
  · cases outcome.symm.trans isError

/-- A script that fails one of the first gates is rejected. -/
theorem exists_rejects (runner : Runner) (options : RunOptions)
    (fails : ¬ executor.Screened script) :
    ∃ message, executor.Refuses options script message ∧
      (executor.execute runner options (some script)).Rejects message := by
  rcases executor.execute_cases runner options (some script) with
    ⟨_, admits, _⟩ | ⟨message, refuses, _, requests, outcome⟩ | ⟨lacksCap, _⟩
  · exact absurd admits.toScreened fails
  · exact ⟨message, refuses, requests, _, outcome, rfl, rfl⟩
  · exact absurd lacksCap.toScreened fails

theorem rejects_blank_iff :
    (executor.execute runner options (some script)).Rejects "Script cannot be empty" ↔
      ∀ char ∈ script, Text.isBlank char = true := by
  constructor
  · intro rejects
    exact (refuses_of_rejects rejects).eq_blank_iff.mp rfl
  · intro blank
    obtain ⟨message, refuses, rejects⟩ := exists_rejects runner options
      fun screened => not_allBlank screened.notBlank blank
    rwa [refuses.eq_blank_iff.mpr blank] at rejects

theorem rejects_length_iff (notBlank : ∃ char ∈ script, Text.isBlank char = false) :
    (executor.execute runner options (some script)).Rejects
        (lengthMessage executor.catalog.maxLength) ↔
      executor.catalog.maxLength < script.length := by
  constructor
  · intro rejects
    exact ((refuses_of_rejects rejects).eq_length_iff notBlank).mp rfl
  · intro long
    obtain ⟨message, refuses, rejects⟩ := exists_rejects runner options
      fun screened => absurd screened.withinLength (Nat.not_le.mpr long)
    rwa [(refuses.eq_length_iff notBlank).mpr long] at rejects

/-- Outside test mode the runner sees what is safe. -/
theorem safe_iff_requests (notBlank : ∃ char ∈ script, Text.isBlank char = false)
    (noTest : options.testMode = false) :
    (executor.catalog.screen script).safe = true ↔
      (executor.execute runner options (some script)).requests =
        [⟨script, options.timeout.map (·.val)⟩] := by
  rw [Catalog.safe_screen_iff_fits]
  constructor
  · rintro ⟨withinLength, unlisted⟩
    have admits : executor.Admits options script :=
      { notBlank, withinLength, unlisted
        isExpression := fun test => absurd (noTest.symm.trans test) Bool.false_ne_true }
    have hasCap : ¬ executor.LacksCap options script := fun lacksCap =>
      Bool.false_ne_true (noTest.symm.trans lacksCap.testMode)
    obtain ⟨request, isRequest, requests⟩ := exists_request_of_admits runner admits hasCap
    rw [requests, ← isRequest.timeout, ← isRequest.verbatim noTest]
  · intro requests
    have member : ⟨script, options.timeout.map (·.val)⟩ ∈
        (executor.execute runner options (some script)).requests := by
      rw [requests]
      exact List.mem_singleton_self _
    obtain ⟨admits, _⟩ := outcome_of_mem_requests member
    exact ⟨admits.withinLength, admits.unlisted⟩

end Executor

/-! ### The client -/

namespace Remote.Client

variable {client : Client} {transport : Transport} {request : RunRequest}

theorem code_ofResponse? {response : HttpResponse} {error : ApiError}
    (isError : ApiError.ofResponse? response = some error) : error.code ≠ "VALIDATION_ERROR" := by
  unfold ApiError.ofResponse? at isError
  split at isError <;> cases isError <;> simp

theorem readBody_ne_api {body : List Char} {error : ApiError} :
    readBody body ≠ .error (.api error) := by
  unfold readBody
  cases Text.redecode body with
  | error undecodable => nofun
  | ok text =>
      change (Json.read text).mapError ClientError.notJson ≠ _
      cases Json.read text <;> nofun

/-- No response is reported like a blank script. -/
theorem code_replyOfResponse {response : HttpResponse} {elapsed : Float} {error : ApiError}
    (isError : replyOfResponse response elapsed = .error (.api error)) :
    error.code ≠ "VALIDATION_ERROR" := by
  unfold replyOfResponse at isError
  cases isApi : ApiError.ofResponse? response with
  | some other =>
      rw [isApi] at isError
      cases isError
      exact code_ofResponse? isApi
  | none =>
      rw [isApi] at isError
      cases read : readBody response.body with
      | error reason =>
          rw [read] at isError
          cases isError
          exact absurd read readBody_ne_api
      | ok body =>
          rw [read] at isError
          change (replyOfBody body (milliseconds elapsed)).mapError ClientError.invalid = _
            at isError
          cases reply : replyOfBody body (milliseconds elapsed) <;> rw [reply] at isError <;>
            cases isError

theorem code_conclude {url : Url} {outcome : TransportOutcome} {error : ApiError}
    (isError : (conclude url outcome).1 = .error (.api error)) :
    error.code ≠ "VALIDATION_ERROR" := by
  unfold conclude at isError
  cases answer : outcome.response with
  | error failure =>
      simp only [answer] at isError
      split at isError <;> cases isError
  | ok response =>
      simp only [answer] at isError
      split at isError
      · cases isError
      · cases reply : replyOfResponse response outcome.elapsed with
        | error reason =>
            rw [reply] at isError
            cases isError
            exact code_replyOfResponse reply
        | ok reply' =>
            rw [reply] at isError
            cases isError

/-- A request that cannot be made is not reported like a blank script either. -/
theorem prepare_ne_api {error : ApiError} : client.prepare request ≠ .error (.api error) := by
  unfold prepare
  cases seconds? (client.limits.effective request.timeout) with
  | none => nofun
  | some timeout =>
      simp only
      cases client.address <;> nofun

theorem findsBlank_iff :
    client.FindsBlank transport request ↔ Text.isBlankText request.script = true := by
  unfold FindsBlank exchange
  by_cases blank : Text.isBlankText request.script = true
  · rw [if_pos blank]
    exact iff_of_true ⟨.blank, rfl, rfl⟩ blank
  · rw [if_neg blank]
    refine iff_of_false ?_ blank
    rintro ⟨error, isError, code⟩
    cases made : client.prepare request with
    | ok pair =>
        simp only [made] at isError
        exact code_conclude isError code
    | error reason =>
        simp only [made] at isError
        cases isError
        exact prepare_ne_api made

/-- A blank script is not sent. -/
theorem requests_of_blank (blank : Text.isBlankText request.script = true) :
    (client.exchange transport request).requests = [] := by
  rw [exchange, if_pos blank]

end Remote.Client

/-- **The gates agree.** A script is blank for the validator, for the executor and for the client
exactly when all its characters are white space, and the client does not send it. Of the other
scripts, the validator, the screener and the executor find the same too long, and outside test mode
the runner sees those which are safe. No script that the runner sees, wrapped or not, is blank for
the client. -/
theorem gates_agree (executor : Executor) (rules : List Lint.Rule) (runner : Runner)
    (options : RunOptions) (client : Remote.Client) (transport : Remote.Transport)
    (timeout : Option Int) (script : List Char) :
    let limit := executor.catalog.maxLength
    let errors := ((Validator.mk limit rules).validate (some script)).errors.map (·.message)
    let verdict := executor.catalog.screen script
    let run := executor.execute runner options (some script)
    let isBlank := ∀ char ∈ script, Text.isBlank char = true
    (errors = ["Script cannot be empty"] ↔ isBlank) ∧
    (run.Rejects "Script cannot be empty" ↔ isBlank) ∧
    (client.FindsBlank transport ⟨script, timeout⟩ ↔ isBlank) ∧
    (isBlank → (client.exchange transport ⟨script, timeout⟩).requests = []) ∧
    (¬ isBlank →
      (s!"Script exceeds maximum length of {limit} characters" ∈ errors ↔
        limit < script.length) ∧
      (s!"Script exceeds maximum length of {limit} characters (actual: {script.length})" ∈
          verdict.violations.map (·.message) ↔ limit < script.length) ∧
      (run.Rejects s!"Script exceeds maximum length of {limit} characters" ↔
        limit < script.length) ∧
      (options.testMode = false → (verdict.safe = true ↔
        run.requests = [⟨script, options.timeout.map (·.val)⟩]))) ∧
    ∀ request ∈ run.requests, ¬ client.FindsBlank transport request := by
  intro limit errors verdict run isBlank
  refine ⟨?_, Executor.rejects_blank_iff, ?_, ?_, ?_, ?_⟩
  · exact Validator.errors_eq_blank_iff.trans Text.isBlankText_iff
  · exact Remote.Client.findsBlank_iff.trans Text.isBlankText_iff
  · intro blank
    exact Remote.Client.requests_of_blank (Text.isBlankText_iff.mpr blank)
  · intro notBlank
    have isText : Text.isBlankText script = false :=
      Bool.of_not_eq_true fun blank => notBlank (Text.isBlankText_iff.mp blank)
    have exists_text := Text.isBlankText_eq_false_iff.mp isText
    have lengthError : lengthMessage limit ∈ errors ↔ (limit : Int) < script.length :=
      Validator.length_mem_errors_iff isText
    rw [Int.ofNat_lt] at lengthError
    exact ⟨lengthError, Catalog.length_mem_violations_iff,
      Executor.rejects_length_iff exists_text, Executor.safe_iff_requests exists_text⟩
  · intro request member findsBlank
    obtain ⟨admits, isRequest, _⟩ := Executor.outcome_of_mem_requests member
    have notBlank := Text.isBlankText_eq_false_iff.mpr
      (Remote.notBlank_of_isRequest admits isRequest)
    exact Bool.false_ne_true (notBlank.symm.trans (Remote.Client.findsBlank_iff.mp findsBlank))

end ScriptGate
