import ScriptGate.Proofs.Expression.Template
import ScriptGate.Proofs.Remote.Response
import ScriptGate.Proofs.Run.Gate
import ScriptGate.Remote.Client

/-! # Runs over a transport

A run through a client succeeds exactly when the client gets a body that stands for no failure, and
then its data are those of the normalized value of the body (`runRemotely_success`). The message of
a failure that the body reports becomes the error of the run when the members beside it are well
typed (`failure_keeps_message`). -/

namespace ScriptGate.Remote

namespace Client

/-- The client gets a response: the request can be made, its address has a type, and the transport
answers. -/
def Receives (client : Client) (transport : Transport) (request : RunRequest)
    (response : HttpResponse) : Prop :=
  ∃ url sent, client.prepare request = .ok (url, sent) ∧ url.hasType = true ∧
    (transport sent).response = .ok response

/-- The client gets a body: a response whose status is success and whose body is JSON. -/
def HasBody (client : Client) (transport : Transport) (request : RunRequest) (body : Json) : Prop :=
  ∃ response, client.Receives transport request response ∧ response.status = 200 ∧
    readBody response.body = .ok body

theorem ofResponse?_eq_none_iff {response : HttpResponse} :
    ApiError.ofResponse? response = none ↔ response.status = 200 := by
  unfold ApiError.ofResponse?
  split <;> simp_all

/-- A response answers with the reply of its body, or with an error. -/
theorem replyOfResponse_cases (response : HttpResponse) (elapsed : Float) :
    (∃ body, response.status = 200 ∧ readBody response.body = .ok body ∧
      replyOfResponse response elapsed =
        (replyOfBody body (milliseconds elapsed)).mapError .invalid) ∨
    ((response.status = 200 → ∀ body, readBody response.body ≠ .ok body) ∧
      ∃ error, replyOfResponse response elapsed = .error error) := by
  unfold replyOfResponse
  cases isError : ApiError.ofResponse? response with
  | some error =>
      refine .inr ⟨fun succeeds => ?_, .api error, rfl⟩
      cases isError.symm.trans (ofResponse?_eq_none_iff.mpr succeeds)
  | none =>
      have succeeds := ofResponse?_eq_none_iff.mp isError
      cases readBody response.body with
      | ok body => exact .inl ⟨body, succeeds, rfl, rfl⟩
      | error error => exact .inr ⟨fun _ _ => nofun, error, rfl⟩

/-- The reply to what became of a request is that of the response, or a failure. -/
theorem conclude_cases (url : Url) (outcome : TransportOutcome) :
    (∃ response, outcome.response = .ok response ∧ url.hasType = true ∧
      (conclude url outcome).1 = replyOfResponse response outcome.elapsed) ∨
    ((∀ response, outcome.response = .ok response → url.hasType = false) ∧
      ((∃ error, (conclude url outcome).1 = .error error) ∨
        (conclude url outcome).1 = .ok (timedOut outcome.elapsed))) := by
  unfold conclude
  cases answer : outcome.response with
  | error failure =>
      refine .inr ⟨nofun, ?_⟩
      simp only
      cases failure.kind.otherName? with
      | some name => exact .inl ⟨_, rfl⟩
      | none => exact .inr rfl
  | ok response =>
      cases typed : url.hasType with
      | false => exact .inr ⟨fun _ _ => rfl, .inl ⟨_, rfl⟩⟩
      | true =>
          refine .inl ⟨response, rfl, rfl, ?_⟩
          cases reply : replyOfResponse response outcome.elapsed <;> simp [reply]

theorem hasBody_iff {client : Client} {transport : Transport} {request : RunRequest} {url : Url}
    {sent : HttpRequest} {body : Json} (prepared : client.prepare request = .ok (url, sent)) :
    client.HasBody transport request body ↔
      ∃ response, (transport sent).response = .ok response ∧ url.hasType = true ∧
        response.status = 200 ∧ readBody response.body = .ok body := by
  constructor
  · rintro ⟨response, ⟨_, _, same, typed, answer⟩, succeeds, isBody⟩
    cases prepared.symm.trans same
    exact ⟨response, answer, typed, succeeds, isBody⟩
  · rintro ⟨response, answer, typed, succeeds, isBody⟩
    exact ⟨response, ⟨url, sent, prepared, typed, answer⟩, succeeds, isBody⟩

variable {client : Client} {transport : Transport} {request : RunRequest}

/-- What the client answers: the reply of the body that it gets, or a failure. -/
theorem runner_cases (notBlank : ∃ char ∈ request.script, Text.isBlank char = false) :
    (∃ body time, client.HasBody transport request body ∧
      (client.runner transport request).reply =
        (replyOfBody body time).mapError (·.message)) ∨
    ((∀ body, ¬ client.HasBody transport request body) ∧
      ((∃ text, (client.runner transport request).reply = .error text) ∨
        ∃ elapsed, (client.runner transport request).reply = .ok (timedOut elapsed))) := by
  have asked : ¬ Text.isBlankText request.script = true := by
    rw [Text.isBlankText_eq_false_iff.mpr notBlank]
    exact Bool.false_ne_true
  simp only [runner, exchange, if_neg asked]
  -- Every way to have no reply also rules out a body: nothing sent, no response, or no JSON in it.
  cases made : client.prepare request with
  | error error =>
      refine .inr ⟨?_, .inl ⟨error.message, rfl⟩⟩
      rintro body ⟨_, ⟨url, sent, other, _⟩, _⟩
      cases made.symm.trans other
  | ok pair =>
      obtain ⟨url, sent⟩ := pair
      simp only
      rcases conclude_cases url (transport sent) with
        ⟨response, answer, typed, reply⟩ | ⟨untyped, failure⟩
      · rw [reply]
        rcases replyOfResponse_cases response (transport sent).elapsed with
          ⟨body, succeeds, isBody, same⟩ | ⟨noBody, error, isError⟩
        · refine .inl ⟨body, milliseconds (transport sent).elapsed,
            (hasBody_iff made).mpr ⟨response, answer, typed, succeeds, isBody⟩, ?_⟩
          rw [same]
          cases replyOfBody body (milliseconds (transport sent).elapsed) <;> rfl
        · rw [isError]
          refine .inr ⟨fun body hasBody => ?_, .inl ⟨error.message, rfl⟩⟩
          obtain ⟨other, same, _, succeeds, isBody⟩ := (hasBody_iff made).mp hasBody
          cases answer.symm.trans same
          exact noBody succeeds body isBody
      · refine .inr ⟨fun body hasBody => ?_, ?_⟩
        · obtain ⟨response, answer, typed, _⟩ := (hasBody_iff made).mp hasBody
          exact Bool.false_ne_true ((untyped response answer).symm.trans typed)
        · rcases failure with ⟨error, isError⟩ | timeout
          · exact .inl ⟨error.message, by rw [isError]; rfl⟩
          · exact .inr ⟨(transport sent).elapsed, by rw [timeout]; rfl⟩

theorem HasBody.unique {body other : Json} (hasBody : client.HasBody transport request body)
    (hasOther : client.HasBody transport request other) : body = other := by
  obtain ⟨response, ⟨url, sent, prepared, _, answer⟩, _, isBody⟩ := hasBody
  obtain ⟨_, same, _, _, isOther⟩ := (hasBody_iff prepared).mp hasOther
  cases answer.symm.trans same
  cases isBody.symm.trans isOther
  rfl

end Client

/-! ### Runs -/

section
variable {executor : Executor} {client : Client} {transport : Transport} {options : RunOptions}
  {script : List Char} {request : RunRequest}

theorem notBlank_of_isRequest (admits : executor.Admits options script)
    (isRequest : executor.IsRequest options script request) :
    ∃ char ∈ request.script, Text.isBlank char = false := by
  cases testMode : options.testMode with
  | false =>
      rw [isRequest.verbatim testMode]
      exact admits.notBlank
  | true =>
      -- In test mode the script is wrapped, and the wrapper begins with a bracket.
      have wrapped := isRequest.wrapped testMode
      rw [Expression.wrap, admits.isExpression testMode] at wrapped
      split at wrapped
      · cases wrapped
      · refine ⟨'(', ?_, by decide⟩
        rw [← Except.ok.inj wrapped, Expression.embed, Expression.wrapperHead_toList]
        simp [Expression.beforeCap]

/-- What becomes of the body that a runner answers with: its value is normalized, or it is reported
as a failure. -/
theorem resultOfOutcome_of_body {writes : List String} {outcome : Outcome} {body : Json}
    {time : Float} (answer : outcome.reply = (replyOfBody body time).mapError (·.message)) :
    let result := Executor.resultOfOutcome options writes outcome
    (¬ Fails body ∧ ∃ value, Carries body value ∧
      Executor.Shows result (normalize options.testMode value)) ∨
    (Fails body ∧ result.success = false ∧
      ∃ message, result.error = some message ∧ message ≠ "") := by
  have replies := replies body time
  generalize replyOfBody body time = reply at answer replies
  cases replies with
  | @success value logs succeeds carries =>
      exact .inl ⟨succeeds, value, carries, Executor.resultOfOutcome_of_success answer rfl⟩
  | @failure members fault logs isResult reports _ isMessage =>
      obtain ⟨failure, error⟩ := Executor.resultOfOutcome_of_failure answer rfl
      exact .inr ⟨(fails_iff isResult).mpr (.inl reports), failure, fault.message, error,
        ne_empty_of_failureMessage isMessage⟩
  | invalid _ fails _ => exact .inr ⟨fails, Executor.resultOfOutcome_of_error answer⟩

/-- What becomes of the answer of a client. -/
theorem resultOfOutcome_of_client (client : Client) (transport : Transport) (writes : List String)
    (notBlank : ∃ char ∈ request.script, Text.isBlank char = false) :
    let result := Executor.resultOfOutcome options writes (client.runner transport request)
    (∃ body value, client.HasBody transport request body ∧ ¬ Fails body ∧ Carries body value ∧
      Executor.Shows result (normalize options.testMode value)) ∨
    ((∀ body, client.HasBody transport request body → Fails body) ∧ result.success = false ∧
      ∃ message, result.error = some message ∧ message ≠ "") := by
  rcases Client.runner_cases notBlank with ⟨body, time, hasBody, answer⟩ | ⟨noBody, answer⟩
  · rcases resultOfOutcome_of_body answer with ⟨succeeds, value, carries, shows⟩ | ⟨fails, failure⟩
    · exact .inl ⟨body, value, hasBody, succeeds, carries, shows⟩
    · exact .inr ⟨fun other hasOther => hasBody.unique hasOther ▸ fails, failure⟩
  · refine .inr ⟨fun body hasBody => absurd hasBody (noBody body), ?_⟩
    rcases answer with ⟨text, answer⟩ | ⟨elapsed, answer⟩
    · exact Executor.resultOfOutcome_of_error answer
    · obtain ⟨failure, error⟩ := Executor.resultOfOutcome_of_failure answer rfl
      exact ⟨failure, "Script execution timed out", error, by decide⟩

/-- **When a run over a transport succeeds.** The run of an admitted script makes one request and
has a result. It is a success exactly when the client gets a body for the request and the body
stands for no failure; it then shows the normalized value that the body carries. A failure has an
error that is not empty. -/
theorem runRemotely_success (capPositive : 1 ≤ executor.defaultCap) (client : Client)
    (transport : Transport) (admits : executor.Admits options script) :
    let run := (runRemotely executor client transport options (some script)).run
    ∃ request result, executor.IsRequest options script request ∧
      run.requests = [request] ∧ run.outcome = .ok result ∧
      (result.success = true ↔ ∃ body, client.HasBody transport request body ∧ ¬ Fails body) ∧
      (result.success = true → ∃ body value, client.HasBody transport request body ∧
        Carries body value ∧ Executor.Shows result (normalize options.testMode value)) ∧
      (result.success = false → ∃ message, result.error = some message ∧ message ≠ "") := by
  intro run
  rcases executor.execute_cases (client.runner transport) options (some script) with
    ⟨prepared, _, isRequest, requests, outcome⟩ | ⟨message, refuses, _⟩ | ⟨lacksCap, _⟩
  · refine ⟨prepared.request, _, isRequest, requests, outcome, ?_⟩
    rcases resultOfOutcome_of_client client transport prepared.writes
        (notBlank_of_isRequest admits isRequest) with
      ⟨body, value, hasBody, succeeds, carries, shows⟩ | ⟨fails, failure, error⟩
    · refine ⟨iff_of_true shows.success ⟨body, hasBody, succeeds⟩,
        fun _ => ⟨body, value, hasBody, carries, shows⟩, fun failure => ?_⟩
      exact absurd (shows.success.symm.trans failure) (by decide)
    · rw [failure]
      exact ⟨iff_of_false Bool.false_ne_true fun ⟨body, hasBody, succeeds⟩ =>
        succeeds (fails body hasBody), nofun, fun _ => error⟩
  · exact absurd admits refuses.not_admits
  · exact absurd capPositive (Int.not_le.mpr lacksCap.notPositive)

theorem runRemotely_success_of_status :
    (1 : Int) ≤ 5 ∧ ∃ result message,
      (runRemotely ⟨⟨[], [], 10, by decide⟩, 5⟩
        ⟨⟨[], [], [], none, [], none, none⟩, defaultEndpoint, ⟨defaultTimeout, maxTimeout⟩,
          anyContent, none⟩
        (fun _ => ⟨.ok ⟨500, []⟩, 0⟩) .standard (some ['a'])).run.outcome = .ok result ∧
      result.success = false ∧ result.error = some message ∧ message ≠ "" := by
  refine ⟨by decide, ?_⟩
  have admits : Executor.Admits ⟨⟨[], [], 10, by decide⟩, 5⟩ .standard ['a'] :=
    ⟨⟨⟨'a', by decide, by decide⟩, by decide, nofun⟩, nofun⟩
  obtain ⟨request, result, _, _, outcome, success, _, failure⟩ :=
    runRemotely_success (by decide) _ (fun _ => ⟨.ok ⟨500, []⟩, 0⟩) admits
  -- Whatever the client sends, a response with this status gives it no body.
  have failed : result.success = false := by
    refine Bool.eq_false_iff.mpr fun succeeds => ?_
    obtain ⟨body, ⟨response, ⟨_, _, _, _, answer⟩, isSuccess, _⟩, _⟩ := success.mp succeeds
    cases answer
    exact absurd isSuccess (by decide)
  obtain ⟨message, error, notEmpty⟩ := failure failed
  exact ⟨result, message, outcome, failed, error, notEmpty⟩

/-- A reported failure with a message becomes a failed reply with that message, or none at all. -/
theorem replyOfBody_of_selects {body : Json} {members : List (String × Json)} {message : String}
    (isResult : body.member? "result" = some (.obj members))
    (reports : ReportsFailure (.obj members)) (selects : Selects (.obj members) message)
    (notEmpty : message ≠ "") (time : Float) :
    (WellTyped (.obj members) ∧ ∃ fault logs, fault.message = message ∧
      replyOfBody body time = .ok ⟨false, .null, some logs, some fault, some time⟩) ∨
    (¬ WellTyped (.obj members) ∧ ∃ record, replyOfBody body time = .error record) := by
  have selected := selects.failureMessage_eq notEmpty
  have replies := replies body time
  generalize replyOfBody body time = reply at replies ⊢
  cases replies with
  | success succeeds _ => exact absurd ((fails_iff isResult).mpr (.inl reports)) succeeds
  | @failure _ fault logs same _ wellTyped isMessage =>
      cases isResult.symm.trans same
      exact .inl ⟨wellTyped, fault, logs, Json.str.inj (isMessage.symm.trans selected), rfl⟩
  | @invalid _ record same _ unfit =>
      cases isResult.symm.trans same
      exact .inr ⟨fun wellTyped => unfit ⟨⟨message, selected⟩, wellTyped⟩, record, rfl⟩

/-- **When the message of a failed result is kept.** A body whose result reports a failure and
selects a message that is not empty becomes a failed reply with this message when the line, the type
and the log beside it are well typed, and then every run whose client gets the body reports the
message as its error. Otherwise the message is lost: the body becomes an invalid record. -/
theorem failure_keeps_message {body : Json} {members : List (String × Json)} {message : String}
    (isResult : body.member? "result" = some (.obj members))
    (reports : ReportsFailure (.obj members)) (selects : Selects (.obj members) message)
    (notEmpty : message ≠ "") :
    (∀ time, WellTyped (.obj members) → ∃ fault logs, fault.message = message ∧
      replyOfBody body time = .ok ⟨false, .null, some logs, some fault, some time⟩) ∧
    (∀ time, ¬ WellTyped (.obj members) → ∃ record, replyOfBody body time = .error record) ∧
    (WellTyped (.obj members) → ∀ (executor : Executor) (client : Client) (transport : Transport)
      (options : RunOptions) (script : List Char),
      let run := (runRemotely executor client transport options (some script)).run
      ∀ request ∈ run.requests, client.HasBody transport request body →
        ∃ result, run.outcome = .ok result ∧ result.success = false ∧
          result.error = some message) := by
  have kept := replyOfBody_of_selects isResult reports selects notEmpty
  refine ⟨fun time wellTyped => ?_, fun time unfit => ?_, ?_⟩
  · exact (kept time).elim (·.2) fun lost => absurd wellTyped lost.1
  · exact (kept time).elim (fun whole => absurd whole.1 unfit) (·.2)
  · intro wellTyped executor client transport options script run request member hasBody
    obtain ⟨admits, isRequest, writes, outcome⟩ := Executor.outcome_of_mem_requests member
    refine ⟨_, outcome, ?_⟩
    rcases Client.runner_cases (notBlank_of_isRequest admits isRequest) with
      ⟨other, time, hasOther, answer⟩ | ⟨noBody, _⟩
    · obtain rfl := hasBody.unique hasOther
      rcases kept time with ⟨_, fault, logs, rfl, isReply⟩ | lost
      · rw [isReply] at answer
        exact Executor.resultOfOutcome_of_failure answer rfl
      · exact absurd wellTyped lost.1
    · exact absurd hasBody (noBody body)

theorem failure_keeps_message_at_line :
    ∃ fault logs, fault.message = "boom" ∧
      replyOfBody (.obj [("result", .obj [("success", .bool false),
        ("error", .obj [("message", .str "boom"), ("line", .int 3)])])]) 0 =
        .ok ⟨false, .null, some logs, some fault, some 0⟩ := by
  refine (failure_keeps_message rfl (.inl rfl) (.named rfl rfl) (by decide)).1 0 ?_
  exact ⟨.inr ⟨3, rfl⟩, ⟨"Error", rfl⟩, nofun⟩

/-- A line that is no whole number: the message that the result selects is lost. -/
theorem failure_loses_message :
    let result : Json := .obj [("success", .bool false),
      ("error", .obj [("message", .str "boom"), ("line", .str "x")])]
    ReportsFailure result ∧ Selects result "boom" ∧
      ¬ ∃ reply, replyOfBody (.obj [("result", result)]) 1.5 = .ok reply := by
  intro result
  have reports : ReportsFailure result := .inl rfl
  have selects : Selects result "boom" := .named rfl rfl
  have isResult : (Json.obj [("result", result)]).member? "result" = some result := rfl
  refine ⟨reports, selects, ?_⟩
  rintro ⟨reply, isReply⟩
  rcases replyOfBody_of_selects isResult reports selects (by decide) 1.5 with
    ⟨wellTyped, _⟩ | ⟨_, record, isError⟩
  · rcases wellTyped.line with noLine | ⟨whole, isWhole⟩
    · cases noLine
    · cases isWhole
  · cases isReply.symm.trans isError

end

end ScriptGate.Remote
