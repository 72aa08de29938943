import ScriptGate.Proofs.Remote.Sending
import ScriptGate.Proofs.Run.Report

/-! # Bodies that stand for one value

A value that is no object comes by itself, as a result, or as the value of a result (`Brings`). The
replies to the three bodies differ in their logs only, which are missing or empty. A run cannot tell
such replies apart, so the three bodies give one and the same run (`runRemotely_eq_of_brings`). -/

namespace ScriptGate.Remote

/-- A transport that answers every request with a response whose status is success and whose body
is read as the given value. -/
structure Transport.Answers (transport : Transport) (elapsed : HttpRequest → Float) (body : Json) :
    Prop where
  elapsed : ∀ sent, (transport sent).elapsed = elapsed sent
  body : ∀ sent, ∃ text, (transport sent).response = .ok ⟨200, text⟩ ∧
    Client.readBody text = .ok body

/-- The bodies that stand for a value. -/
inductive Brings (value : Json) : Json → Prop where
  | whole : Brings value value
  | result : Brings value (.obj [("result", value)])
  | named : Brings value (.obj [("result", .obj [("value", value)])])

section
variable {value body otherBody : Json} {transport other : Transport}
  {elapsed : HttpRequest → Float}

/-- The reply to a body that stands for a value. -/
theorem Brings.exists_reply (brings : Brings value body)
    (notObject : ∀ members, value ≠ .obj members) (time : Float) :
    ∃ logs, logs.getD [] = [] ∧
      replyOfBody body time = .ok ⟨true, value, logs, none, some time⟩ := by
  cases brings with
  | whole | result =>
      refine ⟨none, rfl, ?_⟩
      cases value with
      | obj members => exact absurd rfl (notObject members)
      | _ => rfl
  | named => exact ⟨some [], rfl, rfl⟩

namespace Client

/-- What becomes of a response whose body stands for a value: its reply, unless the address of the
request has no type. -/
theorem exists_conclude_eq (answers : transport.Answers elapsed body) (brings : Brings value body)
    (notObject : ∀ members, value ≠ .obj members) (url : Url) (sent : HttpRequest) :
    ∃ logs, logs.getD [] = [] ∧ conclude url (transport sent) =
      if url.hasType then
        (.ok ⟨true, value, logs, none, some (milliseconds (elapsed sent))⟩,
          [record .debug s!"Script execution completed (success={boolText true})"])
      else (.error (.untyped (untypedText url)), []) := by
  obtain ⟨text, response, read⟩ := answers.body sent
  obtain ⟨logs, noLines, reply⟩ := brings.exists_reply notObject (milliseconds (elapsed sent))
  refine ⟨logs, noLines, ?_⟩
  have isReply : replyOfResponse ⟨200, text⟩ (elapsed sent) =
      .ok ⟨true, value, logs, none, some (milliseconds (elapsed sent))⟩ := by
    unfold replyOfResponse
    simp only [ApiError.ofResponse?, read]
    exact congrArg (Except.mapError ClientError.invalid) reply
  unfold conclude
  simp only [response, answers.elapsed sent, isReply]
  cases url.hasType <;> rfl

theorem requests_exchange_eq (client : Client) (transport other : Transport)
    (request : RunRequest) :
    (client.exchange transport request).requests = (client.exchange other request).requests := by
  unfold exchange
  split
  · rfl
  · cases client.prepare request with
    | error error => rfl
    | ok pair => rfl

/-- The answers of a client to whom one value is brought in two ways. -/
theorem alike_runner (answers : transport.Answers elapsed body) (brings : Brings value body)
    (answersOther : other.Answers elapsed otherBody) (bringsOther : Brings value otherBody)
    (notObject : ∀ members, value ≠ .obj members) (client : Client) (request : RunRequest) :
    Executor.Alike (client.runner transport request) (client.runner other request) := by
  unfold runner exchange
  -- A blank script or an address that cannot be made stops the client before either transport.
  split
  · exact .same _
  · cases client.prepare request with
    | error error => exact .same _
    | ok pair =>
        obtain ⟨url, sent⟩ := pair
        obtain ⟨logs, noLines, concludes⟩ := exists_conclude_eq answers brings notObject url sent
        obtain ⟨otherLogs, noOtherLines, concludesOther⟩ :=
          exists_conclude_eq answersOther bringsOther notObject url sent
        simp only [concludes, concludesOther, answers.elapsed sent, answersOther.elapsed sent]
        cases url.hasType with
        | false => exact .same _
        | true => exact .success (noLines.trans noOtherLines.symm)

theorem hasBody_of_receives {client : Client} {request : RunRequest} {response : HttpResponse}
    (answers : transport.Answers elapsed body)
    (receives : client.Receives transport request response) :
    client.HasBody transport request body := by
  obtain ⟨url, sent, prepared, typed, _⟩ := receives
  obtain ⟨text, answer, read⟩ := answers.body sent
  exact ⟨⟨200, text⟩, ⟨url, sent, prepared, typed, answer⟩, rfl, read⟩

end Client

/-- It makes no difference to a run in which body a value is brought. -/
theorem runRemotely_eq_of_brings (answers : transport.Answers elapsed body)
    (brings : Brings value body) (answersOther : other.Answers elapsed otherBody)
    (bringsOther : Brings value otherBody) (notObject : ∀ members, value ≠ .obj members)
    (executor : Executor) (client : Client) (options : RunOptions)
    (script : Option (List Char)) :
    runRemotely executor client transport options script =
      runRemotely executor client other options script := by
  have sameRun : executor.execute (client.runner transport) options script =
      executor.execute (client.runner other) options script :=
    Executor.execute_eq_of_alike fun request _ =>
      Client.alike_runner answers brings answersOther bringsOther notObject client request
  simp only [runRemotely, sameRun, Client.requests_exchange_eq client transport other]

/-- A run whose client is brought a value shows it, with no lines of the runner in its log. -/
theorem reportsValue_of_brings {executor : Executor} {client : Client} {options : RunOptions}
    {script : List Char} {request : RunRequest} {response : HttpResponse}
    (answers : transport.Answers elapsed body) (brings : Brings value body)
    (notObject : ∀ members, value ≠ .obj members)
    (member : request ∈ (runRemotely executor client transport options (some script)).run.requests)
    (receives : client.Receives transport request response) :
    ∃ result warning,
      (runRemotely executor client transport options (some script)).run.outcome = .ok result ∧
      Executor.Shows result (normalize options.testMode value) ∧ result.error = none ∧
      Executor.Warns options script warning ∧
      result.logs = some (warning ++ (normalize options.testMode value).logs) := by
  obtain ⟨admits, isRequest, _⟩ := Executor.outcome_of_mem_requests member
  obtain ⟨prepared, ready, outcome⟩ := Executor.exists_prepare_of_mem_requests member
  have hasBody := Client.hasBody_of_receives answers receives
  rcases Client.runner_cases (notBlank_of_isRequest admits isRequest) with
    ⟨other, time, hasOther, answer⟩ | ⟨noBody, _⟩
  · obtain rfl := hasBody.unique hasOther
    obtain ⟨logs, noLines, reply⟩ := brings.exists_reply notObject time
    rw [reply] at answer
    have reports := Executor.reportsValue_resultOfOutcome answer rfl
      (Executor.writes_of_prepare ready)
    obtain ⟨warning, warns, isLog⟩ := reports.logs
    refine ⟨_, warning, outcome, reports.toShows, reports.error, warns, ?_⟩
    rw [isLog, noLines, List.append_nil]
  · exact absurd hasBody (noBody body)

end

/-- **Three bodies for one value.** A value that is no object may come by itself, as a result, or as
the value of a result. For transports that answer with these bodies and take the same time, the runs
of a script are one and the same. The run of an admitted script has a result. When the client gets
the response, it is a success that shows the normalized value, and its log has the warning and the
lines about the value only. -/
theorem runRemotely_bodies_agree {value : Json} (notObject : ∀ members, value ≠ .obj members)
    {elapsed : HttpRequest → Float} {byItself asResult asValue : Transport}
    (answersWhole : byItself.Answers elapsed value)
    (answersResult : asResult.Answers elapsed (.obj [("result", value)]))
    (answersNamed : asValue.Answers elapsed (.obj [("result", .obj [("value", value)])]))
    (executor : Executor) (client : Client) (options : RunOptions) (script : List Char) :
    let run := fun transport => runRemotely executor client transport options (some script)
    run asResult = run byItself ∧ run asValue = run byItself ∧
    (executor.Admits options script → ¬ executor.LacksCap options script →
      ∃ request result, executor.IsRequest options script request ∧
        (run byItself).run.requests = [request] ∧ (run byItself).run.outcome = .ok result ∧
        ((∃ response, client.Receives byItself request response) →
          Executor.Shows result (normalize options.testMode value) ∧ result.error = none ∧
          ∃ warning, Executor.Warns options script warning ∧
            result.logs = some (warning ++ (normalize options.testMode value).logs))) := by
  intro run
  refine ⟨runRemotely_eq_of_brings answersResult .result answersWhole .whole notObject executor
      client options _,
    runRemotely_eq_of_brings answersNamed .named answersWhole .whole notObject executor client
      options _, ?_⟩
  intro admits hasCap
  obtain ⟨request, isRequest, requests⟩ :=
    Executor.exists_request_of_admits (client.runner byItself) admits hasCap
  have member : request ∈ (run byItself).run.requests := by
    change request ∈ (executor.execute _ options (some script)).requests
    rw [requests]
    exact List.mem_singleton_self request
  obtain ⟨_, _, _, outcome⟩ := Executor.outcome_of_mem_requests member
  refine ⟨request, _, isRequest, requests, outcome, ?_⟩
  rintro ⟨response, receives⟩
  obtain ⟨shown, warning, sameOutcome, shows, noError, warns, logs⟩ :=
    reportsValue_of_brings answersWhole .whole notObject member receives
  cases outcome.symm.trans sameOutcome
  exact ⟨shows, noError, warning, warns, logs⟩

theorem Client.readBody_eq_ok {text : List Char} {value : Json}
    (decoded : Text.redecode text = .ok text) (read : Json.read text = .ok value) :
    readBody text = .ok value := by
  rw [readBody, decoded]
  exact congrArg (Except.mapError ClientError.notJson) read

/-- The value `false`, which a client gets from an address with a type. -/
theorem runRemotely_bodies_agree_falsehood :
    let executor : Executor := ⟨⟨[], [], 10, by decide⟩, 5⟩
    let client : Client := ⟨⟨"https".toList, [], ['h'], none, ['/'], none, none⟩, "/run",
      ⟨defaultTimeout, maxTimeout⟩, anyContent, none⟩
    let answering (body : String) : Transport := fun _ => ⟨.ok ⟨200, body.toList⟩, 0⟩
    let run := fun body => runRemotely executor client (answering body) .standard (some ['a'])
    run "\x7b\"result\": false\x7d" = run "false" ∧
    run "\x7b\"result\": \x7b\"value\": false\x7d\x7d" = run "false" ∧
    ∃ result, (run "false").run.outcome = .ok result ∧ result.success = true ∧
      result.data = .obj [("value", .bool false), ("type", .str "boolean")] := by
  intro executor client answering run
  have answers (body : String) {value : Json}
      (decoded : Text.redecode body.toList = .ok body.toList)
      (read : Json.read body.toList = .ok value) : (answering body).Answers (fun _ => 0) value :=
    ⟨fun _ => rfl, fun _ => ⟨body.toList, rfl, Client.readBody_eq_ok decoded read⟩⟩
  have byItself : (answering "false").Answers (fun _ => 0) (.bool false) :=
    answers _ (by decide +kernel) rfl
  have asResult : (answering "\x7b\"result\": false\x7d").Answers (fun _ => 0)
      (.obj [("result", .bool false)]) := by
    refine answers _ (by decide +kernel) ?_
    simp only [String.reduceToList]
    rfl
  have asValue : (answering "\x7b\"result\": \x7b\"value\": false\x7d\x7d").Answers (fun _ => 0)
      (.obj [("result", .obj [("value", .bool false)])]) := by
    refine answers _ (by decide +kernel) ?_
    simp only [String.reduceToList]
    rfl
  have notObject : ∀ members, Json.bool false ≠ .obj members := nofun
  obtain ⟨sameResult, sameValue, admitted⟩ :=
    runRemotely_bodies_agree notObject byItself asResult asValue executor client .standard ['a']
  obtain ⟨request, result, isRequest, _, outcome, shows⟩ :=
    admitted ⟨⟨⟨'a', by decide, by decide⟩, by decide, nofun⟩, nofun⟩
      fun lacksCap => absurd lacksCap.notPositive (by decide)
  refine ⟨sameResult, sameValue, result, outcome, ?_⟩
  -- The client gets the response: its time limit is not too large, and its address has a type.
  have inTime : seconds? (client.limits.effective request.timeout) =
      some (Float.ofScientific 30000 true 3) := by
    rw [isRequest.timeout]
    exact seconds?_eq_some (by decide) (by decide)
  obtain ⟨url, made, typed⟩ : ∃ url, client.address = .ok url ∧ url.hasType = true :=
    ⟨⟨"https".toList, [], ['h'], none, "/run".toList, none, none⟩, by decide +kernel,
      by decide +kernel⟩
  have prepared : ∃ sent, client.prepare request = .ok (url, sent) := by
    simp only [Client.prepare, inTime, made]
    exact ⟨_, rfl⟩
  obtain ⟨sent, prepared⟩ := prepared
  obtain ⟨isShown, _⟩ := shows ⟨_, url, sent, prepared, typed, rfl⟩
  exact ⟨isShown.success, isShown.data⟩

end ScriptGate.Remote
