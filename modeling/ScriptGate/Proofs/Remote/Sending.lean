import ScriptGate.Proofs.Number.Seconds
import ScriptGate.Proofs.Remote.Run

/-! # What a run sends

A run through a client sends its request when the script is admitted and the address of the request
can be made. Otherwise it sends nothing and fails. -/

namespace ScriptGate.Remote

/-- A number of milliseconds up to a minute has a number of seconds. -/
theorem seconds?_eq_some {limit : Int} (positive : 0 < limit) (most : limit ≤ 60000) :
    seconds? limit = some (Float.ofScientific limit.toNat true 3) := by
  have sameSize : limit.natAbs = limit.toNat := by omega
  have isFinite : (Float.ofScientific limit.toNat true 3).isInf = false :=
    (Number.bounds_ofScientific (by omega) (by omega)).1
  simp only [seconds?, sameSize, isFinite, Bool.false_eq_true, ↓reduceIte,
    if_neg (Int.not_lt.mpr (Int.le_of_lt positive))]

/-- The time limit for a request with a positive limit of its own, or none. -/
theorem TimeLimits.effective_eq {limits : TimeLimits} {requested : Option Int}
    (positive : ∀ limit ∈ requested, 0 < limit) :
    limits.effective requested = min (requested.getD limits.fallback) limits.greatest := by
  cases requested with
  | none => rfl
  | some limit =>
      have isPositive := positive limit rfl
      rw [effective, Option.getD_some]
      simp only [if_neg (Int.ne_of_gt isPositive)]

namespace Client

variable {client : Client} {transport : Transport} {request : RunRequest} {seconds : Float}

/-- What is sent for a request to the client. -/
structure Posts (client : Client) (request : RunRequest) (message : HttpRequest) : Prop where
  url : ∃ url, client.address = .ok url ∧ message.url = String.ofList url.text
  script : message.script = request.script
  timeout : seconds? (client.limits.effective request.timeout) = some message.timeout

/-- The client sends a request when its address can be made, and has no reply otherwise. -/
theorem exchange_cases (notBlank : ∃ char ∈ request.script, Text.isBlank char = false)
    (inTime : seconds? (client.limits.effective request.timeout) = some seconds) :
    (∃ message, client.Posts request message ∧
      (client.exchange transport request).requests = [message]) ∨
    ((∃ error, client.address = .error error) ∧
      (client.exchange transport request).requests = [] ∧
      ∃ error, (client.exchange transport request).reply = .error error) := by
  have asked : ¬ Text.isBlankText request.script = true := by
    rw [Text.isBlankText_eq_false_iff.mpr notBlank]
    exact Bool.false_ne_true
  simp only [exchange, if_neg asked, prepare, inTime]
  cases made : client.address with
  | error error => exact .inr ⟨⟨error, rfl⟩, rfl, _, rfl⟩
  | ok url => exact .inl ⟨_, ⟨⟨url, made, rfl⟩, rfl, inTime⟩, rfl⟩

end Client

/-- What a run sends: one request for an admitted script, when its address can be made. A run that
sends nothing fails. -/
theorem runRemotely_cases {executor : Executor} (capPositive : 1 ≤ executor.defaultCap)
    {client : Client} {options : RunOptions} {seconds : Float}
    (inTime : seconds? (client.limits.effective (options.timeout.map (·.val))) = some seconds)
    (transport : Transport) (script : List Char) :
    let remote := runRemotely executor client transport options (some script)
    ∃ result, remote.run.outcome = .ok result ∧
      ((executor.Admits options script ∧ ∃ request message,
          executor.IsRequest options script request ∧ client.Posts request message ∧
          remote.sent = [message]) ∨
        ((executor.Admits options script → ∃ error, client.address = .error error) ∧
          remote.sent = [] ∧ result.success = false)) := by
  intro remote
  rcases executor.execute_cases (client.runner transport) options (some script) with
    ⟨prepared, admits, isRequest, requests, outcome⟩ | ⟨message, refuses, _, requests, outcome⟩ |
      ⟨lacksCap, _⟩
  · refine ⟨_, outcome, ?_⟩
    have sent : remote.sent = (client.exchange transport prepared.request).requests := by
      change List.flatMap _ _ = _
      rw [requests, List.flatMap_singleton]
    have timed : seconds? (client.limits.effective prepared.request.timeout) = some seconds := by
      rw [isRequest.timeout]
      exact inTime
    rcases Client.exchange_cases (notBlank_of_isRequest admits isRequest) timed with
      ⟨message, posts, sentOne⟩ | ⟨refused, sentNone, error, isError⟩
    · exact .inl ⟨admits, prepared.request, message, isRequest, posts, sent.trans sentOne⟩
    · refine .inr ⟨fun _ => refused, sent.trans sentNone, ?_⟩
      have answer : (client.runner transport prepared.request).reply = .error error.message := by
        rw [Client.runner, isError]
        rfl
      exact (Executor.resultOfOutcome_of_error answer).1
  · refine ⟨_, outcome, .inr ⟨fun admits => absurd admits refuses.not_admits, ?_, rfl⟩⟩
    change List.flatMap _ _ = _
    rw [requests, List.flatMap_nil]
  · exact absurd capPositive (Int.not_le.mpr lacksCap.notPositive)

end ScriptGate.Remote
