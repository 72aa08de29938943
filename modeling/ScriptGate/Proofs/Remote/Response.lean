import ScriptGate.Proofs.Field
import ScriptGate.Remote.Response

/-! # What a body is taken for

A body carries a value (`Carries`) unless its result is an object that reports a failure or has a
log that is no list of texts (`Fails`). A reported failure keeps the message it selects (`Selects`)
when the line, the type and the log beside the message have the types of their fields (`WellTyped`),
and becomes an invalid record otherwise. -/

namespace ScriptGate

/-! ### Truthy values -/

namespace Json

theorem truthy_orElse (first second : Json) :
    (first.orElse second).truthy = (first.truthy || second.truthy) := by
  unfold orElse
  cases given : first.truthy with
  | true => rw [if_pos rfl, given, Bool.true_or]
  | false => rw [if_neg Bool.false_ne_true, Bool.false_or]

/-- A member that is missing counts as `null`, which is not truthy. -/
theorem truthy_memberOrNull_iff {value : Json} {name : String} :
    (value.memberOrNull name).truthy = true ↔
      ∃ member, value.member? name = some member ∧ member.truthy = true := by
  unfold memberOrNull
  cases value.member? name with
  | none => simp [truthy]
  | some member => simp

theorem memberOrNull_of_member? {value member : Json} {name : String}
    (named : value.member? name = some member) : value.memberOrNull name = member := by
  rw [memberOrNull, named, Option.getD_some]

end Json

namespace Remote

/-! ### Results -/

/-- A result that says it failed, or has an error. -/
def ReportsFailure (result : Json) : Prop :=
  result.member? "success" = some (.bool false) ∨
    ∃ error, result.member? "error" = some error ∧ error.truthy = true

/-- A result whose log, if it has one that is truthy, is a list of texts. -/
def HasLogs (result : Json) : Prop :=
  ∀ logs, result.member? "logs" = some logs → logs.truthy = true →
    ∃ texts, logs = .ofStrings texts

/-- A body that stands for a failure: its result is an object that reports one or has no proper
log. -/
def Fails (body : Json) : Prop :=
  ∃ members, body.member? "result" = some (.obj members) ∧
    (ReportsFailure (.obj members) ∨ ¬ HasLogs (.obj members))

/-- The value that a body carries. -/
inductive Carries (body : Json) : Json → Prop where
  | whole (noResult : body.member? "result" = none) : Carries body body
  | bare {result : Json} (isResult : body.member? "result" = some result)
      (notObject : ∀ members, result ≠ .obj members) : Carries body result
  | named {members : List (String × Json)} {value : Json}
      (isResult : body.member? "result" = some (.obj members))
      (isValue : (Json.obj members).member? "value" = some value) : Carries body value
  | object {members : List (String × Json)}
      (isResult : body.member? "result" = some (.obj members))
      (noValue : (Json.obj members).member? "value" = none) : Carries body (.obj members)

/-- The message that a result selects: that of an error that is an object, or an error that is a
text, or else the message beside the error. -/
inductive Selects (result : Json) (message : String) : Prop where
  | named {members : List (String × Json)} (error : result.member? "error" = some (.obj members))
      (isMessage : (Json.obj members).member? "message" = some (.str message))
  | text (error : result.member? "error" = some (.str message))
  | beside
      (unnamed : ∀ members, result.member? "error" = some (.obj members) →
        ((Json.obj members).memberOrNull "message").truthy = false)
      (noText : ∀ other, result.member? "error" = some (.str other) → other = "")
      (isMessage : result.member? "errorMessage" = some (.str message))

/-- The line, the type and the log of a failed result have the types of their fields. -/
structure WellTyped (result : Json) : Prop where
  line : failureLine result = .null ∨ ∃ whole, wholeOf (failureLine result) = .ok whole
  type : ∃ text, failureType result = .str text
  logs : HasLogs result

theorem isFailure_iff {result : Json} : isFailure result = true ↔ ReportsFailure result := by
  rw [isFailure, Bool.or_eq_true]
  refine or_congr ?_ Json.truthy_memberOrNull_iff
  -- Only `false` itself is a report; a missing member and other values, truthy or not, are none.
  unfold Json.memberOrNull
  cases result.member? "success" with
  | none => simp
  | some success =>
      cases success with
      | bool value => cases value <;> simp
      | _ => simp

theorem exists_logsOf_iff {result : Json} :
    (∃ texts, logsOf result = .ok texts) ↔ HasLogs result := by
  have given : (∃ texts, logsOf result = .ok texts) ↔
      ∃ texts, (result.memberOrNull "logs").orElse (.arr []) = .ofStrings texts := by
    simp only [logsOf, Checked.toRecord_eq_ok_iff, checkTexts_eq_ok_iff, id_eq, exists_eq_right]
  rw [given]
  unfold Json.orElse HasLogs
  by_cases truthy : (result.memberOrNull "logs").truthy = true
  · obtain ⟨logs, isLogs, isTruthy⟩ := Json.truthy_memberOrNull_iff.mp truthy
    rw [if_pos truthy, Json.memberOrNull_of_member? isLogs]
    simp [isLogs, isTruthy]
  · rw [if_neg truthy]
    refine iff_of_true ⟨[], rfl⟩ fun logs isLogs isTruthy => ?_
    exact absurd (Json.truthy_memberOrNull_iff.mpr ⟨logs, isLogs, isTruthy⟩) truthy

/-- The message of a failed result is never empty: a default stands in for it. -/
theorem truthy_failureMessage (result : Json) : (failureMessage result).truthy = true := by
  rw [failureMessage, Json.truthy_orElse, Json.truthy_orElse]
  simp [Json.truthy, scriptFailure]

theorem ne_empty_of_failureMessage {result : Json} {message : String}
    (isMessage : failureMessage result = .str message) : message ≠ "" := by
  rintro rfl
  have truthy := truthy_failureMessage result
  rw [isMessage] at truthy
  exact absurd truthy (by decide)

/-- The type of a failed result is never `null`: a default stands in for it. -/
theorem truthy_failureType (result : Json) : (failureType result).truthy = true := by
  rw [failureType, Json.truthy_orElse, Json.truthy_orElse]
  simp [Json.truthy, unnamedError]

/-- The message that a result selects is the one of its error. -/
theorem Selects.failureMessage_eq {result : Json} {message : String}
    (selects : Selects result message) (notEmpty : message ≠ "") :
    failureMessage result = .str message := by
  have truthy : (Json.str message).truthy = true := by simpa [Json.truthy] using notEmpty
  unfold failureMessage
  cases selects with
  | named error isMessage =>
      rw [errorObject, Json.memberOrNull_of_member? error]
      change ((Json.obj _).memberOrNull "message").orElse _ = _
      rw [Json.memberOrNull_of_member? isMessage, Json.orElse, if_pos truthy]
  | text error =>
      rw [errorObject, Json.memberOrNull_of_member? error]
      exact if_pos truthy
  | beside unnamed noText isMessage =>
      -- An error of any other kind counts as an empty object, which has no message.
      have noMessage : ¬ ((errorObject result).memberOrNull "message").truthy = true := by
        rw [Bool.not_eq_true]
        unfold errorObject Json.memberOrNull
        cases error : result.member? "error" with
        | none => rfl
        | some value =>
            cases value with
            | obj members => exact unnamed members error
            | str text =>
                rw [noText text error]
                rfl
            | _ => rfl
      rw [Json.orElse, if_neg noMessage, Json.memberOrNull_of_member? isMessage, Json.orElse,
        if_pos truthy]

theorem faultOf_eq_ok_iff {result : Json} {fault : RemoteFault} :
    faultOf result = .ok fault ↔
      failureMessage result = .str fault.message ∧
      (failureLine result = .null ∧ fault.line = none ∨
        ∃ whole, wholeOf (failureLine result) = .ok whole ∧ fault.line = some whole) ∧
      failureType result = Json.ofOption .str fault.type := by
  obtain ⟨message, line, type⟩ := fault
  simp only [faultOf, Checked.toRecord_eq_ok_iff, Prod.exists, Checked.both_eq_ok_iff,
    checkText_eq_ok_iff, checkWhole?_eq_ok_iff, checkText?_eq_ok_iff, RemoteFault.mk.injEq,
    Except.ok.injEq]
  constructor
  · rintro ⟨_, _, _, ⟨isMessage, isLine, isType⟩, rfl, rfl, rfl⟩
    refine ⟨isMessage, isLine.imp_right ?_, isType⟩
    rintro ⟨whole, _, isWhole, rfl, given⟩
    exact ⟨whole, isWhole, given⟩
  · rintro ⟨isMessage, isLine, isType⟩
    refine ⟨message, line, type, ⟨isMessage, isLine.imp_right ?_, isType⟩, rfl, rfl, rfl⟩
    rintro ⟨whole, isWhole, given⟩
    exact ⟨whole, whole, isWhole, rfl, given⟩

/-- The error and the log of a failed result can be made exactly of a message that is a text and
well-typed members beside it. -/
theorem exists_faultOf_logsOf_iff {result : Json} :
    (∃ fault logs, faultOf result = .ok fault ∧ logsOf result = .ok logs) ↔
      (∃ message, failureMessage result = .str message) ∧ WellTyped result := by
  constructor
  · rintro ⟨fault, logs, isFault, isLogs⟩
    obtain ⟨isMessage, isLine, isType⟩ := faultOf_eq_ok_iff.mp isFault
    refine ⟨⟨fault.message, isMessage⟩, ?_, ?_, exists_logsOf_iff.mp ⟨logs, isLogs⟩⟩
    · exact isLine.imp And.left fun ⟨whole, isWhole, _⟩ => ⟨whole, isWhole⟩
    · cases given : fault.type with
      | some type => exact ⟨type, by rw [isType, given, Json.ofOption]⟩
      | none =>
          have truthy := truthy_failureType result
          rw [isType, given] at truthy
          exact absurd truthy Bool.false_ne_true
  · rintro ⟨⟨message, isMessage⟩, wellTyped⟩
    obtain ⟨logs, isLogs⟩ := exists_logsOf_iff.mpr wellTyped.logs
    obtain ⟨type, isType⟩ := wellTyped.type
    rcases wellTyped.line with noLine | ⟨whole, isWhole⟩
    · exact ⟨⟨message, none, some type⟩, logs,
        faultOf_eq_ok_iff.mpr ⟨isMessage, .inl ⟨noLine, rfl⟩, isType⟩, isLogs⟩
    · exact ⟨⟨message, some whole, some type⟩, logs,
        faultOf_eq_ok_iff.mpr ⟨isMessage, .inr ⟨whole, isWhole, rfl⟩, isType⟩, isLogs⟩

/-! ### Bodies -/

/-- What becomes of a body. -/
inductive Replies (body : Json) (time : Float) : Except InvalidRecord Reply → Prop where
  | success {value : Json} {logs : Option (List String)} (succeeds : ¬ Fails body)
      (carries : Carries body value) :
      Replies body time (.ok ⟨true, value, logs, none, some time⟩)
  | failure {members : List (String × Json)} {fault : RemoteFault} {logs : List String}
      (isResult : body.member? "result" = some (.obj members))
      (reports : ReportsFailure (.obj members)) (wellTyped : WellTyped (.obj members))
      (isMessage : failureMessage (.obj members) = .str fault.message) :
      Replies body time (.ok ⟨false, .null, some logs, some fault, some time⟩)
  | invalid {members : List (String × Json)} {record : InvalidRecord}
      (isResult : body.member? "result" = some (.obj members)) (fails : Fails body)
      (unfit : ¬ ((∃ message, failureMessage (.obj members) = .str message) ∧
        WellTyped (.obj members))) :
      Replies body time (.error record)

theorem not_fails_of_not_object {body : Json}
    (notObject : ∀ members, body.member? "result" ≠ some (.obj members)) : ¬ Fails body :=
  fun ⟨members, isResult, _⟩ => notObject members isResult

theorem fails_iff {body : Json} {members : List (String × Json)}
    (isResult : body.member? "result" = some (.obj members)) :
    Fails body ↔ ReportsFailure (.obj members) ∨ ¬ HasLogs (.obj members) := by
  simp only [Fails, isResult, Option.some.injEq, Json.obj.injEq, exists_eq_left']

theorem carries_of_object {body : Json} {members : List (String × Json)}
    (isResult : body.member? "result" = some (.obj members)) :
    Carries body (((Json.obj members).member? "value").getD (.obj members)) := by
  cases isValue : (Json.obj members).member? "value" with
  | some value => exact .named isResult isValue
  | none => exact .object isResult isValue

theorem replies_of_object {body : Json} {members : List (String × Json)} (time : Float)
    (isResult : body.member? "result" = some (.obj members)) :
    Replies body time (replyOfResult (.obj members) time) := by
  unfold replyOfResult
  by_cases reports : ReportsFailure (.obj members)
  · rw [if_pos (isFailure_iff.mpr reports)]
    -- The error is made before the log, and a fault of either leaves no reply.
    have fails := (fails_iff isResult).mpr (.inl reports)
    cases isFault : faultOf (.obj members) with
    | error record =>
        refine .invalid isResult fails fun fits => ?_
        obtain ⟨fault, _, other, _⟩ := exists_faultOf_logsOf_iff.mpr fits
        cases isFault.symm.trans other
    | ok fault =>
        cases isLogs : logsOf (.obj members) with
        | error record =>
            refine .invalid isResult fails fun fits => ?_
            obtain ⟨_, logs, _, other⟩ := exists_faultOf_logsOf_iff.mpr fits
            cases isLogs.symm.trans other
        | ok logs =>
            obtain ⟨_, wellTyped⟩ := exists_faultOf_logsOf_iff.mp ⟨fault, logs, isFault, isLogs⟩
            exact .failure isResult reports wellTyped (faultOf_eq_ok_iff.mp isFault).1
  · rw [if_neg fun failure => reports (isFailure_iff.mp failure)]
    cases isLogs : logsOf (.obj members) with
    | error record =>
        have noLogs : ¬ HasLogs (.obj members) := fun hasLogs => by
          obtain ⟨logs, other⟩ := exists_logsOf_iff.mpr hasLogs
          cases isLogs.symm.trans other
        exact .invalid isResult ((fails_iff isResult).mpr (.inr noLogs)) fun fits =>
          noLogs fits.2.logs
    | ok logs =>
        have hasLogs := exists_logsOf_iff.mp ⟨logs, isLogs⟩
        refine .success (fun fails => ?_) (carries_of_object isResult)
        exact ((fails_iff isResult).mp fails).elim reports fun noLogs => noLogs hasLogs

/-- A body becomes a success or a failure, or its result is no proper record. -/
theorem replies (body : Json) (time : Float) : Replies body time (replyOfBody body time) := by
  unfold replyOfBody
  cases isResult : body.member? "result" with
  | none =>
      refine .success (not_fails_of_not_object ?_) (.whole isResult)
      simp [isResult]
  | some result =>
      cases result with
      | obj members => exact replies_of_object time isResult
      | _ =>
          refine .success (not_fails_of_not_object ?_) (.bare isResult nofun)
          simp [isResult]

end Remote

end ScriptGate
