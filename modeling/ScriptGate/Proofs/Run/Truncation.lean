import ScriptGate.Run.Normalized

/-! # Lines about dropped records

A normalized result says whether records were dropped, and a line of its logs tells how many are
left. The flag and the line go together, except for one kind of value: an envelope that says that
it was cut, but not from how many records, gets the flag and no line
(`normalize_announces_truncation`). -/

namespace ScriptGate

/-- A line that tells how many records are shown, and of how many. -/
def IsTruncationLine (line : String) : Prop :=
  ∃ shown total, line = truncationMessage shown total

/-- Exactly one line of the logs tells about dropped records. It shows as many records as the result
counts, if it counts them. -/
structure Normalized.Announces (result : Normalized) (shown : Nat) (total : Json) : Prop where
  once : ∃ before after, result.logs = before ++ truncationMessage shown total :: after ∧
    ∀ line ∈ before ++ after, ¬ IsTruncationLine line
  counted : ∀ count ∈ result.recordCount, count = shown

/-- No line of the logs tells about dropped records. -/
def Normalized.IsQuiet (result : Normalized) : Prop :=
  ∀ line ∈ result.logs, ¬ IsTruncationLine line

/-- An envelope in test mode that says that it was cut, but not from how many records. -/
structure CutWithoutTotal (testMode : Bool) (raw : Json) : Prop where
  inTestMode : testMode = true
  isEnvelope : (raw.memberOrNull Expression.testModeTag).truthy = true
  isCut : (raw.memberOrNull Expression.truncatedTag).truthy = true
  noTotal : (raw.memberOrNull Expression.originalCountTag).truthy = false

theorem head?_truncationMessage (shown : Nat) (total : Json) :
    (truncationMessage shown total).toList.head? = some 'R' := by
  have initial : truncationMessage shown total =
      "R" ++ ("esults truncated: showing " ++ toString shown ++ " of " ++ total.display ++
        " records") := by
    unfold truncationMessage
    simp only [← String.append_assoc]
    rfl
  rw [initial, String.toList_append]
  rfl

/-- The line about an empty result tells nothing about dropped records. -/
theorem noRecordsMessage_not_truncation : ¬ IsTruncationLine noRecordsMessage := by
  rintro ⟨shown, total, same⟩
  have initial : noRecordsMessage.toList.head? = some 'N' := by decide
  rw [same, head?_truncationMessage] at initial
  cases initial

namespace Normalized

variable {result : Normalized} {shown : Nat} {total : Json}

theorem isQuiet_of_logs_eq_nil (noLines : result.logs = []) : result.IsQuiet := by
  intro line inLogs
  rw [noLines] at inLogs
  cases inLogs

theorem IsQuiet.not_announces (quiet : result.IsQuiet) : ¬ result.Announces shown total := by
  intro announces
  obtain ⟨before, after, logs, _⟩ := announces.once
  refine quiet _ ?_ ⟨shown, total, rfl⟩
  rw [logs]
  exact List.mem_append_right before List.mem_cons_self

theorem announces_of_logs_eq (only : result.logs = [truncationMessage shown total])
    (counted : ∀ count ∈ result.recordCount, count = shown) : result.Announces shown total where
  once := ⟨[], [], only, nofun⟩
  counted := counted

end Normalized

/-! ### Results by the kind of value -/

/-- A result with the kind of value that it is made from: an array, an envelope of test mode, or a
value that is no set of records. -/
inductive HasRecords (testMode : Bool) (raw : Json) : Normalized → Prop where
  | array {items : List Json} (isArray : raw = .arr items) :
      HasRecords testMode raw (.ofRecords items)
  | envelope (inTestMode : testMode = true)
      (isEnvelope : (raw.memberOrNull Expression.testModeTag).truthy = true) :
      HasRecords testMode raw (.ofEnvelope raw)
  | other {result : Normalized} (unflagged : result.truncated = none) (quiet : result.IsQuiet) :
      HasRecords testMode raw result

theorem hasRecords_plain {testMode : Bool} {raw data : Json} :
    HasRecords testMode raw (Normalized.plain data) :=
  .other rfl (Normalized.isQuiet_of_logs_eq_nil rfl)

theorem hasRecords_ofObject {testMode : Bool} {raw object : Json} :
    HasRecords testMode raw (Normalized.ofObject object) := by
  unfold Normalized.ofObject
  split
  · exact hasRecords_plain
  · exact .other rfl (Normalized.isQuiet_of_logs_eq_nil rfl)
  · exact hasRecords_plain

theorem hasRecords_normalize (testMode : Bool) (raw : Json) :
    HasRecords testMode raw (normalize testMode raw) := by
  cases raw with
  | null =>
      refine .other rfl ?_
      intro line inLogs
      rw [List.mem_singleton.mp inLogs]
      exact noRecordsMessage_not_truncation
  | bool | int | float | str => exact hasRecords_plain
  | arr items => exact .array rfl
  | obj members =>
      rw [normalize]
      split
      · next opened =>
          obtain ⟨inTestMode, isEnvelope⟩ := Bool.and_eq_true_iff.mp opened
          exact .envelope inTestMode isEnvelope
      · exact hasRecords_ofObject

/-- A result whose flag is set counts the records that it shows. -/
theorem HasRecords.recordCount {testMode : Bool} {raw : Json} {result : Normalized}
    (hasRecords : HasRecords testMode raw result) {items : List Json}
    (flagged : result.truncated ≠ none) (isArray : result.data = .arr items) :
    result.recordCount = some (items.length : Int) := by
  cases hasRecords with
  | array =>
      unfold Normalized.ofRecords at isArray ⊢
      split at isArray
      · next tooMany =>
          cases isArray
          rw [if_pos tooMany, List.length_take_of_le (Nat.le_of_lt tooMany)]
      · next few =>
          cases isArray
          rw [if_neg few]
  | envelope =>
      change raw.memberOrNull Expression.dataTag = .arr items at isArray
      simp only [Normalized.ofEnvelope, isArray]
      rfl
  | other unflagged => exact absurd unflagged flagged

/-! ### Announcements -/

namespace Normalized

theorem announces_ofRecords {records : List Json} (tooMany : maxRecords < records.length) :
    (ofRecords records).Announces maxRecords (.int records.length) := by
  unfold ofRecords
  rw [if_pos tooMany]
  refine announces_of_logs_eq rfl ?_
  rintro count ⟨⟩
  rfl

theorem ofRecords_of_few {records : List Json} (few : ¬ maxRecords < records.length) :
    (ofRecords records).truncated = some false ∧ (ofRecords records).IsQuiet := by
  unfold ofRecords
  rw [if_neg few]
  exact ⟨rfl, isQuiet_of_logs_eq_nil rfl⟩

theorem announces_ofEnvelope {envelope : Json}
    (isCut : (envelope.memberOrNull Expression.truncatedTag).truthy = true)
    (hasTotal : (envelope.memberOrNull Expression.originalCountTag).truthy = true) :
    (ofEnvelope envelope).Announces
      ((itemCount? (envelope.memberOrNull Expression.dataTag)).getD 0)
      (envelope.memberOrNull Expression.originalCountTag) := by
  refine announces_of_logs_eq ?_ ?_
  · simp only [ofEnvelope, isCut, hasTotal, Bool.and_self, ↓reduceIte]
  · intro count counted
    obtain ⟨number, isNumber, rfl⟩ := Option.map_eq_some_iff.mp counted
    rw [isNumber, Option.getD_some]

theorem isQuiet_ofEnvelope {envelope : Json}
    (silent : ((envelope.memberOrNull Expression.truncatedTag).truthy &&
      (envelope.memberOrNull Expression.originalCountTag).truthy) = false) :
    (ofEnvelope envelope).IsQuiet := by
  apply isQuiet_of_logs_eq_nil
  simp only [ofEnvelope, silent, Bool.false_eq_true, ↓reduceIte]

end Normalized

theorem truncated_of_cutWithoutTotal {testMode : Bool} {raw : Json}
    (noTotal : CutWithoutTotal testMode raw) : (normalize testMode raw).truncated = some true := by
  obtain ⟨rfl, isEnvelope, isCut, _⟩ := noTotal
  have opened : normalize true raw = .ofEnvelope raw := by
    cases raw with
    | obj members => rw [normalize, isEnvelope, Bool.and_self, if_pos rfl]
    | _ => cases isEnvelope
  rw [opened, Normalized.ofEnvelope, isCut]

/-- A result either announces that records were dropped, or tells nothing about it: then none were
dropped, or it is not known of how many. -/
theorem HasRecords.announces_or_isQuiet {testMode : Bool} {raw : Json} {result : Normalized}
    (hasRecords : HasRecords testMode raw result) :
    (result.truncated = some true ∧ ¬ CutWithoutTotal testMode raw ∧
      ∃ shown total, result.Announces shown total) ∨
    ((result.truncated = some true → CutWithoutTotal testMode raw) ∧ result.IsQuiet) := by
  cases hasRecords with
  | @array items isArray =>
      by_cases tooMany : maxRecords < items.length
      · refine .inl ⟨?_, ?_, _, _, Normalized.announces_ofRecords tooMany⟩
        · rw [Normalized.ofRecords, if_pos tooMany]
        · intro noTotal
          rw [isArray] at noTotal
          cases noTotal.isCut
      · obtain ⟨whole, quiet⟩ := Normalized.ofRecords_of_few tooMany
        refine .inr ⟨?_, quiet⟩
        rw [whole]
        nofun
  | envelope inTestMode isEnvelope =>
      have flag : (Normalized.ofEnvelope raw).truncated =
        some (raw.memberOrNull Expression.truncatedTag).truthy := rfl
      cases isCut : (raw.memberOrNull Expression.truncatedTag).truthy with
      | false =>
          refine .inr ⟨?_, Normalized.isQuiet_ofEnvelope (by rw [isCut, Bool.false_and])⟩
          rw [flag, isCut]
          nofun
      | true =>
          cases hasTotal : (raw.memberOrNull Expression.originalCountTag).truthy with
          | false =>
              refine .inr ⟨?_, Normalized.isQuiet_ofEnvelope (by rw [hasTotal, Bool.and_false])⟩
              exact fun _ => ⟨inTestMode, isEnvelope, isCut, hasTotal⟩
          | true =>
              refine .inl ⟨?_, ?_, _, _, Normalized.announces_ofEnvelope isCut hasTotal⟩
              · rw [flag, isCut]
              · intro noTotal
                cases hasTotal.symm.trans noTotal.noTotal
  | other unflagged quiet =>
      refine .inr ⟨?_, quiet⟩
      rw [unflagged]
      nofun

/-- **Dropped records are announced, and nothing else is.** The logs tell exactly once how many
records are shown and of how many, with the number that the result counts, exactly when the flag
says that records were dropped and the value is no envelope that says so without a total. Such an
envelope gets the flag and no line, and without the flag there is no line either. A flag of either
kind comes with the number of the records that are shown. -/
theorem normalize_announces_truncation (testMode : Bool) (raw : Json) :
    let result := normalize testMode raw
    ((∃ shown total, result.Announces shown total) ↔
      result.truncated = some true ∧ ¬ CutWithoutTotal testMode raw) ∧
    (CutWithoutTotal testMode raw → result.truncated = some true ∧ result.IsQuiet) ∧
    (result.truncated ≠ some true → result.IsQuiet) ∧
    (∀ items, result.truncated ≠ none → result.data = .arr items →
      result.recordCount = some (items.length : Int)) := by
  intro result
  have hasRecords : HasRecords testMode raw result := hasRecords_normalize testMode raw
  refine ⟨?_, ?_, ?_, fun items => hasRecords.recordCount⟩
  · rcases hasRecords.announces_or_isQuiet with ⟨isCut, hasTotal, announced⟩ | ⟨silent, quiet⟩
    · exact iff_of_true announced ⟨isCut, hasTotal⟩
    · refine iff_of_false ?_ ?_
      · rintro ⟨shown, total, announces⟩
        exact quiet.not_announces announces
      · rintro ⟨isCut, hasTotal⟩
        exact hasTotal (silent isCut)
  · intro noTotal
    refine ⟨truncated_of_cutWithoutTotal noTotal, ?_⟩
    rcases hasRecords.announces_or_isQuiet with ⟨_, hasTotal, _⟩ | ⟨_, quiet⟩
    · exact absurd noTotal hasTotal
    · exact quiet
  · intro notCut
    rcases hasRecords.announces_or_isQuiet with ⟨isCut, _, _⟩ | ⟨_, quiet⟩
    · exact absurd isCut notCut
    · exact quiet

/-- An envelope of one record that says that it was cut, from no records at all: nothing is
announced. -/
theorem cut_of_none_is_silent :
    let result := normalize true (.obj [("__testMode", .bool true), ("__truncated", .bool true),
      ("__originalCount", .int 0), ("data", .arr [.int 1])])
    result.truncated = some true ∧ result.recordCount = some 1 ∧
      ¬ ∃ shown total, result.Announces shown total := by
  intro result
  refine ⟨rfl, rfl, ?_⟩
  rintro ⟨shown, total, announces⟩
  exact (Normalized.isQuiet_of_logs_eq_nil rfl).not_announces announces

end ScriptGate
