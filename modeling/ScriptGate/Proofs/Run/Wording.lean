import ScriptGate.Proofs.Run.Gate

/-! # The wording of refusals

Messages are told apart by their first characters. No finding of a rule, no matched pattern and no
other refusal is worded like the refusal of a blank script or of a script that is too long. -/

namespace ScriptGate

/-- The characters by which messages are told apart. -/
def wording (message : String) : List Char := message.toList.take 8

theorem wording_append {start : String} (long : 8 ≤ start.toList.length) (rest : String) :
    wording (start ++ rest) = wording start := by
  rw [wording, wording, String.toList_append, List.take_append_of_le_length long]

theorem wording_blank : wording "Script cannot be empty" = "Script c".toList := by
  decide

theorem wording_length (limit : Int) : wording (lengthMessage limit) = "Script e".toList := by
  unfold lengthMessage
  simp only [String.append_assoc]
  refine (wording_append ?_ _).trans ?_
  · decide
  · decide

/-- How the messages of findings begin. -/
def findingWordings : List (List Char) :=
  ["Undefine", "Cannot c", "Invalid ", "Method '", "Unknown ", "GlideRec", "Calling "].map
    String.toList

theorem Lint.Cause.wording_message (cause : Lint.Cause) :
    wording cause.message ∈ findingWordings := by
  -- Most messages begin with a fixed text that is no shorter than the wording.
  have fixed {start rest : String} (long : 8 ≤ start.toList.length)
      (isKnown : wording start ∈ findingWordings) : wording (start ++ rest) ∈ findingWordings := by
    rw [wording_append long]
    exact isKnown
  unfold message
  cases cause with
  | legacyRecord => decide
  | unguardedGet => decide
  | _ =>
      simp only [String.append_assoc]
      exact fixed (by decide) (by decide)

/-- Only a blank script is worded so. -/
theorem ScriptIssue.message_eq_blank_iff {issue : ScriptIssue} :
    issue.message = "Script cannot be empty" ↔ issue = .blank := by
  constructor
  · intro same
    have worded : wording issue.message = "Script c".toList := by
      rw [same, wording_blank]
    cases issue with
    | blank => rfl
    | tooLong limit =>
        rw [message, wording_length] at worded
        exact absurd worded (by decide)
    | found finding =>
        have known := finding.cause.wording_message
        rw [← Lint.Finding.message, ← message, worded] at known
        exact absurd known (by decide)
  · rintro rfl
    rfl

/-- Only a script that is too long is worded so. -/
theorem ScriptIssue.exists_tooLong_of_message {issue : ScriptIssue} {limit : Int}
    (same : issue.message = lengthMessage limit) : ∃ other, issue = .tooLong other := by
  have worded : wording issue.message = "Script e".toList := by
    rw [same, wording_length]
  cases issue with
  | blank => exact absurd worded (by decide)
  | tooLong other => exact ⟨other, rfl⟩
  | found finding =>
      have known := finding.cause.wording_message
      rw [← Lint.Finding.message, ← message, worded] at known
      exact absurd known (by decide)

/-- Only a script that is too long violates a catalog in these words. -/
theorem Violation.exists_tooLong_of_message {violation : Violation} {limit length : Nat}
    (same : violation.message = (Violation.tooLong limit length).message) :
    ∃ other actual, violation = .tooLong other actual := by
  cases violation with
  | tooLong other actual => exact ⟨other, actual, rfl⟩
  | blacklisted source =>
      have worded := congrArg wording same
      unfold message at worded
      simp only [String.append_assoc] at worded
      rw [wording_append (by decide), wording_append (by decide)] at worded
      exact absurd worded (by decide)

namespace Executor

variable {executor : Executor} {options : RunOptions} {script : List Char} {message : String}

/-- The gate that a script fails, by the wording of its refusal. -/
theorem Refuses.cases_wording (refuses : executor.Refuses options script message) :
    (message = "Script cannot be empty" ∧ ∀ char ∈ script, Text.isBlank char = true) ∨
    (message = lengthMessage executor.catalog.maxLength ∧
      (∃ char ∈ script, Text.isBlank char = false) ∧
      executor.catalog.maxLength < script.length) ∨
    (wording message ∈ ["Security", "Test mod"].map String.toList ∧
      (∃ char ∈ script, Text.isBlank char = false) ∧
      script.length ≤ executor.catalog.maxLength) := by
  cases refuses with
  | blank blank => exact .inl ⟨rfl, blank⟩
  | tooLong notBlank long => exact .inr (.inl ⟨rfl, notBlank, long⟩)
  | insecure notBlank withinLength _ =>
      refine .inr (.inr ⟨?_, notBlank, withinLength⟩)
      rw [wording_append (by decide)]
      decide
  | unsupported screened _ _ =>
      refine .inr (.inr ⟨?_, screened.notBlank, screened.withinLength⟩)
      rw [wording_append (by decide)]
      decide

theorem not_allBlank (notBlank : ∃ char ∈ script, Text.isBlank char = false) :
    ¬ ∀ char ∈ script, Text.isBlank char = true := by
  intro blank
  obtain ⟨char, member, isText⟩ := notBlank
  exact Bool.false_ne_true (isText.symm.trans (blank char member))

theorem Refuses.eq_blank_iff (refuses : executor.Refuses options script message) :
    message = "Script cannot be empty" ↔ ∀ char ∈ script, Text.isBlank char = true := by
  rcases refuses.cases_wording with ⟨rfl, blank⟩ | ⟨rfl, notBlank, _⟩ | ⟨known, notBlank, _⟩
  · exact iff_of_true rfl blank
  · refine iff_of_false ?_ (not_allBlank notBlank)
    intro same
    have worded := wording_length executor.catalog.maxLength
    rw [same] at worded
    exact absurd worded (by decide)
  · refine iff_of_false ?_ (not_allBlank notBlank)
    rintro rfl
    exact absurd known (by decide)

theorem Refuses.eq_length_iff (refuses : executor.Refuses options script message)
    (notBlank : ∃ char ∈ script, Text.isBlank char = false) :
    message = lengthMessage executor.catalog.maxLength ↔
      executor.catalog.maxLength < script.length := by
  rcases refuses.cases_wording with ⟨_, blank⟩ | ⟨rfl, _, long⟩ | ⟨known, _, withinLength⟩
  · exact absurd blank (not_allBlank notBlank)
  · exact iff_of_true rfl long
  · refine iff_of_false ?_ (Nat.not_lt.mpr withinLength)
    rintro rfl
    rw [wording_length] at known
    exact absurd known (by decide)

end Executor

end ScriptGate
