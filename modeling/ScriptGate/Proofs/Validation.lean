import Mathlib.Data.List.Basic
import ScriptGate.Proofs.Text.Classes
import ScriptGate.Validation

/-! # Reports of rule tables

A report lists the findings of the rules in the order of the table, each among the errors or among
the warnings, by the severity of its rule (`validate_eq_ofSeverity`). It can be made in one pass, in
which every finding extends one of the two lists (`Report.foldl_add`). So a table that is put
together from two reports what the first one reports and then what the second one finds, and the
severity of a rule decides only in which of the lists its own findings stand (`validate_tables`). -/

namespace ScriptGate

namespace Lint

/-- What the rules of a table find in a script, in the order of the table. Each finding comes with
the severity of its rule. -/
def gradedFindings (table : List Rule) (script : List Char) : List (Severity × Finding) :=
  table.flatMap fun rule => (rule.check script).map (rule.severity, ·)

/-- The findings of one severity. -/
def ofSeverity (severity : Severity) (graded : List (Severity × Finding)) : List Finding :=
  (graded.filter (·.1 = severity)).map Prod.snd

variable {severity : Severity} {script : List Char}

theorem gradedFindings_append (first second : List Rule) (script : List Char) :
    gradedFindings (first ++ second) script =
      gradedFindings first script ++ gradedFindings second script :=
  List.flatMap_append

theorem gradedFindings_cons (rule : Rule) (table : List Rule) (script : List Char) :
    gradedFindings (rule :: table) script =
      (rule.check script).map (rule.severity, ·) ++ gradedFindings table script :=
  List.flatMap_cons

theorem ofSeverity_append (severity : Severity) (first second : List (Severity × Finding)) :
    ofSeverity severity (first ++ second) =
      ofSeverity severity first ++ ofSeverity severity second := by
  rw [ofSeverity, List.filter_append, List.map_append]
  rfl

/-- The findings of one rule have one severity. -/
theorem ofSeverity_map (severity given : Severity) (findings : List Finding) :
    ofSeverity severity (findings.map (given, ·)) =
      if given = severity then findings else [] := by
  rw [ofSeverity, List.filter_map, List.map_map]
  by_cases same : given = severity
  · rw [if_pos same]
    have kept : findings.filter ((fun hit => decide (hit.1 = severity)) ∘ (given, ·)) = findings :=
      List.filter_eq_self.mpr fun _ _ => decide_eq_true same
    rw [kept]
    exact List.map_id findings
  · rw [if_neg same]
    have dropped : findings.filter ((fun hit => decide (hit.1 = severity)) ∘ (given, ·)) = [] :=
      List.filter_eq_nil_iff.mpr fun _ _ => Bool.eq_false_iff.mp (decide_eq_false same)
    rw [dropped, List.map_nil]

/-- Every finding is an error or a warning, and none is both. -/
theorem ofSeverity_append_perm (graded : List (Severity × Finding)) :
    (ofSeverity .error graded ++ ofSeverity .warning graded).Perm (graded.map Prod.snd) := by
  have others :
      graded.filter (·.1 = .warning) = graded.filter fun hit => !decide (hit.1 = .error) := by
    refine List.filter_congr fun hit _ => ?_
    cases hit.1 <;> rfl
  rw [ofSeverity, ofSeverity, others, ← List.map_append]
  exact (List.filter_append_perm _ graded).map Prod.snd

theorem map_snd_gradedFindings (table : List Rule) (script : List Char) :
    (gradedFindings table script).map Prod.snd = table.flatMap (·.check script) := by
  rw [gradedFindings, List.map_flatMap]
  refine List.flatMap_congr fun rule _ => ?_
  rw [List.map_map]
  exact List.map_id _

end Lint

open Lint

/-- The report with one more finding, among the errors or among the warnings. -/
def Report.add (report : Report) : Severity × Finding → Report
  | (.error, finding) => { report with errors := report.errors ++ [.found finding] }
  | (.warning, finding) => { report with warnings := report.warnings ++ [finding.message] }

/-- What a report becomes when findings are added to it. The induction is on the findings, which
extend one of the two lists each. -/
theorem Report.foldl_add (report : Report) (graded : List (Severity × Finding)) :
    graded.foldl Report.add report =
      ⟨report.errors ++ (ofSeverity .error graded).map .found,
        report.warnings ++ (ofSeverity .warning graded).map (·.message)⟩ := by
  induction graded generalizing report with
  | nil =>
      change report = ⟨report.errors ++ [], report.warnings ++ []⟩
      rw [List.append_nil, List.append_nil]
  | cons hit graded ih =>
      obtain ⟨severity, finding⟩ := hit
      rw [List.foldl_cons, ih]
      cases severity with
      | error =>
          change Report.mk ((report.errors ++ [.found finding]) ++ _) (report.warnings ++ _) = _
          rw [List.append_assoc]
          rfl
      | warning =>
          change Report.mk (report.errors ++ _) ((report.warnings ++ [finding.message]) ++ _) = _
          rw [List.append_assoc]
          rfl

theorem Report.valid_iff {report : Report} : report.valid = true ↔ report.errors = [] :=
  List.isEmpty_iff

namespace Validator

variable {limit : Int} {table : List Rule} {script : List Char}

theorem mem_lengthIssue_iff {validator : Validator} {issue : ScriptIssue} :
    issue ∈ validator.lengthIssue script ↔
      issue = .tooLong validator.maxLength ∧ validator.maxLength < script.length := by
  unfold lengthIssue
  by_cases long : validator.maxLength < script.length
  · rw [if_pos long, List.mem_singleton, and_iff_left long]
  · rw [if_neg long]
    exact iff_of_false List.not_mem_nil fun isIssue => long isIssue.2

theorem mem_findings_iff {validator : Validator} {severity : Severity} {finding : Finding} :
    finding ∈ validator.findings severity script ↔
      ∃ rule ∈ validator.rules, rule.severity = severity ∧ finding ∈ rule.check script := by
  simp only [findings, List.mem_flatMap, List.mem_filter, decide_eq_true_eq, and_assoc]

/-- The report on a script that is not blank. -/
theorem validate_of_visible {validator : Validator} (visible : Text.isBlankText script = false) :
    validator.validate (some script) =
      ⟨validator.lengthIssue script ++ (validator.findings .error script).map .found,
        (validator.findings .warning script).map (·.message)⟩ := by
  simp only [validate, Option.getD_some, visible, Bool.false_eq_true, ↓reduceIte]

/-- The report on a blank script. -/
theorem validate_of_blank {validator : Validator} (blank : Text.isBlankText script = true) :
    validator.validate (some script) = ⟨[.blank], []⟩ := by
  simp only [validate, Option.getD_some, blank, ↓reduceIte]

theorem findings_eq_ofSeverity (limit : Int) (table : List Rule) (severity : Severity)
    (script : List Char) :
    (Validator.mk limit table).findings severity script =
      ofSeverity severity (gradedFindings table script) := by
  induction table with
  | nil => rfl
  | cons rule table ih =>
      rw [gradedFindings_cons, ofSeverity_append, ofSeverity_map, ← ih]
      simp only [findings, List.filter_cons, decide_eq_true_eq]
      split
      · rw [List.flatMap_cons]
      · rw [List.nil_append]

/-- The errors and the warnings that a table reports. -/
theorem validate_eq_ofSeverity (visible : Text.isBlankText script = false) :
    (Validator.mk limit table).validate (some script) =
      ⟨(Validator.mk limit table).lengthIssue script ++
          (ofSeverity .error (gradedFindings table script)).map .found,
        (ofSeverity .warning (gradedFindings table script)).map (·.message)⟩ := by
  rw [validate_of_visible visible, findings_eq_ofSeverity, findings_eq_ofSeverity]

/-- The findings of a table with a rule of a given severity: those of the rule stand between those
of the rules before and after it when they have the severity, and nowhere otherwise. -/
theorem ofSeverity_around (severity given : Severity) (rule : Rule) (before after : List Rule)
    (script : List Char) :
    ofSeverity severity
        (gradedFindings (before ++ { rule with severity := given } :: after) script) =
      ofSeverity severity (gradedFindings before script) ++
        ((if given = severity then rule.check script else []) ++
          ofSeverity severity (gradedFindings after script)) := by
  rw [gradedFindings_append, gradedFindings_cons, ofSeverity_append, ofSeverity_append,
    ofSeverity_map]

/-- **Rule tables compose.** The report of two tables in a row lists the error about the length, if
it is due, then the errors of the first table and those of the second, and likewise the warnings:
it is the report of the first table with the findings of the second one added. Every finding of
every rule is listed once, as an error or as a warning. The report is valid when it has no error. In
a table with a rule between others, the findings of the rule stand together in the list of its
severity, and the findings of the other rules stand before and after them, the same ones in the same
order for both severities. -/
theorem validate_tables (limit : Int) (first second : List Rule)
    (visible : ∃ char ∈ script, Text.isBlank char = false) :
    let report (table : List Rule) := (Validator.mk limit table).validate (some script)
    let tooLong : List ScriptIssue := if limit < script.length then [.tooLong limit] else []
    let errors (table : List Rule) := ofSeverity .error (gradedFindings table script)
    let warnings (table : List Rule) := ofSeverity .warning (gradedFindings table script)
    (report (first ++ second)).errors = tooLong ++ (errors first ++ errors second).map .found ∧
    (report (first ++ second)).warnings =
      (warnings first ++ warnings second).map Finding.message ∧
    report (first ++ second) = (gradedFindings second script).foldl Report.add (report first) ∧
    (errors (first ++ second) ++ warnings (first ++ second)).Perm
      ((first ++ second).flatMap (·.check script)) ∧
    ((report (first ++ second)).valid = true ↔ (report (first ++ second)).errors = []) ∧
    ∀ (before after : List Rule) (rule : Rule),
      let strict := report (before ++ { rule with severity := .error } :: after)
      let lenient := report (before ++ { rule with severity := .warning } :: after)
      strict.errors =
        tooLong ++ (errors before ++ (rule.check script ++ errors after)).map .found ∧
      strict.warnings = (warnings before ++ warnings after).map Finding.message ∧
      lenient.errors = tooLong ++ (errors before ++ errors after).map .found ∧
      lenient.warnings =
        (warnings before ++ (rule.check script ++ warnings after)).map Finding.message := by
  intro report tooLong errors warnings
  have reported (table : List Rule) :
      report table = ⟨tooLong ++ (errors table).map .found, (warnings table).map Finding.message⟩ :=
    validate_eq_ofSeverity (Text.isBlankText_eq_false_iff.mpr visible)
  have errorsOfBoth : errors (first ++ second) = errors first ++ errors second := by
    simp only [errors, gradedFindings_append, ofSeverity_append]
  have warningsOfBoth : warnings (first ++ second) = warnings first ++ warnings second := by
    simp only [warnings, gradedFindings_append, ofSeverity_append]
  refine ⟨?_, ?_, ?_, ?_, Report.valid_iff, fun before after rule => ?_⟩
  · rw [reported, errorsOfBoth]
  · rw [reported, warningsOfBoth]
  · rw [reported, reported, Report.foldl_add, errorsOfBoth, warningsOfBoth, List.map_append,
      List.map_append, List.append_assoc]
  · rw [← map_snd_gradedFindings]
    exact ofSeverity_append_perm _
  · simp only [reported, errors, warnings, ofSeverity_around, ↓reduceIte, reduceCtorEq,
      List.nil_append, and_self]

/-- A rule that is listed three times, once as a warning, and a script that is too long: two errors
and a warning with the same words. -/
theorem validate_tables_repeated :
    let rule : Rule := ⟨"undefined-method", .error, undefinedMethodFindings, ""⟩
    let found : Finding := ⟨.undefinedMethod "find" "Use .select() instead", some 2⟩
    let report := (Validator.mk 5 ([rule] ++ [{ rule with severity := .warning }, rule])).validate
      (some "q\n.find(1)".toList)
    (∃ char ∈ "q\n.find(1)".toList, Text.isBlank char = false) ∧
    report.errors = [.tooLong 5, .found found, .found found] ∧
    report.warnings = ["Undefined method '.find()' - Use .select() instead"] := by
  intro rule found report
  have visible : ∃ char ∈ "q\n.find(1)".toList, Text.isBlank char = false :=
    ⟨'q', by decide, by decide⟩
  obtain ⟨errors, warnings, _⟩ :=
    validate_tables 5 [rule] [{ rule with severity := .warning }, rule] visible
  exact ⟨visible, errors.trans (by decide +kernel), warnings.trans (by decide +kernel)⟩

end Validator

end ScriptGate
