import ScriptGate.Proofs.Lint.Surrounding
import ScriptGate.Proofs.Lint.Warning

/-! # Where findings stand

What a rule looks for begins with the construct that its message names: a full stop and a method, or
a quote, a field and its flag. No construct has a line feed. A finding is reported at the line on
which its construct begins, so the whole construct stands on that line (`validate_names_lines`). -/

namespace ScriptGate.Lint

open Scan

/-- What is found begins with a text that shows it and has no line feed. -/
def BeginsWith {α : Type} (scan : List Char → Option (α × List Char))
    (shows : α → List Char → Prop) : Prop :=
  ∀ {text value rest}, scan text = some (value, rest) →
    ∃ part after, shows value part ∧ '\n' ∉ part ∧ text = part ++ after

/-- A method as it is named after a full stop. -/
def methodText (name : String) : List Char := '.' :: name.toList

/-- The message about an error and the line of the error, when the construct that the message names
stands on this line. -/
inductive ErrorNames (script : List Char) : Nat → String → Prop where
  | undefinedMethod {line : Nat} {name suggestion : String}
      (isListed : (name, suggestion) ∈ undefinedMethods)
      (stands : Text.StandsOnLine script line (methodText name)) :
      ErrorNames script line s!"Undefined method '.{name}()' - {suggestion}"
  | chainedTerminal {line : Nat} {first second : String} (isFirst : first ∈ terminalOperations)
      (isSecond : second ∈ terminalOperations)
      (stands : Text.StandsOnLine script line (methodText second)) :
      ErrorNames script line
        s!"Cannot chain terminal operations: .{first}() followed by .{second}()"
  | invalidOperator {line : Nat} {operator method : String}
      (unquoted : Text.Unquoted operator.toList) (isMethod : method ∈ ["where", "orWhere"])
      (stands : Text.StandsOnLine script line (methodText method)) :
      ErrorNames script line (s!"Invalid operator '{operator}' - must be one of: " ++
        ", ".intercalate validOperators)
  | invalidHavingOperator {line : Nat} {operator : String}
      (unquoted : Text.Unquoted operator.toList)
      (stands : Text.StandsOnLine script line (methodText "having")) :
      ErrorNames script line (s!"Invalid operator '{operator}' in having clause - must be one of: "
        ++ ", ".intercalate validOperators)

/-- The message of a warning, when the construct that it names stands on the line that it names. Two
messages are about the whole script and name no line. -/
inductive WarningNames (script : List Char) : String → Prop where
  | missingParentheses {line : Nat} {method : String} (isMethod : method ∈ validMethods)
      (stands : Text.StandsOnLine script line (methodText method)) :
      WarningNames script s!"Method '.{method}' may be missing parentheses at line {line}"
  | unknownFlag {line : Nat} {opening : Char} {field : FlaggedField}
      (opens : Text.isQuote opening = true)
      (stands : Text.StandsOnLine script line (opening :: field.text)) :
      WarningNames script (s!"Unknown field flag '{field.value}' at line {line} - valid flags: " ++
        ", ".intercalate validFieldFlags)
  | legacyRecord :
      WarningNames script
        "GlideRecord detected - consider using GlideQuery for better performance and type safety"
  | unguardedGet :
      WarningNames script
        ("Calling .get() on Optional without checking .isPresent() or using .orElse() may throw " ++
          "an error if empty")

variable {script text rest : List Char} {finding : Finding}

/-! ### What the scans begin with -/

theorem no_feed_in_method {name : String} (isName : IsWordName name) : '\n' ∉ methodText name := by
  rw [methodText, List.mem_cons, not_or]
  refine ⟨by decide, fun member => ?_⟩
  exact absurd (isName.isWord '\n' member) (by decide)

theorem FlaggedField.no_feed (field : FlaggedField) : '\n' ∉ field.text := by
  rw [text, List.mem_cons, List.mem_append, List.mem_cons, not_or, not_or, not_or]
  refine ⟨fun isFirst => ?_, fun inName => ?_, by decide, fun inFlag => ?_⟩
  · exact absurd (isFirst ▸ field.first_starts) (by decide)
  · exact absurd (field.others_word _ inName) (by decide)
  · exact absurd (field.flag_capital _ inFlag) (by decide)

theorem beginsWith_scanCallAmong {names : List String} (words : ∀ name ∈ names, IsWordName name) :
    BeginsWith (scanCallAmong names) fun name part => name ∈ names ∧ part = methodText name := by
  intro text name rest found
  obtain ⟨isIn, gap, _, split⟩ := (scanCallAmong_eq_some_iff words).mp found
  exact ⟨methodText name, gap ++ '(' :: rest, ⟨isIn, rfl⟩, no_feed_in_method (words name isIn),
    split⟩

theorem unquoted_of_scanQuoted {content : List Char}
    (found : scanQuoted text = some (content, rest)) : Text.Unquoted content := by
  rw [scanQuoted] at found
  split at found
  case h_1 => cases found
  case h_2 opening after _ =>
  split at found
  case isFalse => cases found
  case isTrue =>
  split at found
  case h_1 => cases found
  case h_2 => cases found
  case h_3 closing following _ _ =>
  cases found
  intro char member
  rw [← Bool.not_eq_true']
  exact List.all_eq_true.mp List.all_takeWhile char member

theorem beginsWith_scanWhere :
    BeginsWith scanWhere fun operator part =>
      Text.Unquoted operator.toList ∧
        ∃ method ∈ ["where", "orWhere"], part = methodText method := by
  intro text operator rest found
  simp only [scanWhere, Option.bind_eq_bind, Option.bind_eq_some_iff, Option.pure_def,
    Option.some.injEq, Prod.mk.injEq, Prod.exists] at found
  obtain ⟨method, arguments, called, _, _, _, _, _, content, _, quoted, _, _, rfl, _⟩ := found
  obtain ⟨part, after, ⟨isMethod, isPart⟩, whole, split⟩ :=
    beginsWith_scanCallAmong isWordName_of_mem_conditions called
  refine ⟨part, after, ⟨?_, method, isMethod, isPart⟩, whole, split⟩
  rw [String.toList_ofList]
  exact unquoted_of_scanQuoted quoted

theorem beginsWith_scanHaving :
    BeginsWith scanHaving fun operator part =>
      Text.Unquoted operator.toList ∧ part = methodText "having" := by
  intro text operator rest found
  simp only [scanHaving, Option.bind_eq_bind, Option.bind_eq_some_iff, Option.pure_def,
    Option.some.injEq, Prod.mk.injEq, Prod.exists] at found
  obtain ⟨arguments, called, _, _, _, _, _, _, _, _, _, _, content, _, quoted, _, _, rfl, _⟩ :=
    found
  obtain ⟨gap, _, split⟩ := afterExactCall?_eq_some_iff.mp called
  refine ⟨methodText "having", gap ++ '(' :: arguments, ⟨?_, rfl⟩, by decide, split⟩
  rw [String.toList_ofList]
  exact unquoted_of_scanQuoted quoted

theorem beginsWith_scanUncalled {method : String} (isMethod : method ∈ validMethods) :
    BeginsWith (scanUncalled method) fun _ part => part = methodText method := by
  intro text found rest scanned
  obtain ⟨_, split, _⟩ := scanUncalled_eq_some_iff.mp scanned
  exact ⟨methodText method, rest, rfl,
    no_feed_in_method (isWordName_of_mem_validMethods isMethod), split⟩

theorem beginsWith_scanFlag :
    BeginsWith scanFlag fun flag part => ∃ opening, ∃ field : FlaggedField,
      Text.isQuote opening = true ∧ flag = field.value ∧ part = opening :: field.text := by
  intro text flag rest found
  obtain ⟨opening, closing, field, opens, _, isFlag, split⟩ := scanFlag_eq_some_iff.mp found
  refine ⟨opening :: field.text, closing :: rest, ⟨opening, field, opens, isFlag, rfl⟩, ?_, split⟩
  rw [List.mem_cons, not_or]
  refine ⟨?_, field.no_feed⟩
  rintro rfl
  cases opens

/-! ### What the rules report -/

/-- What was found stands on the line at which it is reported. -/
theorem standsOnLine_of_mem_occurrences {α : Type} {scan : List Char → Option (α × List Char)}
    {shows : α → List Char → Prop} (begins : BeginsWith scan shows) {found : Occurrence α}
    (member : found ∈ occurrences scan script) :
    ∃ part, shows found.value part ∧
      Text.StandsOnLine script (Text.lineAt script found.start) part := by
  obtain ⟨before, place, rest, rfl, scanned, start, _⟩ :=
    exists_place_of_mem_occurrencesFrom member
  obtain ⟨part, after, isShown, whole, rfl⟩ := begins scanned
  refine ⟨part, isShown, ?_⟩
  rw [start, Nat.zero_add]
  exact Text.standsOnLine before after whole

theorem errorNames_of_mem_undefinedMethodFindings
    (member : finding ∈ undefinedMethodFindings script) :
    ∃ line, finding.line = some line ∧ ErrorNames script line finding.message := by
  obtain ⟨⟨name, suggestion⟩, isListed, member⟩ := List.mem_flatMap.mp member
  obtain ⟨found, isFound, rfl⟩ := List.mem_map.mp member
  have isName : IsWordName name :=
    isWordName_of_mem_undefinedMethods name (List.mem_map_of_mem isListed)
  rw [scanCall_eq_scanCallAmong] at isFound
  obtain ⟨part, ⟨isOne, rfl⟩, stands⟩ := standsOnLine_of_mem_occurrences
    (beginsWith_scanCallAmong (List.forall_mem_singleton.mpr isName)) isFound
  rw [List.mem_singleton.mp isOne] at stands
  exact ⟨_, rfl, .undefinedMethod isListed stands⟩

theorem standsOnLine_of_mem_terminalCalls {found : Occurrence String}
    (member : found ∈ terminalCalls script) :
    found.value ∈ terminalOperations ∧
      Text.StandsOnLine script (Text.lineAt script found.start) (methodText found.value) := by
  obtain ⟨part, ⟨isTerminal, rfl⟩, stands⟩ := standsOnLine_of_mem_occurrences
    (beginsWith_scanCallAmong isWordName_of_mem_terminalOperations) member
  exact ⟨isTerminal, stands⟩

theorem errorNames_of_mem_chainFindings (member : finding ∈ chainFindings script) :
    ∃ line, finding.line = some line ∧ ErrorNames script line finding.message := by
  rw [chainFindings_eq_map] at member
  obtain ⟨⟨first, second⟩, isPair, rfl⟩ := List.mem_map.mp member
  obtain ⟨earlier, later, calls⟩ :=
    exists_eq_append_of_mem_neighbours (List.mem_filter.mp isPair).1
  have isFirst : first ∈ terminalCalls script := by
    rw [calls]
    exact List.mem_append_right earlier List.mem_cons_self
  have isSecond : second ∈ terminalCalls script := by
    rw [calls]
    exact List.mem_append_right earlier (List.mem_cons_of_mem first List.mem_cons_self)
  obtain ⟨firstTerminal, _⟩ := standsOnLine_of_mem_terminalCalls isFirst
  obtain ⟨secondTerminal, stands⟩ := standsOnLine_of_mem_terminalCalls isSecond
  exact ⟨_, rfl, .chainedTerminal firstTerminal secondTerminal stands⟩

/-- The construct with an unknown operator stands on the line of the finding about it. -/
theorem exists_stands_of_mem_operatorFindings {scan : List Char → Option (String × List Char)}
    {shows : String → List Char → Prop} {cause : String → Cause} (begins : BeginsWith scan shows)
    (member : finding ∈ operatorFindings scan cause script) :
    ∃ operator line part, finding = ⟨cause operator, some line⟩ ∧ shows operator part ∧
      Text.StandsOnLine script line part := by
  obtain ⟨found, isFound, rfl⟩ := List.mem_map.mp member
  obtain ⟨part, isShown, stands⟩ :=
    standsOnLine_of_mem_occurrences begins (List.mem_filter.mp isFound).1
  exact ⟨found.value, _, part, rfl, isShown, stands⟩

theorem errorNames_of_mem_whereFindings (member : finding ∈ whereFindings script) :
    ∃ line, finding.line = some line ∧ ErrorNames script line finding.message := by
  obtain ⟨operator, line, _, rfl, ⟨unquoted, method, isMethod, rfl⟩, stands⟩ :=
    exists_stands_of_mem_operatorFindings beginsWith_scanWhere member
  exact ⟨line, rfl, .invalidOperator unquoted isMethod stands⟩

theorem errorNames_of_mem_havingFindings (member : finding ∈ havingFindings script) :
    ∃ line, finding.line = some line ∧ ErrorNames script line finding.message := by
  obtain ⟨operator, line, _, rfl, ⟨unquoted, rfl⟩, stands⟩ :=
    exists_stands_of_mem_operatorFindings beginsWith_scanHaving member
  exact ⟨line, rfl, .invalidHavingOperator unquoted stands⟩

theorem warningNames_of_mem_parenthesesFindings (member : finding ∈ parenthesesFindings script) :
    WarningNames script finding.message := by
  obtain ⟨method, isMethod, member⟩ := List.mem_flatMap.mp member
  obtain ⟨found, isFound, rfl⟩ := List.mem_map.mp member
  obtain ⟨part, rfl, stands⟩ :=
    standsOnLine_of_mem_occurrences (beginsWith_scanUncalled isMethod) isFound
  exact .missingParentheses isMethod stands

theorem warningNames_of_mem_flagFindings (member : finding ∈ flagFindings script) :
    WarningNames script finding.message := by
  obtain ⟨⟨flag, start, stop⟩, isFound, rfl⟩ := List.mem_map.mp member
  obtain ⟨part, ⟨opening, field, opens, isFlag, rfl⟩, stands⟩ :=
    standsOnLine_of_mem_occurrences beginsWith_scanFlag (List.mem_filter.mp isFound).1
  obtain rfl : flag = field.value := isFlag
  exact .unknownFlag opens stands

theorem errorNames_of_mem_check {rule : Rule} (isRule : rule ∈ rules)
    (isError : rule.severity = .error) (member : finding ∈ rule.check script) :
    ∃ line, finding.line = some line ∧ ErrorNames script line finding.message := by
  simp only [rules, List.mem_cons, List.not_mem_nil, or_false] at isRule
  rcases isRule with rfl | rfl | rfl | rfl | rfl | rfl | rfl | rfl
  · exact errorNames_of_mem_undefinedMethodFindings member
  · exact errorNames_of_mem_chainFindings member
  · exact errorNames_of_mem_whereFindings member
  · exact errorNames_of_mem_havingFindings member
  all_goals cases isError

theorem warningNames_of_mem_check {rule : Rule} (isRule : rule ∈ rules)
    (isWarning : rule.severity = .warning) (member : finding ∈ rule.check script) :
    WarningNames script finding.message := by
  rcases check_of_warning isRule isWarning with isCheck | isCheck | isCheck | isCheck <;>
    rw [isCheck] at member
  · exact warningNames_of_mem_parenthesesFindings member
  · exact warningNames_of_mem_flagFindings member
  · unfold legacyFindings at member
    split at member
    · rw [List.mem_singleton.mp member]
      exact .legacyRecord
    · exact absurd member List.not_mem_nil
  · unfold unguardedFindings at member
    split at member
    · rw [List.mem_singleton.mp member]
      exact .unguardedGet
    · exact absurd member List.not_mem_nil

theorem ErrorNames.bounds {line : Nat} {message : String} (names : ErrorNames script line message) :
    1 ≤ line ∧ line ≤ 1 + Text.lineFeeds script := by
  cases names with
  | undefinedMethod _ stands => exact ⟨stands.first, stands.last⟩
  | chainedTerminal _ _ stands => exact ⟨stands.first, stands.last⟩
  | invalidOperator _ _ stands => exact ⟨stands.first, stands.last⟩
  | invalidHavingOperator _ stands => exact ⟨stands.first, stands.last⟩

end ScriptGate.Lint

namespace ScriptGate.Validator

open Lint (ErrorNames WarningNames)

/-- **What a report names stands where the report says.** The line of every error is a line of the
script, and the construct that the message names stands on it. Only the errors about a script that
is blank or too long name no construct; they have the first line. The lines that warnings name are
lines of the script as well, on which the constructs of the warnings stand. -/
theorem validate_names_lines (limit : Int) (script : List Char) :
    let report := (Validator.mk limit Lint.rules).validate (some script)
    (∀ issue ∈ report.errors,
      (1 ≤ issue.line ∧ issue.line ≤ 1 + Text.lineFeeds script) ∧
      (ErrorNames script issue.line issue.message ∨
        issue.line = 1 ∧ (issue.message = "Script cannot be empty" ∨
          issue.message = s!"Script exceeds maximum length of {limit} characters"))) ∧
    ∀ message ∈ report.warnings, WarningNames script message := by
  intro report
  have firstLine : 1 ≤ 1 ∧ 1 ≤ 1 + Text.lineFeeds script := ⟨Nat.le_refl 1, Nat.le_add_right 1 _⟩
  cases blank : Text.isBlankText script with
  | true =>
      have reported : report = ⟨[.blank], []⟩ := validate_of_blank blank
      rw [reported]
      refine ⟨fun issue member => ?_, nofun⟩
      rw [List.mem_singleton.mp member]
      exact ⟨firstLine, .inr ⟨rfl, .inl rfl⟩⟩
  | false =>
      have reported : report = _ := validate_of_visible blank
      rw [reported]
      constructor
      · intro issue member
        rcases List.mem_append.mp member with isLength | isIssue
        · obtain ⟨rfl, _⟩ := mem_lengthIssue_iff.mp isLength
          exact ⟨firstLine, .inr ⟨rfl, .inr rfl⟩⟩
        · obtain ⟨finding, isFound, rfl⟩ := List.mem_map.mp isIssue
          obtain ⟨rule, isRule, isError, isFound⟩ := mem_findings_iff.mp isFound
          obtain ⟨line, isLine, names⟩ := Lint.errorNames_of_mem_check isRule isError isFound
          have sameLine : (ScriptIssue.found finding).line = line := by
            rw [ScriptIssue.line, isLine, Option.getD_some]
          rw [sameLine]
          exact ⟨names.bounds, .inl names⟩
      · intro message member
        obtain ⟨finding, isFound, rfl⟩ := List.mem_map.mp member
        obtain ⟨rule, isRule, isWarning, isFound⟩ := mem_findings_iff.mp isFound
        exact Lint.warningNames_of_mem_check isRule isWarning isFound

end ScriptGate.Validator
