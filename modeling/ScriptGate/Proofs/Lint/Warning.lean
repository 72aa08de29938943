import ScriptGate.Proofs.Lint.FieldFlags
import ScriptGate.Proofs.Validation

/-! # The wording of warnings

A warning names methods, flags and lines, none of which has an opening bracket. So its message has
none either. -/

namespace ScriptGate

namespace Lint

/-- A text without an opening bracket. -/
def Plain (text : String) : Prop := '[' ∉ text.toList

instance (text : String) : Decidable (Plain text) := inferInstanceAs (Decidable (_ ∉ _))

theorem Plain.append {first second : String} (isFirst : Plain first) (isSecond : Plain second) :
    Plain (first ++ second) := by
  rw [Plain, String.toList_append, List.mem_append, not_or]
  exact ⟨isFirst, isSecond⟩

theorem plain_toString (number : Nat) : Plain (toString number) := by
  intro member
  rw [Nat.toString_eq_repr, Nat.toList_repr] at member
  exact absurd (Nat.isDigit_of_mem_toDigits (by decide) (by decide) member) (by decide)

theorem plain_of_mem_validMethods : ∀ method ∈ validMethods, Plain method := by
  decide

/-- A flag consists of capital letters and low lines after a dollar sign. -/
theorem plain_of_scanFlag {place rest : List Char} {flag : String}
    (scanned : scanFlag place = some (flag, rest)) : Plain flag := by
  obtain ⟨_, _, field, _, _, rfl, _⟩ := scanFlag_eq_some_iff.mp scanned
  rw [Plain, FlaggedField.value, String.toList_ofList, List.mem_cons, not_or]
  refine ⟨by decide, fun member => ?_⟩
  exact absurd (field.flag_capital _ member) (by decide)

theorem plain_missingParentheses {method : String} (isPlain : Plain method) (line : Nat) :
    Plain (Cause.missingParentheses method line).message :=
  (((show Plain "Method '." by decide).append isPlain).append (by decide)).append
    (plain_toString line)

theorem plain_unknownFlag {flag : String} (isPlain : Plain flag) (line : Nat) :
    Plain (Cause.unknownFlag flag line).message :=
  ((((show Plain "Unknown field flag '" by decide).append isPlain).append (by decide)).append
    (plain_toString line)).append (by decide) |>.append (by decide)

theorem plain_of_mem_parenthesesFindings {script : List Char} {finding : Finding}
    (member : finding ∈ parenthesesFindings script) : Plain finding.message := by
  obtain ⟨method, isMethod, member⟩ := List.mem_flatMap.mp member
  obtain ⟨found, _, rfl⟩ := List.mem_map.mp member
  exact plain_missingParentheses (plain_of_mem_validMethods method isMethod) _

theorem plain_of_mem_flagFindings {script : List Char} {finding : Finding}
    (member : finding ∈ flagFindings script) : Plain finding.message := by
  obtain ⟨found, isFound, rfl⟩ := List.mem_map.mp member
  obtain ⟨_, _, _, _, scanned, _⟩ :=
    Scan.exists_place_of_mem_occurrencesFrom (List.mem_filter.mp isFound).1
  exact plain_unknownFlag (plain_of_scanFlag scanned) _

theorem plain_of_mem_legacyFindings {script : List Char} {finding : Finding}
    (member : finding ∈ legacyFindings script) : Plain finding.message := by
  unfold legacyFindings at member
  split at member
  · rw [List.mem_singleton.mp member]
    decide
  · exact absurd member List.not_mem_nil

theorem plain_of_mem_unguardedFindings {script : List Char} {finding : Finding}
    (member : finding ∈ unguardedFindings script) : Plain finding.message := by
  unfold unguardedFindings at member
  split at member
  · rw [List.mem_singleton.mp member]
    decide
  · exact absurd member List.not_mem_nil

/-- The rules that find no errors. -/
theorem check_of_warning {rule : Rule} (member : rule ∈ rules)
    (isWarning : rule.severity = .warning) :
    rule.check = parenthesesFindings ∨ rule.check = flagFindings ∨ rule.check = legacyFindings ∨
      rule.check = unguardedFindings := by
  simp only [rules, List.mem_cons, List.not_mem_nil, or_false] at member
  rcases member with rfl | rfl | rfl | rfl | rfl | rfl | rfl | rfl
  · cases isWarning
  · cases isWarning
  · cases isWarning
  · cases isWarning
  · exact .inl rfl
  · exact .inr (.inl rfl)
  · exact .inr (.inr (.inl rfl))
  · exact .inr (.inr (.inr rfl))

end Lint

/-- No warning of a validator with the known rules has an opening bracket. -/
theorem Validator.plain_of_mem_warnings {limit : Int} {script : List Char} {message : String}
    (member : message ∈ ((Validator.mk limit Lint.rules).validate (some script)).warnings) :
    '[' ∉ message.toList := by
  cases blank : Text.isBlankText script with
  | true =>
    rw [validate_of_blank blank] at member
    exact absurd member List.not_mem_nil
  | false =>
    rw [validate_of_visible blank] at member
    obtain ⟨finding, isFound, rfl⟩ := List.mem_map.mp member
    obtain ⟨rule, isRule, isWarning, isFound⟩ := mem_findings_iff.mp isFound
    rcases Lint.check_of_warning isRule isWarning with
      isCheck | isCheck | isCheck | isCheck <;> rw [isCheck] at isFound
    · exact Lint.plain_of_mem_parenthesesFindings isFound
    · exact Lint.plain_of_mem_flagFindings isFound
    · exact Lint.plain_of_mem_legacyFindings isFound
    · exact Lint.plain_of_mem_unguardedFindings isFound

end ScriptGate
