import ScriptGate.Proofs.Expression.Body
import ScriptGate.Proofs.Expression.Template
import ScriptGate.Proofs.Scan.Call
import ScriptGate.Vocabulary

/-! # The calls of a wrapped script

A call begins with a full stop and ends with an opening parenthesis. What is trimmed from a script
holds neither, so the body of a script makes the calls of the script (`calls_body`). The wrapper has
no full stop before the body and a closing parenthesis before anything of its own that could end a
call after it, so no call reaches over a seam, and the wrapper itself calls none of the operations
(`calls_embed`). So the operations detected in a wrapped script are those of the script
(`detectOperations_wrap`). -/

namespace ScriptGate.Scan

variable {same : Char → Char → Bool} {name call : List Char}

theorem IsCall.exists_eq_cons (isCall : IsCall same name call) : ∃ rest, call = '.' :: rest := by
  cases isCall with
  | intro spells blank => exact ⟨_, rfl⟩

theorem IsCall.exists_eq_concat (isCall : IsCall same name call) :
    ∃ start, call = start ++ ['('] := by
  cases isCall with
  | @intro spelled gap spells blank =>
      exact ⟨'.' :: (spelled ++ gap), by simp only [List.cons_append, List.append_assoc]⟩

/-- A call has no closing parenthesis when the name has none. -/
theorem IsCall.not_mem_closer (isCall : IsCall Text.sameLetter name call) (absent : ')' ∉ name) :
    ')' ∉ call := by
  cases isCall with
  | @intro spelled gap spells blank =>
      have notSpelled := Text.not_mem_of_sameLetters (by decide) absent spells
      have notInGap : ')' ∉ gap := fun inside => absurd (blank _ inside) (by decide)
      simp only [List.mem_cons, List.mem_append, List.not_mem_nil, or_false, notSpelled, notInGap,
        false_or, not_or]
      decide

end ScriptGate.Scan

open ScriptGate.Scan (calls calls_iff calls_of_part detectOperations detectOperations_congr)

namespace ScriptGate.Expression

/-! ### The body of a script -/

/-- What is trimmed from a script takes no call away. -/
theorem calls_body (script : List Char) (name : String) :
    calls (body script) name = calls script name := by
  obtain ⟨lead, trail, split, blank, trailing⟩ := exists_split_body script
  rw [Bool.eq_iff_iff]
  constructor
  · intro found
    rw [split]
    exact calls_of_part (List.infix_append' lead (body script) trail) found
  · intro found
    obtain ⟨call, isCall, within⟩ := calls_iff.mp found
    refine calls_iff.mpr ⟨call, isCall, ?_⟩
    rw [split] at within
    have afterLead : call <:+: body script ++ trail := by
      obtain ⟨rest, rfl⟩ := isCall.exists_eq_cons
      exact Text.part_of_after (fun member => absurd (blank _ member) (by decide)) within
    obtain ⟨start, rfl⟩ := isCall.exists_eq_concat
    exact Text.part_of_before (fun member => absurd (trailing _ member) (by decide)) afterLead

/-! ### The wrapper -/

theorem dot_not_mem_wrapperHead {cap : Int} (positive : 1 ≤ cap) :
    '.' ∉ (wrapperHead cap).toList := by
  have noDigit : '.' ∉ (toString cap).toList := fun member =>
    absurd (isDigit_of_mem_toString positive _ member) (by decide)
  have before : '.' ∉ beforeCap.toList := by decide
  have after : '.' ∉ afterCap.toList := by decide
  simp only [wrapperHead_toList, List.mem_append, before, noDigit, after, or_self,
    not_false_eq_true]

/-- The closing begins with white space and a closing parenthesis, and calls no operation. -/
theorem wrapperTail_calls :
    ∃ rest, wrapperTail.toList = "\n  ".toList ++ ')' :: rest ∧
      ∀ operation ∈ operations, calls rest operation.name = false := by
  have ofParts {text : List Char} (split : text = "\n  ".toList ++ ')' :: text.drop 4)
      (silent : ∀ operation ∈ operations, calls (text.drop 4) operation.name = false) :
      ∃ rest, text = "\n  ".toList ++ ')' :: rest ∧
        ∀ operation ∈ operations, calls rest operation.name = false := ⟨_, split, silent⟩
  have toString_eq (text : String) : toString text = text := rfl
  -- As for the check of the closing, the literals are turned into lists one by one.
  unfold wrapperTail testModeTag truncatedTag originalCountTag dataTag
  repeat rw [toString_eq]
  repeat rw [String.toList_append]
  repeat rw [String.toList_ofList]
  exact ofParts (by decide +kernel) (by decide +kernel)

/-- A wrapped text makes the calls of the embedded text. -/
theorem calls_embed {cap : Int} (positive : 1 ≤ cap) {operation : Operation}
    (isOperation : operation ∈ operations) (text : List Char) :
    calls (embed cap text) operation.name = calls text operation.name := by
  rw [Bool.eq_iff_iff, embed]
  constructor
  · intro found
    obtain ⟨call, isCall, within⟩ := calls_iff.mp found
    obtain ⟨closing, tail, silent⟩ := wrapperTail_calls
    have afterHead : call <:+: (text ++ "\n  ".toList) ++ ')' :: closing := by
      obtain ⟨rest, rfl⟩ := isCall.exists_eq_cons
      rw [List.append_assoc] at within
      have found := Text.part_of_after (dot_not_mem_wrapperHead positive) within
      rwa [tail, ← List.append_assoc] at found
    have noCloser : ∀ operation ∈ operations, ')' ∉ operation.name.toList := by decide
    have absent := isCall.not_mem_closer (noCloser operation isOperation)
    rcases Text.part_of_around absent afterHead with before | after
    · refine calls_iff.mpr ⟨call, isCall, ?_⟩
      obtain ⟨start, rfl⟩ := isCall.exists_eq_concat
      have blankEnd : '(' ∉ "\n  ".toList := by decide
      exact Text.part_of_before blankEnd before
    · have called := calls_iff.mpr ⟨call, isCall, after⟩
      exact absurd (called.symm.trans (silent operation isOperation)) (by decide)
  · exact calls_of_part (List.infix_append _ text _)

/-- **The operations of a wrapped script are those of the script.** Wrapping an accepted script
neither hides a call of an operation nor adds one, among the operations that write records and among
those that need a confirmation. -/
theorem detectOperations_wrap {script : List Char} {cap : Int} (accepted : refusal? script = none)
    (positive : 1 ≤ cap) :
    ∃ wrapped, wrap script cap = .ok wrapped ∧
      detectOperations wrapped writeOperations = detectOperations script writeOperations ∧
      detectOperations wrapped confirmationOperations =
        detectOperations script confirmationOperations := by
  have same {operation : Operation} (isOperation : operation ∈ operations) :
      calls (embed cap (body script)) operation.name = calls script operation.name :=
    (calls_embed positive isOperation (body script)).trans (calls_body script operation.name)
  refine ⟨embed cap (body script), ?_, ?_, ?_⟩
  · rw [wrap, if_neg (by omega), accepted]
  · refine detectOperations_congr fun name member => ?_
    obtain ⟨operation, isWrite, rfl⟩ := List.mem_map.mp member
    exact same (List.mem_of_mem_filter isWrite)
  · refine detectOperations_congr fun name member => ?_
    obtain ⟨operation, isConfirmed, rfl⟩ := List.mem_map.mp member
    exact same (List.mem_of_mem_filter isConfirmed)

theorem detectOperations_wrap_trailing :
    refusal? " q.delete\n(); ;".toList = none ∧ (1 : Int) ≤ 5 ∧
    ∃ wrapped, wrap " q.delete\n(); ;".toList 5 = .ok wrapped ∧
      detectOperations wrapped writeOperations =
        detectOperations " q.delete\n(); ;".toList writeOperations ∧
      detectOperations wrapped confirmationOperations =
        detectOperations " q.delete\n(); ;".toList confirmationOperations :=
  have accepted : refusal? " q.delete\n(); ;".toList = none := by decide +kernel
  ⟨accepted, by decide, detectOperations_wrap accepted (by decide)⟩

end ScriptGate.Expression
