import ScriptGate.Expression.Wrapper
import ScriptGate.Proofs.Expression.Reading

/-! # The text of the wrapper

What the check finds in the wrapper before and after the embedded script: the opening leaves three
brackets open (`opening_reads`), and the closing closes them (`closing_reads`), whatever stands
between the two. -/

namespace ScriptGate.Expression

instance : DecidablePred Piece.IsClosed
  | .openComment _ => inferInstanceAs (Decidable False)
  | .openString _ _ => inferInstanceAs (Decidable False)
  | .blank _ => inferInstanceAs (Decidable True)
  | .lineComment _ => inferInstanceAs (Decidable True)
  | .blockComment _ => inferInstanceAs (Decidable True)
  | .string _ _ => inferInstanceAs (Decidable True)
  | .code _ => inferInstanceAs (Decidable True)

/-- The closing brackets that are due inside the wrapper. -/
def wrapperDue : List Char := [')', '\x7d', ')']

/-! ### Plain texts -/

theorem isClosed_plainPiece (char : Char) : (plainPiece char).IsClosed := by
  unfold plainPiece
  split <;> trivial

theorem textOf_map_plainPiece (text : List Char) : textOf (text.map plainPiece) = text := by
  induction text with
  | nil => rfl
  | cons char text ih =>
      have here : (plainPiece char).text = [char] := by
        unfold plainPiece
        split <;> rfl
      rw [List.map_cons, textOf_cons, ih, here]
      rfl

theorem codeOf_map_plainPiece (text : List Char) :
    codeOf (text.map plainPiece) = text.filter (!Text.isBlank ·) := by
  induction text with
  | nil => rfl
  | cons char text ih =>
      rw [List.map_cons, codeOf_cons, ih, plainPiece]
      by_cases blank : Text.isBlank char = true
      · rw [if_pos blank, List.filter_cons_of_neg (by rw [blank]; decide)]
        rfl
      · rw [if_neg blank, List.filter_cons_of_pos (by rw [Bool.of_not_eq_true blank]; rfl)]
        rfl

/-- Blanks are no brackets. -/
theorem dueAfter?_filter_blank (due text : List Char) :
    dueAfter? due (text.filter (!Text.isBlank ·)) = dueAfter? due text := by
  induction text generalizing due with
  | nil => rfl
  | cons char text ih =>
      by_cases blank : Text.isBlank char = true
      · obtain ⟨noOpener, noCloser⟩ := noBracket_of_class (by decide) blank
        rw [List.filter_cons_of_neg (by rw [blank]; decide), dueAfter?,
          dueAfterChar?_other noOpener noCloser, Option.bind_some, ih]
      · rw [List.filter_cons_of_pos (by rw [Bool.of_not_eq_true blank]; rfl), dueAfter?, dueAfter?]
        exact congrArg _ (funext fun next => ih next)

theorem dueAfter?_codeOf_plain (due text : List Char) :
    dueAfter? due (codeOf (text.map plainPiece)) = dueAfter? due text := by
  rw [codeOf_map_plainPiece, dueAfter?_filter_blank]

/-! ### Digits -/

theorem isPlain_of_isDigit {char : Char} (digit : char.isDigit = true) : isPlain char = true := by
  have notQuote : Text.isQuote char = false := by
    by_contra quoted
    rcases Text.isQuote_iff.mp (Bool.of_not_eq_false quoted) with rfl | rfl | rfl <;>
      exact absurd digit (by decide)
  have notSlash : char ≠ '/' := by
    rintro rfl
    exact absurd digit (by decide)
  simp only [isPlain, notQuote, Bool.not_false, Bool.true_and, decide_eq_true_eq]
  exact notSlash

theorem nested_of_isDigit {text : List Char} (digits : ∀ char ∈ text, char.isDigit = true) :
    Nested text := by
  induction text with
  | nil => exact .nil
  | cons char text ih =>
      obtain ⟨digit, others⟩ := List.forall_mem_cons.mp digits
      obtain ⟨noOpener, noCloser⟩ := noBracket_of_class (by decide) digit
      exact .other noOpener noCloser (ih others)

/-- A positive cap is written in digits. -/
theorem isDigit_of_mem_toString {cap : Int} (positive : 1 ≤ cap) :
    ∀ char ∈ (toString cap).toList, char.isDigit = true := by
  intro char member
  rw [Int.toString_eq_repr, Int.repr_eq_if, if_pos (by omega), Nat.toList_repr] at member
  exact Nat.isDigit_of_mem_toDigits (by decide) (by decide) member

/-! ### The opening -/

/-- The wrapper before its cap. -/
def beforeCap : String := "(function() \x7b\n  var __testModeMaxResults = "

/-- The wrapper between its cap and the embedded script. -/
def afterCap : String := ";\n  var result = (\n"

theorem wrapperHead_toList (cap : Int) :
    (wrapperHead cap).toList = beforeCap.toList ++ ((toString cap).toList ++ afterCap.toList) := by
  have split : wrapperHead cap = beforeCap ++ toString cap ++ afterCap := rfl
  rw [split, String.toList_append, String.toList_append, List.append_assoc]

theorem isPlain_of_mem_wrapperHead {cap : Int} (positive : 1 ≤ cap) :
    ∀ char ∈ (wrapperHead cap).toList, isPlain char = true := by
  intro char member
  rw [wrapperHead_toList, List.mem_append, List.mem_append] at member
  rcases member with before | digit | after
  · have plain : beforeCap.toList.all isPlain = true := by decide
    exact List.all_eq_true.mp plain char before
  · exact isPlain_of_isDigit (isDigit_of_mem_toString positive char digit)
  · have plain : afterCap.toList.all isPlain = true := by decide
    exact List.all_eq_true.mp plain char after

/-- The opening is read outside brackets up to its first character, and inside them from there. -/
theorem opening_reads {cap : Int} (positive : 1 ≤ cap) (rest : List Piece) :
    ∃ before, Scan.initial.Reads ((wrapperHead cap).toList.map plainPiece) rest before ∧
      before.due = wrapperDue ∧ before.lineStart = false := by
  have first : beforeCap.toList = '(' :: beforeCap.toList.tail := by decide
  let tail := beforeCap.toList.tail ++ ((toString cap).toList ++ afterCap.toList)
  have text : (wrapperHead cap).toList = '(' :: tail := by
    rw [wrapperHead_toList, first]
    rfl
  have due : dueAfter? [] tail = some [')', '\x7d'] := by
    have before : dueAfter? [] beforeCap.toList.tail = some ['\x7d'] := by decide
    have after : dueAfter? ['\x7d'] afterCap.toList = some [')', '\x7d'] := by decide
    rw [dueAfter?_append_of_eq_some before, dueAfter?_append_of_eq_some
      ((nested_of_isDigit (isDigit_of_mem_toString positive)).dueAfter? _), after]
  have step : Scan.initial.read (.code '(') (tail.map plainPiece ++ rest) =
      .ok (Scan.initial.after (.code '(') [')']) := by
    refine Scan.read_eq_ok_iff.mpr ⟨trivial, ?_, nofun, [')'], rfl, rfl⟩
    rintro _ ⟨⟩ _
    refine ⟨?_, nofun⟩
    have noWord : leadingWord (.code '(' :: (tail.map plainPiece ++ rest)) = [] := by
      rw [leadingWord, if_neg (by decide)]
    rw [noWord]
    decide
  obtain ⟨before, run, beforeDue, inLine⟩ :=
    Scan.reads_within (Scan.initial.after (.code '(') [')']) rest
      (List.cons_ne_nil ')' []) (List.nil_append _).symm rfl
      (by simp only [List.forall_mem_map, isClosed_plainPiece, implies_true])
      ((dueAfter?_codeOf_plain [] tail).trans due)
  exact ⟨before, text ▸ .cons step run, beforeDue, inLine⟩

/-! ### The closing -/

/-- The closing up to its semicolon, as the check reads it: its pieces end, the last three of them
call the wrapper, and those before the call close the two inner brackets. -/
structure IsClosing (closing : List Char) : Prop where
  call : pieces closing =
    (pieces closing).take ((pieces closing).length - 3) ++ [.code ')', .code '(', .code ')']
  closed : ∀ piece ∈ pieces closing, piece.IsClosed
  due : dueAfter? [')', '\x7d']
    (codeOf ((pieces closing).take ((pieces closing).length - 3))) = some []

theorem wrapperTail_toList :
    ∃ closing, wrapperTail.toList = '\n' :: (closing ++ [';']) ∧ IsClosing closing := by
  have ofParts {text : List Char} (split : text = '\n' :: (text.tail.dropLast ++ [';']))
      (closing : IsClosing text.tail.dropLast) :
      ∃ closing, text = '\n' :: (closing ++ [';']) ∧ IsClosing closing :=
    ⟨_, split, closing⟩
  have toString_eq (text : String) : toString text = text := rfl
  -- The literals are turned into lists one by one; evaluating the whole string takes far longer.
  unfold wrapperTail testModeTag truncatedTag originalCountTag dataTag
  repeat rw [toString_eq]
  repeat rw [String.toList_append]
  repeat rw [String.toList_ofList]
  exact ofParts (by decide +kernel) ⟨by decide +kernel, by decide +kernel, by decide +kernel⟩

/-- The closing completes what the opening began, when a line of it goes on. -/
theorem closing_reads {closing : List Char} (isClosing : IsClosing closing) {scan : Scan}
    (due : scan.due = wrapperDue) (inLine : scan.lineStart = false) :
    ∃ final, scan.Reads (pieces closing) [] final ∧ final.due = [] := by
  have within : scan.due = [')', '\x7d'] ++ [')'] := due
  have closedBefore : ∀ piece ∈ (pieces closing).take ((pieces closing).length - 3),
      piece.IsClosed := fun piece member =>
    isClosing.closed piece (List.mem_of_mem_take member)
  obtain ⟨outermost, run, outermostDue, outermostInLine⟩ :=
    Scan.reads_within scan [.code ')', .code '(', .code ')'] (List.cons_ne_nil ')' []) within
      inLine closedBefore isClosing.due
  rw [List.nil_append] at outermostDue
  have closes : outermost.read (.code ')') [.code '(', .code ')'] =
      .ok (outermost.after (.code ')') []) :=
    outermost.read_inLine _ outermostInLine trivial nofun (by rw [outermostDue]; rfl)
  let called := outermost.after (.code ')') []
  have opens : called.read (.code '(') [.code ')'] = .ok (called.after (.code '(') [')']) :=
    called.read_inLine _ rfl trivial nofun rfl
  let calling := called.after (.code '(') [')']
  have closesAgain : calling.read (.code ')') [] = .ok (calling.after (.code ')') []) :=
    calling.read_inLine _ rfl trivial nofun rfl
  rw [isClosing.call]
  exact ⟨_, run.complete (.cons closes (.cons opens (.cons closesAgain .nil))), rfl⟩

end ScriptGate.Expression
