import ScriptGate.Proofs.Expression.Acceptance
import ScriptGate.Proofs.Expression.Body

/-! # The offset of a stray closing bracket

A script is refused for a closing bracket when this is the first one in its code that closes no
bracket, and the refusal names an offset. The check counts from the start of the body, so the offset
points to that bracket in the script when no white space stands before the body, and misses it by
the white space otherwise (`stray_offset_iff`). -/

namespace ScriptGate.Expression

/-- The first closing bracket in the code of a script that closes no bracket, with its offset: it
stands outside comments and string literals, the code before it leaves no bracket open or an
innermost one of another kind, and every closing bracket of that code closes a bracket. -/
inductive FirstStray (script : List Char) : (offset : Nat) → (closer : Char) → Prop where
  | intro {before after : List Piece} {closer : Char}
      (split : pieces script = before ++ .code closer :: after) (closes : isCloser closer = true)
      (stray : ¬ Awaits (codeOf before) closer)
      (first : ∀ earlier other later, before = earlier ++ .code other :: later →
        isCloser other = true → Awaits (codeOf earlier) other) :
      FirstStray script (textOf before).length closer

namespace FirstStray

variable {script : List Char} {offset other : Nat} {closer otherCloser : Char}

theorem of_dueAfter? {before after : List Piece} {due : List Char}
    (split : pieces script = before ++ .code closer :: after) (closes : isCloser closer = true)
    (read : dueAfter? [] (codeOf before) = some due) (notDue : due.head? ≠ some closer) :
    FirstStray script (textOf before).length closer := by
  refine .intro split closes ((awaits_iff_head? read closer).not.mpr notDue) ?_
  rintro earlier other later rfl closesOther
  have code : codeOf (earlier ++ .code other :: later) = codeOf earlier ++ other :: codeOf later :=
    codeOf_append _ _
  rw [code] at read
  exact awaits_of_dueAfter? read closesOther

theorem getElem?_eq (isFirst : FirstStray script offset closer) :
    script[offset]? = some closer := by
  cases isFirst with
  | @intro before after _ split _ _ _ =>
      have text : script = textOf before ++ closer :: textOf after := by
        rw [← textOf_pieces script, split, textOf_append]
        rfl
      rw [text, List.getElem?_append_right (Nat.le_refl _), Nat.sub_self]
      rfl

/-- A script has one first stray closing bracket at most. -/
theorem offset_unique (isFirst : FirstStray script offset closer)
    (otherIsFirst : FirstStray script other otherCloser) : offset = other := by
  obtain ⟨split, closes, stray, first⟩ := isFirst
  obtain ⟨otherSplit, otherCloses, otherStray, otherFirst⟩ := otherIsFirst
  rcases List.append_eq_append_iff.mp (split.symm.trans otherSplit) with
    ⟨between, longer, rest⟩ | ⟨between, longer, rest⟩
  · cases between with
    | nil => rw [longer, List.append_nil]
    | cons piece between =>
        obtain ⟨rfl, _⟩ := List.cons.inj rest
        exact (stray (otherFirst _ _ between longer closes)).elim
  · cases between with
    | nil => rw [longer, List.append_nil]
    | cons piece between =>
        obtain ⟨rfl, _⟩ := List.cons.inj rest
        exact (otherStray (first _ _ between longer otherCloses)).elim

end FirstStray

namespace Scan

/-- A run counts the characters it reads. -/
theorem Reads.offset_eq {scan final : Scan} {pieces rest : List Piece}
    (run : scan.Reads pieces rest final) : final.offset = scan.offset + (textOf pieces).length := by
  induction run with
  | nil => rfl
  | cons step _ ih =>
      obtain ⟨_, _, _, due, _, rfl⟩ := read_eq_ok_iff.mp step
      rw [ih, textOf_cons, List.length_append, after, Nat.add_assoc]

variable {scan : Scan} {piece : Piece} {rest : List Piece} {closer : Char} {offset : Nat}

theorem lineRefusal?_ne_unbalanced (first : Char) (line : List Piece) :
    scan.lineRefusal? first line ≠ some (.unbalanced closer offset) := by
  intro refused
  unfold lineRefusal? at refused
  dsimp only at refused
  repeat' split at refused
  all_goals cases refused

theorem readCode_unbalanced {char : Char}
    (stops : scan.readCode char = .error (.unbalanced closer offset)) :
    char = closer ∧ isCloser char = true ∧ scan.due.head? ≠ some char ∧ offset = scan.offset := by
  unfold readCode at stops
  split at stops
  · cases stops
  · split at stops
    next closes =>
      split at stops
      next empty =>
        cases stops
        exact ⟨rfl, closes, by rw [empty]; nofun, rfl⟩
      next first outer due =>
        split at stops
        · cases stops
        next other =>
          cases stops
          exact ⟨rfl, closes, by rw [due]; exact fun same => other (Option.some.inj same), rfl⟩
    next =>
      split at stops <;> cases stops

/-- A piece is refused as an unbalanced bracket when it is a closing bracket that is not due. -/
theorem read_unbalanced (stops : scan.read piece rest = .error (.unbalanced closer offset)) :
    piece = .code closer ∧ isCloser closer = true ∧ scan.due.head? ≠ some closer ∧
      offset = scan.offset := by
  cases piece with
  | blank _ | lineComment _ | blockComment _ | openComment _ => cases stops
  | openString quote text =>
      cases refused : scan.lineRefusal? quote (.openString quote text :: rest) with
      | none =>
          rw [read, refused] at stops
          cases stops
      | some refusal =>
          rw [read, refused] at stops
          cases stops
          exact (lineRefusal?_ne_unbalanced _ _ refused).elim
  | string quote text =>
      cases refused : scan.lineRefusal? quote (.string quote text :: rest) with
      | none =>
          rw [read, refused] at stops
          cases stops
      | some refusal =>
          rw [read, refused] at stops
          cases stops
          exact (lineRefusal?_ne_unbalanced _ _ refused).elim
  | code char =>
      cases refused : scan.lineRefusal? char (.code char :: rest) with
      | none =>
          rw [read, refused] at stops
          obtain ⟨rfl, found⟩ := readCode_unbalanced stops
          exact ⟨rfl, found⟩
      | some refusal =>
          rw [read, refused] at stops
          cases stops
          exact (lineRefusal?_ne_unbalanced _ _ refused).elim

end Scan

/-- What stands in the code of a body stands in the code of the script, after the white space before
the body. -/
theorem exists_pieces_of_body {script : List Char} {before after : List Piece} {char : Char}
    (split : pieces (body script) = before ++ .code char :: after) :
    ∃ others, pieces script =
      ((script.takeWhile Text.isBlank).map .blank ++ before) ++ .code char :: others := by
  obtain ⟨start, last, longer, rest, same, prolonged, _, whole⟩ := exists_pieces_eq script
  -- The last piece has no end of its own, so the code character is one of those before it.
  have inStart : ∃ others, start = before ++ .code char :: others := by
    rcases List.append_eq_append_iff.mp (split.symm.trans same) with
      ⟨between, longerStart, rest⟩ | ⟨between, longerBefore, rest⟩
    · cases between with
      | nil => cases prolonged <;> cases rest
      | cons piece between =>
          obtain ⟨rfl, _⟩ := List.cons.inj rest
          exact ⟨between, longerStart⟩
    · cases between with
      | nil => cases prolonged <;> cases rest
      | cons piece between => cases prolonged <;> cases between <;> cases rest
  obtain ⟨others, rfl⟩ := inStart
  refine ⟨others ++ longer ++ rest.map plainPiece, ?_⟩
  rw [whole]
  simp only [List.append_assoc, List.cons_append]

/-- A script is refused for its first stray closing bracket; the offset is counted from the body. -/
theorem firstStray_of_refusal? {script : List Char} {closer : Char} {offset : Nat}
    (refused : refusal? script = some (.unbalanced closer offset)) :
    FirstStray script (offset + (script.takeWhile Text.isBlank).length) closer := by
  have notEmpty : ¬ (body script).isEmpty = true := by
    intro empty
    rw [refusal?, if_pos empty] at refused
    cases refused
  rw [refusal?, if_neg notEmpty] at refused
  rcases Scan.exists_reads_of_refusal? refused with
    ⟨before, piece, after, reached, split, run, stops⟩ | atEnd
  · obtain ⟨rfl, closes, notDue, sameOffset⟩ := Scan.read_unbalanced stops
    obtain ⟨others, whole⟩ := exists_pieces_of_body split
    have read : dueAfter? [] (codeOf ((script.takeWhile Text.isBlank).map .blank ++ before)) =
        some reached.due := by
      rw [codeOf_append, codeOf_of_isGap (isGap_blanks _)]
      exact run.dueAfter?_eq
    have blankText (text : List Char) : textOf (text.map .blank) = text := by
      rw [textOf, List.flatMap_map]
      exact List.flatMap_singleton' text
    have counted : (textOf ((script.takeWhile Text.isBlank).map .blank ++ before)).length =
        offset + (script.takeWhile Text.isBlank).length := by
      have reachedOffset : reached.offset = 0 + (textOf before).length := run.offset_eq
      rw [textOf_append, blankText, List.length_append]
      omega
    exact counted ▸ FirstStray.of_dueAfter? whole closes read notDue
  · cases atEnd

/-- **The offset of a stray closing bracket.** When a script is refused for a closing bracket at an
offset, its first stray closing bracket is of that kind, and stands as many characters after the
offset as white space stands before the body. So the offset points to that bracket in the script
exactly when the script does not start with white space. -/
theorem stray_offset_iff {script : List Char} {closer : Char} {offset : Nat}
    (refused : refusal? script = some (.unbalanced closer offset)) :
    FirstStray script (offset + (script.takeWhile Text.isBlank).length) closer ∧
      script[offset + (script.takeWhile Text.isBlank).length]? = some closer ∧
      (FirstStray script offset closer ∧ script[offset]? = some closer ↔
        ∀ char ∈ script.head?, Text.isBlank char = false) := by
  have isFirst := firstStray_of_refusal? refused
  refine ⟨isFirst, isFirst.getElem?_eq, ?_⟩
  have noBlank : (script.takeWhile Text.isBlank).length = 0 ↔
      ∀ char ∈ script.head?, Text.isBlank char = false := by
    cases script with
    | nil => exact iff_of_true rfl nofun
    | cons first rest =>
        by_cases blank : Text.isBlank first = true
        · rw [List.takeWhile_cons_of_pos blank]
          refine iff_of_false nofun fun visible => ?_
          rw [visible first rfl] at blank
          cases blank
        · rw [List.takeWhile_cons_of_neg blank]
          refine iff_of_true rfl fun char isHead => ?_
          exact Option.some.inj isHead ▸ Bool.of_not_eq_true blank
  rw [← noBlank]
  constructor
  · rintro ⟨here, _⟩
    have same := here.offset_unique isFirst
    omega
  · intro none
    rw [none, Nat.add_zero] at isFirst
    exact ⟨isFirst, isFirst.getElem?_eq⟩

theorem stray_offset_iff_commented :
    refusal? "f(')') /* ] */ ]".toList = some (.unbalanced ']' 15) ∧
    FirstStray "f(')') /* ] */ ]".toList 15 ']' ∧ "f(')') /* ] */ ]".toList[15]? = some ']' := by
  have refused : refusal? "f(')') /* ] */ ]".toList = some (.unbalanced ']' 15) := by
    decide +kernel
  have visible : ∀ char ∈ "f(')') /* ] */ ]".toList.head?, Text.isBlank char = false := by
    rw [show "f(')') /* ] */ ]".toList.head? = some 'f' by decide]
    rintro _ ⟨⟩
    decide
  exact ⟨refused, (stray_offset_iff refused).2.2.mpr visible⟩

/-- White space before a script shifts the offset. -/
theorem offset_misses_stray :
    refusal? " )".toList = some (.unbalanced ')' 0) ∧ " )".toList[0]? = some ' ' ∧
      ¬ FirstStray " )".toList 0 ')' := by
  refine ⟨by decide +kernel, rfl, fun isFirst => ?_⟩
  exact absurd isFirst.getElem?_eq (by decide)

end ScriptGate.Expression
