import ScriptGate.Proofs.Expression.Reading

/-! # The outline of a script

The check looks only at a part of what it reads. A comment counts like the white space that breaks
the same lines, a run of white space like one blank character, a string literal like its quote, and
the number of characters read appears in nothing but one message. `outline` keeps what counts, and
the verdict on some pieces is the verdict on their outline (`Scan.verdict_outline`). -/

namespace ScriptGate.Expression

/-- A refusal without the offset it names. -/
def Refusal.kind : Refusal → Refusal
  | .unbalanced closer _ => .unbalanced closer 0
  | refusal => refusal

/-- A gap in front of an outline, joined with the gap the outline begins with. -/
def joinGap (breaksLine : Bool) : List Piece → List Piece
  | [] => []
  | .blank char :: rest => .blank (if breaksLine then '\n' else char) :: rest
  | piece :: rest => .blank (if breaksLine then '\n' else ' ') :: piece :: rest

/-- What the check sees of some pieces: one blank character for each gap but the last, which breaks
a line when the gap does, and the pieces between the gaps without the text of literals. -/
def outline : List Piece → List Piece
  | [] => []
  | .blank char :: rest => joinGap (char = '\n') (outline rest)
  | .lineComment _ :: rest => joinGap false (outline rest)
  | .blockComment text :: rest => joinGap (text.contains '\n') (outline rest)
  | .openComment _ :: rest => .openComment [] :: outline rest
  | .string quote _ :: rest => .string quote [] :: outline rest
  | .openString quote _ :: rest => .openString quote [] :: outline rest
  | .code char :: rest => .code char :: outline rest

theorem leadingWord_joinGap (breaksLine : Bool) (tokens : List Piece) :
    leadingWord (joinGap breaksLine tokens) = [] := by
  cases tokens with
  | nil => rfl
  | cons piece rest => cases piece <;> rfl

theorem leadingWord_outline (tokens : List Piece) :
    leadingWord (outline tokens) = leadingWord tokens := by
  induction tokens with
  | nil => rfl
  | cons piece rest ih =>
      cases piece with
      | blank char => exact leadingWord_joinGap _ _
      | lineComment text => exact leadingWord_joinGap _ _
      | blockComment text => exact leadingWord_joinGap _ _
      | openComment text => rfl
      | string quote text => rfl
      | openString quote text => rfl
      | code char => simp only [outline, leadingWord, ih]

/-- A gap after a gap is one gap. -/
theorem joinGap_joinGap (first second : Bool) (tokens : List Piece) :
    joinGap first (joinGap second tokens) = joinGap (first || second) tokens := by
  cases tokens with
  | nil => rfl
  | cons piece rest => cases piece <;> cases first <;> cases second <;> rfl

theorem outline_append_congr {first second other : List Piece}
    (same : outline second = outline other) :
    outline (first ++ second) = outline (first ++ other) := by
  induction first with
  | nil => exact same
  | cons piece tail ih =>
      rw [List.cons_append, List.cons_append]
      cases piece <;> simp only [outline, ih]

namespace Scan

/-- Why some pieces do not complete an expression, without the offset. -/
def verdict (scan : Scan) (tokens : List Piece) : Option Refusal :=
  (scan.refusal? tokens).map Refusal.kind

theorem verdict_eq_none_iff {scan : Scan} {tokens : List Piece} :
    scan.verdict tokens = none ↔ scan.refusal? tokens = none := Option.map_eq_none_iff

/-- What is known at another offset. -/
def movedTo (scan : Scan) (offset : Nat) : Scan := { scan with offset := offset }

/-- Two answers to a piece that differ in offsets at most. -/
inductive SameStep : Except Refusal Scan → Except Refusal Scan → Prop where
  | ok (next : Scan) (offset : Nat) : SameStep (.ok next) (.ok (next.movedTo offset))
  | error {refusal other : Refusal} (same : refusal.kind = other.kind) :
      SameStep (.error refusal) (.error other)

theorem SameStep.refl (answer : Except Refusal Scan) : SameStep answer answer := by
  cases answer with
  | ok next => exact .ok next next.offset
  | error refusal => exact .error rfl

theorem readCode_movedTo (scan : Scan) (offset : Nat) (char : Char) :
    SameStep (scan.readCode char) ((scan.movedTo offset).readCode char) := by
  unfold readCode
  cases closerOf? char with
  | some closer => exact .ok _ (offset + 1)
  | none =>
      cases isCloser char with
      | false =>
          by_cases separates : (decide (char = ';') && scan.due.isEmpty) = true
          · simp only [movedTo, separates, Bool.false_eq_true, ↓reduceIte]
            exact .error rfl
          · simp only [movedTo, separates, Bool.false_eq_true, ↓reduceIte]
            exact .ok _ (offset + 1)
      | true =>
          rcases due : scan.due with _ | ⟨first, outer⟩
          · simp only [movedTo, due, ↓reduceIte]
            exact .error rfl
          · by_cases same : first = char
            · simp only [movedTo, due, same, ↓reduceIte]
              exact .ok _ (offset + 1)
            · simp only [movedTo, due, same, ↓reduceIte]
              exact .error rfl

/-- The offset plays no part in a step, but for the one that a refusal names. -/
theorem read_movedTo (scan : Scan) (offset : Nat) (piece : Piece) (rest : List Piece) :
    SameStep (scan.read piece rest) ((scan.movedTo offset).read piece rest) := by
  have sameLine (first : Char) (line : List Piece) :
      (scan.movedTo offset).lineRefusal? first line = scan.lineRefusal? first line := rfl
  cases piece with
  | blank char => exact .ok _ _
  | lineComment text => exact .ok _ _
  | blockComment text => exact .ok _ _
  | openComment text => exact .error rfl
  | openString quote text =>
      simp only [read, sameLine]
      exact .error rfl
  | string quote text =>
      simp only [read, sameLine]
      cases scan.lineRefusal? quote (.string quote text :: rest) with
      | none => exact .ok _ _
      | some refusal => exact .error rfl
  | code char =>
      simp only [read, sameLine]
      cases scan.lineRefusal? char (.code char :: rest) with
      | none => exact scan.readCode_movedTo offset char
      | some refusal => exact .error rfl

/-- Verdicts go step by step. -/
theorem verdict_cons_eq {scan other : Scan} {piece next : Piece} {rest following : List Piece}
    (step : SameStep (scan.read piece rest) (other.read next following))
    (later : ∀ (reached : Scan) offset,
      (reached.movedTo offset).verdict following = reached.verdict rest) :
    other.verdict (next :: following) = scan.verdict (piece :: rest) := by
  generalize here : scan.read piece rest = answer at step
  generalize there : other.read next following = otherAnswer at step
  cases step with
  | ok reached offset =>
      rw [verdict, verdict, refusal?_cons_of_ok here, refusal?_cons_of_ok there]
      exact later reached offset
  | error same =>
      rw [verdict, verdict, refusal?_cons_of_error here, refusal?_cons_of_error there]
      exact congrArg some same.symm

/-- The verdict does not depend on the offset. -/
theorem verdict_movedTo (scan : Scan) (offset : Nat) (tokens : List Piece) :
    (scan.movedTo offset).verdict tokens = scan.verdict tokens := by
  induction tokens generalizing scan offset with
  | nil => rfl
  | cons piece rest ih => exact verdict_cons_eq (scan.read_movedTo offset piece rest) ih

/-- What is known after a gap, up to the offset. -/
def afterGap (scan : Scan) (breaksLine : Bool) : Scan :=
  { scan with lineStart := scan.lineStart || (scan.due.isEmpty && breaksLine) }

/-- White space and comments only tell whether a line breaks. -/
theorem verdict_gap (scan : Scan) (piece : Piece) (unmarked : piece.mark? = none)
    (closed : piece.IsClosed) (rest : List Piece) :
    scan.verdict (piece :: rest) = (scan.afterGap piece.breaksLine).verdict rest := by
  have step : scan.read piece rest = .ok (scan.skip piece piece.breaksLine) := by
    cases piece with
    | openComment text => exact closed.elim
    | blank _ | lineComment _ | blockComment _ => rfl
    | string _ _ | openString _ _ | code _ => cases unmarked
  rw [verdict, refusal?_cons_of_ok step]
  exact (scan.afterGap piece.breaksLine).verdict_movedTo _ rest

theorem afterGap_afterGap (scan : Scan) (first second : Bool) :
    (scan.afterGap first).afterGap second = scan.afterGap (first || second) := by
  simp only [afterGap, Bool.and_or_distrib_left, Bool.or_assoc]

theorem verdict_blank (scan : Scan) (breaksLine : Bool) (char : Char) (rest : List Piece) :
    scan.verdict (.blank (if breaksLine then '\n' else char) :: rest) =
      (scan.afterGap (breaksLine || char = '\n')).verdict rest := by
  rw [scan.verdict_gap (.blank _) rfl trivial]
  cases breaksLine <;> rfl

theorem verdict_joinGap (scan : Scan) (breaksLine : Bool) (tokens : List Piece) :
    scan.verdict (joinGap breaksLine tokens) = (scan.afterGap breaksLine).verdict tokens := by
  have apart (piece : Piece) (rest : List Piece) :
      scan.verdict (.blank (if breaksLine then '\n' else ' ') :: piece :: rest) =
        (scan.afterGap breaksLine).verdict (piece :: rest) := by
    rw [verdict_blank, show decide (' ' = '\n') = false from rfl, Bool.or_false]
  cases tokens with
  | nil => rfl
  | cons piece rest =>
      cases piece with
      | blank char =>
          rw [joinGap, verdict_blank, verdict_gap _ (.blank char) rfl trivial, afterGap_afterGap]
          rfl
      | lineComment _ | blockComment _ | openComment _ | string _ _ | openString _ _ | code _ =>
          exact apart _ rest

/-- **The check sees only the outline.** -/
theorem verdict_outline (scan : Scan) (tokens : List Piece) :
    scan.verdict (outline tokens) = scan.verdict tokens := by
  induction tokens generalizing scan with
  | nil => rfl
  | cons piece rest ih =>
      have gap (unmarked : piece.mark? = none) (closed : piece.IsClosed) :
          scan.verdict (joinGap piece.breaksLine (outline rest)) =
            scan.verdict (piece :: rest) := by
        rw [verdict_joinGap, ih, verdict_gap scan piece unmarked closed]
      have later (reached : Scan) (offset : Nat) :
          (reached.movedTo offset).verdict (outline rest) = reached.verdict rest := by
        rw [verdict_movedTo, ih]
      cases piece with
      | blank char => exact gap rfl trivial
      | lineComment text => exact gap rfl trivial
      | blockComment text => exact gap rfl trivial
      | openComment text => rfl
      | openString quote text => rfl
      | string quote text =>
          refine verdict_cons_eq ?_ later
          have sameLine : scan.lineRefusal? quote (.string quote [] :: outline rest) =
              scan.lineRefusal? quote (.string quote text :: rest) := rfl
          simp only [read, sameLine]
          cases scan.lineRefusal? quote (.string quote text :: rest) with
          | none => exact .ok _ _
          | some refusal => exact .error rfl
      | code char =>
          refine verdict_cons_eq ?_ later
          rw [read_congr scan (.code char) (leadingWord_outline rest)]
          exact .refl _

end Scan
end ScriptGate.Expression
